import Pih.Scheduler.SilentCalls

/-!
# Queued admissions and published requests

Between the mailbox and the request arena: every queued admission has its own
published payload, every published payload has a queued admission or a
submitter that is not done with it, and no request generation is resident
twice.
-/

namespace Pih

open List

namespace ControllerRequestArena

/-- One slot of the arena was written. -/
structure Writes (arena next : ControllerRequestArena) (index : ℕ)
    (old new : RequestSlot) : Prop where
  limits : next.limits = arena.limits
  found : arena.slots[index]? = some old
  slots : next.slots = arena.slots.set index new

section

variable
  {arena next : ControllerRequestArena} {index : ℕ}
  {old new : RequestSlot}

section

variable (writes : Writes arena next index old new)

include writes

theorem Writes.iff : next.slots[other]? = some slot ↔ (other = index ∧ slot = new) ∨
      (other ≠ index ∧ arena.slots[other]? = some slot) := by
  rw [writes.slots]
  exact getElem?_set_eq_some_iff writes.found

theorem Writes.self : next.slots[index]? = some new := writes.iff.mpr (.inl ⟨rfl, rfl⟩)

theorem Writes.keep (different : other ≠ index) (found : arena.slots[other]? = some slot) :
    next.slots[other]? = some slot :=
  writes.iff.mpr (.inr ⟨different, found⟩)

theorem Writes.length : next.slots.length = arena.slots.length := by rw [writes.slots, length_set]

end

theorem Writes.trans (first : Writes arena next index old new)
    (second : Writes next last index new final) :
    Writes arena last index old final where
  limits := second.limits.trans first.limits
  found := first.found
  slots := by rw [second.slots, first.slots, set_set]

/-- What a publication writes. -/
theorem PublishedRequest.writes {maximum : ℕ}
    (published : PublishedRequest arena next generation prompt maximum sampling receipt) :
    ∃ old, old.state = .free ∧ Writes arena next receipt.slotIndex old
      { state := .published
        generation := receipt.slotGeneration
        requestGeneration := generation
        promptTokens := prompt.length
        maximumNewTokens := maximum
        sampling
        payloadDigest := receipt.payloadDigest } := by
  rcases published.free with ⟨old, found, free⟩
  refine ⟨old, free, ?_, found, ?_⟩
  · rw [published.next_eq]
  · rw [published.next_eq]

theorem writes_clearSlot (found : arena.slots[index]? = some old) :
    Writes arena (arena.clearSlot index) index old
      { generation := old.generation } where
  limits := rfl
  found := found
  slots := by
    unfold clearSlot
    rw [getD_eq_getElem?_getD, found]
    rfl

theorem writes_setState (found : arena.slots[index]? = some old) (state : RequestSlotState) :
    Writes arena (arena.setState index old state) index old
      { old with state } where
  limits := rfl
  found := found
  slots := rfl

end

theorem ne_free_of_published {slot : RequestSlot}
    (published : slot.state = .published) : slot.state ≠ .free := by
  rw [published]
  decide

theorem ne_free_of_claimed {slot : RequestSlot}
    (claimed : slot.state = .claimed) : slot.state ≠ .free := by
  rw [claimed]
  decide

/-! ## The ledger of the queue -/

/-- The payload of a submitter that is not done yet. -/
structure Receives (arena : ControllerRequestArena) (receipt : ControllerRequestReceipt)
    (slot : RequestSlot) : Prop where
  found : arena.slots[receipt.slotIndex]? = some slot
  published : slot.state = .published
  generation : slot.generation = receipt.slotGeneration
  requestGeneration : slot.requestGeneration = receipt.requestGeneration
  payloadDigest : slot.payloadDigest = receipt.payloadDigest

/-- Queued admissions and published payloads agree. -/
structure QueueLedger (submitting : List ControllerRequestReceipt)
    (queue : List ControllerCommand) (arena : ControllerRequestArena) :
    Prop where
  resident : ∀ (first second : ℕ) (slot other : RequestSlot), arena.slots[first]? = some slot →
      arena.slots[second]? = some other →
      slot.state ≠ .free → other.state ≠ .free →
      slot.requestGeneration = other.requestGeneration → first = second
  distinct : (queue.map ControllerCommand.requestGeneration).Nodup
  queued : ∀ command ∈ queue, ∃ index slot, arena.Claimed command index slot ∧
      ∀ receipt ∈ submitting, receipt.slotIndex ≠ index
  places : (submitting.map ControllerRequestReceipt.slotIndex).Nodup
  received : ∀ receipt ∈ submitting, ∃ slot, arena.Receives receipt slot
  published : ∀ (index : ℕ) (slot : RequestSlot),
      arena.slots[index]? = some slot → slot.state = .published →
      (∃ receipt ∈ submitting, receipt.slotIndex = index) ∨
        ∃ command ∈ queue, command.requestGeneration = slot.requestGeneration

namespace QueueLedger

variable {next : ControllerRequestArena}

/-- The order of the submitters does not matter. -/
theorem perm (ledger : QueueLedger submitting queue arena)
    (same : others.Perm submitting) : QueueLedger others queue arena where
  resident := ledger.resident
  distinct := ledger.distinct
  queued := by
    intro command member
    rcases ledger.queued command member with ⟨index, slot, claimed, apart⟩
    exact ⟨index, slot, claimed, fun receipt listed => apart receipt (same.mem_iff.mp listed)⟩
  places := (same.map _).nodup_iff.mpr ledger.places
  received := fun receipt listed => ledger.received receipt (same.mem_iff.mp listed)
  published := by
    intro index slot found published
    rcases ledger.published index slot found published with ⟨receipt, listed, place⟩ | command
    · exact .inl ⟨receipt, same.mem_iff.mpr listed, place⟩
    · exact .inr command

/-- A submitter published its payload. -/
theorem publish (ledger : QueueLedger submitting queue arena) {maximum : ℕ}
    (published : PublishedRequest arena next generation prompt maximum sampling receipt) :
    QueueLedger (receipt :: submitting) queue next := by
  rcases published.writes with ⟨old, free, writes⟩
  have place : ∀ (index : ℕ) (slot : RequestSlot), arena.slots[index]? = some slot →
      slot.state ≠ .free → index ≠ receipt.slotIndex := by
    rintro index slot found used rfl
    cases writes.found.symm.trans found
    exact used free
  have new : ∀ (index : ℕ) (slot : RequestSlot), arena.slots[index]? = some slot →
      slot.state ≠ .free → slot.requestGeneration ≠ generation :=
    fun index slot found used => published.fresh slot (mem_of_getElem? found) used
  constructor
  · intro first second slot other firstFound secondFound used otherUsed same
    rcases writes.iff.mp firstFound with ⟨rfl, rfl⟩ | ⟨-, firstOld⟩
    · rcases writes.iff.mp secondFound with ⟨rfl, rfl⟩ | ⟨-, secondOld⟩
      · rfl
      · exact (new second other secondOld otherUsed same.symm).elim
    rcases writes.iff.mp secondFound with ⟨rfl, rfl⟩ | ⟨-, secondOld⟩
    · exact (new first slot firstOld used same).elim
    exact ledger.resident first second slot other firstOld secondOld used otherUsed same
  · exact ledger.distinct
  · intro command member
    rcases ledger.queued command member with ⟨index, slot, claimed, apart⟩
    have used : slot.state ≠ .free := ne_free_of_published claimed.published
    have different := place index slot claimed.found used
    refine ⟨index, slot,
      { claimed with found := writes.keep different claimed.found }, ?_⟩
    intro other listed
    rcases mem_cons.mp listed with rfl | later
    · exact different.symm
    · exact apart other later
  · rw [map_cons, nodup_cons]
    refine ⟨?_, ledger.places⟩
    rintro member
    rcases mem_map.mp member with ⟨other, listed, same⟩
    rcases ledger.received other listed with ⟨slot, receives⟩
    exact place _ slot receives.found (ne_free_of_published receives.published) same
  · intro other listed
    rcases mem_cons.mp listed with rfl | later
    · exact ⟨_, writes.self, rfl, rfl, published.requestGeneration_eq.symm, rfl⟩
    rcases ledger.received other later with ⟨slot, receives⟩
    have different := place _ slot receives.found (ne_free_of_published receives.published)
    exact ⟨slot,
      { receives with found := writes.keep different receives.found }⟩
  · intro index slot found isPublished
    rcases writes.iff.mp found with ⟨rfl, -⟩ | ⟨-, old⟩
    · exact .inl ⟨receipt, .head _, rfl⟩
    rcases ledger.published index slot old isPublished with ⟨other, listed, same⟩ | queued
    · exact .inl ⟨other, .tail _ listed, same⟩
    · exact .inr queued

/-- The submitter queued its command. -/
theorem enqueue (ledger : QueueLedger (receipt :: submitting) queue arena)
    (generation : command.requestGeneration = receipt.requestGeneration)
    (digest : command.payloadDigest = receipt.payloadDigest) :
    QueueLedger submitting (queue ++ [command]) arena := by
  rcases ledger.received receipt (.head _) with ⟨own, receives⟩
  have places := ledger.places
  rw [map_cons, nodup_cons] at places
  have claimed : arena.Claimed command receipt.slotIndex own := ⟨receives.found, receives.published,
      receives.requestGeneration.trans generation.symm,
      receives.payloadDigest.trans digest.symm⟩
  constructor
  · exact ledger.resident
  · rw [map_append, map_singleton]
    refine ledger.distinct.append (nodup_singleton _) ?_
    rw [disjoint_singleton]
    intro member
    rcases mem_map.mp member with ⟨other, listed, same⟩
    rcases ledger.queued other listed with ⟨index, slot, waits, apart⟩
    apply apart receipt (.head _)
    apply ledger.resident _ _ own slot receives.found waits.found
    · exact ne_free_of_published receives.published
    · exact ne_free_of_published waits.published
    · rw [claimed.requestGeneration, waits.requestGeneration, same]
  · intro other listed
    rcases mem_append.mp listed with earlier | last
    · rcases ledger.queued other earlier with ⟨index, slot, waits, apart⟩
      exact ⟨index, slot, waits, fun receipt member => apart receipt (.tail _ member)⟩
    cases mem_singleton.mp last
    refine ⟨_, own, claimed, ?_⟩
    intro other member same
    exact places.1 (mem_map.mpr ⟨other, member, same⟩)
  · exact places.2
  · exact fun other member => ledger.received other (.tail _ member)
  · intro index slot found published
    rcases ledger.published index slot found published with
      ⟨other, listed, same⟩ | ⟨other, listed, same⟩
    · rcases mem_cons.mp listed with rfl | later
      · right
        subst same
        cases receives.found.symm.trans found
        exact ⟨command, mem_append_right _ (.head _), claimed.requestGeneration.symm⟩
      · exact .inl ⟨other, later, same⟩
    · exact .inr ⟨other, mem_append_left _ listed, same⟩

/--
A payload went away or was claimed, together with the submitter or the
command that needed it.
-/
theorem write (ledger : QueueLedger submitting queue arena)
    (writes : Writes arena next index old new)
    (resident : new.state ≠ .free →
      old.state ≠ .free ∧ new.requestGeneration = old.requestGeneration)
    (unpublished : new.state ≠ .published) (fewer : others.Sublist submitting)
    (shorter : rest.Sublist queue)
    (unused : ∀ receipt ∈ others, receipt.slotIndex ≠ index)
    (unqueued : ∀ command ∈ rest, ∀ slot, ¬ arena.Claimed command index slot)
    (left : ∀ receipt ∈ submitting, receipt ∈ others ∨ receipt.slotIndex = index)
    (taken : ∀ command ∈ queue, command ∈ rest ∨ ∃ slot, arena.Claimed command index slot) :
    QueueLedger others rest next where
  resident := by
    intro first second slot other firstFound secondFound used otherUsed same
    rcases writes.iff.mp firstFound with ⟨rfl, rfl⟩ | ⟨-, firstOld⟩
    · rcases writes.iff.mp secondFound with ⟨rfl, rfl⟩ | ⟨-, secondOld⟩
      · rfl
      rcases resident used with ⟨oldUsed, generation⟩
      exact ledger.resident _ _ old other writes.found secondOld oldUsed
        otherUsed (generation.symm.trans same)
    rcases writes.iff.mp secondFound with ⟨rfl, rfl⟩ | ⟨-, secondOld⟩
    · rcases resident otherUsed with ⟨oldUsed, generation⟩
      exact ledger.resident _ _ slot old firstOld writes.found used oldUsed (same.trans generation)
    exact ledger.resident first second slot other firstOld secondOld used otherUsed same
  distinct := (shorter.map _).nodup ledger.distinct
  queued := by
    intro command member
    rcases ledger.queued command (shorter.subset member) with ⟨place, slot, claimed, apart⟩
    have different : place ≠ index := by
      rintro rfl
      exact unqueued command member slot claimed
    exact ⟨place, slot,
      { claimed with found := writes.keep different claimed.found },
      fun receipt listed => apart receipt (fewer.subset listed)⟩
  places := (fewer.map _).nodup ledger.places
  received := by
    intro receipt listed
    rcases ledger.received receipt (fewer.subset listed) with ⟨slot, receives⟩
    exact ⟨slot,
      { receives with found := writes.keep (unused receipt listed) receives.found }⟩
  published := by
    intro place slot found published
    rcases writes.iff.mp found with ⟨-, rfl⟩ | ⟨different, old⟩
    · exact (unpublished published).elim
    rcases ledger.published place slot old published with
      ⟨receipt, listed, same⟩ | ⟨command, listed, same⟩
    · rcases left receipt listed with stays | gone
      · exact .inl ⟨receipt, stays, same⟩
      · exact (different (same.symm.trans gone)).elim
    rcases taken command listed with stays | ⟨other, claimed⟩
    · exact .inr ⟨command, stays, same⟩
    refine (different ?_).elim
    apply ledger.resident _ _ slot other old claimed.found
    · simp [published]
    · exact ne_free_of_published claimed.published
    · exact same.symm.trans claimed.requestGeneration.symm

/-- The submitter took its payload back. -/
theorem rollback (ledger : QueueLedger (receipt :: submitting) queue arena) :
    QueueLedger submitting queue (arena.clearSlot receipt.slotIndex) := by
  rcases ledger.received receipt (.head _) with ⟨_, receives⟩
  have places := ledger.places
  rw [map_cons, nodup_cons] at places
  refine ledger.write (writes_clearSlot receives.found) ?_ ?_
    (sublist_cons_self _ _) (.refl _) ?_ ?_ ?_ ?_
  · exact fun used => (used rfl).elim
  · exact nofun
  · exact fun other listed same => places.1 (mem_map.mpr ⟨other, listed, same⟩)
  · intro command listed slot claimed
    rcases ledger.queued command listed with ⟨_, other, waits, apart⟩
    apply apart receipt (.head _)
    apply ledger.resident _ _ slot other claimed.found waits.found
    · exact ne_free_of_published claimed.published
    · exact ne_free_of_published waits.published
    · exact claimed.requestGeneration.trans waits.requestGeneration.symm
  · intro other listed
    rcases mem_cons.mp listed with rfl | later
    · exact .inr rfl
    · exact .inl later
  · exact fun command listed => .inl listed

/-- The oldest admission was taken and its payload is no longer published. -/
theorem take (ledger : QueueLedger submitting (command :: queue) arena)
    (claimed : arena.Claimed command index old)
    (writes : Writes arena next index old new)
    (resident : new.state ≠ .free → new.requestGeneration = old.requestGeneration)
    (unpublished : new.state ≠ .published) :
    QueueLedger submitting queue next := by
  have used : old.state ≠ .free := ne_free_of_published claimed.published
  have distinct := ledger.distinct
  rw [map_cons, nodup_cons] at distinct
  rcases ledger.queued command (.head _) with ⟨place, slot, waits, apart⟩
  have same : place = index := ledger.resident place index slot old waits.found claimed.found
      (ne_free_of_published waits.published) used
      (waits.requestGeneration.trans claimed.requestGeneration.symm)
  subst same
  refine ledger.write writes (fun stays => ⟨used, resident stays⟩)
    unpublished (.refl _) (sublist_cons_self _ _) apart ?_
    (fun _ listed => .inl listed) ?_
  · intro other listed found otherClaimed
    cases claimed.found.symm.trans otherClaimed.found
    exact distinct.1 (mem_map.mpr ⟨other, listed,
        otherClaimed.requestGeneration.symm.trans claimed.requestGeneration⟩)
  · intro other listed
    rcases mem_cons.mp listed with rfl | later
    · exact .inr ⟨slot, waits⟩
    · exact .inl later

/-- A claimed payload was released. -/
theorem release (ledger : QueueLedger submitting queue arena)
    (found : arena.slots[index]? = some slot) (claimed : slot.state = .claimed) :
    QueueLedger submitting queue (arena.clearSlot index) := by
  refine ledger.write (writes_clearSlot found) ?_ ?_ (.refl _) (.refl _) ?_
    ?_ (fun _ listed => .inl listed) (fun _ listed => .inl listed)
  · exact fun used => (used rfl).elim
  · exact nofun
  · rintro receipt listed rfl
    rcases ledger.received receipt listed with ⟨other, receives⟩
    cases receives.found.symm.trans found
    cases receives.published.symm.trans claimed
  · intro command _ other waits
    cases waits.found.symm.trans found
    cases waits.published.symm.trans claimed

end QueueLedger

end ControllerRequestArena

end Pih
