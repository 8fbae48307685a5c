import Pih.Scheduler.RequestLedger

/-!
# Live sequences and claimed requests

Every live sequence is served by a claimed payload of its own generation, and
every claimed payload serves a live sequence.
-/

namespace Pih

open ControllerRequestArena Option

open ControllerRequestArena (Writes)

namespace ControllerSequence

/-- The same request before its end. -/
structure Tracks (before after : ControllerSequence) : Prop where
  generation : after.sequenceGeneration = before.sequenceGeneration
  prompt : after.promptTokenCount = before.promptTokenCount
  liveBefore : before.state.terminal = false
  liveAfter : after.state.terminal = false

theorem terminal_of_open {state : ControllerSequenceState}
    (unended : state.ended = false) : state.terminal = false := by
  cases state with
  | draining => cases unended
  | _ => exact unended

variable {before : ControllerSequence}

theorem Works.tracks (works : before.Works after) : before.Tracks after :=
  ⟨works.generation, works.prompt, terminal_of_open works.openBefore,
    terminal_of_open works.openAfter⟩

theorem tracks_beginDraining (draining : before.beginDraining = .ok after) :
    before.Tracks after := by
  rcases beginDraining_ok draining with ⟨cancelled, rfl⟩
  refine ⟨rfl, rfl, ?_, rfl⟩
  rw [cancelled]
  rfl

theorem terminal_completedState {sequence : ControllerSequence} :
    (sequence.completedState completion).terminal = false := by
  unfold completedState
  split
  · rfl
  split
  · rfl
  · split <;> rfl

theorem tracks_complete (completed : before.complete completion = .ok after) :
    before.Tracks after := by
  rcases complete_ok completed with ⟨completes, rfl⟩
  refine ⟨rfl, rfl, ?_, terminal_completedState⟩
  rcases completes.flying with flying | cancelled
  · rw [flying]
    cases before.activePhase <;> rfl
  simp only [cancelledCommitted, decide_eq_true_eq] at cancelled
  rw [cancelled.1]
  rfl

theorem Tracks.trans {first : ControllerSequence}
    (earlier : first.Tracks second) (later : second.Tracks third) :
    first.Tracks third :=
  ⟨later.generation.trans earlier.generation,
    later.prompt.trans earlier.prompt, earlier.liveBefore, later.liveAfter⟩

end ControllerSequence

namespace ControllerRuntime

/-! ## Live slots -/

/-- The slot holds a sequence that has not ended. -/
def isLive (slot : RuntimeSlot) : Bool :=
  slot.sequence.any fun sequence => ¬ sequence.state.terminal

/-- The slot holds a sequence. -/
def isOccupied (slot : RuntimeSlot) : Bool := slot.sequence.isSome

/-- A sequence in its slot that has not ended. -/
structure Live (slots : List RuntimeSlot) (index : ℕ) (slot : RuntimeSlot)
    (sequence : ControllerSequence) : Prop where
  holding : Holding slots index slot sequence
  live : sequence.state.terminal = false

theorem isLive_of_sequence {sequence : ControllerSequence} (held : slot.sequence = some sequence) :
    isLive slot = !sequence.state.terminal := by
  unfold isLive
  rw [held]
  simp

/-- Every slot is as before, empty, or goes on with the request it had. -/
def Carries (slots next : List RuntimeSlot) : Prop := ∀ index : ℕ, next[index]? = slots[index]? ∨
    (∃ slot newSlot, slots[index]? = some slot ∧ slot.sequence = none ∧
      next[index]? = some newSlot ∧ newSlot.sequence = none) ∨
    ∃ slot sequence newSlot newSequence, Holding slots index slot sequence ∧
      Holding next index newSlot newSequence ∧
      newSlot.request = slot.request ∧ sequence.Tracks newSequence

namespace Carries

variable {slots next : List RuntimeSlot}

theorem refl (slots : List RuntimeSlot) : Carries slots slots := fun _ => .inl rfl

theorem moves (moves : Moves change slots next indices)
    (tracks : ∀ index before after, change index before after → before.Tracks after) :
    Carries slots next := by
  intro index
  by_cases member : index ∈ indices
  · rcases moves.inside index member with same | ⟨slot, before, after, holding, rule, written⟩
    · exact .inl same
    exact .inr (.inr ⟨slot, before, _, after, holding, ⟨written, rfl⟩, rfl, tracks _ _ _ rule⟩)
  · exact .inl (moves.outside index member)

theorem broken (broken : BrokenSlots slots next members)
    (applies : ∀ member ∈ members, member.Applies slots) : Carries slots next := by
  intro index
  by_cases listed : index ∈ memberIndices members
  · rcases List.mem_map.mp listed with ⟨member, member_in, rfl⟩
    have applied := applies member member_in
    rcases broken.inside member member_in with same | ⟨slot, found, held, request⟩
    · exact .inl same
    exact .inr (.inr ⟨_, _, slot, _, applied.holding, ⟨found, held⟩, request,
      ControllerSequence.tracks_complete applied.complete⟩)
  · exact .inl (broken.outside index listed)

theorem completed (completed : CompletedSlots context slots next members)
    (applies : ∀ member ∈ members, member.Applies slots) : Carries slots next :=
  .broken
    { completed with
      inside := fun member member_in =>
        .inr ⟨_, completed.inside member member_in, by simp, by simp⟩ }
    applies

theorem vacant (written : VacantWrite slots next) : Carries slots next := by
  cases written with
  | same => exact .refl slots
  | @wrote _ slot written found vacant still =>
    intro index
    rcases getElem?_set_cases found index with ⟨rfl, wrote⟩ | ⟨-, kept⟩
    · exact .inr (.inl ⟨slot, written, found, vacant, wrote, still⟩)
    · exact .inl kept

variable (carries : Carries slots next)

include carries

theorem forward {sequence : ControllerSequence} (live : Live slots index slot sequence) :
    ∃ newSlot newSequence, Live next index newSlot newSequence ∧ newSlot.request = slot.request ∧
      newSequence.sequenceGeneration = sequence.sequenceGeneration := by
  rcases carries index with
    same | ⟨old, new, found, empty, -, -⟩ |
    ⟨old, _, new, after, held, holds, request, tracks⟩
  · exact ⟨slot, sequence, ⟨⟨same.trans live.holding.1, live.holding.2⟩, live.live⟩, rfl, rfl⟩
  · cases found.symm.trans live.holding.1
    cases empty.symm.trans live.holding.2
  rcases held.unique live.holding with ⟨rfl, rfl⟩
  exact ⟨new, after, ⟨holds, tracks.liveAfter⟩, request, tracks.generation⟩

theorem backward {sequence : ControllerSequence} (live : Live next index slot sequence) :
    ∃ oldSlot oldSequence, Live slots index oldSlot oldSequence ∧ slot.request = oldSlot.request ∧
      sequence.sequenceGeneration = oldSequence.sequenceGeneration ∧
      sequence.promptTokenCount = oldSequence.promptTokenCount := by
  rcases carries index with
    same | ⟨old, new, -, -, found, empty⟩ |
    ⟨old, before, new, _, held, holds, request, tracks⟩
  · exact ⟨slot, sequence, ⟨⟨same.symm.trans live.holding.1, live.holding.2⟩, live.live⟩,
      rfl, rfl, rfl⟩
  · cases found.symm.trans live.holding.1
    cases empty.symm.trans live.holding.2
  rcases holds.unique live.holding with ⟨rfl, rfl⟩
  exact ⟨old, before, ⟨held, tracks.liveBefore⟩, request, tracks.generation, tracks.prompt⟩

/-- A test that does not tell such slots apart counts as many of them. -/
theorem countP_eq (test : RuntimeSlot → Bool)
    (empty : ∀ slot new, slot.sequence = none → new.sequence = none → test new = test slot)
    (tracked : ∀ slot sequence new after, slot.sequence = some sequence →
      new.sequence = some after → sequence.Tracks after → test new = test slot) :
    next.countP test = slots.countP test := by
  apply countP_congr_cells
  intro index
  rcases carries index with
    same | ⟨old, new, found, vacant, newFound, newVacant⟩ |
    ⟨old, before, new, after, held, holds, -, tracks⟩
  · rw [same]
  · rw [found, newFound, map_some, map_some, empty old new vacant newVacant]
  · rw [held.1, holds.1, map_some, map_some, tracked old before new after held.2 holds.2 tracks]

/-- The numbers of live and of occupied slots stay. -/
theorem counts : next.countP isLive = slots.countP isLive ∧
      next.countP isOccupied = slots.countP isOccupied := by
  constructor
  · refine carries.countP_eq isLive ?_ ?_
    · intro slot new vacant newVacant
      rw [isLive, isLive, vacant, newVacant]
    · intro slot sequence new after held holds tracks
      rw [isLive_of_sequence held, isLive_of_sequence holds, tracks.liveBefore, tracks.liveAfter]
  · refine carries.countP_eq isOccupied ?_ ?_
    · intro slot new vacant newVacant
      rw [isOccupied, isOccupied, vacant, newVacant]
    · intro slot sequence new after held holds _
      rw [isOccupied, isOccupied, held, holds]
      rfl

theorem length : next.length = slots.length := by
  have counts := carries.countP_eq (fun _ => true) (fun _ _ _ _ => rfl) fun _ _ _ _ _ _ _ => rfl
  rwa [List.countP_true] at counts

end Carries

/-! ## The ledger of live sequences -/

/-- A claimed payload serves the sequence in a slot. -/
structure Serving (arena : ControllerRequestArena) (slot : RuntimeSlot)
    (sequence : ControllerSequence) (request : RequestSlot) : Prop where
  found : arena.slots[slot.request.slotIndex]? = some request
  claimed : request.state = .claimed
  view : slot.request = arena.view slot.request.slotIndex request
  generation : request.requestGeneration = sequence.sequenceGeneration
  prompt : request.promptTokens = sequence.promptTokenCount

/-- Live sequences and claimed payloads belong together. -/
structure LiveLedger (slots : List RuntimeSlot) (arena : ControllerRequestArena) : Prop where
  serving : ∀ index slot sequence, Live slots index slot sequence →
    ∃ request, Serving arena slot sequence request
  distinct : ∀ first second slot other sequence another,
    Live slots first slot sequence → Live slots second other another →
    sequence.sequenceGeneration = another.sequenceGeneration →
    first = second
  claimed : ∀ (index : ℕ) (request : RequestSlot),
    arena.slots[index]? = some request → request.state = .claimed →
    ∃ place slot sequence, Live slots place slot sequence ∧ slot.request.slotIndex = index
  counted : slots.countP isLive = arena.claimedCount

namespace LiveLedger

variable
  {slots next : List RuntimeSlot} {arena after : ControllerRequestArena}

theorem carry (ledger : LiveLedger slots arena) (carries : Carries slots next) :
    LiveLedger next arena where
  serving := by
    intro index slot sequence live
    rcases carries.backward live with ⟨old, before, wasLive, request, generation, prompt⟩
    rcases ledger.serving index old before wasLive with ⟨payload, serving⟩
    refine ⟨payload, ?_, serving.claimed, ?_, serving.generation.trans generation.symm,
      serving.prompt.trans prompt.symm⟩
    · rw [request]
      exact serving.found
    · rw [request]
      exact serving.view
  distinct := by
    intro first second slot other sequence another firstLive secondLive same
    rcases carries.backward firstLive with ⟨_, _, firstWas, -, firstGeneration, -⟩
    rcases carries.backward secondLive with ⟨_, _, secondWas, -, secondGeneration, -⟩
    exact ledger.distinct _ _ _ _ _ _ firstWas secondWas
      (firstGeneration.symm.trans (same.trans secondGeneration))
  claimed := by
    intro index request found claimed
    rcases ledger.claimed index request found claimed with ⟨place, _, _, live, served⟩
    rcases carries.forward live with ⟨newSlot, newSequence, newLive, sameRequest, -⟩
    refine ⟨place, newSlot, newSequence, newLive, ?_⟩
    rw [sameRequest]
    exact served
  counted := carries.counts.1.trans ledger.counted

variable {sequence : ControllerSequence}

/-- The payload of a slot that is not the written one. -/
theorem serving_of_writes (writes : Writes arena after index old new)
    (serving : Serving arena slot sequence request) (different : slot.request.slotIndex ≠ index) :
    Serving after slot sequence request where
  __ := serving
  found := writes.keep different serving.found
  view := by
    rw [serving.view]
    unfold view promptOffset
    rw [writes.limits]

variable (ledger : LiveLedger slots arena)

include ledger

/-- An unclaimed payload was written and stays unclaimed. -/
theorem write (writes : Writes arena after index old new)
    (unclaimed : old.state ≠ .claimed) (still : new.state ≠ .claimed) :
    LiveLedger slots after where
  serving := by
    intro place slot sequence live
    rcases ledger.serving place slot sequence live with ⟨request, serving⟩
    refine ⟨request, serving_of_writes writes serving ?_⟩
    intro same
    have found := serving.found
    rw [same] at found
    cases writes.found.symm.trans found
    exact unclaimed serving.claimed
  distinct := ledger.distinct
  claimed := by
    intro place request found claimed
    rcases writes.iff.mp found with ⟨-, rfl⟩ | ⟨-, before⟩
    · exact (still claimed).elim
    · exact ledger.claimed place request before claimed
  counted := by
    unfold claimedCount
    rw [writes.slots]
    have counts := countP_set_add (fun slot : RequestSlot => slot.state = .claimed) new writes.found
    simp only [decide_eq_true_eq, unclaimed, still, if_false, Nat.add_zero] at counts
    rw [counts]
    exact ledger.counted

/-- A payload was claimed for a new sequence. -/
theorem start (writes : Writes arena after index old new)
    (unclaimed : old.state ≠ .claimed) (claims : new.state = .claimed)
    (fresh : ∀ place slot sequence, Live slots place slot sequence →
      sequence.sequenceGeneration ≠ new.requestGeneration)
    {place : ℕ} (found : slots[place]? = some slot)
    (vacant : slot.sequence = none) (held : written.sequence = some sequence)
    (live : sequence.state.terminal = false) (request : written.request = arena.view index new)
    (generation : sequence.sequenceGeneration = new.requestGeneration)
    (prompt : sequence.promptTokenCount = new.promptTokens) :
    LiveLedger (slots.set place written) after := by
  have inside := (List.getElem_of_getElem? found).1
  have cases_live : ∀ other otherSlot another,
      Live (slots.set place written) other otherSlot another →
      (other = place ∧ otherSlot = written ∧ another = sequence) ∨
        (other ≠ place ∧ Live slots other otherSlot another) := by
    rintro other otherSlot another ⟨holding, isLive⟩
    rcases (holding_set_iff inside written).mp holding with
      ⟨same, rfl, writtenHeld⟩ | ⟨different, before⟩
    · exact .inl ⟨same, rfl, some.inj (writtenHeld.symm.trans held)⟩
    · exact .inr ⟨different, before, isLive⟩
  constructor
  · intro other otherSlot another otherLive
    rcases cases_live other otherSlot another otherLive with ⟨-, rfl, rfl⟩ | ⟨-, before⟩
    · refine ⟨new, ?_, claims, ?_, generation.symm, prompt.symm⟩
      · rw [request]
        exact writes.self
      · rw [request]
        unfold view promptOffset
        rw [writes.limits]
    rcases ledger.serving other otherSlot another before with ⟨payload, serving⟩
    refine ⟨payload, serving_of_writes writes serving ?_⟩
    intro same
    have payloadFound := serving.found
    rw [same] at payloadFound
    cases writes.found.symm.trans payloadFound
    exact unclaimed serving.claimed
  · intro first second _ _ _ _ firstLive secondLive same
    rcases cases_live _ _ _ firstLive with ⟨rfl, -, rfl⟩ | ⟨-, firstBefore⟩
    · rcases cases_live _ _ _ secondLive with ⟨rfl, -, -⟩ | ⟨-, secondBefore⟩
      · rfl
      · exact (fresh _ _ _ secondBefore (same.symm.trans generation)).elim
    rcases cases_live _ _ _ secondLive with ⟨rfl, -, rfl⟩ | ⟨-, secondBefore⟩
    · exact (fresh _ _ _ firstBefore (same.trans generation)).elim
    · exact ledger.distinct _ _ _ _ _ _ firstBefore secondBefore same
  · intro other payload payloadFound isClaimed
    rcases writes.iff.mp payloadFound with ⟨rfl, -⟩ | ⟨-, before⟩
    · refine ⟨place, written, sequence,
        ⟨(holding_set_iff inside written).mpr (.inl ⟨rfl, rfl, held⟩), live⟩, ?_⟩
      rw [request]
      rfl
    rcases ledger.claimed other payload before isClaimed with
      ⟨elsewhere, otherSlot, another, otherLive, served⟩
    refine ⟨elsewhere, otherSlot, another, ⟨(holding_set_iff inside written).mpr
        (.inr ⟨?_, otherLive.holding⟩), otherLive.live⟩, served⟩
    rintro rfl
    cases found.symm.trans otherLive.holding.1
    cases vacant.symm.trans otherLive.holding.2
  · unfold claimedCount
    rw [writes.slots]
    have payloads := countP_set_add (fun slot : RequestSlot => slot.state = .claimed) new
        writes.found
    have lives := countP_set_add isLive written found
    have dead : isLive slot = false := by
      unfold isLive
      rw [vacant]
      rfl
    have starts : isLive written = true := by
      rw [isLive_of_sequence held, live]
      rfl
    simp only [decide_eq_true_eq, unclaimed, claims, if_false, Nat.add_zero] at payloads
    simp only [dead, starts, Bool.false_eq_true, if_false, Nat.add_zero] at lives
    rw [payloads, lives, ledger.counted]
    rfl

/-- A live sequence ended and its payload was released. -/
theorem finish {place : ℕ} (live : Live slots place slot sequence)
    (ended : isLive written = false) :
    LiveLedger (slots.set place written) (arena.clearSlot slot.request.slotIndex) := by
  rcases ledger.serving place slot sequence live with ⟨payload, serving⟩
  have writes := writes_clearSlot serving.found
  have inside := live.holding.lt
  have cases_live : ∀ other otherSlot another,
      Live (slots.set place written) other otherSlot another →
      other ≠ place ∧ Live slots other otherSlot another := by
    rintro other otherSlot another ⟨holding, isLive⟩
    rcases (holding_set_iff inside written).mp holding with ⟨-, rfl, held⟩ | ⟨different, before⟩
    · rw [isLive_of_sequence held, isLive] at ended
      cases ended
    · exact ⟨different, before, isLive⟩
  -- Two live slots with one payload would have one generation.
  have elsewhere : ∀ other otherSlot another, Live slots other otherSlot another → other ≠ place →
      otherSlot.request.slotIndex ≠ slot.request.slotIndex := by
    intro other otherSlot another otherLive different same
    rcases ledger.serving other otherSlot another otherLive with ⟨request, otherServing⟩
    have found := otherServing.found
    rw [same] at found
    cases serving.found.symm.trans found
    exact different (ledger.distinct _ _ _ _ _ _ otherLive live
      (otherServing.generation.symm.trans serving.generation))
  constructor
  · intro other otherSlot another otherLive
    rcases cases_live other otherSlot another otherLive with ⟨different, before⟩
    rcases ledger.serving other otherSlot another before with ⟨request, otherServing⟩
    exact ⟨request, serving_of_writes writes otherServing
      (elsewhere other otherSlot another before different)⟩
  · intro first second _ _ _ _ firstLive secondLive same
    exact ledger.distinct _ _ _ _ _ _ (cases_live _ _ _ firstLive).2
      (cases_live _ _ _ secondLive).2 same
  · intro other request found claimed
    rcases writes.iff.mp found with ⟨-, rfl⟩ | ⟨different, before⟩
    · cases claimed
    rcases ledger.claimed other request before claimed with
      ⟨holder, otherSlot, another, otherLive, served⟩
    refine ⟨holder, otherSlot, another, ⟨(holding_set_iff inside written).mpr
        (.inr ⟨?_, otherLive.holding⟩), otherLive.live⟩, served⟩
    rintro rfl
    rcases live.holding.unique otherLive.holding with ⟨rfl, -⟩
    exact different served.symm
  · have payloads := countP_set_add (fun slot : RequestSlot => slot.state = .claimed)
        { generation := payload.generation } serving.found
    have lives := countP_set_add isLive written live.holding.1
    have lived : isLive slot = true := by
      rw [isLive_of_sequence live.holding.2, live.live]
      rfl
    simp only [decide_eq_true_eq, serving.claimed, if_true] at payloads
    simp only [lived, ended, if_true, Bool.false_eq_true, if_false] at lives
    have counted := ledger.counted
    unfold claimedCount at counted ⊢
    rw [writes.slots]
    simp only [reduceCtorEq, if_false] at payloads
    omega

end LiveLedger

end ControllerRuntime

end Pih
