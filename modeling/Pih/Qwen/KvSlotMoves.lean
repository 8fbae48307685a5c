import Pih.Qwen.KvSlotPool

/-!
# What the operations of the slot pool do

`Effect` lists every way in which an operation can change the pool, with what
the operation has checked before.  The results about runs of the pool are
derived from it.
-/

namespace Pih

open List

namespace QwenKvSlotPool

/-! ## Checked handles -/

/-- The handle names a slot of the owner in the expected state. -/
structure HandleHolds (pool : QwenKvSlotPool) (handle : QwenKvBlockHandle) (owner : ℕ)
    (expected : QwenKvSlotLifecycle) (slot : QwenKvSlotState) : Prop where
  found : pool.slots[handle.slot]? = some slot
  generation_eq : handle.generation = slot.generation
  owner_eq : slot.ownerSequenceIndex = owner
  state_eq : slot.state = expected
  zeroU8 : slot.reservedZeroU8 = 0
  zeroU32 : slot.reservedZeroU32 = 0

variable {pool : QwenKvSlotPool}

variable {expected : QwenKvSlotLifecycle} {handles : List QwenKvBlockHandle}
  {slots : List QwenKvSlotState}

theorem validateHandle_eq_ok : pool.validateHandle handle owner expected = .ok () ↔
      ∃ slot, HandleHolds pool handle owner expected slot := by
  unfold validateHandle
  constructor
  · intro valid
    split at valid
    · cases valid
    rename_i slot found
    rcases Result.else_eq_ok.mp valid with ⟨checked, _⟩
    simp only [not_or, not_not] at checked
    rcases checked with ⟨generation, owned, state, u8, u32⟩
    exact ⟨slot, found, generation, owned, state, u8, u32⟩
  · rintro ⟨_, holds⟩
    rw [holds.found]
    refine if_neg ?_
    simp only [not_or, not_not]
    exact ⟨holds.generation_eq, holds.owner_eq, holds.state_eq, holds.zeroU8, holds.zeroU32⟩

/-- The handles name different slots of the owner in one state. -/
structure HandlesHold (pool : QwenKvSlotPool) (owner : ℕ) (handles : List QwenKvBlockHandle)
    (expected : QwenKvSlotLifecycle) : Prop where
  distinct : (handles.map (·.slot)).Nodup
  holds : ∀ handle ∈ handles, ∃ slot, HandleHolds pool handle owner expected slot

theorem validateHandles_eq_ok : pool.validateHandles owner expected seen handles = .ok () ↔
      HandlesHold pool owner handles expected ∧ ∀ handle ∈ handles, handle.slot ∉ seen := by
  induction handles generalizing seen with
  | nil => exact ⟨fun _ => ⟨⟨.nil, nofun⟩, nofun⟩, fun _ => rfl⟩
  | cons handle _ induction =>
    unfold validateHandles
    by_cases repeated : handle.slot ∈ seen
    · rw [if_pos repeated]
      refine ⟨nofun, fun valid => ?_⟩
      exact (valid.2 handle (.head _) repeated).elim
    rw [if_neg repeated]
    cases checked : pool.validateHandle handle owner expected with
    | error =>
      refine ⟨nofun, fun valid => ?_⟩
      rw [validateHandle_eq_ok.mpr (valid.1.holds handle (.head _))] at checked
      cases checked
    | ok =>
      rw [induction]
      constructor
      · rintro ⟨held, fresh⟩
        refine ⟨⟨?_, ?_⟩, ?_⟩
        · rw [map_cons, nodup_cons]
          refine ⟨?_, held.distinct⟩
          intro again
          rcases mem_map.mp again with ⟨other, member, same⟩
          exact fresh other member (same ▸ .head _)
        · intro other member
          rcases mem_cons.mp member with rfl | later
          · exact validateHandle_eq_ok.mp checked
          · exact held.holds other later
        · intro other member
          rcases mem_cons.mp member with rfl | later
          · exact repeated
          · exact fun earlier => fresh other later (.tail _ earlier)
      · rintro ⟨⟨distinct, holds⟩, fresh⟩
        rw [map_cons, nodup_cons] at distinct
        refine ⟨⟨distinct.2, ?_⟩, ?_⟩
        · exact fun other member => holds other (.tail _ member)
        · intro other member again
          rcases mem_cons.mp again with same | earlier
          · exact distinct.1 (same ▸ mem_map_of_mem member)
          · exact fresh other (.tail _ member) earlier

theorem handlesHold_of_validateExactOwnerSet
    (valid : pool.validateExactOwnerSet owner handles expected = .ok ()) :
    HandlesHold pool owner handles expected := by
  unfold validateExactOwnerSet at valid
  dsimp only at valid
  split at valid
  · cases valid
  · exact (validateHandles_eq_ok.mp valid).1

/-- A slot that is named by one of the handles. -/
theorem HandlesHold.of_slot (held : HandlesHold pool owner handles expected)
    (member : index ∈ handles.map (·.slot)) :
    ∃ slot, ⟨index, slot.generation⟩ ∈ handles ∧
      HandleHolds pool ⟨index, slot.generation⟩ owner expected slot := by
  rcases mem_map.mp member with ⟨handle, listed, rfl⟩
  rcases held.holds handle listed with ⟨slot, holds⟩
  have same : (⟨handle.slot, slot.generation⟩ : QwenKvBlockHandle) = handle := by
    rw [← holds.generation_eq]
  refine ⟨slot, ?_, ?_⟩
  · rw [same]
    exact listed
  · rw [same]
    exact holds

/-! ## The clean slots of a reservation -/

def isClean (slot : QwenKvSlotState) : Bool := slot.state = .freeClean

/-- The slot can be reserved. -/
def Reservable (slot : QwenKvSlotState) : Prop := slot.state = .freeClean ∧ slot.generation ≠ u32Max

theorem selectClean_ok (chosen : selectClean ordinal needed slots = .ok selected) :
    selected.Nodup ∧ selected.length = min needed (slots.countP isClean) ∧
      ∀ place ∈ selected, ordinal ≤ place ∧ ∃ slot, slots[place - ordinal]? = some slot ∧
        Reservable slot := by
  induction slots generalizing ordinal needed selected with
  | nil =>
    cases needed with
    | zero | succ =>
      cases chosen
      exact ⟨.nil, by simp, nofun⟩
  | cons slot _ induction =>
    cases needed with
    | zero =>
      cases chosen
      exact ⟨.nil, by simp, nofun⟩
    | succ =>
      unfold selectClean at chosen
      split at chosen
      case isTrue clean =>
        rcases Result.else_eq_ok.mp chosen with ⟨room, chosen⟩
        split at chosen
        · cases chosen
        rename_i found
        cases chosen
        rcases induction found with ⟨distinct, size, valid⟩
        have counted : isClean slot = true := by
          unfold isClean
          rw [clean]
          rfl
        refine ⟨?_, ?_, ?_⟩
        · rw [nodup_cons]
          refine ⟨?_, distinct⟩
          intro again
          have later := (valid ordinal again).1
          omega
        · rw [length_cons, countP_cons_of_pos counted]
          omega
        · intro place member
          rcases mem_cons.mp member with rfl | later
          · refine ⟨Nat.le_refl _, slot, ?_, clean, room⟩
            rw [Nat.sub_self]
            rfl
          rcases valid place later with ⟨after, given⟩
          refine ⟨by omega, ?_⟩
          have shifted : place - ordinal = place - (ordinal + 1) + 1 := by omega
          rw [shifted]
          exact given
      rename_i busy
      rcases induction chosen with ⟨distinct, size, valid⟩
      have uncounted : ¬ isClean slot = true := by
        unfold isClean
        rw [decide_eq_true_eq]
        exact busy
      refine ⟨distinct, ?_, ?_⟩
      · rw [size, countP_cons_of_neg uncounted]
      · intro place member
        rcases valid place member with ⟨_, given⟩
        refine ⟨by omega, ?_⟩
        have shifted : place - ordinal = place - (ordinal + 1) + 1 := by omega
        rw [shifted]
        exact given

/-! ## Every effect of an operation -/

/-- The status with which `reserve` reports a broken ledger. -/
def ledgerInconsistent : Status := .internal "Qwen KV clean credit ledger is inconsistent"

/-- The handles that an outcome hands out. -/
def issued : QwenKvOutcome → List QwenKvBlockHandle
  | .handles (.ok handles) => handles
  | _ => []

/-- The slots of two tables agree except for their valid tokens. -/
def SameButTokens (slots others : List QwenKvSlotState) : Prop := ∀ place : ℕ,
    ∃ tokens : QwenKvSlotState → ℕ, others[place]? = slots[place]?.map fun slot =>
          { slot with validTokens := tokens slot }

/-- How an operation changes the pool. -/
inductive Effect (pool : QwenKvSlotPool) :
    QwenKvOperation → QwenKvSlotPool → QwenKvOutcome → Prop where
  | quiet {next : QwenKvSlotPool}
      (slots : next.slots = pool.slots)
      (events : next.pendingEvents = pool.pendingEvents)
      (credits : next.cleanCredits = pool.cleanCredits)
      (ready : next.ready = pool.ready)
      (nothing : issued outcome = [])
      (consistent : outcome ≠ .handles (.error ledgerInconsistent)) :
      Effect pool operation next outcome
  | reserved (named : owner ≠ kNoOwner) (distinct : selected.Nodup)
      (size : selected.length = slotCount)
      (covered : slotCount ≤ pool.cleanCredits)
      (clean : ∀ place ∈ selected, ∃ slot, pool.slots[place]? = some slot ∧ Reservable slot) :
      Effect pool (.reserve owner slotCount)
        { pool with
          slots := updateAll pool.slots selected (reservedSlot owner)
          cleanCredits := pool.cleanCredits - slotCount }
        (.handles (.ok (selected.map fun ordinal =>
          ⟨ordinal, (pool.slotAt ordinal).generation + 1⟩)))
  | published {handles : List QwenKvBlockHandle}
      (held : HandlesHold pool owner handles .admissionReserved) :
      Effect pool (.publish owner handles)
        { pool with
          slots :=
            updateAll pool.slots (handles.map (·.slot)) fun slot => { slot with state := .owned } }
        (.status (.ok ()))
  | rolledBack {handles : List QwenKvBlockHandle}
      (held : HandlesHold pool owner handles .admissionReserved) :
      Effect pool (.rollback owner handles)
        { pool with
          slots := updateAll pool.slots (handles.map (·.slot)) rolledBackSlot
          cleanCredits := pool.cleanCredits + handles.length }
        (.status (.ok ()))
  | wrote {slots : List QwenKvSlotState} (same : SameButTokens pool.slots slots) :
      Effect pool operation { pool with slots } (.status (.ok ()))
  | released {handles : List QwenKvBlockHandle}
      (held : HandlesHold pool owner handles .owned) :
      Effect pool (.release owner handles lastUseEvent)
        { pool with
          slots := updateAll pool.slots (handles.map (·.slot)) fun slot =>
              { slot with state := .reclaimPending }
          pendingEvents := updateAll pool.pendingEvents (handles.map (·.slot))
              fun _ => lastUseEvent }
        (.status (.ok ()))
  | reclaimed (found : pool.slots[handle.slot]? = some slot)
      (pending : slot.state = .reclaimPending)
      (current : slot.generation = handle.generation) :
      Effect pool (.completeReclaimEvent handle (pool.pendingEventAt handle.slot) true true)
        (pool.vacate handle.slot .freeDirty) (.status (.ok ()))
  | scrubBegun (lane : pool.lifecycleCount .scrubbing = 0)
      (found : pool.slots[ordinal]? = some slot)
      (dirty : slot.state = .freeDirty) :
      Effect pool (.beginNextScrub event)
        { pool with
          slots := pool.slots.modify ordinal fun slot => { slot with state := .scrubbing }
          pendingEvents := pool.pendingEvents.set ordinal event }
        (.scrub (.ok ⟨⟨ordinal, (pool.slotAt ordinal).generation⟩, kSlotPayloadBytes⟩))
  | scrubbed (found : pool.slots[handle.slot]? = some slot)
      (scrubbing : slot.state = .scrubbing)
      (current : slot.generation = handle.generation) :
      Effect pool (.completeScrub handle (pool.pendingEventAt handle.slot)
          kSlotPayloadBytes true true)
        { pool.vacate handle.slot .freeClean with cleanCredits := pool.cleanCredits + 1 }
        (.status (.ok ()))

/-- The effect of an operation that answers with a status. -/
abbrev Does (pool : QwenKvSlotPool) (operation : QwenKvOperation)
    (answer : QwenKvSlotPool × Result Unit) : Prop :=
  Effect pool operation answer.1 (.status answer.2)

/-- An operation that only fails. -/
theorem Effect.refused_status (operation : QwenKvOperation) (status : Status) :
    Effect pool operation pool (.status (.error status)) :=
  .quiet rfl rfl rfl rfl rfl nofun

/-- The clean credits are as many as the clean slots. -/
def Counted (pool : QwenKvSlotPool) : Prop := pool.cleanCredits = pool.lifecycleCount .freeClean

theorem Effect.refused_handles (operation : QwenKvOperation) (other : status.code ≠ .internal) :
    Effect pool operation pool (.handles (.error status)) := by
  refine .quiet rfl rfl rfl rfl rfl ?_
  intro same
  cases same
  exact other rfl

theorem selectClean_error (failed : selectClean ordinal needed slots = .error status) :
    status = .failedPrecondition "Qwen KV generation wrap requires an epoch rebuild" := by
  induction slots generalizing ordinal needed with
  | nil => cases needed <;> cases failed
  | cons _ _ induction =>
    cases needed with
    | zero => cases failed
    | succ =>
      unfold selectClean at failed
      split at failed
      · split at failed
        · cases failed
          rfl
        split at failed
        case h_1 later =>
          cases failed
          exact induction later
        case h_2 => cases failed
      · exact induction failed

theorem reserve_effect (counted : pool.Counted) :
    Effect pool (.reserve owner slotCount) (pool.reserve owner slotCount).1
      (.handles (pool.reserve owner slotCount).2) := by
  unfold reserve
  split
  · exact .refused_handles _ nofun
  split
  · exact .refused_handles _ nofun
  rename_i named
  split
  · exact .refused_handles _ nofun
  split
  · exact .refused_handles _ nofun
  rename_i covered
  split
  case h_1 failed =>
    refine .refused_handles _ ?_
    rw [selectClean_error failed]
    nofun
  rename_i selected chosen
  rcases selectClean_ok chosen with ⟨distinct, size, valid⟩
  have filled : selected.length = slotCount := by
    rw [size]
    apply Nat.min_eq_left
    exact Nat.le_trans (Nat.not_lt.mp covered) (Nat.le_of_eq counted)
  rw [if_neg (not_not.mpr filled)]
  refine .reserved (fun none => named (.inl none)) distinct filled (Nat.not_lt.mp covered) ?_
  intro place member
  exact (valid place member).2

theorem publish_effect : Does pool (.publish owner handles) (pool.publish owner handles) := by
  unfold publish
  split
  · exact .refused_status _ _
  split
  · exact .refused_status _ _
  case h_2 valid => exact .published (handlesHold_of_validateExactOwnerSet valid)

theorem rollback_effect : Does pool (.rollback owner handles) (pool.rollback owner handles) := by
  unfold rollback
  split
  · exact .refused_status _ _
  split
  · exact .refused_status _ _
  case h_2 valid => exact .rolledBack (handlesHold_of_validateExactOwnerSet valid)

variable {event : QwenKvCompletionEvent}

theorem release_effect :
    Does pool (.release owner handles event) (pool.release owner handles event) := by
  unfold release
  split
  · exact .refused_status _ _
  split
  · exact .refused_status _ _
  case h_2 valid => exact .released (handlesHold_of_validateExactOwnerSet valid)

/-! ### Valid tokens -/

theorem sameButTokens_setValidTokens (slots : List QwenKvSlotState)
    (handle : QwenKvBlockHandle) (validTokens : ℕ) :
    SameButTokens slots (setValidTokens slots handle validTokens) := by
  intro place
  refine ⟨fun slot => if handle.slot = place then validTokens else slot.validTokens, ?_⟩
  unfold setValidTokens
  by_cases here : handle.slot = place
  · simp [here]
  · simp [here]

theorem SameButTokens.trans (first : SameButTokens slots others)
    (second : SameButTokens others more) : SameButTokens slots more := by
  intro place
  rcases first place with ⟨tokens, written⟩
  rcases second place with ⟨later, rewritten⟩
  refine ⟨fun slot => later { slot with validTokens := tokens slot }, ?_⟩
  rw [rewritten, written, Option.map_map]
  rfl

theorem sameButTokens_writeTargets (committedTokens index : ℕ)
    (handles : List QwenKvBlockHandle) (slots : List QwenKvSlotState) :
    SameButTokens slots (writeTargets committedTokens index handles slots) := by
  induction handles generalizing index slots with
  | nil =>
    intro place
    exact ⟨QwenKvSlotState.validTokens, by simp [writeTargets]⟩
  | cons handle _ induction =>
    exact (sameButTokens_setValidTokens slots handle _).trans (induction _ _)

theorem commitValidTokens_effect :
    Does pool (.commitValidTokens owner handle validTokens) (pool.commitValidTokens owner handle validTokens) := by
  unfold commitValidTokens
  split
  · exact .refused_status _ _
  split
  · exact .refused_status _ _
  split
  · exact .refused_status _ _
  · exact .wrote (sameButTokens_setValidTokens _ handle validTokens)

theorem commitPrefix_effect :
    Does pool (.commitPrefix owner handles committedTokens) (pool.commitPrefix owner handles committedTokens) := by
  unfold commitPrefix
  split
  · exact .refused_status _ _
  split
  · exact .refused_status _ _
  split
  · exact .refused_status _ _
  · exact .wrote (sameButTokens_writeTargets _ 0 handles _)

/-! ### Reclaiming and scrubbing -/

/-- What a slot that awaits an event looks like. -/
theorem slot_of_awaits (permitted : ¬ (pool.refuses = true ∨ handle.slot ≥ pool.slots.length))
    (awaited : pool.awaits handle event expected = true) :
    event = pool.pendingEventAt handle.slot ∧ ∃ slot, pool.slots[handle.slot]? = some slot ∧
      slot.state = expected ∧ slot.generation = handle.generation := by
  rcases of_decide_eq_true awaited with ⟨state, generation, eventHandle, eventGeneration⟩
  have inside := Nat.lt_of_not_le fun outside => permitted (.inr outside)
  have found := getElem?_eq_getElem inside
  have same : pool.slotAt handle.slot = pool.slots[handle.slot] := by
    unfold slotAt
    rw [getD_eq_getElem?_getD, found]
    rfl
  rw [same] at state generation
  refine ⟨?_, _, found, state, generation⟩
  cases pending : pool.pendingEventAt handle.slot
  rw [pending] at eventHandle eventGeneration
  cases eventHandle
  cases eventGeneration
  rfl

theorem completeReclaimEvent_effect :
    Does pool (.completeReclaimEvent handle event eventReady eventSucceeded)
      (pool.completeReclaimEvent handle event eventReady eventSucceeded) := by
  unfold completeReclaimEvent
  split
  · exact .refused_status _ _
  rename_i permitted
  split
  · exact .refused_status _ _
  rename_i awaited
  split
  · exact .refused_status _ _
  rename_i isReady
  split
  · exact .quiet rfl rfl rfl rfl rfl nofun
  rename_i succeeded
  rcases slot_of_awaits permitted (not_not.mp awaited) with ⟨rfl, _, found, pending, current⟩
  rw [not_not.mp isReady, not_not.mp succeeded]
  exact .reclaimed found pending current

theorem completeScrub_effect :
    Does pool (.completeScrub handle event clearedBytes eventReady eventSucceeded)
      (pool.completeScrub handle event clearedBytes eventReady eventSucceeded) := by
  unfold completeScrub
  split
  · exact .refused_status _ _
  rename_i permitted
  split
  · exact .refused_status _ _
  rename_i awaited
  split
  · exact .refused_status _ _
  rename_i isReady
  split
  · exact .quiet rfl rfl rfl rfl rfl nofun
  rename_i cleared
  rcases slot_of_awaits permitted (not_not.mp awaited) with ⟨rfl, _, found, scrubbing, current⟩
  simp only [not_or, not_not] at cleared
  rw [not_not.mp isReady, cleared.1, cleared.2]
  exact .scrubbed found scrubbing current

theorem beginNextScrub_effect : Effect pool (.beginNextScrub event) (pool.beginNextScrub event).1
      (.scrub (pool.beginNextScrub event).2) := by
  unfold beginNextScrub
  split
  · exact .quiet rfl rfl rfl rfl rfl nofun
  split
  · exact .quiet rfl rfl rfl rfl rfl nofun
  rename_i lane
  split
  · exact .quiet rfl rfl rfl rfl rfl nofun
  rename_i found
  rcases findIdx?_eq_some_iff_getElem.mp found with ⟨inside, dirty, -⟩
  exact .scrubBegun (not_not.mp lane) (getElem?_eq_getElem inside) (of_decide_eq_true dirty)

/-- Every operation on a ready pool has one of the effects. -/
theorem execute_effect (ready : pool.ready = true) (counted : pool.Counted)
    (operation : QwenKvOperation) :
    Effect pool operation (pool.execute operation).1 (pool.execute operation).2 := by
  cases operation with
  | completeStartupSanitize =>
    simp only [execute, completeStartupSanitize, ready, or_true]
    exact .refused_status _ _
  | acquireSequenceGeneration =>
    simp only [execute, acquireSequenceGeneration]
    split
    · exact .quiet rfl rfl rfl rfl rfl nofun
    split
    · exact .quiet rfl rfl rfl rfl rfl nofun
    · exact .quiet rfl rfl rfl rfl rfl nofun
  | reserve => exact reserve_effect counted
  | publish => exact publish_effect
  | rollback => exact rollback_effect
  | commitValidTokens => exact commitValidTokens_effect
  | commitPrefix => exact commitPrefix_effect
  | projectPrefix => exact .quiet rfl rfl rfl rfl rfl nofun
  | release => exact release_effect
  | completeReclaimEvent => exact completeReclaimEvent_effect
  | beginNextScrub => exact beginNextScrub_effect
  | completeScrub => exact completeScrub_effect

end QwenKvSlotPool

end Pih
