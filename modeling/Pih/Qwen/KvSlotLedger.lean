import Pih.Qwen.KvSlotMoves

/-!
# The ledger of the slot pool over whole runs

A run performs any operations with any handles and events, current, stale or
forged, on a pool whose startup sanitize has succeeded.  The counters agree
with the slots, no handle is handed out twice, and a slot that has been owned
is reclaimed and scrubbed before it is reserved again.
-/

namespace Pih

open List

namespace QwenKvSlotPool

abbrev KvEntry := Entry QwenKvSlotPool QwenKvOperation QwenKvOutcome

abbrev KvHistory := List KvEntry

variable {pool next : QwenKvSlotPool} {operation : QwenKvOperation}
  {outcome : QwenKvOutcome}

/-! ## Counting the slots -/

variable {target source : QwenKvSlotLifecycle} {slots : List QwenKvSlotState}
  {slot : QwenKvSlotState} {index : ℕ} {newEvent event : QwenKvCompletionEvent}
  {entries : KvHistory}

/-- The slots that move from one state to another are counted there. -/
theorem countP_updateAll_state (distinct : indices.Nodup)
    (moved : ∀ index ∈ indices, ∃ slot, slots[index]? = some slot ∧
        slot.state = source ∧ (change slot).state = target) (state : QwenKvSlotLifecycle) :
    (updateAll slots indices change).countP (fun slot => slot.state = state) +
        indices.length * (if source = state then 1 else 0) =
      slots.countP (fun slot => slot.state = state) +
        indices.length * (if target = state then 1 else 0) := by
  apply countP_updateAll distinct
  intro index member
  rcases moved index member with ⟨slot, found, before, after⟩
  refine ⟨slot, found, ?_, ?_⟩
  · rw [before]
    simp only [decide_eq_true_eq]
  · rw [after]
    simp only [decide_eq_true_eq]

theorem SameButTokens.lifecycleCount_eq
    (same : SameButTokens pool.slots slots) (state : QwenKvSlotLifecycle) :
    ({ pool with slots } : QwenKvSlotPool).lifecycleCount state = pool.lifecycleCount state := by
  apply countP_congr_cells
  intro place
  rcases same place with ⟨_, written⟩
  rw [written, Option.map_map]
  rfl

theorem HandlesHold.lifecycleCount_eq (held : HandlesHold pool owner handles source)
    (changes : ∀ slot, (change slot).state = target) (state : QwenKvSlotLifecycle) :
    (updateAll pool.slots (handles.map (·.slot)) change).countP (fun slot => slot.state = state) +
        handles.length * (if source = state then 1 else 0) =
      pool.lifecycleCount state + handles.length * (if target = state then 1 else 0) := by
  have moved : ∀ index ∈ handles.map (·.slot), ∃ slot,
      pool.slots[index]? = some slot ∧ slot.state = source ∧ (change slot).state = target := by
    intro index member
    rcases held.of_slot member with ⟨slot, -, holds⟩
    exact ⟨slot, holds.found, holds.state_eq, changes slot⟩
  have counted := countP_updateAll_state held.distinct moved state
  rw [length_map] at counted
  exact counted

/-- One slot moves from one state to another. -/
theorem countP_modify_state (found : pool.slots[index]? = some slot)
    (before : slot.state = source) (after : (change slot).state = target)
    (state : QwenKvSlotLifecycle) :
    (pool.slots.modify index change).countP (fun slot => slot.state = state) +
        1 * (if source = state then 1 else 0) =
      pool.lifecycleCount state + 1 * (if target = state then 1 else 0) := by
  apply countP_updateAll_state (pairwise_singleton _ index)
  intro other member
  rw [mem_singleton.mp member]
  exact ⟨slot, found, before, after⟩

/-- A number of slots and their credits moves between two states. -/
structure Shift (pool next : QwenKvSlotPool) (source target : QwenKvSlotLifecycle)
    (count : ℕ) : Prop where
  slots : ∀ state, next.lifecycleCount state + count * (if source = state then 1 else 0) =
        pool.lifecycleCount state + count * (if target = state then 1 else 0)
  credits : next.cleanCredits + count * (if source = .freeClean then 1 else 0) =
      pool.cleanCredits + count * (if target = .freeClean then 1 else 0)
  lane : target = .scrubbing → pool.lifecycleCount .scrubbing = 0 ∧ count ≤ 1

theorem Effect.shift (effect : Effect pool operation next outcome) :
    ∃ source target count, Shift pool next source target count := by
  cases effect with
  | quiet slots _ credits =>
    refine ⟨.owned, .owned, 0, ?_, ?_, nofun⟩
    · intro state
      unfold lifecycleCount
      rw [slots]
    · rw [credits]
  | @reserved _ _ selected _ distinct _ _ clean =>
    refine ⟨.freeClean, .admissionReserved, selected.length, ?_, ?_, nofun⟩
    · apply countP_updateAll_state distinct
      intro place member
      rcases clean place member with ⟨slot, found, reservable⟩
      exact ⟨slot, found, reservable.1, rfl⟩
    · simp only [if_true, reduceCtorEq, if_false]
      omega
  | published held => exact ⟨_, .owned, _, held.lifecycleCount_eq fun _ => rfl, rfl, nofun⟩
  | rolledBack held =>
    refine ⟨_, _, _, held.lifecycleCount_eq fun _ => rfl, ?_, nofun⟩
    simp only [if_true, reduceCtorEq, if_false]
    omega
  | wrote same =>
    refine ⟨.owned, .owned, 0, ?_, rfl, nofun⟩
    intro state
    rw [same.lifecycleCount_eq]
  | released held => exact ⟨.owned, _, _, held.lifecycleCount_eq fun _ => rfl, rfl, nofun⟩
  | reclaimed found pending =>
    exact ⟨_, _, 1, countP_modify_state found pending rfl, rfl, nofun⟩
  | scrubBegun lane found dirty =>
    exact ⟨_, _, 1, countP_modify_state found dirty rfl, rfl, fun _ => ⟨lane, Nat.le_refl _⟩⟩
  | scrubbed found scrubbing =>
    exact ⟨_, _, 1, countP_modify_state found scrubbing rfl, rfl, nofun⟩

theorem Shift.counted {count : ℕ} (shift : Shift pool next source target count)
    (counted : pool.Counted) : next.Counted := by
  have slots := shift.slots .freeClean
  have credits := shift.credits
  unfold Counted at counted ⊢
  omega

theorem Shift.one_lane {count : ℕ} (shift : Shift pool next source target count)
    (lane : pool.lifecycleCount .scrubbing ≤ 1) : next.lifecycleCount .scrubbing ≤ 1 := by
  have slots := shift.slots .scrubbing
  by_cases begun : target = .scrubbing
  · rcases shift.lane begun with ⟨_, _⟩
    rw [if_pos begun] at slots
    omega
  rw [if_neg begun] at slots
  omega

/-! ## The life of one slot -/

section

variable (index : ℕ) (operation : QwenKvOperation) (outcome : QwenKvOutcome)
  (slot : QwenKvSlotState) (event : QwenKvCompletionEvent)

/-- What an operation does to one slot and the event it waits for. -/
inductive SlotMove : QwenKvSlotState → QwenKvCompletionEvent → Prop where
  | stays (tokens : ℕ) : SlotMove
      { slot with validTokens := tokens } event
  | reserved (named : owner ≠ kNoOwner) (reservable : Reservable slot) :
    SlotMove (reservedSlot owner slot) event
  | published (state : slot.state = .admissionReserved) : SlotMove
      { slot with state := .owned } event
  | rolledBack (state : slot.state = .admissionReserved) : SlotMove (rolledBackSlot slot) event
  | released (state : slot.state = .owned)
    (called : operation = .release owner handles lastUseEvent)
    (listed : ⟨index, slot.generation⟩ ∈ handles)
    (succeeded : outcome = .status (.ok ())) :
    SlotMove
      { slot with state := .reclaimPending } lastUseEvent
  | reclaimed (state : slot.state = .reclaimPending) (called : operation =
        .completeReclaimEvent ⟨index, slot.generation⟩ event true true)
    (succeeded : outcome = .status (.ok ())) :
    SlotMove
      { slot with ownerSequenceIndex := kNoOwner, validTokens := 0, state := .freeDirty } ⟨0, 0⟩
  | scrubBegun (state : slot.state = .freeDirty) : SlotMove
      { slot with state := .scrubbing } scrubEvent
  | scrubbed (state : slot.state = .scrubbing) (called : operation =
        .completeScrub ⟨index, slot.generation⟩ event kSlotPayloadBytes true true)
    (succeeded : outcome = .status (.ok ())) :
    SlotMove
      { slot with ownerSequenceIndex := kNoOwner, validTokens := 0, state := .freeClean } ⟨0, 0⟩

end

/-- The slot and event of an index move together. -/
def MovesAt (pool next : QwenKvSlotPool) (operation : QwenKvOperation)
    (outcome : QwenKvOutcome) (index : ℕ) : Prop :=
  ∀ slot event, pool.slots[index]? = some slot → pool.pendingEvents[index]? = some event →
    ∃ newSlot newEvent, next.slots[index]? = some newSlot ∧
      next.pendingEvents[index]? = some newEvent ∧
      SlotMove index operation outcome slot event newSlot newEvent

/-- A change of the listed slots is a move of each slot. -/
theorem movesAt_updateAll (distinct : indices.Nodup)
    (slots : next.slots = updateAll pool.slots indices change)
    (events : next.pendingEvents = pool.pendingEvents)
    (moves : ∀ index ∈ indices, ∀ slot event, pool.slots[index]? = some slot →
      SlotMove index operation outcome slot event (change slot) event) :
    MovesAt pool next operation outcome index := by
  intro slot event found recorded
  rw [slots, events, getElem?_updateAll distinct]
  by_cases listed : index ∈ indices
  · rw [if_pos listed, found]
    exact ⟨_, _, rfl, recorded, moves index listed slot event found⟩
  rw [if_neg listed]
  exact ⟨slot, event, found, recorded, .stays slot.validTokens⟩

/-- A change of one slot and its event is a move of each slot. -/
theorem movesAt_modify (found : pool.slots[place]? = some slot)
    (slots : next.slots = pool.slots.modify place change)
    (events : next.pendingEvents = pool.pendingEvents.set place newEvent)
    (moves : ∀ event, pool.pendingEvents[place]? = some event →
      SlotMove place operation outcome slot event (change slot)
        newEvent) : MovesAt pool next operation outcome index := by
  intro other event foundOther recorded
  rw [slots, events]
  by_cases here : place = index
  · subst here
    cases found.symm.trans foundOther
    have inside := (List.getElem_of_getElem? recorded).1
    refine ⟨_, newEvent, ?_, getElem?_set_self inside, moves event recorded⟩
    rw [getElem?_modify_eq, found]
    rfl
  refine ⟨other, event, ?_, ?_, .stays other.validTokens⟩
  · rw [getElem?_modify_ne _ _ here]
    exact foundOther
  · rw [getElem?_set_ne here]
    exact recorded

theorem pendingEventAt_of_getElem (recorded : pool.pendingEvents[index]? = some event) :
    pool.pendingEventAt index = event := by
  unfold pendingEventAt
  rw [getD_eq_getElem?_getD, recorded]
  rfl

theorem HandleHolds.listed (held : HandlesHold pool owner handles expected)
    (member : index ∈ handles.map (·.slot)) (found : pool.slots[index]? = some slot) :
    ⟨index, slot.generation⟩ ∈ handles ∧ slot.state = expected := by
  rcases held.of_slot member with ⟨_, listed, holds⟩
  cases found.symm.trans holds.found
  exact ⟨listed, holds.state_eq⟩

theorem Effect.movesAt (effect : Effect pool operation next outcome) :
    MovesAt pool next operation outcome index := by
  cases effect with
  | quiet slots events =>
    intro slot event found recorded
    rw [slots, events]
    exact ⟨slot, event, found, recorded, .stays slot.validTokens⟩
  | reserved named distinct _ _ clean =>
    apply movesAt_updateAll distinct
    · rfl
    · rfl
    intro place member slot event found
    rcases clean place member with ⟨_, foundOther, reservable⟩
    cases found.symm.trans foundOther
    exact .reserved named reservable
  | published held =>
    apply movesAt_updateAll held.distinct
    · rfl
    · rfl
    intro place member slot event found
    exact .published (HandleHolds.listed held member found).2
  | rolledBack held =>
    apply movesAt_updateAll held.distinct
    · rfl
    · rfl
    intro place member slot event found
    exact .rolledBack (HandleHolds.listed held member found).2
  | wrote same =>
    intro slot event found recorded
    rcases same index with ⟨tokens, written⟩
    refine ⟨_, event, ?_, recorded, .stays (tokens slot)⟩
    rw [written, found]
    rfl
  | @released _ _ handles held =>
    intro slot event found recorded
    rw [getElem?_updateAll held.distinct, getElem?_updateAll held.distinct, found, recorded]
    by_cases member : index ∈ handles.map (·.slot)
    · rcases HandleHolds.listed held member found with ⟨listed, state⟩
      rw [if_pos member, if_pos member]
      exact ⟨_, _, rfl, rfl, .released state rfl listed rfl⟩
    rw [if_neg member, if_neg member]
    exact ⟨_, _, rfl, rfl, .stays slot.validTokens⟩
  | reclaimed found pending current =>
    apply movesAt_modify found
    · rfl
    · rfl
    intro event recorded
    rw [pendingEventAt_of_getElem recorded]
    refine .reclaimed pending ?_ rfl
    rw [current]
  | scrubBegun _ found dirty =>
    apply movesAt_modify found
    · rfl
    · rfl
    intro event recorded
    exact .scrubBegun dirty
  | scrubbed found scrubbing current =>
    apply movesAt_modify found
    · rfl
    · rfl
    intro event recorded
    rw [pendingEventAt_of_getElem recorded]
    refine .scrubbed scrubbing ?_ rfl
    rw [current]

/-! ## The states of a run -/

/-- The states in which a slot belongs to a sequence. -/
def hasOwner : QwenKvSlotLifecycle → Bool
  | .admissionReserved | .owned | .reclaimPending => true
  | _ => false

/-- A slot names an owner exactly in the states of an owned slot. -/
def OwnerAgrees (slot : QwenKvSlotState) : Prop :=
  slot.ownerSequenceIndex ≠ kNoOwner ↔ hasOwner slot.state = true

/-- What holds in every state of a run. -/
structure Sound (pool : QwenKvSlotPool) : Prop where
  ready : pool.ready = true
  sized : pool.pendingEvents.length = pool.slots.length
  counted : pool.Counted
  lane : pool.lifecycleCount .scrubbing ≤ 1
  owners : ∀ slot ∈ pool.slots, OwnerAgrees slot

theorem SlotMove.ownerAgrees (move : SlotMove index operation outcome slot event newSlot newEvent)
    (agrees : OwnerAgrees slot) : OwnerAgrees newSlot := by
  cases move with
  | stays => exact agrees
  | reserved named => exact ⟨fun _ => rfl, fun _ => named⟩
  | published state | released state | scrubBegun state =>
    unfold OwnerAgrees at agrees ⊢
    rw [state] at agrees
    exact agrees
  | rolledBack => exact ⟨fun owned => (owned rfl).elim, nofun⟩
  | reclaimed => exact ⟨fun owned => (owned rfl).elim, nofun⟩
  | scrubbed => exact ⟨fun owned => (owned rfl).elim, nofun⟩

theorem SlotMove.generation_le
    (move : SlotMove index operation outcome slot event newSlot newEvent) :
    slot.generation ≤ newSlot.generation := by
  cases move with
  | reserved => exact Nat.le_succ _
  | _ => exact Nat.le_refl _

theorem SameButTokens.length_eq (same : SameButTokens slots others) :
    others.length = slots.length := by
  have ends : ∀ place : ℕ, others[place]? = none ↔ slots[place]? = none := by
    intro place
    rcases same place with ⟨_, written⟩
    rw [written, Option.map_eq_none_iff]
  apply Nat.le_antisymm
  · exact getElem?_eq_none_iff.mp ((ends _).mpr (getElem?_eq_none (Nat.le_refl _)))
  · exact getElem?_eq_none_iff.mp ((ends _).mp (getElem?_eq_none (Nat.le_refl _)))

theorem Effect.frame (effect : Effect pool operation next outcome) :
    next.ready = pool.ready ∧ next.slots.length = pool.slots.length ∧
      next.pendingEvents.length = pool.pendingEvents.length := by
  cases effect with
  | quiet slots events _ ready =>
    rw [slots, events]
    exact ⟨ready, rfl, rfl⟩
  | wrote same => exact ⟨rfl, same.length_eq, rfl⟩
  | reserved | published | rolledBack | released | reclaimed | scrubBegun
  | scrubbed => simp [vacate]

theorem Effect.consistent (effect : Effect pool operation next outcome) :
    outcome ≠ .handles (.error ledgerInconsistent) := by
  cases effect with
  | quiet _ _ _ _ _ consistent => exact consistent
  | _ => nofun

/-- The slot and the event at an index of the pool. -/
theorem Sound.exists_at (sound : pool.Sound) (found : pool.slots[index]? = some slot) :
    ∃ event, pool.pendingEvents[index]? = some event := by
  have inside := (List.getElem_of_getElem? found).1
  rw [← sound.sized] at inside
  exact ⟨_, getElem?_eq_getElem inside⟩

theorem Sound.preserved (sound : pool.Sound)
    (effect : Effect pool operation next outcome) : next.Sound := by
  rcases effect.frame with ⟨ready, slots, events⟩
  rcases effect.shift with ⟨_, _, _, shift⟩
  refine ⟨ready.trans sound.ready, ?_, shift.counted sound.counted, shift.one_lane sound.lane, ?_⟩
  · rw [events, slots]
    exact sound.sized
  · intro newSlot member
    rcases mem_iff_getElem?.mp member with ⟨_, found⟩
    have inside := (List.getElem_of_getElem? found).1
    rw [slots] at inside
    have old := getElem?_eq_getElem inside
    rcases sound.exists_at old with ⟨event, recorded⟩
    rcases effect.movesAt _ event old recorded with ⟨_, _, foundOther, -, move⟩
    cases found.symm.trans foundOther
    exact move.ownerAgrees (sound.owners _ (getElem_mem inside))

/-- A pool whose startup sanitize has succeeded. -/
theorem sound_of_sanitized (created : create slotCount kvBytes metadataBytes = .ok empty)
    (sanitized : empty.completeStartupSanitize clearedKv clearedMetadata succeeded =
      (start, .ok ())) : start.Sound := by
  have sized : empty.pendingEvents.length = empty.slots.length := by
    unfold create at created
    split at created
    · cases created
    split at created
    · cases created
    · cases created
    split at created
    · cases created
    cases created
    simp
  unfold completeStartupSanitize at sanitized
  split at sanitized
  · cases sanitized
  split at sanitized
  · cases sanitized
  cases sanitized
  refine ⟨rfl, ?_, ?_, ?_, ?_⟩
  · simpa using sized
  · simp [Counted, lifecycleCount, countP_replicate]
  · simp [lifecycleCount, countP_replicate]
  · intro slot member
    rcases mem_map.mp member with ⟨-, -, rfl⟩
    exact ⟨fun owned => (owned rfl).elim, nofun⟩

/-! ## Handles -/

/-- The handles that the operations of a history have handed out. -/
def issuedHandles (history : KvHistory) : List QwenKvBlockHandle :=
  history.flatMap fun entry => issued entry.outcome

/-- A handed out handle has just become the current one of its slot. -/
theorem Effect.issued_fresh (effect : Effect pool operation next outcome) :
    (issued outcome).Nodup ∧ ∀ handle ∈ issued outcome, ∃ slot newSlot,
      pool.slots[handle.slot]? = some slot ∧ Reservable slot ∧
      next.slots[handle.slot]? = some newSlot ∧
      slot.generation < handle.generation ∧
      handle.generation ≤ newSlot.generation := by
  cases effect with
  | quiet _ _ _ _ nothing =>
    rw [nothing]
    exact ⟨.nil, nofun⟩
  | published | rolledBack | wrote | released | reclaimed | scrubBegun
  | scrubbed => exact ⟨.nil, nofun⟩
  | @reserved owner _ _ _ distinct _ _ clean =>
    constructor
    · refine List.Pairwise.map _ ?_ distinct
      intro first second different same
      exact different (congrArg QwenKvBlockHandle.slot same)
    · intro handle member
      rcases mem_map.mp member with ⟨place, listed, rfl⟩
      rcases clean place listed with ⟨slot, found, reservable⟩
      have current : (pool.slotAt place).generation = slot.generation := by
        unfold slotAt
        rw [getD_eq_getElem?_getD, found]
        rfl
      refine ⟨slot, reservedSlot owner slot, found, reservable, ?_, ?_, ?_⟩
      · rw [getElem?_updateAll distinct, if_pos listed, found]
        rfl
      · rw [current]
        exact Nat.lt_succ_self _
      · rw [current]
        exact Nat.le_refl _

/-- Every issued handle is issued once and is not ahead of its slot. -/
structure HandlesIssued (history : KvHistory) (pool : QwenKvSlotPool) : Prop where
  distinct : (issuedHandles history).Nodup
  behind : ∀ handle ∈ issuedHandles history, ∃ slot,
    pool.slots[handle.slot]? = some slot ∧ handle.generation ≤ slot.generation

theorem issuedHandles_snoc (history : KvHistory) (entry : KvEntry) :
    issuedHandles (history ++ [entry]) = issuedHandles history ++ issued entry.outcome := by
  unfold issuedHandles
  rw [flatMap_append, flatMap_singleton]

theorem HandlesIssued.preserved (sound : pool.Sound) (ledger : HandlesIssued history pool)
    (effect : Effect pool operation next outcome) :
    HandlesIssued (history ++ [⟨pool, operation, next, outcome⟩]) next := by
  rcases effect.issued_fresh with ⟨distinct, fresh⟩
  constructor
  · rw [issuedHandles_snoc]
    refine nodup_append.mpr ⟨ledger.distinct, distinct, ?_⟩
    rintro handle earlier _ now rfl
    rcases ledger.behind handle earlier with ⟨slot, found, behind⟩
    rcases fresh handle now with ⟨_, -, foundCurrent, -, -, _, -⟩
    cases found.symm.trans foundCurrent
    omega
  · intro handle member
    rw [issuedHandles_snoc] at member
    rcases mem_append.mp member with earlier | now
    · rcases ledger.behind handle earlier with ⟨slot, found, behind⟩
      rcases sound.exists_at found with ⟨event, recorded⟩
      rcases effect.movesAt slot event found recorded with ⟨newSlot, _, foundNew, -, move⟩
      exact ⟨newSlot, foundNew, Nat.le_trans behind move.generation_le⟩
    rcases fresh handle now with ⟨-, newSlot, -, -, foundNew, -, behind⟩
    exact ⟨newSlot, foundNew, behind⟩

/-! ## Scrubbing before reuse -/

section

variable (index : ℕ)

/-- The entry releases the slot and records the event of its last use. -/
def Releases (lastUse : QwenKvCompletionEvent) (entry : KvEntry) : Prop :=
  ∃ owner handles generation, entry.action = .release owner handles lastUse ∧
    ⟨index, generation⟩ ∈ handles ∧ entry.outcome = .status (.ok ())

/-- The entry reclaims the slot after the given event. -/
def Reclaims (lastUse : QwenKvCompletionEvent) (entry : KvEntry) : Prop := ∃ generation,
    entry.action = .completeReclaimEvent ⟨index, generation⟩ lastUse true true ∧
    entry.outcome = .status (.ok ())

/-- The entry completes a scrub that cleared the full slot. -/
def Scrubs (entry : KvEntry) : Prop := ∃ generation event, entry.action =
      .completeScrub ⟨index, generation⟩ event kSlotPayloadBytes true true ∧
    entry.outcome = .status (.ok ())

def ReleasedIn (lastUse : QwenKvCompletionEvent) (entries : KvHistory) : Prop :=
  ∃ entry ∈ entries, Releases index lastUse entry

/-- The slot was released and then reclaimed after the recorded event. -/
def ReclaimedIn (entries : KvHistory) : Prop := ∃ earlier entry later lastUse,
    entries = earlier ++ entry :: later ∧
    ReleasedIn index lastUse earlier ∧ Reclaims index lastUse entry

/-- The slot was released, reclaimed and then scrubbed. -/
def ScrubbedIn (entries : KvHistory) : Prop := ∃ earlier entry later,
    entries = earlier ++ entry :: later ∧
    ReclaimedIn index earlier ∧ Scrubs index entry

/-- How far a slot that was owned has come on its way to a new owner. -/
def Since (entries : KvHistory) (slot : QwenKvSlotState) (event : QwenKvCompletionEvent) : Prop :=
  match slot.state with
  | .owned => True
  | .reclaimPending => ReleasedIn index event entries
  | .freeDirty | .scrubbing => ReclaimedIn index entries
  | .freeClean | .admissionReserved | .uninitialized => ScrubbedIn index entries

end

theorem ReleasedIn.snoc (released : ReleasedIn index lastUse entries)
    (entry : KvEntry) : ReleasedIn index lastUse (entries ++ [entry]) := by
  rcases released with ⟨other, member, releases⟩
  exact ⟨other, mem_append_left _ member, releases⟩

theorem ReclaimedIn.snoc (reclaimed : ReclaimedIn index entries)
    (entry : KvEntry) : ReclaimedIn index (entries ++ [entry]) := by
  rcases reclaimed with ⟨earlier, other, later, lastUse, rfl, rest⟩
  exact ⟨earlier, other, later ++ [entry], lastUse, by simp, rest⟩

theorem ScrubbedIn.snoc (scrubbed : ScrubbedIn index entries)
    (entry : KvEntry) : ScrubbedIn index (entries ++ [entry]) := by
  rcases scrubbed with ⟨earlier, other, later, rfl, rest⟩
  exact ⟨earlier, other, later ++ [entry], by simp, rest⟩

theorem Since.snoc (since : Since index entries slot event) (entry : KvEntry) :
    Since index (entries ++ [entry]) slot event := by
  unfold Since at since ⊢
  split
  case h_1 => trivial
  case h_2 state =>
    rw [state] at since
    exact ReleasedIn.snoc since entry
  case h_3 state =>
    rw [state] at since
    exact ReclaimedIn.snoc since entry
  case h_4 state =>
    rw [state] at since
    exact ReclaimedIn.snoc since entry
  case h_5 state =>
    rw [state] at since
    exact ScrubbedIn.snoc since entry
  case h_6 state =>
    rw [state] at since
    exact ScrubbedIn.snoc since entry
  case h_7 state =>
    rw [state] at since
    exact ScrubbedIn.snoc since entry

/-- A move brings the slot at most one stage further. -/
theorem SlotMove.since (move : SlotMove index operation outcome slot event newSlot newEvent)
    (since : Since index entries slot event) :
    Since index (entries ++ [⟨pool, operation, next, outcome⟩]) newSlot
      newEvent := by
  cases move with
  | stays => exact since.snoc _
  | reserved _ reservable =>
    unfold Since at since
    rw [reservable.1] at since
    exact ScrubbedIn.snoc since _
  | published => trivial
  | rolledBack state =>
    unfold Since at since
    rw [state] at since
    exact ScrubbedIn.snoc since _
  | released _ called listed succeeded =>
    exact ⟨_, mem_append_right _ (.head _), _, _, _, called, listed, succeeded⟩
  | reclaimed state called succeeded =>
    unfold Since at since
    rw [state] at since
    exact ⟨entries, _, [], event, rfl, since, _, called, succeeded⟩
  | scrubBegun state =>
    unfold Since at since
    rw [state] at since
    exact ReclaimedIn.snoc since _
  | scrubbed state called succeeded =>
    unfold Since at since
    rw [state] at since
    exact ⟨entries, _, [], rfl, since, _, _, called, succeeded⟩

/--
The slots that were owned at some point of a history, followed from there.
The entry that begins `entries` finds the slot owned.
-/
def Followed (history : KvHistory) (pool : QwenKvSlotPool) : Prop :=
  ∀ earlier owned entries index slot event, history = earlier ++ owned :: entries →
    (owned.before.slotAt index).state = .owned →
    pool.slots[index]? = some slot →
    pool.pendingEvents[index]? = some event →
    Since index (owned :: entries) slot event

theorem slotAt_of_getElem (found : pool.slots[index]? = some slot) : pool.slotAt index = slot := by
  unfold slotAt
  rw [getD_eq_getElem?_getD, found]
  rfl

theorem Followed.preserved (sound : pool.Sound) (followed : Followed history pool)
    (effect : Effect pool operation next outcome) :
    Followed (history ++ [⟨pool, operation, next, outcome⟩]) next := by
  intro earlier owned entries index newSlot newEvent recorded was foundNew eventNew
  have inside := (List.getElem_of_getElem? foundNew).1
  rw [effect.frame.2.1] at inside
  have found := getElem?_eq_getElem inside
  rcases sound.exists_at found with ⟨event, awaited⟩
  rcases effect.movesAt _ event found awaited with ⟨_, _, foundOther, eventOther, move⟩
  cases foundNew.symm.trans foundOther
  cases eventNew.symm.trans eventOther
  rcases eq_nil_or_concat entries with rfl | ⟨rest, _, rfl⟩
  · rcases append_inj' recorded rfl with ⟨-, same⟩
    cases same
    have start : Since index [] pool.slots[index] event := by
      rw [slotAt_of_getElem found] at was
      unfold Since
      rw [was]
      trivial
    exact move.since start
  rw [concat_eq_append, ← cons_append, ← append_assoc] at recorded
  rcases append_inj' recorded rfl with ⟨before, same⟩
  cases same
  rw [concat_eq_append]
  exact move.since (followed earlier owned rest index _ event before was found awaited)

/-! ## The ledger of a run -/

/-- A run of any operations. -/
abbrev KvRun (start : QwenKvSlotPool) := Run execute (fun _ _ _ => True) start

theorem KvRun.invariants (initial : start.Sound) (run : KvRun start history pool) :
    pool.Sound ∧ HandlesIssued history pool ∧ Followed history pool ∧ ∀ entry ∈ history,
      entry.outcome ≠ .handles (.error ledgerInconsistent) := by
  refine run.invariant (fun history pool =>
      pool.Sound ∧ HandlesIssued history pool ∧ Followed history pool ∧
        ∀ entry ∈ history, entry.outcome ≠ .handles _) ?_ ?_
  · refine ⟨initial, ⟨.nil, ?_⟩, ?_, ?_⟩
    · exact fun handle member => (not_mem_nil member).elim
    · intro earlier owned entries index slot event recorded
      simp at recorded
    · exact fun entry member => (not_mem_nil member).elim
  · rintro _ _ operation - ⟨sound, handles, followed, consistent⟩ -
    have effect := execute_effect sound.ready sound.counted operation
    refine ⟨sound.preserved effect, handles.preserved sound effect,
      followed.preserved sound effect, ?_⟩
    intro entry member
    rcases mem_append.mp member with earlier | last
    · exact consistent entry earlier
    rw [mem_singleton.mp last]
    exact effect.consistent

/--
In every run from a sanitized pool the credits count the clean slots, a slot
has an owner exactly while it is reserved, owned or waiting to be reclaimed,
at most one slot is being scrubbed, no handle is issued twice and the ledger
check never fails.  A slot that an entry finds owned has been released,
reclaimed after the recorded event and scrubbed in full before a later entry
reserves it.
-/
theorem kv_slot_pool_ledger {empty start : QwenKvSlotPool}
    {slotCount kvBytes metadataBytes clearedKv clearedMetadata : ℕ} {succeeded : Bool}
    (created : create slotCount kvBytes metadataBytes = .ok empty)
    (sanitized : empty.completeStartupSanitize clearedKv clearedMetadata succeeded =
        (start, .ok ())) {history : KvHistory} (run : KvRun start history pool) :
    pool.cleanCredits = pool.lifecycleCount .freeClean ∧
    (∀ slot ∈ pool.slots, slot.ownerSequenceIndex ≠ kNoOwner ↔
        slot.state = .admissionReserved ∨ slot.state = .owned ∨ slot.state = .reclaimPending) ∧
    pool.lifecycleCount .scrubbing ≤ 1 ∧ (issuedHandles history).Nodup ∧
    (∀ entry ∈ history, entry.outcome ≠ .handles (.error ledgerInconsistent)) ∧
    (∀ earlier owned entries reserved later index,
      history = earlier ++ owned :: entries ++ reserved :: later →
      (owned.before.slotAt index).state = .owned →
      (∃ handle ∈ issued reserved.outcome, handle.slot = index) →
      ScrubbedIn index (owned :: entries)) := by
  have initial := sound_of_sanitized created sanitized
  rcases KvRun.invariants initial run with ⟨sound, handles, -, consistent⟩
  refine ⟨sound.counted, ?_, sound.lane, handles.distinct, consistent, ?_⟩
  · intro slot member
    refine (sound.owners slot member).trans ?_
    cases slot.state <;> decide
  · rintro earlier owned entries reserved _ _ rfl was ⟨handle, handed, rfl⟩
    rcases run.split with ⟨before, -, performed⟩
    rcases KvRun.invariants initial before with ⟨soundThen, -, followed, -⟩
    have effect := execute_effect soundThen.ready soundThen.counted reserved.action
    rw [performed] at handed
    rcases effect.issued_fresh.2 handle handed with ⟨slot, _, found, reservable, -⟩
    rcases soundThen.exists_at found with ⟨event, awaited⟩
    have since := followed earlier owned entries handle.slot slot event rfl was found awaited
    unfold Since at since
    rw [reservable.1] at since
    exact since

/-- A sanitized pool of one slot. -/
def onePool : QwenKvSlotPool where
  slots := [⟨1, kNoOwner, 0, .freeClean, 0, 0⟩]
  pendingEvents := [⟨0, 0⟩]
  kvBackingBytes := 1835008
  metadataBackingBytes := 16
  cleanCredits := 1
  ready := true

/-- The slot is owned, given back, scrubbed and reserved again. -/
def reuseScript : List (QwenKvSlotPool → QwenKvOperation) := [fun _ => .reserve 0 1,
    fun _ => .publish 0 [⟨0, 2⟩], fun _ => .release 0 [⟨0, 2⟩] ⟨5, 1⟩,
    fun _ => .completeReclaimEvent ⟨0, 2⟩ ⟨5, 1⟩ true true, fun _ => .beginNextScrub ⟨6, 1⟩,
    fun _ => .completeScrub ⟨0, 2⟩ ⟨6, 1⟩ 1835008 true true, fun _ => .reserve 1 1]

theorem kv_slot_pool_ledger_reused : ∃ empty history pool, create 1 1835008 16 = .ok empty ∧
      empty.completeStartupSanitize 1835008 16 true = (onePool, .ok ()) ∧
      KvRun onePool history pool ∧
      issuedHandles history = [⟨0, 2⟩, ⟨0, 3⟩] ∧ (issuedHandles history).Nodup ∧
      pool.cleanCredits = pool.lifecycleCount .freeClean := by
  let empty : QwenKvSlotPool :=
    { slots := [⟨0, kNoOwner, 0, .uninitialized, 0, 0⟩]
      pendingEvents := [⟨0, 0⟩]
      kvBackingBytes := 1835008
      metadataBackingBytes := 16 }
  have created : create 1 1835008 16 = .ok empty := by decide
  have sanitized : empty.completeStartupSanitize 1835008 16 true = (onePool, .ok ()) := by decide
  have run : KvRun onePool (runScript execute [] onePool reuseScript).1
      (runScript execute [] onePool reuseScript).2 :=
    Run.start.runScript reuseScript (by simp [reuseScript, ScriptAllowed])
  have ledger := kv_slot_pool_ledger created sanitized run
  refine ⟨empty, _, _, created, sanitized, run, ?_, ledger.2.2.2.1, ledger.1⟩
  decide

end QwenKvSlotPool

end Pih
