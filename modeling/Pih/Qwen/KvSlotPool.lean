import Pih.Core.Status
import Pih.Library.Tables
import Pih.Library.Runs

/-!
# The slot pool of the key-value cache

The cache of a Qwen model is a fixed number of slots of equal size.  A slot
is reserved for a sequence, published with it, released when the sequence
ends, reclaimed when the device has stopped using it, and scrubbed before it
can be reserved again.  A handle names a slot and the generation of its
reservation.

The two arrays that the source keeps in step, the slot states and the events
that the slots wait for, are two lists here as well.
-/

namespace Pih

/-- The stations of a slot. -/
inductive QwenKvSlotLifecycle where
  | uninitialized
  | freeClean
  | admissionReserved
  | owned
  | reclaimPending
  | freeDirty
  | scrubbing
deriving DecidableEq, Repr

/-- A slot at one of its generations. -/
structure QwenKvBlockHandle where
  slot : ℕ
  generation : ℕ
deriving DecidableEq, Repr

structure QwenKvSlotState where
  generation : ℕ
  ownerSequenceIndex : ℕ
  validTokens : ℕ
  state : QwenKvSlotLifecycle
  reservedZeroU8 : ℕ
  reservedZeroU32 : ℕ
deriving DecidableEq, Repr

structure QwenKvCompletionEvent where
  handle : ℕ
  generation : ℕ
deriving DecidableEq, Repr

structure QwenKvScrubWork where
  slot : QwenKvBlockHandle
  bytes : ℕ
deriving DecidableEq, Repr

/-- The slots, their events and the clean credits. -/
structure QwenKvSlotPool where
  slots : List QwenKvSlotState
  pendingEvents : List QwenKvCompletionEvent
  kvBackingBytes : ℕ
  metadataBackingBytes : ℕ
  cleanCredits : ℕ := 0
  nextSequenceGeneration : ℕ := 1
  ready : Bool := false
  failed : Bool := false
deriving DecidableEq

namespace QwenKvSlotPool

def kTokensPerSlot : ℕ := 16

def kSlotPayloadBytes : ℕ := 1835008

def kNoOwner : ℕ := u32Max

def kMaximumSlots : ℕ := 4681

/-- The size of a slot state in the metadata backing. -/
def slotStateBytes : ℕ := 16

def create (slotCount kvBackingBytes metadataBackingBytes : ℕ) : Result QwenKvSlotPool :=
  if slotCount = 0 ∨ slotCount > kMaximumSlots then
    .error (.invalidArgument "Qwen KV slot count is outside profile bounds")
  else
    match checkedMulU64 slotCount kSlotPayloadBytes, checkedMulU64 slotCount slotStateBytes with
    | .error status, _ => .error status
    | .ok _, .error status => .error status
    | .ok requiredKv, .ok requiredMetadata =>
      if kvBackingBytes < requiredKv ∨ kvBackingBytes - requiredKv ≥ kSlotPayloadBytes ∨
          metadataBackingBytes < requiredMetadata then
        .error (.invalidArgument "Qwen KV backing does not match slot capacity")
      else
        .ok
          { slots := List.replicate slotCount ⟨0, kNoOwner, 0, .uninitialized, 0, 0⟩
            pendingEvents := List.replicate slotCount ⟨0, 0⟩
            kvBackingBytes
            metadataBackingBytes }

variable (pool : QwenKvSlotPool)

/-- Everything was cleared, and the pool becomes ready. -/
def completeStartupSanitize (clearedKvBytes clearedMetadataBytes : ℕ)
    (completionEventSucceeded : Bool) : QwenKvSlotPool × Result Unit :=
  if pool.failed ∨ pool.ready then
    (pool, .error (.failedPrecondition "Qwen KV startup sanitize is not in initial state"))
  else if ¬ completionEventSucceeded ∨ clearedKvBytes ≠ pool.kvBackingBytes ∨
      clearedMetadataBytes ≠ pool.metadataBackingBytes then
    ({ pool with failed := true }, .error (.failedPrecondition
      "Qwen KV startup sanitize did not cover the complete backing"))
  else
    ({ pool with
        slots := pool.slots.map fun _ => ⟨1, kNoOwner, 0, .freeClean, 0, 0⟩
        cleanCredits := pool.slots.length
        ready := true }, .ok ())

/-- The pool refuses its operations. -/
def refuses : Bool := ¬ pool.ready ∨ pool.failed

def acquireSequenceGeneration : QwenKvSlotPool × Result ℕ :=
  if pool.refuses then (pool, .error (.failedPrecondition "Qwen KV pool is not ready"))
  else if pool.nextSequenceGeneration = u32Max then
    ({ pool with failed := true }, .error (.resourceExhausted
      "Qwen sequence generation identity is exhausted"))
  else
    ({ pool with nextSequenceGeneration := pool.nextSequenceGeneration + 1 },
      .ok pool.nextSequenceGeneration)

/-! ## Reservation -/

/-- The loop of `reserve` that collects the first clean slots. -/
def selectClean : ℕ → ℕ → List QwenKvSlotState → Result (List ℕ)
  | _, 0, _ => .ok []
  | _, _ + 1, [] => .ok []
  | ordinal, needed + 1, slot :: rest =>
    if slot.state = .freeClean then
      if slot.generation = u32Max then
        .error (.failedPrecondition "Qwen KV generation wrap requires an epoch rebuild")
      else
        match selectClean (ordinal + 1) needed rest with
        | .error status => .error status
        | .ok selected => .ok (ordinal :: selected)
    else selectClean (ordinal + 1) (needed + 1) rest

/-- The state of a slot that has just been reserved. -/
def reservedSlot (owner : ℕ) (slot : QwenKvSlotState) : QwenKvSlotState :=
  { slot with
    generation := slot.generation + 1
    ownerSequenceIndex := owner
    validTokens := 0
    state := .admissionReserved }

/-- A slot outside the pool; no checked handle reaches it. -/
def absentSlot : QwenKvSlotState := ⟨0, kNoOwner, 0, .uninitialized, 0, 0⟩

def slotAt (ordinal : ℕ) : QwenKvSlotState := pool.slots.getD ordinal absentSlot

def pendingEventAt (ordinal : ℕ) : QwenKvCompletionEvent := pool.pendingEvents.getD ordinal ⟨0, 0⟩

variable (ownerSequenceIndex : ℕ)

/-- Reserve clean slots and raise their generations. -/
def reserve (slotCount : ℕ) : QwenKvSlotPool × Result (List QwenKvBlockHandle) :=
  if pool.refuses then (pool, .error (.failedPrecondition "Qwen KV pool is not ready"))
  else if ownerSequenceIndex = kNoOwner ∨ slotCount = 0 then
    (pool, .error (.invalidArgument "Qwen KV reservation identity is invalid"))
  else if pool.slots.any fun slot => slot.ownerSequenceIndex = ownerSequenceIndex then
    (pool, .error (.failedPrecondition
      "Qwen KV owner already has a live reservation or allocation"))
  else if slotCount > pool.cleanCredits then
    (pool, .error (.resourceExhausted "Qwen KV clean credits are exhausted"))
  else
    match selectClean 0 slotCount pool.slots with
    | .error status => (pool, .error status)
    | .ok selected =>
      if selected.length ≠ slotCount then
        ({ pool with failed := true }, .error
          (.internal "Qwen KV clean credit ledger is inconsistent"))
      else
        ({ pool with
            slots := updateAll pool.slots selected (reservedSlot ownerSequenceIndex)
            cleanCredits := pool.cleanCredits - slotCount },
          .ok (selected.map fun ordinal => ⟨ordinal, (pool.slotAt ordinal).generation + 1⟩))

/-! ## Checks on handles -/

variable (handle : QwenKvBlockHandle)

def validateHandle (owner : ℕ) (expected : QwenKvSlotLifecycle) : Result Unit :=
  match pool.slots[handle.slot]? with
  | none => .error (.invalidArgument "Qwen KV handle slot is out of range")
  | some slot =>
    if handle.generation ≠ slot.generation ∨
        slot.ownerSequenceIndex ≠ owner ∨ slot.state ≠ expected ∨
        slot.reservedZeroU8 ≠ 0 ∨ slot.reservedZeroU32 ≠ 0 then
      .error (.failedPrecondition "Qwen KV handle is stale or in wrong state")
    else .ok ()

/-- The loop of `validate_exact_owner_set`, with the slots seen so far. -/
def validateHandles (pool : QwenKvSlotPool) (owner : ℕ) (expected : QwenKvSlotLifecycle) :
    List ℕ → List QwenKvBlockHandle → Result Unit
  | _, [] => .ok ()
  | seen, handle :: rest =>
    if handle.slot ∈ seen then .error (.invalidArgument "Qwen KV handle is duplicated")
    else
      match pool.validateHandle handle owner expected with
      | .error status => .error status
      | .ok () => pool.validateHandles owner expected (handle.slot :: seen) rest

def validateExactOwnerSet (owner : ℕ) (handles : List QwenKvBlockHandle)
    (expected : QwenKvSlotLifecycle) : Result Unit :=
  let expectedCount :=
    pool.slots.countP fun slot => slot.ownerSequenceIndex = owner ∧ slot.state = expected
  if handles.length ≠ expectedCount then
    .error (.failedPrecondition "Qwen KV transaction handle set is incomplete")
  else pool.validateHandles owner expected [] handles

/-! ## The life of a reservation -/

variable (handles : List QwenKvBlockHandle)

def publish : QwenKvSlotPool × Result Unit :=
  if pool.refuses ∨ handles = [] then
    (pool, .error (.failedPrecondition "Qwen KV publish is not permitted"))
  else
    match pool.validateExactOwnerSet ownerSequenceIndex handles .admissionReserved with
    | .error status => (pool, .error status)
    | .ok () =>
      ({ pool with
          slots := updateAll pool.slots (handles.map (·.slot)) fun slot =>
              { slot with state := .owned } }, .ok ())

/-- The state of a slot whose reservation is undone. -/
def rolledBackSlot (slot : QwenKvSlotState) : QwenKvSlotState :=
  { slot with ownerSequenceIndex := kNoOwner, validTokens := 0, state := .freeClean }

def rollback : QwenKvSlotPool × Result Unit :=
  if pool.refuses ∨ handles = [] then
    (pool, .error (.failedPrecondition "Qwen KV rollback is not permitted"))
  else
    match pool.validateExactOwnerSet ownerSequenceIndex handles .admissionReserved with
    | .error status => (pool, .error status)
    | .ok () =>
      ({ pool with
          slots := updateAll pool.slots (handles.map (·.slot)) rolledBackSlot
          cleanCredits := pool.cleanCredits + handles.length }, .ok ())

/-! ## Valid tokens -/

def commitValidTokens (validTokens : ℕ) : QwenKvSlotPool × Result Unit :=
  if pool.refuses ∨ validTokens = 0 ∨ validTokens > kTokensPerSlot then
    (pool, .error (.failedPrecondition "Qwen KV valid-token commit is not permitted"))
  else
    match pool.validateHandle handle ownerSequenceIndex .owned with
    | .error status => (pool, .error status)
    | .ok () =>
      if validTokens < (pool.slotAt handle.slot).validTokens then
        (pool, .error (.invalidArgument "Qwen KV valid tokens cannot move backward"))
      else
        ({ pool with
            slots := pool.slots.modify handle.slot fun slot => { slot with validTokens } }, .ok ())

variable (committedTokens : ℕ)

/-- The tokens of a committed prefix that fall into one of its slots. -/
def prefixTarget (index : ℕ) : ℕ :=
  let start := index * kTokensPerSlot
  let remaining := if committedTokens > start then committedTokens - start else 0
  if remaining > kTokensPerSlot then kTokensPerSlot else remaining

/-- A committed prefix fits into its slots. -/
def prefixFits : Bool :=
  ¬ (handles = [] ∨ committedTokens = 0 ∨ committedTokens > handles.length * kTokensPerSlot)

def setValidTokens (slots : List QwenKvSlotState) (handle : QwenKvBlockHandle)
    (validTokens : ℕ) : List QwenKvSlotState :=
  slots.modify handle.slot fun slot => { slot with validTokens }

/-- The second loop of `commit_prefix`, from a position in the handles. -/
def writeTargets (committedTokens : ℕ) :
    ℕ → List QwenKvBlockHandle → List QwenKvSlotState → List QwenKvSlotState
  | _, [], slots => slots
  | index, handle :: rest, slots =>
    writeTargets committedTokens (index + 1) rest
      (setValidTokens slots handle (prefixTarget committedTokens index))

/-- Record that the first tokens of a sequence are valid. -/
def commitPrefix : QwenKvSlotPool × Result Unit :=
  if pool.refuses ∨ ¬ prefixFits handles committedTokens then
    (pool, .error (.invalidArgument "Qwen KV committed prefix is invalid"))
  else
    match pool.validateExactOwnerSet ownerSequenceIndex handles .owned with
    | .error status => (pool, .error status)
    | .ok () =>
      if handles.zipIdx.any fun entry =>
          prefixTarget committedTokens entry.2 < (pool.slotAt entry.1.slot).validTokens then
        (pool, .error (.invalidArgument "Qwen KV committed prefix cannot move backward"))
      else ({ pool with slots := writeTargets committedTokens 0 handles pool.slots }, .ok ())

/-- The loop of `project_prefix`, which checks as it writes. -/
def projectTargets (committedTokens : ℕ) : ℕ → List QwenKvBlockHandle → List QwenKvSlotState →
      Result (List QwenKvSlotState)
  | _, [], slots => .ok slots
  | index, handle :: rest, slots =>
    let target := prefixTarget committedTokens index
    if target < (slots.getD handle.slot absentSlot).validTokens then
      .error (.invalidArgument "Qwen KV projected prefix cannot move backward")
    else projectTargets committedTokens (index + 1) rest (setValidTokens slots handle target)

def projectPrefix : Result (List QwenKvSlotState) :=
  if pool.refuses ∨ ¬ prefixFits handles committedTokens then
    .error (.invalidArgument "Qwen KV projected prefix is invalid")
  else
    match pool.validateExactOwnerSet ownerSequenceIndex handles .owned with
    | .error status => .error status
    | .ok () => projectTargets committedTokens 0 handles pool.slots

/-! ## Reclaiming and scrubbing -/

def release (lastUseEvent : QwenKvCompletionEvent) : QwenKvSlotPool × Result Unit :=
  if pool.refuses ∨ handles = [] ∨ lastUseEvent.handle = 0 ∨ lastUseEvent.generation = 0 then
    (pool, .error (.failedPrecondition "Qwen KV release is not permitted"))
  else
    match pool.validateExactOwnerSet ownerSequenceIndex handles .owned with
    | .error status => (pool, .error status)
    | .ok () =>
      let released := handles.map (·.slot)
      ({ pool with
          slots := updateAll pool.slots released fun slot => { slot with state := .reclaimPending }
          pendingEvents := updateAll pool.pendingEvents released fun _ => lastUseEvent }, .ok ())

variable (event : QwenKvCompletionEvent)

/-- The slot waits in the given state for the given event. -/
def awaits (expected : QwenKvSlotLifecycle) : Bool := (pool.slotAt handle.slot).state = expected ∧
    (pool.slotAt handle.slot).generation = handle.generation ∧
    (pool.pendingEventAt handle.slot).handle = event.handle ∧
    (pool.pendingEventAt handle.slot).generation = event.generation

/-- The slot loses its owner and event and enters the given state. -/
def vacate (ordinal : ℕ) (state : QwenKvSlotLifecycle) : QwenKvSlotPool :=
  { pool with
    slots := pool.slots.modify ordinal fun slot =>
        { slot with ownerSequenceIndex := kNoOwner, validTokens := 0, state }
    pendingEvents := pool.pendingEvents.set ordinal ⟨0, 0⟩ }

/-- The last use of a slot has ended. -/
def completeReclaimEvent (eventReady eventSucceeded : Bool) : QwenKvSlotPool × Result Unit :=
  if pool.refuses ∨ handle.slot ≥ pool.slots.length then
    (pool, .error (.failedPrecondition "Qwen KV reclaim completion is not permitted"))
  else if ¬ pool.awaits handle event .reclaimPending then
    (pool, .error (.failedPrecondition "Qwen KV reclaim event is stale"))
  else if ¬ eventReady then (pool, .error (.unavailable "Qwen KV last-use event is not complete"))
  else if ¬ eventSucceeded then
    ({ pool with failed := true }, .error (.failedPrecondition "Qwen KV last-use event failed"))
  else (pool.vacate handle.slot .freeDirty, .ok ())

def lifecycleCount (state : QwenKvSlotLifecycle) : ℕ :=
  pool.slots.countP fun slot => slot.state = state

/-- Start to scrub the first dirty slot. -/
def beginNextScrub (scrubCompletionEvent : QwenKvCompletionEvent) :
    QwenKvSlotPool × Result QwenKvScrubWork :=
  if pool.refuses ∨ scrubCompletionEvent.handle = 0 ∨ scrubCompletionEvent.generation = 0 then
    (pool, .error (.failedPrecondition "Qwen KV scrub cannot begin"))
  else if pool.lifecycleCount .scrubbing ≠ 0 then
    (pool, .error (.resourceExhausted "Qwen KV scrub lane is busy"))
  else
    match pool.slots.findIdx? fun slot => slot.state = .freeDirty with
    | none => (pool, .error (.unavailable "Qwen KV dirty ring is empty"))
    | some ordinal =>
      ({ pool with
          slots := pool.slots.modify ordinal fun slot => { slot with state := .scrubbing }
          pendingEvents := pool.pendingEvents.set ordinal scrubCompletionEvent },
        .ok ⟨⟨ordinal, (pool.slotAt ordinal).generation⟩, kSlotPayloadBytes⟩)

/-- A scrubbed slot becomes clean. -/
def completeScrub (clearedBytes : ℕ) (eventReady eventSucceeded : Bool) :
    QwenKvSlotPool × Result Unit :=
  if pool.refuses ∨ handle.slot ≥ pool.slots.length then
    (pool, .error (.failedPrecondition "Qwen KV scrub completion is not permitted"))
  else if ¬ pool.awaits handle event .scrubbing then
    (pool, .error (.failedPrecondition "Qwen KV scrub event is stale"))
  else if ¬ eventReady then (pool, .error (.unavailable "Qwen KV scrub is not complete"))
  else if ¬ eventSucceeded ∨ clearedBytes ≠ kSlotPayloadBytes then
    ({ pool with failed := true }, .error (.failedPrecondition
      "Qwen KV scrub did not clear the complete slot"))
  else ({ pool.vacate handle.slot .freeClean with cleanCredits := pool.cleanCredits + 1 }, .ok ())

end QwenKvSlotPool

/-! ## Operations -/

inductive QwenKvOperation where
  | completeStartupSanitize (clearedKvBytes clearedMetadataBytes : ℕ)
    (completionEventSucceeded : Bool)
  | acquireSequenceGeneration
  | reserve (ownerSequenceIndex slotCount : ℕ)
  | publish (ownerSequenceIndex : ℕ) (handles : List QwenKvBlockHandle)
  | rollback (ownerSequenceIndex : ℕ) (handles : List QwenKvBlockHandle)
  | commitValidTokens (ownerSequenceIndex : ℕ) (handle : QwenKvBlockHandle) (validTokens : ℕ)
  | commitPrefix (ownerSequenceIndex : ℕ) (handles : List QwenKvBlockHandle) (committedTokens : ℕ)
  | projectPrefix (ownerSequenceIndex : ℕ) (handles : List QwenKvBlockHandle) (committedTokens : ℕ)
  | release (ownerSequenceIndex : ℕ) (handles : List QwenKvBlockHandle)
    (lastUseEvent : QwenKvCompletionEvent)
  | completeReclaimEvent (handle : QwenKvBlockHandle) (event : QwenKvCompletionEvent)
    (eventReady eventSucceeded : Bool)
  | beginNextScrub (scrubCompletionEvent : QwenKvCompletionEvent)
  | completeScrub (handle : QwenKvBlockHandle) (event : QwenKvCompletionEvent)
    (clearedBytes : ℕ) (eventReady eventSucceeded : Bool)
deriving DecidableEq

/-- The result of an operation. -/
inductive QwenKvOutcome where
  | status (result : Result Unit)
  | generation (result : Result ℕ)
  | handles (result : Result (List QwenKvBlockHandle))
  | projection (result : Result (List QwenKvSlotState))
  | scrub (result : Result QwenKvScrubWork)
deriving DecidableEq

namespace QwenKvSlotPool

/-- Perform one operation. -/
def execute (pool : QwenKvSlotPool) : QwenKvOperation → QwenKvSlotPool × QwenKvOutcome
  | .completeStartupSanitize kv metadata succeeded =>
    let answer := pool.completeStartupSanitize kv metadata succeeded
    (answer.1, .status answer.2)
  | .acquireSequenceGeneration =>
    let answer := pool.acquireSequenceGeneration
    (answer.1, .generation answer.2)
  | .reserve owner slotCount =>
    let answer := pool.reserve owner slotCount
    (answer.1, .handles answer.2)
  | .publish owner handles =>
    let answer := pool.publish owner handles
    (answer.1, .status answer.2)
  | .rollback owner handles =>
    let answer := pool.rollback owner handles
    (answer.1, .status answer.2)
  | .commitValidTokens owner handle validTokens =>
    let answer := pool.commitValidTokens owner handle validTokens
    (answer.1, .status answer.2)
  | .commitPrefix owner handles committedTokens =>
    let answer := pool.commitPrefix owner handles committedTokens
    (answer.1, .status answer.2)
  | .projectPrefix owner handles committedTokens =>
    (pool, .projection (pool.projectPrefix owner handles committedTokens))
  | .release owner handles lastUseEvent =>
    let answer := pool.release owner handles lastUseEvent
    (answer.1, .status answer.2)
  | .completeReclaimEvent handle event eventReady succeeded =>
    let answer := pool.completeReclaimEvent handle event eventReady succeeded
    (answer.1, .status answer.2)
  | .beginNextScrub event =>
    let answer := pool.beginNextScrub event
    (answer.1, .scrub answer.2)
  | .completeScrub handle event clearedBytes eventReady succeeded =>
    let answer := pool.completeScrub handle event clearedBytes eventReady succeeded
    (answer.1, .status answer.2)

end QwenKvSlotPool

end Pih
