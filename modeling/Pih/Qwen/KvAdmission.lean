import Pih.Qwen.KvSlotPool

/-!
# Admission to the key-value cache

An admission reserves the slots of a sequence for its whole lifetime, under a
sequence generation that the pool hands out, and publishes them with the
block table of the sequence.  The recycler takes slots whose last use has
ended back to the clean state.
-/

namespace Pih

open QwenKvSlotPool

/-! ## Block tables -/

structure QwenKvSequenceDescriptor where
  sequenceGeneration : ℕ
  ownerSequenceIndex : ℕ
  reservedTokens : ℕ
  committedTokens : ℕ
  handleCount : ℕ
  blockTableGeneration : ℕ
  active : ℕ
deriving DecidableEq

/-- A descriptor with its blocks. -/
structure QwenKvBlockTable where
  descriptor : QwenKvSequenceDescriptor
  reservedHandles : List QwenKvBlockHandle
deriving DecidableEq

namespace QwenKvBlockTable

def kMaximumReservedTokens : ℕ := 40960

def handlesForTokens (tokens : ℕ) : ℕ :=
  if tokens = 0 then 0
  else (tokens + kTokensPerSlot - 1) / kTokensPerSlot

/-- The loop of `Create` over the handles, with the slots seen so far. -/
def validateReserved : List ℕ → List QwenKvBlockHandle → Result Unit
  | _, [] => .ok ()
  | seen, handle :: rest =>
    if handle.generation = 0 ∨ handle.slot ∈ seen then
      .error (.invalidArgument "Qwen KV reserved handle is invalid")
    else validateReserved (handle.slot :: seen) rest

def create (ownerSequenceIndex sequenceGeneration reservedTokens : ℕ)
    (reservedHandles : List QwenKvBlockHandle) : Result QwenKvBlockTable :=
  if ownerSequenceIndex = kNoOwner ∨ sequenceGeneration = 0 ∨ reservedTokens = 0 ∨
      reservedTokens > kMaximumReservedTokens then
    .error (.invalidArgument "Qwen KV sequence identity is invalid")
  else if reservedHandles.length ≠ handlesForTokens reservedTokens then
    .error (.invalidArgument "Qwen KV reserved handle count differs from token reservation")
  else
    match validateReserved [] reservedHandles with
    | .error status => .error status
    | .ok () =>
      .ok
        { descriptor :=
            { sequenceGeneration
              ownerSequenceIndex
              reservedTokens
              committedTokens := 0
              handleCount := handlesForTokens reservedTokens
              blockTableGeneration := 1
              active := 1 }
          reservedHandles }

end QwenKvBlockTable

/-! ## Admission transactions -/

inductive QwenKvAdmissionState where
  | reserved
  | published
  | rolledBack
  | failed
deriving DecidableEq, Repr

/-- Slots that are reserved for one admission. -/
structure QwenKvAdmissionTransaction where
  ownerSequenceIndex : ℕ
  sequenceGeneration : ℕ
  reservedTokens : ℕ
  handles : List QwenKvBlockHandle
  table : Option QwenKvBlockTable := none
  state : QwenKvAdmissionState := .reserved
deriving DecidableEq

namespace QwenKvAdmissionTransaction

section

variable (pool : QwenKvSlotPool)

/-- Reserve the slots for a number of tokens. -/
def reserve (ownerSequenceIndex reservedTokens : ℕ) :
    QwenKvSlotPool × Result QwenKvAdmissionTransaction :=
  if ownerSequenceIndex = kNoOwner ∨ reservedTokens = 0 ∨
      reservedTokens > QwenKvBlockTable.kMaximumReservedTokens then
    (pool, .error (.invalidArgument "Qwen KV admission bounds are invalid"))
  else
    match checkedAddU64 reservedTokens (kTokensPerSlot - 1) with
    | .error status => (pool, .error status)
    | .ok rounded =>
      match pool.acquireSequenceGeneration with
      | (acquired, .error status) => (acquired, .error status)
      | (acquired, .ok sequenceGeneration) =>
        match acquired.reserve ownerSequenceIndex (rounded / kTokensPerSlot) with
        | (refused, .error status) => (refused, .error status)
        | (reserved, .ok handles) =>
          (reserved, .ok { ownerSequenceIndex, sequenceGeneration, reservedTokens, handles })

variable (transaction : QwenKvAdmissionTransaction)

/-- Give the reserved slots back and remember how that went. -/
def restore : QwenKvSlotPool × QwenKvAdmissionTransaction × Result Unit :=
  let restored := pool.rollback transaction.ownerSequenceIndex transaction.handles
  (restored.1, { transaction with
      state := if Result.isOk restored.2 then .rolledBack else .failed },
    restored.2)

/-- Publish the slots and their table, or give them back. -/
def publish : QwenKvSlotPool × QwenKvAdmissionTransaction × Result Unit :=
  if transaction.state ≠ .reserved then
    (pool, transaction, .error (.failedPrecondition
      "Qwen KV admission is not reserved for publication"))
  else
    match QwenKvBlockTable.create transaction.ownerSequenceIndex
        transaction.sequenceGeneration transaction.reservedTokens
        transaction.handles with
    | .error status =>
      let restored := transaction.restore pool
      (restored.1, restored.2.1, .error status)
    | .ok table =>
      match pool.publish transaction.ownerSequenceIndex transaction.handles with
      | (refused, .error status) =>
        let restored := transaction.restore refused
        (restored.1, restored.2.1, .error status)
      | (published, .ok ()) =>
        (published,
          { transaction with table := some table, state := .published },
          .ok ())

def rollback : QwenKvSlotPool × QwenKvAdmissionTransaction × Result Unit :=
  if transaction.state = .rolledBack then (pool, transaction, .ok ())
  else if transaction.state ≠ .reserved then
    (pool, transaction, .error (.failedPrecondition
      "published Qwen KV admission cannot be rolled back"))
  else transaction.restore pool

end

end QwenKvAdmissionTransaction

/-! ## The recycler -/

/-- The identity of the recycler and the number of its next scrub. -/
structure QwenBf16SynchronousKvRecycler where
  kvBacking : ℕ
  kvBackingBytes : ℕ
  slotCount : ℕ
  scrubStream : ℕ
  scrubEvent : ℕ
  nextScrubGeneration : ℕ
deriving DecidableEq

namespace QwenBf16SynchronousKvRecycler

def create (kvBacking kvBackingBytes slotCount scrubStream scrubEvent
      firstScrubGeneration : ℕ) : Result QwenBf16SynchronousKvRecycler :=
  match checkedMulU64 slotCount kSlotPayloadBytes with
  | .error status => .error status
  | .ok required =>
    if kvBacking = 0 ∨ slotCount = 0 ∨ slotCount > kMaximumSlots ∨
        kvBackingBytes ≠ required ∨ scrubStream = 0 ∨ scrubEvent = 0 ∨
        firstScrubGeneration = 0 then
      .error (.invalidArgument "Qwen KV recycler identity is invalid")
    else
      .ok
        { kvBacking
          kvBackingBytes
          slotCount
          scrubStream
          scrubEvent
          nextScrubGeneration := firstScrubGeneration }

variable (recycler : QwenBf16SynchronousKvRecycler)

/-- The address of the slot to scrub lies inside the backing. -/
def scrubAddressValid (work : QwenKvScrubWork) : Bool :=
  match checkedMulU64 work.slot.slot kSlotPayloadBytes with
  | .error _ => false
  | .ok offset =>
    ¬ (offset > recycler.kvBackingBytes - work.bytes ∨ offset > u64Max - recycler.kvBacking)

variable (clearAndWait : ℕ → Result Unit)

/-- The last part of one round: clear the slot and tell the pool. -/
def scrubSlot (pool : QwenKvSlotPool) (work : QwenKvScrubWork) (event : QwenKvCompletionEvent) :
    QwenKvSlotPool × Result Unit :=
  if work.bytes ≠ kSlotPayloadBytes ∨ work.slot.slot ≥ recycler.slotCount then
    (pool, .error (.failedPrecondition "Qwen KV scrub queue returned an unexpected slot"))
  else if ¬ recycler.scrubAddressValid work then
    (pool, .error (.internal "Qwen KV scrub address exceeds its backing"))
  else
    match clearAndWait event.generation with
    | .error status => ((pool.completeScrub work.slot event 0 true false).1, .error status)
    | .ok () => pool.completeScrub work.slot event work.bytes true true

/--
The loop of `recycle`.  The answer of the scrub driver is given by the number
of the scrub, which is different in every call.
-/
def recycleHandles (clearAndWait : ℕ → Result Unit) (lastUseEvent : QwenKvCompletionEvent) :
    QwenBf16SynchronousKvRecycler → QwenKvSlotPool → List QwenKvBlockHandle →
      QwenBf16SynchronousKvRecycler × QwenKvSlotPool × Result Unit
  | recycler, pool, [] => (recycler, pool, .ok ())
  | recycler, pool, handle :: rest =>
    if handle.slot ≥ recycler.slotCount ∨ recycler.nextScrubGeneration = u64Max then
      (recycler, pool, .error (.resourceExhausted
        "Qwen KV scrub identity or slot range is exhausted"))
    else
      match pool.completeReclaimEvent handle lastUseEvent true true with
      | (refused, .error status) => (recycler, refused, .error status)
      | (reclaimed, .ok ()) =>
        let event : QwenKvCompletionEvent := ⟨recycler.scrubEvent, recycler.nextScrubGeneration⟩
        let numbered := { recycler with nextScrubGeneration := recycler.nextScrubGeneration + 1 }
        match reclaimed.beginNextScrub event with
        | (refused, .error status) => (numbered, refused, .error status)
        | (begun, .ok work) =>
          match numbered.scrubSlot clearAndWait begun work event with
          | (failed, .error status) => (numbered, failed, .error status)
          | (scrubbed, .ok ()) => recycleHandles clearAndWait lastUseEvent numbered scrubbed rest

def recycle (pool : QwenKvSlotPool)
    (handles : List QwenKvBlockHandle) (lastUseEvent : QwenKvCompletionEvent) :
    QwenBf16SynchronousKvRecycler × QwenKvSlotPool × Result Unit :=
  if pool.refuses ∨ pool.slots.length ≠ recycler.slotCount ∨
      handles = [] ∨ lastUseEvent.handle = 0 ∨
      lastUseEvent.generation = 0 then
    (recycler, pool, .error (.failedPrecondition "Qwen KV recycler cannot run"))
  else recycleHandles clearAndWait lastUseEvent recycler pool handles

end QwenBf16SynchronousKvRecycler

end Pih
