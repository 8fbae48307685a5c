import Pih.Qwen.KvAdmission
import Pih.Scheduler.ControllerCompletion

/-!
# The packed driver of the controller

The driver executes the plans of the controller on a batch backend and
publishes their sampled tokens.  It keeps the block table and the last use of
every bound sequence, and holds a completion that the controller cannot take
yet.

The driver reaches the controller through a client and a provider with a C
interface.  Only the completion of a plan is treated differently there; the
other calls are passed on.  A block table is shared with the coordinator that
owns it and is named here by its place there.
-/

namespace Pih

/-! ## Completion through the C interface -/

namespace ControllerProvider

/-- The provider's `CompleteSampledTokens`. -/
def completeSampledTokens (runtime : ControllerRuntime) (thread : ThreadId)
    (tokens : List ℕ) (nowNs : ℤ) : ControllerRuntime × Result Unit :=
  if tokens.length = 0 ∨ tokens.length > 256 then
    (runtime, .error (.invalidArgument "sampled tokens invalid"))
  else runtime.completeCurrentSampledTokens thread tokens nowNs

end ControllerProvider

namespace ControllerClient

def completeCurrentSampledTokens (runtime : ControllerRuntime)
    (thread : ThreadId) (tokens : List ℕ) (nowNs : ℤ) :
    ControllerRuntime × Result Unit :=
  if tokens = [] ∨ tokens.length > u32Max then
    (runtime, .error (.invalidArgument "execution sampled token span invalid"))
  else ControllerProvider.completeSampledTokens runtime thread tokens nowNs

end ControllerClient

/-! ## The state of the driver -/

inductive ControllerPackedDriverState where
  | ready
  | completionPending
  | poisoned
deriving DecidableEq, Repr

inductive ControllerPackedDriverStep where
  | idle
  | completed
  | outputBackpressured
deriving DecidableEq, Repr

/-- A sampled token with the identity that its event will have. -/
structure ControllerPackedSamplingReceipt where
  requestGeneration : ℕ
  tokenOrdinal : ℕ
  tokenId : ℕ
deriving DecidableEq

/-- The three arrays of the registry, which the source fills in step. -/
structure PackedKvBinding where
  sequenceGeneration : ℕ
  blockTable : ℕ
  lastUseEvent : QwenKvCompletionEvent
  reclaimed : Bool
deriving DecidableEq

structure QwenBf16PackedBatchExecutionView where
  sampledTokenIds : List ℕ
  completionEvent : QwenKvCompletionEvent
  samplingReceipts : List ℕ
deriving DecidableEq

/-- The driver between controller and backend. -/
structure ControllerPackedDriver where
  maximumSequences : ℕ
  receiptCapacity : ℕ
  registry : List PackedKvBinding := []
  pendingTokens : List ℕ := []
  pendingReceipts : List ControllerPackedSamplingReceipt := []
  receipts : List ControllerPackedSamplingReceipt := []
  state : ControllerPackedDriverState := .ready
deriving DecidableEq

namespace ControllerPackedDriver

def create (maximumSequences kvMetadataSequences receiptCapacity : ℕ) :
    Result ControllerPackedDriver :=
  if maximumSequences = 0 ∨ kvMetadataSequences < maximumSequences ∨
      receiptCapacity < maximumSequences then
    .error (.invalidArgument "controller packed driver limits drifted")
  else if maximumSequences > 4096 then
    .error (.invalidArgument "packed batch sequence bound is invalid")
  else .ok { maximumSequences, receiptCapacity }

variable (driver : ControllerPackedDriver)

/-- Register a sequence and its block table. -/
def bindSequence (sequenceGeneration blockTable : ℕ) (descriptor : QwenKvSequenceDescriptor)
    (initialLastUseEvent : QwenKvCompletionEvent) :
    ControllerPackedDriver × Result Unit :=
  if driver.state ≠ .ready ∨ sequenceGeneration = 0 ∨
      descriptor.active ≠ 1 ∨ initialLastUseEvent.handle = 0 ∨
      initialLastUseEvent.generation = 0 then
    (driver, .error (.failedPrecondition "controller KV binding is not ready"))
  else if driver.registry.any fun binding =>
      binding.sequenceGeneration = sequenceGeneration ∨ binding.blockTable = blockTable then
    (driver, .error (.failedPrecondition "controller KV binding already exists"))
  else if driver.registry.length = driver.maximumSequences then
    (driver, .error (.resourceExhausted "controller KV registry is full"))
  else
    ({ driver with
        registry := driver.registry ++
            [⟨sequenceGeneration, blockTable, initialLastUseEvent,
              false⟩] }, .ok ())

/-- Store the poisoned state and answer with a status. -/
def poison {Value : Type} (status : Status) : ControllerPackedDriver × Result Value :=
  ({ driver with state := .poisoned }, .error status)

/-! ## Executing plans -/

def publishPending (runtime : ControllerRuntime) (thread : ThreadId) (nowNs : ℤ) :
    ControllerPackedDriver × ControllerRuntime × Result ControllerPackedDriverStep :=
  if driver.pendingTokens.length > driver.receiptCapacity - driver.receipts.length then
    (driver, runtime, .ok .outputBackpressured)
  else
    match ControllerClient.completeCurrentSampledTokens runtime thread
        driver.pendingTokens nowNs with
    | (refused, .error status) =>
      if status.code = .resourceExhausted then (driver, refused, .ok .outputBackpressured)
      else
        let poisoned := driver.poison status
        (poisoned.1, refused, poisoned.2)
    | (completed, .ok ()) =>
      ({ driver with
          receipts := driver.receipts ++ driver.pendingReceipts
          pendingTokens := []
          pendingReceipts := []
          state := .ready },
        completed, .ok .completed)

def tryTakeSamplingReceipt : ControllerPackedDriver × Option ControllerPackedSamplingReceipt :=
  match driver.receipts with
  | [] => (driver, none)
  | receipt :: rest => ({ driver with receipts := rest }, some receipt)

/-- What the batch transaction requires of the answer of its backend. -/
def batchExecution (view : ControllerPreparedPlanView)
    (answer : Result QwenBf16PackedBatchExecutionView) :
    Result QwenBf16PackedBatchExecutionView :=
  match answer with
  | .error status => .error status
  | .ok execution =>
    if execution.sampledTokenIds.length ≠ view.metadata.sampleRowIndex.length ∨
        execution.completionEvent.handle = 0 ∨
        execution.completionEvent.generation = 0 then
      .error (.internal "packed batch backend result shape is invalid")
    else if execution.sampledTokenIds.any fun token => token ≥ 151936 then
      .error (.internal "packed batch backend token is invalid")
    else .ok execution

/-- The members of a plan: generation, sample ordinal and end offset. -/
def planMembers (view : ControllerPreparedPlanView) : List (ℕ × ℕ × ℕ) :=
  view.plan.orderedSequenceGenerations.zip ((view.selectedSampling.map
        ControllerRequestSampling.sampleOrdinal).zip
      view.plan.packedOffsets.tail)

/--
The loop that names the sampled tokens: a member whose last row is the next
sample row gets the next token.
-/
def pairReceipts : List (ℕ × ℕ × ℕ) → List ℕ → List ℕ → List ℕ →
      Result (List ControllerPackedSamplingReceipt)
  | [], _, [], _ => .ok []
  | [], _, _ :: _, _ => .error (.internal "controller sampling receipt identity drifted")
  | (generation, ordinal, offset) :: members, row :: rows, tokens, sampled =>
    if row ≠ offset - 1 then pairReceipts members (row :: rows) tokens sampled
    else
      match tokens, sampled with
      | token :: tokens, sample :: sampled =>
        if sample ≠ token then .error (.internal "controller sampling receipt token drifted")
        else
          match pairReceipts members rows tokens sampled with
          | .error status => .error status
          | .ok receipts => .ok (⟨generation, ordinal + 1, sample⟩ :: receipts)
      | _, _ => .error (.internal "controller sampling receipt token drifted")
  | _ :: members, [], tokens, sampled => pairReceipts members [] tokens sampled

/-- The registry after the plan has used the tables of its members. -/
def touch (registry : List PackedKvBinding) (generations : List ℕ)
    (event : QwenKvCompletionEvent) : List PackedKvBinding :=
  registry.map fun binding =>
    if binding.sequenceGeneration ∈ generations then { binding with lastUseEvent := event }
    else binding

section

variable (runtime : ControllerRuntime) (thread : ThreadId)

/-- The part of `execute_next` that follows the execution of the batch. -/
def finishExecution (nowNs : ℤ) (view : ControllerPreparedPlanView)
    (execution : QwenBf16PackedBatchExecutionView) :
    ControllerPackedDriver × ControllerRuntime × Result ControllerPackedDriverStep :=
  let touched :=
    { driver with
      registry := touch driver.registry view.plan.orderedSequenceGenerations
          execution.completionEvent }
  if execution.sampledTokenIds.length > driver.maximumSequences ∨
      execution.samplingReceipts.length ≠ execution.sampledTokenIds.length then
    let poisoned := touched.poison (.internal "controller backend exceeded token capacity")
    (poisoned.1, runtime, poisoned.2)
  else
    match pairReceipts (planMembers view) view.metadata.sampleRowIndex
        execution.sampledTokenIds execution.samplingReceipts with
    | .error status =>
      let poisoned := { touched with pendingTokens := execution.sampledTokenIds }.poison status
      (poisoned.1, runtime, poisoned.2)
    | .ok receipts =>
      { touched with
        pendingTokens := execution.sampledTokenIds
        pendingReceipts := receipts
        state := .completionPending }.publishPending runtime thread nowNs

/-- Abort a plan that cannot be executed; a failed abort poisons. -/
def abandon (view : ControllerPreparedPlanView) (status : Status) :
    ControllerPackedDriver × ControllerRuntime × Result ControllerPackedDriverStep :=
  match runtime.abortCurrentPlan view.plan.planSequence view.planDigest with
  | (aborted, .error _) => ({ driver with state := .poisoned }, aborted, .error status)
  | (aborted, .ok ()) => (driver, aborted, .error status)

/-- The part of `execute_next` that follows the preparation of a plan. -/
def executePlan (nowNs : ℤ) (view : ControllerPreparedPlanView)
    (answer : Result QwenBf16PackedBatchExecutionView) :
    ControllerPackedDriver × ControllerRuntime × Result ControllerPackedDriverStep :=
  if view.selectedSampling.length ≠ view.plan.sequenceCount then
    driver.abandon runtime view (.internal "controller sampling projection drifted")
  else if ¬ view.plan.orderedSequenceGenerations.all fun generation =>
      driver.registry.any fun binding => binding.sequenceGeneration = generation then
    driver.abandon runtime view (.failedPrecondition "controller sequence has no KV binding")
  else
    match runtime.commitCurrentPlan view.plan.planSequence view.planDigest with
    | (failed, .error status) =>
      let poisoned := driver.poison status
      (poisoned.1, failed, poisoned.2)
    | (committed, .ok ()) =>
      match committed.markCurrentPlanInFlight view.plan.planSequence view.planDigest with
      | (failed, .error status) =>
        let poisoned := driver.poison status
        (poisoned.1, failed, poisoned.2)
      | (marked, .ok ()) =>
        match batchExecution view answer with
        | .error status =>
          let poisoned := driver.poison status
          (poisoned.1, marked, poisoned.2)
        | .ok execution => driver.finishExecution marked thread nowNs view execution

/-- Publish a pending completion or run the next plan. -/
def executeNext (nowNs : ℤ) (answer : Result QwenBf16PackedBatchExecutionView) :
    ControllerPackedDriver × ControllerRuntime × Result ControllerPackedDriverStep :=
  match driver.state with
  | .poisoned =>
    (driver, runtime, .error (.failedPrecondition "controller packed driver is poisoned"))
  | .completionPending => driver.publishPending runtime thread nowNs
  | .ready =>
    match runtime.prepareNextPlan nowNs with
    | (next, .error status) => (driver, next, .error status)
    | (next, .ok none) => (driver, next, .ok .idle)
    | (next, .ok (some view)) => driver.executePlan next thread nowNs view answer

end

/-! ## Draining -/

/-- The registry without the entry at an index, which the last one fills. -/
def removeBinding (registry : List PackedKvBinding) (index : ℕ) : List PackedKvBinding :=
  match registry.getLast? with
  | none => registry
  | some last => (registry.set index last).dropLast

/-- Recycle the blocks of a sequence, unless done, then finalize it. -/
def drainSequence (runtime : ControllerRuntime) (thread : ThreadId)
    (sequenceGeneration : ℕ) (handlesOf : ℕ → List QwenKvBlockHandle)
    (pool : QwenKvSlotPool) (recycler : QwenBf16SynchronousKvRecycler)
    (clearAndWait : ℕ → Result Unit) :
    ControllerPackedDriver × ControllerRuntime ×
      QwenBf16SynchronousKvRecycler × QwenKvSlotPool × Result Unit :=
  if driver.state ≠ .ready then
    (driver, runtime, recycler, pool, .error (.failedPrecondition
      "controller driver cannot drain while work is pending"))
  else
    match driver.registry.findIdx? fun binding =>
        binding.sequenceGeneration = sequenceGeneration with
    | none =>
      (driver, runtime, recycler, pool, .error
        (.failedPrecondition "controller drain has no KV binding"))
    | some index =>
      match driver.registry[index]? with
      | none =>
        (driver, runtime, recycler, pool, .error
          (.failedPrecondition "controller drain has no KV binding"))
      | some binding =>
        let recycled :=
          if binding.reclaimed then (recycler, pool, .ok ())
          else
            recycler.recycle clearAndWait pool (handlesOf binding.blockTable) binding.lastUseEvent
        match recycled with
        | (recycler, pool, .error status) =>
          let poisoned := driver.poison status
          (poisoned.1, runtime, recycler, pool, poisoned.2)
        | (recycler, pool, .ok ()) =>
          let reclaimed :=
            { driver with registry := driver.registry.set index { binding with reclaimed := true } }
          match runtime.finalizeDraining thread sequenceGeneration with
          | (next, .error status) => (reclaimed, next, recycler, pool, .error status)
          | (next, .ok ()) =>
            ({ reclaimed with registry := removeBinding reclaimed.registry index },
              next, recycler, pool, .ok ())

end ControllerPackedDriver

end Pih
