import Pih.Qwen.PackedDriver

/-!
# The admission coordinator and the packed engine

The coordinator is the controller's admission participant: it reserves cache
slots for an admission, publishes them and binds the block table to the
driver, and drains a sequence that has ended.  The engine joins it with the
controller runtime and numbers the requests that it submits.
-/

namespace Pih

/--
The coordinator with the pool and the driver that it refers to.  The block
table of an admission stays at the place of the admission.
-/
structure QwenKvAdmissionCoordinator where
  pool : QwenKvSlotPool
  driver : ControllerPackedDriver
  admissions : List (Option QwenKvAdmissionTransaction)
  initialLastUseEvent : QwenKvCompletionEvent
deriving DecidableEq

namespace QwenKvAdmissionCoordinator

def create (pool : QwenKvSlotPool) (driver : ControllerPackedDriver)
    (maximumSequences : ℕ) (initialLastUseEvent : QwenKvCompletionEvent) :
    Result QwenKvAdmissionCoordinator :=
  if pool.refuses ∨ maximumSequences = 0 ∨ initialLastUseEvent.handle = 0 ∨
      initialLastUseEvent.generation = 0 then
    .error (.invalidArgument "Qwen KV admission coordinator identity is invalid")
  else .ok { pool, driver, admissions := List.replicate maximumSequences none, initialLastUseEvent }

/-- The admission has the given sequence generation. -/
def hasGeneration (sequenceGeneration : ℕ) (admission : Option QwenKvAdmissionTransaction) : Bool :=
  admission.any fun transaction => transaction.sequenceGeneration = sequenceGeneration

variable (coordinator : QwenKvAdmissionCoordinator)

def find (sequenceGeneration : ℕ) : Option ℕ :=
  coordinator.admissions.findIdx? (hasGeneration sequenceGeneration)

/-- Store an admission, or its absence, at its place. -/
def setAdmission (index : ℕ) (admission : Option QwenKvAdmissionTransaction) :
    QwenKvAdmissionCoordinator :=
  { coordinator with admissions := coordinator.admissions.set index admission }

/-- The part of `reserve` that follows the checks of its bounds. -/
def reserveAt (index totalTokens : ℕ) (requestGeneration : ℕ) :
    QwenKvAdmissionCoordinator × Result Unit :=
  match QwenKvAdmissionTransaction.reserve coordinator.pool index totalTokens with
  | (pool, .error status) => ({ coordinator with pool }, .error status)
  | (pool, .ok transaction) =>
    if transaction.sequenceGeneration ≠ requestGeneration then
      match transaction.rollback pool with
      | (restored, _, .error _) =>
        ({ coordinator with pool := restored }, .error
          (.internal "Qwen KV admission generation rollback failed"))
      | (restored, _, .ok ()) =>
        ({ coordinator with pool := restored }, .error (.failedPrecondition
            "Qwen KV and controller sequence generations drifted"))
    else ({ coordinator with pool }.setAdmission index (some transaction), .ok ())

/-- Reserve blocks for the lifetime of a request. -/
def reserve (admission : ControllerAdmissionView) : QwenKvAdmissionCoordinator × Result Unit :=
  if (coordinator.find admission.request.requestGeneration).isSome then
    (coordinator, .error (.failedPrecondition "Qwen KV admission generation is already active"))
  else
    match coordinator.admissions.findIdx? Option.isNone with
    | none =>
      (coordinator, .error (.resourceExhausted "Qwen KV admission sequence credits are exhausted"))
    | some index =>
      let invalid := Status.invalidArgument "Qwen KV admission lifetime token bound is invalid"
      match checkedAddU64 admission.request.promptTokenIds.size
          admission.request.maximumNewTokens with
      | .error _ => (coordinator, .error invalid)
      | .ok totalTokens =>
        if totalTokens = 0 ∨ totalTokens > QwenKvBlockTable.kMaximumReservedTokens then
          (coordinator, .error invalid)
        else coordinator.reserveAt index totalTokens admission.request.requestGeneration

/-- The part of `publish` for the admission at an index. -/
def publishAt (index : ℕ) (transaction : QwenKvAdmissionTransaction)
    (sequenceGeneration : ℕ) : QwenKvAdmissionCoordinator × Result Unit :=
  match transaction.publish coordinator.pool with
  | (pool, published, .error status) =>
    ({ coordinator with pool }.setAdmission index (some published), .error status)
  | (pool, published, .ok ()) =>
    let stored := { coordinator with pool }.setAdmission index (some published)
    match published.table with
    | none => (stored, .error (.internal "Qwen KV admission published no block table"))
    | some table =>
      let bound :=
        stored.driver.bindSequence sequenceGeneration index
          table.descriptor stored.initialLastUseEvent
      ({ stored with driver := bound.1 }, bound.2)

/-- Publish the reserved blocks of an admission. -/
def publish (sequenceGeneration : ℕ) : QwenKvAdmissionCoordinator × Result Unit :=
  let missing := Status.failedPrecondition "Qwen KV admission publication has no reservation"
  match coordinator.find sequenceGeneration with
  | none => (coordinator, .error missing)
  | some index =>
    match coordinator.admissions[index]? with
    | some (some transaction) =>
      if transaction.state ≠ .reserved then (coordinator, .error missing)
      else coordinator.publishAt index transaction sequenceGeneration
    | _ => (coordinator, .error missing)

/-- Give back the reserved blocks, if there are any. -/
def rollback (requestGeneration : ℕ) : QwenKvAdmissionCoordinator × Result Unit :=
  match coordinator.find requestGeneration with
  | none => (coordinator, .ok ())
  | some index =>
    match coordinator.admissions[index]? with
    | some (some transaction) =>
      match transaction.rollback coordinator.pool with
      | (pool, rolledBack, .error status) =>
        ({ coordinator with pool }.setAdmission index (some rolledBack), .error status)
      | (pool, _, .ok ()) => ({ coordinator with pool }.setAdmission index none, .ok ())
    | _ => (coordinator, .ok ())

/-- The coordinator in its role for the controller. -/
def participant : ControllerRuntime.AdmissionParticipant QwenKvAdmissionCoordinator where
  reserve := reserve
  publish := publish
  rollback := rollback

/-- The handles of the block table at a place. -/
def handlesAt (index : ℕ) : List QwenKvBlockHandle :=
  match coordinator.admissions[index]? with
  | some (some transaction) =>
    match transaction.table with
    | some table => table.reservedHandles
    | none => []
  | _ => []

/-- Drain a sequence and forget its admission. -/
def drain (runtime : ControllerRuntime) (thread : ThreadId) (sequenceGeneration : ℕ)
    (recycler : QwenBf16SynchronousKvRecycler) (clearAndWait : ℕ → Result Unit) :
    QwenKvAdmissionCoordinator × ControllerRuntime × QwenBf16SynchronousKvRecycler × Result Unit :=
  let missing := Status.failedPrecondition "Qwen KV drain has no published admission"
  match coordinator.find sequenceGeneration with
  | none => (coordinator, runtime, recycler, .error missing)
  | some index =>
    match coordinator.admissions[index]? with
    | some (some transaction) =>
      if transaction.state ≠ .published then (coordinator, runtime, recycler, .error missing)
      else
        match coordinator.driver.drainSequence runtime thread
            sequenceGeneration coordinator.handlesAt coordinator.pool
            recycler clearAndWait with
        | (driver, next, recycler, pool, .error status) =>
          ({ coordinator with driver, pool }, next, recycler, .error status)
        | (driver, next, recycler, pool, .ok ()) =>
          ({ coordinator with driver, pool }.setAdmission index none, next, recycler, .ok ())
    | _ => (coordinator, runtime, recycler, .error missing)

end QwenKvAdmissionCoordinator

/-! ## The engine -/

/-- The packed part of the engine. -/
structure QwenPackedEngine where
  runtime : ControllerRuntime
  coordinator : QwenKvAdmissionCoordinator
  recycler : QwenBf16SynchronousKvRecycler
  nextPackedRequestGeneration : ℕ := 1
deriving DecidableEq

/--
What the engine and its callers do.  The calls to the controller that are
listed by themselves are those in which the other parties take part.
-/
inductive QwenPackedOperation where
  | submitPacked (promptTokenIds : List ℕ) (maximumNewTokens : ℕ)
    (sampling : ControllerRequestSampling)
  | step (thread : ThreadId) (nowNs : ℤ)
  | executeNext (thread : ThreadId) (nowNs : ℤ) (answer : Result QwenBf16PackedBatchExecutionView)
  | drainPacked (thread : ThreadId) (requestGeneration : ℕ) (clearAndWait : ℕ → Result Unit)
  | takeReceipt
  | controller (call : ControllerCall)

inductive QwenPackedOutcome where
  | generation (result : Result ℕ)
  | step (result : Result ControllerRuntimeStep)
  | driven (result : Result ControllerPackedDriverStep)
  | status (result : Result Unit)
  | receipt (taken : Option ControllerPackedSamplingReceipt)
  | controller (outcome : ControllerOutcome)

namespace QwenPackedEngine

section

variable (engine : QwenPackedEngine)

/--
The part of `submit_packed` that follows the checks of its arguments: the
next generation is used up only by a submission that succeeds.
-/
def submitPacked (promptTokenIds : List ℕ)
    (maximumNewTokens : ℕ) (sampling : ControllerRequestSampling) :
    QwenPackedEngine × Result ℕ :=
  if engine.nextPackedRequestGeneration = u64Max then
    (engine, .error (.resourceExhausted "packed Qwen request generation is exhausted"))
  else
    match engine.runtime.submitAdmit engine.nextPackedRequestGeneration
        promptTokenIds maximumNewTokens sampling with
    | (runtime, .error status) => ({ engine with runtime }, .error status)
    | (runtime, .ok _) =>
      ({ engine with
          runtime
          nextPackedRequestGeneration := engine.nextPackedRequestGeneration + 1 },
        .ok engine.nextPackedRequestGeneration)

variable (thread : ThreadId)

/-- A controller step with the coordinator as its participant. -/
def step (nowNs : ℤ) : QwenPackedEngine × Result ControllerRuntimeStep :=
  let stepped :=
    engine.runtime.stepImpl thread nowNs
      (some QwenKvAdmissionCoordinator.participant) engine.coordinator
  ({ engine with runtime := stepped.1, coordinator := stepped.2.1 }, stepped.2.2)

def executeNext (nowNs : ℤ) (answer : Result QwenBf16PackedBatchExecutionView) :
    QwenPackedEngine × Result ControllerPackedDriverStep :=
  let driven := engine.coordinator.driver.executeNext engine.runtime thread nowNs answer
  ({ engine with
      runtime := driven.2.1
      coordinator := { engine.coordinator with driver := driven.1 } },
    driven.2.2)

def drainPacked (requestGeneration : ℕ) (clearAndWait : ℕ → Result Unit) :
    QwenPackedEngine × Result Unit :=
  let drained :=
    engine.coordinator.drain engine.runtime thread requestGeneration engine.recycler clearAndWait
  ({ engine with
      coordinator := drained.1
      runtime := drained.2.1
      recycler := drained.2.2.1 }, drained.2.2.2)

/-- Perform one operation. -/
def execute : QwenPackedOperation → QwenPackedEngine × QwenPackedOutcome
  | .submitPacked prompt maximum sampling =>
    let answer := engine.submitPacked prompt maximum sampling
    (answer.1, .generation answer.2)
  | .step thread nowNs =>
    let answer := engine.step thread nowNs
    (answer.1, .step answer.2)
  | .executeNext thread nowNs batch =>
    let answer := engine.executeNext thread nowNs batch
    (answer.1, .driven answer.2)
  | .drainPacked thread generation clearAndWait =>
    let answer := engine.drainPacked thread generation clearAndWait
    (answer.1, .status answer.2)
  | .takeReceipt =>
    let answer := engine.coordinator.driver.tryTakeSamplingReceipt
    ({ engine with coordinator := { engine.coordinator with driver := answer.1 } },
      .receipt answer.2)
  | .controller call =>
    let answer := engine.runtime.execute call
    ({ engine with runtime := answer.1 }, .controller answer.2)

end

/--
The calls to the controller that go past the engine's own functions: cancels,
acknowledgements and events.
-/
def direct : ControllerOperation → Bool
  | .submitCancel _ => true
  | .acknowledgeOutputPlan _ => true
  | .tryTakeEvent => true
  | _ => false

end QwenPackedEngine

end Pih
