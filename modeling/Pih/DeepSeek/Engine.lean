import Pih.DeepSeek.ControlPlane

/-!
# The DeepSeek engine of one rank

The engine puts the device between its callers and the control plane.  A
production plan is prepared together with the sampling inputs of its
requests; when the device has finished, the engine turns the sampled tokens
into batches, stages them and completes the plan.

The answers of the device are arguments: the engine goes on, refuses the call,
or loses its worker.  Plans are only prepared for a world of one rank.
-/

namespace Pih

inductive DeepSeekEngineState where
  | ready
  | closing
  | failed
  | closed
deriving DecidableEq, Repr

/-- What the device answers when a call asks for something. -/
inductive DeepSeekDeviceAnswer where
  | done
  | refused (status : Status)
  | lost (status : Status)
deriving DecidableEq, Repr

structure DeepSeekSamplingResult where
  tokenId : ℕ
  selectedLogprob : Option ℚ := some 0
  topTokenIds : List ℕ := []
  topLogprobs : List (Option ℚ) := []
deriving DecidableEq, Repr

/-- The sampling input of a request, as far as the engine reads it again. -/
structure DeepSeekPreparedSamplingInput where
  configId : ℕ
  mode : DeepSeekSamplingMode
  sampleOrdinal : ℕ
  suppressedTokens : List ℕ := []
deriving DecidableEq, Repr

/--
The engine.  The descriptor of the rank runtime stands for the flag that an
execution is bound.
-/
structure DeepSeekEngine where
  controlPlane : DeepSeekControlPlane
  state : DeepSeekEngineState := .ready
  requestAttentionBindings : ℕ → Option ℕ := fun _ => none
  freeAttentionStateSlots : ℕ
  nextAttentionSequence : ℕ := 1
  boundPlan : Option DeepSeekPipelinePlanDescriptor := none
  publishBoundSampledToken : Bool := false
  boundSampledTokenStaged : Bool := false
  boundSequenceSamplingConfigs : List (Option DeepSeekRequestSamplingConfig) := []
  boundSequenceSampling : List (Option DeepSeekPreparedSamplingInput) := []

namespace DeepSeekRequestSamplingConfig

/-- The stop tokens in use. -/
def stopTokens (config : DeepSeekRequestSamplingConfig) : List ℕ :=
  config.stopTokenIds.take config.stopTokenCount

/-- The tokens that must not be sampled before the minimum is reached. -/
def suppressed (config : DeepSeekRequestSamplingConfig) : List ℕ :=
  if 1 ∈ config.stopTokens then config.stopTokens
  else config.stopTokens ++ [1]

end DeepSeekRequestSamplingConfig

namespace DeepSeekEngine

def create (engineEpoch : ℕ) (capacity : DeepSeekPipelineCapacity)
    (attentionCapacity : ℕ) : Result DeepSeekEngine :=
  match DeepSeekControlPlane.create engineEpoch capacity with
  | .error status => .error status
  | .ok controlPlane =>
    if attentionCapacity = 0 then
      .error (.failedPrecondition "DeepSeek engine has no request attention state capacity")
    else .ok { controlPlane, freeAttentionStateSlots := attentionCapacity }

variable (engine : DeepSeekEngine)

def epoch : ℕ := engine.controlPlane.engineEpoch

def worldSize : ℕ := engine.controlPlane.shared.resources.capacity.worldSize

def executionLive : Bool := engine.controlPlane.executionLive

/-- Forget the bound execution and its sampling inputs. -/
def unbind : DeepSeekEngine :=
  { engine with
    boundPlan := none
    publishBoundSampledToken := false
    boundSampledTokenStaged := false
    boundSequenceSamplingConfigs := []
    boundSequenceSampling := [] }

/-- The engine after an operation of its control plane. -/
def withControl (changed : DeepSeekControlPlane × Result Unit) : DeepSeekEngine × Result Unit :=
  ({ engine with controlPlane := changed.1 }, changed.2)

variable (abort : Result Unit)

/-- A failure of the device; `abort` answers for the compute plans. -/
def fail (cause : Status) : DeepSeekEngine × Result Unit :=
  if engine.state ≠ .ready then (engine, .error cause)
  else
    let failed := { engine with state := .failed, controlPlane := engine.controlPlane.failAll }
    match abort with
    | .error status => (failed, .error status)
    | .ok () => (failed.unbind, .error cause)

/-- Go on if the device is done. -/
def afterDevice (answer : DeepSeekDeviceAnswer) (abort : Result Unit)
    (next : DeepSeekEngine × Result Unit) : DeepSeekEngine × Result Unit :=
  match answer with
  | .done => next
  | .refused status => (engine, .error status)
  | .lost status => engine.fail abort status

/-- The check of the engine's own state before a request is served. -/
def admitRequest (answer : DeepSeekDeviceAnswer) (abort : Result Unit)
    (next : DeepSeekEngine × Result Unit) : DeepSeekEngine × Result Unit :=
  if engine.state ≠ .ready then
    (engine, .error (.failedPrecondition "DeepSeek engine generation is not accepting requests"))
  else engine.afterDevice answer abort next

/-! ## Requests -/

def submitRequest (id generation : ℕ) (admission : DeepSeekDeviceAnswer)
    (abort : Result Unit) : DeepSeekEngine × Result Unit :=
  engine.admitRequest admission abort (if engine.freeAttentionStateSlots = 0 then
      (engine, .error (.resourceExhausted "DeepSeek request attention state capacity is exhausted"))
    else if engine.nextAttentionSequence = 0 then
      (engine, .error (.resourceExhausted
        "DeepSeek logical attention sequence identity is exhausted"))
    else if (engine.requestAttentionBindings id).isSome then
      (engine, .error (.failedPrecondition "DeepSeek request attention binding already exists"))
    else
      match engine.controlPlane.submit id generation with
      | (controlPlane, .error status) => ({ engine with controlPlane }, .error status)
      | (controlPlane, .ok ()) =>
        ({ engine with
            controlPlane
            requestAttentionBindings := Function.update engine.requestAttentionBindings id
                (some generation)
            freeAttentionStateSlots := engine.freeAttentionStateSlots - 1
            nextAttentionSequence := (engine.nextAttentionSequence + 1) % (u32Max + 1) },
          .ok ()))

/-- Cancel a request, and unbind the plan if that ended it. -/
def cancelRequest (id generation : ℕ) (inputs abort : Result Unit) : DeepSeekEngine × Result Unit :=
  match inputs with
  | .error status => engine.fail abort status
  | .ok () =>
    match engine.controlPlane.cancel id generation with
    | (controlPlane, .error status) => ({ engine with controlPlane }, .error status)
    | (controlPlane, .ok ()) =>
      let cancelled := { engine with controlPlane }
      if ¬ controlPlane.executionLive ∧ engine.boundPlan.isSome then
        match abort with
        | .error status => cancelled.fail abort status
        | .ok () => (cancelled.unbind, .ok ())
      else (cancelled, .ok ())

def finishRequest (id generation : ℕ) : DeepSeekEngine × Result Unit :=
  engine.withControl (engine.controlPlane.finishRequest id generation)

/-- Retire a request and free its attention state. -/
def retireRequest (id generation : ℕ) : DeepSeekEngine × Result Unit :=
  match engine.controlPlane.validateRetire id generation with
  | .error status => (engine, .error status)
  | .ok () =>
    if engine.requestAttentionBindings id ≠ some generation then
      (engine, .error (.failedPrecondition
        "DeepSeek request attention binding was lost before retirement"))
    else
      match engine.controlPlane.retire id generation with
      | (controlPlane, .error status) => ({ engine with controlPlane }, .error status)
      | (controlPlane, .ok ()) =>
        ({ engine with
            controlPlane
            requestAttentionBindings := Function.update engine.requestAttentionBindings id none
            freeAttentionStateSlots := engine.freeAttentionStateSlots + 1 }, .ok ())

def configureLedger (id generation prompt maximum minimum : ℕ) : DeepSeekEngine × Result Unit :=
  engine.withControl (engine.controlPlane.configureLedger id generation prompt maximum minimum)

def configureSampling (id generation : ℕ)
    (config : DeepSeekRequestSamplingConfig) : DeepSeekEngine × Result Unit :=
  engine.withControl (engine.controlPlane.configureSampling id generation config)

def acceptedTokenSnapshot (id generation : ℕ) : Result DeepSeekAcceptedTokenSnapshot :=
  engine.controlPlane.acceptedTokenSnapshot id generation

/-! ## Preparing a plan -/

/-- The sampling input of one request of a plan that publishes tokens. -/
def samplingInput (identity : DeepSeekRequestIdentity) : Result (Option
        (DeepSeekRequestSamplingConfig × DeepSeekPreparedSamplingInput)) :=
  match engine.controlPlane.samplingConfig identity.requestId identity.requestGeneration with
  | .error _ => .ok none
  | .ok config =>
    match engine.acceptedTokenSnapshot identity.requestId identity.requestGeneration with
    | .error status => .error status
    | .ok snapshot =>
      .ok (some (config,
        { configId := config.configId
          mode := config.mode
          sampleOrdinal := snapshot.sampleOrdinal
          suppressedTokens :=
            if snapshot.acceptedCompletionCount < snapshot.minimumCompletionTokens then
              config.suppressed
            else [] }))

/-- The loop over the requests of a plan. -/
def samplingInputs (engine : DeepSeekEngine) (publish : Bool) : List DeepSeekRequestIdentity →
      Result (List (Option (DeepSeekRequestSamplingConfig × DeepSeekPreparedSamplingInput)))
  | [] => .ok []
  | identity :: rest =>
    if engine.requestAttentionBindings identity.requestId ≠ some identity.requestGeneration then
      .error (.invalidArgument "DeepSeek request attention binding is not live")
    else
      match if publish then engine.samplingInput identity else .ok none with
      | .error status => .error status
      | .ok input =>
        match engine.samplingInputs publish rest with
        | .error status => .error status
        | .ok inputs => .ok (input :: inputs)

/-- The inputs of one rank. -/
def validSeed (descriptor : DeepSeekPipelinePlanDescriptor)
    (seed : DeepSeekProductionRankPlanSeed) : Bool :=
  seed.tokenIds.length = descriptor.tokenCount ∧ seed.positions.length = descriptor.tokenCount ∧
    seed.tablePositionCount ≠ 0 ∧
    ∀ position ∈ seed.positions, position < seed.tablePositionCount

/-- The answers of the device while a plan is prepared. -/
structure PrepareAnswers where
  admission : DeepSeekDeviceAnswer := .done
  inputs : DeepSeekDeviceAnswer := .done
  compile : DeepSeekDeviceAnswer := .done
  reserve : DeepSeekDeviceAnswer := .done
  bind : Result Unit := .ok ()
  abort : Result Unit := .ok ()
deriving DecidableEq

/-- Give a prepared plan up because the device could not bind it. -/
def rollback (cause : Status) : DeepSeekEngine × Result Unit :=
  let rejected :=
    { engine with controlPlane := (engine.controlPlane.stageReject 0 (.error cause)).1 }
  if rejected.executionLive ∨ ¬ Result.isOk abort then
    rejected.fail abort (.internal "DeepSeek deferred runtime prepare rollback failed")
  else (rejected, .error cause)

section

variable (descriptor : DeepSeekPipelinePlanDescriptor)

/-- Bind the rank runtime of a prepared plan and report it ready. -/
def bindRuntime (publish : Bool) (inputs : List (Option
          (DeepSeekRequestSamplingConfig × DeepSeekPreparedSamplingInput)))
    (answers : PrepareAnswers) : DeepSeekEngine × Result Unit :=
  match answers.bind with
  | .error status => engine.rollback answers.abort status
  | .ok () =>
    match engine.controlPlane.stageReady 0 with
    | (controlPlane, .error status) => rollback { engine with controlPlane } answers.abort status
    | (controlPlane, .ok ()) =>
      ({ engine with
          controlPlane
          boundPlan := some descriptor
          publishBoundSampledToken := publish
          boundSampledTokenStaged := false
          boundSequenceSamplingConfigs := inputs.map fun input => input.map Prod.fst
          boundSequenceSampling := inputs.map fun input => input.map Prod.snd }, .ok ())

/-- Reserve the plan in the control plane and bind it. -/
def prepareDeferredNativePipeline (identities : List DeepSeekRequestIdentity) (publish : Bool)
    (inputs : List (Option (DeepSeekRequestSamplingConfig × DeepSeekPreparedSamplingInput)))
    (answers : PrepareAnswers) : DeepSeekEngine × Result Unit :=
  if engine.worldSize ≠ 1 then
    (engine, .error (.failedPrecondition
      "DeepSeek PP1 engine cannot prepare distributed execution"))
  else if descriptor.phase = .drain then
    (engine, .error (.invalidArgument "DeepSeek deferred native compiler topology is invalid"))
  else
    engine.afterDevice answers.reserve answers.abort
      (match engine.controlPlane.preparePlan descriptor identities with
      | (controlPlane, .error status) => ({ engine with controlPlane }, .error status)
      | (controlPlane, .ok ()) =>
        bindRuntime { engine with controlPlane } descriptor publish inputs answers)

/-- Check the rank seeds, then prepare and bind the plan. -/
def prepareProductionPipeline (identities : List DeepSeekRequestIdentity)
    (seeds : List DeepSeekProductionRankPlanSeed) (publish : Bool)
    (answers : PrepareAnswers) : DeepSeekEngine × Result Unit :=
  if descriptor.engineEpoch ≠ engine.epoch ∨ identities.length ≠ descriptor.sequenceCount ∨
      descriptor.sequenceCount = 0 ∨
      descriptor.tokenCount ≠ descriptor.sequenceCount ∨
      seeds.length ≠ engine.worldSize then
    (engine, .error (.invalidArgument "DeepSeek production pipeline identity is invalid"))
  else if seeds.any fun seed => ¬ validSeed descriptor seed then
    (engine, .error (.invalidArgument "DeepSeek production token/position cardinality invalid"))
  else
    engine.admitRequest answers.admission answers.abort
      (engine.afterDevice answers.inputs answers.abort
        (match engine.samplingInputs publish identities with
        | .error status => (engine, .error status)
        | .ok inputs =>
          if seeds.any fun seed => seed ≠ seeds.headD {} then
            (engine, .error (.invalidArgument
              "DeepSeek production logical token input differs across ranks"))
          else
            engine.afterDevice answers.compile answers.abort
              (engine.prepareDeferredNativePipeline descriptor identities publish inputs answers)))

end

/-! ## Running a plan -/

def commitPipeline (commit abort : Result Unit) : DeepSeekEngine × Result Unit :=
  if engine.boundPlan.isNone then
    (engine, .error (.failedPrecondition
      "DeepSeek engine lost rank plan reservations before COMMIT"))
  else
    match commit with
    | .error status => engine.fail abort status
    | .ok () =>
      match engine.controlPlane.commitPlan with
      | (controlPlane, .error status) => fail { engine with controlPlane } abort status
      | (controlPlane, .ok ()) => ({ engine with controlPlane }, .ok ())

/-- The batch of one request, from the token that was sampled for it. -/
def sampledBatch (config : Option DeepSeekRequestSamplingConfig)
    (sampling : Option DeepSeekPreparedSamplingInput)
    (sampled : DeepSeekSamplingResult) : DeepSeekAcceptedTokenBatch where
  tokenIds := [sampled.tokenId]
  finishReason :=
    if sampled.tokenId = 1 ∨ (config.any fun config =>
          config.stopTokens.contains sampled.tokenId) then
      .stop
    else .none
  selectedLogprobs :=
    match config with
    | none => []
    | some config =>
      [{ configId := config.configId
         selectedLogprob := sampled.selectedLogprob
         topLogprobs := (sampled.topTokenIds.zip sampled.topLogprobs).mapIdx
             fun index pair => ⟨pair.1, pair.2, index + 1⟩ }]
  samplingReceipts :=
    match sampling with
    | none => []
    | some sampling =>
      match sampling.mode with
      | .greedy => []
      | .stochastic =>
        [{ configId := sampling.configId
           sampleOrdinal := sampling.sampleOrdinal
           selectedLogprob := sampled.selectedLogprob }]

/-- The batches of a plan, from the tokens that were sampled for it. -/
def sampledBatches (descriptor : DeepSeekPipelinePlanDescriptor)
    (samples : ℕ → DeepSeekSamplingResult) :
    List DeepSeekAcceptedTokenBatch :=
  (List.range descriptor.sequenceCount).map fun sequence =>
    sampledBatch (engine.boundSequenceSamplingConfigs.getD sequence none)
      (engine.boundSequenceSampling.getD sequence none) (samples sequence)

/-- What the device answers when a bound plan is advanced. -/
inductive AdvanceAnswer where
  | running
  | lost (status : Status)
  | finished (samples : ℕ → DeepSeekSamplingResult) (complete : Result Unit)

/-- Complete the only rank of a bound plan. -/
def completeBound (complete abort : Result Unit) : DeepSeekEngine × Result Unit :=
  match engine.controlPlane.prepareStageComplete 0 with
  | .error status => engine.fail abort status
  | .ok () =>
    match complete with
    | .error status => engine.fail abort status
    | .ok () =>
      match engine.controlPlane.stageComplete 0 with
      | (controlPlane, .error status) => fail { engine with controlPlane } abort status
      | (controlPlane, .ok ()) => (unbind { engine with controlPlane }, .ok ())

/-- Stage the samples of a finished plan and complete it. -/
def advanceBoundPipeline (answer : AdvanceAnswer) (abort : Result Unit) :
    DeepSeekEngine × Result Unit :=
  match engine.boundPlan, answer with
  | none, _ =>
    (engine, .error (.failedPrecondition "DeepSeek engine has no bound execution to advance"))
  | some _, .running => (engine, .ok ())
  | some _, .lost status => engine.fail abort status
  | some descriptor, .finished samples complete =>
    if engine.publishBoundSampledToken ∧ ¬ engine.boundSampledTokenStaged then
      if (List.range descriptor.sequenceCount).any fun sequence =>
          (samples sequence).tokenId ≥ 129280 then
        engine.fail abort (.internal "DeepSeek sampled token is outside vocabulary")
      else
        match engine.controlPlane.stageAcceptedTokens descriptor.planSequence
            (engine.sampledBatches descriptor samples) with
        | (controlPlane, .error status) => fail { engine with controlPlane } abort status
        | (controlPlane, .ok ()) =>
          completeBound
            { engine with controlPlane, boundSampledTokenStaged := true } complete abort
    else engine.completeBound complete abort

def acknowledgeOutputPlan (planSequence : ℕ) : DeepSeekEngine × Result Unit := engine.withControl
    (engine.controlPlane.acknowledgeOutputPlan planSequence)

def stageAcceptedTokens (planSequence : ℕ) (batches : List DeepSeekAcceptedTokenBatch) :
    DeepSeekEngine × Result Unit :=
  engine.withControl (engine.controlPlane.stageAcceptedTokens planSequence batches)

/-! ## Closing -/

def failAll : DeepSeekEngine :=
  let state : DeepSeekEngineState :=
    match engine.state with
    | .closed => .closed
    | _ => .failed
  let failed := { engine with state, controlPlane := engine.controlPlane.failAll }
  match abort with
  | .error _ => { failed with state := .failed }
  | .ok () => failed.unbind

/-- Cancel all requests and begin to close. -/
def beginClose : DeepSeekEngine × Result Unit :=
  if engine.state = .closed ∨ engine.state = .closing then (engine, .ok ())
  else
    let swept :=
      if engine.state = .ready then { engine with controlPlane := engine.controlPlane.cancelAll }
      else engine
    let failed := { swept with state := .failed, controlPlane := swept.controlPlane.failAll }
    if engine.boundPlan.isNone ∧ engine.executionLive then
      (failed, .error (.failedPrecondition
        "DeepSeek manual execution has no verified close frontier"))
    else
      match abort with
      | .error status => (failed, .error status)
      | .ok () => ({ swept.unbind with state := .closing }, .ok ())

/-! ## Runs -/

/-- A call of the engine with what the device answers to it. -/
inductive Action where
  | submitRequest (id generation : ℕ) (admission : DeepSeekDeviceAnswer) (abort : Result Unit)
  | cancelRequest (id generation : ℕ) (inputs abort : Result Unit)
  | finishRequest (id generation : ℕ)
  | retireRequest (id generation : ℕ)
  | configureLedger (id generation prompt maximum minimum : ℕ)
  | configureSampling (id generation : ℕ) (config : DeepSeekRequestSamplingConfig)
  | prepareProductionPipeline (descriptor : DeepSeekPipelinePlanDescriptor)
    (identities : List DeepSeekRequestIdentity)
    (seeds : List DeepSeekProductionRankPlanSeed) (publish : Bool)
    (answers : PrepareAnswers)
  | commitPipeline (commit abort : Result Unit)
  | advanceBoundPipeline (answer : AdvanceAnswer) (abort : Result Unit)
  | acknowledgeOutputPlan (planSequence : ℕ)
  | stageAcceptedTokens (planSequence : ℕ) (batches : List DeepSeekAcceptedTokenBatch)
  | failAll (abort : Result Unit)
  | beginClose (abort : Result Unit)

def execute : Action → DeepSeekEngine × Result Unit
  | .submitRequest id generation admission abort =>
    engine.submitRequest id generation admission abort
  | .cancelRequest id generation inputs abort => engine.cancelRequest id generation inputs abort
  | .finishRequest id generation => engine.finishRequest id generation
  | .retireRequest id generation => engine.retireRequest id generation
  | .configureLedger id generation prompt maximum minimum =>
    engine.configureLedger id generation prompt maximum minimum
  | .configureSampling id generation config => engine.configureSampling id generation config
  | .prepareProductionPipeline descriptor identities seeds publish answers =>
    engine.prepareProductionPipeline descriptor identities seeds publish answers
  | .commitPipeline commit abort => engine.commitPipeline commit abort
  | .advanceBoundPipeline answer abort => engine.advanceBoundPipeline answer abort
  | .acknowledgeOutputPlan planSequence => engine.acknowledgeOutputPlan planSequence
  | .stageAcceptedTokens planSequence batches => engine.stageAcceptedTokens planSequence batches
  | .failAll abort => (engine.failAll abort, .ok ())
  | .beginClose abort => engine.beginClose abort

end DeepSeekEngine

end Pih
