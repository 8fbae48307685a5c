import Pih.DeepSeek.RequestRegistry

/-!
# The execution of a DeepSeek plan

A plan reserves transient resources of every stage, then waits until every
rank is ready, is committed, and completes when every rank has completed.
Until it is committed it can be rejected, which restores the resources.  The
execution keeps the requests of the plan in step with it.

The pointers of an execution to the registry and to the resources are passed
explicitly; the transaction is kept inside the coordinator that points to it.
-/

namespace Pih

/-- The limits of plans that the pipeline checks. -/
structure DeepSeekPipelineCapacity where
  worldSize : ℕ
  maxPipelineTokens : ℕ
  expertTokens : ℕ
  maxSequences : ℕ
  maxPrefillChunkTokens : ℕ
  maxDecodeSequences : ℕ
  maxVerifySequences : ℕ
  dsparkEnabled : Bool
  rankCount : ℕ
deriving DecidableEq, Repr

def kBoundaryCredits : ℕ := 2

/-! ## Resources -/

structure DeepSeekPipelineStagePool where
  hasIncoming : Bool
  hasOutgoing : Bool
  injectFailure : Bool := false
  incomingAvailable : ℕ
  outgoingAvailable : ℕ
  controlAvailable : ℕ := 2
  moeLaneAvailable : ℕ := 1
deriving DecidableEq, Repr

namespace DeepSeekPipelineStagePool

def reserve (stage : DeepSeekPipelineStagePool) : Result DeepSeekPipelineStagePool :=
  if stage.injectFailure then .error (.resourceExhausted "injected DeepSeek stage prepare failure")
  else if stage.controlAvailable = 0 ∨ stage.moeLaneAvailable = 0 ∨
      (stage.hasIncoming ∧ stage.incomingAvailable = 0) ∨
      (stage.hasOutgoing ∧ stage.outgoingAvailable = 0) then
    .error (.resourceExhausted "DeepSeek stage transient resources exhausted")
  else
    .ok
      { stage with
        controlAvailable := stage.controlAvailable - 1
        moeLaneAvailable := stage.moeLaneAvailable - 1
        incomingAvailable :=
          if stage.hasIncoming then stage.incomingAvailable - 1
          else stage.incomingAvailable
        outgoingAvailable :=
          if stage.hasOutgoing then stage.outgoingAvailable - 1
          else stage.outgoingAvailable }

def restore (stage : DeepSeekPipelineStagePool) : DeepSeekPipelineStagePool :=
  { stage with
    controlAvailable := stage.controlAvailable + 1
    moeLaneAvailable := stage.moeLaneAvailable + 1
    incomingAvailable :=
      if stage.hasIncoming then stage.incomingAvailable + 1
      else stage.incomingAvailable
    outgoingAvailable :=
      if stage.hasOutgoing then stage.outgoingAvailable + 1
      else stage.outgoingAvailable }

/-- The loop that reserves every stage, or none of them. -/
def reserveAll : List DeepSeekPipelineStagePool → List DeepSeekPipelineStagePool × Result Unit
  | [] => ([], .ok ())
  | stage :: rest =>
    match stage.reserve with
    | .error status => (stage :: rest, .error status)
    | .ok reserved =>
      match reserveAll rest with
      | (others, .ok ()) => (reserved :: others, .ok ())
      | (others, .error status) => (reserved.restore :: others, .error status)

end DeepSeekPipelineStagePool

inductive DeepSeekPipelineTransactionState where
  | prepared
  | committed
  | aborted
  | completed
deriving DecidableEq, Repr

/-- A plan with its reserved credits. -/
structure DeepSeekPipelineTransaction where
  descriptor : DeepSeekPipelinePlanDescriptor
  state : DeepSeekPipelineTransactionState := .prepared
deriving DecidableEq, Repr

/-- The stage pools of all ranks. -/
structure DeepSeekPipelineResourceSet where
  capacity : DeepSeekPipelineCapacity
  stages : List DeepSeekPipelineStagePool
  engineEpoch : ℕ := 0
  lastPlanSequence : ℕ := 0
  transactionLive : Bool := false
deriving DecidableEq, Repr

namespace DeepSeekPipelineResourceSet

/-- The pool of a rank before any plan. -/
def stageOf (world rank : ℕ) : DeepSeekPipelineStagePool where
  hasIncoming := rank > 0
  hasOutgoing := rank + 1 < world
  incomingAvailable := if rank > 0 then 2 else 0
  outgoingAvailable := if rank + 1 < world then 2 else 0

def create (capacity : DeepSeekPipelineCapacity) : Result DeepSeekPipelineResourceSet :=
  if capacity.worldSize = 0 ∨ capacity.rankCount ≠ capacity.worldSize ∨
      capacity.expertTokens ≠ capacity.maxPipelineTokens then
    .error (.invalidArgument "DeepSeek pipeline capacity is inconsistent")
  else .ok { capacity, stages := (List.range capacity.worldSize).map (stageOf capacity.worldSize) }

/-- The bounds of a plan in its phase. -/
def checkPhase (capacity : DeepSeekPipelineCapacity)
    (descriptor : DeepSeekPipelinePlanDescriptor) : Result Unit :=
  match descriptor.phase with
  | .prefill =>
    if descriptor.tokenCount = 0 ∨ descriptor.tokenCount > capacity.maxPrefillChunkTokens ∨
        descriptor.sequenceCount > descriptor.tokenCount then
      .error (.invalidArgument "DeepSeek prefill plan bounds are invalid")
    else .ok ()
  | .decode =>
    if descriptor.tokenCount ≠ descriptor.sequenceCount ∨
        descriptor.sequenceCount > capacity.maxDecodeSequences then
      .error (.invalidArgument "DeepSeek decode plan bounds are invalid")
    else .ok ()
  | .verify =>
    if ¬ capacity.dsparkEnabled ∨ descriptor.tokenCount = 0 ∨
        descriptor.sequenceCount > capacity.maxVerifySequences ∨
        descriptor.tokenCount > descriptor.sequenceCount * 5 % (u32Max + 1) then
      .error (.invalidArgument "DeepSeek verify plan bounds are invalid")
    else .ok ()
  | .drain =>
    if descriptor.tokenCount ≠ 0 then
      .error (.invalidArgument "DeepSeek drain plan must have zero tokens")
    else .ok ()

/-- Reserve a credit on every stage for the next plan. -/
def prepare (resources : DeepSeekPipelineResourceSet)
    (descriptor : DeepSeekPipelinePlanDescriptor) :
    DeepSeekPipelineResourceSet × Result DeepSeekPipelineTransaction :=
  if resources.transactionLive then
    (resources, .error (.resourceExhausted "DeepSeek pipeline transaction already live"))
  else if descriptor.engineEpoch = 0 ∨ descriptor.planSequence = 0 ∨ descriptor.sequenceCount = 0 ∨
      descriptor.tokenCount > resources.capacity.maxPipelineTokens ∨
      descriptor.sequenceCount > resources.capacity.maxSequences then
    (resources, .error (.invalidArgument "DeepSeek pipeline descriptor bounds are invalid"))
  else
    match checkPhase resources.capacity descriptor with
    | .error status => (resources, .error status)
    | .ok () =>
      if resources.engineEpoch ≠ 0 ∧ descriptor.engineEpoch ≠ resources.engineEpoch then
        (resources, .error (.failedPrecondition "DeepSeek pipeline engine epoch changed"))
      else if descriptor.planSequence ≠ nextU64 resources.lastPlanSequence then
        (resources, .error (.failedPrecondition "DeepSeek pipeline plan sequence is not strict"))
      else
        match DeepSeekPipelineStagePool.reserveAll resources.stages with
        | (stages, .error status) => ({ resources with stages }, .error status)
        | (stages, .ok ()) =>
          ({ resources with
              stages
              engineEpoch := descriptor.engineEpoch
              lastPlanSequence := descriptor.planSequence
              transactionLive := true },
            .ok { descriptor })

def restoreAll (resources : DeepSeekPipelineResourceSet) : DeepSeekPipelineResourceSet :=
  if ¬ resources.transactionLive then resources
  else
    { resources with
      stages := resources.stages.map DeepSeekPipelineStagePool.restore
      transactionLive := false }

end DeepSeekPipelineResourceSet

namespace DeepSeekPipelineTransaction

variable (transaction : DeepSeekPipelineTransaction)

def validateCommit : Result Unit :=
  if transaction.state ≠ .prepared then .error (.failedPrecondition "DeepSeek plan is not prepared")
  else .ok ()

def commit : DeepSeekPipelineTransaction × Result Unit :=
  match transaction.validateCommit with
  | .error status => (transaction, .error status)
  | .ok () => ({ transaction with state := .committed }, .ok ())

def validateAbortPrepare : Result Unit :=
  if transaction.state ≠ .prepared then
    .error (.failedPrecondition "DeepSeek prepared plan cannot be aborted")
  else .ok ()

variable (resources : DeepSeekPipelineResourceSet) (transaction : DeepSeekPipelineTransaction)

def abortPrepare : DeepSeekPipelineResourceSet × DeepSeekPipelineTransaction × Result Unit :=
  match transaction.validateAbortPrepare with
  | .error status => (resources, transaction, .error status)
  | .ok () => (resources.restoreAll, { transaction with state := .aborted }, .ok ())

def validateComplete : Result Unit :=
  if transaction.state ≠ .committed then
    .error (.failedPrecondition "DeepSeek plan is not committed")
  else .ok ()

def complete : DeepSeekPipelineResourceSet × DeepSeekPipelineTransaction × Result Unit :=
  match transaction.validateComplete with
  | .error status => (resources, transaction, .error status)
  | .ok () => (resources.restoreAll, { transaction with state := .completed }, .ok ())

/-- The destructor, which rolls a prepared plan back. -/
def destroy : DeepSeekPipelineResourceSet :=
  if transaction.state = .prepared then resources.restoreAll
  else resources

end DeepSeekPipelineTransaction

/-! ## The coordinator -/

inductive DeepSeekPipelineCoordinatorState where
  | preparing
  | readyToCommit
  | committed
  | draining
  | complete
  | aborted
  | poisoned
deriving DecidableEq, Repr

/-- Which ranks are ready and which have completed. -/
structure DeepSeekPipelineCoordinator where
  transaction : DeepSeekPipelineTransaction
  worldSize : ℕ
  ready : List Bool
  complete : List Bool
  readyCount : ℕ := 0
  completeCount : ℕ := 0
  state : DeepSeekPipelineCoordinatorState := .preparing
deriving DecidableEq, Repr

namespace DeepSeekPipelineCoordinator

def create (transaction : DeepSeekPipelineTransaction) (worldSize : ℕ) :
    Result DeepSeekPipelineCoordinator :=
  if transaction.state ≠ .prepared ∨ worldSize < 1 ∨ worldSize > 4 then
    .error (.invalidArgument "DeepSeek coordinator requires a prepared PP1-PP4 transaction")
  else
    .ok
      { transaction
        worldSize
        ready := List.replicate worldSize false
        complete := List.replicate worldSize false }

variable (coordinator : DeepSeekPipelineCoordinator) (rank : ℕ)

def validateRank : Result Unit :=
  if rank < coordinator.worldSize then .ok ()
  else .error (.invalidArgument "DeepSeek pipeline rank is out of range")

def isPreparing : Bool := coordinator.state = .preparing ∨ coordinator.state = .readyToCommit

def isCommitted : Bool := coordinator.state = .committed ∨ coordinator.state = .draining

def poison (reason : Result Unit) : DeepSeekPipelineCoordinator × Result Unit :=
  ({ coordinator with state := .poisoned },
    match reason with
    | .ok () => .error (.internal "DeepSeek pipeline coordinator poisoned")
    | .error status => .error status)

def stageReady : DeepSeekPipelineCoordinator × Result Unit :=
  match coordinator.validateRank rank with
  | .error status => (coordinator, .error status)
  | .ok () =>
    if ¬ coordinator.isPreparing then
      (coordinator, .error (.failedPrecondition "DeepSeek stage READY is outside PREPARE"))
    else if coordinator.ready.getD rank false then
      (coordinator, .error (.failedPrecondition "DeepSeek stage READY is duplicated"))
    else
      ({ coordinator with
          ready := coordinator.ready.set rank true
          readyCount := coordinator.readyCount + 1
          state :=
            if coordinator.readyCount + 1 = coordinator.worldSize then .readyToCommit
            else coordinator.state }, .ok ())

def validateStageReject : Result Unit :=
  match coordinator.validateRank rank with
  | .error status => .error status
  | .ok () =>
    if ¬ coordinator.isPreparing then
      .error (.failedPrecondition "DeepSeek stage rejection is outside PREPARE")
    else coordinator.transaction.validateAbortPrepare

def stageReject (resources : DeepSeekPipelineResourceSet)
    (coordinator : DeepSeekPipelineCoordinator) (rank : ℕ) (reason : Result Unit) :
    DeepSeekPipelineResourceSet × DeepSeekPipelineCoordinator × Result Unit :=
  match coordinator.validateStageReject rank with
  | .error status => (resources, coordinator, .error status)
  | .ok () =>
    match DeepSeekPipelineTransaction.abortPrepare resources coordinator.transaction with
    | (resources, transaction, .error status) =>
      (resources, poison { coordinator with transaction } (.error status))
    | (resources, transaction, .ok ()) =>
      (resources,
        { coordinator with transaction, state := .aborted },
        match reason with
        | .ok () => .error (.unavailable "DeepSeek stage rejected PREPARE")
        | .error status => .error status)

def validateCommit : Result Unit :=
  if coordinator.state ≠ .readyToCommit ∨ coordinator.readyCount ≠ coordinator.worldSize then
    .error (.failedPrecondition "DeepSeek pipeline cannot COMMIT before all ranks are READY")
  else coordinator.transaction.validateCommit

def commit : DeepSeekPipelineCoordinator × Result Unit :=
  match coordinator.validateCommit with
  | .error status => (coordinator, .error status)
  | .ok () =>
    match coordinator.transaction.commit with
    | (transaction, .error status) => poison { coordinator with transaction } (.error status)
    | (transaction, .ok ()) => ({ coordinator with transaction, state := .committed }, .ok ())

def validateStageComplete : Result Unit :=
  match coordinator.validateRank rank with
  | .error status => .error status
  | .ok () =>
    if ¬ coordinator.isCommitted then
      .error (.failedPrecondition "DeepSeek stage completion is outside committed execution")
    else if coordinator.complete.getD rank false then
      .error (.failedPrecondition "DeepSeek stage completion is duplicated")
    else if coordinator.completeCount + 1 = coordinator.worldSize then
      coordinator.transaction.validateComplete
    else .ok ()

def stageComplete (resources : DeepSeekPipelineResourceSet)
    (coordinator : DeepSeekPipelineCoordinator) (rank : ℕ) :
    DeepSeekPipelineResourceSet × DeepSeekPipelineCoordinator × Result Unit :=
  match coordinator.validateStageComplete rank with
  | .error status => (resources, coordinator, .error status)
  | .ok () =>
    let counted :=
      { coordinator with
        complete := coordinator.complete.set rank true
        completeCount := coordinator.completeCount + 1 }
    if counted.completeCount ≠ counted.worldSize then (resources, counted, .ok ())
    else
      match DeepSeekPipelineTransaction.complete resources counted.transaction with
      | (resources, transaction, .error status) =>
        (resources, poison { counted with transaction } (.error status))
      | (resources, transaction, .ok ()) =>
        (resources,
          { counted with transaction, state := .complete }, .ok ())

def validateStageFailed : Result Unit :=
  match coordinator.validateRank rank with
  | .error status => .error status
  | .ok () =>
    if ¬ coordinator.isCommitted then
      .error (.failedPrecondition "DeepSeek stage failure is outside committed execution")
    else .ok ()

def stageFailed (reason : Result Unit) : DeepSeekPipelineCoordinator × Result Unit :=
  match coordinator.validateStageFailed rank with
  | .error status => (coordinator, .error status)
  | .ok () => coordinator.poison reason

end DeepSeekPipelineCoordinator

/-! ## The execution -/

/-- What an execution points to. -/
structure DeepSeekPipelineShared where
  requests : DeepSeekRequestRegistry
  resources : DeepSeekPipelineResourceSet

/-- A plan, its requests and its coordinator. -/
structure DeepSeekPipelineExecution where
  requestIdentities : List DeepSeekRequestIdentity
  coordinator : DeepSeekPipelineCoordinator
deriving DecidableEq, Repr

namespace DeepSeekPipelineExecution

/-- A loop of checks that stops at the first failure. -/
def validateAll (check : DeepSeekRequestIdentity → Result Unit) :
    List DeepSeekRequestIdentity → Result Unit
  | [] => .ok ()
  | identity :: rest =>
    match check identity with
    | .error status => .error status
    | .ok () => validateAll check rest

/-- A loop of changes that stops at the first failure. -/
def changeAll (update : DeepSeekRequestRegistry → DeepSeekRequestIdentity →
        DeepSeekRequestRegistry × Result Unit) :
    DeepSeekRequestRegistry → List DeepSeekRequestIdentity → DeepSeekRequestRegistry × Result Unit
  | registry, [] => (registry, .ok ())
  | registry, identity :: rest =>
    match update registry identity with
    | (changed, .error status) => (changed, .error status)
    | (changed, .ok ()) => changeAll update changed rest

/-- The identities are nonzero and name each request once. -/
def checkIdentities : List ℕ → List DeepSeekRequestIdentity → Result Unit
  | _, [] => .ok ()
  | seen, identity :: rest =>
    if identity.requestId = 0 ∨ identity.requestGeneration = 0 ∨ identity.requestId ∈ seen then
      .error (.invalidArgument "DeepSeek pipeline request identities are invalid")
    else checkIdentities (identity.requestId :: seen) rest

/-- The loop that prepares the requests, or none of them. -/
def prepareRequests (plan : ℕ) : DeepSeekRequestRegistry → List DeepSeekRequestIdentity →
      List DeepSeekRequestIdentity → DeepSeekRequestRegistry × Result Unit
  | registry, _, [] => (registry, .ok ())
  | registry, prior, identity :: rest =>
    match registry.prepare identity.requestId identity.requestGeneration plan with
    | (registry, .error status) =>
      (prior.foldl (fun registry prepared =>
          (registry.abortPrepare prepared.requestId prepared.requestGeneration plan).1) registry,
        .error status)
    | (registry, .ok ()) => prepareRequests plan registry (prior ++ [identity]) rest

/-- Prepare the stages and the requests of a plan. -/
def create (shared : DeepSeekPipelineShared) (descriptor : DeepSeekPipelinePlanDescriptor)
    (identities : List DeepSeekRequestIdentity) :
    DeepSeekPipelineShared × Result DeepSeekPipelineExecution :=
  if identities.length ≠ descriptor.sequenceCount then
    (shared, .error (.invalidArgument "DeepSeek pipeline request count differs from descriptor"))
  else
    match checkIdentities [] identities with
    | .error status => (shared, .error status)
    | .ok () =>
      match validateAll (fun identity =>
            shared.requests.validatePrepare identity.requestId
              identity.requestGeneration descriptor.planSequence)
          identities with
      | .error status => (shared, .error status)
      | .ok () =>
        match shared.resources.prepare descriptor with
        | (resources, .error status) => ({ shared with resources }, .error status)
        | (resources, .ok transaction) =>
          match DeepSeekPipelineCoordinator.create transaction resources.capacity.worldSize with
          | .error status =>
            ({ shared with resources := transaction.destroy resources }, .error status)
          | .ok coordinator =>
            match prepareRequests descriptor.planSequence shared.requests [] identities with
            | (requests, .error status) =>
              (⟨requests, transaction.destroy resources⟩, .error status)
            | (requests, .ok ()) =>
              (⟨requests, resources⟩, .ok { requestIdentities := identities, coordinator })

def state (execution : DeepSeekPipelineExecution) : DeepSeekPipelineCoordinatorState :=
  execution.coordinator.state

def planSequence (execution : DeepSeekPipelineExecution) : ℕ :=
  execution.coordinator.transaction.descriptor.planSequence

variable (execution : DeepSeekPipelineExecution)

def containsRequest (id generation : ℕ) : Bool := execution.requestIdentities.any fun identity =>
    identity.requestId = id ∧ identity.requestGeneration = generation

def stageReady (rank : ℕ) : DeepSeekPipelineExecution × Result Unit :=
  let staged := execution.coordinator.stageReady rank
  ({ execution with coordinator := staged.1 }, staged.2)

/-- The loop that takes the prepared requests of the plan back. -/
def rollbackPreparedRequests (requests : DeepSeekRequestRegistry) : DeepSeekRequestRegistry :=
  execution.requestIdentities.foldl (fun requests identity =>
      match requests.state identity.requestId identity.requestGeneration with
      | .ok .prepared =>
        (requests.abortPrepare identity.requestId
          identity.requestGeneration execution.planSequence).1
      | _ => requests) requests

section

variable (shared : DeepSeekPipelineShared) (execution : DeepSeekPipelineExecution) (rank : ℕ)

def validateStageReject : Result Unit :=
  match execution.coordinator.validateStageReject rank with
  | .error status => .error status
  | .ok () =>
    validateAll (fun identity =>
        shared.requests.validateAbortPrepare identity.requestId
          identity.requestGeneration execution.planSequence)
      execution.requestIdentities

def stageReject (reason : Result Unit) :
    DeepSeekPipelineShared × DeepSeekPipelineExecution × Result Unit :=
  match execution.validateStageReject shared rank with
  | .error status => (shared, execution, .error status)
  | .ok () =>
    match execution.coordinator.stageReject shared.resources rank reason with
    | (resources, coordinator, status) =>
      let rejected := { execution with coordinator }
      let requests :=
        if coordinator.state = .aborted then rejected.rollbackPreparedRequests shared.requests
        else shared.requests
      (⟨requests, resources⟩, rejected, status)

def validateCommit : Result Unit :=
  match execution.coordinator.validateCommit with
  | .error status => .error status
  | .ok () =>
    validateAll (fun identity =>
        shared.requests.validateCommit identity.requestId
          identity.requestGeneration execution.planSequence)
      execution.requestIdentities

def commit : DeepSeekPipelineShared × DeepSeekPipelineExecution × Result Unit :=
  match execution.validateCommit shared with
  | .error status => (shared, execution, .error status)
  | .ok () =>
    match execution.coordinator.commit with
    | (coordinator, .error status) => (shared, { execution with coordinator }, .error status)
    | (coordinator, .ok ()) =>
      let committed := { execution with coordinator }
      let changed :=
        changeAll (fun requests identity =>
            requests.commit identity.requestId identity.requestGeneration execution.planSequence)
          shared.requests execution.requestIdentities
      ({ shared with requests := changed.1 }, committed, changed.2)

def validateCancelRequest (id generation : ℕ) : Result Unit :=
  match shared.requests.validateCancel id generation with
  | .error status => .error status
  | .ok () =>
    if execution.coordinator.isPreparing then execution.validateStageReject shared 0
    else .ok ()

/-- Cancel a request; this undoes a plan in preparation. -/
def cancelRequest (id generation : ℕ) :
    DeepSeekPipelineShared × DeepSeekPipelineExecution × Result Unit :=
  match execution.validateCancelRequest shared id generation with
  | .error status => (shared, execution, .error status)
  | .ok () =>
    match shared.requests.cancel id generation with
    | (requests, .error status) => ({ shared with requests }, execution, .error status)
    | (requests, .ok ()) =>
      if execution.coordinator.isPreparing then
        match execution.coordinator.stageReject shared.resources 0 (.error (.unavailable
              "DeepSeek request cancelled before COMMIT")) with
        | (resources, coordinator, status) =>
          let rejected := { execution with coordinator }
          if ¬ Result.isOk status ∧ coordinator.state ≠ .aborted then
            (⟨requests, resources⟩, rejected, status)
          else (⟨rejected.rollbackPreparedRequests requests, resources⟩, rejected, .ok ())
      else ({ shared with requests }, execution, .ok ())

def validateStageComplete : Result Unit :=
  match execution.coordinator.validateStageComplete rank with
  | .error status => .error status
  | .ok () =>
    validateAll (fun identity =>
        shared.requests.validateBackendComplete identity.requestId
          identity.requestGeneration execution.planSequence)
      execution.requestIdentities

def stageComplete : DeepSeekPipelineShared × DeepSeekPipelineExecution × Result Unit :=
  match execution.validateStageComplete shared rank with
  | .error status => (shared, execution, .error status)
  | .ok () =>
    match execution.coordinator.stageComplete shared.resources rank with
    | (resources, coordinator, .error status) =>
      ({ shared with resources }, { execution with coordinator }, .error status)
    | (resources, coordinator, .ok ()) =>
      let completed := { execution with coordinator }
      if coordinator.state ≠ .complete then ({ shared with resources }, completed, .ok ())
      else
        let changed :=
          changeAll (fun requests identity =>
              requests.backendComplete identity.requestId
                identity.requestGeneration execution.planSequence
                identity.terminalOnComplete)
            shared.requests execution.requestIdentities
        (⟨changed.1, resources⟩, completed, changed.2)

def validateStageFailed : Result Unit :=
  match execution.coordinator.validateStageFailed rank with
  | .error status => .error status
  | .ok () =>
    validateAll (fun identity =>
        match shared.requests.state identity.requestId identity.requestGeneration with
        | .error status => .error status
        | .ok _ => .ok ())
      execution.requestIdentities

end

/-- The loop that fails the requests of a failed plan. -/
def failRequests (requests : DeepSeekRequestRegistry) : DeepSeekRequestRegistry :=
  execution.requestIdentities.foldl (fun requests identity =>
      match requests.state identity.requestId identity.requestGeneration with
      | .error _ => requests
      | .ok .completed => requests
      | .ok .cancelled => requests
      | .ok .failed => requests
      | .ok _ => (requests.fail identity.requestId identity.requestGeneration).1)
    requests

def stageFailed (shared : DeepSeekPipelineShared)
    (execution : DeepSeekPipelineExecution) (rank : ℕ) (reason : Result Unit) :
    DeepSeekPipelineShared × DeepSeekPipelineExecution × Result Unit :=
  match execution.validateStageFailed shared rank with
  | .error status => (shared, execution, .error status)
  | .ok () =>
    match execution.coordinator.stageFailed rank reason with
    | (coordinator, status) =>
      let failed := { execution with coordinator }
      if ¬ Result.isOk status ∧ coordinator.state ≠ .poisoned then (shared, failed, status)
      else ({ shared with requests := failed.failRequests shared.requests }, failed, status)

end DeepSeekPipelineExecution

end Pih
