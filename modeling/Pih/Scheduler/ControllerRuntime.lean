import Pih.Scheduler.ControllerIngress
import Pih.Scheduler.ControllerSequence
import Pih.Scheduler.OutputBurstCreditPool
import Pih.Scheduler.PhaseTierScheduler

/-!
# The controller runtime: state, submission and admission

The runtime owns a table of sequence slots and the current plan.  It takes
commands from the ingress, admits or cancels sequences, and answers with
output events.  This module has the state, the submissions and `step`; plans
and completions follow in the next two.

An operation is a function from the state to the next state and its result.
The members of the current plan, which the source sets and clears together,
are one optional record.
-/

namespace Pih

inductive ControllerRuntimeState where
  | ready
  | failed
  | closed
deriving DecidableEq, Repr

inductive ControllerRuntimeStep where
  | idle
  | outputBackpressured
  | admitted
  | cancelRequested
  | admissionRejected
deriving DecidableEq, Repr

structure ControllerRuntimeLimits where
  epoch : ℕ
  maximumSequences : ℕ
  ingress : ControllerIngressLimits
  scheduler : PhaseTierProfile
  metadata : PackedTokenMetadataLimits
  maximumPrefillChunkTokens : ℕ
  padToMaximumExecutionBucket : Bool
  profileRevision : List UInt8
  resourceVectorHash : Sha256Digest
  eosTokenId : ℕ := u32Max
  outputBurstCreditCount : ℕ := 1
  outputMaximumSlotsPerCredit : ℕ := 64
  outputMaximumBytesPerCredit : ℕ := 1048576
  outputPlanKind : OutputPlanKind := .qwen
deriving DecidableEq

/-- One entry of the sequence table. -/
structure RuntimeSlot where
  sequence : Option ControllerSequence := none
  request : ControllerRequestView := {}
  pendingToken : Option ℕ := none
  lastServicePlanSequence : ℕ := 0
  readyEnqueueSequence : ℕ := 0
  prefillEligibleSinceNs : ℤ := 0
deriving DecidableEq

/-- The plan that was prepared and is neither completed nor aborted. -/
structure CurrentPlan where
  plan : PackedTokenPlan
  outputBurst : OutputBurstLease
  digest : Sha256Digest
  tier : SchedulerTier
  selectedSlotIndices : List ℕ
deriving DecidableEq

/-- The state of the controller. -/
structure ControllerRuntime where
  limits : ControllerRuntimeLimits
  ingress : ControllerIngress
  slots : List RuntimeSlot
  scheduler : PhaseTierScheduler
  metadata : PackedTokenMetadataArena
  outputCredits : OutputBurstCreditPool
  pendingOutputBursts : List (Option OutputBurstLease)
  current : Option CurrentPlan
  nextReadyEnqueueSequence : ℕ
  nextPlanSequence : ℕ
  lastControllerNowNs : ℤ
  consecutiveDecodeRounds : ℕ
  lastSuccessfulPlanWasProtectedPrefill : Bool
  state : ControllerRuntimeState
  activeSequenceCount : ℕ
deriving DecidableEq

namespace ControllerRuntime

def limitsConsistent (limits : ControllerRuntimeLimits) : Bool :=
  ¬ (limits.epoch = 0 ∨ limits.maximumSequences = 0 ∨
    limits.maximumSequences ≠ limits.ingress.requests.maximumRequests ∨
    limits.scheduler.maximumCandidates ≠ limits.maximumSequences ∨
    limits.metadata.maximumSequences < limits.scheduler.maximumSequencesPerPlan ∨
    limits.metadata.maximumExecutionBucketTokens < limits.scheduler.maximumRealTokensPerPlan ∨
    limits.maximumPrefillChunkTokens = 0 ∨
    limits.maximumPrefillChunkTokens > limits.scheduler.maximumRealTokensPerPlan ∨
    limits.profileRevision.length = 0 ∨
    limits.profileRevision.length > 128 ∨
    ¬ limits.resourceVectorHash.nonzero)

/-- Build the parts and start with empty slots. -/
def create (limits : ControllerRuntimeLimits) : Result ControllerRuntime :=
  if ¬ limitsConsistent limits then
    .error (.invalidArgument "controller runtime limits are inconsistent")
  else
    match ControllerIngress.create limits.ingress with
    | .error status => .error status
    | .ok ingress =>
      match PhaseTierScheduler.create limits.scheduler with
      | .error status => .error status
      | .ok scheduler =>
        match PackedTokenMetadataArena.create limits.metadata with
        | .error status => .error status
        | .ok metadata =>
          match OutputBurstCreditPool.create
              { creditCount := limits.outputBurstCreditCount
                maximumRecordsQwen := 1
                maximumRecordsDeepseek := 5
                maximumSlotsPerCredit := limits.outputMaximumSlotsPerCredit
                maximumBytesPerCredit := limits.outputMaximumBytesPerCredit } with
          | .error status => .error status
          | .ok outputCredits =>
            .ok
              { limits
                ingress
                slots := List.replicate limits.maximumSequences {}
                scheduler
                metadata
                outputCredits
                pendingOutputBursts := List.replicate limits.outputBurstCreditCount none
                current := none
                nextReadyEnqueueSequence := 1
                nextPlanSequence := 1
                lastControllerNowNs := 0
                consecutiveDecodeRounds := 0
                lastSuccessfulPlanWasProtectedPrefill := false
                state := .ready
                activeSequenceCount := 0 }

/-! ## Access to the slots and the ingress -/

variable (runtime : ControllerRuntime)

/-- Store the failed state and answer with a status. -/
def failWith {Value : Type} (status : Status) : ControllerRuntime × Result Value :=
  ({ runtime with state := .failed }, .error status)

def slotAt (index : ℕ) : RuntimeSlot := runtime.slots.getD index {}

def setSlot (index : ℕ) (slot : RuntimeSlot) : ControllerRuntime :=
  { runtime with slots := runtime.slots.set index slot }

def setIngress (ingress : ControllerIngress) : ControllerRuntime := { runtime with ingress }

variable (requestGeneration : ℕ)

/-- The slot holds the sequence of a request generation. -/
def slotHolds (slot : RuntimeSlot) : Bool := slot.sequence.any fun sequence =>
    sequence.sequenceGeneration = requestGeneration

def slotEmpty (slot : RuntimeSlot) : Bool := slot.sequence.isNone

/-- Publish an event and keep the ingress it leaves. -/
def publish (thread : ThreadId) (draft : ControllerOutputEventDraft) :
    ControllerRuntime × Result ControllerOutputEvent :=
  let published := runtime.ingress.publishEvent thread draft
  (runtime.setIngress published.1, published.2)

def releaseRequest (request : ControllerRequestView) : ControllerRuntime × Result Unit :=
  let released := runtime.ingress.releaseRequest request
  (runtime.setIngress released.1, released.2)

/-! ## Submission -/

def submitAdmit (promptTokenIds : List ℕ) (maximumNewTokens : ℕ)
    (sampling : ControllerRequestSampling) :
    ControllerRuntime × Result ControllerCommand :=
  if runtime.state ≠ .ready then
    (runtime, .error (.failedPrecondition "controller runtime is not ready"))
  else
    let submitted :=
      runtime.ingress.submitAdmit runtime.limits.epoch requestGeneration
        promptTokenIds maximumNewTokens sampling
    (runtime.setIngress submitted.1, submitted.2)

def submitCancel : ControllerRuntime × Result ControllerCommand :=
  if runtime.state ≠ .ready then
    (runtime, .error (.failedPrecondition "controller runtime is not ready"))
  else
    let submitted := runtime.ingress.submitCancel runtime.limits.epoch requestGeneration
    (runtime.setIngress submitted.1, submitted.2)

/-! ## Admission participants -/

/--
The party that reserves resources for an admission, with its own state.  The
source passes an object with these three virtual functions.
-/
structure AdmissionParticipant (State : Type) where
  reserve : State → ControllerAdmissionView → State × Result Unit
  publish : State → ℕ → State × Result Unit
  rollback : State → ℕ → State × Result Unit

/-- The answers that a participant gives during one step. -/
structure AdmissionAnswers where
  reserve : Result Unit
  publish : Result Unit
  rollback : Result Unit
deriving DecidableEq

/-- The participant that gives fixed answers and keeps no state. -/
def AdmissionAnswers.participant (answers : AdmissionAnswers) : AdmissionParticipant Unit where
  reserve := fun _ _ => ((), answers.reserve)
  publish := fun _ _ => ((), answers.publish)
  rollback := fun _ _ => ((), answers.rollback)

section Participant

variable {State : Type}

section

variable (participant : Option (AdmissionParticipant State))

/-- Ask the participant, if there is one; without one the call succeeds. -/
def askReserve (world : State) (admission : ControllerAdmissionView) : State × Result Unit :=
  match participant with
  | none => (world, .ok ())
  | some party => party.reserve world admission

def askPublish (world : State) (requestGeneration : ℕ) : State × Result Unit :=
  match participant with
  | none => (world, .ok ())
  | some party => party.publish world requestGeneration

def askRollback (world : State) (requestGeneration : ℕ) : State × Result Unit :=
  match participant with
  | none => (world, .ok ())
  | some party => party.rollback world requestGeneration

end

end Participant

/-! ## One controller step -/

variable (runtime : ControllerRuntime)

def admittedStateDigest (admission : ControllerAdmissionView) : Result Sha256Digest :=
  Sha256.ofPieces [asciiBytes "pih-controller-admitted-state-v1", u64Bytes runtime.limits.epoch,
      u64Bytes admission.request.requestGeneration,
      u64Bytes admission.request.slotGeneration,
      admission.request.payloadDigest.bytes]

/-- An event that belongs to no plan. -/
def plainDraft (kind : ControllerOutputEventKind) (requestGeneration : ℕ)
    (digest : Sha256Digest) : ControllerOutputEventDraft where
  kind := kind
  epoch := runtime.limits.epoch
  requestGeneration := requestGeneration
  tokenOrdinal := 0
  tokenId := 0
  stateDigest := digest

/-- The cancel branch of `step_impl`. -/
def stepCancel (thread : ThreadId) (command : ControllerCommand) :
    ControllerRuntime × Result ControllerRuntimeStep :=
  let drifted := Status.internal "controller cancel command digest drifted"
  match controllerCancelPayloadDigest runtime.limits.epoch command.requestGeneration with
  | .error _ => runtime.failWith drifted
  | .ok digest =>
    if digest ≠ command.payloadDigest then runtime.failWith drifted
    else
      match runtime.slots.findIdx? (slotHolds command.requestGeneration) with
      | none => (runtime, .error (.failedPrecondition "controller cancel target is not active"))
      | some index =>
        let slot := runtime.slotAt index
        match slot.sequence.map ControllerSequence.requestCancel with
        | none => (runtime, .error (.failedPrecondition "controller cancel target is not active"))
        | some (.error status) => (runtime, .error status)
        | some (.ok cancelled) =>
          let requested := runtime.setSlot index { slot with sequence := some cancelled }
          if cancelled.hasActivePlan then (requested, .ok .cancelRequested)
          else
            match cancelled.beginDraining with
            | .error status => (requested, .error status)
            | .ok draining =>
              let drained :=
                runtime.setSlot index
                  { slot with sequence := some draining }
              match drained.publish thread (runtime.plainDraft .draining
                    draining.sequenceGeneration digest) with
              | (published, .error status) => published.failWith status
              | (published, .ok _) => (published, .ok .cancelRequested)

/-- The answer to a reservation that failed. -/
def stepReject (thread : ThreadId) (admission : ControllerAdmissionView)
    (reserved : Status) : ControllerRuntime × Result ControllerRuntimeStep :=
  match runtime.releaseRequest admission.request with
  | (released, .error _) =>
    released.failWith (.internal "controller admission reserve cleanup failed")
  | (released, .ok ()) =>
    if reserved.code ≠ .resourceExhausted then released.failWith reserved
    else
      match released.publish thread (runtime.plainDraft .failed admission.request.requestGeneration
            admission.command.payloadDigest) with
      | (published, .error status) => published.failWith status
      | (published, .ok _) => (published, .ok .admissionRejected)

/-- Undo the installation of a sequence and fail. -/
def stepUninstall (index : ℕ) (cleanup status : Status) :
    ControllerRuntime × Result ControllerRuntimeStep :=
  let slot := runtime.slotAt index
  match runtime.releaseRequest slot.request with
  | (released, answer) =>
    let emptied := released.setSlot index { slot with sequence := none }
    match answer with
    | .error _ => emptied.failWith cleanup
    | .ok () => emptied.failWith status

/-- The sequence is in its slot; tell the participant and the consumer. -/
def stepInstalled {State : Type} (thread : ThreadId)
    (participant : Option (AdmissionParticipant State)) (world : State)
    (index : ℕ) (admission : ControllerAdmissionView) (stateDigest : Sha256Digest) :
    ControllerRuntime × State × Result ControllerRuntimeStep :=
  match askPublish participant world admission.request.requestGeneration with
  | (told, .error status) =>
    let undone :=
      runtime.stepUninstall index (.internal "controller admission publish cleanup failed") status
    (undone.1, told, undone.2)
  | (told, .ok ()) =>
    match runtime.publish thread (runtime.plainDraft .admitted
          admission.request.requestGeneration stateDigest) with
    | (published, .error status) =>
      let undone :=
        published.stepUninstall index (.internal "controller admitted-event rollback failed") status
      (undone.1, told, undone.2)
    | (published, .ok _) =>
      ({ published with activeSequenceCount := published.activeSequenceCount + 1 },
        told, .ok .admitted)

/-- The cleanup of an admission whose sequence cannot be created. -/
def stepAbandon {State : Type} (participant : Option (AdmissionParticipant State)) (world : State)
    (admission : ControllerAdmissionView) (status : Status) :
    ControllerRuntime × State × Result ControllerRuntimeStep :=
  let rolledBack := askRollback participant world admission.request.requestGeneration
  let released := runtime.releaseRequest admission.request
  if ¬ Result.isOk rolledBack.2 ∨ ¬ Result.isOk released.2 then
    ({ released.1 with state := .failed }, rolledBack.1,
      .error (.internal "controller admission cleanup failed"))
  else ({ released.1 with state := .failed }, rolledBack.1, .error status)

/-- Put a new sequence into its slot. -/
def installSequence (index : ℕ) (nowNs : ℤ) (request : ControllerRequestView)
    (sequence : ControllerSequence) : ControllerRuntime :=
  { runtime.setSlot index
      { runtime.slotAt index with
        request
        sequence := some sequence
        readyEnqueueSequence := runtime.nextReadyEnqueueSequence
        prefillEligibleSinceNs := nowNs } with
    nextReadyEnqueueSequence := nextU64 runtime.nextReadyEnqueueSequence }

/-- The admission branch of `step_impl`. -/
def stepAdmission {State : Type} (thread : ThreadId) (nowNs : ℤ)
    (participant : Option (AdmissionParticipant State)) (world : State)
    (admission : ControllerAdmissionView) :
    ControllerRuntime × State × Result ControllerRuntimeStep :=
  match runtime.slots.findIdx? slotEmpty with
  | none =>
    ({ runtime with state := .failed }, world, .error (.internal
      "controller persistent sequence ledger overflowed"))
  | some index =>
    match askReserve participant world admission with
    | (asked, .error reserved) =>
      let rejected := runtime.stepReject thread admission reserved
      (rejected.1, asked, rejected.2)
    | (asked, .ok ()) =>
      match ControllerSequence.admitSequence admission.request.requestGeneration
          admission.request.promptTokenIds.size 1 with
      | .error status => runtime.stepAbandon participant asked admission status
      | .ok sequence =>
        match runtime.admittedStateDigest admission with
        | .error status => runtime.stepAbandon participant asked admission status
        | .ok stateDigest =>
          (runtime.installSequence index nowNs admission.request
            sequence).stepInstalled thread participant asked index admission stateDigest

/-- The dispatch on a command that was taken from the ingress. -/
def stepCommand {State : Type} (thread : ThreadId) (nowNs : ℤ)
    (participant : Option (AdmissionParticipant State)) (world : State)
    (item : ControllerIngressCommandView) :
    ControllerRuntime × State × Result ControllerRuntimeStep :=
  if item.command.kind = .cancel then
    let cancelled := runtime.stepCancel thread item.command
    (cancelled.1, world, cancelled.2)
  else
    match item.command.kind, item.request with
    | .admission, some request =>
      runtime.stepAdmission thread nowNs participant world ⟨item.command, request⟩
    | _, _ =>
      ({ runtime with state := .failed }, world, .error (.internal
        "unsupported controller command reached runtime"))

/-- Take one command and act on it. -/
def stepImpl {State : Type} (thread : ThreadId) (nowNs : ℤ)
    (participant : Option (AdmissionParticipant State)) (world : State) :
    ControllerRuntime × State × Result ControllerRuntimeStep :=
  if runtime.state ≠ .ready then
    (runtime, world, .error (.failedPrecondition "controller runtime is not ready"))
  else if nowNs < runtime.lastControllerNowNs ∨ runtime.nextReadyEnqueueSequence = 0 then
    (runtime, world, .error (.invalidArgument "controller time or enqueue sequence is invalid"))
  else
    let timed := { runtime with lastControllerNowNs := nowNs }
    if timed.ingress.queuedCommandCount = 0 then (timed, world, .ok .idle)
    else if timed.ingress.availableEventCredit = 0 then (timed, world, .ok .outputBackpressured)
    else
      match timed.ingress.tryTakeCommand thread with
      | (ingress, .error status) =>
        ({ timed.setIngress ingress with state := .failed }, world, .error status)
      | (ingress, .ok none) => (timed.setIngress ingress, world, .ok .idle)
      | (ingress, .ok (some item)) =>
        (timed.setIngress ingress).stepCommand thread nowNs participant world item

/-- `step`, with the answers of the participant or without one. -/
def step (thread : ThreadId) (nowNs : ℤ) (answers : Option AdmissionAnswers) :
    ControllerRuntime × Result ControllerRuntimeStep :=
  let stepped := runtime.stepImpl thread nowNs (answers.map AdmissionAnswers.participant) ()
  (stepped.1, stepped.2.2)

end ControllerRuntime

end Pih
