import Pih.Library.Runs
import Pih.Scheduler.ControllerPlans

/-!
# The controller runtime: completion, acknowledgement and draining

A completion is validated for every member of the plan before anything
changes; then the output credit is transferred and the members are completed
one after the other, each publishing its tokens and, if it ends, its drain.
The consumer acknowledges the plan's events, and a drained sequence is
finalized when its resources are back.
-/

namespace Pih

/-- What the backend reports of a member. -/
structure ControllerBackendSequenceResult where
  completion : ControllerPlanCompletion
  acceptedTokenIds : List ℕ
deriving DecidableEq

namespace ControllerRuntime

def completionStateDigest (current : CurrentPlan)
    (completion : ControllerPlanCompletion) : Result Sha256Digest :=
  Sha256.ofPieces ([asciiBytes "pih-controller-completion-state-v1", current.digest.bytes] ++
      [completion.planSequence, completion.sequenceGeneration,
        completion.committedModelProcessedLength,
        completion.acceptedCompletionCount, completion.stateGeneration,
        completion.nextDecodePhase.code,
        if completion.terminal then 1 else 0].map u64Bytes)

/-! ## Validating the results of a plan -/

/-- The event and requeue totals, and the digest of each member. -/
structure CompletionTotals where
  requiredEvents : ℕ := 0
  requiredRequeues : ℕ := 0
  digests : List Sha256Digest := []
deriving DecidableEq

/-- The sequence will drain: it ends here or was cancelled before. -/
def willDrain (sequence : ControllerSequence) (completion : ControllerPlanCompletion) : Bool :=
  completion.terminal ∨ sequence.state = .cancelRequested

/-- The checks on the result of one member. -/
def validateResult (slot : RuntimeSlot) (sequence : ControllerSequence)
    (result : ControllerBackendSequenceResult) : Result Unit :=
  match sequence.validateCompletion result.completion with
  | .error status => .error status
  | .ok () =>
    let accepted := result.completion.acceptedCompletionCount
    if accepted - sequence.acceptedCompletionCount ≠ result.acceptedTokenIds.length then
      .error (.invalidArgument "controller accepted-token result drifted")
    else if result.acceptedTokenIds.any (fun token => token ≥ kVocabularySize) then
      .error (.invalidArgument "controller backend token is invalid")
    else if accepted > slot.request.maximumNewTokens ∨ (accepted = slot.request.maximumNewTokens ∧
          ¬ result.completion.terminal) then
      .error (.invalidArgument "controller generation limit requires terminal completion")
    else if ¬ willDrain sequence result.completion ∧
        result.completion.committedModelProcessedLength ≥ sequence.promptTokenCount ∧
        result.acceptedTokenIds.length = 0 then
      .error (.invalidArgument "controller decode boundary requires a pending token")
    else .ok ()

/-- Add the events and requeues of one member to the totals. -/
def addResult (totals : CompletionTotals) (drains : Bool) (tokens : ℕ) : Result CompletionTotals :=
  let overflowed := Status.resourceExhausted "controller output event count overflowed"
  if tokens > u64Max - totals.requiredEvents then .error overflowed
  else if drains ∧ totals.requiredEvents + tokens = u64Max then .error overflowed
  else
    .ok
      { totals with
        requiredEvents := totals.requiredEvents + tokens + (if drains then 1 else 0)
        requiredRequeues := totals.requiredRequeues + (if drains then 0 else 1) }

/-- The validation loop over the members and their results. -/
def validateResults (current : CurrentPlan) (slots : List RuntimeSlot) :
    CompletionTotals → List ℕ → List ControllerBackendSequenceResult → Result CompletionTotals
  | totals, index :: indices, result :: results =>
    let slot := slots.getD index {}
    match slot.sequence with
    | none => .error (.internal "slot has no sequence")
    | some sequence =>
      match validateResult slot sequence result with
      | .error status => .error status
      | .ok () =>
        match addResult totals (willDrain sequence result.completion)
            result.acceptedTokenIds.length with
        | .error status => .error status
        | .ok next =>
          match completionStateDigest current result.completion with
          | .error status => .error status
          | .ok digest =>
            validateResults current slots
              { next with digests := next.digests ++ [digest] }
              indices results
  | totals, _, _ => .ok totals

/-! ## Completing the members -/

/-- What the members of one completion have in common. -/
structure CompletionContext where
  thread : ThreadId
  epoch : ℕ
  planSequence : ℕ
  requiredEvents : ℕ
  nowNs : ℤ
deriving DecidableEq

variable (context : CompletionContext)

/-- An event of the plan's bundle. -/
def bundleDraft (kind : ControllerOutputEventKind)
    (requestGeneration tokenOrdinal tokenId : ℕ) (digest : Sha256Digest)
    (index : ℕ) (reason : ControllerFinishReason) :
    ControllerOutputEventDraft where
  kind := kind
  epoch := context.epoch
  requestGeneration := requestGeneration
  tokenOrdinal := tokenOrdinal
  tokenId := tokenId
  stateDigest := digest
  planSequence := context.planSequence
  planEventIndex := index
  planEventCount := context.requiredEvents
  finishReason := reason

/-- Publish the accepted tokens of one member. -/
def publishTokens (context : CompletionContext) (requestGeneration : ℕ) (digest : Sha256Digest) :
    ControllerRuntime → ℕ → ℕ → List ℕ → ControllerRuntime × Result Unit
  | runtime, _, _, [] => (runtime, .ok ())
  | runtime, ordinal, index, token :: rest =>
    match runtime.publish context.thread (bundleDraft context .tokenCommitted requestGeneration
          (ordinal + 1) token digest index .none) with
    | (published, .error _) =>
      published.failWith (.internal "reserved controller token event publish failed")
    | (published, .ok _) =>
      publishTokens context requestGeneration digest published (ordinal + 1) (index + 1) rest

def finishReason (slot : RuntimeSlot) (completion : ControllerPlanCompletion) :
    ControllerFinishReason :=
  if completion.terminal then
    if completion.acceptedCompletionCount = slot.request.maximumNewTokens then .length
    else .stop
  else .none

/--
Complete one member; `index` counts the plan's events published before it.
-/
def completeMember (runtime : ControllerRuntime)
    (index slotIndex : ℕ) (result : ControllerBackendSequenceResult)
    (digest : Sha256Digest) : ControllerRuntime × ℕ × Result Unit :=
  let slot := runtime.slotAt slotIndex
  match slot.sequence with
  | none =>
    ({ runtime with state := .failed }, index, .error (.internal
      "validated controller completion failed to apply"))
  | some sequence =>
    match sequence.complete result.completion with
    | .error _ =>
      ({ runtime with state := .failed }, index, .error (.internal
        "validated controller completion failed to apply"))
    | .ok completed =>
      let applied := runtime.setSlot slotIndex { slot with sequence := some completed }
      match publishTokens context completed.sequenceGeneration digest
          applied sequence.acceptedCompletionCount index
          result.acceptedTokenIds with
      | (failed, .error status) => (failed, index, .error status)
      | (told, .ok ()) =>
        let count := index + result.acceptedTokenIds.length
        if completed.state = .draining then
          let drained :=
            told.setSlot slotIndex
              { slot with sequence := some completed, pendingToken := none }
          match drained.publish context.thread
              (bundleDraft context .draining completed.sequenceGeneration 0
                0 digest count (finishReason slot result.completion)) with
          | (published, .error _) =>
            ({ published with state := .failed }, count, .error (.internal
              "reserved controller drain event publish failed"))
          | (published, .ok _) =>
            (published.setSlot slotIndex
              { slot with
                sequence := some completed
                pendingToken := none
                lastServicePlanSequence := context.planSequence },
              count + 1, .ok ())
        else
          ({ told.setSlot slotIndex
              { slot with
                sequence := some completed
                pendingToken :=
                  if completed.state = .readyDecode then result.acceptedTokenIds.getLast?
                  else slot.pendingToken
                readyEnqueueSequence := told.nextReadyEnqueueSequence
                prefillEligibleSinceNs := context.nowNs
                lastServicePlanSequence := context.planSequence } with
            nextReadyEnqueueSequence := nextU64 told.nextReadyEnqueueSequence },
            count, .ok ())

/-- Complete the members in order, up to the first failure. -/
def completeMembers (context : CompletionContext) : ControllerRuntime → ℕ → List ℕ →
      List ControllerBackendSequenceResult → List Sha256Digest →
      ControllerRuntime × Result Unit
  | runtime, index, slotIndex :: slotIndices, result :: results, digest :: digests =>
    match completeMember context runtime index slotIndex result digest with
    | (failed, _, .error status) => (failed, .error status)
    | (next, count, .ok ()) => completeMembers context next count slotIndices results digests
  | runtime, _, _, _, _ => (runtime, .ok ())

variable (runtime : ControllerRuntime)

/-- The round counters after a plan of a phase and tier. -/
def recordRound (phase : PackedTokenPhase) (tier : SchedulerTier) : ControllerRuntime :=
  if phase = .prefill then
    { runtime with
      consecutiveDecodeRounds := 0
      lastSuccessfulPlanWasProtectedPrefill := decide (tier = .protectedPrefill) }
  else
    { runtime with
      consecutiveDecodeRounds := runtime.consecutiveDecodeRounds + 1
      lastSuccessfulPlanWasProtectedPrefill := false }

/--
Dispose of the transferred burst: a plan without events has nothing to
acknowledge and gives its credit back at once.
-/
def settleBurst (burst : OutputBurstLease) (requiredEvents : ℕ) : ControllerRuntime × Result Unit :=
  if requiredEvents = 0 then
    match runtime.outputCredits.release burst with
    | (credits, .error status) => { runtime with outputCredits := credits }.failWith status
    | (credits, .ok ()) => ({ runtime with outputCredits := credits, current := none }, .ok ())
  else
    match runtime.pendingOutputBursts.findIdx? Option.isNone with
    | none => runtime.failWith (.internal "controller transferred output credit has no owner slot")
    | some index =>
      ({ runtime with
          pendingOutputBursts := runtime.pendingOutputBursts.set index (some burst)
          current := none }, .ok ())

variable (thread : ThreadId)

/-- The part of a completion that follows the transfer of the burst. -/
def applyCompletion (current : CurrentPlan) (totals : CompletionTotals)
    (results : List ControllerBackendSequenceResult) (nowNs : ℤ) :
    ControllerRuntime × Result Unit :=
  if current.plan.phase ≠ .prefill ∧ runtime.consecutiveDecodeRounds = u32Max then
    runtime.failWith (.internal "controller decode round counter wrapped")
  else
    let context : CompletionContext :=
      { thread
        epoch := runtime.limits.epoch
        planSequence := current.plan.planSequence
        requiredEvents := totals.requiredEvents
        nowNs }
    match completeMembers context runtime 0 current.selectedSlotIndices results totals.digests with
    | (failed, .error status) => (failed, .error status)
    | (completed, .ok ()) =>
      (completed.recordRound current.plan.phase current.tier).settleBurst
        current.outputBurst totals.requiredEvents

/-- Validate all results, then complete every member. -/
def completeCurrentPlan (results : List ControllerBackendSequenceResult) (nowNs : ℤ) :
    ControllerRuntime × Result Unit :=
  let invalid := Status.failedPrecondition "controller completion batch is invalid"
  match runtime.current with
  | none => (runtime, .error invalid)
  | some current =>
    if results.length ≠ current.selectedSlotIndices.length ∨ nowNs < runtime.lastControllerNowNs ∨
        runtime.nextReadyEnqueueSequence = 0 then
      (runtime, .error invalid)
    else
      match validateResults current runtime.slots {} current.selectedSlotIndices results with
      | .error status => (runtime, .error status)
      | .ok totals =>
        if totals.requiredEvents > runtime.ingress.availableEventCredit then
          (runtime, .error (.resourceExhausted "controller output event credit is unavailable"))
        else if totals.requiredRequeues ≠ 0 ∧ runtime.nextReadyEnqueueSequence >
              u64Max - totals.requiredRequeues + 1 then
          (runtime, .error (.failedPrecondition "controller ready enqueue sequence wrapped"))
        else
          match runtime.outputCredits.transfer current.outputBurst with
          | (credits, .error status) => ({ runtime with outputCredits := credits }, .error status)
          | (credits, .ok ()) =>
            { runtime with
              outputCredits := credits
              lastControllerNowNs := nowNs }.applyCompletion thread current totals results nowNs

/-! ## Completion from sampled tokens -/

/-- The sampled token ends the generation. -/
def sampledStop (slot : RuntimeSlot) (accepted token : ℕ) : Bool :=
  accepted ≥ slot.request.sampling.minimumNewTokens ∧
    ((runtime.limits.eosTokenId ≠ u32Max ∧ token = runtime.limits.eosTokenId) ∨
      token ∈ slot.request.sampling.stopTokens)

/-- The result of a member that presented `count` tokens of a plan. -/
def sampledResult (current : CurrentPlan) (slot : RuntimeSlot)
    (sequence : ControllerSequence) (committed : ℕ) (sample : Option ℕ) :
    ControllerBackendSequenceResult :=
  let accepted := sequence.acceptedCompletionCount + (if sample.isSome then 1 else 0)
  { completion :=
      { planSequence := current.plan.planSequence
        sequenceGeneration := sequence.sequenceGeneration
        committedModelProcessedLength := committed
        acceptedCompletionCount := accepted
        stateGeneration := sequence.stateGeneration + 1
        nextDecodePhase := .decode
        terminal := accepted = slot.request.maximumNewTokens ∨
            sample.any (fun token => runtime.sampledStop slot accepted token) }
    acceptedTokenIds := sample.toList }

/-- The loop that hands the sampled tokens to the members that produce one. -/
def sampledResults (runtime : ControllerRuntime) (current : CurrentPlan) :
    List ℕ → List ℕ → List ℕ → Result (List ControllerBackendSequenceResult × List ℕ)
  | slotIndex :: slotIndices, count :: counts, samples =>
    let slot := runtime.slotAt slotIndex
    let exhausted := Status.resourceExhausted "controller sampled completion identity exhausted"
    match slot.sequence with
    | none => .error (.internal "slot has no sequence")
    | some sequence =>
      match checkedAddU64 sequence.modelProcessedLength count with
      | .error _ => .error exhausted
      | .ok committed =>
        if sequence.stateGeneration = u64Max then .error exhausted
        else if current.plan.phase ≠ .prefill ∨ committed = sequence.promptTokenCount then
          match samples with
          | [] => .error (.invalidArgument "controller sampled token count is short")
          | sample :: rest =>
            if sequence.acceptedCompletionCount = u64Max then
              .error (.resourceExhausted "controller accepted token identity exhausted")
            else
              match runtime.sampledResults current slotIndices counts rest with
              | .error status => .error status
              | .ok (results, unused) =>
                .ok (runtime.sampledResult current slot sequence
                    committed (some sample) :: results, unused)
        else
          match runtime.sampledResults current slotIndices counts samples with
          | .error status => .error status
          | .ok (results, unused) =>
            .ok (runtime.sampledResult current slot sequence committed none :: results, unused)
  | _, _, samples => .ok ([], samples)

/-- Complete the plan from one sample for each row. -/
def completeCurrentSampledTokens (sampledTokenIds : List ℕ) (nowNs : ℤ) :
    ControllerRuntime × Result Unit :=
  let missing := Status.failedPrecondition "controller has no canonical sampled completion plan"
  match runtime.current with
  | none => (runtime, .error missing)
  | some current =>
    if current.plan.sequenceCount ≠ current.selectedSlotIndices.length then
      (runtime, .error missing)
    else
      match runtime.sampledResults current current.selectedSlotIndices
          current.plan.realTokenCounts sampledTokenIds with
      | .error status => (runtime, .error status)
      | .ok (results, unused) =>
        if unused.length ≠ 0 then
          (runtime, .error (.invalidArgument "controller sampled token count is long"))
        else runtime.completeCurrentPlan thread results nowNs

/-! ## Acknowledgement, draining and events -/

/-- The pending burst of a plan. -/
def burstOf (planSequence : ℕ) (lease : Option OutputBurstLease) : Bool :=
  lease.any fun lease => lease.planSequence = planSequence

/-- The consumer is done with the events of a plan. -/
def acknowledgeOutputPlan (planSequence : ℕ) : ControllerRuntime × Result Unit :=
  let stale := Status.failedPrecondition "controller output ACK is stale or forged"
  if planSequence = 0 then (runtime, .error (.invalidArgument "controller output ACK plan is zero"))
  else
    match runtime.pendingOutputBursts.findIdx? (burstOf planSequence) with
    | none => (runtime, .error stale)
    | some index =>
      match runtime.pendingOutputBursts.getD index none with
      | none => (runtime, .error stale)
      | some lease =>
        match runtime.outputCredits.release lease with
        | (credits, .error _) =>
          { runtime with outputCredits := credits }.failWith
            (.internal "controller output ACK release failed")
        | (credits, .ok ()) =>
          ({ runtime with
              outputCredits := credits
              pendingOutputBursts := runtime.pendingOutputBursts.set index none }, .ok ())

/-- Finish a draining sequence, as cancelled if it was cancelled. -/
def finishSequence (sequence : ControllerSequence) :
    Result (ControllerSequence × ControllerOutputEventKind) :=
  match sequence.finishCancel with
  | .ok cancelled => .ok (cancelled, .cancelled)
  | .error _ =>
    match sequence.finishDrain with
    | .ok completed => .ok (completed, .completed)
    | .error status => .error status

/-- End a draining sequence and free its slot. -/
def finalizeDraining (requestGeneration : ℕ) : ControllerRuntime × Result Unit :=
  let inactive := Status.failedPrecondition "controller drain target is not active"
  if runtime.state ≠ .ready ∨ runtime.ingress.availableEventCredit = 0 then
    (runtime, .error (.resourceExhausted "controller terminal event credit is unavailable"))
  else
    match runtime.slots.findIdx? (slotHolds requestGeneration) with
    | none => (runtime, .error inactive)
    | some index =>
      let slot := runtime.slotAt index
      match slot.sequence.map finishSequence with
      | none => (runtime, .error inactive)
      | some (.error status) => (runtime, .error status)
      | some (.ok (finished, kind)) =>
        let ended := runtime.setSlot index { slot with sequence := some finished }
        match ended.releaseRequest slot.request with
        | (released, .error _) =>
          released.failWith (.internal "controller request release failed after drain")
        | (released, .ok ()) =>
          match released.publish thread (runtime.plainDraft kind requestGeneration
                slot.request.payloadDigest) with
          | (published, .error _) =>
            published.failWith (.internal "reserved controller terminal event publish failed")
          | (published, .ok _) =>
            ({ published.setSlot index
                { slot with sequence := none, pendingToken := none, request := {} } with
              activeSequenceCount := published.activeSequenceCount - 1 },
              .ok ())

def tryTakeEvent : ControllerRuntime × Result (Option ControllerOutputEvent) :=
  let taken := runtime.ingress.tryTakeEvent
  (runtime.setIngress taken.1, taken.2)

/-- Nothing is queued, active, planned or waiting for an acknowledgement. -/
def retirable : Bool := runtime.state = .ready ∧ runtime.activeSequenceCount = 0 ∧
    runtime.ingress.queuedCommandCount = 0 ∧
    runtime.ingress.queuedEventCount = 0 ∧ runtime.current = none ∧
    runtime.outputCredits.available = runtime.pendingOutputBursts.length ∧
    runtime.pendingOutputBursts.all Option.isNone

end ControllerRuntime

/-! ## Operations and runs -/

/-- A public operation of the runtime with its arguments. -/
inductive ControllerOperation where
  | submitAdmit (requestGeneration : ℕ) (promptTokenIds : List ℕ)
    (maximumNewTokens : ℕ) (sampling : ControllerRequestSampling)
  | submitCancel (requestGeneration : ℕ)
  | step (nowNs : ℤ) (answers : Option ControllerRuntime.AdmissionAnswers)
  | prepareNextPlan (nowNs : ℤ)
  | commitCurrentPlan (planSequence : ℕ) (planDigest : Sha256Digest)
  | markCurrentPlanInFlight (planSequence : ℕ) (planDigest : Sha256Digest)
  | abortCurrentPlan (planSequence : ℕ) (planDigest : Sha256Digest)
  | completeCurrentPlan (results : List ControllerBackendSequenceResult) (nowNs : ℤ)
  | completeCurrentSampledTokens (sampledTokenIds : List ℕ) (nowNs : ℤ)
  | acknowledgeOutputPlan (planSequence : ℕ)
  | finalizeDraining (requestGeneration : ℕ)
  | tryTakeEvent
deriving DecidableEq

/-- An operation and the thread that calls it. -/
structure ControllerCall where
  thread : ThreadId
  operation : ControllerOperation
deriving DecidableEq

/-- The result of an operation. -/
inductive ControllerOutcome where
  | command (result : Result ControllerCommand)
  | step (result : Result ControllerRuntimeStep)
  | plan (result : Result (Option ControllerPreparedPlanView))
  | status (result : Result Unit)
  | event (result : Result (Option ControllerOutputEvent))
deriving DecidableEq

namespace ControllerRuntime

/-- Perform one call. -/
def execute (runtime : ControllerRuntime) (call : ControllerCall) :
    ControllerRuntime × ControllerOutcome :=
  match call.operation with
  | .submitAdmit generation prompt maximum sampling =>
    let answer := runtime.submitAdmit generation prompt maximum sampling
    (answer.1, .command answer.2)
  | .submitCancel generation =>
    let answer := runtime.submitCancel generation
    (answer.1, .command answer.2)
  | .step nowNs answers =>
    let answer := runtime.step call.thread nowNs answers
    (answer.1, .step answer.2)
  | .prepareNextPlan nowNs =>
    let answer := runtime.prepareNextPlan nowNs
    (answer.1, .plan answer.2)
  | .commitCurrentPlan planSequence digest =>
    let answer := runtime.commitCurrentPlan planSequence digest
    (answer.1, .status answer.2)
  | .markCurrentPlanInFlight planSequence digest =>
    let answer := runtime.markCurrentPlanInFlight planSequence digest
    (answer.1, .status answer.2)
  | .abortCurrentPlan planSequence digest =>
    let answer := runtime.abortCurrentPlan planSequence digest
    (answer.1, .status answer.2)
  | .completeCurrentPlan results nowNs =>
    let answer := runtime.completeCurrentPlan call.thread results nowNs
    (answer.1, .status answer.2)
  | .completeCurrentSampledTokens tokens nowNs =>
    let answer := runtime.completeCurrentSampledTokens call.thread tokens nowNs
    (answer.1, .status answer.2)
  | .acknowledgeOutputPlan planSequence =>
    let answer := runtime.acknowledgeOutputPlan planSequence
    (answer.1, .status answer.2)
  | .finalizeDraining generation =>
    let answer := runtime.finalizeDraining call.thread generation
    (answer.1, .status answer.2)
  | .tryTakeEvent =>
    let answer := runtime.tryTakeEvent
    (answer.1, .event answer.2)

end ControllerRuntime

/-- The calls made so far, with the states around them and their results. -/
abbrev ControllerHistory := List (Entry ControllerRuntime ControllerCall ControllerOutcome)

/-- Runs of a fresh runtime in which every call meets a guard. -/
def ControllerRun (limits : ControllerRuntimeLimits)
    (allowed : ControllerHistory → ControllerRuntime → ControllerCall → Prop)
    (history : ControllerHistory) (runtime : ControllerRuntime) : Prop :=
  ∃ fresh, ControllerRuntime.create limits = .ok fresh ∧
    Run ControllerRuntime.execute allowed fresh history runtime

end Pih
