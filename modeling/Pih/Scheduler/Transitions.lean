import Pih.Scheduler.IngressEffects
import Pih.Scheduler.PlanAssembly
import Pih.Scheduler.PlanCompletion

/-!
# The transitions of the controller runtime

`Transition` lists everything that one call can do to a runtime, with the
exact next state.  It is the only place where the branches of the operations
are analysed; the invariants of the runtime are proved from its cases.
-/

namespace Pih

open ControllerRequestArena

open ControllerMailbox (Emits Owner Published Queued SameQueues Took)

/-- The outcome reports no progress. -/
def ControllerOutcome.inert : ControllerOutcome → Bool
  | .command result => ¬ Result.isOk result
  | .step (.ok .idle) => true
  | .step (.ok .outputBackpressured) => true
  | .step result => ¬ Result.isOk result
  | .plan (.ok (some _)) => false
  | .plan _ => true
  | .status result => ¬ Result.isOk result
  | .event (.ok (some _)) => false
  | .event _ => true

namespace ControllerRuntime

/-- The results with which a call completes the current plan. -/
inductive CompletesWith (runtime : ControllerRuntime) (current : CurrentPlan) :
    ControllerOperation → List ControllerBackendSequenceResult → ℤ → Prop where
  | results (results : List ControllerBackendSequenceResult) (nowNs : ℤ) :
      CompletesWith runtime current (.completeCurrentPlan results nowNs) results nowNs
  | sampled (tokens : List ℕ) (nowNs : ℤ) (counted :
        current.plan.sequenceCount = current.selectedSlotIndices.length)
      (sampled : runtime.sampledResults current current.selectedSlotIndices
          current.plan.realTokenCounts tokens = .ok (results, [])) :
      CompletesWith runtime current (.completeCurrentSampledTokens tokens nowNs) results nowNs

/-- The runtime after a step that took a command. -/
def afterTake (runtime : ControllerRuntime) (nowNs : ℤ)
    (mailbox : ControllerMailbox) (requests : ControllerRequestArena) :
    ControllerRuntime :=
  { runtime with lastControllerNowNs := nowNs, ingress := ⟨mailbox, requests⟩ }

/-- At most a slot without a sequence was written, again without one. -/
inductive VacantWrite (slots : List RuntimeSlot) : List RuntimeSlot → Prop where
  | same : VacantWrite slots slots
  | wrote (found : slots[index]? = some slot)
    (vacant : slot.sequence = none)
    (still : written.sequence = none) :
    VacantWrite slots (slots.set index written)

/-- The slot of a newly admitted sequence. -/
def admittedSlot (runtime : ControllerRuntime) (slot : RuntimeSlot)
    (nowNs : ℤ) (request : ControllerRequestView) (sequence : ControllerSequence) : RuntimeSlot :=
  { slot with
    request
    sequence := some sequence
    readyEnqueueSequence := runtime.nextReadyEnqueueSequence
    prefillEligibleSinceNs := nowNs }

/-- The members refuse an operation on the current plan. -/
def MembersRefuse (operation : ControllerSequence → Result ControllerSequence)
    (slots : List RuntimeSlot) (indices : List ℕ) : Prop :=
  ¬ ∀ index ∈ indices, ∃ slot sequence changed,
    Holding slots index slot sequence ∧ operation sequence = .ok changed

/-- The request of a finished sequence, released or not. -/
inductive Release (requests : ControllerRequestArena) (request : ControllerRequestView) :
    ControllerRequestArena → Prop where
  | released (found : requests.slots[request.slotIndex]? = some slot)
      (claimed : slot.state = .claimed)
      (generation : slot.generation = request.slotGeneration) :
      Release requests request (requests.clearSlot request.slotIndex)
  | kept (stale : ∀ slot, requests.slots[request.slotIndex]? = some slot →
        ¬ (slot.state = .claimed ∧ slot.generation = request.slotGeneration)) :
      Release requests request requests

/-- A step of a ready runtime took a command. -/
structure Steps (runtime : ControllerRuntime) (call : ControllerCall) (nowNs : ℤ)
    (command : ControllerCommand) (mailbox : ControllerMailbox) :
    Prop where
  operation : ∃ answers, call.operation = .step nowNs answers
  ready : runtime.state = .ready
  credit : runtime.ingress.availableEventCredit ≠ 0
  took : Took call.thread runtime.ingress.mailbox command mailbox

/-- The sequence that a cancel command reaches. -/
structure CancelTarget (runtime : ControllerRuntime) (command : ControllerCommand)
    (index : ℕ) (slot : RuntimeSlot)
    (sequence cancelled : ControllerSequence) : Prop where
  kind : command.kind = .cancel
  digest : controllerCancelPayloadDigest runtime.limits.epoch
      command.requestGeneration = .ok command.payloadDigest
  holding : Holding runtime.slots index slot sequence
  generation : sequence.sequenceGeneration = command.requestGeneration
  requested : sequence.requestCancel = .ok cancelled

/-- The draining sequence that a finalization ends. -/
structure DrainTarget (runtime : ControllerRuntime) (generation index : ℕ)
    (slot : RuntimeSlot) (sequence finished : ControllerSequence)
    (kind : ControllerOutputEventKind) : Prop where
  ready : runtime.state = .ready
  credit : runtime.ingress.availableEventCredit ≠ 0
  holding : Holding runtime.slots index slot sequence
  generation : sequence.sequenceGeneration = generation
  finish : finishSequence sequence = .ok (finished, kind)

section

variable (runtime : ControllerRuntime) (call : ControllerCall)

/--
The calls through which a request enters or leaves, or an event is published,
and the failures of such calls.
-/
inductive RequestTransition : ControllerRuntime → ControllerOutcome → Prop where
  | submitted {maximum : ℕ}
    (operation : call.operation = .submitAdmit generation prompt maximum sampling)
    (ready : runtime.state = .ready)
    (published : PublishedRequest runtime.ingress.requests
        requests generation prompt maximum sampling receipt)
    (queued : runtime.ingress.mailbox.Queued mailbox command)
    (value : command = ⟨.admission, runtime.ingress.mailbox.nextCommandSequence,
        runtime.limits.epoch, generation, receipt.payloadDigest⟩) :
    RequestTransition
      { runtime with ingress := ⟨mailbox, requests⟩ }
      (.command (.ok command))
  | withdrawn {maximum : ℕ}
    (published : PublishedRequest runtime.ingress.requests
        requests generation prompt maximum sampling receipt) :
    RequestTransition
      { runtime with
        ingress := { runtime.ingress with requests := requests.clearSlot receipt.slotIndex } }
      (.command (.error status))
  | unmatched
    (steps : runtime.Steps call now command mailbox)
    (kind : command.kind = .admission)
    (missing : (∀ slot ∈ runtime.ingress.requests.slots, ¬ publishedWith command.requestGeneration
          slot = true) ∨
      ∃ slot ∈ runtime.ingress.requests.slots, publishedWith command.requestGeneration
            slot = true ∧
          slot.payloadDigest ≠ command.payloadDigest) :
    RequestTransition
      { runtime.afterTake now mailbox runtime.ingress.requests with state := .failed }
      (.step (.error status))
  | cancelDrained {sequence : ControllerSequence}
    (steps : runtime.Steps call now command taken)
    (target : runtime.CancelTarget command index slot sequence cancelled)
    (drained : cancelled.beginDraining = .ok draining)
    (idle : cancelled.activePlanSequence = 0)
    (published : Published taken mailbox call.thread
        (runtime.plainDraft .draining draining.sequenceGeneration command.payloadDigest)) :
    RequestTransition
      { runtime.afterTake now mailbox runtime.ingress.requests with
        slots := runtime.slots.set index { slot with sequence := some draining } }
      (.step (.ok .cancelRequested))
  | cancelStuck {sequence : ControllerSequence}
    (steps : runtime.Steps call now command taken)
    (target : runtime.CancelTarget command index slot sequence cancelled)
    (drained : cancelled.beginDraining = .ok draining)
    (idle : cancelled.activePlanSequence = 0)
    (queues : SameQueues call.thread taken mailbox)
    (refused : ¬ (taken.Owner call.thread ∧
        (runtime.plainDraft .draining draining.sequenceGeneration
          command.payloadDigest).wellFormed = true ∧
        taken.events.size < taken.events.capacity ∧
        taken.nextEventSequence ≠ 0)) :
    RequestTransition
      { runtime.afterTake now mailbox runtime.ingress.requests with
        slots := runtime.slots.set index { slot with sequence := some draining }
        state := .failed }
      (.step (.error status))
  | overflowed
    (steps : runtime.Steps call now command mailbox)
    (kind : command.kind = .admission)
    (claimed : runtime.ingress.requests.Claimed command index request)
    (full : ∀ slot ∈ runtime.slots, slot.sequence ≠ none) :
    RequestTransition
      { runtime.afterTake now mailbox
          (runtime.ingress.requests.setState index request
            .claimed) with
        state := .failed }
      (.step (.error status))
  | abandoned {command : ControllerCommand}
    {index : ℕ} {request : RequestSlot} {slots : List RuntimeSlot}
    {enqueue : ℕ} {status : Status}
    (steps : runtime.Steps call now command taken)
    (kind : command.kind = .admission)
    (claimed : runtime.ingress.requests.Claimed command index request)
    (written : VacantWrite runtime.slots slots)
    (queues : SameQueues call.thread taken mailbox) :
    RequestTransition
      { runtime.afterTake now mailbox
          ((runtime.ingress.requests.setState index request
            .claimed).clearSlot index) with
        slots
        nextReadyEnqueueSequence := enqueue
        state := .failed }
      (.step (.error status))
  | rejected
    (steps : runtime.Steps call now command taken)
    (kind : command.kind = .admission)
    (claimed : runtime.ingress.requests.Claimed command index request)
    (published : Published taken mailbox call.thread
        (runtime.plainDraft .failed command.requestGeneration command.payloadDigest)) :
    RequestTransition (runtime.afterTake now mailbox
        ((runtime.ingress.requests.setState index request .claimed).clearSlot index))
      (.step (.ok .admissionRejected))
  | admitted {sequence : ControllerSequence}
    (steps : runtime.Steps call now command taken)
    (kind : command.kind = .admission)
    (claimed : runtime.ingress.requests.Claimed command requestIndex request)
    (found : runtime.slots[index]? = some slot)
    (vacant : slot.sequence = none)
    (created : ControllerSequence.admitSequence command.requestGeneration
        request.promptTokens 1 = .ok sequence)
    (published : Published taken mailbox call.thread
        (runtime.plainDraft .admitted command.requestGeneration digest)) :
    RequestTransition
      { runtime.afterTake now mailbox
          (runtime.ingress.requests.setState requestIndex request
            .claimed) with
        slots := runtime.slots.set index
            (runtime.admittedSlot slot now
              (runtime.ingress.requests.view requestIndex request)
              sequence)
        nextReadyEnqueueSequence := nextU64 runtime.nextReadyEnqueueSequence
        activeSequenceCount := runtime.activeSequenceCount + 1 }
      (.step (.ok .admitted))
  | completed
    {current : CurrentPlan}
    {results : List ControllerBackendSequenceResult} {now : ℤ}
    {members : List MemberCompletion} {mailbox : ControllerMailbox}
    {slots : List RuntimeSlot}
    {credits : OutputBurstCreditPool}
    {pending : List (Option OutputBurstLease)}
    (operation : runtime.CompletesWith current call.operation results now)
    (completion : CompletionOf runtime current results members)
    (completed : CompletedPlan runtime call.thread current members now mailbox slots
        credits pending) :
    RequestTransition
      { runtime.afterCompletion mailbox slots
          (readyAfter runtime.nextReadyEnqueueSequence members)
          (runtime.recordRound current.plan.phase current.tier) now with
        outputCredits := credits
        pendingOutputBursts := pending
        current := none }
      (.status (.ok ()))
  | completionBroken
    {current : CurrentPlan}
    {results : List ControllerBackendSequenceResult} {now : ℤ}
    {members : List MemberCompletion}
    {drafts : List ControllerOutputEventDraft}
    {mailbox : ControllerMailbox} {slots : List RuntimeSlot}
    {enqueue : ℕ} {status : Status}
    (operation : runtime.CompletesWith current call.operation results now)
    (completion : CompletionOf runtime current results members)
    (broken : BrokenPlan runtime call.thread current members now drafts mailbox slots) :
    RequestTransition
      { runtime.afterCompletion mailbox slots enqueue runtime now with
        outputCredits := runtime.outputCredits.assign current.outputBurst .transferred
        state := .failed }
      (.status (.error status))
  | finalized {sequence : ControllerSequence}
    (operation : call.operation = .finalizeDraining generation)
    (target : runtime.DrainTarget generation index slot sequence finished kind)
    (found : runtime.ingress.requests.slots[slot.request.slotIndex]? = some request)
    (claimed : request.state = .claimed)
    (same : request.generation = slot.request.slotGeneration)
    (published : Published runtime.ingress.mailbox mailbox call.thread
        (runtime.plainDraft kind generation slot.request.payloadDigest)) :
    RequestTransition
      { runtime with
        ingress := ⟨mailbox, runtime.ingress.requests.clearSlot slot.request.slotIndex⟩
        slots := runtime.slots.set index
            { slot with sequence := none, pendingToken := none, request := {} }
        activeSequenceCount := runtime.activeSequenceCount - 1 }
      (.status (.ok ()))
  | finalizeStuck {sequence : ControllerSequence}
    (operation : call.operation = .finalizeDraining generation)
    (target : runtime.DrainTarget generation index slot sequence finished kind)
    (release : Release runtime.ingress.requests slot.request requests)
    (queues : SameQueues call.thread runtime.ingress.mailbox mailbox) :
    RequestTransition
      { runtime with
        ingress := ⟨mailbox, requests⟩
        slots := runtime.slots.set index { slot with sequence := some finished }
        state := .failed }
      (.status (.error status))

end

section

variable (runtime : ControllerRuntime) (call : ControllerCall)

/-- Everything that one call can do to a runtime. -/
inductive Transition : ControllerRuntime → ControllerOutcome → Prop where
  | request {next : ControllerRuntime}
    (transition : RequestTransition runtime call next outcome) :
    Transition next outcome
  | quiet {scheduler : PhaseTierScheduler}
    {metadata : PackedTokenMetadataArena} {mailbox : ControllerMailbox}
    {outcome : ControllerOutcome}
    (queues : SameQueues call.thread runtime.ingress.mailbox mailbox)
    (sized : metadata.Sized)
    (inert : outcome.inert = true)
    (decided : scheduler = runtime.scheduler ∨
      ∃ time entries decision, call.operation = .prepareNextPlan time ∧
        runtime.Decides time entries scheduler decision) :
    Transition
      { runtime.withMailbox mailbox with lastControllerNowNs := now, scheduler, metadata } outcome
  | foreign (operation : call.operation = .step now answers)
    (foreign : ¬ runtime.ingress.mailbox.Owner call.thread) :
    Transition
      { runtime with lastControllerNowNs := now, state := .failed }
      (.step (.error status))
  | cancelSubmitted
    (operation : call.operation = .submitCancel generation)
    (digested : controllerCancelPayloadDigest runtime.limits.epoch generation = .ok digest)
    (queued : runtime.ingress.mailbox.Queued mailbox command)
    (value : command = ⟨.cancel, runtime.ingress.mailbox.nextCommandSequence,
        runtime.limits.epoch, generation, digest⟩) :
    Transition (runtime.withMailbox mailbox) (.command (.ok command))
  | ignored
    (steps : runtime.Steps call now command mailbox)
    (kind : command.kind ≠ .admission) :
    Transition (runtime.afterTake now mailbox runtime.ingress.requests) (.step (.error status))
  | corrupted
    (steps : runtime.Steps call now command mailbox)
    (kind : command.kind ≠ .admission)
    (unsound : command.kind = .cancel → controllerCancelPayloadDigest runtime.limits.epoch
          command.requestGeneration ≠ .ok command.payloadDigest) :
    Transition
      { runtime.afterTake now mailbox runtime.ingress.requests with state := .failed }
      (.step (.error status))
  | cancelRequested {sequence : ControllerSequence}
    (steps : runtime.Steps call now command mailbox)
    (target : runtime.CancelTarget command index slot sequence cancelled)
    (active : cancelled.activePlanSequence ≠ 0) :
    Transition
      { runtime.afterTake now mailbox runtime.ingress.requests with
        slots := runtime.slots.set index { slot with sequence := some cancelled } }
      (.step (.ok .cancelRequested))
  | prepared {scheduler : PhaseTierScheduler}
    {metadata : PackedTokenMetadataArena} {draft : PlanDraft}
    {burst : OutputBurstLease} {slots : List RuntimeSlot}
    {credits : OutputBurstCreditPool}
    (operation : call.operation = .prepareNextPlan now)
    (sized : metadata.Sized)
    (prepared : PreparedNext runtime draft burst slots credits)
    (decides : runtime.Decides now entries scheduler decision)
    (planned : PlanOf decision (draft.current burst)) :
    Transition
      { runtime with
        lastControllerNowNs := now
        scheduler
        metadata
        slots
        outputCredits := credits
        current := some (draft.current burst)
        nextPlanSequence := nextU64 runtime.nextPlanSequence }
      (.plan (.ok (some (draft.view slots))))
  | committed
    {current : CurrentPlan} {slots : List RuntimeSlot}
    (operation : call.operation = .commitCurrentPlan current.plan.planSequence current.digest)
    (isCurrent : runtime.current = some current)
    (holds : runtime.outputCredits.Holds current.outputBurst .prepared)
    (moves : MovesAll (fun _ before after => before.commit current.plan.planSequence = .ok after)
        runtime.slots slots current.selectedSlotIndices) :
    Transition
      { runtime with
        outputCredits := runtime.outputCredits.assign current.outputBurst .committed
        slots }
      (.status (.ok ()))
  | commitPartial
    {current : CurrentPlan} {slots : List RuntimeSlot} {status : Status}
    (operation : call.operation = .commitCurrentPlan current.plan.planSequence current.digest)
    (isCurrent : runtime.current = some current)
    (holds : runtime.outputCredits.Holds current.outputBurst .prepared)
    (moves : Moves (fun _ before after => before.commit current.plan.planSequence = .ok after)
        runtime.slots slots current.selectedSlotIndices)
    (refused : MembersRefuse (fun sequence => sequence.commit current.plan.planSequence)
        runtime.slots current.selectedSlotIndices) :
    Transition
      { runtime with
        outputCredits := runtime.outputCredits.assign current.outputBurst .committed
        slots
        state := .failed }
      (.status (.error status))
  | marked
    {current : CurrentPlan} {slots : List RuntimeSlot}
    (operation : call.operation = .markCurrentPlanInFlight current.plan.planSequence
          current.digest)
    (isCurrent : runtime.current = some current)
    (moves : MovesAll (fun _ before after =>
          before.markInFlight current.plan.planSequence = .ok after)
        runtime.slots slots current.selectedSlotIndices) :
    Transition { runtime with slots } (.status (.ok ()))
  | markPartial
    {current : CurrentPlan} {slots : List RuntimeSlot} {status : Status}
    (operation : call.operation = .markCurrentPlanInFlight current.plan.planSequence
          current.digest)
    (isCurrent : runtime.current = some current)
    (moves : Moves (fun _ before after =>
          before.markInFlight current.plan.planSequence = .ok after)
        runtime.slots slots current.selectedSlotIndices)
    (refused : MembersRefuse (fun sequence => sequence.markInFlight current.plan.planSequence)
        runtime.slots current.selectedSlotIndices) :
    Transition
      { runtime with slots, state := .failed }
      (.status (.error status))
  | aborted
    {current : CurrentPlan} {slots : List RuntimeSlot}
    (operation : call.operation = .abortCurrentPlan current.plan.planSequence current.digest)
    (isCurrent : runtime.current = some current)
    (holds : runtime.outputCredits.Holds current.outputBurst .prepared)
    (moves : MovesAll (fun _ before after =>
          before.abortPrepared current.plan.planSequence = .ok after)
        runtime.slots slots current.selectedSlotIndices) :
    Transition
      { runtime with
        slots
        outputCredits := runtime.outputCredits.assign current.outputBurst .free
        current := none }
      (.status (.ok ()))
  | abortPartial
    {current : CurrentPlan} {slots : List RuntimeSlot} {status : Status}
    (operation : call.operation = .abortCurrentPlan current.plan.planSequence current.digest)
    (isCurrent : runtime.current = some current)
    (moves : Moves (fun _ before after =>
          before.abortPrepared current.plan.planSequence = .ok after)
        runtime.slots slots current.selectedSlotIndices)
    (refused : MembersRefuse (fun sequence => sequence.abortPrepared current.plan.planSequence)
          runtime.slots current.selectedSlotIndices ∨
        ¬ runtime.outputCredits.Holds current.outputBurst .prepared) :
    Transition
      { runtime with slots, state := .failed }
      (.status (.error status))
  | acknowledged
    (operation : call.operation = .acknowledgeOutputPlan lease.planSequence)
    (found : runtime.pendingOutputBursts[index]? = some (some lease))
    (holds : runtime.outputCredits.Holds lease .transferred) :
    Transition
      { runtime with
        outputCredits := runtime.outputCredits.setCredit lease.creditIndex
            { generation := lease.creditGeneration }
        pendingOutputBursts := runtime.pendingOutputBursts.set index none }
      (.status (.ok ()))
  | tookEvent (operation : call.operation = .tryTakeEvent)
    (queue : runtime.ingress.mailbox.queuedEvents = event :: rest.toList)
    (capacity : rest.capacity = runtime.ingress.mailbox.events.capacity) :
    Transition (runtime.withMailbox
        { runtime.ingress.mailbox with events := rest })
      (.event (.ok (some event)))

end

end ControllerRuntime

end Pih
