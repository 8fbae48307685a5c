import Pih.Scheduler.Transitions

/-!
# Every call is a transition

Each operation of the runtime, called in a consistent state, does one of the
things that `Transition` lists.
-/

namespace Pih.ControllerRuntime

open ControllerSequence List OutputBurstCreditPool

open ControllerMailbox (Took)

/-- What the analysis of the operations needs to know of a state. -/
structure Consistent (runtime : ControllerRuntime) : Prop where
  sound : AllSound runtime.slots
  sized : runtime.metadata.Sized
  distinct : ∀ current, runtime.current = some current → current.selectedSlotIndices.Nodup
  vacant : ∀ current, runtime.current = some current → none ∈ runtime.pendingOutputBursts
  transferred : ∀ lease, some lease ∈ runtime.pendingOutputBursts →
    runtime.outputCredits.Holds lease .transferred

/-- A call that changes nothing. -/
theorem Transition.unchanged (sized : runtime.metadata.Sized)
    (inert : outcome.inert = true) : Transition runtime call runtime outcome :=
  .quiet (.refl _ _) sized inert (.inl rfl)

/-- What an operation made of the runtime, with its answer, is a transition. -/
abbrev Makes (runtime : ControllerRuntime) (call : ControllerCall)
    (answer : α → ControllerOutcome) (made : ControllerRuntime × α) : Prop :=
  Transition runtime call made.1 (answer made.2)

/-! ## Submission -/

theorem submitAdmit_transition {maximum : ℕ} (consistent : runtime.Consistent) (operation :
      call.operation = .submitAdmit generation prompt maximum sampling) :
    Makes runtime call .command (runtime.submitAdmit generation prompt maximum sampling) := by
  unfold submitAdmit
  split
  · exact .unchanged consistent.sized rfl
  rename_i ready
  rcases runtime.ingress.submitAdmit_cases runtime.limits.epoch generation
      prompt maximum sampling with
    ⟨status, refused⟩ | ⟨requests, receipt, status, published, undone⟩ |
    ⟨_, requests, receipt, _, published, queued, value, done⟩
  · rw [refused]
    exact .unchanged consistent.sized rfl
  · rw [undone]
    exact .request (.withdrawn published)
  rw [done]
  exact .request (.submitted operation (not_not.mp ready) published queued value)

theorem submitCancel_transition (consistent : runtime.Consistent)
    (operation : call.operation = .submitCancel generation) :
    Makes runtime call .command (runtime.submitCancel generation) := by
  unfold submitCancel
  split
  · exact .unchanged consistent.sized rfl
  rcases runtime.ingress.submitCancel_cases runtime.limits.epoch generation with ⟨_, refused⟩ |
    ⟨_, _, _, digested, queued, value, done⟩
  · rw [refused]
    exact .unchanged consistent.sized rfl
  rw [done]
  exact .cancelSubmitted operation digested queued value

/-! ## Steps -/

/-- The slot that a search by generation finds. -/
theorem holding_of_findIdx {slots : List RuntimeSlot}
    (found : slots.findIdx? (slotHolds generation) = some index) :
    ∃ slot sequence, Holding slots index slot sequence ∧ slots.getD index {} = slot ∧
      sequence.sequenceGeneration = generation := by
  rcases findIdx?_eq_some_iff_getElem.mp found with ⟨inside, holds, -⟩
  have value : slots[index]? = some slots[index] := getElem?_eq_getElem inside
  unfold slotHolds at holds
  rw [Option.any_eq_true] at holds
  rcases holds with ⟨sequence, held, same⟩
  refine ⟨slots[index], sequence, ⟨value, held⟩, ?_, of_decide_eq_true same⟩
  rw [getD_eq_getElem?_getD, value]
  rfl

theorem stepCancel_transition (steps : runtime.Steps call now command mailbox)
    (kind : command.kind = .cancel) :
    Makes runtime call .step ((runtime.afterTake now mailbox
      runtime.ingress.requests).stepCancel call.thread command) := by
  have admission : command.kind ≠ .admission := by
    rw [kind]
    exact nofun
  unfold stepCancel
  dsimp only
  split
  case h_1 status missing =>
    refine .corrupted steps admission fun _ digested => ?_
    have impossible := missing.symm.trans digested
    cases impossible
  rename_i digested
  split
  case isTrue drifted =>
    refine .corrupted steps admission fun _ expected => ?_
    exact drifted (Except.ok.inj (digested.symm.trans expected))
  rename_i same
  have digested : controllerCancelPayloadDigest runtime.limits.epoch
      command.requestGeneration = .ok command.payloadDigest := by
    rw [← not_not.mp same]
    exact digested
  have digest_eq := not_not.mp same
  split
  · exact .ignored steps admission
  rename_i index found
  rcases holding_of_findIdx found with ⟨slot, sequence, holding, value, generation⟩
  have slot_eq : (runtime.afterTake now mailbox
      runtime.ingress.requests).slotAt index = slot := value
  rw [slot_eq, holding.2, Option.map_some]
  cases requested : sequence.requestCancel with
  | error => exact .ignored steps admission
  | ok cancelled =>
    dsimp only
    have target : runtime.CancelTarget command index slot sequence cancelled :=
      ⟨kind, digested, holding, generation, requested⟩
    split
    case isTrue active => exact .cancelRequested steps target (of_decide_eq_true active)
    rename_i idle
    have idle : cancelled.activePlanSequence = 0 := by simpa [hasActivePlan] using idle
    have state : cancelled.state = .cancelRequested := by
      rcases requestCancel_ok requested with ⟨-, -, ⟨already, rfl⟩ | ⟨-, rfl⟩⟩
      · exact already
      · rfl
    rcases beginDraining_of_idle state idle with ⟨_, drained⟩
    rw [drained]
    dsimp only
    rcases publish_cases ((runtime.afterTake now mailbox runtime.ingress.requests).setSlot index _)
        call.thread
        _ with
      ⟨last, _, refused, queues, why⟩ |
      ⟨last, _, done, published⟩
    · rw [refused]
      rw [digest_eq] at why
      exact .request (.cancelStuck steps target drained idle queues why)
    rw [done]
    rw [digest_eq] at published
    exact .request (.cancelDrained steps target drained idle published)

section Admission

variable
  {runtime : ControllerRuntime} {call : ControllerCall} {now : ℤ}
  {command : ControllerCommand} {taken : ControllerMailbox}
  {requestIndex : ℕ} {request : RequestSlot}

/-- The runtime once the admission is claimed. -/
def afterClaim (runtime : ControllerRuntime) (now : ℤ)
    (taken : ControllerMailbox) (requestIndex : ℕ) (request : RequestSlot) :
    ControllerRuntime :=
  runtime.afterTake now taken (runtime.ingress.requests.setState requestIndex request .claimed)

theorem releaseRequest_afterClaim
    (claimed : runtime.ingress.requests.Claimed command requestIndex request)
    (other : ControllerRuntime) (requests : other.ingress.requests =
      runtime.ingress.requests.setState requestIndex request .claimed) :
    other.releaseRequest (runtime.ingress.requests.view requestIndex request) = ({ other with
        ingress :=
          { other.ingress with
            requests := (runtime.ingress.requests.setState requestIndex request
              .claimed).clearSlot requestIndex } }, .ok ()) := by
  unfold releaseRequest ControllerIngress.releaseRequest
  rw [requests, ControllerRequestArena.releaseClaimed_of_claim claimed]
  rfl

/-- The runtime once the new sequence is in its slot. -/
def afterInstall (runtime : ControllerRuntime) (now : ℤ)
    (taken : ControllerMailbox) (requestIndex : ℕ) (request : RequestSlot)
    (index : ℕ) (sequence : ControllerSequence) : ControllerRuntime :=
  (runtime.afterClaim now taken requestIndex request).installSequence index
    now (runtime.ingress.requests.view requestIndex request) sequence

theorem slots_afterInstall (now : ℤ) (taken : ControllerMailbox)
    (requestIndex : ℕ) (request : RequestSlot)
    (found : runtime.slots[index]? = some slot) (sequence : ControllerSequence) :
    (runtime.afterInstall now taken requestIndex request index sequence).slots =
      runtime.slots.set index (runtime.admittedSlot slot now
        (runtime.ingress.requests.view requestIndex request)
        sequence) := by
  have value : runtime.slots.getD index {} = slot := by
    rw [getD_eq_getElem?_getD, found]
    rfl
  change runtime.slots.set index
    { runtime.slots.getD index {} with
      request := runtime.ingress.requests.view requestIndex request
      sequence := some sequence
      readyEnqueueSequence := runtime.nextReadyEnqueueSequence
      prefillEligibleSinceNs := now } = _
  rw [value]
  rfl

theorem view_generation (claimed : runtime.ingress.requests.Claimed command requestIndex request) :
    (runtime.ingress.requests.view requestIndex request).requestGeneration =
      command.requestGeneration := claimed.requestGeneration

variable (steps : runtime.Steps call now command taken) (kind : command.kind = .admission)
  (claimed : runtime.ingress.requests.Claimed command requestIndex request)

include steps kind claimed

theorem stepReject_transition : Makes runtime call .step
      ((runtime.afterClaim now taken requestIndex request).stepReject call.thread
        ⟨command, runtime.ingress.requests.view requestIndex request⟩
        reserved) := by
  unfold stepReject
  rw [releaseRequest_afterClaim claimed _ rfl]
  dsimp only
  split
  · exact .request (.abandoned steps kind claimed .same (.refl _ _))
  rcases publish_cases
      { runtime.afterClaim now taken requestIndex request with ingress := _ }
      call.thread
      _ with
    ⟨last, status, refused, queues, -⟩ | ⟨last, event, done, published⟩
  · rw [refused]
    exact .request (.abandoned steps kind claimed .same queues)
  rw [done]
  rw [view_generation claimed] at published
  exact .request (.rejected steps kind claimed published)

theorem stepAbandon_transition {world : State} :
    Makes runtime call (.step ·.2) ((runtime.afterClaim now taken requestIndex request).stepAbandon
      participant world
      ⟨command, runtime.ingress.requests.view requestIndex request⟩
      status) := by
  unfold stepAbandon
  dsimp only
  rw [releaseRequest_afterClaim claimed _ rfl]
  split
  · exact .request (.abandoned steps kind claimed .same (.refl _ _))
  · exact .request (.abandoned steps kind claimed .same (.refl _ _))

theorem stepUninstall_transition (found : runtime.slots[index]? = some slot)
    (vacant : slot.sequence = none) (sequence : ControllerSequence)
    (queues : ControllerMailbox.SameQueues call.thread taken mailbox) (cleanup status : Status) :
    Makes runtime call .step (((runtime.afterInstall now taken requestIndex request index
      sequence).withMailbox mailbox).stepUninstall index cleanup status) := by
  have inside := (List.getElem_of_getElem? found).1
  have slots := slots_afterInstall now taken requestIndex request found sequence
  have installed : ((runtime.afterInstall now taken requestIndex request index
      sequence).withMailbox mailbox).slotAt index = runtime.admittedSlot slot now
        (runtime.ingress.requests.view requestIndex request)
        sequence := by
    change (runtime.afterInstall now taken requestIndex request index
      sequence).slots.getD index {} = _
    rw [slots, getD_eq_getElem?_getD, getElem?_set_self inside]
    rfl
  unfold stepUninstall
  dsimp only
  rw [installed]
  have request_eq : (runtime.admittedSlot slot now
      (runtime.ingress.requests.view requestIndex request)
      sequence).request = runtime.ingress.requests.view requestIndex request := rfl
  rw [request_eq, releaseRequest_afterClaim claimed _ rfl]
  unfold failWith
  change Transition runtime call
    { runtime.afterTake now mailbox ((runtime.ingress.requests.setState requestIndex request
          .claimed).clearSlot requestIndex) with
      slots := (runtime.afterInstall now taken requestIndex request index
          sequence).slots.set index _
      nextReadyEnqueueSequence := _
      state := .failed } _
  rw [slots, set_set]
  exact .request (.abandoned steps kind claimed (.wrote found vacant rfl) queues)

theorem stepInstalled_transition {sequence : ControllerSequence}
    (found : runtime.slots[index]? = some slot)
    (vacant : slot.sequence = none)
    (created : admitSequence command.requestGeneration request.promptTokens 1 = .ok sequence)
    (participant : Option (AdmissionParticipant State)) (world : State) (digest : Sha256Digest) :
    Makes runtime call (.step ·.2) ((runtime.afterInstall now taken requestIndex request index
      sequence).stepInstalled call.thread participant world index
        ⟨command, runtime.ingress.requests.view requestIndex request⟩
        digest) := by
  unfold stepInstalled
  split
  · exact stepUninstall_transition steps kind claimed found vacant sequence
      (.refl call.thread taken) _ _
  rw [view_generation claimed]
  rcases publish_cases _ call.thread _ with
    ⟨last, _, refused, queues, -⟩ | ⟨last, _, done, published⟩
  · rw [refused]
    exact stepUninstall_transition steps kind claimed found vacant sequence queues _ _
  rw [done]
  have slots := slots_afterInstall now taken requestIndex request found sequence
  change Transition runtime call
    { runtime.afterTake now last
        (runtime.ingress.requests.setState requestIndex request .claimed) with
      slots := (runtime.afterInstall now taken requestIndex request index sequence).slots
      nextReadyEnqueueSequence := nextU64 runtime.nextReadyEnqueueSequence
      activeSequenceCount := runtime.activeSequenceCount + 1 }
    (.step (.ok .admitted))
  rw [slots]
  exact .request (.admitted steps kind claimed found vacant created published)

theorem stepAdmission_transition
    (participant : Option (AdmissionParticipant State)) (world : State) :
    Makes runtime call (.step ·.2)
      ((runtime.afterClaim now taken requestIndex request).stepAdmission
        call.thread now participant world
        ⟨command, runtime.ingress.requests.view requestIndex request⟩) := by
  unfold stepAdmission
  split
  case h_1 full =>
    refine .request (.overflowed steps kind claimed ?_)
    intro slot member vacant
    have absent := findIdx?_eq_none_iff.mp full slot member
    unfold slotEmpty at absent
    rw [vacant] at absent
    cases absent
  rename_i index found
  rcases findIdx?_eq_some_iff_getElem.mp found with ⟨inside, empty, -⟩
  have slotFound : runtime.slots[index]? = some runtime.slots[index] := getElem?_eq_getElem inside
  have vacant : runtime.slots[index].sequence = none := Option.isNone_iff_eq_none.mp empty
  split
  · exact stepReject_transition steps kind claimed
  split
  · exact stepAbandon_transition steps kind claimed
  rename_i created
  split
  · exact stepAbandon_transition steps kind claimed
  refine stepInstalled_transition steps kind claimed slotFound vacant ?_ participant _ _
  rw [← view_generation claimed]
  exact created

end Admission

theorem currentNamed_cases (runtime : ControllerRuntime) (planSequence : ℕ)
    (planDigest : Sha256Digest) :
    runtime.currentNamed planSequence planDigest = none ∨
    ∃ current, runtime.currentNamed planSequence planDigest = some current ∧
      runtime.current = some current ∧
      current.plan.planSequence = planSequence ∧
      current.digest = planDigest := by
  cases named : runtime.currentNamed planSequence planDigest with
  | none => exact .inl rfl
  | some current =>
    rcases Option.filter_eq_some_iff.mp named with ⟨isCurrent, same⟩
    have same := of_decide_eq_true same
    exact .inr ⟨current, rfl, isCurrent, same.1, same.2⟩

/-- A loop over the members succeeds, or some member refuses. -/
theorem applyToMembers_split (operation : ControllerSequence → Result ControllerSequence)
    (slots : List RuntimeSlot) (distinct : indices.Nodup) :
    (∃ next, applyToMembers operation slots indices = (next, .ok ()) ∧
      MovesAll (fun _ before after => operation before = .ok after) slots next indices) ∨
    ∃ next status, applyToMembers operation slots indices = (next, .error status) ∧
      Moves (fun _ before after => operation before = .ok after) slots next indices ∧
      MembersRefuse operation slots indices := by
  induction indices generalizing slots with
  | nil => exact .inl ⟨slots, rfl, .nil⟩
  | cons index _ induction =>
    rcases nodup_cons.mp distinct with ⟨fresh, distinct⟩
    unfold applyToMembers
    cases applied : applyToSequence operation slots index with
    | error status =>
      refine .inr ⟨slots, status, rfl, .refl _ _ _, ?_⟩
      intro willing
      rcases willing index (.head _) with ⟨_, _, _, holding, done⟩
      rw [(applyToSequence_ok_iff _ _ _ _).mpr ⟨_, _, _, holding, done, rfl⟩] at applied
      cases applied
    | ok =>
      rcases (applyToSequence_ok_iff _ _ _ _).mp applied with
        ⟨slot, sequence, changed, holding, done, rfl⟩
      rcases induction _ distinct with ⟨next, equal, moves⟩ | ⟨next, status, equal, moves, refuse⟩
      · exact .inl ⟨next, equal, .cons fresh holding done moves⟩
      refine .inr ⟨next, status, equal, .cons fresh holding done moves, ?_⟩
      intro willing
      apply refuse
      intro other member
      rcases willing other (.tail _ member) with ⟨slot, sequence, changed, held, done⟩
      exact ⟨slot, sequence, changed, (holding_set_iff holding.lt _).mpr
        (.inr ⟨fun equal => fresh (equal ▸ member), held⟩), done⟩

variable {runtime : ControllerRuntime} (consistent : runtime.Consistent)
  {call : ControllerCall}

include consistent

theorem step_transition (operation : call.operation = .step now answers) :
    Makes runtime call .step (runtime.step call.thread now answers) := by
  unfold step stepImpl
  dsimp only
  split
  · exact .unchanged consistent.sized rfl
  rename_i ready
  split
  · exact .unchanged consistent.sized rfl
  split
  · exact .quiet (.refl _ _) consistent.sized rfl (.inl rfl)
  split
  · exact .quiet (.refl _ _) consistent.sized rfl (.inl rfl)
  rename_i credit
  rcases runtime.ingress.tryTakeCommand_cases call.thread with
    ⟨foreign, status, taken⟩ | ⟨mailbox, queues, taken⟩ |
    ⟨mailbox, command, status, took, kind, missing, taken⟩ |
    ⟨mailbox, command, _, _, took, kind, claimed, taken⟩ |
    ⟨mailbox, command, took, kind, taken⟩
  · rw [taken]
    exact .foreign operation foreign
  · rw [taken]
    exact .quiet queues consistent.sized rfl (.inl rfl)
  · rw [taken]
    exact .request (.unmatched ⟨⟨answers, operation⟩, not_not.mp ready, credit, took⟩ kind missing)
  · rw [taken]
    dsimp only
    unfold stepCommand
    rw [if_neg (by rw [kind]; exact nofun), kind]
    exact stepAdmission_transition ⟨⟨answers, operation⟩, not_not.mp ready, credit, took⟩ kind
      claimed _ ()
  have steps : runtime.Steps call now command mailbox :=
    ⟨⟨answers, operation⟩, not_not.mp ready, credit, took⟩
  rw [taken]
  dsimp only
  unfold stepCommand
  split
  case isTrue cancel => exact stepCancel_transition steps cancel
  rename_i other
  cases command_kind : command.kind with
  | admission => exact (kind command_kind).elim
  | cancel => exact (other command_kind).elim
  | shutdown => exact .corrupted steps kind fun cancel => (other cancel).elim

/-! ## Plans -/

theorem prepareNextPlan_transition (operation : call.operation = .prepareNextPlan now) :
    Makes runtime call .plan (runtime.prepareNextPlan now) := by
  rcases prepareNextPlan_cases consistent.sound consistent.sized now with
    ⟨_, scheduler, metadata, result, equal, sized, inert, decided⟩ |
    ⟨scheduler, metadata, _, _, _, _, entries, decision, equal, sized, prepared,
      decides, planned⟩
  · rw [equal]
    refine .quiet (.refl _ _) sized ?_
      (decided.imp_right fun ⟨entries, decision, decides⟩ => ⟨now, _, _, operation, decides⟩)
    match result, inert with
    | .error _, _ => rfl
    | .ok none, _ => rfl
    | .ok (some view), inert => exact (inert view rfl).elim
  rw [equal]
  exact .prepared operation sized prepared decides planned

theorem commitCurrentPlan_transition
    (operation : call.operation = .commitCurrentPlan planSequence digest) :
    Makes runtime call .status (runtime.commitCurrentPlan planSequence digest) := by
  unfold commitCurrentPlan
  rcases runtime.currentNamed_cases planSequence digest with
    named | ⟨current, named, isCurrent, rfl, rfl⟩
  · rw [named]
    exact .unchanged consistent.sized rfl
  rw [named]
  dsimp only
  rcases runtime.outputCredits.validate_cases current.outputBurst .prepared with
    ⟨-, holds⟩ | ⟨⟨status, refused⟩, -⟩
  · unfold OutputBurstCreditPool.commit
    rw [OutputBurstCreditPool.move_of_holds .committed holds]
    rcases applyToMembers_split (fun sequence => sequence.commit current.plan.planSequence)
        runtime.slots (consistent.distinct current isCurrent) with
      ⟨next, equal, moves⟩ | ⟨next, _, equal, moves, why⟩
    · rw [equal]
      exact .committed operation isCurrent holds moves
    rw [equal]
    exact .commitPartial operation isCurrent holds moves why
  unfold OutputBurstCreditPool.commit OutputBurstCreditPool.move
  rw [refused]
  exact .unchanged consistent.sized rfl

theorem markCurrentPlanInFlight_transition
    (operation : call.operation = .markCurrentPlanInFlight planSequence digest) :
    Makes runtime call .status (runtime.markCurrentPlanInFlight planSequence digest) := by
  unfold markCurrentPlanInFlight
  rcases runtime.currentNamed_cases planSequence digest with
    named | ⟨current, named, isCurrent, rfl, rfl⟩
  · rw [named]
    exact .unchanged consistent.sized rfl
  rw [named]
  dsimp only
  rcases applyToMembers_split (fun sequence => sequence.markInFlight current.plan.planSequence)
      runtime.slots (consistent.distinct current isCurrent) with
    ⟨next, equal, moves⟩ | ⟨next, _, equal, moves, why⟩
  · rw [equal]
    exact .marked operation isCurrent moves
  rw [equal]
  exact .markPartial operation isCurrent moves why

theorem abortCurrentPlan_transition
    (operation : call.operation = .abortCurrentPlan planSequence digest) :
    Makes runtime call .status (runtime.abortCurrentPlan planSequence digest) := by
  unfold abortCurrentPlan
  rcases runtime.currentNamed_cases planSequence digest with
    named | ⟨current, named, isCurrent, rfl, rfl⟩
  · rw [named]
    exact .unchanged consistent.sized rfl
  rw [named]
  dsimp only
  rcases applyToMembers_split (fun sequence => sequence.abortPrepared current.plan.planSequence)
      runtime.slots (consistent.distinct current isCurrent) with
    ⟨next, equal, moves⟩ | ⟨next, status, equal, moves, why⟩
  · rw [equal]
    rcases runtime.outputCredits.validate_cases current.outputBurst .prepared with
      ⟨-, holds⟩ | ⟨⟨_, refused⟩, why⟩
    · unfold abort
      rw [OutputBurstCreditPool.move_of_holds .free holds]
      exact .aborted operation isCurrent holds moves
    unfold abort OutputBurstCreditPool.move
    rw [refused]
    exact .abortPartial operation isCurrent moves.toMoves (.inr why)
  rw [equal]
  exact .abortPartial operation isCurrent moves (.inl why)

/-! ## Completion -/

theorem completeCurrentPlan_transition (operation : ∀ current, runtime.current = some current →
      runtime.CompletesWith current call.operation results now) :
    Makes runtime call .status (runtime.completeCurrentPlan call.thread results now) := by
  rcases runtime.completeCurrentPlan_cases call.thread results now
      consistent.distinct consistent.vacant with
    ⟨status, refused⟩ |
    ⟨current, members, mailbox, slots, _, _, completion, -, completed, equal⟩ |
    ⟨current, members, _, mailbox, slots, _, status, completion, -, broken, equal⟩
  · rw [refused]
    exact .unchanged consistent.sized rfl
  · rw [equal]
    exact .request (.completed (operation current completion.isCurrent) completion completed)
  rw [equal]
  exact .request (.completionBroken (operation current completion.isCurrent) completion broken)

theorem completeCurrentSampledTokens_transition
    (operation : call.operation = .completeCurrentSampledTokens tokens now) :
    Makes runtime call .status (runtime.completeCurrentSampledTokens call.thread tokens now) := by
  rcases runtime.completeCurrentSampledTokens_cases call.thread tokens now with
    ⟨_, refused⟩ | ⟨_, _, isCurrent, counted, sampled, equal⟩
  · rw [refused]
    exact .unchanged consistent.sized rfl
  rw [equal]
  apply completeCurrentPlan_transition consistent
  intro other isOther
  have same := Option.some.inj (isOther.symm.trans isCurrent)
  subst same
  rw [operation]
  exact .sampled tokens now counted sampled

/-! ## Acknowledgement, draining and events -/

theorem acknowledgeOutputPlan_transition
    (operation : call.operation = .acknowledgeOutputPlan planSequence) :
    Makes runtime call .status (runtime.acknowledgeOutputPlan planSequence) := by
  unfold acknowledgeOutputPlan
  split
  · exact .unchanged consistent.sized rfl
  split
  · exact .unchanged consistent.sized rfl
  rename_i index found
  rcases findIdx?_eq_some_iff_getElem.mp found with ⟨inside, burst, -⟩
  have value : runtime.pendingOutputBursts[index]? = some runtime.pendingOutputBursts[index] :=
    getElem?_eq_getElem inside
  split
  · exact .unchanged consistent.sized rfl
  rename_i lease pending
  have held : runtime.pendingOutputBursts[index] = some lease := by
    rw [← pending, getD_eq_getElem?_getD, value]
    rfl
  rw [held] at burst value
  have same : lease.planSequence = planSequence := of_decide_eq_true burst
  have holds := consistent.transferred lease (mem_of_getElem? value)
  rw [release_of_holds holds]
  subst same
  exact .acknowledged operation value holds

theorem finalizeDraining_transition (operation : call.operation = .finalizeDraining generation) :
    Makes runtime call .status (runtime.finalizeDraining call.thread generation) := by
  unfold finalizeDraining
  dsimp only
  split
  · exact .unchanged consistent.sized rfl
  rename_i free
  simp only [not_or, not_not] at free
  split
  · exact .unchanged consistent.sized rfl
  rename_i index found
  rcases holding_of_findIdx found with ⟨slot, sequence, holding, value, same⟩
  have slot_eq : runtime.slotAt index = slot := value
  rw [slot_eq, holding.2, Option.map_some]
  cases finish : finishSequence sequence with
  | error => exact .unchanged consistent.sized rfl
  | ok pair =>
    rcases pair with ⟨finished, kind⟩
    dsimp only
    have target : runtime.DrainTarget generation index slot sequence finished kind :=
      ⟨free.1, free.2, holding, same, finish⟩
    unfold releaseRequest
    rcases runtime.ingress.releaseRequest_cases slot.request with ⟨status, refused, stale⟩ |
      ⟨_, requestFound, claimed, generation_eq, released⟩
    · have refused' : (runtime.setSlot index
          { slot with sequence := some finished }).ingress.releaseRequest slot.request =
            _ := refused
      rw [refused']
      exact .request (.finalizeStuck operation target (.kept stale) (.refl _ _))
    have released' : (runtime.setSlot index
        { slot with sequence := some finished }).ingress.releaseRequest slot.request =
          (_, .ok ()) := released
    rw [released']
    dsimp only
    rcases publish_cases ((runtime.setSlot index _).setIngress _) call.thread _ with
      ⟨last, _, refused, queues, -⟩ |
      ⟨last, _, done, published⟩
    · rw [refused]
      exact .request (.finalizeStuck operation target
          (.released requestFound claimed generation_eq) queues)
    rw [done]
    dsimp only
    unfold setSlot withMailbox setIngress
    rw [set_set]
    exact .request (.finalized operation target requestFound claimed generation_eq published)

theorem tryTakeEvent_transition (operation : call.operation = .tryTakeEvent) :
    Makes runtime call .event runtime.tryTakeEvent := by
  unfold tryTakeEvent ControllerIngress.tryTakeEvent
  rcases runtime.ingress.mailbox.tryTakeEvent_cases with
    ⟨-, taken⟩ | ⟨_, _, taken, queue, capacity⟩
  · rw [taken]
    exact .unchanged consistent.sized rfl
  rw [taken]
  exact .tookEvent operation queue capacity

/-- Every call in a consistent state is one of the transitions. -/
theorem execute_transition (call : ControllerCall) :
    Transition runtime call (runtime.execute call).1 (runtime.execute call).2 := by
  unfold execute
  cases operation : call.operation with
  | submitAdmit =>
    exact submitAdmit_transition consistent operation
  | submitCancel => exact submitCancel_transition consistent operation
  | step => exact step_transition consistent operation
  | prepareNextPlan => exact prepareNextPlan_transition consistent operation
  | commitCurrentPlan => exact commitCurrentPlan_transition consistent operation
  | markCurrentPlanInFlight =>
    exact markCurrentPlanInFlight_transition consistent operation
  | abortCurrentPlan => exact abortCurrentPlan_transition consistent operation
  | completeCurrentPlan results now =>
    apply completeCurrentPlan_transition consistent
    intro current _
    rw [operation]
    exact .results results now
  | completeCurrentSampledTokens =>
    exact completeCurrentSampledTokens_transition consistent operation
  | acknowledgeOutputPlan =>
    exact acknowledgeOutputPlan_transition consistent operation
  | finalizeDraining => exact finalizeDraining_transition consistent operation
  | tryTakeEvent => exact tryTakeEvent_transition consistent operation

end Pih.ControllerRuntime
