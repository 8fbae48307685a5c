import Pih.Scheduler.RequestBookkeeping

/-!
# Admissions that a step hands to its participant

A step asks its participant about the oldest admission of the queue and takes
exactly that admission from it; every other call leaves the queue of
admissions alone, except a submission, which adds one at its end.  This is
the interface through which a participant with a state of its own is joined
to the controller.
-/

namespace Pih

open ControllerSequence List

namespace ControllerRuntime

/-! ## The generations in the slots -/

/-- The generations of the sequences that the slots hold. -/
def heldGenerations (slots : List RuntimeSlot) : List ℕ := slots.filterMap fun slot =>
    slot.sequence.map sequenceGeneration

variable {slots : List RuntimeSlot}

theorem mem_heldGenerations : generation ∈ heldGenerations slots ↔
      ∃ index slot sequence, Holding slots index slot sequence ∧
        sequence.sequenceGeneration = generation := by
  unfold heldGenerations
  rw [mem_filterMap]
  constructor
  · rintro ⟨slot, member, value⟩
    rcases mem_iff_getElem?.mp member with ⟨index, found⟩
    rcases Option.map_eq_some_iff.mp value with ⟨sequence, held, same⟩
    exact ⟨index, slot, sequence, ⟨found, held⟩, same⟩
  · rintro ⟨_, slot, _, ⟨found, held⟩, rfl⟩
    exact ⟨slot, mem_of_getElem? found, by rw [held]; rfl⟩

/-- With a vacant slot there are fewer sequences than slots. -/
theorem length_heldGenerations_lt (vacant : ∃ slot ∈ slots, slot.sequence = none) :
    (heldGenerations slots).length < slots.length := by
  unfold heldGenerations
  rw [length_filterMap_eq_countP]
  apply Nat.lt_of_le_of_ne countP_le_length
  intro full
  rcases vacant with ⟨slot, member, empty⟩
  have occupied := countP_eq_length.mp full slot member
  rw [empty] at occupied
  cases occupied

theorem Carries.heldGenerations {next : List RuntimeSlot} (carries : Carries slots next) :
    heldGenerations slots ⊆ heldGenerations next := by
  intro generation member
  rcases mem_heldGenerations.mp member with ⟨index, slot, sequence, holding, rfl⟩
  apply mem_heldGenerations.mpr
  rcases carries index with
    same | ⟨old, -, found, empty, -⟩ |
    ⟨old, _, new, after, held, holds, -, tracks⟩
  · exact ⟨index, slot, sequence, ⟨same.trans holding.1, holding.2⟩, rfl⟩
  · cases found.symm.trans holding.1
    cases empty.symm.trans holding.2
  rcases held.unique holding with ⟨rfl, rfl⟩
  exact ⟨index, new, after, holds, tracks.generation⟩

theorem Carries.trans (earlier : Carries first second)
    (later : Carries second third) : Carries first third := by
  intro index
  rcases earlier index with
    same | ⟨old, middle, found, empty, wrote, still⟩ |
    ⟨old, before, middle, between, held, holds, request, tracks⟩
  · rcases later index with
      again | ⟨old, new, found, rest⟩ |
      ⟨old, before, new, after, held, rest⟩
    · exact .inl (again.trans same)
    · exact .inr (.inl ⟨old, new, same.symm.trans found, rest⟩)
    · exact .inr (.inr ⟨old, before, new, after, ⟨same.symm.trans held.1, held.2⟩, rest⟩)
  · rcases later index with
      again | ⟨_, new, _, _, written, vacant⟩ |
      ⟨_, _, _, _, held, _⟩
    · exact .inr (.inl ⟨old, middle, found, empty, again.trans wrote, still⟩)
    · exact .inr (.inl ⟨old, new, found, empty, written, vacant⟩)
    · cases wrote.symm.trans held.1
      cases still.symm.trans held.2
  rcases later index with
    again | ⟨_, _, found, empty, _⟩ |
    ⟨_, _, new, after, heldLater, holdsLater, requestLater, tracksLater⟩
  · exact .inr (.inr ⟨old, before, middle, between, held,
      ⟨again.trans holds.1, holds.2⟩, request, tracks⟩)
  · cases found.symm.trans holds.1
    cases empty.symm.trans holds.2
  rcases heldLater.unique holds with ⟨rfl, rfl⟩
  exact .inr (.inr ⟨old, before, new, after, held, holdsLater,
    requestLater.trans request, tracks.trans tracksLater⟩)

/-! ## Calls that leave the requests alone -/

/-- The queued admissions and the sequences in the slots go on. -/
structure Keeps (runtime next : ControllerRuntime) : Prop where
  ready : runtime.state = .ready
  admissions : next.queuedAdmissions = runtime.queuedAdmissions
  carries : Carries runtime.slots next.slots

/-- No request was queued, taken or ended. -/
def untouched : ControllerOperation → ControllerOutcome → Bool
  | .submitAdmit _ _ _ _, .command (.ok _) => false
  | .step _ _, .step (.ok .admitted) => false
  | .step _ _, .step (.ok .admissionRejected) => false
  | .finalizeDraining _, .status (.ok ()) => false
  | _, _ => true

section Calls

variable {next : ControllerRuntime}

theorem RequestTransition.keeps (transition : RequestTransition runtime call next outcome)
    (alone : untouched call.operation outcome = true)
    (ready : next.state = .ready) : Keeps runtime next := by
  cases transition with
  | submitted operation _ _ _ _ | finalized operation _ _ _ _ _ =>
    rw [operation] at alone
    cases alone
  | withdrawn => exact ⟨ready, queuedAdmissions_of_commands rfl, .refl _⟩
  | cancelDrained steps target drained _ published =>
    refine ⟨steps.ready, ?_, ?_⟩
    · apply queuedAdmissions_of_took steps.took
      · rw [target.kind]
        exact nofun
      · exact published.commands
    · refine .moves (.single target.holding ?_) (fun _ _ _ tracks => tracks)
      exact (works_requestCancel target.requested).tracks.trans (tracks_beginDraining drained)
  | rejected steps _ _ _ | admitted steps _ _ _ _ _ _ =>
    rcases steps.operation with ⟨_, operation⟩
    rw [operation] at alone
    cases alone
  | completed _ completion completed =>
    refine ⟨ready, ?_, ?_⟩
    · exact queuedAdmissions_of_commands completed.emits.frame.1
    · exact .completed completed.slots fun member listed => (completion.valid member listed).applies
  | unmatched | cancelStuck | overflowed | abandoned | completionBroken
  | finalizeStuck => exact not_ready ready

theorem Transition.keeps (transition : Transition runtime call next outcome)
    (alone : untouched call.operation outcome = true)
    (ready : next.state = .ready) : Keeps runtime next := by
  rcases transition.silent_or_request with silent | request
  · rcases silent.slots with ⟨_, moves⟩
    exact ⟨silent.ready ready, silent.admissions, .moves moves fun _ _ _ works => works.tracks⟩
  · exact request.keeps alone ready

end Calls

/-- What follows from a call, whether or not the runtime is ready. -/
structure Kept (runtime next : ControllerRuntime) : Prop where
  base : next.Base
  keeps : next.state = .ready → Keeps runtime next

theorem Kept.refl (base : runtime.Base) : Kept runtime runtime :=
  ⟨base, fun ready => ⟨ready, rfl, .refl _⟩⟩

theorem Kept.trans (earlier : Kept first second) (later : Kept second third) :
    Kept first third := by
  refine ⟨later.base, fun ready => ?_⟩
  have last := later.keeps ready
  have before := earlier.keeps last.ready
  exact ⟨before.ready, last.admissions.trans before.admissions, before.carries.trans last.carries⟩

/-- A call that is neither a step nor a submission nor a finalization. -/
def plain : ControllerOperation → Bool
  | .submitAdmit _ _ _ _ => false
  | .step _ _ => false
  | .finalizeDraining _ => false
  | _ => true

theorem untouched_of_plain (simple : plain operation = true) :
    untouched operation outcome = true := by
  cases operation with
  | submitAdmit | step | finalizeDraining => cases simple
  | _ => rfl

theorem Kept.of_plain {runtime : ControllerRuntime} (base : runtime.Base)
    {call : ControllerCall} (simple : plain call.operation = true) :
    Kept runtime (runtime.execute call).1 :=
  ⟨base.preserved (base.transition call), (base.transition call).keeps (untouched_of_plain simple)⟩

/-! ## The admission that a step asks about -/

/-- A participant that remembers what it was asked to reserve. -/
def recorder : AdmissionParticipant (Option ControllerAdmissionView) where
  reserve := fun _ admission => (some admission, .error (.failedPrecondition "recorded"))
  publish := fun seen _ => (seen, .ok ())
  rollback := fun seen _ => (seen, .ok ())

/-- The admission that a step hands to its participant, if it does. -/
def admissionAsked (runtime : ControllerRuntime) (thread : ThreadId)
    (nowNs : ℤ) : Option ControllerAdmissionView :=
  (runtime.stepImpl thread nowNs (some recorder) none).2.1

theorem stepCancel_result (runtime : ControllerRuntime) (thread : ThreadId)
    (command : ControllerCommand) :
    (∃ status, (runtime.stepCancel thread command).2 = .error status) ∨
      (runtime.stepCancel thread command).2 = .ok .cancelRequested := by
  unfold stepCancel
  dsimp only
  split
  · exact .inl ⟨_, rfl⟩
  split
  · exact .inl ⟨_, rfl⟩
  split
  · exact .inl ⟨_, rfl⟩
  split
  · exact .inl ⟨_, rfl⟩
  · exact .inl ⟨_, rfl⟩
  split
  · exact .inr rfl
  split
  · exact .inl ⟨_, rfl⟩
  split
  · exact .inl ⟨_, rfl⟩
  · exact .inr rfl

/-- The results of steps that neither admit nor reject. -/
def otherResult : Result ControllerRuntimeStep → Bool
  | .ok .admitted => false
  | .ok .admissionRejected => false
  | _ => true

theorem untouched_step (now : ℤ) (answers : Option AdmissionAnswers)
    (result : Result ControllerRuntimeStep) :
    untouched (.step now answers) (.step result) = otherResult result := by
  cases result with
  | error => rfl
  | ok step => cases step <;> rfl

theorem otherResult_stepCancel (runtime : ControllerRuntime)
    (thread : ThreadId) (command : ControllerCommand) :
    otherResult (runtime.stepCancel thread command).2 = true := by
  rcases runtime.stepCancel_result thread command with ⟨_, result⟩ | result
  · rw [result]
    rfl
  rw [result]
  rfl

/--
A step treats every participant alike until it hands over the oldest
admission.
-/
theorem stepImpl_cases (runtime : ControllerRuntime) (thread : ThreadId) (now : ℤ) :
    (∃ next result, otherResult result = true ∧
      ∀ (State : Type) (participant : Option (AdmissionParticipant State)) (world : State),
        runtime.stepImpl thread now participant world = (next, world, result)) ∨
    ∃ taken command requestIndex request, runtime.Steps ⟨thread, .step now none⟩ now command taken ∧
      command.kind = .admission ∧
      runtime.ingress.requests.Claimed command requestIndex request ∧
      ∀ (State : Type) (participant : Option (AdmissionParticipant State)) (world : State),
        runtime.stepImpl thread now participant world =
          (runtime.afterClaim now taken requestIndex request).stepAdmission
            thread now participant world
            ⟨command, runtime.ingress.requests.view requestIndex request⟩ := by
  unfold stepImpl
  dsimp only
  split
  · exact .inl ⟨_, _, rfl, fun _ _ _ => rfl⟩
  rename_i ready
  split
  · exact .inl ⟨_, _, rfl, fun _ _ _ => rfl⟩
  split
  · exact .inl ⟨_, _, rfl, fun _ _ _ => rfl⟩
  split
  · exact .inl ⟨_, _, rfl, fun _ _ _ => rfl⟩
  rename_i credit
  rcases runtime.ingress.tryTakeCommand_cases thread with ⟨-, status, taken⟩ | ⟨mailbox, -, taken⟩ |
    ⟨mailbox, command, status, -, -, -, taken⟩ |
    ⟨mailbox, command, index, request, took, kind, claimed, taken⟩ |
    ⟨mailbox, command, -, kind, taken⟩
  · rw [taken]
    exact .inl ⟨_, _, rfl, fun _ _ _ => rfl⟩
  · rw [taken]
    exact .inl ⟨_, _, rfl, fun _ _ _ => rfl⟩
  · rw [taken]
    exact .inl ⟨_, _, rfl, fun _ _ _ => rfl⟩
  · refine .inr ⟨mailbox, command, index, request,
      ⟨⟨none, rfl⟩, not_not.mp ready, credit, took⟩, kind, claimed, ?_⟩
    intro State participant world
    rw [taken]
    dsimp only
    unfold stepCommand
    rw [if_neg (by rw [kind]; exact nofun), kind]
    rfl
  rw [taken]
  dsimp only
  unfold stepCommand
  split
  · exact .inl ⟨_, _, otherResult_stepCancel _ _ _, fun _ _ _ => rfl⟩
  cases command_kind : command.kind with
  | admission => exact (kind command_kind).elim
  | cancel => exact .inl ⟨_, _, rfl, fun _ _ _ => rfl⟩
  | shutdown => exact .inl ⟨_, _, rfl, fun _ _ _ => rfl⟩

/-! ## What comes of an admission -/

variable {admission : ControllerAdmissionView}

theorem stepReject_ready {runtime : ControllerRuntime}
    (ready : (runtime.stepReject thread admission reserved).1.state = .ready) :
    reserved.code = .resourceExhausted ∧ (runtime.stepReject thread admission reserved).2 =
      .ok .admissionRejected := by
  unfold stepReject at *
  split at ready
  · exact not_ready ready
  split at ready
  · exact not_ready ready
  case isFalse code =>
    rw [if_neg code]
    split at ready
    · exact not_ready ready
    · exact ⟨not_not.mp code, rfl⟩

theorem state_stepUninstall (runtime : ControllerRuntime) (index : ℕ) (cleanup status : Status) :
    (runtime.stepUninstall index cleanup status).1.state = .failed := by
  unfold stepUninstall
  dsimp only
  split <;> rfl

theorem state_stepAbandon (runtime : ControllerRuntime)
    (participant : Option (AdmissionParticipant State)) (world : State)
    (admission : ControllerAdmissionView) (status : Status) :
    (runtime.stepAbandon participant world admission status).1.state = .failed := by
  unfold stepAbandon
  dsimp only
  split <;> rfl

theorem stepInstalled_ready {runtime next : ControllerRuntime}
    {party : AdmissionParticipant State} {world reached : State}
    (installed : runtime.stepInstalled thread (some party) world index admission
        digest = (next, reached, result)) (ready : next.state = .ready) :
    party.publish world admission.request.requestGeneration = (reached, .ok ()) ∧
      result = .ok .admitted := by
  have asks : askPublish (some party) world admission.request.requestGeneration =
      party.publish world admission.request.requestGeneration := rfl
  unfold stepInstalled at installed
  rw [asks] at installed
  rcases told : party.publish world admission.request.requestGeneration with ⟨_, answer⟩
  rw [told] at installed
  cases answer with
  | error =>
    cases installed
    rw [state_stepUninstall] at ready
    exact not_ready ready
  | ok =>
    dsimp only at installed
    split at installed
    · cases installed
      rw [state_stepUninstall] at ready
      exact not_ready ready
    cases installed
    exact ⟨rfl, rfl⟩

theorem stepAdmission_full {runtime : ControllerRuntime}
    (full : runtime.slots.findIdx? slotEmpty = none) (thread : ThreadId)
    (now : ℤ) (participant : Option (AdmissionParticipant State))
    (world : State) (admission : ControllerAdmissionView) :
    (runtime.stepAdmission thread now participant world admission).1.state = .failed ∧
      (runtime.stepAdmission thread now participant world admission).2.1 = world := by
  unfold stepAdmission
  rw [full]
  exact ⟨rfl, rfl⟩

section

variable {runtime : ControllerRuntime} (found : runtime.slots.findIdx? slotEmpty = some index)

include found

theorem stepAdmission_recorder (thread : ThreadId) (now : ℤ) (admission : ControllerAdmissionView) :
    (runtime.stepAdmission thread now (some recorder) none admission).2.1 = some admission := by
  unfold stepAdmission
  rw [found]
  rfl

theorem stepAdmission_ready {party : AdmissionParticipant State}
    {world reached : State} {next : ControllerRuntime}
    (stepped : runtime.stepAdmission thread now (some party) world admission =
        (next, reached, result)) (ready : next.state = .ready) :
    (∃ status, party.reserve world admission = (reached, .error status) ∧
      status.code = .resourceExhausted ∧
      result = .ok .admissionRejected) ∨
    ∃ asked, party.reserve world admission = (asked, .ok ()) ∧
      party.publish asked admission.request.requestGeneration = (reached, .ok ()) ∧
      result = .ok .admitted := by
  have asks : askReserve (some party) world admission = party.reserve world admission := rfl
  unfold stepAdmission at stepped
  rw [found, asks] at stepped
  rcases answered : party.reserve world admission with ⟨asked, answer⟩
  rw [answered] at stepped
  cases answer with
  | error status =>
    cases stepped
    rcases stepReject_ready ready with ⟨exhausted, rejected⟩
    exact .inl ⟨status, rfl, exhausted, rejected⟩
  | ok =>
    dsimp only at stepped
    split at stepped
    case h_1 status _ =>
      have failed := runtime.state_stepAbandon (some party) asked admission status
      rw [stepped] at failed
      exact not_ready (failed.symm.trans ready)
    split at stepped
    case h_1 status _ =>
      have failed := runtime.state_stepAbandon (some party) asked admission status
      rw [stepped] at failed
      exact not_ready (failed.symm.trans ready)
    rcases stepInstalled_ready stepped ready with ⟨told, admitted⟩
    exact .inr ⟨asked, rfl, told, admitted⟩

end

/--
How an admission that was handed over ends if the runtime stays ready.  The
other admissions stay in the queue.
-/
inductive Settles {State : Type} (runtime : ControllerRuntime) (party : AdmissionParticipant State)
    (world : State) (admission : ControllerAdmissionView) :
    ControllerRuntime → State → Prop where
  | rejected
      {next : ControllerRuntime}
      (reserved : party.reserve world admission = (reached, .error status))
      (exhausted : status.code = .resourceExhausted)
      (slots : next.slots = runtime.slots) :
      Settles runtime party world admission next reached
  | admitted
      {next : ControllerRuntime} {sequence : ControllerSequence}
      (reserved : party.reserve world admission = (asked, .ok ()))
      (told : party.publish asked admission.request.requestGeneration = (reached, .ok ()))
      (found : runtime.slots[index]? = some old)
      (vacant : old.sequence = none)
      (slots : next.slots = runtime.slots.set index new)
      (held : new.sequence = some sequence)
      (generation : sequence.sequenceGeneration = admission.request.requestGeneration) :
      Settles runtime party world admission next reached

/-- What a step can do, with the state of its participant. -/
inductive StepEffect {State : Type} (runtime : ControllerRuntime) (thread : ThreadId) (now : ℤ)
    (party : AdmissionParticipant State) (world : State) :
    ControllerRuntime → State → Prop where
  | unasked
      {next : ControllerRuntime}
      (nothing : runtime.admissionAsked thread now = none)
      (kept : Kept runtime next) :
      StepEffect runtime thread now party world next world
  | asked
      {next : ControllerRuntime}
      {admission : ControllerAdmissionView}
      (handed : runtime.admissionAsked thread now = some admission)
      (ready : runtime.state = .ready)
      (queue : runtime.queuedAdmissions = command :: rest)
      (same : admission.request.requestGeneration = command.requestGeneration)
      (vacant : ∃ slot ∈ runtime.slots, slot.sequence = none)
      (base : next.Base)
      (left : next.state = .ready → next.queuedAdmissions = rest)
      (settles : next.state = .ready → Settles runtime party world admission next reached) :
      StepEffect runtime thread now party world next reached

section Step

variable {next : ControllerRuntime}

theorem Transition.of_rejected
    (transition : Transition runtime call next (.step (.ok .admissionRejected))) :
    ∃ command, runtime.queuedAdmissions = command :: next.queuedAdmissions ∧
      next.slots = runtime.slots := by
  cases transition with
  | request transition =>
    cases transition with
    | rejected steps kind _ published =>
      exact ⟨_, queuedAdmissions_of_admission steps.took kind published.commands, rfl⟩
  | quiet _ _ inert => cases inert

theorem Transition.of_admitted (transition : Transition runtime call next (.step (.ok .admitted))) :
    ∃ command index old new sequence, runtime.queuedAdmissions = command :: next.queuedAdmissions ∧
      runtime.slots[index]? = some old ∧ old.sequence = none ∧
      next.slots = runtime.slots.set index new ∧
      new.sequence = some sequence ∧
      sequence.sequenceGeneration = command.requestGeneration := by
  cases transition with
  | request transition =>
    cases transition with
    | admitted steps kind _ found vacant created published =>
      refine ⟨_, _, _, _, _, queuedAdmissions_of_admission steps.took
        kind published.commands, found, vacant, rfl, rfl, ?_⟩
      unfold admitSequence at created
      split at created
      · cases created
      cases created
      rfl
  | quiet _ _ inert => cases inert

/-- A submission adds its admission at the end of the queue. -/
theorem Transition.of_submitted {maximum : ℕ}
    (transition : Transition runtime call next (.command (.ok command)))
    (operation : call.operation = .submitAdmit generation prompt maximum sampling) :
    runtime.state = .ready ∧ next.slots = runtime.slots ∧
      next.queuedAdmissions = runtime.queuedAdmissions ++ [command] ∧
      command.requestGeneration = generation := by
  cases transition with
  | request transition =>
    cases transition with
    | submitted named ready _ queued value =>
      cases operation.symm.trans named
      refine ⟨ready, rfl, ?_, by rw [value]⟩
      rw [@queuedAdmissions_of_queued runtime
        { runtime with ingress := ⟨_, _⟩ } _ queued, value]
      rfl
  | quiet _ _ inert => cases inert
  | cancelSubmitted named => cases operation.symm.trans named

/-- A finalization empties the slot of its sequence. -/
theorem Transition.of_finalized (transition : Transition runtime call next (.status (.ok ())))
    (operation : call.operation = .finalizeDraining generation) :
    runtime.state = .ready ∧ next.queuedAdmissions = runtime.queuedAdmissions ∧
      ∃ index slot sequence new, Holding runtime.slots index slot sequence ∧
        sequence.sequenceGeneration = generation ∧
        next.slots = runtime.slots.set index new := by
  cases transition with
  | request transition =>
    cases transition with
    | finalized named target _ _ _ published =>
      cases operation.symm.trans named
      exact ⟨target.ready, queuedAdmissions_of_commands published.commands, _, _, _, _,
        target.holding, target.generation, rfl⟩
    | completed completes =>
      rw [operation] at completes
      cases completes
  | quiet _ _ inert => cases inert
  | committed named _ _ _ | marked named _ _ | aborted named _ _ _
  | acknowledged named => cases operation.symm.trans named

/-- The effect of a step that got to an admission. -/
theorem stepAdmission_effect (base : runtime.Base) {taken : ControllerMailbox}
    (steps : runtime.Steps ⟨thread, .step now none⟩ now command taken)
    (kind : command.kind = .admission)
    (claimed : runtime.ingress.requests.Claimed command requestIndex request)
    (same : ∀ (State : Type) (participant : Option (AdmissionParticipant State)) (world : State),
        runtime.stepImpl thread now participant world =
          (runtime.afterClaim now taken requestIndex request).stepAdmission
            thread now participant world
            ⟨command, runtime.ingress.requests.view requestIndex request⟩)
    (party : AdmissionParticipant State) (world : State) :
    StepEffect runtime thread now party world (runtime.stepImpl thread now (some party) world).1
      (runtime.stepImpl thread now (some party) world).2.1 := by
  have transition := stepAdmission_transition steps kind claimed (some party) world
  have recorded : runtime.admissionAsked thread now =
      ((runtime.afterClaim now taken requestIndex request).stepAdmission
        thread now (some recorder) none
        ⟨command, runtime.ingress.requests.view requestIndex request⟩).2.1 := by
    unfold admissionAsked
    rw [same]
  rw [same]
  cases slotFound : (runtime.afterClaim now taken requestIndex request).slots.findIdx?
        slotEmpty with
  | none =>
    have own := stepAdmission_full slotFound thread now (some party) world
        ⟨command, runtime.ingress.requests.view requestIndex request⟩
    rw [own.2]
    refine .unasked ?_ ⟨base.preserved transition, fun ready => ?_⟩
    · rw [recorded]
      exact (stepAdmission_full slotFound _ _ _ _ _).2
    · rw [own.1] at ready
      exact not_ready ready
  | some =>
    rw [stepAdmission_recorder slotFound] at recorded
    rcases stepped : (runtime.afterClaim now taken requestIndex
          request).stepAdmission thread now _ world
          ⟨command, _⟩ with
      ⟨_, _, _⟩
    rw [stepped] at transition
    rcases findIdx?_eq_some_iff_getElem.mp slotFound with ⟨inside, empty, -⟩
    have queue : runtime.queuedAdmissions =
        command :: (runtime.withMailbox taken).queuedAdmissions :=
      queuedAdmissions_of_admission steps.took kind rfl
    refine .asked recorded steps.ready queue claimed.requestGeneration
      ⟨_, getElem_mem inside, Option.isNone_iff_eq_none.mp empty⟩
      (base.preserved transition) (fun ready => ?_) (fun ready => ?_)
    · rcases stepAdmission_ready slotFound stepped ready with
        ⟨status, -, -, rfl⟩ | ⟨asked, -, -, rfl⟩
      · rcases transition.of_rejected with ⟨other, left, -⟩
        exact (cons.inj (left.symm.trans queue)).2
      · rcases transition.of_admitted with ⟨other, _, _, _, _, left, -⟩
        exact (cons.inj (left.symm.trans queue)).2
    · rcases stepAdmission_ready slotFound stepped ready with
        ⟨_, reserved, exhausted, rfl⟩ | ⟨_, reserved, told, rfl⟩
      · rcases transition.of_rejected with ⟨-, -, slots⟩
        exact .rejected reserved exhausted slots
      · rcases transition.of_admitted with
          ⟨_, _, _, _, _, left, found, vacant, slots, held, generation⟩
        rcases cons.inj (left.symm.trans queue) with ⟨rfl, -⟩
        exact .admitted reserved told found vacant slots held
          (generation.trans claimed.requestGeneration.symm)

theorem stepImpl_effect (base : runtime.Base) (thread : ThreadId) (now : ℤ)
    (party : AdmissionParticipant State) (world : State) :
    StepEffect runtime thread now party world (runtime.stepImpl thread now (some party) world).1
      (runtime.stepImpl thread now (some party) world).2.1 := by
  rcases runtime.stepImpl_cases thread now with ⟨next, result, other, same⟩ |
    ⟨_, _, _, _, steps, kind, claimed, same⟩
  · have transition := base.transition ⟨thread, .step now none⟩
    have executed : runtime.execute ⟨thread, .step now none⟩ = (next, .step result) := by
      unfold execute step
      dsimp only
      rw [same]
    rw [executed] at transition
    rw [same]
    refine .unasked ?_ ⟨base.preserved transition, ?_⟩
    · unfold admissionAsked
      rw [same]
    · apply transition.keeps
      rw [untouched_step]
      exact other
  · exact stepAdmission_effect base steps kind claimed same party world

end Step

end ControllerRuntime

end Pih
