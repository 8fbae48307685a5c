import Pih.Scheduler.ConcurrentSubmission

/-!
# No request is lost

The two errors that would report a broken bookkeeping cannot occur, for any
number of concurrent submitters, and the count of active sequences is exact.
-/

namespace Pih

open List

open ControllerSequence

open ControllerMailbox

namespace ControllerRuntime

/-! ## The errors of a broken bookkeeping -/

@[grind =]
def noMatchingPayload : Status := .internal "controller command has no matching request payload"

@[grind =]
def ledgerOverflowed : Status := .internal "controller persistent sequence ledger overflowed"

/-- One of the two errors of a broken bookkeeping. -/
@[grind]
def LostRequest (status : Status) : Prop := status = noMatchingPayload ∨ status = ledgerOverflowed

theorem stepUninstall_ne (runtime : ControllerRuntime) (index : ℕ)
    (first : cleanup ≠ status) (second : reported ≠ status) :
    (runtime.stepUninstall index cleanup reported).2 ≠ .error status := by
  unfold stepUninstall failWith
  grind

/-- A claimed admission finds a free place in the table. -/
theorem findIdx?_of_admission (books : Bookkeeping submitting runtime)
    (ready : runtime.state = .ready) {ingress : ControllerIngress}
    (taken : runtime.ingress.tryTakeCommand thread =
      (ingress, .ok (some ⟨command, some request⟩))) :
    runtime.slots.findIdx? slotEmpty ≠ none := by
  rcases runtime.ingress.tryTakeCommand_cases thread with
    ⟨-, _, other⟩ | ⟨_, -, other⟩ | ⟨_, _, _, -, -, -, other⟩ |
    ⟨_, _, _, _, -, -, claimed, -⟩ | ⟨_, _, -, -, other⟩
  · cases taken.symm.trans other
  · cases taken.symm.trans other
  · cases taken.symm.trans other
  · rcases books.vacancy ready (mem_of_getElem? claimed.found) (by simp [claimed.published]) with
      ⟨free, member, vacant⟩
    intro full
    have absent := findIdx?_eq_none_iff.mp full free member
    unfold slotEmpty at absent
    rw [vacant] at absent
    cases absent
  · cases taken.symm.trans other

section Errors

variable {status : Status} (lost : LostRequest status)
include lost

theorem digest_ne_lostRequest : Sha256.ofPieces pieces ≠ .error status := by
  have absorbed : ∀ hasher, Sha256.updateAll hasher pieces ≠ .error status := by
    induction pieces with
    | nil =>
      intro hasher impossible
      cases impossible
    | cons _ _ induction =>
      unfold Sha256.updateAll Sha256.update
      grind
  unfold Sha256.ofPieces Sha256.finalize
  grind

variable (runtime : ControllerRuntime)

theorem publish_ne_lostRequest (thread : ThreadId) (draft : ControllerOutputEventDraft) :
    (runtime.publish thread draft).2 ≠ .error status := by
  unfold publish ControllerIngress.publishEvent publishEvent requireControllerThread
  grind

theorem stepCancel_ne_lostRequest : (runtime.stepCancel thread command).2 ≠ .error status := by
  have told := publish_ne_lostRequest lost
  have cancelled : ∀ held : Option ControllerSequence,
      held.map requestCancel ≠ some (.error status) := by
    intro held
    cases held with
    | none => exact nofun
    | some =>
      unfold requestCancel
      grind
  have drained : ∀ sequence : ControllerSequence, sequence.beginDraining ≠ .error status := by
    unfold beginDraining
    grind
  unfold stepCancel failWith
  dsimp only
  split
  · grind
  split
  · grind
  split
  · grind
  split
  · grind
  · grind
  split
  · grind
  split
  · grind
  split
  case h_1 refused =>
    intro reported
    exact told _ _ _ ((congrArg Prod.snd refused).trans (congrArg _ (Except.error.inj reported)))
  · grind

theorem stepReject_ne_lostRequest (other : reserved ≠ status) :
    (runtime.stepReject thread admission reserved).2 ≠ .error status := by
  have told := publish_ne_lostRequest lost
  unfold stepReject failWith
  grind

theorem stepInstalled_ne_lostRequest
    (answered : (askPublish participant world
        admission.request.requestGeneration).2 ≠ .error status) :
    (runtime.stepInstalled thread participant world index admission
      stateDigest).2.2 ≠ .error status := by
  have told := publish_ne_lostRequest lost
  unfold stepInstalled
  split
  case h_1 reported refused =>
    rw [refused] at answered
    apply stepUninstall_ne
    · grind
    · exact fun same => answered (congrArg _ same)
  split
  case h_1 refused =>
    apply stepUninstall_ne
    · grind
    · intro same
      exact told _ _ _ ((congrArg Prod.snd refused).trans (congrArg _ same))
  · grind

theorem stepAbandon_ne_lostRequest
    (participant : Option (AdmissionParticipant State)) (world : State)
    (admission : ControllerAdmissionView) (other : reported ≠ status) :
    (runtime.stepAbandon participant world admission reported).2.2 ≠ .error status := by
  unfold stepAbandon
  grind

theorem stepAdmission_ne_lostRequest (thread : ThreadId) (nowNs : ℤ)
    (participant : Option (AdmissionParticipant State)) (world : State)
    (admission : ControllerAdmissionView) (vacant : runtime.slots.findIdx? slotEmpty ≠ none)
    (reserves : (askReserve participant world admission).2 ≠ .error status)
    (publishes : ∀ asked, (askPublish participant asked
      admission.request.requestGeneration).2 ≠ .error status) :
    (runtime.stepAdmission thread nowNs participant world admission).2.2 ≠ .error status := by
  unfold stepAdmission
  split
  case h_1 full => exact (vacant full).elim
  split
  case h_1 refused =>
    rw [refused] at reserves
    exact stepReject_ne_lostRequest lost _ fun same => reserves (congrArg _ same)
  split
  case h_1 reported refused =>
    apply stepAbandon_ne_lostRequest lost
    intro same
    unfold admitSequence at refused
    grind
  split
  case h_1 refused =>
    apply stepAbandon_ne_lostRequest lost
    intro same
    subst same
    exact digest_ne_lostRequest lost refused
  exact stepInstalled_ne_lostRequest lost _ (publishes _)

variable {runtime : ControllerRuntime} (books : Bookkeeping submitting runtime) (thread : ThreadId)

include books

/-- Taking a command finds the payload of an admission. -/
theorem tryTakeCommand_ne_lostRequest :
    (runtime.ingress.tryTakeCommand thread).2 ≠ .error status := by
  rcases runtime.ingress.tryTakeCommand_cases thread with ⟨foreign, -⟩ | ⟨mailbox, -, taken⟩ |
    ⟨mailbox, command, -, took, kind, missing, -⟩ |
    ⟨mailbox, command, _, _, -, -, -, taken⟩ |
    ⟨mailbox, command, -, -, taken⟩
  · cases owner : runtime.ingress.mailbox.controllerThread with
    | none => exact (foreign (.inl owner)).elim
    | some other =>
      have different : other ≠ thread := by
        rintro rfl
        exact foreign (.inr owner)
      have refused : (runtime.ingress.tryTakeCommand thread).2 = .error (.failedPrecondition
          "controller mailbox has another owner") := by
        simp [ControllerIngress.tryTakeCommand,
          ControllerMailbox.tryTakeCommand, requireControllerThread, owner, different]
      grind
  · rw [taken]
    rintro ⟨⟩
  · refine (books.not_unmatched ?_ missing).elim
    rw [@queuedAdmissions_of_admission runtime (runtime.withMailbox mailbox) _ _ _ took kind rfl]
    exact .head _
  · rw [taken]
    rintro ⟨⟩
  rw [taken]
  rintro ⟨⟩

/-- No step reports a lost request that the participant did not report. -/
theorem step_ne_lostRequest
    (given : ∀ answer ∈ answers, answer.reserve ≠ .error status ∧ answer.publish ≠ .error status) :
    (runtime.step thread nowNs answers).2 ≠ .error status := by
  unfold step stepImpl
  dsimp only
  split
  · grind
  rename_i ready
  have isReady := not_not.mp ready
  split
  · grind
  split
  · grind
  split
  · grind
  have taking := tryTakeCommand_ne_lostRequest lost books thread
  split
  case h_1 ingress _ refused =>
    rw [refused] at taking
    intro same
    exact taking (congrArg Except.error (Except.error.inj same))
  · grind
  rename_i item taken
  rcases item with ⟨_, _⟩
  unfold stepCommand
  dsimp only
  split
  · exact stepCancel_ne_lostRequest lost _
  split
  case h_1 =>
    apply stepAdmission_ne_lostRequest lost
    · have vacant := findIdx?_of_admission books isReady taken
      exact vacant
    · cases answers with
      | none => exact nofun
      | some answer => exact (given answer rfl).1
    · intro asked
      cases answers with
      | none => exact nofun
      | some answer => exact (given answer rfl).2
  · grind

end Errors

end ControllerRuntime

namespace SubmissionSystem

open ControllerRuntime

/-! ## Exact bookkeeping -/

/--
In every state that the runtime and its submitters reach: the queued
admissions are the published payloads that no submitter works on; the live
sequences are the claimed payloads; no step reports a lost request; and the
active count is the number of occupied slots, all of them live while the
runtime is ready.
-/
theorem request_bookkeeping_exact {limits : ControllerRuntimeLimits}
    {history : List (Entry SubmissionSystem SubmissionAction (Option ControllerOutcome))}
    {system : SubmissionSystem} (reaches : Reaches limits history system) :
    system.runtime.admissionKeys.Nodup ∧
    system.runtime.admissionKeys.Perm
      (waitingKeys system.submitting system.runtime.ingress.requests) ∧
    (system.runtime.slots.filterMap liveGeneration).Nodup ∧
    (system.runtime.slots.filterMap liveGeneration).Perm
      (system.runtime.ingress.requests.slots.filterMap claimedGeneration) ∧
    (∀ status ∈ [Status.internal "controller command has no matching request payload",
          Status.internal "controller persistent sequence ledger overflowed"],
      ∀ thread nowNs answers, (∀ answer ∈ answers,
          answer.reserve ≠ .error status ∧ answer.publish ≠ .error status) →
        (system.runtime.step thread nowNs answers).2 ≠ .error status) ∧
    system.runtime.activeSequenceCount = system.runtime.slots.countP isOccupied ∧
    (system.runtime.state = .ready → system.runtime.activeSequenceCount =
        system.runtime.slots.countP isLive) := by
  have books := reaches.consistent.books
  refine ⟨books.admissions_perm.1, books.admissions_perm.2,
    books.live_perm.1, books.live_perm.2, ?_, books.active, ?_⟩
  · intro status listed thread nowNs answers given
    refine step_ne_lostRequest ?_ books thread given
    rcases mem_cons.mp listed with first | rest
    · exact .inl first
    · exact .inr (mem_singleton.mp rest)
  · intro ready
    rw [books.active]
    apply countP_congr
    intro slot member
    rcases mem_iff_getElem?.mp member with ⟨index, found⟩
    cases held : slot.sequence with
    | none => simp [isOccupied, isLive, held]
    | some sequence =>
      have live := books.ended ready index slot sequence ⟨found, held⟩
      simp [isOccupied, isLive, held, live]

/-- A script of the system reaches a state with the given property. -/
def scriptReaches (limits : ControllerRuntimeLimits)
    (script : List (SubmissionSystem → SubmissionAction))
    (reached : SubmissionSystem → Bool) : Bool :=
  match ControllerRuntime.create limits with
  | .error _ => false
  | .ok fresh => reached (runScript execute [] ⟨fresh, []⟩ script).2

theorem Reaches.of_script {limits : ControllerRuntimeLimits}
    (reaches : scriptReaches limits script reached = true) :
    ∃ history system, Reaches limits history system ∧ reached system = true := by
  unfold scriptReaches at reaches
  split at reaches
  · cases reaches
  rename_i fresh created
  have permitted : ∀ history system, ScriptAllowed execute (fun _ _ _ => True) history system
      script := by
    clear reaches
    induction script with
    | nil => exact fun _ _ => trivial
    | cons _ _ induction => exact fun _ _ => ⟨trivial, induction _ _⟩
  exact ⟨_, _, ⟨fresh, created, Run.start.runScript script (permitted _ _)⟩, reaches⟩

set_option maxRecDepth 100000 in
/--
One request is live and a second one is queued while a third one is still
being submitted.
-/
theorem request_bookkeeping_exact_overlapping : ∃ limits history system,
      Reaches limits history system ∧ system.submitting.length = 1 ∧
        system.runtime.activeSequenceCount = 1 ∧ system.runtime.admissionKeys.length = 1 ∧
        system.runtime.admissionKeys.Perm (waitingKeys system.submitting
          system.runtime.ingress.requests) := by
  have reaches : scriptReaches
      { smallLimits with
        maximumSequences := 3
        ingress := ⟨⟨4, 8⟩, ⟨3, 4, 16⟩⟩
        scheduler := ⟨3, 2, 4, 3, 4, 100⟩ }
      [fun _ => .publish 11 [1] 2 {}, fun _ => .submit 0, fun _ => .publish 12 [2] 2 {},
        fun _ => .call ⟨1, .step 0 none⟩, fun _ => .submit 0, fun _ => .publish 13 [3] 2 {}]
      (fun system => system.submitting.length = 1 ∧ system.runtime.activeSequenceCount = 1 ∧
        system.runtime.admissionKeys.length = 1) = true := by
    decide +kernel
  rcases Reaches.of_script reaches with ⟨history, system, run, reached⟩
  have facts := of_decide_eq_true reached
  exact ⟨_, history, system, run, facts.1, facts.2.1, facts.2.2, (request_bookkeeping_exact run).2.1⟩

set_option maxRecDepth 100000 in
/--
A finalization from a thread that does not own the mailbox releases the
payload and leaves the ended sequence in its slot, still counted as active.
-/
theorem ended_sequence_stays_counted : ∃ history system,
      Reaches smallLimits history system ∧ system.runtime.state = .failed ∧
        system.runtime.activeSequenceCount = 1 ∧
        system.runtime.slots.countP isOccupied = 1 ∧
        system.runtime.slots.countP isLive = 0 ∧
        system.runtime.ingress.requests.claimedCount = 0 := by
  have reaches : scriptReaches smallLimits [fun _ => .call ⟨1, .submitAdmit 11 [1] 2 {}⟩,
        fun _ => .call ⟨1, .step 0 none⟩, fun _ => .call ⟨1, .submitCancel 11⟩,
        fun _ => .call ⟨1, .step 0 none⟩, fun _ => .call ⟨2, .finalizeDraining 11⟩]
      (fun system =>
        system.runtime.state = .failed ∧ system.runtime.activeSequenceCount = 1 ∧
          system.runtime.slots.countP isOccupied = 1 ∧
          system.runtime.slots.countP isLive = 0 ∧
          system.runtime.ingress.requests.claimedCount = 0) = true := by
    decide +kernel
  rcases Reaches.of_script reaches with ⟨history, system, run, reached⟩
  exact ⟨history, system, run, of_decide_eq_true reached⟩

end SubmissionSystem

end Pih
