import Pih.Scheduler.ControllerHistory

/-!
# Calls that publish nothing

Most transitions neither publish an event nor touch the request arena; they
move sequences between the states of a plan, and no sequence starts or ends.
`Silent` collects what these transitions have in common.
-/

namespace Pih

open ControllerSequence

open ControllerMailbox

/-- The sequence drains or has ended. -/
def ControllerSequenceState.ended : ControllerSequenceState → Bool
  | .draining => true
  | state => state.terminal

namespace ControllerSequence

/-- The sequence changes its state before its end, and nothing it has told. -/
structure Works (before after : ControllerSequence) : Prop where
  generation : after.sequenceGeneration = before.sequenceGeneration
  prompt : after.promptTokenCount = before.promptTokenCount
  processed : after.modelProcessedLength = before.modelProcessedLength
  accepted : after.acceptedCompletionCount = before.acceptedCompletionCount
  openBefore : before.state.ended = false
  openAfter : after.state.ended = false

section

variable {before after : ControllerSequence}

theorem ended_of_prepared {state : ControllerSequenceState}
    (prepared : state.prepared = true) : state.ended = false := by
  cases state <;> first | rfl | cases prepared

theorem ended_of_committedOrInFlight {state : ControllerSequenceState}
    (committed : state.committedOrInFlight = true) : state.ended = false := by
  cases state <;> first | rfl | cases committed

theorem works_prepare (prepared : before.prepare planSequence phase count = .ok after) :
    Works before after := by
  rcases prepare_ok prepared with ⟨ready, -, -, -, -, -, rfl⟩
  refine ⟨rfl, rfl, rfl, rfl, ?_, by cases phase <;> rfl⟩
  simp only [readyFor, decide_eq_true_eq] at ready
  rcases ready with ⟨queued, -⟩ | ⟨decode, -⟩
  · rw [queued]
    rfl
  rw [decode]
  rfl

theorem works_commit (committed : before.commit planSequence = .ok after) : Works before after := by
  rcases commit_ok_iff.mp committed with ⟨prepared, -, rfl⟩
  exact ⟨rfl, rfl, rfl, rfl, ended_of_prepared prepared, by cases before.activePhase <;> rfl⟩

theorem works_markInFlight (marked : before.markInFlight planSequence = .ok after) :
    Works before after := by
  rcases markInFlight_ok_iff.mp marked with ⟨committed, -, -, rfl⟩
  exact ⟨rfl, rfl, rfl, rfl, ended_of_committedOrInFlight committed,
    by cases before.activePhase <;> rfl⟩

theorem works_abortPrepared (aborted : before.abortPrepared planSequence = .ok after) :
    Works before after := by
  rcases abortPrepared_ok_iff.mp aborted with ⟨prepared, -, rfl⟩
  exact ⟨rfl, rfl, rfl, rfl, ended_of_prepared prepared, by cases before.activePhase <;> rfl⟩

theorem works_requestCancel (cancelled : before.requestCancel = .ok after) :
    Works before after := by
  rcases requestCancel_ok cancelled with ⟨live, calm, change⟩
  have unended : before.state.ended = false := by
    generalize before.state = state at live calm
    cases state with
    | draining => exact (calm rfl).elim
    | _ => exact live
  rcases change with ⟨-, rfl⟩ | ⟨-, rfl⟩
  · exact ⟨rfl, rfl, rfl, rfl, unended, unended⟩
  · exact ⟨rfl, rfl, rfl, rfl, unended, rfl⟩

end

end ControllerSequence

/-! ## Submissions -/

/-- A request as its submitter gave it. -/
structure Submission where
  requestGeneration : ℕ
  promptTokenIds : List ℕ
  maximumNewTokens : ℕ
  sampling : ControllerRequestSampling
deriving DecidableEq

namespace ControllerRuntime

/-- The request that a call submitted. -/
def submittedBy (entry : ControllerEntry) : Option Submission :=
  match entry.action.operation, entry.outcome with
  | .submitAdmit generation prompt maximum sampling, .command (.ok _) =>
    some ⟨generation, prompt, maximum, sampling⟩
  | _, _ => none

/-- The requests submitted in a history. -/
def submissions (history : ControllerHistory) : List Submission := history.filterMap submittedBy

@[simp]
theorem submissions_snoc (history : ControllerHistory) (entry : ControllerEntry) :
    submissions (history ++ [entry]) = submissions history ++ (submittedBy entry).toList :=
  filterMap_concat submittedBy entry

/-- A call whose result is not a command submits nothing. -/
theorem submittedBy_of_outcome (other : ∀ command, entry.outcome ≠ .command (.ok command)) :
    submittedBy entry = none := by
  unfold submittedBy
  split
  case h_1 told => exact (other _ told).elim
  · rfl

/-- The admissions that wait in the mailbox. -/
def queuedAdmissions (runtime : ControllerRuntime) : List ControllerCommand :=
  runtime.ingress.mailbox.queuedCommands.filter fun command => command.kind = .admission

theorem queuedAdmissions_of_commands {runtime next : ControllerRuntime} (commands :
      next.ingress.mailbox.commands = runtime.ingress.mailbox.commands) :
    next.queuedAdmissions = runtime.queuedAdmissions := by
  unfold queuedAdmissions ControllerMailbox.queuedCommands
  rw [commands]

theorem queuedAdmissions_of_queued {runtime next : ControllerRuntime} {command : ControllerCommand}
    (queued : runtime.ingress.mailbox.Queued next.ingress.mailbox command) :
    next.queuedAdmissions = runtime.queuedAdmissions ++
      [command].filter (fun command => command.kind = .admission) := by
  unfold queuedAdmissions
  rw [queued.commands, List.filter_append]

/-- Taking a command that is no admission leaves the admissions. -/
theorem queuedAdmissions_of_took {runtime next : ControllerRuntime}
    (took : Took thread runtime.ingress.mailbox command mailbox) (kind : command.kind ≠ .admission)
    (same : next.ingress.mailbox.commands = mailbox.commands) :
    next.queuedAdmissions = runtime.queuedAdmissions := by
  unfold queuedAdmissions
  rw [took.commands, List.filter_cons_of_neg (by simpa using kind)]
  unfold ControllerMailbox.queuedCommands
  rw [same]

/-! ## Silent calls -/

/-- The sequence in a slot was there before or works on. -/
inductive GoesOn (slots : List RuntimeSlot) (index : ℕ) (slot : RuntimeSlot)
    (sequence : ControllerSequence) : Prop where
  | same (holding : Holding slots index slot sequence)
  | works
      {old : RuntimeSlot} {before : ControllerSequence}
      (holding : Holding slots index old before)
      (slotEq : slot = { old with sequence := some sequence })
      (works : before.Works sequence)

theorem GoesOn.of_moves {slots : List RuntimeSlot} (moves :
      Moves (fun _ before after => before.Works after) slots after indices)
    {sequence : ControllerSequence} (holding : Holding after index slot sequence) :
    GoesOn slots index slot sequence := by
  rcases moves.backward holding with same | ⟨-, _, _, held, works, rfl⟩
  · exact .same same
  · exact .works held rfl works

/-- The call changed plan states at most, and published nothing. -/
structure Silent (runtime : ControllerRuntime) (call : ControllerCall)
    (next : ControllerRuntime) (outcome : ControllerOutcome) : Prop where
  slots : ∃ indices, Moves (fun _ before after => before.Works after) runtime.slots
      next.slots indices
  requests : next.ingress.requests = runtime.ingress.requests
  admissions : next.queuedAdmissions = runtime.queuedAdmissions
  published : publishedBy ⟨runtime, call, next, outcome⟩ = []
  completed : completedBy ⟨runtime, call, next, outcome⟩ = none
  submitted : submittedBy ⟨runtime, call, next, outcome⟩ = none
  active : next.activeSequenceCount = runtime.activeSequenceCount
  ready : next.state = .ready → runtime.state = .ready

namespace Silent

variable {next : ControllerRuntime}

theorem publishedBy_of_continues
    (continues : runtime.ingress.mailbox.Continues next.ingress.mailbox []) :
    publishedBy ⟨runtime, call, next, outcome⟩ = [] := by
  rcases continues.queuedEvents with ⟨_, grown, drafted⟩
  rw [List.map_eq_nil_iff] at drafted
  unfold publishedBy queuedEvents
  rw [grown, drafted, List.append_nil, List.drop_length]

/-- A call that leaves the table alone. -/
theorem frame (slots : next.slots = runtime.slots)
    (requests : next.ingress.requests = runtime.ingress.requests)
    (admissions : next.queuedAdmissions = runtime.queuedAdmissions)
    (published : publishedBy ⟨runtime, call, next, outcome⟩ = [])
    (completed : completedBy ⟨runtime, call, next, outcome⟩ = none)
    (submitted : submittedBy ⟨runtime, call, next, outcome⟩ = none)
    (active : next.activeSequenceCount = runtime.activeSequenceCount)
    (ready : next.state = .ready → runtime.state = .ready) :
    Silent runtime call next outcome where
  slots := by
    rw [slots]
    exact ⟨[], .refl _ _ _⟩
  requests := requests
  admissions := admissions
  published := published
  completed := completed
  submitted := submitted
  active := active
  ready := ready

/-- A call that moves members of the plan and leaves the mailbox alone. -/
theorem moved (moves : Moves change runtime.slots next.slots indices)
    (works : ∀ index before after, change index before after → before.Works after)
    (ingress : next.ingress = runtime.ingress)
    (completed : completedBy ⟨runtime, call, next, outcome⟩ = none)
    (submitted : submittedBy ⟨runtime, call, next, outcome⟩ = none)
    (active : next.activeSequenceCount = runtime.activeSequenceCount)
    (ready : next.state = .ready → runtime.state = .ready) :
    Silent runtime call next outcome where
  slots := ⟨indices, moves.weaken works⟩
  requests := by rw [ingress]
  admissions := queuedAdmissions_of_commands (by rw [ingress])
  published := publishedBy_of_continues (by rw [ingress]; exact continues_of_events rfl rfl)
  completed := completed
  submitted := submitted
  active := active
  ready := ready

/-- A command that is no admission was taken. -/
theorem took (steps : runtime.Steps call now command mailbox) (kind : command.kind ≠ .admission)
    (moves : Moves (fun _ before after => before.Works after) runtime.slots next.slots indices)
    (ingress : next.ingress = ⟨mailbox, runtime.ingress.requests⟩)
    (active : next.activeSequenceCount = runtime.activeSequenceCount) :
    Silent runtime call next (.step result) where
  slots := ⟨indices, moves⟩
  requests := by rw [ingress]
  admissions := queuedAdmissions_of_took steps.took kind (by rw [ingress])
  published := publishedBy_of_continues (by rw [ingress]; exact steps.took.continues)
  completed := (no_plan_of_outcome fun impossible => by cases impossible).1
  submitted := submittedBy_of_outcome nofun
  active := active
  ready := fun _ => steps.ready

end Silent

/-- A call is silent or concerns requests. -/
theorem Transition.silent_or_request {next : ControllerRuntime}
    (transition : Transition runtime call next outcome) :
    Silent runtime call next outcome ∨ RequestTransition runtime call next outcome := by
  cases transition with
  | request transition => exact .inr transition
  | quiet queues _ inert =>
    refine .inl (.frame rfl rfl (queuedAdmissions_of_commands queues.commands)
      (Silent.publishedBy_of_continues queues.continues) ?_ ?_ rfl id)
    · refine (no_plan_of_outcome ?_).1
      rintro rfl
      cases inert
    · apply submittedBy_of_outcome
      rintro _ rfl
      cases inert
  | foreign =>
    refine .inl (.frame rfl rfl rfl ?_ ?_ ?_ rfl not_ready)
    · exact Silent.publishedBy_of_continues (continues_of_events rfl rfl)
    · exact (no_plan_of_outcome fun impossible => by cases impossible).1
    · exact submittedBy_of_outcome nofun
  | cancelSubmitted operation _ queued value =>
    refine .inl (.frame rfl rfl ?_ ?_ ?_ ?_ rfl id)
    · rw [@queuedAdmissions_of_queued _ (runtime.withMailbox _) _ queued, value]
      exact List.append_nil _
    · exact Silent.publishedBy_of_continues queued.continues
    · exact (no_plan_of_outcome fun impossible => by cases impossible).1
    · unfold submittedBy
      rw [operation]
  | ignored steps kind | corrupted steps kind _ =>
    exact .inl (.took steps kind (.refl _ _ []) rfl rfl)
  | cancelRequested steps target =>
    refine .inl (.took steps ?_ (.single target.holding
      (works_requestCancel target.requested)) rfl rfl)
    rw [target.kind]
    exact nofun
  | prepared operation _ prepared =>
    refine .inl (.moved prepared.moves.toMoves ?_ rfl ?_ ?_ rfl id)
    · rintro _ _ _ ⟨_, _, _, done⟩
      exact works_prepare done
    all_goals simp only [completedBy, submittedBy, operation]
  | committed operation _ _ moves =>
    refine .inl (.moved moves.toMoves (fun _ _ _ => works_commit) rfl ?_ ?_ rfl id)
    all_goals simp only [completedBy, submittedBy, operation]
  | commitPartial operation _ _ moves =>
    refine .inl (.moved moves (fun _ _ _ => works_commit) rfl ?_ ?_ rfl not_ready)
    all_goals simp only [completedBy, submittedBy, operation]
  | marked operation _ moves =>
    refine .inl (.moved moves.toMoves (fun _ _ _ => works_markInFlight) rfl ?_ ?_ rfl id)
    all_goals simp only [completedBy, submittedBy, operation]
  | markPartial operation _ moves =>
    refine .inl (.moved moves (fun _ _ _ => works_markInFlight) rfl ?_ ?_ rfl not_ready)
    all_goals simp only [completedBy, submittedBy, operation]
  | aborted operation _ _ moves =>
    refine .inl (.moved moves.toMoves (fun _ _ _ => works_abortPrepared) rfl ?_ ?_ rfl id)
    all_goals simp only [completedBy, submittedBy, operation]
  | abortPartial operation _ moves =>
    refine .inl (.moved moves (fun _ _ _ => works_abortPrepared) rfl ?_ ?_ rfl not_ready)
    all_goals simp only [completedBy, submittedBy, operation]
  | acknowledged operation =>
    refine .inl (.frame rfl rfl rfl ?_ ?_ ?_ rfl id)
    · exact Silent.publishedBy_of_continues (continues_of_events rfl rfl)
    all_goals simp only [completedBy, submittedBy, operation]
  | @tookEvent event rest operation queue =>
    refine .inl (.frame rfl rfl rfl ?_ ?_ ?_ rfl id)
    · have takes : Takes ⟨runtime, call, runtime.withMailbox
          { runtime.ingress.mailbox with events := rest },
            .event (.ok _)⟩ event := ⟨rfl, queue, rfl⟩
      exact takes.publishedBy
    all_goals simp only [completedBy, submittedBy, operation]

end ControllerRuntime

end Pih
