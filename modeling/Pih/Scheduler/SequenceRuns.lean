import Pih.Scheduler.SequenceLedger
import Pih.Library.Runs

/-!
# Runs of a controller sequence

Any calls, in any order and with any arguments, from an admitted sequence.
The ledger equation holds throughout, a plan is active exactly in the states
of a plan and in a cancellation that was requested in one of them, and a
sequence that was ever cancelled does not complete.
-/

namespace Pih.ControllerSequence

open Result

open ControllerSequenceState

/-- A call on a sequence. -/
inductive Call where
  | prepare (planSequence : ℕ) (phase : PackedTokenPhase) (count : ℕ)
  | commit (planSequence : ℕ)
  | markInFlight (planSequence : ℕ)
  | abortPrepared (planSequence : ℕ)
  | complete (completion : ControllerPlanCompletion)
  | requestCancel
  | beginDraining
  | finishCancel
  | finishDrain
  | fail
deriving DecidableEq

def Call.completes : Call → Bool
  | .complete _ => true
  | _ => false

/-- Make the call. -/
def attempt (sequence : ControllerSequence) : Call → Result ControllerSequence
  | .prepare planSequence phase count => sequence.prepare planSequence phase count
  | .commit planSequence => sequence.commit planSequence
  | .markInFlight planSequence => sequence.markInFlight planSequence
  | .abortPrepared planSequence => sequence.abortPrepared planSequence
  | .complete completion => sequence.complete completion
  | .requestCancel => sequence.requestCancel
  | .beginDraining => sequence.beginDraining
  | .finishCancel => sequence.finishCancel
  | .finishDrain => sequence.finishDrain
  | .fail => sequence.fail

/-- A refused call leaves the sequence as it is. -/
def execute (sequence : ControllerSequence) (call : Call) : ControllerSequence × Result Unit :=
  match sequence.attempt call with
  | .ok next => (next, .ok ())
  | .error status => (sequence, .error status)

abbrev SequenceEntry := Entry ControllerSequence Call (Result Unit)

/-- The call was accepted. -/
def accepted (entry : SequenceEntry) (call : Call) : Bool :=
  entry.action = call && isOk entry.outcome

/-- The call moved the sequence to `cancelRequested`. -/
def cancels (entry : SequenceEntry) : Bool := entry.before.state ≠ .cancelRequested &&
    entry.after.state = .cancelRequested

/-- The state in which the cancellation was requested. -/
def cancelledFrom (history : List SequenceEntry) : Option ControllerSequenceState :=
  (history.filter cancels).getLast?.map fun entry => entry.before.state

/-- The states of a plan. -/
def planned (state : ControllerSequenceState) : Bool := state.prepared || state.committedOrInFlight

/-! ## The invariant -/

structure Kept (sequence : ControllerSequence) : Prop where
  balanced : Balanced sequence.promptTokenCount sequence.modelProcessedLength
    sequence.acceptedCompletionCount
  active : sequence.activePlanSequence ≠ 0 ↔ planned sequence.state = true ∨
      sequence.state = .cancelRequested ∧ planned sequence.stateBeforeCancel = true
  flagged : sequence.state = .cancelRequested → sequence.drainIsCancel = true
  unfinished : sequence.drainIsCancel = true → sequence.state ≠ .completed

variable {sequence next : ControllerSequence} {call : Call}

theorem planned_plan : planned (preparedState phase) = true ∧
      planned (committedState phase) = true ∧
      planned (inflightState phase) = true := by
  cases phase <;> decide

theorem ne_of_planned {state : ControllerSequenceState} (inside : planned state = true) :
    state ≠ .cancelRequested ∧ state ≠ .completed := by
  cases state <;> simp_all [planned, prepared, committedOrInFlight]

/-- A sequence whose state becomes one of its active plan. -/
theorem Kept.plan (kept : sequence.Kept) {plan : ℕ}
    {state : ControllerSequenceState} (active : plan ≠ 0) (inside : planned state = true) :
    { sequence with
      activePlanSequence := plan
      activeRealTokenCount := count
      activePhase := phase
      state }.Kept where
  balanced := kept.balanced
  active := by simp [active, inside]
  flagged := fun cancelled => ((ne_of_planned inside).1 cancelled).elim
  unfinished := fun _ => (ne_of_planned inside).2

/-- A sequence without a plan, outside a requested cancellation. -/
theorem Kept.of_idle (balanced : Balanced next.promptTokenCount next.modelProcessedLength
      next.acceptedCompletionCount) (idle : next.activePlanSequence = 0)
    (outside : planned next.state = false) (calm : next.state ≠ .cancelRequested)
    (unfinished : next.state ≠ .completed) : next.Kept where
  balanced := balanced
  active := by simp [idle, outside, calm]
  flagged := fun cancelled => (calm cancelled).elim
  unfinished := fun _ => unfinished

theorem Kept.attempt (kept : sequence.Kept)
    (done : sequence.attempt call = .ok next) : next.Kept := by
  cases call with
  | prepare =>
    rcases prepare_ok done with ⟨-, plan, -, -, -, -, rfl⟩
    exact kept.plan plan planned_plan.1
  | commit =>
    rcases commit_ok_iff.mp done with ⟨prepared, -, rfl⟩
    refine kept.plan (kept.active.mpr (.inl ?_)) planned_plan.2.1
    simp [planned, prepared]
  | markInFlight =>
    rcases markInFlight_ok_iff.mp done with ⟨committed, -, -, rfl⟩
    refine kept.plan (kept.active.mpr (.inl ?_)) planned_plan.2.2
    simp [planned, committed]
  | abortPrepared =>
    rcases abortPrepared_ok_iff.mp done with ⟨-, -, rfl⟩
    rcases boundaryState_cases sequence.activePhase with ⟨-, same⟩ | ⟨-, same⟩ <;> rw [same] <;>
      exact .of_idle kept.balanced rfl rfl (by simp) (by simp)
  | complete completion =>
    rcases complete_ok done with ⟨completes, rfl⟩
    unfold completedWith
    rcases sequence.completedState_cases completion with
      same | ⟨-, ⟨same, -⟩ | ⟨same, -⟩⟩ <;> rw [same] <;>
      exact .of_idle completes.ledger rfl rfl (by simp) (by simp)
  | requestCancel =>
    rcases requestCancel_ok done with ⟨-, -, ⟨-, rfl⟩ | ⟨calm, rfl⟩⟩
    · exact kept
    constructor
    · exact kept.balanced
    · have outside : planned .cancelRequested = false := rfl
      simpa [calm, outside] using kept.active
    · exact fun _ => rfl
    · simp
  | beginDraining =>
    rcases beginDraining_ok done with ⟨-, rfl⟩
    exact .of_idle kept.balanced rfl rfl (by simp) (by simp)
  | finishCancel =>
    rcases guard_eq_ok.mp done with ⟨guard, rfl⟩
    refine { kept with active := ?_, flagged := by simp, unfinished := by simp }
    have active := kept.active
    simp_all [planned, prepared, committedOrInFlight]
  | finishDrain =>
    rcases guard_eq_ok.mp done with ⟨guard, rfl⟩
    refine { kept with active := ?_, flagged := by simp, unfinished := ?_ }
    · have active := kept.active
      simp_all [planned, prepared, committedOrInFlight]
    · exact fun drains => (guard (.inr drains)).elim
  | fail =>
    rcases guard_eq_ok.mp done with ⟨-, rfl⟩
    exact .of_idle kept.balanced rfl rfl (by simp) (by simp)

/-! ## What a call leaves alone -/

/-- What an accepted call does beside keeping the invariant. -/
structure Moves (sequence : ControllerSequence) (call : Call)
    (next : ControllerSequence) : Prop where
  prompt : next.promptTokenCount = sequence.promptTokenCount
  newer : call.completes = true → sequence.stateGeneration < next.stateGeneration
  same : call.completes = false → next.stateGeneration = sequence.stateGeneration
  flag : sequence.drainIsCancel = true → next.drainIsCancel = true
  cancelled : call = .requestCancel → next.drainIsCancel = true ∨ sequence.state = .cancelRequested
  before : next.state = .cancelRequested → next.stateBeforeCancel =
      if sequence.state = .cancelRequested then sequence.stateBeforeCancel
      else sequence.state
  opened : sequence.state ≠ .completed

theorem attempt_moves (done : sequence.attempt call = .ok next) : Moves sequence call next := by
  cases call with
  | prepare _ phase =>
    rcases prepare_ok done with ⟨ready, -, -, -, -, -, rfl⟩
    simp only [readyFor] at ready
    constructor <;> cases phase <;> simp_all [Call.completes, preparedState]
    grind
  | commit =>
    rcases commit_ok_iff.mp done with ⟨prepared, -, rfl⟩
    constructor <;> cases sequence.activePhase <;> simp_all [Call.completes, committedState] <;>
      grind [prepared]
  | markInFlight =>
    rcases markInFlight_ok_iff.mp done with ⟨_, -, -, rfl⟩
    constructor <;> cases sequence.activePhase <;> simp_all [Call.completes, inflightState] <;>
      grind [committedOrInFlight]
  | abortPrepared =>
    rcases abortPrepared_ok_iff.mp done with ⟨prepared, -, rfl⟩
    have boundary := boundaryState_cases sequence.activePhase
    constructor <;> simp_all [Call.completes] <;> grind [prepared]
  | complete completion =>
    rcases complete_ok done with ⟨completes, rfl⟩
    have state := sequence.completedState_cases completion
    have newer := completes.newer
    have opened : sequence.state ≠ .completed := by
      rcases completes.flying with flying | cancelled
      · rw [flying]
        exact (ne_of_planned planned_plan.2.2).2
      simp only [cancelledCommitted, decide_eq_true_eq] at cancelled
      simp [cancelled.1]
    constructor <;> simp_all [Call.completes]
    grind
  | requestCancel =>
    rcases requestCancel_ok done with ⟨_, -, ⟨held, rfl⟩ | ⟨_, rfl⟩⟩
    · constructor <;> simp_all [Call.completes]
    · constructor <;> simp_all [Call.completes]
      grind [terminal]
  | beginDraining =>
    rcases beginDraining_ok done with ⟨_, rfl⟩
    constructor <;> simp_all [Call.completes]
  | finishCancel | finishDrain =>
    rcases guard_eq_ok.mp done with ⟨guard, rfl⟩
    constructor <;> simp_all [Call.completes]
  | fail =>
    rcases guard_eq_ok.mp done with ⟨_, rfl⟩
    constructor <;> simp_all [Call.completes, clearPlan]
    grind [terminal]

/-! ## Runs -/

theorem execute_cases (sequence : ControllerSequence) (call : Call) :
    (∃ status, sequence.execute call = (sequence, .error status)) ∨
      ∃ next, sequence.attempt call = .ok next ∧ sequence.execute call = (next, .ok ()) := by
  unfold execute
  cases sequence.attempt call with
  | ok next => exact .inr ⟨next, rfl, rfl⟩
  | error status => exact .inl ⟨status, rfl⟩

/--
A completion makes the state generation grow, every other call keeps it, and
a refused call changes nothing.
-/
structure Recorded (entry : SequenceEntry) : Prop where
  newer : entry.action.completes = true → isOk entry.outcome = true →
    entry.before.stateGeneration < entry.after.stateGeneration
  same : ¬ (entry.action.completes = true ∧ isOk entry.outcome = true) →
    entry.after.stateGeneration = entry.before.stateGeneration
  refused : isOk entry.outcome = false → entry.after = entry.before

/-- What the entries of a run say about the state that it reached. -/
structure Recalled (prompt : ℕ) (history : List SequenceEntry)
    (sequence : ControllerSequence) : Prop where
  kept : sequence.Kept
  prompt : sequence.promptTokenCount = prompt
  recorded : ∀ entry ∈ history, Recorded entry
  from_ : sequence.state = .cancelRequested →
      cancelledFrom history = some sequence.stateBeforeCancel
  absorbing : (∃ entry ∈ history, entry.after.state = .completed) → sequence.state = .completed
  flagged : (∃ entry ∈ history, accepted entry .requestCancel = true) →
      sequence.drainIsCancel = true

theorem cancelledFrom_snoc (history : List SequenceEntry) (entry : SequenceEntry) :
    cancelledFrom (history ++ [entry]) =
      if cancels entry then some entry.before.state
      else cancelledFrom history := by
  unfold cancelledFrom
  split
  case isTrue moved => simp [moved]
  case isFalse stays => simp [stays]

variable {prompt : ℕ} {history : List SequenceEntry}

theorem Recalled.step (recalled : Recalled prompt history sequence) (call : Call) :
    Recalled prompt (history ++ [.of execute sequence call]) (sequence.execute call).1 := by
  rcases recalled with ⟨kept, rfl, recorded, from_, absorbing, flagged⟩
  have later := cancelledFrom_snoc history (.of execute sequence call)
  rcases sequence.execute_cases call with ⟨_, refused⟩ | ⟨_, done, executed⟩
  · simp only [Entry.of, refused] at later ⊢
    constructor
    · exact kept
    · rfl
    · intro entry member
      rcases List.mem_append.mp member with earlier | last
      · exact recorded entry earlier
      cases List.mem_singleton.mp last
      constructor <;> simp [isOk]
    · intro cancelled
      rw [later, if_neg (by simp [cancels])]
      exact from_ cancelled
    · simpa [or_imp, or_and_right, exists_or] using absorbing
    · simpa [accepted, or_and_right, exists_or] using flagged
  have moves := attempt_moves done
  simp only [Entry.of, executed] at later ⊢
  constructor
  · exact kept.attempt done
  · exact moves.prompt
  · intro entry member
    rcases List.mem_append.mp member with earlier | last
    · exact recorded entry earlier
    cases List.mem_singleton.mp last
    constructor
    · exact fun completes _ => moves.newer completes
    · simpa [isOk] using moves.same
    · simp [isOk]
  · intro cancelled
    rw [later, moves.before cancelled]
    by_cases held : sequence.state = .cancelRequested
    · simp [cancels, held, from_ held]
    · simp [cancels, held, cancelled]
  · rintro ⟨entry, member, completed⟩
    rcases List.mem_append.mp member with earlier | last
    · exact (moves.opened (absorbing ⟨entry, earlier, completed⟩)).elim
    cases List.mem_singleton.mp last
    exact completed
  · rintro ⟨entry, member, cancelled⟩
    rcases List.mem_append.mp member with earlier | last
    · exact moves.flag (flagged ⟨entry, earlier, cancelled⟩)
    cases List.mem_singleton.mp last
    simp only [accepted, isOk, Bool.and_true, decide_eq_true_eq] at cancelled
    rcases moves.cancelled cancelled with flag | held
    · exact flag
    · exact moves.flag (kept.flagged held)

theorem recalled_of_run {stateGeneration : ℕ}
    (admitted : admitSequence generation prompt stateGeneration = .ok start)
    (run : Run execute allowed start history sequence) : Recalled prompt history sequence := by
  refine run.invariant _ ?_ ?_
  · rcases guard_eq_ok.mp admitted with ⟨identity, rfl⟩
    simp only [not_or] at identity
    constructor
    · constructor
      · exact .inl ⟨rfl, Nat.pos_of_ne_zero identity.2.1⟩
      · simp [planned, prepared, committedOrInFlight]
      · simp
      · simp
    · rfl
    all_goals simp
  · intro history sequence call _ recalled _
    exact recalled.step call

/--
In every run from an admitted sequence the ledger equation holds, the state
generation grows with each completion and only then, a plan is active exactly
in the states of a plan and in a cancellation requested in one of them, a
sequence that is ever cancelled is never completed, and a refused call
changes nothing.
-/
theorem sequence_ledger_invariant {generation stateGeneration : ℕ} {start : ControllerSequence}
    (admitted : admitSequence generation prompt stateGeneration = .ok start)
    (run : Run execute (fun _ _ _ => True) start history sequence) :
    (sequence.acceptedCompletionCount = 0 → sequence.modelProcessedLength < prompt) ∧
    (0 < sequence.acceptedCompletionCount → sequence.modelProcessedLength =
        prompt + sequence.acceptedCompletionCount - 1) ∧ (∀ entry ∈ history, Recorded entry) ∧
    (sequence.hasActivePlan = true ↔ planned sequence.state = true ∨
        sequence.state = .cancelRequested ∧ (cancelledFrom history).any planned = true) ∧
    ((∃ entry ∈ history, accepted entry .requestCancel = true) →
      ∀ entry ∈ history, entry.after.state ≠ .completed) := by
  have recalled := recalled_of_run admitted run
  have balanced := recalled.kept.balanced
  rw [recalled.prompt] at balanced
  unfold Balanced at balanced
  refine ⟨by omega, by omega, recalled.recorded, ?_, ?_⟩
  · have active := recalled.kept.active
    by_cases held : sequence.state = .cancelRequested
    · simpa [hasActivePlan, recalled.from_ held] using active
    · simpa [hasActivePlan, held] using active
  · intro cancelled entry member completed
    exact recalled.kept.unfinished (recalled.flagged cancelled)
      (recalled.absorbing ⟨entry, member, completed⟩)

/-- A sequence whose prefill plan is cancelled in flight and then drains. -/
theorem sequence_ledger_invariant_cancelled : ∃ start history sequence,
      admitSequence 7 2 1 = .ok start ∧ Run execute (fun _ _ _ => True) start history sequence ∧
        sequence.state = .cancelled ∧
        ∀ entry ∈ history, entry.after.state ≠ .completed := by
  let start : ControllerSequence :=
    { sequenceGeneration := 7, promptTokenCount := 2, stateGeneration := 1 }
  let script : List (ControllerSequence → Call) :=
    [fun _ => .prepare 5 .prefill 2, fun _ => .commit 5,
      fun _ => .markInFlight 5, fun _ => .requestCancel,
      fun _ => .complete ⟨5, 7, 2, 1, 2, .decode, false⟩, fun _ => .finishCancel]
  have run := Run.runScript (Run.start : Run execute (fun _ _ _ => True) start [] _)
      script (.unrestricted script)
  have admitted : admitSequence 7 2 1 = .ok start := by decide +kernel
  refine ⟨start, _, _, admitted, run, by decide +kernel, ?_⟩
  refine (sequence_ledger_invariant admitted run).2.2.2.2 ?_
  decide +kernel

end Pih.ControllerSequence
