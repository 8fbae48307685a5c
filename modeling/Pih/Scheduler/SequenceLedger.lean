import Pih.Scheduler.ControllerSequence
import Mathlib.Tactic.ByContra

/-!
# The ledger of a controller sequence

What each operation of a sequence does when it succeeds, and the invariant
that they all keep: the processed and accepted counts satisfy the ledger
equation, and a plan is active exactly while the state says so.
-/

namespace Pih.ControllerSequence

open Result

open ControllerSequenceState

/-! ## What the operations do -/

variable {sequence next : ControllerSequence}
  {completion : ControllerPlanCompletion}

theorem prepare_ok (prepared : sequence.prepare planSequence phase count = .ok next) :
    sequence.readyFor phase = true ∧ planSequence ≠ 0 ∧ count ≠ 0 ∧
      sequence.activePlanSequence = 0 ∧
      (phase = .prefill → sequence.modelProcessedLength + count ≤ sequence.promptTokenCount) ∧
      (phase = .decode → count = 1) ∧
      next = { sequence with
        activePlanSequence := planSequence
        activeRealTokenCount := count
        activePhase := phase
        state := preparedState phase } := by
  rcases Result.else_eq_ok.mp prepared with ⟨guard, prepared⟩
  simp only [not_or, not_not] at guard
  rcases guard with ⟨ready, plan, tokens, inactive⟩
  cases phase with
  | prefill =>
    dsimp only at prepared
    split at prepared
    · cases prepared
    rename_i added
    rcases guard_eq_ok.mp prepared with ⟨fits, rfl⟩
    rw [checkedAddU64_ok added] at fits
    exact ⟨ready, plan, tokens, inactive, fun _ => Nat.le_of_not_lt fits, nofun, rfl⟩
  | decode =>
    rcases guard_eq_ok.mp prepared with ⟨single, rfl⟩
    exact ⟨ready, plan, tokens, inactive, nofun, fun _ => not_not.mp single, rfl⟩
  | verify =>
    rcases guard_eq_ok.mp prepared with ⟨-, rfl⟩
    exact ⟨ready, plan, tokens, inactive, nofun, nofun, rfl⟩

theorem commit_ok_iff {sequence next : ControllerSequence} :
    sequence.commit planSequence = .ok next ↔ sequence.state.prepared = true ∧
      planSequence = sequence.activePlanSequence ∧
      next = { sequence with state := committedState sequence.activePhase } := by
  simp [commit, guard_eq_ok, and_assoc]

theorem markInFlight_ok_iff {sequence next : ControllerSequence} :
    sequence.markInFlight planSequence = .ok next ↔ sequence.state.committedOrInFlight = true ∧
      sequence.state ≠ inflightState sequence.activePhase ∧
      planSequence = sequence.activePlanSequence ∧
      next = { sequence with state := inflightState sequence.activePhase } := by
  simp [markInFlight, guard_eq_ok, and_assoc]

/-- The boundary that an aborted plan returns its sequence to. -/
def boundaryState (phase : PackedTokenPhase) : ControllerSequenceState :=
  if phase = .prefill then .queuedPrefill else .readyDecode

theorem boundaryState_cases (phase : PackedTokenPhase) :
    phase = .prefill ∧ boundaryState phase = .queuedPrefill ∨
      phase ≠ .prefill ∧ boundaryState phase = .readyDecode := by
  unfold boundaryState
  split <;> simp_all

theorem abortPrepared_ok_iff {sequence next : ControllerSequence} :
    sequence.abortPrepared planSequence = .ok next ↔ sequence.state.prepared = true ∧
      planSequence = sequence.activePlanSequence ∧
      next = { sequence with
        activePlanSequence := 0
        activeRealTokenCount := 0
        state := boundaryState sequence.activePhase } := by
  simp [abortPrepared, guard_eq_ok, and_assoc, clearPlan, boundaryState]

/-- The facts that a successful validation establishes. -/
structure Completes (sequence : ControllerSequence)
    (completion : ControllerPlanCompletion) : Prop where
  flying : sequence.state = inflightState sequence.activePhase ∨ sequence.cancelledCommitted = true
  plan : completion.planSequence = sequence.activePlanSequence
  generation : completion.sequenceGeneration = sequence.sequenceGeneration
  newer : sequence.stateGeneration < completion.stateGeneration
  longer : sequence.modelProcessedLength ≤ completion.committedModelProcessedLength
  more : sequence.acceptedCompletionCount ≤ completion.acceptedCompletionCount
  phase : completion.nextDecodePhase ≠ .prefill
  cut : sequence.activePhase = .prefill → completion.committedModelProcessedLength =
          sequence.modelProcessedLength + sequence.activeRealTokenCount ∧
        completion.committedModelProcessedLength ≤ sequence.promptTokenCount
  cutDecode : completion.committedModelProcessedLength ≤
      sequence.modelProcessedLength + sequence.activeRealTokenCount
  ledger : (completion.acceptedCompletionCount = 0 ∧ completion.committedModelProcessedLength <
          sequence.promptTokenCount) ∨
      (completion.acceptedCompletionCount ≠ 0 ∧ completion.committedModelProcessedLength + 1 =
          sequence.promptTokenCount + completion.acceptedCompletionCount)

theorem completionCut_ok (checked : sequence.completionCut completion = .ok ()) :
    (sequence.activePhase = .prefill → completion.committedModelProcessedLength =
          sequence.modelProcessedLength + sequence.activeRealTokenCount ∧
        completion.committedModelProcessedLength ≤ sequence.promptTokenCount) ∧
    completion.committedModelProcessedLength ≤
      sequence.modelProcessedLength + sequence.activeRealTokenCount := by
  unfold completionCut at checked
  split at checked
  · split at checked <;> cases checked
  rename_i added
  have total := checkedAddU64_ok added
  split at checked
  case isTrue prefill =>
    have valid := (guard_eq_ok.mp checked).1
    simp only [not_or, not_not, Nat.not_lt] at valid
    rw [← total, valid.1]
    exact ⟨fun _ => ⟨rfl, valid.2⟩, Nat.le_refl _⟩
  rename_i other
  have bounded := (guard_eq_ok.mp checked).1
  exact ⟨fun prefill => (other prefill).elim, by omega⟩

theorem completionLedger_ok (checked : sequence.completionLedger completion = .ok ()) :
    (completion.acceptedCompletionCount = 0 ∧
        completion.committedModelProcessedLength < sequence.promptTokenCount) ∨
      (completion.acceptedCompletionCount ≠ 0 ∧ completion.committedModelProcessedLength + 1 =
          sequence.promptTokenCount + completion.acceptedCompletionCount) := by
  unfold completionLedger at checked
  split at checked
  case isTrue accepted =>
    split at checked
    · cases checked
    case h_2 added =>
      have total := checkedAddU64_ok added
      have equation := (guard_eq_ok.mp checked).1
      exact .inr ⟨accepted, by omega⟩
  case isFalse none =>
    have short := (guard_eq_ok.mp checked).1
    exact .inl ⟨not_not.mp none, Nat.lt_of_not_le short⟩

theorem validateCompletion_ok (validated : sequence.validateCompletion completion = .ok ()) :
    Completes sequence completion := by
  unfold validateCompletion at validated
  split at validated
  · cases validated
  rename_i identity
  split at validated
  · cases validated
  rename_i cut
  have identity := not_not.mp identity
  simp only [completionIdentity, decide_eq_true_eq, not_or, not_and,
    not_not, Nat.not_lt, Nat.not_le] at identity
  rcases identity with ⟨flying, plan, generation, newer, longer, more, phase⟩
  refine ⟨or_iff_not_imp_left.mpr flying, plan, generation, newer, longer,
    more, ?_, (completionCut_ok cut).1, (completionCut_ok cut).2, completionLedger_ok validated⟩
  intro prefill
  simp [prefill] at phase

theorem completedState_cases (sequence : ControllerSequence)
    (completion : ControllerPlanCompletion) :
    sequence.completedState completion = .draining ∨ sequence.state ≠ .cancelRequested ∧
      (sequence.completedState completion = .queuedPrefill ∧
          completion.committedModelProcessedLength < sequence.promptTokenCount ∨
        sequence.completedState completion = .readyDecode ∧
          ¬ completion.committedModelProcessedLength < sequence.promptTokenCount) := by
  unfold completedState
  split
  · exact .inl rfl
  split
  · exact .inl rfl
  split <;> simp_all

/-- The sequence after a completion. -/
abbrev completedWith (sequence : ControllerSequence) (completion : ControllerPlanCompletion) :
    ControllerSequence :=
  { sequence with
    activePlanSequence := 0
    activeRealTokenCount := 0
    modelProcessedLength := completion.committedModelProcessedLength
    acceptedCompletionCount := completion.acceptedCompletionCount
    stateGeneration := completion.stateGeneration
    nextDecodePhase := completion.nextDecodePhase
    state := sequence.completedState completion }

theorem complete_ok (completed : sequence.complete completion = .ok next) :
    Completes sequence completion ∧ next = sequence.completedWith completion := by
  unfold complete at completed
  split at completed
  · cases completed
  case h_2 validated => exact ⟨validateCompletion_ok validated, (Except.ok.inj completed).symm⟩

/-- A validated completion applies. -/
theorem complete_of_validate (validated : sequence.validateCompletion completion = .ok ()) :
    sequence.complete completion = .ok (sequence.completedWith completion) := by
  simp only [complete, validated, clearPlan]

theorem requestCancel_ok (cancelled : sequence.requestCancel = .ok next) :
    sequence.state.terminal = false ∧ sequence.state ≠ .draining ∧
      ((sequence.state = .cancelRequested ∧ next = sequence) ∨ (sequence.state ≠ .cancelRequested ∧
        next = { sequence with
          stateBeforeCancel := sequence.state
          drainIsCancel := true
          state := .cancelRequested })) := by
  rcases Result.else_eq_ok.mp cancelled with ⟨live, cancelled⟩
  simp only [not_or, Bool.not_eq_true] at live
  split at cancelled
  case isTrue already => exact ⟨live.1, live.2, .inl ⟨already, (Except.ok.inj cancelled).symm⟩⟩
  rename_i fresh
  exact ⟨live.1, live.2, .inr ⟨fresh, (Except.ok.inj cancelled).symm⟩⟩

theorem beginDraining_ok (draining : sequence.beginDraining = .ok next) :
    sequence.state = .cancelRequested ∧
      next = { sequence with
        activePlanSequence := 0
        activeRealTokenCount := 0
        state := .draining } := by
  rcases guard_eq_ok.mp draining with ⟨guard, rfl⟩
  simp only [not_or, not_not] at guard
  exact ⟨guard.1, rfl⟩

/-- Without an active plan a cancelled sequence starts to drain. -/
theorem beginDraining_of_idle (cancelled : sequence.state = .cancelRequested)
    (idle : sequence.activePlanSequence = 0) : ∃ next, sequence.beginDraining = .ok next := by
  simp [beginDraining, cancelled, idle]

/-! ## The invariant -/

/-- The states of a plan in the given phase. -/
def InPlan (phase : PackedTokenPhase) (state : ControllerSequenceState) : Prop :=
  state = preparedState phase ∨ state = committedState phase ∨ state = inflightState phase

/-- A state that is not reached through a plan. -/
def OffPlan (state : ControllerSequenceState) : Prop :=
  state.prepared = false ∧ state.committedOrInFlight = false

theorem InPlan.not_offPlan {state : ControllerSequenceState}
    (inside : InPlan phase state) : ¬ OffPlan state := by
  rcases inside with rfl | rfl | rfl <;> cases phase <;>
    simp [OffPlan, preparedState, committedState, inflightState, ControllerSequenceState.prepared,
      ControllerSequenceState.committedOrInFlight]

/-- The ledger equation between prompt, processed and accepted tokens. -/
def Balanced (prompt processed accepted : ℕ) : Prop := (accepted = 0 ∧ processed < prompt) ∨
    (accepted ≠ 0 ∧ processed + 1 = prompt + accepted)

/-- What the active plan of a sequence does to it. -/
structure Work (sequence : ControllerSequence) : Prop where
  tokens : sequence.activeRealTokenCount ≠ 0
  state : InPlan sequence.activePhase sequence.state ∨ (sequence.state = .cancelRequested ∧
    InPlan sequence.activePhase sequence.stateBeforeCancel)
  prefill : sequence.activePhase = .prefill → sequence.acceptedCompletionCount = 0 ∧
    sequence.modelProcessedLength + sequence.activeRealTokenCount ≤ sequence.promptTokenCount
  decode : sequence.activePhase ≠ .prefill → sequence.acceptedCompletionCount ≠ 0
  single : sequence.activePhase = .decode → sequence.activeRealTokenCount = 1

/-- The state of a sequence without an active plan. -/
structure Rest (sequence : ControllerSequence) : Prop where
  offPlan : OffPlan sequence.state
  queued : sequence.state = .queuedPrefill → sequence.acceptedCompletionCount = 0
  ready : sequence.state = .readyDecode → sequence.acceptedCompletionCount ≠ 0

/-- The invariant of a sequence. -/
structure Sound (sequence : ControllerSequence) : Prop where
  generation : sequence.sequenceGeneration ≠ 0
  prompt : sequence.promptTokenCount ≠ 0
  small : sequence.promptTokenCount ≤ u64Max
  balanced : Balanced sequence.promptTokenCount sequence.modelProcessedLength
    sequence.acceptedCompletionCount
  nextPhase : sequence.nextDecodePhase ≠ .prefill
  work : sequence.activePlanSequence ≠ 0 → Work sequence
  rest : sequence.activePlanSequence = 0 → Rest sequence
  cancelFlag : sequence.drainIsCancel = true →
    sequence.state = .cancelRequested ∨ sequence.state = .draining ∨ sequence.state = .cancelled
  flagged : sequence.state = .cancelRequested ∨ sequence.state = .cancelled →
    sequence.drainIsCancel = true

theorem admitSequence_sound {stateGeneration : ℕ} (small : prompt ≤ u64Max)
    (admitted : admitSequence generation prompt stateGeneration = .ok sequence) :
    sequence.Sound ∧ sequence =
      { sequenceGeneration := generation, promptTokenCount := prompt, stateGeneration } := by
  rcases guard_eq_ok.mp admitted with ⟨identity, rfl⟩
  simp only [not_or] at identity
  refine ⟨?_, rfl⟩
  exact
    { generation := identity.1
      prompt := identity.2.1
      small
      balanced := .inl ⟨rfl, Nat.pos_of_ne_zero identity.2.1⟩
      nextPhase := nofun
      work := fun active => (active rfl).elim
      rest := fun _ => ⟨⟨rfl, rfl⟩, fun _ => rfl, nofun⟩
      cancelFlag := nofun
      flagged := by simp }

/-- A sequence of a plan that has not been cancelled. -/
theorem Work.of_state (work : Work sequence) (calm : sequence.state ≠ .cancelRequested) :
    InPlan sequence.activePhase sequence.state := by
  rcases work.state with inside | ⟨cancelled, -⟩
  · exact inside
  · exact (calm cancelled).elim

variable (sound : sequence.Sound)

include sound

theorem Sound.active_of_prepared (prepared : sequence.state.prepared = true) :
    sequence.activePlanSequence ≠ 0 := by
  intro idle
  have off := (sound.rest idle).offPlan.1
  rw [prepared] at off
  cases off

theorem Sound.active_of_committedOrInFlight
    (committed : sequence.state.committedOrInFlight = true) : sequence.activePlanSequence ≠ 0 := by
  intro idle
  have off := (sound.rest idle).offPlan.2
  rw [committed] at off
  cases off

theorem Sound.prepare (prepared : sequence.prepare planSequence phase count = .ok next) :
    next.Sound := by
  rcases prepare_ok prepared with ⟨ready, plan, tokens, inactive, prefill, decode, rfl⟩
  have rest := sound.rest inactive
  simp only [readyFor, decide_eq_true_eq] at ready
  have quiet : sequence.drainIsCancel = false := by
    by_contra flag
    have flagged := sound.cancelFlag (by simpa using flag)
    rcases ready with ⟨state, -⟩ | ⟨state, -⟩ <;> simp [state] at flagged
  exact
    { sound with
      work := fun _ =>
        { tokens
          state := .inl (.inl rfl)
          prefill := by
            intro isPrefill
            rcases ready with ⟨state, -⟩ | ⟨-, same⟩
            · exact ⟨rest.queued state, prefill isPrefill⟩
            · exact (sound.nextPhase (same.symm.trans isPrefill)).elim
          decode := by
            intro notPrefill
            rcases ready with ⟨-, isPrefill⟩ | ⟨state, -⟩
            · exact (notPrefill isPrefill).elim
            · exact rest.ready state
          single := decode }
      rest := fun idle => (plan idle).elim
      cancelFlag := fun flag => by
        rw [quiet] at flag
        cases flag
      flagged := fun flag => by
        cases phase <;> simp [preparedState] at flag }

/-- A move between the states of one plan keeps the invariant. -/
theorem Sound.move (active : sequence.activePlanSequence ≠ 0)
    (calm : sequence.state ≠ .cancelRequested) {state : ControllerSequenceState}
    (inside : InPlan sequence.activePhase state) : { sequence with state }.Sound := by
  have work := sound.work active
  have planned := work.of_state calm
  have quiet : sequence.drainIsCancel = false := by
    by_contra flag
    rcases sound.cancelFlag (by simpa using flag) with other | other | other
    · exact calm other
    all_goals
      rw [other] at planned
      exact planned.not_offPlan ⟨rfl, rfl⟩
  exact
    { sound with
      work := fun _ => { work with state := .inl inside }
      rest := fun idle => (active idle).elim
      cancelFlag := fun flag => by
        rw [quiet] at flag
        cases flag
      flagged := fun flag => by
        refine (inside.not_offPlan ?_).elim
        rcases flag with rfl | rfl <;> exact ⟨rfl, rfl⟩ }

theorem Sound.commit (committed : sequence.commit planSequence = .ok next) : next.Sound := by
  rcases commit_ok_iff.mp committed with ⟨prepared, -, rfl⟩
  refine sound.move (sound.active_of_prepared prepared) ?_ (.inr (.inl rfl))
  intro cancelled
  rw [cancelled] at prepared
  cases prepared

theorem Sound.markInFlight (marked : sequence.markInFlight planSequence = .ok next) :
    next.Sound := by
  rcases markInFlight_ok_iff.mp marked with ⟨committed, -, -, rfl⟩
  refine sound.move (sound.active_of_committedOrInFlight committed) ?_ (.inr (.inr rfl))
  intro cancelled
  rw [cancelled] at committed
  cases committed

theorem Sound.abortPrepared (aborted : sequence.abortPrepared planSequence = .ok next) :
    next.Sound := by
  rcases abortPrepared_ok_iff.mp aborted with ⟨prepared, -, rfl⟩
  have work := sound.work (sound.active_of_prepared prepared)
  have quiet : sequence.drainIsCancel = false := by
    by_contra flag
    rcases sound.cancelFlag (by simpa using flag) with other | other | other
      <;> rw [other] at prepared <;> cases prepared
  exact
    { sound with
      work := fun active => (active rfl).elim
      rest := fun _ => by
        rcases boundaryState_cases sequence.activePhase with
          ⟨phase, same⟩ | ⟨phase, same⟩ <;> rw [same]
        · exact ⟨⟨rfl, rfl⟩, fun _ => (work.prefill phase).1, nofun⟩
        · exact ⟨⟨rfl, rfl⟩, nofun, fun _ => work.decode phase⟩
      cancelFlag := fun flag => by
        rw [quiet] at flag
        cases flag
      flagged := by
        rcases boundaryState_cases sequence.activePhase with ⟨-, same⟩ | ⟨-, same⟩ <;> simp [same] }

theorem Sound.complete (completed : sequence.complete completion = .ok next) : next.Sound := by
  rcases complete_ok completed with ⟨completes, rfl⟩
  have flag : sequence.drainIsCancel = true → sequence.state = .cancelRequested := by
    intro flag
    rcases completes.flying with flying | cancelled
    · have states := sound.cancelFlag flag
      rw [flying] at states
      cases phase : sequence.activePhase <;> simp [phase, inflightState] at states
    simp only [cancelledCommitted, decide_eq_true_eq] at cancelled
    exact cancelled.1
  unfold completedWith
  exact
    { sound with
      balanced := completes.ledger
      nextPhase := completes.phase
      work := fun active => (active rfl).elim
      rest := fun _ => by
        rcases sequence.completedState_cases completion with
          same | ⟨-, ⟨same, _⟩ | ⟨same, _⟩⟩ <;> rw [same]
        · exact ⟨⟨rfl, rfl⟩, nofun, nofun⟩
        · refine ⟨⟨rfl, rfl⟩, fun _ => ?_, nofun⟩
          have ledger := completes.ledger
          dsimp only
          omega
        refine ⟨⟨rfl, rfl⟩, nofun, fun _ => ?_⟩
        have ledger := completes.ledger
        dsimp only
        omega
      cancelFlag := by
        intro drains
        right
        left
        dsimp only [completedState]
        rw [if_pos (flag drains)]
      flagged := by
        rcases sequence.completedState_cases completion with
          same | ⟨-, ⟨same, -⟩ | ⟨same, -⟩⟩ <;> simp [same] }

theorem Sound.requestCancel (cancelled : sequence.requestCancel = .ok next) : next.Sound := by
  rcases requestCancel_ok cancelled with ⟨-, -, ⟨-, rfl⟩ | ⟨calm, rfl⟩⟩
  · exact sound
  exact
    { sound with
      work := fun active =>
        { sound.work active with state := .inr ⟨rfl, (sound.work active).of_state calm⟩ }
      rest := fun _ => ⟨⟨rfl, rfl⟩, nofun, nofun⟩
      cancelFlag := fun _ => .inl rfl
      flagged := fun _ => rfl }

theorem Sound.beginDraining (draining : sequence.beginDraining = .ok next) : next.Sound := by
  rcases beginDraining_ok draining with ⟨-, rfl⟩
  exact
    { sound with
      work := fun active => (active rfl).elim
      rest := fun _ => ⟨⟨rfl, rfl⟩, nofun, nofun⟩
      cancelFlag := fun _ => .inr (.inl rfl)
      flagged := by simp }

end Pih.ControllerSequence
