import Pih.Scheduler.ControllerRuns

/-!
# Completions that stopped midway

A completion that breaks leaves its plan current with a transferred burst.
Such a runtime has failed for good: the plan can neither be completed again
nor aborted, so nothing is published any more.
-/

namespace Pih.ControllerRuntime

open OutputBurstCreditPool (Holds)

/-- The plan is current although its burst was transferred. -/
structure TornPlan (runtime : ControllerRuntime) (current : CurrentPlan) : Prop where
  isCurrent : runtime.current = some current
  transferred : runtime.outputCredits.Holds current.outputBurst .transferred

/-- The completion of the current plan stopped midway. -/
def Halted (runtime : ControllerRuntime) : Prop := ∃ current, TornPlan runtime current

section

variable {runtime next : ControllerRuntime}

variable {current : CurrentPlan}

theorem not_halted_of_holds (isCurrent : runtime.current = some current) {state : OutputBurstState}
    (holds : runtime.outputCredits.Holds current.outputBurst state)
    (other : state ≠ .transferred) : ¬ Halted runtime := by
  rintro ⟨_, torn⟩
  cases isCurrent.symm.trans torn.isCurrent
  exact other (holds.unique torn.transferred)

theorem not_halted_of_idle (idle : runtime.current = none) : ¬ Halted runtime := by
  rintro ⟨_, torn⟩
  cases idle.symm.trans torn.isCurrent

theorem CompletionOf.not_halted {results : List ControllerBackendSequenceResult}
    (completion : CompletionOf runtime current results members) :
    ¬ Halted runtime :=
  not_halted_of_holds completion.isCurrent completion.committed (nofun)

/-- An acknowledgement does not touch the burst of the current plan. -/
theorem tornPlan_acknowledge (balanced : runtime.CreditsBalanced) {index : ℕ}
    (found : runtime.pendingOutputBursts[index]? = some (some lease))
    (credits : next.outputCredits = runtime.outputCredits.setCredit lease.creditIndex
      { generation := lease.creditGeneration })
    (same : next.current = runtime.current) :
    TornPlan next current ↔ TornPlan runtime current := by
  have member := List.mem_of_getElem? found
  have holds := balanced.transferred lease member
  have kept : ∀ state, runtime.current = some current →
      runtime.outputCredits.Holds current.outputBurst state →
      next.outputCredits.Holds current.outputBurst state := by
    intro state isCurrent held
    rw [credits]
    exact held.setCredit_other _
      (holds.index_ne held (balanced.apart current isCurrent lease member))
  constructor
  · rintro ⟨isCurrent, transferred⟩
    rw [same] at isCurrent
    rcases balanced.current current isCurrent with ⟨-, state, -, held⟩
    refine ⟨isCurrent, ?_⟩
    rw [(kept state isCurrent held).unique transferred] at held
    exact held
  · rintro ⟨isCurrent, transferred⟩
    exact ⟨same.trans isCurrent, kept .transferred isCurrent transferred⟩

theorem tornPlan_broken (isCurrent : next.current = some current)
    {pool : OutputBurstCreditPool} {state : OutputBurstState}
    (holds : pool.Holds current.outputBurst state)
    (credits : next.outputCredits = pool.assign current.outputBurst .transferred) :
    TornPlan next current := by
  refine ⟨isCurrent, ?_⟩
  rw [credits]
  exact holds.setCredit_self .transferred

theorem holds_acquired (acquired : OutputBurstCreditPool.Acquired pool credits plan burst) :
    credits.Holds burst .prepared := by
  rcases acquired.free with ⟨_, found, -⟩
  rw [acquired.next_eq]
  exact List.getElem?_set_self (List.getElem_of_getElem? found).1

/-- A plan whose completion stopped midway stays current. -/
theorem TornPlan.preserved (torn : TornPlan runtime current)
    (base : runtime.Base) (transition : Transition runtime call next outcome) :
    TornPlan next current := by
  have halted : Halted runtime := ⟨current, torn⟩
  cases transition with
  | request transition =>
    cases transition with
    | completed _ completion _ | completionBroken _ completion _ =>
      exact (completion.not_halted halted).elim
    | _ => exact ⟨torn.isCurrent, torn.transferred⟩
  | prepared _ _ prepared => exact (not_halted_of_idle prepared.idle halted).elim
  | committed _ isCurrent holds _ | commitPartial _ isCurrent holds _ _
  | aborted _ isCurrent holds => exact (not_halted_of_holds isCurrent holds nofun halted).elim
  | acknowledged _ found =>
    refine (tornPlan_acknowledge base.credits found ?_ ?_).mpr torn
    · rfl
    · rfl
  | _ => exact ⟨torn.isCurrent, torn.transferred⟩

theorem Halted.preserved (halted : Halted runtime) (base : runtime.Base)
    (transition : Transition runtime call next outcome) : Halted next := by
  rcases halted with ⟨current, torn⟩
  exact ⟨current, torn.preserved base transition⟩

/-- No call makes a runtime ready again. -/
theorem Transition.ready (transition : Transition runtime call next outcome)
    (ready : next.state = .ready) : runtime.state = .ready := by
  cases transition with
  | request transition =>
    cases transition with
    | submitted _ ready _ _ _ | withdrawn | completed => exact ready
    | cancelDrained steps _ _ _ _ | rejected steps _ _ _
    | admitted steps => exact steps.ready
    | finalized _ target => exact target.ready
    | _ => cases ready
  | foreign => cases ready
  | corrupted => cases ready
  | commitPartial => cases ready
  | markPartial => cases ready
  | abortPartial => cases ready
  | _ => exact ready

/-- The burst of the current plan of a ready runtime is not transferred. -/
def HaltsFailed (runtime : ControllerRuntime) : Prop := runtime.state = .ready → ¬ Halted runtime

theorem HaltsFailed.preserved (fails : HaltsFailed runtime)
    (base : runtime.Base) (transition : Transition runtime call next outcome) :
    HaltsFailed next := by
  intro ready
  have calm := fails (transition.ready ready)
  cases transition with
  | request transition =>
    cases transition with
    | completed => exact not_halted_of_idle rfl
    | completionBroken => cases ready
    | _ =>
      rintro ⟨current, torn⟩
      exact calm ⟨current, torn.isCurrent, torn.transferred⟩
  | prepared _ _ prepared =>
    exact not_halted_of_holds rfl (holds_acquired prepared.acquired) nofun
  | committed _ isCurrent holds =>
    exact not_halted_of_holds isCurrent (holds.setCredit_self .committed) nofun
  | commitPartial => cases ready
  | aborted => exact not_halted_of_idle rfl
  | acknowledged _ found =>
    rintro ⟨current, torn⟩
    refine calm ⟨current, (tornPlan_acknowledge base.credits found ?_ ?_).mp torn⟩
    · rfl
    · rfl
  | _ =>
    rintro ⟨current, torn⟩
    exact calm ⟨current, torn.isCurrent, torn.transferred⟩

end

end Pih.ControllerRuntime
