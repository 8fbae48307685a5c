import Pih.Scheduler.ControllerHistory

/-!
# The numbers of the plans

Every prepared plan gets a plan sequence that no plan had before.
-/

namespace Pih.ControllerRuntime

/-- The plan sequence was handed out before. -/
def Spent (runtime : ControllerRuntime) (planSequence : ℕ) : Prop := planSequence ≠ 0 ∧
    (runtime.nextPlanSequence = 0 ∨ planSequence < runtime.nextPlanSequence)

/-- Handing out a plan sequence spends it and keeps the others spent. -/
theorem Spent.advance {runtime next : ControllerRuntime}
    (counter : runtime.nextPlanSequence ≤ u64Max) (nonzero : runtime.nextPlanSequence ≠ 0)
    (advanced : next.nextPlanSequence = nextU64 runtime.nextPlanSequence)
    (spent : runtime.Spent planSequence ∨ planSequence = runtime.nextPlanSequence) :
    next.Spent planSequence := by
  have bound : planSequence ≠ 0 ∧ planSequence ≤ runtime.nextPlanSequence := by
    rcases spent with ⟨positive, wrapped | below⟩ | rfl
    · exact (nonzero wrapped).elim
    · exact ⟨positive, below.le⟩
    · exact ⟨nonzero, le_rfl⟩
  refine ⟨bound.1, ?_⟩
  rw [advanced]
  by_cases wrapped : nextU64 runtime.nextPlanSequence = 0
  · exact .inl wrapped
  right
  rw [nextU64_eq_succ counter wrapped]
  exact Nat.lt_succ_of_le bound.2

/-- The next plan sequence was not handed out yet. -/
theorem not_spent_next {runtime : ControllerRuntime} (nonzero : runtime.nextPlanSequence ≠ 0) :
    ¬ runtime.Spent runtime.nextPlanSequence := by
  rintro ⟨-, wrapped | below⟩
  · exact nonzero wrapped
  · exact Nat.lt_irrefl _ below

end Pih.ControllerRuntime
