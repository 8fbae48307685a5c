import Pih.Library.Runs

/-!
# Progress in fair runs

A round of a run is a stretch in which every party takes a willing step.  If
some party is enabled while the goal is not reached, an enabled party stays
enabled until a number drops, and its willing step makes the number drop, then
the number counts the rounds that are left.  The schedule inside a round is
arbitrary.
-/

namespace Pih

section FairRuns

variable {State Action Outcome Party : Type}

/-- The history consists of so many stretches of the given kind. -/
inductive Rounds (round : List (Entry State Action Outcome) → Prop) :
    ℕ → List (Entry State Action Outcome) → Prop where
  | none : Rounds round 0 []
  | next {count : ℕ} {earlier stretch : List (Entry State Action Outcome)}
      (before : Rounds round count earlier) (complete : round stretch) :
      Rounds round (count + 1) (earlier ++ stretch)

variable
  {execute : State → Action → State × Outcome}
  {guard : State → Action → Prop} {start : State}

/-- A run without entries is at its start. -/
theorem Run.eq_start (run : Run execute (fun _ => guard) start [] state) : state = start := by
  generalize empty : [] = history at run
  cases run with
  | start => rfl
  | step => simp at empty

/-- A run can be cut anywhere. -/
theorem Run.cut (run : Run execute (fun _ => guard) start (earlier ++ later) state) :
    ∃ middle, Run execute (fun _ => guard) start earlier middle ∧
      Run execute (fun _ => guard) middle later state := by
  generalize recorded : earlier ++ later = history at run
  induction run generalizing later with
  | start =>
    rcases List.append_eq_nil_iff.mp recorded with ⟨rfl, rfl⟩
    exact ⟨start, .start, .start⟩
  | step run action permitted induction =>
    rcases List.eq_nil_or_concat later with rfl | ⟨_, _, rfl⟩
    · rw [List.append_nil] at recorded
      subst recorded
      exact ⟨_, .step run action permitted, .start⟩
    rw [List.concat_eq_append, ← List.append_assoc] at recorded
    rcases List.append_inj' recorded rfl with ⟨same, ended⟩
    cases ended
    rcases induction same with ⟨middle, first, second⟩
    rw [List.concat_eq_append]
    exact ⟨middle, first, .step second action permitted⟩

/-- What makes a number count the rounds that are left. -/
structure FairProgress (execute : State → Action → State × Outcome) (guard : State → Action → Prop)
    (Good Goal : State → Prop) (left : State → ℕ)
    (Enabled : Party → State → Prop)
    (Willing : Party → State → Action → Prop) : Prop where
  good : ∀ state action, Good state → guard state action → Good (execute state action).1
  lasting : ∀ state action, Good state → guard state action → Goal state →
      Goal (execute state action).1
  enabled : ∀ state, Good state → ¬ Goal state → ∃ party, Enabled party state
  stays : ∀ state action, Good state → guard state action → ¬ Goal (execute state action).1 →
      left (execute state action).1 < left state ∨
        left (execute state action).1 = left state ∧ ∀ party, Enabled party state →
          Enabled party (execute state action).1 ∧ ¬ Willing party state action

namespace FairProgress

/-- An enabled party makes the number drop in the stretch where it acts. -/
theorem stretch (progress : FairProgress execute guard Good Goal left Enabled Willing)
    (run : Run execute (fun _ => guard) start history state) (good : Good start)
    (enabled : Enabled party start) :
    Good state ∧ (Goal state ∨ left state < left start ∨
      left state = left start ∧ Enabled party state ∧
        ∀ entry ∈ history, ¬ Willing party entry.before entry.action) := by
  induction run with
  | start => exact ⟨good, .inr (.inr ⟨rfl, enabled, by simp⟩)⟩
  | @step _ state _ action permitted induction =>
    rcases induction with ⟨reached, outcome⟩
    refine ⟨progress.good state action reached permitted, ?_⟩
    by_cases done : Goal (execute state action).1
    · exact .inl done
    have unfinished : ¬ Goal state := fun goal =>
      done (progress.lasting state action reached permitted goal)
    have stays := progress.stays state action reached permitted done
    rcases outcome.resolve_left unfinished with less | ⟨same, still, idle⟩
    · rcases stays with drop | ⟨equal, -⟩ <;> omega
    rcases stays with drop | ⟨equal, kept⟩
    · exact .inr (.inl (by omega))
    rcases kept party still with ⟨next, unwilling⟩
    refine .inr (.inr ⟨equal.trans same, next, ?_⟩)
    intro entry member
    rcases List.mem_append.mp member with old | new
    · exact idle entry old
    rw [List.mem_singleton.mp new]
    exact unwilling

/-- After more rounds than the number at the start, the goal is reached. -/
theorem reached (progress : FairProgress execute guard Good Goal left Enabled Willing)
    (run : Run execute (fun _ => guard) start history state) (good : Good start)
    (rounds : Rounds (fun stretch =>
        ∀ party, ∃ entry ∈ stretch, Willing party entry.before entry.action)
      count history) (enough : left start < count) : Goal state := by
  have counted : Good state ∧ (Goal state ∨ left state + count ≤ left start) := by
    clear enough
    induction rounds generalizing state with
    | none =>
      rw [run.eq_start]
      exact ⟨good, .inr (Nat.le_refl _)⟩
    | next _ complete induction =>
      rcases run.cut with ⟨middle, first, second⟩
      rcases induction first with ⟨reached, outcome⟩
      by_cases done : Goal middle
      · have both := second.invariant (fun _ state => Good state ∧ Goal state) ⟨reached, done⟩
            (fun _ state action _ both permitted =>
              ⟨progress.good state action both.1 permitted,
                progress.lasting state action both.1 permitted both.2⟩)
        exact ⟨both.1, .inl both.2⟩
      rcases progress.enabled middle reached done with ⟨party, enabled⟩
      rcases progress.stretch second reached enabled with ⟨later, goal | less | ⟨_, _, idle⟩⟩
      · exact ⟨later, .inl goal⟩
      · have earlier := outcome.resolve_left done
        exact ⟨later, .inr (by omega)⟩
      rcases complete party with ⟨entry, member, willing⟩
      exact (idle entry member willing).elim
  rcases counted.2 with goal | progress
  · exact goal
  · omega

end FairProgress

end FairRuns

end Pih
