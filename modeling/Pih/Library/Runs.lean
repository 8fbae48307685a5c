import Mathlib.Data.List.Basic

/-!
# Runs of a deterministic machine

A machine answers an action with a new state and an outcome.  A run is any
finite sequence of actions from a start state, recorded with the states
around each action and its outcome; a guard on the history, the state and the
action says which actions a run may take.  `Run.invariant` is the induction
that every safety result uses.
-/

namespace Pih

/-- One action of a run, the states around it and the answer to it. -/
structure Entry (State Action Outcome : Type) where
  before : State
  action : Action
  after : State
  outcome : Outcome

section Runs

variable {State Action Outcome : Type}

/-- The entry of an action that is executed in a state. -/
def Entry.of (execute : State → Action → State × Outcome) (state : State)
    (action : Action) : Entry State Action Outcome where
  before := state
  action := action
  after := (execute state action).1
  outcome := (execute state action).2

/-- The histories and states that a machine reaches under a guard. -/
inductive Run (execute : State → Action → State × Outcome)
    (allowed : List (Entry State Action Outcome) → State → Action → Prop)
    (start : State) :
    List (Entry State Action Outcome) → State → Prop where
  | start : Run execute allowed start [] start
  | step
      {history : List (Entry State Action Outcome)} {state : State}
      (run : Run execute allowed start history state)
      (action : Action)
      (permitted : allowed history state action) :
      Run execute allowed start (history ++ [.of execute state action]) (execute state action).1

variable
  {execute : State → Action → State × Outcome}
  {allowed : List (Entry State Action Outcome) → State → Action → Prop}
  {start : State}

namespace Run

/--
A property of histories and states that holds at the start and is preserved
by every permitted step from a reached state holds of every run.
-/
theorem invariant (Invariant : List (Entry State Action Outcome) → State → Prop)
    (initial : Invariant [] start)
    (preserved : ∀ history state action, Run execute allowed start history state →
      Invariant history state →
      allowed history state action →
      Invariant (history ++ [.of execute state action]) (execute state action).1)
    (run : Run execute allowed start history state) : Invariant history state := by
  induction run with
  | start => exact initial
  | step run action permitted induction => exact preserved _ _ action run induction permitted

/-- A run under a guard is a run under every weaker guard. -/
theorem weaken (implies : ∀ history state action,
      allowed history state action → weaker history state action)
    (run : Run execute allowed start history state) : Run execute weaker start history state := by
  induction run with
  | start => exact .start
  | step _ action permitted induction => exact .step induction action (implies _ _ _ permitted)

/--
A number that drops with every tick, and never grows, until a lasting goal is
reached: a run with more ticks than the number at its start has reached the
goal.
-/
theorem countdown (Good Goal : State → Prop) (left : State → ℕ) (ticks : Action → Bool)
    (preserved : ∀ history state action, Good state → allowed history state action →
      Good (execute state action).1)
    (lasting : ∀ history state action, Good state → allowed history state action → Goal state →
      Goal (execute state action).1)
    (drops : ∀ history state action, Good state → allowed history state action →
      ¬ Goal (execute state action).1 →
      left (execute state action).1 + (if ticks action then 1 else 0) ≤ left state)
    (good : Good start) (run : Run execute allowed start history state)
    (enough : left start < history.countP fun entry => ticks entry.action) : Goal state := by
  have counted : Good state ∧ (Goal state ∨
      left state + history.countP (fun entry => ticks entry.action) ≤ left start) := by
    clear enough
    induction run with
    | start => exact ⟨good, .inr (by simp)⟩
    | @step _ before _ action permitted induction =>
      rcases induction with ⟨reached, progress⟩
      refine ⟨preserved _ _ action reached permitted, ?_⟩
      rcases progress with goal | progress
      · exact .inl (lasting _ _ action reached permitted goal)
      by_cases done : Goal (execute before action).1
      · exact .inl done
      have dropped := drops _ _ action reached permitted done
      refine .inr ?_
      rw [List.countP_append, List.countP_singleton]
      change _ + (_ + if ticks action = true then 1 else 0) ≤ _
      omega
  rcases counted.2 with goal | progress
  · exact goal
  · omega

/-- A run passes through the state before each of its entries. -/
theorem split (run : Run execute allowed start (before ++ entry :: after) state) :
    Run execute allowed start before entry.before ∧ allowed before entry.before entry.action ∧
      entry = .of execute entry.before entry.action := by
  generalize recorded : before ++ entry :: after = history at run
  induction run generalizing after with
  | start => simp at recorded
  | step run _ permitted induction =>
    rcases List.eq_nil_or_concat after with rfl | ⟨_, _, rfl⟩
    · rcases List.append_inj' recorded rfl with ⟨rfl, same⟩
      cases same
      exact ⟨run, permitted, rfl⟩
    rw [List.concat_eq_append, ← List.cons_append, ← List.append_assoc] at recorded
    exact induction (List.append_inj' recorded rfl).1

end Run

/-! ## Scripts -/

/-- The script of actions that do not depend on the state. -/
def always (actions : List Action) : List (State → Action) := actions.map fun action _ => action

/-- Execute actions that are chosen from the state before them. -/
def runScript (execute : State → Action → State × Outcome) :
    List (Entry State Action Outcome) → State → List (State → Action) →
      List (Entry State Action Outcome) × State
  | history, state, [] => (history, state)
  | history, state, choose :: rest =>
    runScript execute (history ++ [.of execute state (choose state)])
      (execute state (choose state)).1 rest

/-- The guard holds before each action of a script. -/
def ScriptAllowed (execute : State → Action → State × Outcome)
    (allowed : List (Entry State Action Outcome) → State → Action → Prop) :
    List (Entry State Action Outcome) → State → List (State → Action) → Prop
  | _, _, [] => True
  | history, state, choose :: rest =>
    allowed history state (choose state) ∧ ScriptAllowed execute allowed
        (history ++ [.of execute state (choose state)])
        (execute state (choose state)).1 rest

instance decidableScriptAllowed (execute : State → Action → State × Outcome)
    (allowed : List (Entry State Action Outcome) → State → Action → Prop)
    [∀ history state action, Decidable (allowed history state action)] :
    ∀ history state script, Decidable (ScriptAllowed execute allowed history state script)
  | _, _, [] => inferInstanceAs (Decidable True)
  | history, state, choose :: rest =>
    @instDecidableAnd _ _ inferInstance (decidableScriptAllowed execute allowed
        (history ++ [.of execute state (choose state)])
        (execute state (choose state)).1 rest)

/-- Where everything is allowed, every script is. -/
theorem ScriptAllowed.unrestricted (script : List (State → Action)) :
    ScriptAllowed execute (fun _ _ _ => True) history state script := by
  induction script generalizing history state with
  | nil => trivial
  | cons _ _ induction => exact ⟨trivial, induction⟩

/-- Executing a permitted script extends a run. -/
theorem Run.runScript (run : Run execute allowed start history state)
    (script : List (State → Action))
    (permitted : ScriptAllowed execute allowed history state script) :
    Run execute allowed start (Pih.runScript execute history state script).1
      (Pih.runScript execute history state script).2 := by
  induction script generalizing history state with
  | nil => exact run
  | cons _ _ induction => exact induction (.step run _ permitted.1) permitted.2

end Runs

end Pih
