import Mathlib.Data.List.Basic

/-!
# Activating and tearing down a stack of plugins

Plugins are registered, configured, started and made ready in their order.
When a phase fails, the plugins that became ready are drained, those that
started are stopped and those that were registered are disposed, each from
the last to the first; the first failure of a phase ends it and protects the
plugins below from the later phases.  A shutdown does the same to a stack
that was activated completely.
-/

namespace Pih

open List

/-- The callbacks of a plugin, in order. -/
inductive LifecyclePhase where
  | register
  | configure
  | start
  | ready
  | drain
  | stop
  | dispose
deriving DecidableEq, Repr

inductive CallbackStatus where
  | ok
  | status (code : ℕ) (message : String)
  | invalid
  | thrown (what : String)
deriving DecidableEq, Repr

/-- `PIH_STATUS_UNAVAILABLE_V1`. -/
def unavailableV1 : ℕ := 4

/--
The statuses of one callback when it is called until it does not ask to be
called again: those that were unavailable before the deadline, and the last
one, which can be unavailable at the deadline.
-/
structure CallbackAnswers where
  unavailable : List String := []
  last : CallbackStatus := .ok

def CallbackAnswers.first (answers : CallbackAnswers) : CallbackStatus :=
  match answers.unavailable with
  | [] => answers.last
  | message :: _ => .status unavailableV1 message

/-- A plugin and the answers of its callbacks. -/
structure PluginInstance where
  id : String
  answers : LifecyclePhase → CallbackAnswers

/-- The call of a callback of the plugin at an index. -/
abbrev CallbackEvent := LifecyclePhase × ℕ

namespace PluginStack

variable (plugins : List PluginInstance)

def lifecycleFailure (plugin : PluginInstance) (status : CallbackStatus)
    (phase : String) : String :=
  match status with
  | .ok => phase ++ ":" ++ plugin.id ++ ":status=0"
  | .status code message =>
    phase ++ ":" ++ plugin.id ++ ":status=" ++ toString code ++
      (if message = "" then "" else ":" ++ message)
  | .invalid => phase ++ ":" ++ plugin.id ++ ":status_abi_invalid"
  | .thrown what => what

def phaseFailure : LifecyclePhase → String
  | .register => "plugin_register_failed"
  | .configure => "plugin_configure_failed"
  | .start => "plugin_start_failed"
  | .ready => "plugin_ready_failed"
  | .drain => "plugin_drain_failed"
  | .stop => "plugin_stop_failed"
  | .dispose => "plugin_dispose_failed"

/-! ## Activation -/

/-- The calls of a phase, the number that succeeded and the failure. -/
structure PhaseRun where
  trace : List CallbackEvent := []
  count : ℕ := 0
  failure : Option String := none

def requireAll (phase : LifecyclePhase) : ℕ → List PluginInstance → PhaseRun
  | _, [] => {}
  | index, plugin :: rest =>
    if (plugin.answers phase).first = .ok then
      let later := requireAll phase (index + 1) rest
      { later with trace := (phase, index) :: later.trace, count := later.count + 1 }
    else
      { trace := [(phase, index)]
        failure := lifecycleFailure plugin (plugin.answers phase).first
          (phaseFailure phase) }

/--
What the registration barrier does when it is called after the last
registration; a failure to close it again is dropped.
-/
inductive RegistrationBarrier where
  | missing
  | passes
  | throws (what : String)

def RegistrationBarrier.failure : RegistrationBarrier → Option String
  | .throws what => some what
  | _ => none

/-- What an activation called and how far it came. -/
structure Activation where
  trace : List CallbackEvent := []
  registered : ℕ := 0
  started : ℕ := 0
  ready : ℕ := 0
  failure : Option String := none

/-- A phase runs only if nothing failed before it. -/
def proceed (failure : Option String) (phase : LifecyclePhase) : PhaseRun :=
  if failure.isSome then {} else requireAll phase 0 plugins

/-- Run the four starting phases until one fails. -/
def activate (barrier : RegistrationBarrier) : Activation :=
  match barrier with
  | .missing => { failure := some "registration_barrier_missing" }
  | barrier =>
    let registered := proceed plugins none .register
    let passed := registered.failure.or barrier.failure
    let configured := proceed plugins passed .configure
    let prepared := passed.or configured.failure
    let started := proceed plugins prepared .start
    let ready := proceed plugins (prepared.or started.failure) .ready
    { trace := registered.trace ++ configured.trace ++ started.trace ++ ready.trace
      registered := registered.count
      started := started.count
      ready := ready.count
      failure := (prepared.or started.failure).or ready.failure }

/-! ## Teardown -/

variable (phase : LifecyclePhase)

def answersAt (index : ℕ) : CallbackAnswers :=
  plugins[index]?.elim {} fun plugin => plugin.answers phase

/-- `BestEffortOk`: the calls of the retry loop. -/
def invoke (index : ℕ) : List CallbackEvent :=
  replicate ((answersAt plugins phase index).unavailable.length + 1) (phase, index)

def succeeds (index : ℕ) : Bool := (answersAt plugins phase index).last = .ok

/-- The phase goes down from a count to a floor or to its first failure. -/
def unwind (phase : LifecyclePhase) (floor : ℕ) : ℕ → List CallbackEvent × ℕ
  | 0 => ([], floor)
  | count + 1 =>
    if count + 1 ≤ floor then ([], floor)
    else if succeeds plugins phase count then
      let below := unwind phase floor count
      (invoke plugins phase count ++ below.1, below.2)
    else (invoke plugins phase count, count + 1)

def rollBack (ready started registered : ℕ) : List CallbackEvent :=
  let drained := unwind plugins .drain 0 ready
  let stopped := unwind plugins .stop drained.2 started
  let disposed := unwind plugins .dispose stopped.2 registered
  drained.1 ++ stopped.1 ++ disposed.1

/-- One phase of a shutdown, for at most `limit` plugins from the end. -/
def runPhase (phase : LifecyclePhase) : ℕ → ℕ → PhaseRun
  | 0, _ => {}
  | _ + 1, 0 => {}
  | limit + 1, count + 1 =>
    if succeeds plugins phase count then
      let below := runPhase phase limit count
      { below with trace := invoke plugins phase count ++ below.trace, count := below.count + 1 }
    else
      { trace := invoke plugins phase count
        failure := plugins[count]?.map fun plugin =>
          lifecycleFailure plugin (plugin.answers phase).last
            (phaseFailure phase) }

def shutdownChecked : List CallbackEvent × Option String :=
  let drained := runPhase plugins .drain plugins.length plugins.length
  let stopped := runPhase plugins .stop drained.count plugins.length
  let disposed := runPhase plugins .dispose stopped.count plugins.length
  (drained.trace ++ stopped.trace ++ disposed.trace,
    drained.failure.or (stopped.failure.or disposed.failure))

/-! ## The order of a teardown -/

variable {plugins} {phase : LifecyclePhase}

def rank : LifecyclePhase → ℕ
  | .dispose => 2
  | .stop => 1
  | _ => 0

/-- The second call is of a later phase, or of the same or a lower plugin. -/
def Follows (first second : CallbackEvent) : Prop :=
  rank first.1 < rank second.1 ∨ first.1 = second.1 ∧ second.2 ≤ first.2

/-- A phase from a count down to a floor that ended above an index. -/
structure Unwound (plugins : List PluginInstance) (phase : LifecyclePhase)
    (floor count reached : ℕ) (trace : List CallbackEvent) : Prop where
  floor_le : floor ≤ reached
  reached_le : reached ≤ max floor count
  mem : ∀ event, event ∈ trace ↔ event.1 = phase ∧ floor ≤ event.2 ∧ event.2 < count ∧
      reached ≤ event.2 + 1
  succeeded : ∀ index, reached ≤ index → index < count → succeeds plugins phase index = true
  ordered : trace.Pairwise Follows
  once : ∀ event, trace.count event ≤ (answersAt plugins event.1 event.2).unavailable.length + 1

/-- A phase ends above the plugin that fails. -/
theorem Unwound.ended {count : ℕ} (unwound : Unwound plugins phase floor count reached trace)
    (below : index < count) (failed : succeeds plugins phase index = false) : index < reached := by
  by_contra above
  cases failed.symm.trans (unwound.succeeded index (Nat.not_lt.mp above) below)

theorem mem_invoke : event ∈ invoke plugins phase index ↔ event = (phase, index) := by simp [invoke]

theorem invoke_ordered : (invoke plugins phase index).Pairwise Follows :=
  pairwise_replicate.mpr (.inr (.inr ⟨rfl, Nat.le_refl _⟩))

theorem count_invoke (event : CallbackEvent) :
    (invoke plugins phase index).count event ≤
      (answersAt plugins event.1 event.2).unavailable.length + 1 := by
  unfold invoke
  rw [count_replicate]
  split
  case isTrue same => exact eq_of_beq same ▸ Nat.le_refl _
  · exact Nat.zero_le _

theorem unwind_unwound {count : ℕ} :
    Unwound plugins phase floor count (unwind plugins phase floor count).2
      (unwind plugins phase floor count).1 := by
  induction count with
  | zero =>
    unfold unwind
    constructor <;> simp
  | succ count induction =>
    unfold unwind
    split
    case isTrue =>
      constructor <;> simp
      all_goals omega
    have reached := induction.reached_le
    split
    case isTrue success =>
      refine ⟨induction.floor_le, Nat.le_trans reached (by omega), ?_, ?_, ?_, ?_⟩
      · intro event
        have called : event ∈ invoke plugins phase count ↔ event.1 = phase ∧ event.2 = count := by
          rw [mem_invoke, Prod.ext_iff]
        rw [mem_append, induction.mem event]
        grind
      · intro index above below
        rcases Nat.lt_succ_iff_lt_or_eq.mp below with lower | rfl
        · exact induction.succeeded index above lower
        · exact success
      · refine pairwise_append.mpr ⟨invoke_ordered, induction.ordered, ?_⟩
        intro first called second later
        rw [mem_invoke.mp called]
        have inside := (induction.mem second).mp later
        exact .inr ⟨inside.1.symm, Nat.le_of_lt inside.2.2.1⟩
      · intro event
        rw [count_append]
        -- the calls of the plugin on top and those below are disjoint
        by_cases top : event = (phase, count)
        · have absent : event ∉ (unwind plugins phase floor count).1 := by
            intro called
            have below := ((induction.mem event).mp called).2.2.1
            rw [top] at below
            exact Nat.lt_irrefl _ below
          rw [count_eq_zero.mpr absent]
          exact count_invoke event
        rw [count_eq_zero.mpr (mt mem_invoke.mp top), Nat.zero_add]
        exact induction.once event
    refine ⟨by omega, by omega, ?_, by omega, invoke_ordered, count_invoke⟩
    intro event
    rw [mem_invoke, Prod.ext_iff]
    constructor
    · rintro ⟨same, _⟩
      exact ⟨same, by omega, by omega, by omega⟩
    · rintro ⟨same, -, _, _⟩
      exact ⟨same, by omega⟩

/-- A callback was called and its last call succeeded. -/
def Done (plugins : List PluginInstance) (trace : List CallbackEvent)
    (phase : LifecyclePhase) (index : ℕ) : Prop :=
  (phase, index) ∈ trace ∧ succeeds plugins phase index = true

/--
The teardown of a stack in which the first `ready`, `started` and
`registered` plugins became ready, started and registered.
-/
structure InOrder (plugins : List PluginInstance)
    (ready started registered : ℕ) (trace : List CallbackEvent) :
    Prop where
  /-- Only the retries of an unavailable callback call it again. -/
  once : ∀ event, trace.count event ≤ (answersAt plugins event.1 event.2).unavailable.length + 1
  ordered : trace.Pairwise Follows
  drains : ∀ index, (.drain, index) ∈ trace → index < ready
  stops : ∀ before index later, trace = before ++ (.stop, index) :: later →
      index < started ∧ (index < ready → Done plugins before .drain index) ∧
        ∀ dependent, index < dependent →
          (dependent < ready → Done plugins before .drain dependent) ∧
          (dependent < started → Done plugins before .stop dependent)
  disposes : ∀ before index later, trace = before ++ (.dispose, index) :: later →
      index < registered ∧ (index < ready → Done plugins before .drain index) ∧
        (index < started → Done plugins before .stop index) ∧
        ∀ dependent, index < dependent →
          (dependent < ready → Done plugins before .drain dependent) ∧
          (dependent < started → Done plugins before .stop dependent) ∧
          (dependent < registered → Done plugins before .dispose dependent)
  failedDrain : ∀ index, (.drain, index) ∈ trace → succeeds plugins .drain index = false →
        ∀ lower ≤ index, (.stop, lower) ∉ trace ∧ (.dispose, lower) ∉ trace
  failedStop : ∀ index, (.stop, index) ∈ trace → succeeds plugins .stop index = false →
        ∀ lower ≤ index, (lower ≠ index → (.stop, lower) ∉ trace) ∧ (.dispose, lower) ∉ trace

section Trace

variable {before : List CallbackEvent}

/-- A call of an earlier phase or of a higher plugin comes before. -/
theorem mem_before (ordered : trace.Pairwise Follows)
    (split : trace = before ++ event :: later) (called : earlier ∈ trace)
    (first : rank earlier.1 < rank event.1 ∨ earlier.1 = event.1 ∧ event.2 < earlier.2) :
    earlier ∈ before := by
  subst split
  rcases mem_append.mp called with inside | inside
  · exact inside
  have behind : Follows event earlier := by
    rcases mem_cons.mp inside with rfl | after
    · exact .inr ⟨rfl, Nat.le_refl _⟩
    have tail := (pairwise_append.mp ordered).2.1
    exact rel_of_pairwise_cons tail after
  rcases behind with phase | ⟨phase, _⟩
  · grind
  rw [phase] at first
  omega

end Trace

section RollBack

variable {ready started registered drainReached stopReached
  disposeReached : ℕ} {drained stopped disposed : List CallbackEvent}
  (drain : Unwound plugins .drain 0 ready drainReached drained)
  (stop : Unwound plugins .stop drainReached started stopReached stopped)
  (dispose : Unwound plugins .dispose stopReached registered disposeReached disposed)

include drain stop dispose

theorem mem_drained : (.drain, index) ∈ drained ++ stopped ++ disposed ↔
      index < ready ∧ drainReached ≤ index + 1 := by
  simp [drain.mem, stop.mem, dispose.mem]

theorem mem_stopped : (.stop, index) ∈ drained ++ stopped ++ disposed ↔
      drainReached ≤ index ∧ index < started ∧ stopReached ≤ index + 1 := by
  simp [drain.mem, stop.mem, dispose.mem]

theorem mem_disposed : (.dispose, index) ∈ drained ++ stopped ++ disposed ↔
      stopReached ≤ index ∧ index < registered ∧ disposeReached ≤ index + 1 := by
  simp [drain.mem, stop.mem, dispose.mem]

theorem phases_ordered : (drained ++ stopped ++ disposed).Pairwise Follows := by
  refine pairwise_append.mpr
    ⟨pairwise_append.mpr ⟨drain.ordered, stop.ordered, ?_⟩, dispose.ordered, ?_⟩
  · intro first early second late
    left
    rw [((drain.mem first).mp early).1, ((stop.mem second).mp late).1]
    decide
  · intro first early second late
    left
    rw [((dispose.mem second).mp late).1]
    rcases mem_append.mp early with early | early
    · rw [((drain.mem first).mp early).1]
      decide
    rw [((stop.mem first).mp early).1]
    decide

theorem phases_once (event : CallbackEvent) : (drained ++ stopped ++ disposed).count event ≤
      (answersAt plugins event.1 event.2).unavailable.length + 1 := by
  have inDrain := drain.once event
  have inStop := stop.once event
  have inDispose := dispose.once event
  have outsideDrain : event.1 ≠ .drain → drained.count event = 0 :=
    fun other => count_eq_zero.mpr fun called => other ((drain.mem event).mp called).1
  have outsideStop : event.1 ≠ .stop → stopped.count event = 0 :=
    fun other => count_eq_zero.mpr fun called => other ((stop.mem event).mp called).1
  have outsideDispose : event.1 ≠ .dispose → disposed.count event = 0 :=
    fun other => count_eq_zero.mpr fun called => other ((dispose.mem event).mp called).1
  rw [count_append, count_append]
  rcases event with ⟨phase, _⟩
  cases phase
  case drain =>
    rw [outsideStop nofun, outsideDispose nofun]
    exact inDrain
  case stop =>
    rw [outsideDrain nofun, outsideDispose nofun]
    omega
  all_goals
    rw [outsideDrain nofun, outsideStop nofun]
    omega

theorem phases_inOrder : InOrder plugins ready started registered
      (drained ++ stopped ++ disposed) := by
  have ordered := phases_ordered drain stop dispose
  have safe := stop.floor_le
  have drains : ∀ {before later event}, drained ++ stopped ++ disposed = before ++ event :: later →
      0 < rank event.1 → ∀ plugin, drainReached ≤ plugin →
      plugin < ready → Done plugins before .drain plugin := by
    intro before later event split behind plugin above below
    have called := (mem_drained drain stop dispose).mpr ⟨below, by omega⟩
    exact ⟨mem_before ordered split called (.inl behind), drain.succeeded plugin above below⟩
  have stops : ∀ {before later event}, drained ++ stopped ++ disposed = before ++ event :: later →
      ∀ plugin, 1 < rank event.1 ∨ .stop = event.1 ∧ event.2 < plugin →
      stopReached ≤ plugin → plugin < started →
      Done plugins before .stop plugin := by
    intro before later event split plugin behind above below
    have called := (mem_stopped drain stop dispose).mpr ⟨Nat.le_trans safe above, below, by omega⟩
    exact ⟨mem_before ordered split called behind, stop.succeeded plugin above below⟩
  constructor
  case once => exact phases_once drain stop dispose
  case ordered => exact ordered
  case drains =>
    intro index called
    exact ((mem_drained drain stop dispose).mp called).1
  case stops =>
    intro before index later split
    obtain ⟨above, below, reached⟩ := (mem_stopped drain stop dispose).mp
      (split ▸ mem_append_right _ mem_cons_self)
    have drains := drains split (by simp [rank])
    refine ⟨below, drains index above, ?_⟩
    intro dependent higher
    exact ⟨drains dependent (by omega), stops split dependent (.inr ⟨rfl, higher⟩) (by omega)⟩
  case disposes =>
    intro before index later split
    obtain ⟨above, below, _⟩ := (mem_disposed drain stop dispose).mp
      (split ▸ mem_append_right _ mem_cons_self)
    have drains := drains split (by simp [rank])
    have stops := fun plugin => stops split plugin (.inl (by simp [rank]))
    refine ⟨below, drains index (by omega), stops index above, ?_⟩
    intro dependent higher
    refine ⟨drains dependent (by omega), stops dependent (by omega), ?_⟩
    intro active
    have called := (mem_disposed drain stop dispose).mpr ⟨by omega, active, by omega⟩
    exact ⟨mem_before ordered split called (.inr ⟨rfl, higher⟩),
      dispose.succeeded dependent (by omega) active⟩
  case failedDrain =>
    intro index called failed lower below
    have active := (mem_drained drain stop dispose).mp called
    have ended := drain.ended active.1 failed
    rw [mem_stopped drain stop dispose, mem_disposed drain stop dispose]
    omega
  case failedStop =>
    intro index called failed lower below
    have active := (mem_stopped drain stop dispose).mp called
    have ended := stop.ended active.2.1 failed
    rw [mem_stopped drain stop dispose, mem_disposed drain stop dispose]
    omega

end RollBack

/-! ## The plugins a teardown is about -/

theorem requireAll_phase (called : event ∈ (requireAll phase index rest).trace) :
    event.1 = phase := by
  induction rest generalizing index with
  | nil => simp [requireAll] at called
  | cons _ _ induction =>
    unfold requireAll at called
    split at called
    · rcases mem_cons.mp called with rfl | later
      · rfl
      · exact induction later
    · rw [mem_singleton.mp called]

/-- The plugins that passed a phase of the activation come first. -/
theorem lt_requireAll_count {plugin : ℕ} : plugin < (requireAll phase index rest).count ↔
      (phase, index + plugin) ∈ (requireAll phase index rest).trace ∧
        (answersAt rest phase plugin).first = .ok := by
  induction rest generalizing index plugin with
  | nil => simp [requireAll]
  | cons _ _ induction =>
    unfold requireAll
    split
    case isTrue passed =>
      cases plugin with
      | zero => simp [answersAt, passed]
      | succ plugin =>
        have later := @induction (index + 1) plugin
        rw [Nat.add_right_comm] at later
        simpa [answersAt, Nat.add_assoc] using later
    case isFalse failed =>
      cases plugin with
      | zero => simp [answersAt, failed]
      | succ => simp

theorem mem_proceed {failure : Option String} :
    event ∈ (proceed plugins failure phase).trace → event.1 = phase := by
  unfold proceed
  split
  · simp
  · exact requireAll_phase

theorem lt_proceed_count {failure : Option String} :
    plugin < (proceed plugins failure phase).count ↔
      (phase, plugin) ∈ (proceed plugins failure phase).trace ∧
        (answersAt plugins phase plugin).first = .ok := by
  unfold proceed
  split
  · simp
  · rw [lt_requireAll_count, Nat.zero_add]

/-- The plugins whose callback of an activation phase succeeded. -/
def Passed (plugins : List PluginInstance) (trace : List CallbackEvent)
    (phase : LifecyclePhase) (index : ℕ) : Prop :=
  (phase, index) ∈ trace ∧ (answersAt plugins phase index).first = .ok

theorem activate_passed (index : ℕ) : (index < (activate plugins barrier).registered ↔
        Passed plugins (activate plugins barrier).trace .register index) ∧
      (index < (activate plugins barrier).started ↔
        Passed plugins (activate plugins barrier).trace .start index) ∧
      (index < (activate plugins barrier).ready ↔
        Passed plugins (activate plugins barrier).trace .ready index) := by
  have other : ∀ {failure phase other}, other ≠ phase →
      (other, index) ∉ (proceed plugins failure phase).trace :=
    fun distinct called => distinct (mem_proceed called)
  unfold activate Passed
  cases barrier <;> simp [lt_proceed_count, other]

/-- A shutdown phase is the rollback of the plugins within its limit. -/
theorem runPhase_eq_unwind {limit count : ℕ} (within : limit ≤ count) :
    (runPhase plugins phase limit count).trace = (unwind plugins phase (count - limit) count).1 ∧
      (runPhase plugins phase limit count).count =
        count - (unwind plugins phase (count - limit) count).2 := by
  induction count generalizing limit with
  | zero =>
    rw [Nat.le_zero.mp within]
    exact ⟨rfl, rfl⟩
  | succ count induction =>
    cases limit with
    | zero => simp [runPhase, unwind]
    | succ limit =>
      have below := induction (Nat.le_of_succ_le_succ within)
      have reached : (unwind plugins phase (count - limit) count).2 ≤ max (count - limit) count :=
        unwind_unwound.reached_le
      have high : ¬count + 1 ≤ count - limit := by omega
      rw [Nat.add_sub_add_right]
      unfold runPhase unwind
      split
      · dsimp only
        rw [below.1, below.2]
        exact ⟨rfl, (Nat.sub_add_comm (by omega)).symm⟩
      · exact ⟨rfl, (Nat.sub_self _).symm⟩

theorem shutdownChecked_eq_rollBack : (shutdownChecked plugins).1 =
      rollBack plugins plugins.length plugins.length plugins.length := by
  have total := Nat.le_refl plugins.length
  have reached : ∀ phase floor, floor ≤ plugins.length →
      (unwind plugins phase floor plugins.length).2 ≤ plugins.length :=
    fun phase floor low => Nat.le_trans unwind_unwound.reached_le (Nat.max_le.mpr ⟨low, total⟩)
  have safe := reached .drain 0 (Nat.zero_le _)
  have drain := @runPhase_eq_unwind plugins .drain _ _ total
  have stop := @runPhase_eq_unwind plugins .stop _ _
    (Nat.sub_le plugins.length (unwind plugins .drain 0 plugins.length).2)
  have dispose := @runPhase_eq_unwind plugins .dispose _ _ (Nat.sub_le plugins.length
      (unwind plugins .stop (unwind plugins .drain 0 plugins.length).2 plugins.length).2)
  rw [Nat.sub_self] at drain
  rw [Nat.sub_sub_self safe] at stop
  rw [Nat.sub_sub_self (reached .stop _ safe)] at dispose
  unfold shutdownChecked rollBack
  dsimp only
  rw [drain.2, drain.1, stop.2, stop.1, dispose.1]

/--
Every teardown of a stack of plugins goes down it phase by phase.  A rollback
is about the plugins that passed the phases of the activation, and a shutdown
makes the same calls as the rollback of a stack that is ready as a whole.
When a plugin is stopped, it and every plugin above it was drained if it was
ready, and every one above it was stopped if it had started; when it is
disposed, it and every plugin above it was drained and stopped as far as it
had come, and every one above it was disposed.  A failed drain keeps its
plugin and those below from being stopped and disposed; a failed stop keeps
those below from being stopped and all of them from being disposed.  A
callback is called again only while it is unavailable.
-/
theorem plugin_teardown_in_order (plugins : List PluginInstance) (barrier : RegistrationBarrier) :
    let activation := activate plugins barrier
    (∀ index, (index < activation.registered ↔ Passed plugins activation.trace .register index) ∧
      (index < activation.started ↔ Passed plugins activation.trace .start index) ∧
      (index < activation.ready ↔ Passed plugins activation.trace .ready index)) ∧
    InOrder plugins activation.ready activation.started activation.registered
      (rollBack plugins activation.ready activation.started activation.registered) ∧
    InOrder plugins plugins.length plugins.length plugins.length (shutdownChecked plugins).1 ∧
    (shutdownChecked plugins).1 =
      rollBack plugins plugins.length plugins.length plugins.length := by
  have inOrder : ∀ ready started registered, InOrder plugins ready started registered
      (rollBack plugins ready started registered) :=
    fun ready started registered =>
      phases_inOrder unwind_unwound unwind_unwound unwind_unwound
  refine ⟨activate_passed, inOrder _ _ _, ?_, shutdownChecked_eq_rollBack⟩
  rw [shutdownChecked_eq_rollBack]
  exact inOrder _ _ _

/--
A drain that is unavailable once is called twice, and the lower plugin is
stopped before the higher one is disposed.
-/
theorem plugin_teardown_drain_unavailable :
    let plugins : List PluginInstance :=
      [ ⟨"lower", fun _ => {}⟩, ⟨"higher", fun phase =>
          if phase = .drain then { unavailable := ["busy"] } else {}⟩ ]
    (shutdownChecked plugins).2 = none ∧
    (shutdownChecked plugins).1 = [(.drain, 1), (.drain, 1), (.drain, 0), (.stop, 1), (.stop, 0),
        (.dispose, 1), (.dispose, 0)] := by
  decide

end PluginStack

end Pih
