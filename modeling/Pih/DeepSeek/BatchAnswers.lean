import Pih.DeepSeek.BatchProgress
import Pih.Library.Runs

/-!
# Every accepted job is answered, and the worker stops

A run is any interleaving of the worker, the callers and the destructor.  In
every run in which the destructor stores its flag while the worker still
reaches the queue, and no failed configuration is left behind, every job is
completed exactly once and a closing worker returns.
-/

namespace Pih

open List Option

namespace BatchGenerator

variable {Engine : Type}

abbrev BatchEntry (Engine : Type) := Entry (BatchGenerator Engine) Action BatchEvents

/-- The jobs that a history completes, in order. -/
def completions (history : List (BatchEntry Engine)) : List ℕ :=
  history.flatMap fun entry => entry.outcome.completed

variable (api : BatchEngine Engine) {state final : BatchGenerator Engine}
  {number : ℕ}

/--
The steps without the three races: a configuration that fails can be taken
back, and the destructor stores its flag while the worker still reaches every
queued job and is not about to block.
-/
def Permitted (state : BatchGenerator Engine) : Action → Prop
  | .work _ _ =>
    state.phase = .admitting → ∀ number ∈ state.queued.head?, state.Retirable api number
  | .storeClosing => state.destructor = .open → state.board.Closable state.sequences
  | _ => True

instance (api : BatchEngine Engine) (state : BatchGenerator Engine) :
    (action : Action) → Decidable (Permitted api state action)
  | .work _ _ | .storeClosing => inferInstanceAs (Decidable (_ → _))
  | .wakeSpuriously | .generate _ | .pollCancelled _ _ | .consume _ _ _
  | .notifyAll | .join => inferInstanceAs (Decidable True)

/-- What holds of every reached state. -/
structure Fit (state : BatchGenerator Engine) : Prop where
  positive : 0 < state.sequences
  sound : state.board.Sound state.sequences state.pending
  below : ∀ number ∈ state.queued ++ state.active, number < state.jobs.length
  woken : state.closing = true → state.phase = .parked → state.destructor = .stored

/-- A step of the worker or of another thread. -/
theorem execute_cases (fit : Fit state) (action : Action) : (∃ now polls, action = .work now polls ∧
      Works api state now (execute api state action).1 (execute api state action).2) ∨
    (∀ now polls, action ≠ .work now polls) ∧ Calls state (execute api state action).1
        (execute api state action).2 := by
  cases action with
  | work now polls =>
    refine .inl ⟨now, polls, rfl, work_works api state now polls ?_⟩
    intro selected prefill sample settling
    have phased := fit.sound.phased
    rw [board_of_phase settling] at phased
    exact phased.2
  | _ => exact .inr ⟨nofun, execute_calls api state _ nofun⟩

theorem interrupts_of_closing (closing : state.closing = true)
    (now number : ℕ) : state.Interrupts now number := by
  unfold Interrupts interrupted
  rw [if_pos (.inl closing)]
  nofun

theorem interrupts_of_deadline (elapsed : (state.job number).deadline ≤ now) :
    state.Interrupts now number := by
  unfold Interrupts interrupted
  split <;> nofun

/-! ## The closing flag -/

/-- What another thread does to the flag and to a parked worker. -/
inductive Flagged (state after : BatchGenerator Engine) : Action → Prop where
  | same {action : Action} (closing : after.closing = state.closing)
    (phase : after.phase = state.phase)
    (destructor : after.destructor = state.destructor) :
    Flagged state after action
  | awake {action : Action} (closing : after.closing = state.closing)
    (phase : after.phase ≠ .parked) :
    Flagged state after action
  | stored (opened : state.destructor = .open) (destructor : after.destructor = .stored) :
    Flagged state after .storeClosing

theorem notify_phase_ne : (notify state).phase ≠ .parked := by
  unfold notify
  split
  next => nofun
  next awake => exact awake

theorem notify_closing : (notify state).closing = state.closing := by
  unfold notify
  split <;> rfl

theorem execute_flagged (state : BatchGenerator Engine) (action : Action)
    (other : ∀ now polls, action ≠ .work now polls) :
    Flagged state (execute api state action).1 action := by
  have polled (number : ℕ) (callback : BatchCallback)
      {reached : BatchGenerator Engine} (action : Action)
      (closing : reached.closing = state.closing)
      (phase : reached.phase = state.phase)
      (destructor : reached.destructor = state.destructor) :
      Flagged state (reached.pollCancelled number callback) action := by
    cases callback <;> exact .same closing phase destructor
  cases action with
  | work now polls => exact (other now polls rfl).elim
  | wakeSpuriously => exact .awake notify_closing notify_phase_ne
  | generate =>
    unfold execute generate
    dsimp only
    split
    · exact .same rfl rfl rfl
    next =>
      split
      · exact .same rfl rfl rfl
      next =>
        split
        · exact .same rfl rfl rfl
        next =>
          split
          · exact .same rfl rfl rfl
          · exact .awake notify_closing notify_phase_ne
  | pollCancelled number callback => exact polled number callback _ rfl rfl rfl
  | consume number _ callback =>
    unfold execute consume
    dsimp only
    split
    · exact .same rfl rfl rfl
    next =>
      split
      next =>
        split
        · exact polled number callback _ rfl rfl rfl
        · exact .same rfl rfl rfl
      next => split <;> exact .same rfl rfl rfl
  | storeClosing =>
    unfold execute
    dsimp only
    split
    next opened => exact .stored opened rfl
    · exact .same rfl rfl rfl
  | notifyAll =>
    unfold execute
    dsimp only
    split
    · exact .awake notify_closing notify_phase_ne
    · exact .same rfl rfl rfl
  | join =>
    unfold execute
    dsimp only
    split
    next joined =>
      refine .awake rfl ?_
      rw [joined.2]
      nofun
    · exact .same rfl rfl rfl

/-- A step of another thread may add one job to the queue. -/
theorem Calls.lists {after : BatchGenerator Engine} (calls : Calls state after events) :
    after.active = state.active ∧ (after.jobs.length = state.jobs.length ∧
        after.queued = state.queued ∨
      after.jobs.length = state.jobs.length + 1 ∧
        after.queued = state.queued ++ [state.jobs.length]) := by
  have grows := calls.grows
  rcases calls.called.lists with ⟨active, ⟨count, queued⟩ | ⟨count, queued⟩⟩
  · exact ⟨active, .inl ⟨by omega, queued⟩⟩
  · exact ⟨active, .inr ⟨by omega, queued⟩⟩

/-- Another thread queues only the job that it adds to the table. -/
theorem Calls.below {after : BatchGenerator Engine} (calls : Calls state after events)
    (below : ∀ number ∈ state.queued ++ state.active, number < state.jobs.length) :
    ∀ number ∈ after.queued ++ after.active, number < after.jobs.length := by
  intro number member
  rcases calls.lists with ⟨active, lists⟩
  rw [active] at member
  rcases lists with ⟨length, queued⟩ | ⟨length, queued⟩
  · rw [queued] at member
    rw [length]
    exact below number member
  rw [queued, mem_append, mem_append, mem_singleton] at member
  rcases member with (old | new) | old
  · have earlier := below number (mem_append_left _ old)
    omega
  · omega
  have earlier := below number (mem_append_right _ old)
  omega

/-- One step keeps a state fit. -/
theorem Fit.step (api : BatchEngine Engine) (fit : Fit state)
    (permitted : Permitted api state action) : Fit (execute api state action).1 := by
  rcases execute_cases api fit action with ⟨now, _, rfl, works⟩ | ⟨other, calls⟩
  · have sound := works.worked.sound (fun closing => interrupts_of_closing closing now) fit.sound
    refine ⟨?_, ?_, ?_, ?_⟩
    · rw [works.sequences]
      exact fit.positive
    · rw [works.sequences, works.pending]
      exact sound
    · intro number member
      rw [works.kept.length]
      exact fit.below number (works.worked.members member)
    · intro closing parked
      rw [works.destructor]
      rcases works.worked.parked fit.sound closing parked with ⟨earlier, still⟩
      exact fit.woken earlier still
  have flagged := execute_flagged api state action other
  refine ⟨?_, ?_, ?_, ?_⟩
  · rw [calls.sequences]
    exact fit.positive
  · rw [calls.sequences, calls.pending]
    refine calls.called.sound fit.sound fit.below ?_
    intro closing
    cases flagged with
    | same kept | awake kept => exact .inl (kept.symm.trans closing)
    | stored opened => exact .inr (permitted opened)
  · exact calls.below fit.below
  · intro closing parked
    cases flagged with
    | same kept phase destructor =>
      rw [destructor]
      exact fit.woken (kept.symm.trans closing) (phase.symm.trans parked)
    | awake _ phase => exact (phase parked).elim
    | stored _ destructor => exact destructor

/-! ## Every job is somewhere -/

/-- What holds of every history and the state it reaches. -/
structure Books (history : List (BatchEntry Engine)) (state : BatchGenerator Engine) : Prop where
  fit : Fit state
  listed : (completions history ++ (state.queued ++ state.active)).Perm (range state.jobs.length)
  done : ∀ number job, state.jobs[number]? = some job →
    (job.done = true ↔ number ∈ completions history)

theorem completions_step (history : List (BatchEntry Engine))
    (state : BatchGenerator Engine) (action : Action) :
    completions (history ++ [.of (execute api) state action]) =
      completions history ++ (execute api state action).2.completed := by
  simp [completions, Entry.of]

theorem Books.step (api : BatchEngine Engine) (books : Books history state)
    (permitted : Permitted api state action) :
    Books (history ++ [.of (execute api) state action]) (execute api state action).1 := by
  refine ⟨books.fit.step api permitted, ?_, ?_⟩
  · rw [completions_step]
    rcases execute_cases api books.fit action with ⟨now, polls, rfl, works⟩ | ⟨other, calls⟩
    · rw [works.kept.length, append_assoc]
      have same := works.worked.perm books.fit.sound permitted
      exact (same.append_left _).trans books.listed
    rcases calls.lists with ⟨active, lists⟩
    rw [calls.completed, append_nil, active]
    rcases lists with ⟨length, queued⟩ | ⟨length, queued⟩
    · rw [length, queued]
      exact books.listed
    rw [length, queued, range_succ]
    have moved : (state.queued ++ [state.jobs.length] ++ state.active).Perm
        ((state.queued ++ state.active) ++ [state.jobs.length]) := by
      rw [append_assoc, append_assoc]
      exact perm_append_comm.append_left _
    refine (moved.append_left _).trans ?_
    rw [← append_assoc]
    exact books.listed.append_right _
  · intro number next found
    rw [completions_step, mem_append]
    rcases execute_cases api books.fit action with ⟨_, _, rfl, works⟩ | ⟨_, calls⟩
    · have inside := (List.getElem_of_getElem? found).1
      rw [works.kept.length] at inside
      have listed := getElem?_eq_getElem inside
      rcases works.kept.each number _ listed with ⟨same, reached, kept⟩
      cases some.inj (reached.symm.trans found)
      rw [kept.done, books.done number _ listed]
    rw [calls.completed, or_iff_left not_mem_nil]
    by_cases inside : number < state.jobs.length
    · have listed := getElem?_eq_getElem inside
      rcases calls.each number _ listed with ⟨_, reached, waits⟩
      cases some.inj (reached.symm.trans found)
      rw [waits.done, books.done number _ listed]
    rcases calls.fresh number next (Nat.le_of_not_lt inside) found with ⟨_, rfl⟩
    refine iff_of_false nofun ?_
    intro completed
    have known := books.listed.subset (mem_append_left _ completed)
    exact inside (mem_range.mp known)

variable {sequences tokens pending : ℕ}

/-- The generator that the constructor returns. -/
theorem Books.create {engine : Engine}
    {start : BatchGenerator Engine}
    (created : create engine sequences tokens pending = some start) : Books [] start := by
  unfold BatchGenerator.create at created
  split at created
  next => cases created
  next =>
    cases created
    have positive : 0 < sequences := by omega
    have opened {goal : Prop} : false = true → goal :=
      fun closing => (Bool.false_ne_true closing).elim
    have none {goal : ℕ → Prop} : ∀ number ∈ ([] : List ℕ), goal number :=
      fun _ member => (not_mem_nil member).elim
    refine ⟨⟨positive, ?_, none, opened⟩, .refl _, ?_⟩
    · exact ⟨Nat.zero_le _, Nat.zero_le _, .nil, none, .nil, trivial, opened⟩
    · intro number job found
      cases found

/-- Runs without the three races. -/
abbrev PermittedRun := Run (execute api) (fun _ => Permitted api)

variable {history later : List (BatchEntry Engine)}

theorem Books.run {api : BatchEngine Engine} (books : Books history state)
    (run : PermittedRun api state later final) : Books (history ++ later) final := by
  refine run.invariant (fun later => Books _) ?_ ?_
  · rw [append_nil]
    exact books
  · intro later reached action _ books permitted
    rw [← append_assoc]
    exact books.step api permitted

/-- Each job is queued, active or complete, and only one of them, once. -/
theorem Books.count (books : Books history state) (accepted : number < state.jobs.length) :
    (completions history).count number + state.queued.count number +
      state.active.count number = 1 := by
  have counted := books.listed.count_eq number
  rw [count_append, count_append, count_eq_one_of_mem nodup_range
      (mem_range.mpr accepted)] at counted
  omega

theorem Books.count_eq_one (books : Books history state) (accepted : number < state.jobs.length)
    (gone : number ∉ state.queued ++ state.active) : (completions history).count number = 1 := by
  have counted := books.count accepted
  rw [mem_append, not_or] at gone
  rw [count_eq_zero_of_not_mem gone.1, count_eq_zero_of_not_mem gone.2] at counted
  omega

/-! ## Every job is completed -/

def Action.works : Action → Bool
  | .work _ _ => true
  | _ => false

/-- The worker does not see a time before the given one. -/
def Action.NotBefore (clock : ℕ) : Action → Prop
  | .work now _ => clock ≤ now
  | _ => True

/-- The job and the jobs before it have run out of time. -/
structure Elapsed (last clock : ℕ) (state : BatchGenerator Engine) : Prop where
  fit : Fit state
  known : last < state.jobs.length
  deadlines : ∀ number ≤ last, ∀ job, state.jobs[number]? = some job → job.deadline ≤ clock

theorem deadline_kept (fit : Fit state) {job : BatchJob} (found : state.jobs[number]? = some job) :
    ∃ next, (execute api state action).1.jobs[number]? = some next ∧
      next.deadline = job.deadline := by
  rcases execute_cases api fit action with ⟨_, _, rfl, works⟩ | ⟨_, calls⟩
  · rcases works.kept.each number job found with ⟨next, reached, kept⟩
    exact ⟨next, reached, congrArg GenerateRequest.deadline kept.request⟩
  rcases calls.each number job found with ⟨next, reached, waits⟩
  exact ⟨next, reached, congrArg GenerateRequest.deadline waits.request⟩

theorem length_grows (fit : Fit state) :
    state.jobs.length ≤ (execute api state action).1.jobs.length := by
  rcases execute_cases api fit action with ⟨_, _, rfl, works⟩ | ⟨_, calls⟩
  · exact Nat.le_of_eq works.kept.length.symm
  · exact calls.grows

theorem Elapsed.step (api : BatchEngine Engine) (elapsed : Elapsed last clock state)
    (permitted : Permitted api state action) :
    Elapsed last clock (execute api state action).1 where
  fit := elapsed.fit.step api permitted
  known := Nat.lt_of_lt_of_le elapsed.known (length_grows api elapsed.fit)
  deadlines := by
    intro number early next reached
    have inside : number < state.jobs.length := Nat.lt_of_le_of_lt early elapsed.known
    have found := getElem?_eq_getElem inside
    rcases deadline_kept api elapsed.fit found with ⟨_, listed, deadline⟩
    cases some.inj (listed.symm.trans reached)
    rw [deadline]
    exact elapsed.deadlines number early _ found

/-- Jobs that have run out of time are complete after so many steps. -/
theorem Elapsed.completed {api : BatchEngine Engine} (elapsed : Elapsed last clock state)
    (run : Run (execute api) (fun _ state action =>
        Permitted api state action ∧ action.NotBefore clock)
      state later final) (enough : BatchBoard.bound state.sequences state.pending ≤
      later.countP fun entry => entry.action.works) : ¬ final.board.Waiting last := by
  have paced : state.board.pace state.sequences state.pending last + 10 < _ :=
    elapsed.fit.sound.pace_le
  have ticked : state.board.pace state.sequences state.pending last <
      later.countP fun entry => Action.works entry.action :=
    Nat.lt_of_lt_of_le (by omega) enough
  refine run.countdown _ (fun state => ¬ state.board.Waiting last) (fun state =>
      state.board.pace state.sequences state.pending last)
    Action.works ?_ ?_ ?_ elapsed ticked
  · intro history reached action elapsed permitted
    exact elapsed.step api permitted.1
  · intro history reached action elapsed permitted gone waiting
    rcases execute_cases api elapsed.fit action with ⟨now, polls, rfl, works⟩ | ⟨other, calls⟩
    · exact gone (works.worked.waiting waiting)
    · exact gone (calls.called.waiting elapsed.known waiting)
  · intro history reached action elapsed permitted unfinished
    rw [not_not] at unfinished
    rcases execute_cases api elapsed.fit action with ⟨now, polls, rfl, works⟩ | ⟨other, calls⟩
    · rw [works.sequences, works.pending]
      refine works.worked.pace_lt elapsed.fit.positive elapsed.fit.sound ?_ unfinished
      intro number early
      have inside : number < reached.jobs.length := Nat.lt_of_le_of_lt early elapsed.known
      have found := getElem?_eq_getElem inside
      apply interrupts_of_deadline
      rw [job_of_found found]
      exact Nat.le_trans (elapsed.deadlines number early _ found) permitted.2
    have idle : action.works = false := by
      cases action with
      | work now polls => exact (other now polls rfl).elim
      | _ => rfl
    have held := calls.called.pace_le elapsed.fit.sound
        (calls.called.waiting elapsed.known unfinished)
    rw [idle, calls.sequences, calls.pending]
    exact held

/-! ## The caller returns -/

def Action.consumes (number : ℕ) : Action → Bool
  | .consume other _ _ => other = number
  | _ => false

/-- A job that is complete and out of the worker's reach. -/
structure Finished (number : ℕ) (state : BatchGenerator Engine) : Prop where
  fit : Fit state
  gone : number ∉ state.queued ++ state.active
  done : ∃ job, state.jobs[number]? = some job ∧ job.done = true

theorem Finished.step (api : BatchEngine Engine)
    (finished : Finished number state) (permitted : Permitted api state action) :
    Finished number (execute api state action).1 ∧ ∀ job next, state.jobs[number]? = some job →
      (execute api state action).1.jobs[number]? = some next →
        next.outputs.length ≤ job.outputs.length ∧
          (job.returned = true → next.returned = true) := by
  have next := finished.fit.step api permitted
  rcases finished.done with ⟨job, found, done⟩
  have inside := (List.getElem_of_getElem? found).1
  have gone := finished.gone
  rcases execute_cases api finished.fit action with ⟨_, _, rfl, works⟩ | ⟨_, calls⟩
  · rcases works.kept.each number job found with ⟨later, reached, kept⟩
    refine ⟨⟨next, ?_, later, reached, kept.done.mpr (.inl done)⟩, ?_⟩
    · exact fun member => gone (works.worked.members member)
    · intro first second before after
      cases some.inj (found.symm.trans before)
      cases some.inj (reached.symm.trans after)
      rw [mem_append, not_or] at gone
      rw [kept.outputs gone.2, kept.returned]
      exact ⟨Nat.le_refl _, id⟩
  rcases calls.each number job found with ⟨later, reached, waits⟩
  refine ⟨⟨next, ?_, later, reached, waits.done.trans done⟩, ?_⟩
  · rcases calls.lists with ⟨active, ⟨_, queued⟩ | ⟨_, queued⟩⟩
    · rw [active, queued]
      exact gone
    · rw [active, queued]
      intro member
      rw [mem_append, mem_append, mem_singleton] at member
      rw [mem_append, not_or] at gone
      rcases member with (old | new) | old
      · exact gone.1 old
      · omega
      · exact gone.2 old
  · intro first second before after
    cases some.inj (found.symm.trans before)
    cases some.inj (reached.symm.trans after)
    exact ⟨waits.outputs, waits.returned⟩

theorem updateJob_found {job : BatchJob} (update : BatchJob → BatchJob)
    (found : state.jobs[number]? = some job) :
    (state.updateJob number update).jobs[number]? = some (update job) := by
  simp [updateJob, found]

/-- A turn of the caller takes an output or returns. -/
theorem consume_drops {job next : BatchJob}
    (found : state.jobs[number]? = some job) (done : job.done = true)
    (reached : (consume state number now callback).1.jobs[number]? = some next)
    (waiting : next.returned ≠ true) : next.outputs.length + 1 ≤ job.outputs.length := by
  unfold consume at reached
  rw [job_of_found found] at reached
  dsimp only at reached
  split at reached
  next returned =>
    cases some.inj (found.symm.trans reached)
    exact (waiting returned).elim
  next =>
    split at reached
    next rest outputs =>
      have popped := updateJob_found (fun job => { job with outputs := rest }) found
      have left : next.outputs = rest := by
        split at reached
        next =>
          cases callback with
          | accepted =>
            cases some.inj (popped.symm.trans reached)
            rfl
          | refused | threw =>
            cases some.inj ((updateJob_found _ popped).symm.trans reached)
            rfl
        next =>
          cases some.inj (popped.symm.trans reached)
          rfl
      rw [left, outputs, length_cons]
    next =>
      cases some.inj ((updateJob_found _ found).symm.trans reached)
      exact (waiting rfl).elim

/-- The caller of a complete job returns after so many turns. -/
theorem Finished.returned {api : BatchEngine Engine} (finished : Finished number state)
    (run : PermittedRun api state later final) (enough : (state.job number).outputs.length <
      later.countP fun entry => entry.action.consumes number) :
    (final.job number).returned = true := by
  refine run.countdown _ (fun state => (state.job number).returned = true)
    (fun state => (state.job number).outputs.length)
    _ ?_ ?_ ?_ finished enough
  · intro history reached action finished permitted
    exact (finished.step api permitted).1
  · intro history reached action finished permitted returned
    rcases finished.done with ⟨job, found, -⟩
    rcases finished.step api permitted with ⟨after, kept⟩
    rcases after.done with ⟨next, listed, -⟩
    rw [job_of_found found] at returned
    rw [job_of_found listed]
    exact (kept job next found listed).2 returned
  · intro history reached action finished permitted waiting
    rcases finished.done with ⟨job, found, done⟩
    rcases finished.step api permitted with ⟨after, kept⟩
    rcases after.done with ⟨next, listed, -⟩
    rw [job_of_found listed] at waiting
    rw [job_of_found listed, job_of_found found]
    split
    next consumes =>
      cases action with
      | consume =>
        cases of_decide_eq_true consumes
        exact consume_drops found done listed waiting
      | _ => cases consumes
    · exact (kept job next found listed).1

/-! ## The worker stops -/

/-- A closing generator whose worker is not blocked. -/
structure Stopping (last : ℕ) (state : BatchGenerator Engine) : Prop where
  fit : Fit state
  closing : state.closing = true
  awake : state.board.Awake
  below : ∀ number ∈ state.queued ++ state.active, number ≤ last

theorem Stopping.step (api : BatchEngine Engine)
    (stopping : Stopping last state) (permitted : Permitted api state action) :
    Stopping last (execute api state action).1 := by
  have fit := stopping.fit.step api permitted
  rcases execute_cases api stopping.fit action with ⟨_, _, rfl, works⟩ | ⟨_, calls⟩
  · rcases works.worked.awake stopping.closing stopping.awake with ⟨closing, awake⟩
    exact ⟨fit, closing, awake, fun number member =>
      stopping.below number (works.worked.members member)⟩
  have same := calls.called.eq_of_closing stopping.closing stopping.awake.2
  have queued : (execute api state action).1.queued = state.queued :=
    congrArg BatchBoard.queued same
  have active : (execute api state action).1.active = state.active :=
    congrArg BatchBoard.active same
  have closing : (execute api state action).1.closing = state.closing :=
    congrArg BatchBoard.closing same
  refine ⟨fit, closing.trans stopping.closing, ?_, ?_⟩
  · rw [same]
    exact stopping.awake
  · rw [queued, active]
    exact stopping.below

theorem Stopping.returned {api : BatchEngine Engine}
    (stopping : Stopping last state) (run : PermittedRun api state later final)
    (enough : BatchBoard.bound state.sequences state.pending ≤
      later.countP fun entry => entry.action.works) : final.phase = .returned := by
  have paced : state.board.stopPace state.sequences state.pending last < _ :=
    stopping.fit.sound.stopPace_lt
  refine run.countdown _ (fun state => state.phase = .returned) (fun state =>
      state.board.stopPace state.sequences state.pending last)
    Action.works ?_ ?_ ?_ stopping (Nat.lt_of_lt_of_le paced enough)
  · intro history reached action stopping permitted
    exact stopping.step api permitted
  · intro history reached action stopping permitted returned
    rcases execute_cases api stopping.fit action with ⟨now, polls, rfl, works⟩ | ⟨other, calls⟩
    · have same := works.worked.eq_of_returned returned
      exact (congrArg BatchBoard.phase same).trans returned
    have same := calls.called.eq_of_closing stopping.closing stopping.awake.2
    exact (congrArg BatchBoard.phase same).trans returned
  · intro history reached action stopping permitted running
    rcases execute_cases api stopping.fit action with ⟨now, polls, rfl, works⟩ | ⟨other, calls⟩
    · rw [works.sequences, works.pending]
      exact works.worked.stopPace_lt stopping.fit.positive stopping.fit.sound stopping.closing
        (interrupts_of_closing stopping.closing now) stopping.awake
        stopping.below running
    have idle : action.works = false := by
      cases action with
      | work now polls => exact (other now polls rfl).elim
      | _ => rfl
    have same := calls.called.eq_of_closing stopping.closing stopping.awake.2
    rw [idle, same, calls.sequences, calls.pending]
    exact Nat.le_refl _

/-! ## Answers -/

/-- What the generator owes its callers and its destructor. -/
structure Answers (history : List (BatchEntry Engine)) (state : BatchGenerator Engine) : Prop where
  once : ∀ number < state.jobs.length,
    (completions history).count number + state.queued.count number + state.active.count number = 1
  stopped : state.phase = .returned →
    ∀ number < state.jobs.length, (completions history).count number = 1
  completed : ∀ number < state.jobs.length, ∀ clock,
    (∀ earlier ≤ number, (state.job earlier).deadline ≤ clock) →
    ∀ later final, Run (execute api) (fun _ state action =>
          Permitted api state action ∧ action.NotBefore clock)
        state later final →
      BatchBoard.bound state.sequences state.pending ≤
        later.countP (fun entry => entry.action.works) →
      (completions (history ++ later)).count number = 1
  returned : ∀ number ∈ completions history, ∀ later final, PermittedRun api state later final →
    (state.job number).outputs.length < later.countP (fun entry => entry.action.consumes number) →
    (final.job number).returned = true
  joined : state.closing = true → state.destructor ≠ .stored →
    ∀ later final, PermittedRun api state later final →
      BatchBoard.bound state.sequences state.pending ≤
        later.countP (fun entry => entry.action.works) →
      final.phase = .returned ∧ (final.destructor = .notified →
          (execute api final .join).1.destructor = .joined)

theorem length_run {api : BatchEngine Engine} (fit : Fit state)
    (run : PermittedRun api state later final) : state.jobs.length ≤ final.jobs.length := by
  have both : Fit final ∧ state.jobs.length ≤ final.jobs.length := by
    refine run.invariant (fun _ final => Fit final ∧ state.jobs.length ≤ final.jobs.length)
      ⟨fit, Nat.le_refl _⟩ ?_
    rintro _ _ _ _ ⟨fit, grown⟩ permitted
    exact ⟨fit.step api permitted, Nat.le_trans grown (length_grows api fit)⟩
  exact both.2

/-- Once the destructor has notified, the worker is not blocked. -/
theorem Fit.awake (fit : Fit state) (closing : state.closing = true)
    (stored : state.destructor ≠ .stored) : state.board.Awake := by
  constructor
  · intro parking
    have phased := fit.sound.phased
    rw [board_of_phase parking] at phased
    have opened : state.closing = false := phased.2.2
    rw [opened] at closing
    cases closing
  · intro parked
    exact stored (fit.woken closing parked)

theorem Books.answers {api : BatchEngine Engine} (books : Books history state) :
    Answers api history state where
  once number accepted := books.count accepted
  stopped returned number accepted := by
    apply books.count_eq_one accepted
    have phased := books.fit.sound.phased
    rw [board_of_phase returned] at phased
    have active : state.active = [] := phased.1
    have queued : state.queued = [] := phased.2.1
    rw [active, queued]
    exact not_mem_nil
  completed number accepted clock deadlines later final run enough := by
    have elapsed : Elapsed number clock state :=
      { fit := books.fit
        known := accepted
        deadlines := by
          intro earlier early job found
          rw [← job_of_found found]
          exact deadlines earlier early }
    have permitted : PermittedRun api state later final := run.weaken fun _ _ _ both => both.1
    have reached := books.run permitted
    have gone := elapsed.completed run enough
    apply reached.count_eq_one
    · exact Nat.lt_of_lt_of_le accepted (length_run books.fit permitted)
    · intro member
      exact gone ⟨number, member, Nat.le_refl number⟩
  returned number completed later final run enough := by
    have accepted : number < state.jobs.length := mem_range.mp
        (books.listed.subset (mem_append_left _ completed))
    have found := getElem?_eq_getElem accepted
    have finished : Finished number state :=
      { fit := books.fit
        gone := by
          intro member
          have counted := books.count accepted
          have first := count_pos_iff.mpr completed
          have second := count_pos_iff.mpr member
          rw [count_append] at second
          omega
        done := ⟨_, found, (books.done number _ found).mpr completed⟩ }
    exact finished.returned run enough
  joined closing stored later final run enough := by
    have stopping : Stopping state.jobs.length state :=
      { fit := books.fit
        closing
        awake := books.fit.awake closing stored
        below := fun number member => Nat.le_of_lt (books.fit.below number member) }
    have returned := stopping.returned run enough
    refine ⟨returned, ?_⟩
    intro notified
    unfold execute
    dsimp only
    rw [if_pos ⟨notified, returned⟩]

/--
In every run without the three races, each accepted job is completed exactly
once, its caller returns, and a closing worker returns, so that the
destructor joins it.
-/
theorem jobs_answered_and_worker_stops {api : BatchEngine Engine} {engine : Engine}
    {start state : BatchGenerator Engine}
    {history : List (BatchEntry Engine)}
    (created : create engine sequences tokens pending = some start)
    (run : PermittedRun api start history state) :
    Answers api history state :=
  ((Books.create created).run run).answers

/-- Jobs become active in the order in which they were accepted, within the limits. -/
theorem jobs_admitted_in_order {api : BatchEngine Engine} {engine : Engine}
    {start state : BatchGenerator Engine}
    {history : List (BatchEntry Engine)}
    (created : create engine sequences tokens pending = some start)
    (run : PermittedRun api start history state) :
    state.queued.Pairwise (· < ·) ∧
      (∀ number ∈ state.active, ∀ later ∈ state.queued, number < later) ∧ state.active.Nodup ∧
      state.active.length ≤ state.sequences ∧ state.queued.length ≤ state.pending := by
  have sound := ((Books.create created).run run).fit.sound
  exact ⟨sound.order, sound.fifo, sound.distinct, sound.room, sound.bounded⟩

/-! ## The three races -/

/-- A worker that is blocked stays blocked. -/
theorem work_parked (parked : state.phase = .parked) :
    (execute api state (.work now polls)).1.phase = .parked := by
  simp only [execute, work, parked]

/-- An engine that accepts every call, or refuses to configure and cancel. -/
def scriptedEngine (faulty : Bool) : BatchEngine Unit where
  bindExecutionThread engine := (engine, .ok ())
  submitRequest engine _ _ := (engine, .ok ())
  configureLedger engine _ _ _ _ _ := (engine,
      if faulty then .error (.invalidArgument "ledger") else .ok ())
  configureSampling engine _ _ _ := (engine, .ok ())
  cancelRequest engine _ _ := (engine, if faulty then .error (.internal "cancel") else .ok ())
  finishRequest engine _ _ := (engine, .ok ())
  retireRequest engine _ _ := (engine, .ok ())
  prepareProductionPipeline engine _ _ _ _ _ _ _ := (engine, .ok ())
  commitPipeline engine := (engine, .ok ())
  executionLive _ := false
  advanceBoundPipeline engine := (engine, .ok ())
  acknowledgeOutputPlan engine _ := (engine, .ok ())
  acceptedTokenSnapshot _ _ _ := .error (.internal "snapshot")
  failAll engine := engine
  epoch _ := 1
  worldSize _ := 1

/-- A generator for one sequence and two queued jobs. -/
def oneSequence : BatchGenerator Unit where
  engine := ()
  sequences := 1
  tokens := 1
  pending := 2

theorem oneSequence_created : create () 1 1 2 = some oneSequence := rfl

def oneToken (id : ℕ) : GenerateRequest where
  prompt := [7]
  maximum := 1
  minimum := 0
  capacity := 2
  id := id
  generation := 1
  deadline := 1000

/-- The worker takes so many steps. -/
def worker (steps : ℕ) : List Action := replicate steps (.work 1 1)

/-- The flag is stored while a job waits behind a full batch. -/
def closedBehindBatch : List (BatchGenerator Unit → Action) := always
    ([.generate (oneToken 1)] ++ worker 4 ++ [.generate (oneToken 2), .storeClosing] ++ worker 3)

/-- The flag is stored while the worker is about to block. -/
def closedBeforeBlocking : List (BatchGenerator Unit → Action) :=
  always (worker 3 ++ [.storeClosing, .notifyAll] ++ worker 1)

/-- A configuration fails and cannot be taken back. -/
def configurationStuck : List (BatchGenerator Unit → Action) :=
  always ([.generate (oneToken 1)] ++ worker 4)

/-- The flag is stored while the only job is active. -/
def closedOverBatch : List (BatchGenerator Unit → Action) := always
    ([.generate (oneToken 1)] ++ worker 4 ++ [.storeClosing, .notifyAll] ++ worker 3)

/-- Two jobs wait behind a full batch. -/
def waitingBehindBatch : List (BatchGenerator Unit → Action) := always
    ([.generate (oneToken 1)] ++ worker 4 ++ [.generate (oneToken 2), .generate (oneToken 3)])

/-- The one job of a run that closes over its batch. -/
theorem jobs_answered_over_batch :
    let reached := runScript (execute (scriptedEngine false)) [] oneSequence closedOverBatch
    Answers (scriptedEngine false) reached.1 reached.2 ∧
      reached.2.phase = .returned ∧ completions reached.1 = [0] :=
  ⟨jobs_answered_and_worker_stops oneSequence_created
      (Run.runScript .start closedOverBatch (by decide +kernel)),
    by decide +kernel⟩

theorem jobs_admitted_behind_batch :
    let reached := (runScript (execute (scriptedEngine false)) [] oneSequence waitingBehindBatch).2
    reached.active = [0] ∧ reached.queued = [1, 2] ∧ reached.queued.Pairwise (· < ·) ∧
      ∀ number ∈ reached.active, ∀ later ∈ reached.queued, number < later := by
  have run : PermittedRun (scriptedEngine false) oneSequence _ _ :=
    Run.runScript .start waitingBehindBatch (by decide +kernel)
  have ordered := jobs_admitted_in_order oneSequence_created run
  exact ⟨by decide +kernel, by decide +kernel, ordered.1, ordered.2.1⟩

/--
The worker returns without the queued job, or blocks forever, or returns
without the job that it had taken from the queue.
-/
theorem job_or_worker_left_behind :
    (let reached := runScript (execute (scriptedEngine false)) [] oneSequence closedBehindBatch
     Run (execute (scriptedEngine false)) (fun _ _ _ => True) oneSequence reached.1 reached.2 ∧
      reached.2.phase = .returned ∧ reached.2.queued = [1] ∧ completions reached.1 = [0]) ∧
    (let reached := runScript (execute (scriptedEngine false)) [] oneSequence closedBeforeBlocking
     Run (execute (scriptedEngine false)) (fun _ _ _ => True) oneSequence reached.1 reached.2 ∧
      reached.2.closing = true ∧ reached.2.destructor = .notified ∧ reached.2.phase = .parked ∧
        ∀ now polls, (execute (scriptedEngine false) reached.2
            (.work now polls)).1.phase = .parked) ∧
    (let reached := runScript (execute (scriptedEngine true)) [] oneSequence configurationStuck
     Run (execute (scriptedEngine true)) (fun _ _ _ => True) oneSequence reached.1 reached.2 ∧
      reached.2.phase = .returned ∧ reached.2.jobs.length = 1 ∧ completions reached.1 = []) := by
  refine ⟨⟨?_, ?_⟩, ⟨?_, ?_⟩, ⟨?_, ?_⟩⟩
  · exact Run.runScript .start _ (ScriptAllowed.unrestricted _)
  · decide +kernel
  · exact Run.runScript .start _ (ScriptAllowed.unrestricted _)
  · have blocked : (runScript (execute (scriptedEngine false)) [] oneSequence
        closedBeforeBlocking).2.phase = .parked := by
      decide +kernel
    refine ⟨by decide +kernel, by decide +kernel, blocked, ?_⟩
    intro now polls
    exact work_parked _ blocked
  · exact Run.runScript .start _ (ScriptAllowed.unrestricted _)
  · decide +kernel

end BatchGenerator

end Pih
