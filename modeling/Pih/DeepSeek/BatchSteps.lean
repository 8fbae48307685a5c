import Pih.DeepSeek.BatchBoard

/-!
# The steps of a batch generator

Every step of the model is a step on the board: a step of the worker is
`Worked`, a step of any other thread is `Called`.  The structures `Works` and
`Calls` add what the step does to the job table.
-/

namespace Pih

open List

namespace BatchGenerator

variable {Engine : Type}

variable (state : BatchGenerator Engine) {number : ℕ}
  {after : BatchGenerator Engine}

def board : BatchBoard where
  queued := state.queued
  active := state.active
  closing := state.closing
  phase := state.phase

theorem completeAll_kept (touched numbers : List ℕ) (status : Status) :
    JobsKept touched numbers state.jobs (state.completeAll numbers status).jobs := by
  unfold completeAll
  generalize state.jobs = jobs
  induction numbers generalizing jobs with
  | nil => exact .refl touched jobs
  | cons number _ induction =>
    exact (JobsKept.complete touched number _ jobs).trans (induction _)

/-- A job whose configuration fails can be taken back. -/
def Retirable (api : BatchEngine Engine) (state : BatchGenerator Engine) (number : ℕ) : Prop :=
  let job := state.job number
  let submitted := api.submitRequest state.engine job.id job.generation
  let configured :=
    api.configure submitted.1 job.id job.generation job.prompt.length
      job.maximum job.minimum job.sampling
  Result.isOk submitted.2 = true → Result.isOk configured.2 = false → Result.isOk
      (api.retire configured.1 job.id job.generation true).2 = true

instance (api : BatchEngine Engine) (state : BatchGenerator Engine)
    (number : ℕ) : Decidable (state.Retirable api number) :=
  inferInstanceAs (Decidable (_ = true → _ = false → _ = true))

/-- The worker finds the job interrupted. -/
def Interrupts (now number : ℕ) : Prop := state.interrupted (state.job number) now ≠ .ok ()

/-- Everything a step of the worker does outside the engine. -/
structure Works (api : BatchEngine Engine) (state : BatchGenerator Engine) (now : ℕ)
    (after : BatchGenerator Engine) (events : BatchEvents) : Prop where
  worked : BatchBoard.Worked state.sequences (state.Interrupts now)
      (state.Retirable api) state.board events.completed after.board
  kept : JobsKept state.active events.completed state.jobs after.jobs
  sequences : after.sequences = state.sequences
  pending : after.pending = state.pending
  destructor : after.destructor = state.destructor
  pushed : events.pushed = none

/-- A step that only moves the worker, and may call the engine. -/
theorem Works.moved {state : BatchGenerator Engine} (engine : Engine) (phase : BatchPhase)
    (worked : BatchBoard.Worked state.sequences (state.Interrupts now)
        (state.Retirable api) state.board [] { state.board with phase }) :
    Works api state now { state with engine, phase }
      {} where
  worked := worked
  kept := .refl _ _
  sequences := rfl
  pending := rfl
  destructor := rfl
  pushed := rfl

/-- What the worker leaves as it is while it handles its own jobs. -/
structure Keeps (state middle : BatchGenerator Engine) : Prop where
  jobs : JobsKept state.active [] state.jobs middle.jobs
  sequences : middle.sequences = state.sequences
  pending : middle.pending = state.pending
  destructor : middle.destructor = state.destructor

/-- `Fail` completes the active jobs, whatever happened before it. -/
theorem Works.failed {state : BatchGenerator Engine} (status : Status)
    (active : middle.active = state.active)
    (worked : BatchBoard.Worked state.sequences (state.Interrupts now)
      (state.Retirable api) state.board state.active
      ⟨middle.queued, [], middle.closing, .failing status⟩)
    (keeps : Keeps state middle) :
    Works api state now (fail api middle status).1 (fail api middle status).2 where
  worked := by
    change BatchBoard.Worked _ _ _ _ middle.active _
    rw [active]
    exact worked
  kept := keeps.jobs.trans (completeAll_kept middle state.active middle.active status)
  sequences := keeps.sequences
  pending := keeps.pending
  destructor := keeps.destructor
  pushed := rfl

/-- `Fail` in a phase that may give up. -/
theorem Works.broken {state : BatchGenerator Engine} (status : Status)
    (same : middle.board = state.board) (fragile : state.phase.Fragile)
    (keeps : Keeps state middle) :
    Works api state now (fail api middle status).1 (fail api middle status).2 := by
  have queued : middle.queued = state.queued := congrArg BatchBoard.queued same
  have closing : middle.closing = state.closing := congrArg BatchBoard.closing same
  refine Works.failed status (congrArg BatchBoard.active same) ?_ keeps
  rw [queued, closing]
  exact .failed fragile

theorem board_of_phase {state : BatchGenerator Engine} {phase : BatchPhase}
    (reached : state.phase = phase) :
    state.board = ⟨state.queued, state.active, state.closing, phase⟩ := by
  rw [← reached]
  rfl

section

variable (api : BatchEngine Engine) (state : BatchGenerator Engine) (now : ℕ)
  (admitting : state.phase = .admitting)

include admitting

theorem admitJob_works (queued : state.queued = number :: rest)
    (room : state.active.length < state.sequences) :
    Works api state now (admitJob api { state with queued := rest } number now).1
      (admitJob api { state with queued := rest } number now).2 := by
  have board : state.board = ⟨number :: rest, state.active, state.closing, .admitting⟩ := by
    rw [board_of_phase admitting, queued]
  have refused (engine : Engine) (status : Result Unit) : Works api state now
      { complete { state with queued := rest } number status with engine }
      { completed := [number] } := by
    refine ⟨?_, .complete _ number status _, rfl, rfl, rfl, rfl⟩
    rw [board]
    rw [admitting]
    exact .refused room
  have popped : job { state with queued := rest } number = state.job number := rfl
  unfold admitJob
  rw [popped]
  dsimp only
  split
  next status interrupted => exact refused state.engine _
  rename_i going
  split
  next engine status submitted => exact refused engine _
  rename_i engine submitted
  split
  next engine configured =>
    refine ⟨?_, .refl _ _, rfl, rfl, rfl, rfl⟩
    rw [board]
    rw [admitting]
    exact .admitted room (fun interrupted => interrupted going)
  rename_i configured
  split
  next retired unretired =>
    refine Works.failed retired rfl ?_ ⟨.refl _ _, rfl, rfl, rfl⟩
    rw [board]
    apply BatchBoard.Worked.abandoned
    intro retirable
    unfold Retirable at retirable
    simp [submitted, configured, unretired] at retirable
  next engine _ => exact refused engine _

theorem admitNext_works : Works api state now (admitNext api state now).1
      (admitNext api state now).2 := by
  unfold admitNext
  split
  next empty =>
    apply Works.moved state.engine
    rw [board_of_phase admitting]
    exact .unlocked (.inl empty)
  rename_i queued
  split
  next room => exact admitJob_works api state now admitting queued room
  rename_i full
  apply Works.moved state.engine
  rw [board_of_phase admitting]
  exact .unlocked (.inr (Nat.le_of_not_lt full))

end

theorem sweepNext_works (api : BatchEngine Engine) (state : BatchGenerator Engine) (place now : ℕ)
    (sweeping : state.phase = .sweeping place) :
    Works api state now (sweepNext api state place now).1 (sweepNext api state place now).2 := by
  unfold sweepNext
  split
  next past =>
    apply Works.moved state.engine
    rw [board_of_phase sweeping]
    exact .swept past
  rename_i number found
  dsimp only
  split
  next going =>
    apply Works.moved state.engine
    rw [board_of_phase sweeping]
    exact .passed found (fun interrupted => interrupted going)
  split
  next retired _ =>
    refine Works.broken retired rfl ?_ ⟨.refl _ _, rfl, rfl, rfl⟩
    rw [sweeping]
    trivial
  refine ⟨?_, .complete _ number _ _, rfl, rfl, rfl, rfl⟩
  rw [board_of_phase sweeping]
  change BatchBoard.Worked _ _ _ _ _
    ⟨state.queued, state.active.eraseIdx place, state.closing, state.phase⟩
  rw [sweeping]
  exact .removed found

/-- A plan takes its members from the active jobs, in their order. -/
theorem selectFrom_sublist (numbers : List ℕ) (selection result : Selection)
    (selected : selectFrom state numbers selection = .ok result) :
    ∃ chosen : List (ℕ × ℕ × ℕ), result.members = selection.members ++ chosen ∧
      (chosen.map Prod.fst).Sublist numbers := by
  induction numbers generalizing selection with
  | nil =>
    cases selected
    exact ⟨[], by simp, .slnil⟩
  | cons number rest induction =>
    unfold selectFrom at selected
    have skipped
        {reached : Selection}
        (same : reached.members = selection.members)
        (later : selectFrom state rest reached = .ok result) :
        ∃ chosen : List (ℕ × ℕ × ℕ), result.members = selection.members ++ chosen ∧
          (chosen.map Prod.fst).Sublist (number :: rest) := by
      rcases induction reached later with ⟨chosen, members, order⟩
      exact ⟨chosen, by rw [members, same], order.cons number⟩
    dsimp only at selected
    generalize grouped : (if selection.members = [] then
        ({ selection with
            prefill := prefills (state.job number)
            sample := samples (state.job number) } : Selection)
      else selection) = grouping at selected
    have same : grouping.members = selection.members := by
      rw [← grouped]
      split <;> rfl
    split at selected
    · exact skipped rfl selected
    next =>
      split at selected
      · exact skipped same selected
      next =>
        split at selected
        next =>
          cases selected
          exact ⟨[], by simp [same], nil_sublist _⟩
        next =>
          split at selected
          next => cases selected
          rename_i token next
          split at selected
          next => cases selected
          next =>
            rcases induction _ selected with ⟨chosen, members, order⟩
            refine ⟨(number, nextPosition (state.job number), token) ::
              chosen, ?_, order.cons_cons number⟩
            rw [members]
            simp [same]

theorem plan_works (api : BatchEngine Engine) (state : BatchGenerator Engine)
    (now polls : ℕ) (planning : state.phase = .planning) :
    Works api state now (plan api state polls).1 (plan api state polls).2 := by
  have fragile : state.phase.Fragile := by
    rw [planning]
    trivial
  unfold plan
  split
  next status _ => exact Works.broken status rfl fragile ⟨.refl _ _, rfl, rfl, rfl⟩
  rename_i selection selected
  split
  next =>
    apply Works.moved state.engine
    rw [board_of_phase planning]
    exact .rested
  next =>
    split
    next => exact Works.broken _ rfl fragile ⟨.refl _ _, rfl, rfl, rfl⟩
    next =>
      split
      next status _ => exact Works.broken status rfl fragile ⟨.refl _ _, rfl, rfl, rfl⟩
      refine ⟨?_, .refl _ _, rfl, rfl, rfl, rfl⟩
      rw [board_of_phase planning]
      apply BatchBoard.Worked.planned
      rcases selectFrom_sublist state state.active {} selection
        selected with ⟨_, members, order⟩
      unfold Selection.selected
      rw [members]
      exact order

theorem settleSampled_works {state : BatchGenerator Engine}
    (settling : state.phase = .settling (number :: rest) prefill true)
    (member : number ∈ state.active) (same : middle.board = state.board)
    (keeps : Keeps state middle) :
    Works api state now (settleSampled api middle number rest prefill now).1
      (settleSampled api middle number rest prefill now).2 := by
  have fragile : state.phase.Fragile := by
    rw [settling]
    trivial
  have taken (snapshot : DeepSeekAcceptedTokenSnapshot) : Keeps state
      (middle.updateJob number fun job => { job with accepted := snapshot }) :=
    { keeps with
      jobs := keeps.jobs.trans
        (.update _ (fun _ => rfl) (fun _ => rfl) (fun _ => rfl) (fun _ _ => rfl)) }
  unfold settleSampled
  dsimp only
  split
  next status _ => exact Works.broken status same fragile keeps
  rename_i snapshot _
  split
  next => exact Works.broken _ same fragile keeps
  generalize judged : interrupted _ _ now = status
  generalize handed : (if Result.isOk status = true then
      (middle.updateJob number fun job =>
        { job with accepted := snapshot }).updateJob number
          fun job => { job with outputs := job.outputs ++ [snapshot] }
    else middle.updateJob number fun job => { job with accepted := snapshot }) = reached
  have delivered : reached.board = state.board ∧ Keeps state reached := by
    rw [← handed]
    split
    · refine ⟨same, { keeps with jobs := (taken snapshot).jobs.trans ?_ }⟩
      exact .update _ (fun _ => rfl) (fun _ => rfl) (fun _ => rfl) fun outside =>
        (outside member).elim
    · exact ⟨same, taken snapshot⟩
  rcases delivered with ⟨board, ⟨delivered, sequences', pending', destructor'⟩⟩
  have queued : reached.queued = state.queued := congrArg BatchBoard.queued board
  have closing : reached.closing = state.closing := congrArg BatchBoard.closing board
  have active : reached.active = state.active := congrArg BatchBoard.active board
  have middling : middle.active = state.active := congrArg BatchBoard.active same
  split
  next =>
    split
    next retired _ =>
      exact Works.broken retired same fragile { taken snapshot with }
    refine ⟨?_, delivered.trans (.complete _ number _ _), sequences', pending', destructor', rfl⟩
    rw [board_of_phase settling]
    change BatchBoard.Worked _ _ _ _ _
      ⟨reached.queued, middle.active.erase number, reached.closing, _⟩
    rw [queued, closing, middling]
    exact .finished
  refine ⟨?_, delivered, sequences', pending', destructor', rfl⟩
  rw [board_of_phase settling]
  rw [queued, closing, active]
  exact .kept

theorem settleNext_works (api : BatchEngine Engine) (state : BatchGenerator Engine) (now : ℕ)
    (settling : state.phase = .settling selected prefill sample)
    (members : ∀ number ∈ selected, number ∈ state.active) :
    Works api state now (settleNext api state selected prefill sample now).1
      (settleNext api state selected prefill sample now).2 := by
  cases selected with
  | nil =>
    refine ⟨?_, .refl _ _, rfl, rfl, rfl, rfl⟩
    rw [board_of_phase settling]
    exact .turned
  | cons number =>
    unfold settleNext
    dsimp only
    generalize counted : (if prefill = true then
        state.updateJob number fun job => { job with processed := job.processed + 1 }
      else state) = middle
    have shared : middle.board = state.board ∧ Keeps state middle := by
      rw [← counted]
      split
      · exact ⟨rfl, .update _ (fun _ => rfl) (fun _ => rfl) (fun _ => rfl) (fun _ _ => rfl),
          rfl, rfl, rfl⟩
      · exact ⟨rfl, .refl _ _, rfl, rfl, rfl⟩
    rcases shared with ⟨board, keeps⟩
    cases sample with
    | false =>
      refine ⟨?_, keeps.jobs, keeps.sequences, keeps.pending, keeps.destructor, rfl⟩
      have queued : middle.queued = state.queued := congrArg BatchBoard.queued board
      have closing : middle.closing = state.closing := congrArg BatchBoard.closing board
      have active : middle.active = state.active := congrArg BatchBoard.active board
      rw [board_of_phase settling]
      rw [queued, closing, active]
      exact .kept
    | true =>
      exact settleSampled_works settling (members number mem_cons_self) board keeps

theorem failQueued_works (api : BatchEngine Engine) (state : BatchGenerator Engine) (now : ℕ)
    (failing : state.phase = .failing status) :
    Works api state now (failQueued state status).1 (failQueued state status).2 := by
  refine ⟨?_, completeAll_kept state _ state.queued status, rfl, rfl, rfl, rfl⟩
  rw [board_of_phase failing]
  exact .drained

/-- One step of the worker. -/
theorem work_works (api : BatchEngine Engine) (state : BatchGenerator Engine) (now polls : ℕ)
    (members : ∀ selected prefill sample, state.phase = .settling selected prefill sample →
      ∀ number ∈ selected, number ∈ state.active) :
    Works api state now (work api state now polls).1 (work api state now polls).2 := by
  have moved
      {phase : BatchPhase}
      (worked : BatchBoard.Worked state.sequences (state.Interrupts now)
        (state.Retirable api) state.board []
        { state.board with phase }) :
      Works api state now _ {} :=
    Works.moved state.engine phase worked
  unfold work
  split
  next binding =>
    split
    next engine status _ =>
      refine Works.broken status rfl ?_ ⟨.refl _ _, rfl, rfl, rfl⟩
      rw [binding]
      trivial
    next engine _ =>
      apply Works.moved engine
      rw [board_of_phase binding]
      exact .bound
  next entering =>
    split
    next idle =>
      rcases idle with ⟨active, queued, open_⟩
      apply moved
      rw [board_of_phase entering, active, queued, Bool.eq_false_iff.mpr open_]
      exact .idled
    rename_i busy
    apply moved
    rw [board_of_phase entering]
    apply BatchBoard.Worked.entered
    by_cases active : state.active = []
    · by_cases queued : state.queued = []
      · exact .inr (.inr (by simpa [active, queued] using busy))
      · exact .inr (.inl queued)
    · exact .inl active
  next testing =>
    split
    next ready =>
      apply moved
      rw [board_of_phase testing]
      exact .called ready
    next waiting =>
      rw [not_or, not_not, Bool.not_eq_true] at waiting
      apply moved
      rw [board_of_phase testing, waiting.1, waiting.2]
      exact .waited
  next parking =>
    apply moved
    rw [board_of_phase parking]
    exact .blocked
  next parked =>
    refine ⟨?_, .refl _ _, rfl, rfl, rfl, rfl⟩
    rw [board_of_phase parked]
    exact .slept
  next woken =>
    apply moved
    rw [board_of_phase woken]
    exact .relocked
  next admitting => exact admitNext_works api state now admitting
  next place sweeping => exact sweepNext_works api state place now sweeping
  next checking =>
    split
    next busy =>
      apply moved
      rw [board_of_phase checking]
      exact .resumed busy
    rename_i idle
    rw [not_not] at idle
    split
    next closing =>
      apply moved
      rw [board_of_phase checking, idle, closing]
      exact .stopped
    rename_i opened
    apply moved
    rw [board_of_phase checking, idle, Bool.eq_false_iff.mpr opened]
    exact .looped
  next planning => exact plan_works api state now polls planning
  next selected prefill sample settling =>
    exact settleNext_works api state now settling (members selected prefill sample settling)
  next failing => exact failQueued_works api state now failing
  next returned =>
    refine ⟨?_, .refl _ _, rfl, rfl, rfl, rfl⟩
    rw [board_of_phase returned]
    exact .halted

/-! ## Callers and the destructor -/

/-- What a caller does to a job. -/
structure Waits (job next : BatchJob) : Prop where
  request : next.request = job.request
  done : next.done = job.done
  outputs : next.outputs.length ≤ job.outputs.length
  returned : job.returned = true → next.returned = true

/-- Everything a step of the other threads does. -/
structure Calls (state after : BatchGenerator Engine) (events : BatchEvents) : Prop where
  called : BatchBoard.Called state.pending state.jobs.length state.board
    (after.jobs.length - state.jobs.length) after.board
  completed : events.completed = []
  grows : state.jobs.length ≤ after.jobs.length
  each : ∀ (number : ℕ) (job : BatchJob), state.jobs[number]? = some job →
    ∃ next, after.jobs[number]? = some next ∧ Waits job next
  fresh : ∀ (number : ℕ) (job : BatchJob), state.jobs.length ≤ number →
    after.jobs[number]? = some job → ∃ request : GenerateRequest, job = request.job
  sequences : after.sequences = state.sequences
  pending : after.pending = state.pending

theorem Waits.refl (job : BatchJob) : Waits job job := ⟨rfl, rfl, Nat.le_refl _, id⟩

theorem not_fresh {before after : List BatchJob} {job : BatchJob}
    (length : after.length = before.length) (outside : before.length ≤ number) :
    after[number]? ≠ some job := by
  rw [getElem?_eq_none (by omega)]
  nofun

/-- A call that leaves the job table as it is. -/
theorem Calls.sameJobs {state : BatchGenerator Engine}
    (called : BatchBoard.Called state.pending state.jobs.length state.board 0 after.board)
    (jobs : after.jobs = state.jobs) (completed : events.completed = [])
    (sequences : after.sequences = state.sequences)
    (pending : after.pending = state.pending) : Calls state after events where
  called := by
    rw [jobs, Nat.sub_self]
    exact called
  completed := completed
  grows := Nat.le_of_eq (congrArg length jobs.symm)
  each number job found := ⟨job, by rw [jobs, found], .refl job⟩
  fresh _ _ outside found := (not_fresh (congrArg length jobs) outside found).elim
  sequences := sequences
  pending := pending

theorem Calls.updated {state : BatchGenerator Engine}
    (waits : ∀ job, state.jobs[number]? = some job → Waits job (update job))
    (completed : events.completed = []) :
    Calls state (state.updateJob number update) events where
  called := by
    unfold updateJob
    rw [length_modify, Nat.sub_self]
    exact .silent
  completed := completed
  grows := Nat.le_of_eq (length_modify _ _ _).symm
  each other job found := by
    unfold updateJob
    rw [getElem?_modify, found]
    by_cases same : number = other
    · subst same
      exact ⟨_, by simp, waits job found⟩
    · exact ⟨job, by simp [same], .refl job⟩
  fresh _ _ outside found := (not_fresh (length_modify _ _ _) outside found).elim
  sequences := rfl
  pending := rfl

theorem board_notify : (notify state).board = state.board.notify := by
  unfold notify BatchBoard.notify board
  split <;> rfl

@[simp]
theorem notify_jobs : (notify state).jobs = state.jobs := by
  unfold notify
  split <;> rfl

@[simp]
theorem notify_sequences : (notify state).sequences = state.sequences := by
  unfold notify
  split <;> rfl

@[simp]
theorem notify_pending : (notify state).pending = state.pending := by
  unfold notify
  split <;> rfl

theorem Calls.notified {state : BatchGenerator Engine} (board : after.board = state.board.notify)
    (jobs : after.jobs = state.jobs) (sequences : after.sequences = state.sequences)
    (pending : after.pending = state.pending) : Calls state after {} := by
  refine .sameJobs ?_ jobs rfl sequences pending
  rw [board]
  exact .notified

theorem generate_calls : Calls state (generate state request).1 (generate state request).2 := by
  unfold generate
  split
  · exact .sameJobs .silent rfl rfl rfl rfl
  next =>
    split
    · exact .sameJobs .silent rfl rfl rfl rfl
    rename_i unlocked
    split
    · exact .sameJobs .silent rfl rfl rfl rfl
    rename_i opened
    split
    · exact .sameJobs .silent rfl rfl rfl rfl
    rename_i room
    refine ⟨?_, rfl, ?_, ?_, ?_, notify_sequences _, notify_pending _⟩
    · rw [board_notify, notify_jobs, length_append, Nat.add_sub_cancel_left]
      have unlocked' : state.phase ≠ .testing ∧ state.phase ≠ .parking ∧
          state.phase ≠ .admitting := by
        unfold locked at unlocked
        refine ⟨?_, ?_, ?_⟩ <;> intro held <;> simp [held] at unlocked
      unfold board
      rw [Bool.eq_false_iff.mpr opened]
      exact .pushed (Nat.lt_of_not_le room) unlocked'
    · rw [notify_jobs, length_append]
      exact Nat.le_add_right _ _
    · intro number job found
      refine ⟨job, ?_, .refl job⟩
      rw [notify_jobs]
      exact List.getElem?_append_left (List.getElem_of_getElem? found).1 |>.trans found
    · intro number job outside found
      rw [notify_jobs, getElem?_append_right outside] at found
      have inside := (List.getElem_of_getElem? found).1
      rw [length_singleton, Nat.lt_one_iff] at inside
      rw [inside] at found
      exact ⟨request, (Option.some.inj found).symm⟩

theorem pollCancelled_calls {events : BatchEvents} (completed : events.completed = []) :
    Calls state (pollCancelled state number callback) events := by
  cases callback with
  | accepted => exact .sameJobs .silent rfl completed rfl rfl
  | refused => exact .updated (fun _ _ => ⟨rfl, rfl, Nat.le_refl _, id⟩) completed
  | threw => exact .updated (fun _ _ => ⟨rfl, rfl, Nat.le_refl _, id⟩) completed

theorem Waits.trans {job next : BatchJob} (first : Waits job middle)
    (second : Waits middle next) : Waits job next where
  request := second.request.trans first.request
  done := second.done.trans first.done
  outputs := Nat.le_trans second.outputs first.outputs
  returned finished := second.returned (first.returned finished)

/-- A caller that updates its job before it does something else. -/
theorem Calls.afterUpdate {state : BatchGenerator Engine}
    (waits : ∀ job, state.jobs[number]? = some job → Waits job (update job))
    (later : Calls (state.updateJob number update) after events) : Calls state after events := by
  have first : Calls state (state.updateJob number update) {} := .updated waits rfl
  have length : (state.updateJob number update).jobs.length = state.jobs.length :=
    length_modify _ _ _
  exact
    { called := by
        rw [← length]
        exact later.called
      completed := later.completed
      grows := by
        rw [← length]
        exact later.grows
      each := by
        intro other job found
        rcases first.each other job found with ⟨middle, reached, before⟩
        rcases later.each other middle reached with ⟨next, last, after⟩
        exact ⟨next, last, before.trans after⟩
      fresh := by
        rw [← length]
        exact later.fresh
      sequences := later.sequences
      pending := later.pending }

theorem job_of_found {state : BatchGenerator Engine} {job : BatchJob}
    (found : state.jobs[number]? = some job) : state.job number = job := by
  unfold BatchGenerator.job
  rw [found]
  rfl

theorem consume_calls :
    Calls state (consume state number now callback).1 (consume state number now callback).2 := by
  unfold consume
  dsimp only
  split
  · exact .sameJobs .silent rfl rfl rfl rfl
  next =>
    split
    next rest outputs =>
      have popped : ∀ job, state.jobs[number]? = some job →
          Waits job { job with outputs := rest } := by
        intro job found
        rw [job_of_found found] at outputs
        refine ⟨rfl, rfl, ?_, id⟩
        rw [outputs]
        exact Nat.le_succ _
      split
      next => exact .afterUpdate popped (pollCancelled_calls _ rfl)
      · exact .updated popped rfl
    next =>
      split
      next =>
        exact .updated (fun _ _ => ⟨rfl, rfl, Nat.le_refl _, fun _ => rfl⟩) rfl
      · exact .sameJobs .silent rfl rfl rfl rfl

/-- One step of a thread other than the worker. -/
theorem execute_calls (api : BatchEngine Engine) (state : BatchGenerator Engine) (action : Action)
    (other : ∀ now polls, action ≠ .work now polls) :
    Calls state (execute api state action).1 (execute api state action).2 := by
  cases action with
  | work now polls => exact (other now polls rfl).elim
  | wakeSpuriously =>
    exact .notified (board_notify state) (notify_jobs state)
      (notify_sequences state) (notify_pending state)
  | generate => exact generate_calls state
  | pollCancelled => exact pollCancelled_calls state rfl
  | consume => exact consume_calls state
  | storeClosing =>
    unfold execute
    dsimp only
    split
    next =>
      refine ⟨?_, rfl, Nat.le_refl _, fun _ job found =>
        ⟨job, found, .refl job⟩, fun _ _ outside found =>
          (not_fresh rfl outside found).elim, rfl, rfl⟩
      rw [Nat.sub_self]
      exact .closed
    · exact .sameJobs .silent rfl rfl rfl rfl
  | notifyAll =>
    unfold execute
    dsimp only
    split
    next =>
      exact .notified (board_notify state) (notify_jobs state)
        (notify_sequences state) (notify_pending state)
    · exact .sameJobs .silent rfl rfl rfl rfl
  | join =>
    unfold execute
    dsimp only
    split
    · exact .sameJobs .silent rfl rfl rfl rfl
    · exact .sameJobs .silent rfl rfl rfl rfl

end BatchGenerator

end Pih
