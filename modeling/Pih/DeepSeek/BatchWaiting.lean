import Pih.DeepSeek.BatchAnswers

/-!
# Waiting for a place in a plan

The head of the active jobs decides the phase of a plan, jobs of another phase
are skipped, and after the plan the list is rotated by one.  The jobs that the
plan finished are erased before the rotation.  If that brings a job to the
front that the plan skipped, the rotation moves it to the back again, and it
may wait forever.  In runs in which every rotation moves a job that had its
turn, or was not ready for one, a ready job misses fewer plans than there are
sequences.
-/

namespace Pih

open List

/-! ## The place of a job -/

/-- At most so many jobs are ahead of the job. -/
def Behind (number jobs : ℕ) (active : List ℕ) : Prop :=
  ∃ ahead behind, active = ahead ++ number :: behind ∧ ahead.length ≤ jobs

namespace Behind

variable {number jobs : ℕ} {active : List ℕ}

theorem of_mem (member : number ∈ active) : Behind number (active.length - 1) active := by
  rcases append_of_mem member with ⟨ahead, behind, rfl⟩
  refine ⟨ahead, behind, rfl, ?_⟩
  rw [length_append, length_cons]
  omega

section

variable (placed : Behind number jobs active)

include placed

theorem append (more : List ℕ) : Behind number jobs (active ++ more) := by
  rcases placed with ⟨ahead, behind, rfl, length⟩
  exact ⟨ahead, behind ++ more, by simp, length⟩

theorem erase (different : other ≠ number) : Behind number jobs (active.erase other) := by
  rcases placed with ⟨ahead, behind, rfl, length⟩
  by_cases member : other ∈ ahead
  · refine ⟨ahead.erase other, behind, ?_, ?_⟩
    · exact erase_append_left _ member
    · exact Nat.le_trans length_erase_le length
  refine ⟨ahead, behind.erase other, ?_, length⟩
  rw [erase_append_right _ member, erase_cons_tail (by simpa using different.symm)]

theorem eraseIdx (found : active[place]? = some other) (different : other ≠ number) :
    Behind number jobs (active.eraseIdx place) := by
  rcases placed with ⟨ahead, behind, rfl, length⟩
  by_cases early : place < ahead.length
  · refine ⟨ahead.eraseIdx place, behind, ?_, ?_⟩
    · exact eraseIdx_append_of_lt_length early _
    · exact Nat.le_trans (length_eraseIdx_le _ _) length
  have later : ahead.length ≤ place := Nat.le_of_not_lt early
  rw [getElem?_append_right later] at found
  rw [eraseIdx_append_of_length_le later]
  cases offset : place - ahead.length with
  | zero =>
    rw [offset] at found
    cases found
    exact (different rfl).elim
  | succ => exact ⟨ahead, _, rfl, length⟩

end

/-- A rotation that moves another job brings the job closer. -/
theorem rotate (placed : Behind number (jobs + 1) active) (other : active.head? ≠ some number) :
    Behind number jobs (active.rotate 1) := by
  rcases placed with ⟨ahead, behind, rfl, length⟩
  cases ahead with
  | nil => exact (other rfl).elim
  | cons first rest =>
    refine ⟨rest, behind ++ [first], ?_, ?_⟩
    · rw [cons_append, rotate_cons_succ, rotate_zero, append_assoc, cons_append]
    · rw [length_cons] at length
      omega

end Behind

/-- The next step rotates the active jobs. -/
def BatchPhase.turns : BatchPhase → Bool
  | .settling [] _ _ => true
  | _ => false

namespace BatchBoard

variable {sequences count : ℕ} {board after : BatchBoard}

/-- What holds of the lists in every reached state. -/
structure Listed (sequences : ℕ) (board : BatchBoard) : Prop where
  room : board.active.length ≤ sequences
  distinct : (board.queued ++ board.active).Nodup
  members : ∀ selected prefill sample, board.phase = .settling selected prefill sample →
    selected.Nodup ∧ ∀ number ∈ selected, number ∈ board.active

theorem Listed.shrink (listed : Listed sequences board) (lists :
      (after.queued ++ after.active).Subperm (board.queued ++ board.active))
    (room : after.active.length ≤ board.active.length)
    (settled : ∀ selected prefill sample, after.phase ≠ .settling selected prefill sample) :
    Listed sequences after where
  room := Nat.le_trans room listed.room
  distinct := by
    rcases lists with ⟨_, same, fewer⟩
    exact same.nodup_iff.mp (listed.distinct.sublist fewer)
  members selected prefill sample settling := (settled selected prefill sample settling).elim

theorem Worked.listed (worked : Worked sequences interrupted retirable board completed after)
    (listed : Listed sequences board) : Listed sequences after := by
  have distinct := listed.distinct
  cases worked with
  | refused => exact listed.shrink (sublist_cons_self _ _).subperm (Nat.le_refl _) nofun
  | @admitted _ _ _ _ room =>
    refine ⟨?_, ?_, nofun⟩
    · rw [length_append]
      exact room
    · rw [← append_assoc]
      exact (perm_append_singleton _ _).nodup_iff.mpr distinct
  | @abandoned number queued =>
    refine listed.shrink ?_ (Nat.zero_le _) nofun
    exact (((List.Sublist.refl queued).append (nil_sublist _)).cons number).subperm
  | @removed _ queued active _ place =>
    exact listed.shrink ((eraseIdx_sublist active place).append_left queued).subperm
      (length_eraseIdx_le _ _) nofun
  | planned order =>
    refine ⟨listed.room, distinct, ?_⟩
    rintro selected prefill sample settling
    cases settling
    have active := (nodup_append.mp distinct).2.1
    exact ⟨active.sublist order, fun _ member => order.subset member⟩
  | kept =>
    refine ⟨listed.room, distinct, ?_⟩
    rintro selected prefill' sample' settling
    cases settling
    have earlier := listed.members _ _ _ rfl
    exact ⟨(nodup_cons.mp earlier.1).2, fun other member =>
      earlier.2 other (mem_cons_of_mem _ member)⟩
  | @finished number _ _ _ queued =>
    have earlier := listed.members _ _ _ rfl
    refine ⟨?_, ?_, ?_⟩
    · exact Nat.le_trans length_erase_le listed.room
    · exact distinct.sublist (erase_sublist.append_left queued)
    · rintro _ _ _ settling
      cases settling
      have split := nodup_cons.mp earlier.1
      refine ⟨split.2, fun other member => ?_⟩
      have different : other ≠ number := by
        rintro rfl
        exact split.1 member
      exact (mem_erase_of_ne different).mpr (earlier.2 other (mem_cons_of_mem _ member))
  | @turned _ _ queued active =>
    refine listed.shrink ?_ ?_ nofun
    · exact ((rotate_perm active 1).append_left queued).subperm
    · exact Nat.le_of_eq (length_rotate _ _)
  | @failed queued =>
    refine listed.shrink ?_ (Nat.zero_le _) nofun
    exact ((List.Sublist.refl queued).append (nil_sublist _)).subperm
  | @drained _ active =>
    refine listed.shrink ?_ (Nat.le_refl _) nofun
    exact ((nil_sublist _).append (List.Sublist.refl active)).subperm
  | _ => exact listed.shrink (.refl _) (Nat.le_refl _) nofun

theorem Called.listed (called : Called pending issued board count after)
    (listed : Listed sequences board)
    (below : ∀ number ∈ board.queued ++ board.active, number < issued) :
    Listed sequences after := by
  have members : ∀ selected prefill sample, after.phase = .settling selected prefill sample →
      board.phase = .settling selected prefill sample := by
    intro selected prefill sample settling
    cases called with
    | silent | closed => exact settling
    | notified | pushed =>
      unfold notify at settling
      split at settling
      · cases settling
      · exact settling
  rcases called.lists with ⟨active, queued⟩
  refine ⟨?_, ?_, ?_⟩
  · rw [active]
    exact listed.room
  · rw [active]
    rcases queued with ⟨_, same⟩ | ⟨_, pushed⟩
    · rw [same]
      exact listed.distinct
    rw [pushed, append_assoc]
    have front : (board.queued ++ ([issued] ++ board.active)).Perm
        (issued :: (board.queued ++ board.active)) :=
      perm_middle
    refine front.nodup_iff.mpr (nodup_cons.mpr ⟨?_, listed.distinct⟩)
    intro member
    exact Nat.lt_irrefl issued (below issued member)
  · intro selected prefill sample settling
    rw [active]
    exact listed.members selected prefill sample (members selected prefill sample settling)

/-! ## A job that misses plans -/

/--
A job that has missed so many plans.  While a plan settles, the rotation after
it still counts as ahead.
-/
def Late (sequences number missed : ℕ) (board : BatchBoard) : Prop :=
  match board.phase with
  | .settling selected _ _ =>
    missed = 0 ∨ number ∉ selected ∧ ∃ jobs,
          Behind number (jobs + 1) board.active ∧ missed + jobs < sequences
  | _ => ∃ jobs, Behind number jobs board.active ∧ missed + jobs < sequences

theorem Listed.late (listed : Listed sequences board)
    (member : number ∈ board.active) : Late sequences number 0 board := by
  have place : 0 + (board.active.length - 1) < sequences := by
    have room := listed.room
    have positive := length_pos_of_mem member
    omega
  unfold Late
  split
  · exact .inl rfl
  · exact ⟨_, .of_mem member, place⟩

/-- A step that plans nothing does not make a late job later. -/
theorem Worked.late (worked : Worked sequences interrupted retirable board completed after)
    (listed : Listed sequences board)
    (late : Late sequences number missed board) (missing : missed ≠ 0)
    (unplanned : board.phase = .planning → ∀ selected prefill sample,
      after.phase ≠ .settling selected prefill sample)
    (turn : board.phase.turns = true → board.active.head? = some number → board.active.length ≤ 1)
    (member : number ∈ after.active) : Late sequences number missed after := by
  have distinct := (nodup_append.mp listed.distinct).2.1
  cases worked with
  | admitted =>
    rcases late with ⟨jobs, placed, soon⟩
    exact ⟨jobs, placed.append _, soon⟩
  | abandoned | failed => exact (not_mem_nil member).elim
  | @removed _ _ _ _ _ found =>
    rcases late with ⟨jobs, placed, soon⟩
    refine ⟨jobs, placed.eraseIdx found ?_, soon⟩
    rintro rfl
    rcases List.getElem_of_getElem? found with ⟨inside, rfl⟩
    have erased := List.getElem_cons_eraseIdx_perm inside
    exact (nodup_cons.mp (erased.nodup_iff.mpr distinct)).1 member
  | planned => exact (unplanned rfl _ _ _ rfl).elim
  | kept =>
    rcases late with none | ⟨unselected, placed⟩
    · exact .inl none
    exact .inr ⟨fun later => unselected (mem_cons_of_mem _ later), placed⟩
  | finished =>
    rcases late with none | ⟨unselected, jobs, placed, soon⟩
    · exact .inl none
    refine .inr ⟨fun later => unselected (mem_cons_of_mem _ later), jobs, ?_, soon⟩
    apply placed.erase
    rintro rfl
    exact unselected mem_cons_self
  | @turned _ _ _ active =>
    rcases late with none | ⟨_, jobs, placed, soon⟩
    · exact (missing none).elim
    refine ⟨jobs, ?_, soon⟩
    by_cases first : active.head? = some number
    · have single : active = [number] := by
        have short := turn rfl first
        match active, first, short with
        | [only], first, _ => exact congrArg (fun job => [job]) (Option.some.inj first)
      subst single
      exact ⟨[], [], rotate_singleton _ _, Nat.zero_le _⟩
    · exact placed.rotate first
  | _ => exact late

/-- A plan without the job adds one to the plans that it missed. -/
theorem Late.plan (late : Late sequences number missed board)
    (planning : board.phase = .planning) (unselected : number ∉ selected)
    (later : board.active.head? ≠ some number) :
    Late sequences number (missed + 1)
      { board with phase := .settling selected prefill sample } := by
  unfold Late at late
  rw [planning] at late
  rcases late with ⟨jobs, placed, _⟩
  cases jobs with
  | zero =>
    rcases placed with ⟨_, _, same, length⟩
    rw [eq_nil_of_length_eq_zero (Nat.le_zero.mp length)] at same
    rw [same] at later
    exact (later rfl).elim
  | succ jobs => exact .inr ⟨unselected, jobs, placed, by omega⟩

theorem Late.notify (late : Late sequences number missed board) :
    Late sequences number missed board.notify := by
  unfold BatchBoard.notify
  split
  next parked =>
    unfold Late at late
    rw [parked] at late
    exact late
  · exact late

theorem Called.late (called : Called pending issued board count after)
    (late : Late sequences number missed board) : Late sequences number missed after := by
  cases called with
  | silent | closed => exact late
  | notified => exact late.notify
  | @pushed queued active phase =>
    have pushed : Late sequences number missed ⟨queued ++ [issued], active, false, phase⟩ := late
    exact pushed.notify

theorem Late.missed_lt (late : Late sequences number missed board)
    (positive : 0 < sequences) : missed < sequences := by
  unfold Late at late
  split at late
  · rcases late with rfl | ⟨_, _, _, _⟩
    · exact positive
    · omega
  omega

end BatchBoard

namespace BatchGenerator

variable {Engine : Type}

/-! ## The members of a plan -/

variable (api : BatchEngine Engine) {state : BatchGenerator Engine}

/-- The first active job is a member of the plan if it is ready. -/
theorem first_selected (selected : selectFrom state state.active {} = .ok selection)
    (first : state.active.head? = some number) (ready : (state.job number).outputs.length < 16)
    (room : 0 < min state.sequences state.tokens) : number ∈ selection.selected := by
  rcases head?_eq_some_iff.mp first with ⟨rest, active⟩
  rw [active] at selected
  unfold selectFrom at selected
  rw [if_neg (by omega), if_pos rfl, if_neg (by simp)] at selected
  split at selected
  next full => exact (Nat.not_le.mpr room full).elim
  next =>
    split at selected
    next => cases selected
    next =>
      split at selected
      next => cases selected
      next =>
        rcases selectFrom_sublist state rest _ selection selected with ⟨_, members, _⟩
        unfold Selection.selected
        rw [members]
        simp

/-- A step that plans nothing does not start to settle. -/
theorem plan_events : (plan api state polls).2.planned = [] ∧ (∀ selected prefill sample,
        (plan api state polls).1.phase ≠ .settling selected prefill sample) ∨
      ∃ selection, selectFrom state state.active {} = .ok selection ∧ selection.members ≠ [] ∧
        (plan api state polls).2.planned = selection.members ∧ (plan api state polls).1.board =
          { state.board with
            phase := .settling selection.selected selection.prefill
              selection.sample } := by
  unfold plan
  split
  · exact .inl ⟨rfl, nofun⟩
  next selection selected =>
    split
    · exact .inl ⟨rfl, nofun⟩
    next nonempty =>
      split
      · exact .inl ⟨rfl, nofun⟩
      next =>
        split
        · exact .inl ⟨rfl, nofun⟩
        · exact .inr ⟨selection, selected, nonempty, rfl, rfl⟩

/-! ## Steps that plan nothing -/

/-- A step that leaves the limit alone and plans nothing. -/
def Unplanned (state : BatchGenerator Engine)
    (result : BatchGenerator Engine × BatchEvents) : Prop :=
  result.1.tokens = state.tokens ∧ result.2.planned = []

theorem admitJob_unplanned : Unplanned state (admitJob api state number now) := by
  unfold admitJob
  dsimp only
  split
  · exact ⟨rfl, rfl⟩
  split
  · exact ⟨rfl, rfl⟩
  split
  · exact ⟨rfl, rfl⟩
  · split <;> exact ⟨rfl, rfl⟩

theorem settleSampled_unplanned :
    Unplanned state (settleSampled api state number rest prefill now) := by
  unfold settleSampled
  dsimp only
  split
  · exact ⟨rfl, rfl⟩
  split
  · exact ⟨rfl, rfl⟩
  generalize interrupted _ _ now = status
  generalize handed : (if Result.isOk status = true then _ else _) = reached
  have tokens : reached.tokens = state.tokens := by
    rw [← handed]
    split <;> rfl
  split
  · split
    · exact ⟨rfl, rfl⟩
    · exact ⟨tokens, rfl⟩
  · exact ⟨tokens, rfl⟩

theorem settleNext_unplanned :
    Unplanned state (settleNext api state selected prefill sample now) := by
  unfold settleNext
  split
  · exact ⟨rfl, rfl⟩
  generalize counted : (if prefill = true then _ else _) = middle
  have tokens : middle.tokens = state.tokens := by
    rw [← counted]
    split <;> rfl
  split
  · exact ⟨tokens, rfl⟩
  rcases settleSampled_unplanned api with ⟨same, nothing⟩
  exact ⟨same.trans tokens, nothing⟩

theorem work_unplanned (other : state.phase ≠ .planning) :
    Unplanned state (work api state now polls) := by
  unfold work
  split
  · split <;> exact ⟨rfl, rfl⟩
  · split <;> exact ⟨rfl, rfl⟩
  · split <;> exact ⟨rfl, rfl⟩
  · exact ⟨rfl, rfl⟩
  · exact ⟨rfl, rfl⟩
  · exact ⟨rfl, rfl⟩
  · unfold admitNext
    split
    · exact ⟨rfl, rfl⟩
    split
    · exact admitJob_unplanned api
    · exact ⟨rfl, rfl⟩
  · unfold sweepNext
    split
    · exact ⟨rfl, rfl⟩
    dsimp only
    split
    · exact ⟨rfl, rfl⟩
    · split <;> exact ⟨rfl, rfl⟩
  · split
    · exact ⟨rfl, rfl⟩
    · split <;> exact ⟨rfl, rfl⟩
  next planning => exact (other planning).elim
  · exact settleNext_unplanned api
  · exact ⟨rfl, rfl⟩
  · exact ⟨rfl, rfl⟩

theorem notify_tokens : (notify state).tokens = state.tokens := by
  unfold notify
  split <;> rfl

theorem call_unplanned (other : ∀ now polls, action ≠ .work now polls) :
    Unplanned state (execute api state action) := by
  cases action with
  | work now polls => exact (other now polls rfl).elim
  | wakeSpuriously => exact ⟨notify_tokens, rfl⟩
  | generate =>
    unfold execute generate
    dsimp only
    split
    · exact ⟨rfl, rfl⟩
    split
    · exact ⟨rfl, rfl⟩
    split
    · exact ⟨rfl, rfl⟩
    split
    · exact ⟨rfl, rfl⟩
    · exact ⟨notify_tokens, rfl⟩
  | pollCancelled _ callback => cases callback <;> exact ⟨rfl, rfl⟩
  | consume _ _ callback =>
    unfold execute consume
    dsimp only
    split
    · exact ⟨rfl, rfl⟩
    split
    · split
      · cases callback <;> exact ⟨rfl, rfl⟩
      · exact ⟨rfl, rfl⟩
    · split <;> exact ⟨rfl, rfl⟩
  | storeClosing | join =>
    unfold execute
    dsimp only
    split <;> exact ⟨rfl, rfl⟩
  | notifyAll =>
    unfold execute
    dsimp only
    split
    · exact ⟨notify_tokens, rfl⟩
    · exact ⟨rfl, rfl⟩

theorem plan_tokens : (plan api state polls).1.tokens = state.tokens := by
  unfold plan
  split
  · rfl
  split
  · rfl
  split
  · rfl
  · split <;> rfl

theorem work_planning (planning : state.phase = .planning) :
    work api state now polls = plan api state polls := by
  unfold work
  rw [planning]

theorem execute_tokens (state : BatchGenerator Engine) (action : Action) :
    (execute api state action).1.tokens = state.tokens := by
  cases action with
  | work now polls =>
    change (work api state now polls).1.tokens = state.tokens
    by_cases planning : state.phase = .planning
    · rw [work_planning api planning]
      exact plan_tokens api
    · exact (work_unplanned api planning).1
  | _ =>
    refine (call_unplanned api ?_).1
    nofun

/-! ## Runs -/

/-- The entry is a plan that was carried out. -/
def plans (entry : BatchEntry Engine) : Bool := !entry.outcome.planned.isEmpty

def members (entry : BatchEntry Engine) : List ℕ := entry.outcome.planned.map Prod.fst

def lastPlan (history : List (BatchEntry Engine)) : Option (BatchEntry Engine) :=
  (history.filter plans).getLast?

/--
A rotation moves a job that was a member of the plan before it, or was not
ready for it, or is the only one.
-/
def TurnsKept (history : List (BatchEntry Engine)) (state : BatchGenerator Engine) : Action → Prop
  | .work _ _ =>
    state.phase.turns = true → state.active.length ≤ 1 ∨
        ∀ number ∈ state.active.head?, ∀ entry ∈ lastPlan history,
          number ∈ members entry ∨ 16 ≤ (entry.before.job number).outputs.length
  | _ => True

/-- What holds of every reached state. -/
structure Bounded (state : BatchGenerator Engine) : Prop where
  limits : 0 < min state.sequences state.tokens
  listed : state.board.Listed state.sequences
  below : ∀ number ∈ state.queued ++ state.active, number < state.jobs.length

theorem Bounded.works (bounded : Bounded state) (now polls : ℕ) :
    Works api state now (work api state now polls).1 (work api state now polls).2 :=
  work_works api state now polls fun selected prefill sample settling =>
    (bounded.listed.members selected prefill sample settling).2

theorem execute_sequences (bounded : Bounded state) :
    (execute api state action).1.sequences = state.sequences := by
  cases action with
  | work now polls => exact (bounded.works api now polls).sequences
  | _ =>
    refine (execute_calls api state _ ?_).sequences
    nofun

theorem Bounded.step (api : BatchEngine Engine) (bounded : Bounded state)
    (action : Action) : Bounded (execute api state action).1 := by
  have tokens := execute_tokens api state action
  have limits := bounded.limits
  by_cases worker : ∃ now polls, action = .work now polls
  · rcases worker with ⟨now, polls, rfl⟩
    have works := bounded.works api now polls
    refine ⟨?_, ?_, ?_⟩
    · rw [tokens]
      change 0 < min (work api state now polls).1.sequences _
      rw [works.sequences]
      exact limits
    · change (work api state now polls).1.board.Listed (work api state now polls).1.sequences
      rw [works.sequences]
      exact works.worked.listed bounded.listed
    · intro number member
      change _ < (work api state now polls).1.jobs.length
      rw [works.kept.length]
      exact bounded.below number (works.worked.members member)
  have other : ∀ now polls, action ≠ .work now polls :=
    fun now polls same => worker ⟨now, polls, same⟩
  have calls := execute_calls api state action other
  refine ⟨?_, ?_, ?_⟩
  · rw [tokens, calls.sequences]
    exact limits
  · rw [calls.sequences]
    exact calls.called.listed bounded.listed bounded.below
  · exact calls.below bounded.below

theorem Bounded.create {engine : Engine} {sequences tokens pending : ℕ}
    {start : BatchGenerator Engine}
    (created : create engine sequences tokens pending = some start) :
    Bounded start ∧ start.sequences = sequences := by
  unfold BatchGenerator.create at created
  split at created
  next => cases created
  next =>
    cases created
    refine ⟨⟨?_, ⟨Nat.zero_le _, nodup_nil, nofun⟩, ?_⟩, rfl⟩
    · change 0 < min sequences tokens
      omega
    · intro number member
      exact (not_mem_nil member).elim

/-- What one step does to the plans that a job has missed. -/
theorem execute_late (bounded : Bounded state)
    (late : state.board.Late state.sequences number missed)
    (ready : plans (.of (execute api) state action) = true → (state.job number).outputs.length < 16)
    (missing : number ∉ members (.of (execute api) state action))
    (turn : ∀ now polls, action = .work now polls → missed ≠ 0 →
      state.phase.turns = true → state.active.head? = some number → state.active.length ≤ 1)
    (member : number ∈ (execute api state action).1.active) :
    (execute api state action).1.board.Late state.sequences number (missed +
      if plans (.of (execute api) state action) then 1 else 0) := by
  have unplanned (nothing : (execute api state action).2.planned = []) :
      plans (.of (execute api) state action) = false := by
    unfold plans
    rw [Entry.of, nothing]
    rfl
  by_cases worker : ∃ now polls, action = .work now polls
  · rcases worker with ⟨now, polls, rfl⟩
    have works := bounded.works api now polls
    have reached := (bounded.step api (.work now polls)).listed
    rw [show (execute api state (.work now polls)).1.sequences =
      state.sequences from works.sequences] at reached
    have stays (nothing : (work api state now polls).2.planned = [])
        (unsettled : state.phase = .planning → ∀ selected prefill sample,
            (work api state now polls).1.phase ≠ .settling selected prefill sample) :
        (execute api state (.work now polls)).1.board.Late state.sequences number (missed +
          if plans (.of (execute api) state (.work now polls)) then 1
          else 0) := by
      rw [unplanned nothing, if_neg Bool.false_ne_true]
      by_cases none : missed = 0
      · rw [none]
        exact reached.late member
      exact works.worked.late bounded.listed late none unsettled (turn now polls rfl none) member
    by_cases planning : state.phase = .planning
    · rcases plan_events api with
        ⟨nothing, unsettled⟩ | ⟨selection, selected, nonempty, planned, board⟩
      · rw [← work_planning api planning] at nothing unsettled
        exact stays nothing fun _ => unsettled
      rw [← work_planning api planning] at planned board
      have carried : plans (.of (execute api) state (.work now polls)) = true := by
        change (!(work api state now polls).2.planned.isEmpty) = true
        rw [planned]
        simpa using nonempty
      have unselected : number ∉ selection.selected := by
        change number ∉ (work api state now polls).2.planned.map Prod.fst at missing
        rw [planned] at missing
        exact missing
      rw [carried]
      change (work api state now polls).1.board.Late _ _ _
      rw [board]
      refine late.plan planning unselected fun first => ?_
      exact unselected (first_selected selected first (ready carried) bounded.limits)
    exact stays (work_unplanned api planning).2 fun reaches => (planning reaches).elim
  have other : ∀ now polls, action ≠ .work now polls :=
    fun now polls same => worker ⟨now, polls, same⟩
  rw [unplanned (call_unplanned api other).2, if_neg Bool.false_ne_true]
  exact (execute_calls api state action other).called.late late

theorem active_of_plans (carried : plans (.of (execute api) state action) = true) :
    (execute api state action).1.active = state.active := by
  have planned : (execute api state action).2.planned ≠ [] := by
    intro nothing
    unfold plans at carried
    rw [Entry.of, nothing] at carried
    cases carried
  by_cases worker : ∃ now polls, action = .work now polls
  · rcases worker with ⟨now, polls, rfl⟩
    change (work api state now polls).2.planned ≠ [] at planned
    change (work api state now polls).1.active = state.active
    by_cases planning : state.phase = .planning
    · rw [work_planning api planning] at planned ⊢
      rcases plan_events api with ⟨nothing, _⟩ | ⟨_, _, _, _, board⟩
      · exact (planned nothing).elim
      · exact congrArg BatchBoard.active board
    exact (planned (work_unplanned api planning).2).elim
  exact (planned (call_unplanned api fun now polls same => worker ⟨now, polls, same⟩).2).elim

/-- What holds of a run at the end of a stretch in which a job waits. -/
structure Missed (sequences number : ℕ) (window : List (BatchEntry Engine))
    (state : BatchGenerator Engine) : Prop where
  bounded : Bounded state
  limit : state.sequences = sequences
  few : (window.filter plans).length < sequences
  late : number ∈ state.active → state.board.Late sequences number (window.filter plans).length

/-- The job is active, ready for every plan and in none of them. -/
structure Overlooked (number : ℕ) (entry : BatchEntry Engine) : Prop where
  active : number ∈ entry.before.active
  ready : plans entry = true → (entry.before.job number).outputs.length < 16
  missing : number ∉ members entry

/-- A stretch that is about to start. -/
theorem Missed.empty {sequences : ℕ} (bounded : Bounded state)
    (limit : state.sequences = sequences) :
    Missed sequences number [] state where
  bounded := bounded
  limit := limit
  few := by
    have limits := bounded.limits
    rw [limit] at limits
    exact Nat.lt_of_lt_of_le limits (Nat.min_le_left _ _)
  late member := by
    rw [← limit]
    exact bounded.listed.late member

theorem lastPlan_append (some : (window.filter plans).length ≠ 0) : ∃ entry ∈ window,
      plans entry = true ∧ entry ∈ lastPlan (earlier ++ window) := by
  rcases eq_nil_or_concat (window.filter plans) with none | ⟨_, last, split⟩
  · rw [none] at some
    exact (some rfl).elim
  rw [concat_eq_append] at split
  have member : last ∈ window.filter plans := by
    rw [split]
    exact mem_append_right _ mem_cons_self
  rcases mem_filter.mp member with ⟨inside, carried⟩
  refine ⟨last, inside, carried, ?_⟩
  unfold lastPlan
  rw [filter_append, split, ← append_assoc, getLast?_concat]
  rfl

theorem Missed.step (api : BatchEngine Engine) {sequences : ℕ}
    (missed : Missed sequences number window state)
    (waits : ∀ entry ∈ window, Overlooked number entry)
    (next : Overlooked number (.of (execute api) state action))
    (kept : TurnsKept (earlier ++ window) state action) :
    Missed sequences number (window ++ [.of (execute api) state action])
      (execute api state action).1 := by
  have bounded := missed.bounded.step api action
  have limit : (execute api state action).1.sequences = sequences := by
    rw [← missed.limit]
    exact execute_sequences api missed.bounded
  have count : ((window ++ [Entry.of (execute api) state action]).filter plans).length =
      (window.filter plans).length +
        if plans (.of (execute api) state action) then 1 else 0 := by
    rw [filter_append]
    cases carried : plans (Entry.of (execute api) state action) <;> simp [carried]
  have late (member : number ∈ (execute api state action).1.active) :
      (execute api state action).1.board.Late sequences number
        ((window ++ [Entry.of (execute api) state action]).filter plans).length := by
    have earlierLate := missed.late next.active
    rw [← missed.limit] at earlierLate ⊢
    rw [count]
    refine execute_late api missed.bounded earlierLate next.ready next.missing ?_ member
    rintro _ _ rfl some turns first
    rcases kept turns with single | served
    · exact single
    rcases lastPlan_append some with ⟨entry, inside, carried, last⟩
    rcases served number first entry last with selected | blocked
    · exact ((waits entry inside).missing selected).elim
    have ready := (waits entry inside).ready carried
    omega
  refine ⟨bounded, limit, ?_, late⟩
  cases carried : plans (Entry.of (execute api) state action) with
  | true =>
    have member : number ∈ (execute api state action).1.active := by
      rw [active_of_plans api carried]
      exact next.active
    have positive : 0 < sequences := by
      have limits := missed.bounded.limits
      rw [missed.limit] at limits
      omega
    exact (late member).missed_lt positive
  | false =>
    rw [count, carried]
    exact missed.few

/--
Where every rotation moves a job that had its turn, a job that stays active
and ready is a member of one of as many consecutive plans as there are
sequences.
-/
theorem ready_job_planned {api : BatchEngine Engine} {engine : Engine}
    {sequences tokens pending : ℕ} {start state : BatchGenerator Engine}
    {earlier window : List (BatchEntry Engine)}
    (created : create engine sequences tokens pending = some start)
    (run : Run (execute api) TurnsKept start (earlier ++ window) state) (number : ℕ)
    (active : ∀ entry ∈ window, number ∈ entry.before.active)
    (ready : ∀ entry ∈ window, plans entry = true → (entry.before.job number).outputs.length < 16)
    (enough : sequences ≤ (window.filter plans).length) :
    ∃ entry ∈ window, number ∈ members entry := by
  by_contra missing
  have overlooked : ∀ entry ∈ window, Overlooked number entry := fun entry inside =>
      ⟨active entry inside, ready entry inside, fun member => missing ⟨entry, inside, member⟩⟩
  have missed : Missed sequences number window state := by
    clear enough missing active ready
    generalize recorded : earlier ++ window = history at run
    induction run generalizing window with
    | start =>
      rcases Bounded.create created with ⟨bounded, limit⟩
      rcases append_eq_nil_iff.mp recorded with ⟨rfl, rfl⟩
      exact .empty bounded limit
    | @step _ before run action kept induction =>
      rcases eq_nil_or_concat window with rfl | ⟨rest, _, rfl⟩
      · have reached := run.invariant (fun _ state => Bounded state ∧ state.sequences = sequences)
            (Bounded.create created)
            (fun _ reached action _ before _ =>
              ⟨before.1.step api action, (execute_sequences api before.1).trans before.2⟩)
        exact .empty (reached.1.step api action) ((execute_sequences api reached.1).trans reached.2)
      rw [concat_eq_append, ← append_assoc] at recorded
      rcases append_inj' recorded rfl with ⟨same, ended⟩
      cases ended
      subst same
      rw [concat_eq_append] at overlooked ⊢
      have waits : ∀ entry ∈ rest, Overlooked number entry := fun entry inside =>
          overlooked entry (mem_append_left _ inside)
      exact (induction waits rfl).step api waits (overlooked _ (mem_append_right _ mem_cons_self))
        kept
  exact Nat.not_le.mpr missed.few enough

/-! ## A job that waits forever -/

instance (history : List (BatchEntry Engine)) (state : BatchGenerator Engine) :
    (action : Action) → Decidable (TurnsKept history state action)
  | .work _ _ => inferInstanceAs (Decidable (_ → _ ∨ _))
  | .wakeSpuriously | .generate _ | .pollCancelled _ _ | .consume _ _ _
  | .storeClosing | .notifyAll | .join => inferInstanceAs (Decidable True)

/-- An engine in which every request ends with its first token. -/
def shortEngine : BatchEngine Unit :=
  { scriptedEngine false with
    acceptedTokenSnapshot := fun _ _ _ =>
      .ok { tokenIds := [7], acceptedCompletionCount := 1, finishReason := .length } }

/-- A generator for plans of one token. -/
def oneTokenPlans (sequences : ℕ) : BatchGenerator Unit where
  engine := ()
  sequences := sequences
  tokens := 1
  pending := 8

def longPrompt (id : ℕ) : GenerateRequest := { oneToken id with prompt := [7, 7, 7], capacity := 4 }

/-- A long prompt among requests that end with their first plan. -/
def shortAroundLong : List (BatchGenerator Unit → Action) := always
    ([.generate (oneToken 1), .generate (longPrompt 2)] ++
      [3, 4, 5, 6].map (fun id => .generate (oneToken id)) ++ worker 37)

/-- Two long prompts. -/
def longBesideLong : List (BatchGenerator Unit → Action) := always
    ([.generate (longPrompt 1), .generate (longPrompt 2)] ++ worker 22)

/-- The second of two long prompts gets its turn. -/
theorem ready_job_planned_beside :
    let reached := runScript (execute shortEngine) [] (oneTokenPlans 2) longBesideLong
    ∃ entry ∈ reached.1.drop 8, 1 ∈ members entry := by
  intro reached
  have created : create () 2 1 8 = some (oneTokenPlans 2) := rfl
  have run : Run (execute shortEngine) TurnsKept (oneTokenPlans 2)
      (reached.1.take 8 ++ reached.1.drop 8) reached.2 := by
    rw [take_append_drop]
    exact Run.runScript .start _ (by decide +kernel)
  exact ready_job_planned created run 1 (by decide +kernel) (by decide +kernel) (by decide +kernel)

/-- Three plans in a row pass over a job that is active and ready. -/
theorem ready_job_overlooked :
    let reached := runScript (execute shortEngine) [] (oneTokenPlans 3) shortAroundLong
    create () 3 1 8 = some (oneTokenPlans 3) ∧
      Run (execute shortEngine) (fun _ _ _ => True) (oneTokenPlans 3) reached.1 reached.2 ∧
      (∀ entry ∈ reached.1.drop 12, 1 ∈ entry.before.active) ∧
      (∀ entry ∈ reached.1.drop 12, (entry.before.job 1).outputs.length < 16) ∧
      (((reached.1.drop 12).filter plans).map members) = [[0], [2], [3]] := by
  refine ⟨rfl, ?_, ?_⟩
  · exact Run.runScript .start _ (ScriptAllowed.unrestricted _)
  · decide +kernel

end BatchGenerator

end Pih
