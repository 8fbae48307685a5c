import Pih.DeepSeek.BatchSteps
import Mathlib.Data.List.Rotate
import Mathlib.Tactic.Linarith

/-!
# The board of a batch generator: invariant and progress

`Sound` is what holds of the board in every reached state.  `pace` is a number
that drops with every step of the worker while a job up to a given one waits
and all jobs up to it are interrupted: the worker needs at most two more laps
of its loop to complete them.
-/

namespace Pih

open List

namespace BatchBoard

/-- What the phase says about the queue and the active jobs. -/
def Phased (board : BatchBoard) : Prop :=
  match board.phase with
  | .testing => board.active = []
  | .woken => board.active = []
  | .parking => board.active = [] ∧ board.queued = [] ∧ board.closing = false
  | .parked => board.active = [] ∧ board.queued = []
  | .settling selected _ _ => selected.Nodup ∧ ∀ number ∈ selected, number ∈ board.active
  | .failing _ => board.active = []
  | .returned => board.active = [] ∧ board.queued = [] ∧ board.closing = true
  | _ => True

/-- A worker that finds the generator closing still reaches the queue. -/
def Drains (sequences : ℕ) (board : BatchBoard) : Prop :=
  match board.phase with
  | .sweeping _ => False
  | .checking => False
  | .returned => False
  | .failing _ => True
  | _ => board.active.length < sequences

instance decidableDrains (sequences : ℕ) : (board : BatchBoard) → Decidable (board.Drains sequences)
  | ⟨_, _, _, .sweeping _⟩ | ⟨_, _, _, .checking⟩ | ⟨_, _, _, .returned⟩ =>
    inferInstanceAs (Decidable False)
  | ⟨_, _, _, .failing _⟩ => inferInstanceAs (Decidable True)
  | ⟨_, active, _, .binding⟩ | ⟨_, active, _, .entering⟩
  | ⟨_, active, _, .testing⟩ | ⟨_, active, _, .parking⟩
  | ⟨_, active, _, .parked⟩ | ⟨_, active, _, .woken⟩
  | ⟨_, active, _, .admitting⟩ | ⟨_, active, _, .planning⟩
  | ⟨_, active, _, .settling _ _ _⟩ => inferInstanceAs (Decidable (active.length < sequences))

/-- The invariant of the board. -/
structure Sound (sequences pending : ℕ) (board : BatchBoard) : Prop where
  room : board.active.length ≤ sequences
  bounded : board.queued.length ≤ pending
  order : board.queued.Pairwise (· < ·)
  fifo : ∀ number ∈ board.active, ∀ later ∈ board.queued, number < later
  distinct : board.active.Nodup
  phased : board.Phased
  closed : board.closing = true → board.queued = [] ∨ board.Drains sequences

variable {sequences pending count : ℕ} {interrupted retirable : ℕ → Prop}
  {board after : BatchBoard} {completed : List ℕ}

/-- The numbers stay in order when the lists only lose members. -/
theorem Sound.shrink (sound : Sound sequences pending board)
    (queued : after.queued.Sublist board.queued)
    (active : after.active.Subperm board.active) (phased : after.Phased)
    (closed : after.closing = true → after.queued = [] ∨ after.Drains sequences) :
    Sound sequences pending after where
  room := Nat.le_trans active.length_le sound.room
  bounded := Nat.le_trans queued.length_le sound.bounded
  order := sound.order.sublist queued
  fifo number member later waiting :=
    sound.fifo number (active.subset member) later (queued.subset waiting)
  distinct := by
    rcases active with ⟨_, same, fewer⟩
    exact same.nodup_iff.mp (sound.distinct.sublist fewer)
  phased := phased
  closed := closed

theorem Worked.sound (worked : Worked sequences interrupted retirable board completed after)
    (stopping : board.closing = true → ∀ number, interrupted number)
    (sound : Sound sequences pending board) : Sound sequences pending after := by
  have closed := sound.closed
  have phased := sound.phased
  cases worked with
  | bound | entered | called | swept | passed | rested =>
    exact sound.shrink (.refl _) (.refl _) trivial closed
  | idled => exact sound.shrink (.refl _) (.refl _) rfl nofun
  | waited => exact sound.shrink (.refl _) (.refl _) ⟨phased, rfl, rfl⟩ nofun
  | blocked => exact sound.shrink (.refl _) (.refl _) ⟨phased.1, phased.2.1⟩ closed
  | slept | halted => exact sound
  | relocked => exact sound.shrink (.refl _) (.refl _) phased closed
  | unlocked full =>
    refine sound.shrink (.refl _) (.refl _) trivial ?_
    intro closing
    rcases full with empty | full
    · exact .inl empty
    rcases closed closing with empty | room
    · exact .inl empty
    · exact (Nat.not_lt.mpr full room).elim
  | refused room =>
    refine sound.shrink (sublist_cons_self _ _) (.refl _) trivial ?_
    intro closing
    exact .inr room
  | @admitted number _ _ closing room going =>
    exact
      { room := by
          simp only [length_append]
          exact room
        bounded := Nat.le_of_succ_le sound.bounded
        order := sound.order.of_cons
        fifo := by
          intro member listed later waiting
          rcases mem_append.mp listed with old | new
          · exact sound.fifo member old later (mem_cons_of_mem _ waiting)
          rw [mem_singleton.mp new]
          exact rel_of_pairwise_cons sound.order waiting
        distinct := by
          refine sound.distinct.append (nodup_singleton number) ?_
          intro member old new
          have same := mem_singleton.mp new
          have earlier := sound.fifo member old number mem_cons_self
          omega
        phased := trivial
        closed := fun closing => (going (stopping closing number)).elim }
  | abandoned =>
    exact sound.shrink (sublist_cons_self _ _) nil_subperm rfl (fun _ => .inr trivial)
  | removed =>
    exact sound.shrink (.refl _) (eraseIdx_sublist _ _).subperm trivial closed
  | resumed =>
    refine sound.shrink (.refl _) (.refl _) trivial ?_
    intro closing
    exact .inl ((closed closing).resolve_right id)
  | stopped =>
    have empty := (closed rfl).resolve_right id
    exact sound.shrink (.refl _) (.refl _) ⟨rfl, empty, rfl⟩ (fun _ => .inl empty)
  | looped => exact sound.shrink (.refl _) (.refl _) trivial nofun
  | planned members =>
    exact sound.shrink (.refl _) (.refl _) ⟨sound.distinct.sublist members,
        fun _ member => members.subset member⟩ closed
  | kept =>
    exact sound.shrink (.refl _) (.refl _) ⟨(nodup_cons.mp phased.1).2,
        fun _ member => phased.2 _ (mem_cons_of_mem _ member)⟩
      closed
  | finished =>
    have once := nodup_cons.mp phased.1
    refine sound.shrink (.refl _) erase_sublist.subperm ⟨once.2, ?_⟩ ?_
    · intro member listed
      refine (mem_erase_of_ne ?_).mpr (phased.2 member (mem_cons_of_mem _ listed))
      rintro rfl
      exact once.1 listed
    · intro stop
      refine (closed stop).imp_right ?_
      exact Nat.lt_of_le_of_lt length_erase_le
  | @turned _ _ _ active =>
    refine sound.shrink (.refl _) (rotate_perm active 1).subperm trivial ?_
    intro stop
    refine (closed stop).imp_right ?_
    intro room
    change (active.rotate 1).length < sequences
    rw [length_rotate]
    exact room
  | failed => exact sound.shrink (.refl _) nil_subperm rfl (fun _ => .inr trivial)
  | drained => exact sound.shrink (nil_sublist _) (.refl _) ⟨phased, rfl, rfl⟩ (fun _ => .inl rfl)

/-- A worker does not block once the flag is set. -/
theorem Worked.parked (worked : Worked sequences interrupted retirable board completed after)
    (sound : Sound sequences pending board) (closing : after.closing = true)
    (parked : after.phase = .parked) : board.closing = true ∧ board.phase = .parked := by
  have phased := sound.phased
  cases worked with
  | blocked =>
    rw [phased.2.2] at closing
    cases closing
  | slept => exact ⟨closing, parked⟩
  | _ => cases parked

/-- The destructor may store the flag. -/
def Closable (sequences : ℕ) (board : BatchBoard) : Prop :=
  (board.queued = [] ∨ board.Drains sequences) ∧ board.phase ≠ .parking

instance (sequences : ℕ) (board : BatchBoard) : Decidable (board.Closable sequences) :=
  inferInstanceAs (Decidable (_ ∧ _))

theorem Sound.notify (sound : Sound sequences pending board) :
    Sound sequences pending board.notify := by
  rcases board with ⟨_, _, _, _⟩
  unfold BatchBoard.notify
  split
  next parked =>
    subst parked
    have phased := sound.phased
    exact sound.shrink (.refl _) (.refl _) phased.1 sound.closed
  · exact sound

theorem Sound.push {queued active : List ℕ} {phase : BatchPhase}
    (sound : Sound sequences pending ⟨queued, active, false, phase⟩)
    (room : queued.length < pending)
    (unlocked : phase ≠ .testing ∧ phase ≠ .parking ∧ phase ≠ .admitting)
    (below : ∀ number ∈ queued ++ active, number < issued) :
    Sound sequences pending (BatchBoard.notify ⟨queued ++ [issued], active, false, phase⟩) := by
  have listed (next : BatchPhase) (phased : Phased ⟨queued ++ [issued], active, false, next⟩) :
      Sound sequences pending ⟨queued ++ [issued], active, false, next⟩ :=
    { room := sound.room
      bounded := by
        simp only [length_append]
        exact room
      order := by
        refine pairwise_append.mpr ⟨sound.order, pairwise_singleton _ _, ?_⟩
        intro number member last new
        rw [mem_singleton.mp new]
        exact below number (mem_append_left _ member)
      fifo := by
        intro number member later waiting
        rcases mem_append.mp waiting with old | new
        · exact sound.fifo number member later old
        rw [mem_singleton.mp new]
        exact below number (mem_append_right _ member)
      distinct := sound.distinct
      phased
      closed := nofun }
  have phased := sound.phased
  unfold BatchBoard.notify
  split
  next parked =>
    subst parked
    exact listed .woken phased.1
  next awake =>
    apply listed phase
    cases phase with
    | testing | woken | settling | failing => exact phased
    | parking => exact (unlocked.2.1 rfl).elim
    | parked => exact (awake rfl).elim
    | returned => cases phased.2.2
    | binding | entering | admitting | sweeping | checking | planning => trivial

/-- A step of the other threads keeps the board sound. -/
theorem Called.sound (called : Called pending issued board count after)
    (sound : Sound sequences pending board)
    (below : ∀ number ∈ board.queued ++ board.active, number < issued)
    (closable : after.closing = true → board.closing = true ∨ board.Closable sequences) :
    Sound sequences pending after := by
  cases called with
  | silent => exact sound
  | notified => exact sound.notify
  | closed =>
    rcases closable rfl with closing | ⟨drains, awake⟩
    · have same : { board with closing := true } = board := by rw [← closing]
      rw [same]
      exact sound
    refine sound.shrink (.refl _) (.refl _) ?_ (fun _ => drains)
    have phased := sound.phased
    rcases board with ⟨_, _, _, phase⟩
    cases phase with
    | testing | woken | parked | settling | failing => exact phased
    | parking => exact (awake rfl).elim
    | returned => exact ⟨phased.1, phased.2.1, rfl⟩
    | binding | entering | admitting | sweeping | checking | planning => trivial
  | pushed room unlocked => exact sound.push room unlocked below

/-! ## Every job stays somewhere -/

/-- No job is lost or doubled by a step of the worker. -/
theorem Worked.perm (worked : Worked sequences interrupted retirable board completed after)
    (sound : Sound sequences pending board)
    (retires : board.phase = .admitting → ∀ number ∈ board.queued.head?, retirable number) :
    (completed ++ (after.queued ++ after.active)).Perm (board.queued ++ board.active) := by
  cases worked with
  | refused | drained => exact .refl _
  | admitted =>
    rw [nil_append, ← append_assoc]
    exact perm_append_singleton _ _
  | abandoned stuck => exact (stuck (retires rfl _ rfl)).elim
  | @removed number queued active _ place found =>
    have split := List.getElem_cons_eraseIdx_perm (List.getElem_of_getElem? found).1
    rw [(List.getElem_of_getElem? found).2] at split
    have front : (number :: (queued ++ active.eraseIdx place)).Perm
        (queued ++ number :: active.eraseIdx place) :=
      perm_middle.symm
    exact front.trans (split.append_left queued)
  | @finished number _ _ _ queued active =>
    have member := sound.phased.2 number mem_cons_self
    have front : (number :: (queued ++ active.erase number)).Perm
        (queued ++ number :: active.erase number) :=
      perm_middle.symm
    exact front.trans ((perm_cons_erase member).symm.append_left queued)
  | turned => exact (rotate_perm _ 1).append_left _
  | failed =>
    rw [append_nil]
    exact perm_append_comm
  | _ => exact .refl _

/-! ## Progress -/

/-- A job up to the given one is not complete yet. -/
def Waiting (last : ℕ) (board : BatchBoard) : Prop :=
  ∃ number ∈ board.queued ++ board.active, number ≤ last

variable {last : ℕ}

theorem not_waiting_nil {closing : Bool} {phase : BatchPhase} :
    ¬ Waiting last ⟨[], [], closing, phase⟩ := by
  rintro ⟨_, member, _⟩
  cases member

/-- How many further laps the worker may need. -/
def laps (last : ℕ) (board : BatchBoard) : ℕ :=
  match board.phase with
  | .sweeping place => if ∀ number ∈ board.active.take place, last < number then 1 else 2
  | .checking => if ∀ number ∈ board.active, last < number then 1 else 2
  | .planning => 2
  | .settling _ _ _ => 2
  | .failing _ => 0
  | .returned => 0
  | _ => if board.active = [] then 0 else 1

/-- How many steps the worker may still take in its lap. -/
def remaining (span : ℕ) (board : BatchBoard) : ℕ :=
  match board.phase with
  | .binding => 5 * span + 2
  | .woken => 5 * span + 2
  | .entering => 5 * span + 1
  | .testing => 5 * span + 1
  | .admitting => 4 * span + board.queued.length
  | .sweeping place => 3 * span + (board.active.length - place)
  | .checking => 2 * span + 1
  | .planning => 2 * span
  | .settling selected _ _ => span + selected.length
  | .failing _ => 1
  | _ => 0

/-- A lap takes fewer than six times as many steps. -/
def span (sequences pending : ℕ) : ℕ := sequences + pending + 3

def pace (sequences pending last : ℕ) (board : BatchBoard) : ℕ :=
  board.laps last * (6 * span sequences pending) + board.remaining (span sequences pending)

/-- No step of the worker takes a job back. -/
theorem Worked.members (worked : Worked sequences interrupted retirable board completed after)
    (member : number ∈ after.queued ++ after.active) : number ∈ board.queued ++ board.active := by
  have grown {less more queued : List ℕ} (fewer : ∀ number ∈ less, number ∈ more) :
      number ∈ queued ++ less → number ∈ queued ++ more := by
    intro listed
    rcases mem_append.mp listed with old | new
    · exact mem_append_left _ old
    · exact mem_append_right _ (fewer number new)
  cases worked with
  | refused => exact mem_cons_of_mem _ member
  | admitted =>
    simp only [mem_append, mem_cons] at member ⊢
    tauto
  | abandoned =>
    exact mem_cons_of_mem _ (grown (fun _ none => (not_mem_nil none).elim) member)
  | removed => exact grown (fun _ => mem_of_mem_eraseIdx) member
  | finished => exact grown (fun _ => mem_of_mem_erase) member
  | turned => exact grown (fun _ => mem_rotate.mp) member
  | failed => exact grown (fun _ none => (not_mem_nil none).elim) member
  | drained => exact mem_append_right _ member
  | _ => exact member

theorem Worked.waiting (worked : Worked sequences interrupted retirable board completed after)
    (waiting : Waiting last after) : Waiting last board := by
  rcases waiting with ⟨number, member, early⟩
  exact ⟨number, worked.members member, early⟩

/-- Jobs ahead of the queue are older than the jobs in it. -/
theorem Sound.active_early (sound : Sound sequences pending board) (waiting : Waiting last board)
    (none : ∀ number ∈ board.active, last < number) : board.active = [] := by
  rcases waiting with ⟨number, member, _⟩
  rcases mem_append.mp member with queued | active
  · rw [eq_nil_iff_forall_not_mem]
    intro other listed
    have ahead := sound.fifo other listed number queued
    have late := none other listed
    omega
  have late := none number active
  omega

/-- While jobs wait that are interrupted, each step of the worker counts. -/
theorem Worked.pace_lt (worked : Worked sequences interrupted retirable board completed after)
    (positive : 0 < sequences) (sound : Sound sequences pending board)
    (elapsed : ∀ number, number ≤ last → interrupted number) (waiting : Waiting last after) :
    pace sequences pending last after < pace sequences pending last board := by
  have before := worked.waiting waiting
  have phased := sound.phased
  have bounded := sound.bounded
  have room := sound.room
  have wide : sequences + pending + 3 = span sequences pending := rfl
  unfold pace
  generalize span sequences pending = step at wide
  cases worked with
  | bound | relocked | abandoned =>
    simp only [laps, remaining]
    omega
  | entered | called =>
    simp only [laps, remaining] at bounded ⊢
    omega
  | idled => exact absurd before not_waiting_nil
  | waited =>
    subst phased
    exact absurd before not_waiting_nil
  | blocked | halted =>
    rcases phased with ⟨rfl, rfl, _⟩
    exact absurd before not_waiting_nil
  | slept =>
    rcases phased with ⟨rfl, rfl⟩
    exact absurd before not_waiting_nil
  | @unlocked _ active _ full =>
    have busy : active ≠ [] := by
      rintro rfl
      rcases full with rfl | full
      · exact not_waiting_nil before
      · exact Nat.not_le.mpr positive full
    simp only [laps, remaining, busy, if_false, take_zero,
      not_mem_nil, false_implies, implies_true, if_true] at room ⊢
    omega
  | refused | kept | finished =>
    simp only [laps, remaining, length_cons]
    omega
  | @admitted number queued active _ _ going =>
    -- A job that is still going is younger than the jobs that wait.
    have late : last < number := Nat.lt_of_not_le fun early => going (elapsed number early)
    have busy : active ≠ [] := by
      rintro rfl
      rcases waiting with ⟨other, member, early⟩
      rcases mem_append.mp member with queued | new
      · have later := rel_of_pairwise_cons sound.order queued
        omega
      have same := mem_singleton.mp new
      omega
    simp only [laps, remaining, busy, append_eq_nil_iff, false_and, length_cons]
    omega
  | @swept _ _ _ _ past =>
    have short := getElem?_eq_none_iff.mp past
    simp only [laps, remaining, take_of_length_le short]
    omega
  | @passed number _ active _ place found going =>
    have late : last < number := Nat.lt_of_not_le fun early => going (elapsed number early)
    have inside := (List.getElem_of_getElem? found).1
    have same : (∀ other ∈ active.take (place + 1), last < other) ↔
        ∀ other ∈ active.take place, last < other := by
      simp [take_add_one, found, or_imp, forall_and, late]
    simp only [laps, remaining, same]
    omega
  | @removed _ _ active _ place found =>
    have inside := (List.getElem_of_getElem? found).1
    simp only [laps, remaining, List.take_eraseIdx_eq_take_of_le active
      place place (Nat.le_refl _), length_eraseIdx, inside, if_true]
    omega
  | @resumed _ active _ busy =>
    have early : ¬ ∀ number ∈ active, last < number :=
      fun none => busy (sound.active_early before none)
    simp only [laps, remaining, early, if_false]
    omega
  | stopped =>
    have empty := (sound.closed rfl).resolve_right id
    subst empty
    exact absurd before not_waiting_nil
  | looped =>
    simp only [laps, remaining, not_mem_nil, false_implies, implies_true, if_true]
    omega
  | rested | turned =>
    simp only [laps, remaining]
    split <;> omega
  | planned members =>
    have fewer := members.length_le
    simp only [laps, remaining] at room ⊢
    omega
  | @failed queued _ closing phase _ fragile =>
    have steps : step ≤ remaining step ⟨queued, completed, closing, phase⟩ := by
      cases phase with
      | binding | sweeping | planning | settling => simp only [remaining]; omega
      | _ => exact fragile.elim
    simp only [laps, remaining] at steps ⊢
    omega
  | drained =>
    subst phased
    exact absurd waiting not_waiting_nil

/-- The other threads do not hold the worker up. -/
theorem Called.pace_le (called : Called pending issued board count after)
    (sound : Sound sequences pending board) (waiting : Waiting last board) :
    pace sequences pending last after ≤ pace sequences pending last board := by
  have phased := sound.phased
  cases called with
  | silent => exact Nat.le_refl _
  | notified =>
    unfold BatchBoard.notify
    split
    next parked =>
      rcases board with ⟨queued, active, _, phase⟩
      cases parked
      rcases phased with ⟨rfl, rfl⟩
      exact absurd waiting not_waiting_nil
    · exact Nat.le_refl _
  | closed => exact Nat.le_refl _
  | @pushed _ _ phase _ unlocked =>
    unfold BatchBoard.notify
    split
    next parked =>
      cases parked
      rcases phased with ⟨rfl, rfl⟩
      exact absurd waiting not_waiting_nil
    next =>
      cases phase with
      | admitting => exact (unlocked.2.2 rfl).elim
      | _ => exact Nat.le_refl _

theorem notify_queued (board : BatchBoard) : board.notify.queued = board.queued := by
  unfold notify
  split <;> rfl

theorem notify_active (board : BatchBoard) : board.notify.active = board.active := by
  unfold notify
  split <;> rfl

/-- Older jobs are not added again. -/
theorem Called.waiting (called : Called pending issued board count after)
    (known : last < issued) (waiting : Waiting last after) : Waiting last board := by
  rcases waiting with ⟨number, member, early⟩
  refine ⟨number, ?_, early⟩
  cases called with
  | silent | closed => exact member
  | notified =>
    rw [notify_queued, notify_active] at member
    exact member
  | @pushed _ active =>
    rw [notify_queued, notify_active] at member
    simp only [mem_append, mem_singleton] at member ⊢
    rcases member with (old | new) | active
    · exact .inl old
    · omega
    · exact .inr active

/-! ## Winding down -/

/-- How many steps the worker may take once all jobs are complete. -/
def windDown : BatchPhase → ℕ
  | .planning => 9
  | .settling selected _ _ => 8 + selected.length
  | .binding => 7
  | .woken => 7
  | .entering => 6
  | .testing => 6
  | .admitting => 5
  | .sweeping _ => 4
  | .checking => 3
  | .failing _ => 1
  | _ => 0

def Awake (board : BatchBoard) : Prop := board.phase ≠ .parking ∧ board.phase ≠ .parked

section

variable (worked : Worked sequences interrupted retirable board completed after)

include worked

theorem Worked.windDown_lt (closing : board.closing = true)
    (queued : board.queued = []) (active : board.active = [])
    (awake : board.Awake) (running : after.phase ≠ .returned) :
    windDown after.phase < windDown board.phase := by
  cases worked with
  | bound | entered | called | relocked | unlocked | swept | rested | turned => simp [windDown]
  | idled | waited | looped => cases closing
  | blocked => exact (awake.1 rfl).elim
  | slept => exact (awake.2 rfl).elim
  | refused | admitted | abandoned => cases queued
  | passed found going | removed found =>
    subst active
    cases found
  | resumed busy => exact (busy active).elim
  | stopped | drained | halted => exact (running rfl).elim
  | planned members =>
    subst active
    cases members
    simp [windDown]
  | kept | finished =>
    simp only [windDown, length_cons]
    omega
  | @failed _ _ _ phase _ fragile =>
    cases phase with
    | binding | sweeping | planning => simp [windDown]
    | settling =>
      simp only [windDown]
      omega
    | _ => exact fragile.elim

theorem Worked.awake (closing : board.closing = true) (awake : board.Awake) :
    after.closing = true ∧ after.Awake := by
  cases worked with
  | waited => cases closing
  | blocked => exact (awake.1 rfl).elim
  | slept => exact (awake.2 rfl).elim
  | drained => exact ⟨rfl, nofun, nofun⟩
  | _ => exact ⟨closing, nofun, nofun⟩

theorem Worked.eq_of_returned (returned : board.phase = .returned) : after = board := by
  cases worked with
  | halted => rfl
  | failed fragile =>
    cases returned
    exact fragile.elim
  | _ => cases returned

end

/-- Once the worker is awake and the flag is set, the others are too late. -/
theorem Called.eq_of_closing (called : Called pending issued board count after)
    (closing : board.closing = true) (awake : board.phase ≠ .parked) : after = board := by
  cases called with
  | silent => rfl
  | notified =>
    unfold notify
    rw [if_neg awake]
  | closed => rw [← closing]
  | pushed => cases closing

/-- A closing generator: how many steps the worker may still take. -/
def stopPace (sequences pending last : ℕ) (board : BatchBoard) : ℕ :=
  if board.queued ++ board.active = [] then windDown board.phase
  else board.pace sequences pending last + 10

theorem Worked.stopPace_lt (worked : Worked sequences interrupted retirable board completed after)
    (positive : 0 < sequences) (sound : Sound sequences pending board)
    (closing : board.closing = true) (stopping : ∀ number, interrupted number) (awake : board.Awake)
    (below : ∀ number ∈ board.queued ++ board.active, number ≤ last)
    (running : after.phase ≠ .returned) :
    stopPace sequences pending last after < stopPace sequences pending last board := by
  have next := worked.sound (fun _ => stopping) sound
  unfold stopPace
  by_cases empty : board.queued ++ board.active = []
  · have still : after.queued ++ after.active = [] := by
      rw [eq_nil_iff_forall_not_mem]
      intro number member
      have earlier := worked.members member
      rw [empty] at earlier
      cases earlier
    rw [if_pos empty, if_pos still]
    rcases append_eq_nil_iff.mp empty with ⟨queued, active⟩
    exact worked.windDown_lt closing queued active awake running
  split
  next done =>
    have short : windDown after.phase ≤ 9 := by
      have phased := next.phased
      rcases after with ⟨_, active, _, phase⟩
      have idle : active = [] := (append_eq_nil_iff.mp done).2
      subst idle
      cases phase with
      | settling selected =>
        have empty : selected = [] := eq_nil_iff_forall_not_mem.mpr fun number member =>
            not_mem_nil (phased.2 number member)
        simp [windDown, empty]
      | _ => simp [windDown]
    omega
  next busy =>
    rcases exists_mem_of_ne_nil _ busy with ⟨number, member⟩
    have waiting : Waiting last after := ⟨number, member, below number (worked.members member)⟩
    have dropped := worked.pace_lt positive sound (fun number _ => stopping number) waiting
    omega

/-- The number of steps after which the worker has done its part. -/
def bound (sequences pending : ℕ) : ℕ := 18 * span sequences pending + 10

theorem Sound.pace_le (sound : Sound sequences pending board) :
    board.pace sequences pending last + 10 < bound sequences pending := by
  have room := sound.room
  have bounded := sound.bounded
  have phased := sound.phased
  have wide : sequences + pending + 3 = span sequences pending := rfl
  unfold pace bound
  generalize span sequences pending = step at wide
  have few : board.laps last ≤ 2 := by
    unfold laps
    split <;> (try split) <;> omega
  have short : board.remaining step < 6 * step := by
    rcases board with ⟨_, _, _, phase⟩
    cases phase with
    | settling =>
      have fewer := (subperm_of_subset phased.1 phased.2).length_le
      simp only [remaining] at room fewer ⊢
      omega
    | _ =>
      simp only [remaining] at room bounded ⊢
      omega
  have many := Nat.mul_le_mul_right (6 * step) few
  omega

theorem Sound.stopPace_lt (sound : Sound sequences pending board) :
    board.stopPace sequences pending last < bound sequences pending := by
  have paced : board.pace sequences pending last + 10 < _ := sound.pace_le
  have room := sound.room
  have phased := sound.phased
  unfold stopPace
  split
  next =>
    have short : windDown board.phase ≤ 9 + sequences := by
      rcases board with ⟨_, _, _, phase⟩
      cases phase with
      | settling =>
        have fewer := (subperm_of_subset phased.1 phased.2).length_le
        simp only [windDown] at room fewer ⊢
        omega
      | _ =>
        simp only [windDown]
        omega
    unfold bound span
    omega
  · exact paced

/-- What a step of the other threads does to the lists. -/
theorem Called.lists (called : Called pending issued board count after) :
    after.active = board.active ∧ (count = 0 ∧ after.queued = board.queued ∨
      count = 1 ∧ after.queued = board.queued ++ [issued]) := by
  cases called with
  | silent | closed => exact ⟨rfl, .inl ⟨rfl, rfl⟩⟩
  | notified => exact ⟨notify_active board, .inl ⟨rfl, notify_queued board⟩⟩
  | pushed => exact ⟨notify_active _, .inr ⟨rfl, notify_queued _⟩⟩

end BatchBoard

end Pih
