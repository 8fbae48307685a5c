import Pih.DeepSeek.BatchGeneration
import Mathlib.Data.List.Perm.Basic

/-!
# What the threads of a batch generator do to the queue

The queue, the active jobs, the closing flag and the phase of the worker form
the board on which the threads meet.  `Worked` says once what a step of the
worker can do to the board and which jobs it completes; `Called` says what
the other threads can do.  `JobsKept` follows the job table.
-/

namespace Pih

/-- The part of the state that the worker and the callers share. -/
structure BatchBoard where
  queued : List ℕ
  active : List ℕ
  closing : Bool
  phase : BatchPhase

/-- The phases in which the worker may give up without the mutex. -/
def BatchPhase.Fragile : BatchPhase → Prop
  | .binding => True
  | .sweeping _ => True
  | .planning => True
  | .settling _ _ _ => True
  | _ => False

namespace BatchBoard

section

variable (sequences : ℕ) (interrupted retirable : ℕ → Prop)

/--
A step of the worker with the jobs that it completes.  The parameters say
which jobs the step finds interrupted, and for which jobs a failed
configuration can be taken back.
-/
inductive Worked : BatchBoard → List ℕ → BatchBoard → Prop where
  | bound {queued active closing} : Worked ⟨queued, active, closing, .binding⟩ []
      ⟨queued, active, closing, .entering⟩
  | entered {queued active closing} (busy : active ≠ [] ∨ queued ≠ [] ∨ closing = true) :
    Worked ⟨queued, active, closing, .entering⟩ [] ⟨queued, active, closing, .admitting⟩
  | idled : Worked ⟨[], [], false, .entering⟩ [] ⟨[], [], false, .testing⟩
  | called {queued active closing} (ready : closing = true ∨ queued ≠ []) :
    Worked ⟨queued, active, closing, .testing⟩ [] ⟨queued, active, closing, .admitting⟩
  | waited {active} : Worked ⟨[], active, false, .testing⟩ [] ⟨[], active, false, .parking⟩
  | blocked {queued active closing} : Worked ⟨queued, active, closing, .parking⟩ []
      ⟨queued, active, closing, .parked⟩
  | slept {queued active closing} : Worked ⟨queued, active, closing, .parked⟩ []
      ⟨queued, active, closing, .parked⟩
  | relocked {queued active closing} : Worked ⟨queued, active, closing, .woken⟩ []
      ⟨queued, active, closing, .testing⟩
  | unlocked {queued active closing} (full : queued = [] ∨ sequences ≤ active.length) :
    Worked ⟨queued, active, closing, .admitting⟩ [] ⟨queued, active, closing, .sweeping 0⟩
  | refused {number queued active closing} (room : active.length < sequences) : Worked
      ⟨number :: queued, active, closing, .admitting⟩ [number]
      ⟨queued, active, closing, .admitting⟩
  | admitted {number queued active closing} (room : active.length < sequences)
    (going : ¬ interrupted number) :
    Worked ⟨number :: queued, active, closing, .admitting⟩ []
      ⟨queued, active ++ [number], closing, .admitting⟩
  | abandoned {number queued active closing status} (stuck : ¬ retirable number) :
    Worked ⟨number :: queued, active, closing, .admitting⟩ active
      ⟨queued, [], closing, .failing status⟩
  | swept {queued active closing place} (past : active[place]? = none) :
    Worked ⟨queued, active, closing, .sweeping place⟩ [] ⟨queued, active, closing, .checking⟩
  | passed {number queued active closing place} (found : active[place]? = some number)
    (going : ¬ interrupted number) :
    Worked ⟨queued, active, closing, .sweeping place⟩ []
      ⟨queued, active, closing, .sweeping (place + 1)⟩
  | removed {number queued active closing place} (found : active[place]? = some number) :
    Worked ⟨queued, active, closing, .sweeping place⟩ [number]
      ⟨queued, active.eraseIdx place, closing, .sweeping place⟩
  | resumed {queued active closing} (busy : active ≠ []) : Worked
      ⟨queued, active, closing, .checking⟩ []
      ⟨queued, active, closing, .planning⟩
  | stopped {queued} : Worked ⟨queued, [], true, .checking⟩ [] ⟨queued, [], true, .returned⟩
  | looped {queued} : Worked ⟨queued, [], false, .checking⟩ [] ⟨queued, [], false, .entering⟩
  | rested {queued active closing} : Worked ⟨queued, active, closing, .planning⟩ []
      ⟨queued, active, closing, .entering⟩
  | planned {queued active closing selected prefill sample} (members : selected.Sublist active) :
    Worked ⟨queued, active, closing, .planning⟩ []
      ⟨queued, active, closing, .settling selected prefill sample⟩
  | kept {number rest prefill sample queued active closing} : Worked
      ⟨queued, active, closing, .settling (number :: rest) prefill sample⟩ []
      ⟨queued, active, closing, .settling rest prefill sample⟩
  | finished {number rest prefill sample queued active closing} : Worked ⟨queued, active, closing,
        .settling (number :: rest) prefill sample⟩ [number]
      ⟨queued, active.erase number, closing, .settling rest prefill sample⟩
  | turned {prefill sample queued active closing} : Worked
      ⟨queued, active, closing, .settling [] prefill sample⟩ []
      ⟨queued, active.rotate 1, closing, .entering⟩
  | failed {queued active closing phase status} (fragile : BatchPhase.Fragile phase) :
    Worked ⟨queued, active, closing, phase⟩ active ⟨queued, [], closing, .failing status⟩
  | drained {queued active closing status} : Worked
      ⟨queued, active, closing, .failing status⟩ queued
      ⟨[], active, true, .returned⟩
  | halted {queued active closing} : Worked ⟨queued, active, closing, .returned⟩ []
      ⟨queued, active, closing, .returned⟩

end

/-- A parked worker is woken. -/
def notify (board : BatchBoard) : BatchBoard :=
  if board.phase = .parked then { board with phase := .woken }
  else board

/-- A step of a caller or of the destructor. -/
inductive Called (pending issued : ℕ) : BatchBoard → ℕ → BatchBoard → Prop where
  | silent {board} : Called pending issued board 0 board
  | notified {board} : Called pending issued board 0 board.notify
  | closed {board} : Called pending issued board 0 { board with closing := true }
  | pushed {queued active phase} (room : queued.length < pending)
    (unlocked : phase ≠ .testing ∧ phase ≠ .parking ∧ phase ≠ .admitting) :
    Called pending issued ⟨queued, active, false, phase⟩ 1
      (notify ⟨queued ++ [issued], active, false, phase⟩)

end BatchBoard

/-! ## The job table -/

/-- The part of a job that never changes. -/
def BatchJob.request (job : BatchJob) : BatchGenerator.GenerateRequest where
  prompt := job.prompt
  maximum := job.maximum
  minimum := job.minimum
  capacity := job.capacity
  id := job.id
  generation := job.generation
  sampling := job.sampling
  deadline := job.deadline

/-- What one step does to a job that it completes or not. -/
structure BatchJob.Kept (touched completed : Prop) (job next : BatchJob) : Prop where
  request : next.request = job.request
  returned : next.returned = job.returned
  done : next.done = true ↔ job.done = true ∨ completed
  outputs : ¬ touched → next.outputs = job.outputs

/-- What one step does to the job table. -/
structure JobsKept (touched completed : List ℕ) (before after : List BatchJob) : Prop where
  length : after.length = before.length
  each : ∀ number job, before[number]? = some job → ∃ next, after[number]? = some next ∧
    BatchJob.Kept (number ∈ touched) (number ∈ completed) job next

theorem JobsKept.refl (touched : List ℕ) (jobs : List BatchJob) :
    JobsKept touched [] jobs jobs where
  length := rfl
  each _ job found := ⟨job, found, ⟨rfl, rfl, by simp, fun _ => rfl⟩⟩

theorem JobsKept.trans (earlier : JobsKept touched first before middle)
    (later : JobsKept touched second middle after) :
    JobsKept touched (first ++ second) before after where
  length := later.length.trans earlier.length
  each number job found := by
    rcases earlier.each number job found with ⟨between, reached, start⟩
    rcases later.each number between reached with ⟨next, last, rest⟩
    refine ⟨next, last, ?_⟩
    exact
      { request := rest.request.trans start.request
        returned := rest.returned.trans start.returned
        done := by
          rw [rest.done, start.done, List.mem_append, or_assoc]
        outputs := fun untouched => (rest.outputs untouched).trans (start.outputs untouched) }

theorem JobsKept.modify (jobs : List BatchJob)
    (kept : ∀ job, BatchJob.Kept (number ∈ touched) (number ∈ completed) job (update job))
    (others : ∀ other ∈ completed, other = number) :
    JobsKept touched completed jobs (jobs.modify number update) where
  length := by simp
  each other job found := by
    rw [List.getElem?_modify, found]
    by_cases same : number = other
    · subst same
      exact ⟨_, by simp, kept job⟩
    refine ⟨job, by simp [same], ⟨rfl, rfl, ?_, fun _ => rfl⟩⟩
    constructor
    · exact Or.inl
    · rintro (done | ended)
      · exact done
      · exact (same (others other ended).symm).elim

/-- An update that leaves the request and the answer of a job alone. -/
theorem JobsKept.update {update : BatchJob → BatchJob} (jobs : List BatchJob)
    (request : ∀ job, (update job).request = job.request)
    (returned : ∀ job, (update job).returned = job.returned)
    (done : ∀ job, (update job).done = job.done)
    (outputs : number ∉ touched → ∀ job, (update job).outputs = job.outputs) :
    JobsKept touched [] jobs (jobs.modify number update) := by
  apply JobsKept.modify jobs
  · intro job
    exact
      { request := request job
        returned := returned job
        done := by rw [done job]; simp
        outputs := fun untouched => outputs untouched job }
  · simp

theorem JobsKept.complete (touched : List ℕ) (number : ℕ)
    (status : Result Unit) (jobs : List BatchJob) :
    JobsKept touched [number] jobs (jobs.modify number fun job => job.complete status) := by
  apply JobsKept.modify jobs
  · intro job
    exact ⟨rfl, rfl, by simp [BatchJob.complete], fun _ => rfl⟩
  · simp

end Pih
