import Pih.Qwen.AdmissionCoordinator
import Pih.Qwen.KvSlotMoves
import Pih.Scheduler.StepAdmissions

/-!
# Cache generations and request generations stay in step

The engine numbers its requests and the cache pool numbers the sequences that
it admits, each with a counter of its own.  While the controller is ready the
queued admissions carry exactly the numbers from the one that the pool will
give next to the one that the engine will give next.  An admission that is
refused before the pool has counted it stops the controller, so no number is
used up on one side only.
-/

namespace Pih

open ControllerRuntime List QwenKvAdmissionCoordinator QwenKvAdmissionTransaction QwenKvSlotPool

/-- The status that reports generations out of step. -/
def QwenKvAdmissionCoordinator.drifted : Status :=
  .failedPrecondition "Qwen KV and controller sequence generations drifted"

/-! ## Operations that do not number sequences -/

namespace QwenKvSlotPool

/-- The next generation stays, and a failed pool does not recover. -/
structure SameNumber (pool next : QwenKvSlotPool) : Prop where
  number : next.nextSequenceGeneration = pool.nextSequenceGeneration
  ready : next.ready = pool.ready
  failed : next.failed = false → pool.failed = false

variable (pool : QwenKvSlotPool)

theorem SameNumber.refl : SameNumber pool pool := ⟨rfl, rfl, id⟩

theorem SameNumber.trans (earlier : SameNumber first second)
    (later : SameNumber second third) : SameNumber first third :=
  ⟨later.number.trans earlier.number, later.ready.trans earlier.ready,
    fun running => earlier.failed (later.failed running)⟩

theorem SameNumber.halted : SameNumber pool { pool with failed := true } := ⟨rfl, rfl, nofun⟩

theorem sameNumber_reserve (owner slotCount : ℕ) :
    SameNumber pool (pool.reserve owner slotCount).1 := by
  unfold reserve
  split
  · exact .refl pool
  split
  · exact .refl pool
  split
  · exact .refl pool
  split
  · exact .refl pool
  split
  · exact .refl pool
  split
  · exact .halted pool
  · exact ⟨rfl, rfl, id⟩

theorem sameNumber_publish (owner : ℕ) (handles : List QwenKvBlockHandle) :
    SameNumber pool (pool.publish owner handles).1 := by
  unfold publish
  split
  · exact .refl pool
  split
  · exact .refl pool
  · exact ⟨rfl, rfl, id⟩

theorem sameNumber_completeReclaimEvent (handle : QwenKvBlockHandle)
    (event : QwenKvCompletionEvent) (ready succeeded : Bool) :
    SameNumber pool (pool.completeReclaimEvent handle event ready succeeded).1 := by
  unfold completeReclaimEvent
  split
  · exact .refl pool
  split
  · exact .refl pool
  split
  · exact .refl pool
  split
  · exact .halted pool
  · exact ⟨rfl, rfl, id⟩

theorem sameNumber_beginNextScrub (event : QwenKvCompletionEvent) :
    SameNumber pool (pool.beginNextScrub event).1 := by
  unfold beginNextScrub
  split
  · exact .refl pool
  split
  · exact .refl pool
  split
  · exact .refl pool
  · exact ⟨rfl, rfl, id⟩

theorem sameNumber_completeScrub (handle : QwenKvBlockHandle)
    (event : QwenKvCompletionEvent) (cleared : ℕ) (ready succeeded : Bool) :
    SameNumber pool (pool.completeScrub handle event cleared ready succeeded).1 := by
  unfold completeScrub
  split
  · exact .refl pool
  split
  · exact .refl pool
  split
  · exact .refl pool
  split
  · exact .halted pool
  · exact ⟨rfl, rfl, id⟩

theorem reserve_ne_drifted (owner slotCount : ℕ)
    (refused : (pool.reserve owner slotCount).2 = .error status) : status ≠ drifted := by
  unfold drifted
  unfold reserve at refused
  split at refused
  · grind
  split at refused
  · grind
  split at refused
  · grind
  split at refused
  · grind
  split at refused
  case h_1 selected =>
    rw [← Except.error.inj refused, selectClean_error selected]
    grind
  split at refused
  · grind
  · grind

/-- Every outcome of taking a generation. -/
theorem acquireSequenceGeneration_cases : (pool.refuses = true ∧ pool.acquireSequenceGeneration =
      (pool, .error (.failedPrecondition "Qwen KV pool is not ready"))) ∨
    (pool.nextSequenceGeneration = u32Max ∧ pool.acquireSequenceGeneration =
      ({ pool with failed := true }, .error (.resourceExhausted
        "Qwen sequence generation identity is exhausted"))) ∨
    (pool.failed = false ∧ pool.acquireSequenceGeneration =
      ({ pool with nextSequenceGeneration := pool.nextSequenceGeneration + 1 },
        .ok pool.nextSequenceGeneration)) := by
  unfold acquireSequenceGeneration
  split
  case isTrue refused => exact .inl ⟨refused, rfl⟩
  case isFalse serving =>
    split
    case isTrue last => exact .inr (.inl ⟨last, rfl⟩)
    simp only [refuses, decide_eq_true_eq, not_or] at serving
    simpa using serving.2

end QwenKvSlotPool

namespace QwenBf16SynchronousKvRecycler

open QwenKvSlotPool (SameNumber)

theorem sameNumber_scrubSlot (recycler : QwenBf16SynchronousKvRecycler)
    (clearAndWait : ℕ → Result Unit) (pool : QwenKvSlotPool)
    (work : QwenKvScrubWork) (event : QwenKvCompletionEvent) :
    SameNumber pool (recycler.scrubSlot clearAndWait pool work event).1 := by
  unfold scrubSlot
  split
  · exact .refl pool
  split
  · exact .refl pool
  split
  · exact pool.sameNumber_completeScrub _ _ _ _ _
  · exact pool.sameNumber_completeScrub _ _ _ _ _

theorem sameNumber_recycleHandles (clearAndWait : ℕ → Result Unit)
    (event : QwenKvCompletionEvent) (recycler : QwenBf16SynchronousKvRecycler)
    (pool : QwenKvSlotPool) (handles : List QwenKvBlockHandle) :
    SameNumber pool (recycleHandles clearAndWait event recycler pool handles).2.1 := by
  induction handles generalizing recycler pool with
  | nil => exact .refl pool
  | cons handle _ induction =>
    unfold recycleHandles
    split
    · exact .refl pool
    have reclaimed := pool.sameNumber_completeReclaimEvent handle event true true
    split
    case h_1 refused =>
      rw [refused] at reclaimed
      exact reclaimed
    rename_i next done
    rw [done] at reclaimed
    dsimp only
    have begun := next.sameNumber_beginNextScrub ⟨recycler.scrubEvent, recycler.nextScrubGeneration⟩
    split
    case h_1 refused =>
      rw [refused] at begun
      exact reclaimed.trans begun
    rename_i started work beginning
    rw [beginning] at begun
    have scrubbed :=
      { recycler with nextScrubGeneration := recycler.nextScrubGeneration + 1 }.sameNumber_scrubSlot
        clearAndWait started work
        ⟨recycler.scrubEvent, recycler.nextScrubGeneration⟩
    split
    case h_1 failing =>
      rw [failing] at scrubbed
      exact reclaimed.trans (begun.trans scrubbed)
    rename_i done
    rw [done] at scrubbed
    exact reclaimed.trans (begun.trans (scrubbed.trans (induction _ _)))

theorem sameNumber_recycle (recycler : QwenBf16SynchronousKvRecycler)
    (clearAndWait : ℕ → Result Unit) (pool : QwenKvSlotPool)
    (handles : List QwenKvBlockHandle) (event : QwenKvCompletionEvent) :
    SameNumber pool (recycler.recycle clearAndWait pool handles event).2.1 := by
  unfold recycle
  split
  · exact .refl pool
  · exact sameNumber_recycleHandles clearAndWait event recycler pool handles

end QwenBf16SynchronousKvRecycler

/-! ## Reservations of the coordinator -/

namespace QwenKvAdmissionTransaction

open QwenKvSlotPool (SameNumber)

/-- A reservation that is made or that lacks clean slots was numbered. -/
inductive Numbered (pool : QwenKvSlotPool) :
    QwenKvSlotPool → Result QwenKvAdmissionTransaction → Prop where
  | refused {next : QwenKvSlotPool}
      (other : status.code ≠ .resourceExhausted)
      (unrelated : status ≠ drifted) :
      Numbered pool next (.error status)
  | exhausted (last : pool.nextSequenceGeneration = u32Max) (unrelated : status ≠ drifted) :
      Numbered pool { pool with failed := true } (.error status)
  | short {next : QwenKvSlotPool}
      (running : pool.failed = false)
      (same : SameNumber
        { pool with nextSequenceGeneration := pool.nextSequenceGeneration + 1 }
        next)
      (unrelated : status ≠ drifted) :
      Numbered pool next (.error status)
  | made {next : QwenKvSlotPool}
      (running : pool.failed = false)
      (same : SameNumber
        { pool with nextSequenceGeneration := pool.nextSequenceGeneration + 1 }
        next)
      (generation : transaction.sequenceGeneration = pool.nextSequenceGeneration) :
      Numbered pool next (.ok transaction)

theorem reserve_numbered (pool : QwenKvSlotPool) (owner tokens : ℕ) :
    Numbered pool (reserve pool owner tokens).1 (reserve pool owner tokens).2 := by
  unfold reserve
  split
  · exact .refused nofun (by unfold drifted; grind)
  rename_i valid
  have small : tokens ≤ QwenKvBlockTable.kMaximumReservedTokens := by
    simp only [not_or, Nat.not_lt] at valid
    exact valid.2.2
  rw [checkedAddU64_of_le (by
    unfold QwenKvBlockTable.kMaximumReservedTokens at small
    unfold kTokensPerSlot u64Max
    omega)]
  rcases pool.acquireSequenceGeneration_cases with
    ⟨-, acquired⟩ | ⟨last, acquired⟩ | ⟨running, acquired⟩
  · rw [acquired]
    exact .refused nofun (by unfold drifted; grind)
  · rw [acquired]
    exact .exhausted last (by unfold drifted; grind)
  rw [acquired]
  dsimp only
  have same :=
    { pool with nextSequenceGeneration := pool.nextSequenceGeneration + 1 }.sameNumber_reserve owner
        ((tokens + (kTokensPerSlot - 1)) / kTokensPerSlot)
  split
  case h_1 next refused =>
    rw [refused] at same
    exact .short running same (reserve_ne_drifted _ _ _ (congrArg Prod.snd refused))
  rename_i reserved
  rw [reserved] at same
  exact .made running same rfl

end QwenKvAdmissionTransaction

namespace QwenKvAdmissionCoordinator

open QwenKvSlotPool (SameNumber)

variable (coordinator : QwenKvAdmissionCoordinator)

/-- The sequence generations of the admissions. -/
def generations : List ℕ := coordinator.admissions.filterMap fun admission =>
    admission.map sequenceGeneration

/-- The pool with the next sequence counted. -/
def counted : QwenKvSlotPool :=
  { coordinator.pool with nextSequenceGeneration := coordinator.pool.nextSequenceGeneration + 1 }

section

variable (coordinator : QwenKvAdmissionCoordinator) (admission : ControllerAdmissionView)

/-- What a reservation can do, as far as the numbers are concerned. -/
inductive Reserves : QwenKvAdmissionCoordinator → Result Unit → Prop where
  | refused {next : QwenKvAdmissionCoordinator}
    (other : status.code ≠ .resourceExhausted)
    (unrelated : status ≠ drifted) :
    Reserves next (.error status)
  | full (occupied : ∀ place ∈ coordinator.admissions, place ≠ none)
    (unrelated : status ≠ drifted) :
    Reserves coordinator (.error status)
  | exhausted (last : coordinator.pool.nextSequenceGeneration = u32Max)
    (unrelated : status ≠ drifted) :
    Reserves
      { coordinator with pool := { coordinator.pool with failed := true } }
      (.error status)
  | short
    {pool : QwenKvSlotPool} {status : Status}
    (running : coordinator.pool.failed = false)
    (same : SameNumber coordinator.counted pool)
    (unrelated : status ≠ drifted) :
    Reserves { coordinator with pool } (.error status)
  | mismatched {next : QwenKvAdmissionCoordinator}
    (running : coordinator.pool.failed = false)
    (different : coordinator.pool.nextSequenceGeneration ≠ admission.request.requestGeneration)
    (other : status.code ≠ .resourceExhausted) :
    Reserves next (.error status)
  | made
    {pool : QwenKvSlotPool} {index : ℕ}
    {transaction : QwenKvAdmissionTransaction}
    (running : coordinator.pool.failed = false)
    (same : SameNumber coordinator.counted pool)
    (free : coordinator.admissions[index]? = some none)
    (generation : transaction.sequenceGeneration = coordinator.pool.nextSequenceGeneration)
    (equal : transaction.sequenceGeneration = admission.request.requestGeneration) :
    Reserves ({ coordinator with pool }.setAdmission index (some transaction)) (.ok ())

end

theorem reserveAt_reserves (admission : ControllerAdmissionView) (tokens : ℕ)
    (free : coordinator.admissions[index]? = some none) :
    Reserves coordinator admission (coordinator.reserveAt index tokens
        admission.request.requestGeneration).1
      (coordinator.reserveAt index tokens admission.request.requestGeneration).2 := by
  have numbered := reserve_numbered coordinator.pool index tokens
  unfold reserveAt
  split
  case h_1 pool _ refused =>
    rw [refused] at numbered
    cases numbered with
    | refused other unrelated => exact .refused other unrelated
    | exhausted last unrelated => exact .exhausted last unrelated
    | short running same unrelated => exact .short running same unrelated
  rename_i reserved
  rw [reserved] at numbered
  cases numbered with
  | made running same generation =>
    split
    case isTrue different =>
      rw [generation] at different
      split
      · exact .mismatched running different nofun
      · exact .mismatched running different nofun
    rename_i equal
    exact .made running same free generation (not_not.mp equal)

theorem reserve_reserves (admission : ControllerAdmissionView) :
    Reserves coordinator admission (coordinator.reserve admission).1
      (coordinator.reserve admission).2 := by
  have invalid : Status.invalidArgument
      "Qwen KV admission lifetime token bound is invalid" ≠ drifted := by
    unfold drifted
    grind
  unfold reserve
  split
  · exact .refused nofun (by unfold drifted; grind)
  split
  case h_1 full =>
    refine .full ?_ (by unfold drifted; grind)
    intro place member empty
    have absent := findIdx?_eq_none_iff.mp full place member
    rw [empty] at absent
    cases absent
  rename_i index found
  rcases findIdx?_eq_some_iff_getElem.mp found with ⟨inside, empty, -⟩
  have free : coordinator.admissions[index]? = some none := by
    rw [getElem?_eq_getElem inside, Option.isNone_iff_eq_none.mp empty]
  split
  · exact .refused nofun invalid
  split
  · exact .refused nofun invalid
  · exact coordinator.reserveAt_reserves admission _ free

theorem perm_generations_setAdmission {coordinator : QwenKvAdmissionCoordinator} {index : ℕ}
    {old : Option QwenKvAdmissionTransaction} (found : coordinator.admissions[index]? = some old)
    (new : Option QwenKvAdmissionTransaction) :
    ((old.map sequenceGeneration).toList ++ (coordinator.setAdmission index new).generations).Perm
      ((new.map sequenceGeneration).toList ++ coordinator.generations) :=
  perm_filterMap_set _ new found

/-- The same admissions, as far as the numbers are concerned. -/
structure SameAdmissions (coordinator next : QwenKvAdmissionCoordinator) : Prop where
  generations : next.generations.Perm coordinator.generations
  length : next.admissions.length = coordinator.admissions.length
  pool : SameNumber coordinator.pool next.pool

theorem publishAt_same {coordinator next : QwenKvAdmissionCoordinator}
    (found : coordinator.admissions[index]? = some (some transaction))
    (told : coordinator.publishAt index transaction generation = (next, .ok ())) :
    SameAdmissions coordinator next := by
  unfold publishAt at told
  split at told
  · cases told
  rename_i done
  unfold QwenKvAdmissionTransaction.publish at done
  split at done
  · cases done
  split at done
  · cases done
  have same := coordinator.pool.sameNumber_publish
      transaction.ownerSequenceIndex transaction.handles
  split at done
  · cases done
  rename_i poolPublished
  cases done
  rw [poolPublished] at same
  rcases Prod.mk.inj told with ⟨rfl, -⟩
  exact ⟨(perm_append_left_iff _).mp (@perm_generations_setAdmission
      _ _ _ found _), length_set, same⟩

theorem publish_same {coordinator next : QwenKvAdmissionCoordinator}
    (told : coordinator.publish generation = (next, .ok ())) : SameAdmissions coordinator next := by
  unfold publish at told
  split at told
  · cases told
  split at told
  case h_1 found =>
    split at told
    · cases told
    · exact publishAt_same found told
  · cases told

end QwenKvAdmissionCoordinator

/-! ## The driver -/

namespace ControllerPackedDriver

open ControllerRuntime (Kept)

variable {runtime : ControllerRuntime}

variable (base : runtime.Base)

include base

theorem kept_completeCurrentSampledTokens (thread : ThreadId) (tokens : List ℕ) (now : ℤ) :
    Kept runtime (ControllerClient.completeCurrentSampledTokens runtime thread tokens now).1 := by
  unfold ControllerClient.completeCurrentSampledTokens ControllerProvider.completeSampledTokens
  split
  · exact .refl base
  split
  · exact .refl base
  exact @Kept.of_plain _ base ⟨thread, .completeCurrentSampledTokens tokens now⟩ rfl

variable (driver : ControllerPackedDriver)

theorem kept_publishPending (thread : ThreadId) (now : ℤ) :
    Kept runtime (driver.publishPending runtime thread now).2.1 := by
  have completed := kept_completeCurrentSampledTokens base thread driver.pendingTokens now
  unfold publishPending
  split
  · exact .refl base
  split
  case h_1 refused =>
    rw [refused] at completed
    split
    · exact completed
    · exact completed
  case h_2 done =>
    rw [done] at completed
    exact completed

theorem kept_finishExecution (thread : ThreadId) (now : ℤ) (view : ControllerPreparedPlanView)
    (execution : QwenBf16PackedBatchExecutionView) :
    Kept runtime (driver.finishExecution runtime thread now view execution).2.1 := by
  unfold finishExecution
  split
  · exact .refl base
  split
  · exact .refl base
  · exact kept_publishPending base _ thread now

theorem kept_abandon (view : ControllerPreparedPlanView) (status : Status) :
    Kept runtime (driver.abandon runtime view status).2.1 := by
  have aborted := @Kept.of_plain _ base
      ⟨0, .abortCurrentPlan view.plan.planSequence view.planDigest⟩ rfl
  unfold ControllerRuntime.execute at aborted
  dsimp only at aborted
  unfold abandon
  split
  case h_1 refused =>
    rw [refused] at aborted
    exact aborted
  case h_2 done =>
    rw [done] at aborted
    exact aborted

theorem kept_executePlan (thread : ThreadId) (now : ℤ) (view : ControllerPreparedPlanView)
    (answer : Result QwenBf16PackedBatchExecutionView) :
    Kept runtime (driver.executePlan runtime thread now view answer).2.1 := by
  have committed := @Kept.of_plain _ base
      ⟨0, .commitCurrentPlan view.plan.planSequence view.planDigest⟩ rfl
  unfold ControllerRuntime.execute at committed
  dsimp only at committed
  unfold executePlan
  split
  · exact kept_abandon base driver view _
  split
  · exact kept_abandon base driver view _
  split
  case h_1 refused =>
    rw [refused] at committed
    exact committed
  rename_i next done
  rw [done] at committed
  have marked := @Kept.of_plain next committed.base
      ⟨0, .markCurrentPlanInFlight view.plan.planSequence view.planDigest⟩ rfl
  unfold ControllerRuntime.execute at marked
  dsimp only at marked
  split
  case h_1 refused =>
    rw [refused] at marked
    exact committed.trans marked
  rename_i started
  rw [started] at marked
  split
  · exact committed.trans marked
  exact (committed.trans marked).trans (kept_finishExecution marked.base driver thread now view _)

/-- Executing plans leaves the requests alone. -/
theorem kept_executeNext (thread : ThreadId)
    (now : ℤ) (answer : Result QwenBf16PackedBatchExecutionView) :
    Kept runtime (driver.executeNext runtime thread now answer).2.1 := by
  have prepared := @Kept.of_plain _ base ⟨0, .prepareNextPlan now⟩ rfl
  unfold ControllerRuntime.execute at prepared
  dsimp only at prepared
  unfold executeNext
  split
  · exact .refl base
  · exact kept_publishPending base driver thread now
  split
  case h_1 refused =>
    rw [refused] at prepared
    exact prepared
  case h_2 idle =>
    rw [idle] at prepared
    exact prepared
  case h_3 view done =>
    rw [done] at prepared
    exact prepared.trans (kept_executePlan prepared.base driver thread now view answer)

/-- A drain finalizes its sequence or leaves the requests alone. -/
theorem drainSequence_cases (driver : ControllerPackedDriver) (thread : ThreadId) (generation : ℕ)
    (handlesOf : ℕ → List QwenKvBlockHandle) (pool : QwenKvSlotPool)
    (recycler : QwenBf16SynchronousKvRecycler) (clearAndWait : ℕ → Result Unit)
    (ran : driver.drainSequence runtime thread generation handlesOf pool recycler
        clearAndWait = drained) :
    pool.SameNumber drained.2.2.2.1 ∧
      ((∃ status, drained.2.2.2.2 = .error status ∧ Kept runtime drained.2.1) ∨
        drained.2.2.2.2 = .ok () ∧ runtime.Transition ⟨thread, .finalizeDraining generation⟩
          drained.2.1 (.status (.ok ()))) := by
  subst ran
  have finalized := base.transition ⟨thread, .finalizeDraining generation⟩
  unfold ControllerRuntime.execute at finalized
  dsimp only at finalized
  unfold drainSequence
  split
  · exact ⟨.refl pool, .inl ⟨_, rfl, .refl base⟩⟩
  split
  · exact ⟨.refl pool, .inl ⟨_, rfl, .refl base⟩⟩
  split
  · exact ⟨.refl pool, .inl ⟨_, rfl, .refl base⟩⟩
  rename_i binding _
  have recycled : pool.SameNumber (if binding.reclaimed = true then
        (recycler, pool, .ok ())
      else
        recycler.recycle clearAndWait pool (handlesOf binding.blockTable)
          binding.lastUseEvent).2.1 := by
    split
    · exact .refl pool
    · exact recycler.sameNumber_recycle clearAndWait pool _ _
  dsimp only
  split
  case h_1 refused =>
    rw [refused] at recycled
    exact ⟨recycled, .inl ⟨_, rfl, .refl base⟩⟩
  rename_i done
  rw [done] at recycled
  split
  case h_1 refused =>
    rw [refused] at finalized
    exact ⟨recycled, .inl ⟨_, rfl, base.preserved finalized, finalized.keeps rfl⟩⟩
  rename_i ended
  rw [ended] at finalized
  exact ⟨recycled, .inr ⟨rfl, finalized⟩⟩

end ControllerPackedDriver

/-! ## The engine -/

namespace QwenPackedEngine

open ControllerRuntime
open ControllerRuntime (heldGenerations Keeps Kept)
open QwenKvSlotPool (SameNumber)

/-- How the counters agree while the controller is ready. -/
structure Aligned (engine : QwenPackedEngine) : Prop where
  started : engine.coordinator.pool.ready = true
  room : engine.runtime.slots.length ≤ engine.coordinator.admissions.length
  distinct : engine.coordinator.generations.Nodup
  held : engine.coordinator.generations ⊆ heldGenerations engine.runtime.slots
  issued : ∀ generation ∈ engine.coordinator.generations,
    generation < engine.coordinator.pool.nextSequenceGeneration
  queued : engine.coordinator.pool.failed = false → ∃ waiting, engine.runtime.queuedAdmissions.map
          ControllerCommand.requestGeneration =
        range' engine.coordinator.pool.nextSequenceGeneration waiting ∧
      engine.nextPackedRequestGeneration =
        engine.coordinator.pool.nextSequenceGeneration + waiting

/-- The invariant of the engine. -/
structure InStep (engine : QwenPackedEngine) : Prop where
  base : engine.runtime.Base
  aligned : engine.runtime.state = .ready → engine.Aligned

theorem InStep.keep {engine next : QwenPackedEngine} (inStep : engine.InStep)
    (kept : Kept engine.runtime next.runtime)
    (admissions : next.coordinator.admissions = engine.coordinator.admissions)
    (pool : SameNumber engine.coordinator.pool next.coordinator.pool)
    (number : next.nextPackedRequestGeneration = engine.nextPackedRequestGeneration) :
    next.InStep := by
  refine ⟨kept.base, fun ready => ?_⟩
  have keeps := kept.keeps ready
  have aligned := inStep.aligned keeps.ready
  have generations : next.coordinator.generations = engine.coordinator.generations := by
    unfold generations
    rw [admissions]
  constructor
  · rw [pool.ready]
    exact aligned.started
  · rw [keeps.carries.length, admissions]
    exact aligned.room
  · rw [generations]
    exact aligned.distinct
  · rw [generations]
    exact List.Subset.trans aligned.held keeps.carries.heldGenerations
  · rw [generations, pool.number]
    exact aligned.issued
  · intro running
    rw [pool.number, keeps.admissions, number]
    exact aligned.queued (pool.failed running)

/-! ### Submissions -/

variable {engine : QwenPackedEngine}

variable {runtime : ControllerRuntime}

theorem InStep.submit {maximum : ℕ} (inStep : engine.InStep)
    (submitted : engine.runtime.submitAdmit engine.nextPackedRequestGeneration prompt
      maximum sampling = (runtime, .ok command)) :
    InStep { engine with
      runtime
      nextPackedRequestGeneration := engine.nextPackedRequestGeneration + 1 } := by
  have transition := inStep.base.transition
      ⟨0, .submitAdmit engine.nextPackedRequestGeneration prompt maximum sampling⟩
  unfold ControllerRuntime.execute at transition
  dsimp only at transition
  rw [submitted] at transition
  rcases transition.of_submitted rfl with ⟨ready, slots, queue, numbered⟩
  have aligned := inStep.aligned ready
  refine ⟨inStep.base.preserved transition, fun _ => ?_⟩
  constructor
  · exact aligned.started
  · rw [slots]
    exact aligned.room
  · exact aligned.distinct
  · rw [slots]
    exact aligned.held
  · exact aligned.issued
  · intro running
    rcases aligned.queued running with ⟨waiting, numbers, total⟩
    refine ⟨waiting + 1, ?_, by rw [total]; rfl⟩
    rw [queue, map_append, numbers, map_singleton, numbered, total, range'_concat, Nat.one_mul]

theorem InStep.submitPacked (inStep : engine.InStep) (prompt : List ℕ)
    (maximum : ℕ) (sampling : ControllerRequestSampling) :
    (engine.submitPacked prompt maximum sampling).1.InStep := by
  unfold QwenPackedEngine.submitPacked
  split
  · exact inStep
  split
  case h_1 runtime _ refused =>
    have transition := inStep.base.transition
        ⟨0, .submitAdmit engine.nextPackedRequestGeneration prompt maximum sampling⟩
    unfold ControllerRuntime.execute at transition
    dsimp only at transition
    rw [refused] at transition
    exact @InStep.keep engine _ inStep ⟨inStep.base.preserved transition, transition.keeps rfl⟩ rfl
      (.refl _) rfl
  case h_2 submitted => exact inStep.submit submitted

/-! ### Steps -/

/-- While the controller has a vacant slot, the coordinator has room. -/
theorem Aligned.vacancy (aligned : engine.Aligned)
    (vacant : ∃ slot ∈ engine.runtime.slots, slot.sequence = none) :
    none ∈ engine.coordinator.admissions := by
  have fewer : engine.coordinator.generations.length < engine.coordinator.admissions.length :=
    calc
      engine.coordinator.generations.length ≤ (heldGenerations engine.runtime.slots).length :=
        (subperm_of_subset aligned.distinct aligned.held).length_le
      _ < engine.runtime.slots.length := length_heldGenerations_lt vacant
      _ ≤ engine.coordinator.admissions.length := aligned.room
  unfold generations at fewer
  rw [length_filterMap_eq_countP] at fewer
  rcases exists_not_of_countP_lt fewer with ⟨place, member, empty⟩
  cases place with
  | none => exact member
  | some => cases empty

/-- The oldest admission has the number that the pool gives next. -/
theorem Aligned.oldest (aligned : engine.Aligned) (running : engine.coordinator.pool.failed = false)
    (queue : engine.runtime.queuedAdmissions = command :: rest) :
    command.requestGeneration = engine.coordinator.pool.nextSequenceGeneration ∧
      ∃ waiting, rest.map ControllerCommand.requestGeneration =
          range' (engine.coordinator.pool.nextSequenceGeneration + 1) waiting ∧
        engine.nextPackedRequestGeneration = engine.coordinator.pool.nextSequenceGeneration + 1 +
            waiting := by
  rcases aligned.queued running with ⟨waiting, numbers, total⟩
  rw [queue] at numbers
  cases waiting with
  | zero => cases numbers
  | succ waiting =>
    rcases cons.inj numbers with ⟨first, others⟩
    exact ⟨first, waiting, others, by rw [total]; omega⟩

theorem Aligned.rejected (aligned : engine.Aligned) {coordinator : QwenKvAdmissionCoordinator}
    (queue : engine.runtime.queuedAdmissions = command :: rest)
    (left : runtime.queuedAdmissions = rest) (slots : runtime.slots = engine.runtime.slots)
    (vacant : ∃ slot ∈ engine.runtime.slots, slot.sequence = none)
    (reserves : engine.coordinator.Reserves admission coordinator (.error status))
    (exhausted : status.code = .resourceExhausted) :
    Aligned { engine with runtime, coordinator } := by
  cases reserves with
  | refused other _ | mismatched _ _ other => exact (other exhausted).elim
  | full occupied => exact (occupied none (aligned.vacancy vacant) rfl).elim
  | exhausted =>
    constructor
    · exact aligned.started
    · rw [slots]
      exact aligned.room
    · exact aligned.distinct
    · rw [slots]
      exact aligned.held
    · exact aligned.issued
    · exact nofun
  | short running same =>
    rcases aligned.oldest running queue with ⟨-, waiting, others, total⟩
    constructor
    · exact same.ready.trans aligned.started
    · rw [slots]
      exact aligned.room
    · exact aligned.distinct
    · rw [slots]
      exact aligned.held
    · intro generation member
      rw [same.number]
      exact Nat.lt_succ_of_lt (aligned.issued generation member)
    · intro _
      rw [same.number, left]
      exact ⟨waiting, others, total⟩

theorem Aligned.admitted (aligned : engine.Aligned) {coordinator : QwenKvAdmissionCoordinator}
    (queue : engine.runtime.queuedAdmissions = command :: rest)
    (left : runtime.queuedAdmissions = rest)
    (reserves : engine.coordinator.Reserves admission asked (.ok ()))
    (told : asked.SameAdmissions coordinator) {sequence : ControllerSequence}
    (found : engine.runtime.slots[index]? = some old) (vacant : old.sequence = none)
    (slots : runtime.slots = engine.runtime.slots.set index new)
    (held : new.sequence = some sequence)
    (generation : sequence.sequenceGeneration = admission.request.requestGeneration) :
    Aligned { engine with runtime, coordinator } := by
  cases reserves with
  | @made _ _ transaction running same free numbered equal =>
    rcases aligned.oldest running queue with ⟨-, waiting, others, total⟩
    have listed : coordinator.generations.Perm (engine.coordinator.pool.nextSequenceGeneration ::
        engine.coordinator.generations) := by
      refine told.generations.trans ?_
      have changed := @perm_generations_setAdmission _ _ _ free (some transaction)
      rw [Option.map_some, numbered] at changed
      exact changed
    have number : coordinator.pool.nextSequenceGeneration =
        engine.coordinator.pool.nextSequenceGeneration + 1 :=
      told.pool.number.trans same.number
    constructor
    · exact told.pool.ready.trans (same.ready.trans aligned.started)
    · rw [slots, length_set, told.length]
      exact Nat.le_trans aligned.room (Nat.le_of_eq length_set.symm)
    · rw [listed.nodup_iff, nodup_cons]
      refine ⟨?_, aligned.distinct⟩
      intro member
      exact Nat.lt_irrefl _ (aligned.issued _ member)
    · intro member listedHere
      rw [slots]
      apply mem_heldGenerations.mpr
      have inside := (List.getElem_of_getElem? found).1
      rcases mem_cons.mp (listed.mem_iff.mp listedHere) with rfl | earlier
      · exact ⟨index, new, sequence, ⟨getElem?_set_self inside, held⟩,
          generation.trans (equal.symm.trans numbered)⟩
      rcases mem_heldGenerations.mp (aligned.held earlier) with ⟨other, slot, kept, holding, rfl⟩
      have different : index ≠ other := by
        rintro rfl
        cases found.symm.trans holding.1
        cases vacant.symm.trans holding.2
      exact ⟨other, slot, kept, ⟨(getElem?_set_ne different).trans holding.1, holding.2⟩, rfl⟩
    · intro member listedHere
      rw [number]
      rcases mem_cons.mp (listed.mem_iff.mp listedHere) with rfl | earlier
      · exact Nat.lt_succ_self _
      · exact Nat.lt_succ_of_lt (aligned.issued _ earlier)
    · intro _
      rw [number, left]
      exact ⟨waiting, others, total⟩

theorem InStep.step (inStep : engine.InStep) (thread : ThreadId) (now : ℤ) :
    (engine.step thread now).1.InStep := by
  have effect := stepImpl_effect inStep.base thread now participant engine.coordinator
  unfold QwenPackedEngine.step
  generalize engine.runtime.stepImpl thread now
    (some participant) engine.coordinator = stepped at effect
  rcases stepped with ⟨_, _, _⟩
  cases effect with
  | unasked _ kept => exact @InStep.keep engine _ inStep kept rfl (.refl _) rfl
  | @asked _ _ _ _ admission _ ready queue _ vacant base left settles =>
      refine ⟨base, fun still => ?_⟩
      have aligned := inStep.aligned ready
      have reserves := engine.coordinator.reserve_reserves admission
      cases settles still with
      | rejected reserved exhausted slots =>
        change engine.coordinator.reserve admission = _ at reserved
        rw [reserved] at reserves
        exact aligned.rejected queue (left still) slots vacant reserves exhausted
      | admitted reserved told found empty slots held generation =>
        change engine.coordinator.reserve admission = _ at reserved
        rw [reserved] at reserves
        exact aligned.admitted queue (left still) reserves (publish_same told) found empty
          slots held generation

/-! ### Plans and drains -/

theorem InStep.executeNext (inStep : engine.InStep) (thread : ThreadId)
    (now : ℤ) (answer : Result QwenBf16PackedBatchExecutionView) :
    (engine.executeNext thread now answer).1.InStep :=
  inStep.keep (ControllerPackedDriver.kept_executeNext inStep.base
      engine.coordinator.driver thread now answer) rfl (.refl _) rfl

variable {pool : QwenKvSlotPool}

theorem Aligned.finalized (aligned : engine.Aligned)
    (transition : engine.runtime.Transition ⟨thread, .finalizeDraining generation⟩
      runtime (.status (.ok ()))) {driver : ControllerPackedDriver}
    (same : SameNumber engine.coordinator.pool pool)
    (found : engine.coordinator.admissions[index]? = some (some transaction))
    (named : transaction.sequenceGeneration = generation)
    (recycler : QwenBf16SynchronousKvRecycler) :
    Aligned { engine with
      coordinator := { engine.coordinator with driver, pool }.setAdmission index none
      runtime
      recycler } := by
  rcases transition.of_finalized rfl with
    ⟨-, admissions, place, _, _, _, holding, ended, slots⟩
  have listed : (generation :: ({ engine.coordinator with
        driver
        pool }.setAdmission index none).generations).Perm
      engine.coordinator.generations := by
    have changed := @perm_generations_setAdmission
        { engine.coordinator with driver, pool } _ _
        found none
    rw [Option.map_some, named] at changed
    exact changed
  have distinct := listed.nodup_iff.mpr aligned.distinct
  rw [nodup_cons] at distinct
  constructor
  · exact same.ready.trans aligned.started
  · rw [slots, length_set]
    exact Nat.le_trans aligned.room (Nat.le_of_eq length_set.symm)
  · exact distinct.2
  · intro member remaining
    rw [slots]
    apply mem_heldGenerations.mpr
    rcases mem_heldGenerations.mp (aligned.held (listed.mem_iff.mp (.tail _ remaining))) with
      ⟨other, kept, live, held, rfl⟩
    have different : place ≠ other := by
      rintro rfl
      rcases holding.unique held with ⟨rfl, rfl⟩
      rw [ended] at remaining
      exact distinct.1 remaining
    exact ⟨other, kept, live, ⟨(getElem?_set_ne different).trans held.1, held.2⟩, rfl⟩
  · intro member remaining
    exact Nat.lt_of_lt_of_eq (aligned.issued _ (listed.mem_iff.mp (.tail _ remaining)))
      same.number.symm
  · intro running
    have agreed := aligned.queued (same.failed running)
    rw [← same.number, ← admissions] at agreed
    exact agreed

theorem InStep.drainPacked (inStep : engine.InStep) (thread : ThreadId)
    (generation : ℕ) (clearAndWait : ℕ → Result Unit) :
    (engine.drainPacked thread generation clearAndWait).1.InStep := by
  unfold QwenPackedEngine.drainPacked drain
  split
  · exact inStep
  rename_i located
  split
  case h_1 found =>
    split
    · exact inStep
    rcases ran : engine.coordinator.driver.drainSequence engine.runtime thread
          generation engine.coordinator.handlesAt
          engine.coordinator.pool engine.recycler clearAndWait with
      ⟨_, _, _, _, _⟩
    have cases := ControllerPackedDriver.drainSequence_cases inStep.base _ _ _ _ _ _ _ ran
    rcases cases with ⟨same, ⟨_, rfl, kept⟩ | ⟨rfl, transition⟩⟩
    · exact inStep.keep kept rfl same rfl
    refine ⟨inStep.base.preserved transition, fun _ => ?_⟩
    have ready := (transition.of_finalized rfl).1
    apply (inStep.aligned ready).finalized transition same found
    rcases findIdx?_eq_some_iff_getElem.mp located with ⟨inside, holds, -⟩
    rw [getElem?_eq_getElem inside, Option.some.injEq] at found
    rw [found] at holds
    exact of_decide_eq_true holds
  · exact inStep

/-! ### Runs -/

/-- The engine made of fresh parts. -/
def assemble (limits : ControllerRuntimeLimits) (pool : QwenKvSlotPool)
    (driver : ControllerPackedDriver) (sequences : ℕ)
    (event : QwenKvCompletionEvent) (recycler : QwenBf16SynchronousKvRecycler) :
    Result QwenPackedEngine :=
  match create limits, QwenKvAdmissionCoordinator.create pool driver sequences event with
  | .error status, _ => .error status
  | .ok _, .error status => .error status
  | .ok runtime, .ok coordinator => .ok { runtime, coordinator, recycler }

/-- The controller is stepped, drained and submitted to by the engine only. -/
def permitted : QwenPackedOperation → Bool
  | .controller call => direct call.operation
  | _ => true

/-- Runs of an engine whose coordinator has room for some sequences. -/
def PackedRun (limits : ControllerRuntimeLimits) (sequences : ℕ) (history :
      List (Entry QwenPackedEngine QwenPackedOperation QwenPackedOutcome))
    (engine : QwenPackedEngine) : Prop :=
  ∃ slotCount kvBytes metadataBytes empty pool driver event recycler start,
    QwenKvSlotPool.create slotCount kvBytes metadataBytes = .ok empty ∧
    empty.completeStartupSanitize kvBytes metadataBytes true = (pool, .ok ()) ∧
    assemble limits pool driver sequences event recycler = .ok start ∧
    Run execute (fun _ _ operation => permitted operation = true) start history engine

/-- A sanitized pool has given no numbers. -/
theorem numbers_of_sanitized (created :
      QwenKvSlotPool.create slotCount kvBytes metadataBytes = .ok empty)
    (sanitized : empty.completeStartupSanitize kvBytes metadataBytes true = (pool, .ok ())) :
    pool.ready = true ∧ pool.nextSequenceGeneration = 1 := by
  have first : empty.nextSequenceGeneration = 1 := by
    unfold QwenKvSlotPool.create at created
    split at created
    · cases created
    split at created
    · cases created
    · cases created
    split at created
    · cases created
    cases created
    rfl
  unfold completeStartupSanitize at sanitized
  split at sanitized
  · cases sanitized
  split at sanitized
  · cases sanitized
  cases sanitized
  exact ⟨rfl, first⟩

variable {limits : ControllerRuntimeLimits}

theorem inStep_of_assembled {driver : ControllerPackedDriver}
    {recycler : QwenBf16SynchronousKvRecycler}
    (enough : limits.maximumSequences ≤ sequences) (ready : pool.ready = true)
    (first : pool.nextSequenceGeneration = 1)
    (assembled : assemble limits pool driver sequences event recycler = .ok start) :
    start.InStep := by
  unfold assemble at assembled
  split at assembled
  · cases assembled
  · cases assembled
  rename_i created joined
  cases assembled
  unfold QwenKvAdmissionCoordinator.create at joined
  split at joined
  · cases joined
  cases joined
  have fresh := create_fresh created
  have nothing : (replicate sequences (none : Option QwenKvAdmissionTransaction)).filterMap
      (fun admission => admission.map sequenceGeneration) = [] := by
    rw [filterMap_replicate]
    rfl
  refine ⟨fresh.base, fun _ => ?_⟩
  constructor
  · exact ready
  · rw [fresh.slots, length_replicate, length_replicate]
    exact enough
  · unfold generations
    rw [nothing]
    exact nodup_nil
  · unfold generations
    rw [nothing]
    exact nil_subset _
  · unfold generations
    rw [nothing]
    exact fun _ member => (not_mem_nil member).elim
  · intro _
    refine ⟨0, ?_, first.symm⟩
    unfold queuedAdmissions
    rw [fresh.commands]
    rfl

theorem plain_of_direct (named : direct operation = true) : plain operation = true := by
  cases operation with
  | submitCancel | acknowledgeOutputPlan | tryTakeEvent => rfl
  | _ => cases named

theorem InStep.preserved (inStep : engine.InStep) (allowed : permitted operation = true) :
    (engine.execute operation).1.InStep := by
  cases operation with
  | submitPacked prompt maximum sampling => exact inStep.submitPacked prompt maximum sampling
  | step thread now => exact inStep.step thread now
  | executeNext thread now answer => exact inStep.executeNext thread now answer
  | drainPacked thread generation clearAndWait =>
    exact inStep.drainPacked thread generation clearAndWait
  | takeReceipt => exact inStep.keep (.refl inStep.base) rfl (.refl _) rfl
  | controller =>
    exact inStep.keep (.of_plain inStep.base (plain_of_direct allowed)) rfl (.refl _) rfl

theorem PackedRun.inStep
    (run : PackedRun limits sequences history engine)
    (enough : limits.maximumSequences ≤ sequences) : engine.InStep := by
  rcases run with
    ⟨_, _, _, _, _, _, _, _, _, created, sanitized, assembled, run⟩
  rcases numbers_of_sanitized created sanitized with ⟨ready, first⟩
  refine run.invariant (fun _ engine => engine.InStep)
    (inStep_of_assembled enough ready first assembled) ?_
  intro _ engine operation _ inStep allowed
  exact inStep.preserved allowed

/--
Whenever a step hands an admission to the coordinator, the pool would give it
the number of its request, as long as the pool works and has numbers left,
and the coordinator does not report that the numbers have drifted.
-/
theorem kv_generations_in_step {sequences : ℕ}
    {history : List (Entry QwenPackedEngine QwenPackedOperation QwenPackedOutcome)}
    {engine : QwenPackedEngine} (run : PackedRun limits sequences history engine)
    (enough : limits.maximumSequences ≤ sequences)
    {thread : ThreadId} {now : ℤ} {admission : ControllerAdmissionView}
    (asked : engine.runtime.admissionAsked thread now = some admission) :
    (engine.coordinator.pool.acquireSequenceGeneration.2 = .ok admission.request.requestGeneration ∨
      engine.coordinator.pool.failed = true ∨
      engine.coordinator.pool.nextSequenceGeneration = u32Max) ∧
    (∀ generation, engine.coordinator.pool.acquireSequenceGeneration.2 =
        .ok generation → generation = admission.request.requestGeneration) ∧
    (engine.coordinator.reserve admission).2 ≠ .error drifted := by
  have inStep := run.inStep enough
  have effect := stepImpl_effect inStep.base thread now participant engine.coordinator
  generalize engine.runtime.stepImpl thread now
    (some participant) engine.coordinator = stepped at effect
  rcases stepped with ⟨_, _, _⟩
  cases effect with
  | unasked nothing => cases nothing.symm.trans asked
  | asked handed ready queue same =>
    cases handed.symm.trans asked
    have aligned := inStep.aligned ready
    have agree (running : engine.coordinator.pool.failed = false) :
        engine.coordinator.pool.nextSequenceGeneration = admission.request.requestGeneration :=
      (same.trans (aligned.oldest running queue).1).symm
    refine ⟨?_, ?_, ?_⟩
    · rcases engine.coordinator.pool.acquireSequenceGeneration_cases with
        ⟨refused, -⟩ | ⟨last, -⟩ | ⟨running, acquired⟩
      · simp only [refuses, aligned.started] at refused
        exact .inr (.inl (by simpa using refused))
      · exact .inr (.inr last)
      · rw [acquired, agree running]
        exact .inl rfl
    · intro generation given
      rcases engine.coordinator.pool.acquireSequenceGeneration_cases with
        ⟨-, acquired⟩ | ⟨-, acquired⟩ | ⟨running, acquired⟩
      · rw [acquired] at given
        cases given
      · rw [acquired] at given
        cases given
      rw [acquired] at given
      cases given
      exact agree running
    · intro reported
      have reserves := engine.coordinator.reserve_reserves admission
      rw [reported] at reserves
      generalize (engine.coordinator.reserve admission).1 = reached at reserves
      cases reserves with
      | refused _ unrelated | full _ unrelated | exhausted _ unrelated
      | short _ _ unrelated => exact unrelated rfl
      | mismatched running different => exact different (agree running)

/-- An engine with one cache slot and two sequences. -/
def oneSlotEngine (pool : QwenKvSlotPool) : Result QwenPackedEngine := assemble smallLimits pool
    { maximumSequences := 2, receiptCapacity := 2 } 2 ⟨5, 1⟩
    ⟨1, 1835008, 1, 1, 1, 1⟩

/-- The second request finds no clean slot; its number is used up. -/
def rejectionScript : List (QwenPackedEngine → QwenPackedOperation) :=
  [fun _ => .submitPacked [1] 2 {}, fun _ => .step 1 0, fun _ => .submitPacked [2] 2 {},
    fun _ => .step 1 0, fun _ => .submitPacked [3] 2 {}]

theorem kv_generations_in_step_after_rejection : ∃ history engine admission,
      PackedRun smallLimits 2 history engine ∧
      engine.runtime.admissionAsked 1 0 = some admission ∧
      engine.coordinator.pool.acquireSequenceGeneration.2 = .ok 3 ∧
      admission.request.requestGeneration = 3 := by
  let empty : QwenKvSlotPool :=
    { slots := [⟨0, kNoOwner, 0, .uninitialized, 0, 0⟩]
      pendingEvents := [⟨0, 0⟩]
      kvBackingBytes := 1835008
      metadataBackingBytes := 16 }
  let pool := (empty.completeStartupSanitize 1835008 16 true).1
  have created : QwenKvSlotPool.create 1 1835008 16 = .ok empty := by decide
  have sanitized : empty.completeStartupSanitize 1835008 16 true = (pool, .ok ()) := by decide
  have reaches : (match oneSlotEngine pool with
      | .error _ => false
      | .ok start =>
        let engine := (runScript execute [] start rejectionScript).2
        (engine.runtime.admissionAsked 1 0).isSome ∧
          engine.coordinator.pool.acquireSequenceGeneration.2 = .ok 3) = true := by
    decide +kernel
  cases assembled : oneSlotEngine pool with
  | error =>
    rw [assembled] at reaches
    cases reaches
  | ok start =>
    rw [assembled] at reaches
    rcases of_decide_eq_true reaches with ⟨asked, acquired⟩
    rcases Option.isSome_iff_exists.mp asked with ⟨admission, handed⟩
    have run : PackedRun smallLimits 2 (runScript execute [] start rejectionScript).1
        (runScript execute [] start rejectionScript).2 :=
      ⟨1, 1835008, 16, empty, pool, _, _, _, start, created, sanitized,
        assembled, Run.start.runScript rejectionScript
          (by simp [rejectionScript, ScriptAllowed, permitted])⟩
    have inStep := kv_generations_in_step run (by decide) handed
    exact ⟨_, _, admission, run, handed, acquired, (inStep.2.1 3 acquired).symm⟩

end QwenPackedEngine

end Pih
