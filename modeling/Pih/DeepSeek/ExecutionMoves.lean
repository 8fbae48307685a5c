import Pih.DeepSeek.RegistryMoves
import Mathlib.Tactic.SplitIfs

/-!
# What an execution changes

The execution checks every request before it changes one, so a change that
was validated goes through for the whole plan.  Reserving and restoring the
stages are inverse to each other.
-/

namespace Pih

open DeepSeekPipelineStagePool DeepSeekRequestLifecycle

namespace DeepSeekRequestLifecycle

/-! ## One request -/

def preparedFor (plan : ℕ) (request : DeepSeekRequestLifecycle) : DeepSeekRequestLifecycle :=
  { request with planSequence := plan, state := .prepared }

variable (request : DeepSeekRequestLifecycle)

def committed : DeepSeekRequestLifecycle := { request with state := .committed }

/-- The request after its plan is rolled back. -/
def takenBack (plan : ℕ) (request : DeepSeekRequestLifecycle) : DeepSeekRequestLifecycle :=
  if request.state = .prepared ∧ plan = request.planSequence then
    { request with planSequence := 0, state := .admitted }
  else request

/-- The request after its plan has completed. -/
def drained (terminal : Bool) (request : DeepSeekRequestLifecycle) : DeepSeekRequestLifecycle :=
  if request.state = .draining then
    { request with
      backendDrained := true
      planSequence := 0
      state := if request.failurePending then .failed else .cancelled }
  else if ¬ terminal then
    { request with backendDrained := false, planSequence := 0, state := .admitted }
  else
    { request with
      backendDrained := true
      planSequence := 0
      state := .completed
      userTerminal := true }

theorem validatePrepare_ok_iff (plan : ℕ) :
    request.validatePrepare plan = .ok () ↔ request.state = .admitted ∧ plan ≠ 0 := by
  simp [validatePrepare]

theorem validateCommit_ok_iff (plan : ℕ) : request.validateCommit plan = .ok () ↔
      request.state = .prepared ∧ plan = request.planSequence := by
  simp [validateCommit]

theorem validateAbortPrepare_ok_iff (plan : ℕ) : request.validateAbortPrepare plan = .ok () ↔
      request.state = .prepared ∧ plan = request.planSequence := by
  simp [validateAbortPrepare]

theorem validateBackendComplete_ok_iff (plan : ℕ) : request.validateBackendComplete plan = .ok () ↔
      (request.state = .committed ∨ request.state = .draining) ∧
        plan ≠ 0 ∧ plan = request.planSequence := by
  simp [validateBackendComplete, or_iff_not_imp_left]

variable {request : DeepSeekRequestLifecycle}

theorem prepare_of_valid (valid : request.validatePrepare plan = .ok ()) :
    request.prepare plan = .ok (request.preparedFor plan) := by
  simp only [prepare, valid, preparedFor]

theorem commit_of_valid (valid : request.validateCommit plan = .ok ()) :
    request.commit plan = .ok request.committed := by
  simp only [commit, valid, committed]

theorem backendComplete_of_valid (terminal : Bool)
    (valid : request.validateBackendComplete plan = .ok ()) :
    request.backendComplete plan terminal = .ok (request.drained terminal) := by
  simp only [backendComplete, valid, drained]
  split
  · rfl
  split
  · rfl
  · rfl

theorem cancel_generation (changed : request.cancel generation = .ok cancelled) :
    cancelled.requestGeneration = request.requestGeneration := by
  unfold cancel at changed
  split at changed
  · cases changed
  split at changed
  · cases changed
    rfl
  split at changed
  · cases changed
    rfl
  cases changed
  rfl

end DeepSeekRequestLifecycle

/-! ## Resources -/

namespace DeepSeekPipelineStagePool

theorem restore_of_reserve {reserved : DeepSeekPipelineStagePool}
    (taken : stage.reserve = .ok reserved) : reserved.restore = stage := by
  unfold reserve at taken
  split at taken
  · cases taken
  split at taken
  · cases taken
  cases taken
  rcases stage with ⟨incoming, outgoing, _, _, _, _, _⟩
  cases incoming <;> cases outgoing <;> simp_all [restore] <;> omega

theorem reserveAll_cases (stages : List DeepSeekPipelineStagePool) :
    (∃ status, reserveAll stages = (stages, .error status)) ∨
      ∃ reserved, reserveAll stages = (reserved, .ok ()) ∧ reserved.map restore = stages := by
  induction stages with
  | nil => exact .inr ⟨[], rfl, rfl⟩
  | cons stage _ hypothesis =>
    cases taken : stage.reserve with
    | error status => exact .inl ⟨status, by simp only [reserveAll, taken]⟩
    | ok reserved =>
      have undone := restore_of_reserve taken
      rcases hypothesis with ⟨status, refused⟩ | ⟨others, loop, restored⟩
      · refine .inl ⟨status, ?_⟩
        simp only [reserveAll, taken, refused, undone]
      refine .inr ⟨reserved :: others, ?_, ?_⟩
      · simp only [reserveAll, taken, loop]
      · rw [List.map_cons, undone, restored]

end DeepSeekPipelineStagePool

namespace DeepSeekPipelineResourceSet

/-- The resources while a plan of the given sequence is live. -/
structure Reserved (before after : DeepSeekPipelineResourceSet) (plan : ℕ) : Prop where
  idle : before.transactionLive = false
  live : after.transactionLive = true
  restored : after.stages.map restore = before.stages
  capacity : after.capacity = before.capacity
  lastPlanSequence : after.lastPlanSequence = plan
  sequence : plan = nextU64 before.lastPlanSequence
  nonzero : plan ≠ 0

theorem prepare_cases (resources : DeepSeekPipelineResourceSet)
    (descriptor : DeepSeekPipelinePlanDescriptor) :
    (∃ status, resources.prepare descriptor = (resources, .error status)) ∨
      ∃ after, resources.prepare descriptor = (after, .ok { descriptor }) ∧
        Reserved resources after descriptor.planSequence := by
  unfold prepare
  split
  · exact .inl ⟨_, rfl⟩
  rename_i idle
  split
  · exact .inl ⟨_, rfl⟩
  rename_i bounds
  split
  · exact .inl ⟨_, rfl⟩
  split
  · exact .inl ⟨_, rfl⟩
  split
  · exact .inl ⟨_, rfl⟩
  rename_i strict
  rcases reserveAll_cases resources.stages with ⟨status, refused⟩ | ⟨_, loop, restored⟩
  · exact .inl ⟨status, by simp only [refused]⟩
  right
  simp only [loop]
  refine ⟨_, rfl, ?_⟩
  exact
    { idle := Bool.eq_false_iff.mpr idle
      live := rfl
      restored
      capacity := rfl
      lastPlanSequence := rfl
      sequence := not_not.mp strict
      nonzero := fun zero => bounds (.inr (.inl zero)) }

/-- The same resources, up to the number of the last plan. -/
structure Untouched (before after : DeepSeekPipelineResourceSet) : Prop where
  stages : after.stages = before.stages
  live : after.transactionLive = before.transactionLive
  capacity : after.capacity = before.capacity

theorem Untouched.refl (resources : DeepSeekPipelineResourceSet) : Untouched resources resources :=
  ⟨rfl, rfl, rfl⟩

theorem restoreAll_of_live {resources : DeepSeekPipelineResourceSet}
    (live : resources.transactionLive = true) :
    resources.restoreAll =
      { resources with stages := resources.stages.map restore, transactionLive := false } :=
  if_neg (not_not.mpr live)

theorem Reserved.restoreAll (reserved : Reserved before after plan) :
    Untouched before after.restoreAll := by
  rw [restoreAll_of_live reserved.live]
  exact ⟨reserved.restored, reserved.idle.symm, reserved.capacity⟩

end DeepSeekPipelineResourceSet

/-! ## Executions -/

namespace DeepSeekPipelineExecution

open DeepSeekRequestRegistry (find_ok_iff validate_ok_iff)

/-- An execution as the control plane keeps it between two calls. -/
structure Stored (execution : DeepSeekPipelineExecution) : Prop where
  distinct : (execution.requestIdentities.map DeepSeekRequestIdentity.requestId).Nodup
  phase : (execution.coordinator.isPreparing = true ∧
      execution.coordinator.transaction.state = .prepared) ∨
    (execution.state = .committed ∧ execution.coordinator.transaction.state = .committed) ∨
    execution.state = .poisoned

theorem containsRequest_of_mem (execution : DeepSeekPipelineExecution)
    (inside : identity ∈ execution.requestIdentities) :
    execution.containsRequest identity.requestId identity.requestGeneration = true :=
  List.any_eq_true.mpr ⟨identity, inside, decide_eq_true ⟨rfl, rfl⟩⟩

section

variable {execution : DeepSeekPipelineExecution}
  (preparing : execution.coordinator.isPreparing = true)

include preparing

theorem state_of_preparing : execution.state = .preparing ∨ execution.state = .readyToCommit :=
  of_decide_eq_true preparing

/-- A state other than the two of a preparation. -/
theorem state_ne_of_preparing {state : DeepSeekPipelineCoordinatorState}
    (other : state ≠ .preparing ∧ state ≠ .readyToCommit) : execution.state ≠ state := by
  rcases state_of_preparing preparing with same | same
  · rw [same]
    exact other.1.symm
  rw [same]
  exact other.2.symm

end

section

variable {execution : DeepSeekPipelineExecution} (stored : execution.Stored)

include stored

theorem Stored.not_aborted : execution.state ≠ .aborted := by
  rcases stored.phase with ⟨preparing, -⟩ | ⟨committed, -⟩ | poisoned
  · exact state_ne_of_preparing preparing (by decide)
  · simp [committed]
  · simp [poisoned]

theorem Stored.transaction_prepared (preparing : execution.coordinator.isPreparing = true) :
    execution.coordinator.transaction.state = .prepared := by
  rcases stored.phase with ⟨-, prepared⟩ | ⟨committed, -⟩ | poisoned
  · exact prepared
  · exact absurd committed (state_ne_of_preparing preparing (by decide))
  exact absurd poisoned (state_ne_of_preparing preparing (by decide))

theorem Stored.state_committed (live : execution.coordinator.isCommitted = true) :
    execution.state = .committed := by
  have either : execution.state = .committed ∨ execution.state = .draining := of_decide_eq_true live
  rcases stored.phase with ⟨preparing, -⟩ | ⟨committed, -⟩ | poisoned
  · exact either.resolve_right (state_ne_of_preparing preparing (by decide))
  · exact committed
  · simp [poisoned] at either

end

/-! ## Checks of the members -/

/-- Every member is registered and passes a check. -/
def MembersPass (execution : DeepSeekPipelineExecution) (requests : DeepSeekRequestRegistry)
    (check : DeepSeekRequestLifecycle → Result Unit) : Prop :=
  ∀ identity ∈ execution.requestIdentities, ∃ request,
    requests.find identity.requestId identity.requestGeneration = .ok request ∧
      check request = .ok ()

variable {execution : DeepSeekPipelineExecution}

theorem MembersPass.changeable (members : execution.MembersPass requests check)
    (one : ∀ identity request, check request = .ok () →
      update identity request = .ok (rewrite identity request)) :
    Changeable update rewrite requests execution.requestIdentities := by
  intro identity member
  rcases members identity member with ⟨request, found, passed⟩
  exact ⟨request, found, one identity request passed⟩

section Checks

variable (shared : DeepSeekPipelineShared) (execution : DeepSeekPipelineExecution) (rank : ℕ)

theorem validateStageReject_iff : execution.validateStageReject shared rank = .ok () ↔
      execution.coordinator.validateStageReject rank = .ok () ∧
        execution.MembersPass shared.requests (fun request =>
          request.validateAbortPrepare execution.planSequence) := by
  unfold validateStageReject
  cases execution.coordinator.validateStageReject rank with
  | error => simp
  | ok =>
    simp [validateAll_ok_iff, MembersPass, DeepSeekRequestRegistry.validateAbortPrepare,
      validate_ok_iff]

theorem validateCommit_iff : execution.validateCommit shared = .ok () ↔
      execution.coordinator.validateCommit = .ok () ∧
        execution.MembersPass shared.requests (fun request =>
          request.validateCommit execution.planSequence) := by
  unfold validateCommit
  cases execution.coordinator.validateCommit with
  | error => simp
  | ok =>
    simp [validateAll_ok_iff, MembersPass, DeepSeekRequestRegistry.validateCommit, validate_ok_iff]

theorem validateStageComplete_iff : execution.validateStageComplete shared rank = .ok () ↔
      execution.coordinator.validateStageComplete rank = .ok () ∧
        execution.MembersPass shared.requests (fun request =>
          request.validateBackendComplete execution.planSequence) := by
  unfold validateStageComplete
  cases execution.coordinator.validateStageComplete rank with
  | error => simp
  | ok =>
    simp [validateAll_ok_iff, MembersPass, DeepSeekRequestRegistry.validateBackendComplete,
      validate_ok_iff]

end Checks

/-- What a successful creation found and did. -/
structure Created (before after : DeepSeekPipelineShared)
    (descriptor : DeepSeekPipelinePlanDescriptor)
    (identities : List DeepSeekRequestIdentity)
    (execution : DeepSeekPipelineExecution) : Prop where
  reserved : DeepSeekPipelineResourceSet.Reserved before.resources after.resources
      descriptor.planSequence
  distinct : (identities.map DeepSeekRequestIdentity.requestId).Nodup
  admitted : ∀ identity ∈ identities, ∃ request, before.requests.find identity.requestId
          identity.requestGeneration = .ok request ∧
        request.state = .admitted
  rewritten : Rewritten before.requests after.requests identities
      fun _ request => request.preparedFor descriptor.planSequence
  requestIdentities : execution.requestIdentities = identities
  transaction : execution.coordinator.transaction = { descriptor }
  worldSize : execution.coordinator.worldSize = after.resources.capacity.worldSize
  worldBound : execution.coordinator.worldSize ≠ 0
  state : execution.state = .preparing

theorem create_cases (shared : DeepSeekPipelineShared) (descriptor : DeepSeekPipelinePlanDescriptor)
    (identities : List DeepSeekRequestIdentity) :
    (∃ resources status, create shared descriptor identities =
          (⟨shared.requests, resources⟩, .error status) ∧
        DeepSeekPipelineResourceSet.Untouched shared.resources resources) ∨
      ∃ after execution, create shared descriptor identities = (after, .ok execution) ∧
          Created shared after descriptor identities execution := by
  unfold create
  split
  · exact .inl ⟨_, _, rfl, .refl _⟩
  split
  · exact .inl ⟨_, _, rfl, .refl _⟩
  rename_i checked
  split
  · exact .inl ⟨_, _, rfl, .refl _⟩
  rename_i validated
  have distinct := (checkIdentities_ok checked).1
  rw [validateAll_ok_iff] at validated
  rcases shared.resources.prepare_cases descriptor with
    ⟨_, refused⟩ | ⟨resources, prepared, reserved⟩
  · simp only [refused]
    exact .inl ⟨_, _, rfl, .refl _⟩
  simp only [prepared]
  split
  · refine .inl ⟨_, _, rfl, ?_⟩
    exact reserved.restoreAll
  rename_i built
  have changeable : Changeable (fun _ request => request.prepare descriptor.planSequence)
      (fun _ request => request.preparedFor descriptor.planSequence)
      shared.requests identities := by
    intro identity member
    rcases (validate_ok_iff _ _ _ _).mp (validated identity member) with ⟨request, found, valid⟩
    exact ⟨request, found, prepare_of_valid valid⟩
  rcases prepareRequests_rewritten [] distinct changeable with ⟨_, loop, rewritten⟩
  right
  simp only [loop]
  refine ⟨_, _, rfl, ?_⟩
  rcases Result.else_eq_ok.mp built with ⟨bounds, built⟩
  cases built
  exact
    { reserved
      distinct
      admitted := by
        intro identity member
        rcases (validate_ok_iff _ _ _ _).mp (validated identity member) with ⟨request, found, valid⟩
        exact ⟨request, found, ((request.validatePrepare_ok_iff _).mp valid).1⟩
      rewritten
      requestIdentities := rfl
      transaction := rfl
      worldSize := rfl
      worldBound := by
        intro zero
        apply bounds
        change resources.capacity.worldSize = 0 at zero
        omega
      state := rfl }

theorem Created.stored
    (created : Created before after descriptor identities execution) :
    execution.Stored where
  distinct := by
    rw [created.requestIdentities]
    exact created.distinct
  phase := by
    left
    constructor
    · have preparing : execution.coordinator.state = .preparing := created.state
      simp [DeepSeekPipelineCoordinator.isPreparing, preparing]
    · rw [created.transaction]

/-! ## Rejecting a plan -/

/-- The execution after its transaction is aborted. -/
def aborted (execution : DeepSeekPipelineExecution) : DeepSeekPipelineExecution :=
  { execution with
    coordinator :=
      { execution.coordinator with
        transaction := { execution.coordinator.transaction with state := .aborted }
        state := .aborted } }

/-- A check that a rejection of the coordinator passes. -/
theorem coordinator_validateStageReject_ok_iff
    (coordinator : DeepSeekPipelineCoordinator) (rank : ℕ) :
    coordinator.validateStageReject rank = .ok () ↔
      rank < coordinator.worldSize ∧ coordinator.isPreparing = true ∧
        coordinator.transaction.state = .prepared := by
  unfold DeepSeekPipelineCoordinator.validateStageReject DeepSeekPipelineCoordinator.validateRank
    DeepSeekPipelineTransaction.validateAbortPrepare
  grind

theorem coordinator_stageReject_of_valid {coordinator : DeepSeekPipelineCoordinator}
    (resources : DeepSeekPipelineResourceSet) (reason : Result Unit)
    (valid : coordinator.validateStageReject rank = .ok ()) :
    ∃ status, coordinator.stageReject resources rank reason = (resources.restoreAll,
      { coordinator with
        transaction := { coordinator.transaction with state := .aborted }
        state := .aborted }, .error status) := by
  have prepared := ((coordinator_validateStageReject_ok_iff coordinator rank).mp valid).2.2
  have allowed : coordinator.transaction.validateAbortPrepare = .ok () := by
    exact if_neg (not_not.mpr prepared)
  simp only [DeepSeekPipelineCoordinator.stageReject, valid,
    DeepSeekPipelineTransaction.abortPrepare, allowed]
  cases reason with
  | error status => exact ⟨status, rfl⟩
  | ok => exact ⟨_, rfl⟩

/-- Every request of the execution is prepared for its plan. -/
def MembersPrepared (execution : DeepSeekPipelineExecution)
    (requests : DeepSeekRequestRegistry) : Prop :=
  ∀ identity ∈ execution.requestIdentities, ∃ request,
    requests.find identity.requestId identity.requestGeneration = .ok request ∧
      request.state = .prepared ∧
      execution.planSequence = request.planSequence

theorem validateStageReject_ok_iff (shared : DeepSeekPipelineShared)
    (execution : DeepSeekPipelineExecution) (rank : ℕ) :
    execution.validateStageReject shared rank = .ok () ↔ (rank < execution.coordinator.worldSize ∧
        execution.coordinator.isPreparing = true ∧
        execution.coordinator.transaction.state = .prepared) ∧
      execution.MembersPrepared shared.requests := by
  rw [validateStageReject_iff, coordinator_validateStageReject_ok_iff]
  simp only [MembersPass, MembersPrepared, validateAbortPrepare_ok_iff]

/-- The requests of the plan are taken back. -/
abbrev RolledBack (execution : DeepSeekPipelineExecution)
    (before after : DeepSeekRequestRegistry) : Prop :=
  Rewritten before after execution.requestIdentities
    fun _ request => request.takenBack execution.planSequence

theorem rollbackPreparedRequests_rewritten
    (distinct : (execution.requestIdentities.map DeepSeekRequestIdentity.requestId).Nodup)
    (present : ∀ identity ∈ execution.requestIdentities, ∃ request,
      requests.find identity.requestId identity.requestGeneration = .ok request) :
    execution.RolledBack requests (execution.rollbackPreparedRequests requests) := by
  apply foldl_rewritten distinct present
  intro registry identity request found
  have here := (find_ok_iff.mp found).1
  have lookup : registry.state identity.requestId identity.requestGeneration =
      .ok request.state := by
    simp only [DeepSeekRequestRegistry.state, found]
  rw [lookup]
  by_cases taken : request.state = .prepared ∧ execution.planSequence = request.planSequence
  · simp [DeepSeekRequestRegistry.abortPrepare, DeepSeekRequestRegistry.change, found,
      abortPrepare, validateAbortPrepare,
      takenBack, taken]
  -- nothing happens to a request that is not in the plan
  have unchanged : registry.set identity.requestId
      (some (request.takenBack execution.planSequence)) =
      registry := by
    rw [takenBack, if_neg taken, ← here, DeepSeekRequestRegistry.set, Function.update_eq_self]
  rw [unchanged]
  split
  case h_1 =>
    simp_all [DeepSeekRequestRegistry.abortPrepare, DeepSeekRequestRegistry.change,
      abortPrepare, validateAbortPrepare]
  · rfl

theorem stageReject_of_valid (reason : Result Unit) (stored : execution.Stored)
    (valid : execution.validateStageReject shared rank = .ok ()) :
    ∃ requests status, execution.stageReject shared rank reason =
        (⟨requests, shared.resources.restoreAll⟩, execution.aborted, .error status) ∧
      execution.RolledBack shared.requests requests := by
  have parts := (validateStageReject_ok_iff shared execution rank).mp valid
  have allowed := (coordinator_validateStageReject_ok_iff execution.coordinator rank).mpr parts.1
  rcases coordinator_stageReject_of_valid shared.resources reason allowed with ⟨status, rejected⟩
  refine ⟨execution.rollbackPreparedRequests shared.requests, status, ?_, ?_⟩
  · simp only [stageReject, valid, rejected]
    rfl
  · apply rollbackPreparedRequests_rewritten stored.distinct
    intro identity member
    rcases parts.2 identity member with ⟨request, found, -⟩
    exact ⟨request, found⟩

/-! ## Cancelling a request of a plan -/

/-- The requests after one of a prepared plan is cancelled. -/
theorem cancelRequest_of_valid {id : ℕ} (stored : execution.Stored)
    (valid : execution.validateCancelRequest shared id generation = .ok ()) :
    ∃ request cancelled, shared.requests.find id generation = .ok request ∧
      request.cancel generation = .ok cancelled ∧
      ((execution.coordinator.isPreparing = false ∧ execution.cancelRequest shared id generation =
          ({ shared with requests := shared.requests.set id (some cancelled) },
            execution, .ok ())) ∨
        (execution.validateStageReject shared 0 = .ok () ∧ ∃ requests,
          execution.cancelRequest shared id generation =
              (⟨requests, shared.resources.restoreAll⟩, execution.aborted, .ok ()) ∧
            execution.RolledBack (shared.requests.set id (some cancelled)) requests)) := by
  have whole := valid
  unfold validateCancelRequest at valid
  cases checked : shared.requests.validateCancel id generation with
  | error =>
    rw [checked] at valid
    cases valid
  | ok =>
    rw [checked] at valid
    rcases (validate_ok_iff _ _ _ _).mp checked with ⟨request, found, allowed⟩
    have updated : ∃ cancelled, request.cancel generation = .ok cancelled := by
      simp only [cancel, allowed]
      split
      · exact ⟨_, rfl⟩
      split
      · exact ⟨_, rfl⟩
      · exact ⟨_, rfl⟩
    rcases updated with ⟨cancelled, updated⟩
    have changed : shared.requests.cancel id generation =
        (shared.requests.set id (some cancelled), .ok ()) :=
      DeepSeekRequestRegistry.change_of_find found updated
    refine ⟨request, cancelled, found, updated, ?_⟩
    cases preparing : execution.coordinator.isPreparing with
    | false =>
      left
      refine ⟨rfl, ?_⟩
      simp only [cancelRequest, whole, changed, preparing]
      rfl
    | true =>
      rw [preparing] at valid
      have parts := (validateStageReject_ok_iff shared execution 0).mp valid
      rcases coordinator_stageReject_of_valid shared.resources
          (.error (.unavailable "DeepSeek request cancelled before COMMIT"))
          ((coordinator_validateStageReject_ok_iff execution.coordinator 0).mpr parts.1) with
        ⟨_, rejected⟩
      right
      refine ⟨valid, execution.rollbackPreparedRequests
        (shared.requests.set id (some cancelled)), ?_, ?_⟩
      · simp only [cancelRequest, whole, changed, preparing, rejected]
        rfl
      · apply rollbackPreparedRequests_rewritten stored.distinct
        intro identity member
        rcases parts.2 identity member with ⟨present, here, -⟩
        by_cases same : identity.requestId = id
        · refine ⟨cancelled, ?_⟩
          rw [find_ok_iff]
          have first := find_ok_iff.mp here
          have second := find_ok_iff.mp found
          rw [same] at first
          cases Option.some.inj (first.1.symm.trans second.1)
          constructor
          · rw [same]
            exact DeepSeekRequestRegistry.set_requests_self _ _ _
          · rw [← first.2]
            exact cancel_generation updated
        refine ⟨present, ?_⟩
        rw [DeepSeekRequestRegistry.find_set_of_ne _ _ _ same]
        exact here

/-! ## Committing and completing a plan -/

section

variable (execution : DeepSeekPipelineExecution)

/-- The execution after its transaction is committed. -/
def committed : DeepSeekPipelineExecution :=
  { execution with
    coordinator :=
      { execution.coordinator with
        transaction := { execution.coordinator.transaction with state := .committed }
        state := .committed } }

/-- The execution after one more rank has completed. -/
def counted (rank : ℕ) : DeepSeekPipelineExecution :=
  { execution with
    coordinator :=
      { execution.coordinator with
        complete := execution.coordinator.complete.set rank true
        completeCount := execution.coordinator.completeCount + 1 } }

/-- The execution after its last rank has completed. -/
def finished (rank : ℕ) : DeepSeekPipelineExecution :=
  { execution with
    coordinator :=
      { (execution.counted rank).coordinator with
        transaction := { execution.coordinator.transaction with state := .completed }
        state := .complete } }

def poisoned : DeepSeekPipelineExecution :=
  { execution with coordinator := { execution.coordinator with state := .poisoned } }

/-- Every request of the execution is live in its committed plan. -/
def MembersLive (requests : DeepSeekRequestRegistry) : Prop :=
  ∀ identity ∈ execution.requestIdentities, ∃ request,
    requests.find identity.requestId identity.requestGeneration = .ok request ∧
      (request.state = .committed ∨ request.state = .draining) ∧
      execution.planSequence = request.planSequence

end

theorem commit_of_valid (stored : execution.Stored)
    (valid : execution.validateCommit shared = .ok ()) :
    execution.coordinator.isPreparing = true ∧ execution.MembersPrepared shared.requests ∧
      ∃ requests, execution.commit shared =
          ({ shared with requests }, execution.committed, .ok ()) ∧
        Rewritten shared.requests requests execution.requestIdentities
          fun _ request => request.committed := by
  rcases (validateCommit_iff shared execution).mp valid with ⟨checked, members⟩
  have allowed : execution.coordinator.isPreparing = true ∧
      execution.coordinator.transaction.validateCommit = .ok () := by
    unfold DeepSeekPipelineCoordinator.validateCommit at checked
    split_ifs at checked with unready
    rw [not_or, not_not] at unready
    simp [DeepSeekPipelineCoordinator.isPreparing, unready.1, checked]
  refine ⟨allowed.1, ?_, ?_⟩
  · intro identity member
    rcases members identity member with ⟨request, found, ready⟩
    exact ⟨request, found, (request.validateCommit_ok_iff _).mp ready⟩
  · rcases changeAll_rewritten stored.distinct (members.changeable fun _ _ =>
          DeepSeekRequestLifecycle.commit_of_valid) with
      ⟨requests, loop, rewritten⟩
    refine ⟨requests, ?_, rewritten⟩
    have moved : execution.coordinator.commit = (execution.committed.coordinator, .ok ()) := by
      simp only [DeepSeekPipelineCoordinator.commit, checked,
        DeepSeekPipelineTransaction.commit, allowed.2]
      rfl
    simp only [commit, valid, moved, DeepSeekRequestRegistry.commit]
    rw [loop]
    rfl

/-- The coordinator counts a rank, or finishes with the last one. -/
theorem coordinator_stageComplete_cases (resources : DeepSeekPipelineResourceSet)
    (valid : execution.coordinator.validateStageComplete rank = .ok ()) :
    execution.coordinator.stageComplete resources rank =
        (resources, (execution.counted rank).coordinator, .ok ()) ∨
      execution.coordinator.stageComplete resources rank =
        (resources.restoreAll, (execution.finished rank).coordinator, .ok ()) := by
  by_cases last : execution.coordinator.completeCount + 1 = execution.coordinator.worldSize
  · right
    have allowed : execution.coordinator.transaction.validateComplete = .ok () := by
      have checked := valid
      unfold DeepSeekPipelineCoordinator.validateStageComplete at checked
      split at checked
      · cases checked
      split_ifs at checked
      exact checked
    unfold DeepSeekPipelineCoordinator.stageComplete
    rw [valid]
    rw [if_neg (not_not.mpr last)]
    simp only [DeepSeekPipelineTransaction.complete, allowed]
    rfl
  left
  simp only [DeepSeekPipelineCoordinator.stageComplete, valid, ne_eq, last, not_false_eq_true]
  rfl

theorem stageComplete_of_valid (stored : execution.Stored)
    (valid : execution.validateStageComplete shared rank = .ok ()) :
    execution.state = .committed ∧ execution.MembersLive shared.requests ∧
      (execution.stageComplete shared rank = (shared, execution.counted rank, .ok ()) ∨
        ∃ requests, execution.stageComplete shared rank = (⟨requests, shared.resources.restoreAll⟩,
            execution.finished rank, .ok ()) ∧
          Rewritten shared.requests requests execution.requestIdentities fun identity request =>
            request.drained identity.terminalOnComplete) := by
  rcases (validateStageComplete_iff shared execution rank).mp valid with ⟨checked, ready⟩
  have live : execution.coordinator.isCommitted = true := by
    have whole := checked
    unfold DeepSeekPipelineCoordinator.validateStageComplete at whole
    split at whole
    · cases whole
    split_ifs at whole with running
    all_goals exact running
  have state := stored.state_committed live
  refine ⟨state, fun identity member => ?_, ?_⟩
  · rcases ready identity member with ⟨request, found, passed⟩
    have parts := (request.validateBackendComplete_ok_iff _).mp passed
    exact ⟨request, found, parts.1, parts.2.2⟩
  rcases coordinator_stageComplete_cases shared.resources checked with moved | moved
  · left
    have other : (execution.counted rank).coordinator.state ≠ .complete := by
      change execution.coordinator.state = .committed at state
      change execution.coordinator.state ≠ .complete
      rw [state]
      nofun
    simp only [stageComplete, valid, moved, ne_eq, other, not_false_eq_true]
    rfl
  right
  rcases changeAll_rewritten stored.distinct (ready.changeable fun _ _ =>
        backendComplete_of_valid _) with
    ⟨requests, loop, rewritten⟩
  refine ⟨requests, ?_, rewritten⟩
  simp only [stageComplete, valid, moved, DeepSeekRequestRegistry.backendComplete]
  rw [loop]
  rfl

theorem stageFailed_of_valid (reason : Result Unit)
    (valid : execution.validateStageFailed shared rank = .ok ()) :
    ∃ status, execution.stageFailed shared rank reason =
      ({ shared with requests := execution.failRequests shared.requests },
        execution.poisoned, .error status) := by
  have checked : execution.coordinator.validateStageFailed rank = .ok () := by
    have whole := valid
    unfold validateStageFailed at whole
    split at whole
    · cases whole
    case h_2 checked => exact checked
  have moved : ∃ status, execution.coordinator.stageFailed rank reason =
      (execution.poisoned.coordinator, .error status) := by
    simp only [DeepSeekPipelineCoordinator.stageFailed, checked]
    cases reason with
    | error status => exact ⟨status, rfl⟩
    | ok => exact ⟨_, rfl⟩
  rcases moved with ⟨status, moved⟩
  refine ⟨status, ?_⟩
  simp only [stageFailed, valid, moved, and_false]
  rfl

end DeepSeekPipelineExecution

end Pih
