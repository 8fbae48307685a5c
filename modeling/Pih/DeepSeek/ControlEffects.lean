import Pih.DeepSeek.ControlPlane
import Pih.DeepSeek.ExecutionMoves

/-!
# What a call of the control plane changes

Every call either leaves the control plane as it was or has one of a few
effects.  The relation below lists them with what the call had checked, so
that an invariant of the control plane is a case analysis over the effects.
-/

namespace Pih

open DeepSeekPipelineExecution DeepSeekRequestLifecycle DeepSeekRequestRegistry
  Option OutputBurstCreditPool

/-! ## Requests on their own -/

/-- The request belongs to a plan that is prepared or committed. -/
def DeepSeekRequestLifecycle.InPlan (request : DeepSeekRequestLifecycle) : Prop :=
  request.state = .prepared ∨ request.state = .committed ∨ request.state = .draining

/--
A change of a request outside the preparation and the completion of its plan.
-/
structure DeepSeekRequestLifecycle.Moved (before after : DeepSeekRequestLifecycle) : Prop where
  generation : after.requestGeneration = before.requestGeneration
  settled : before.backendDrained = before.terminal → after.backendDrained = after.terminal
  live : before.state = .committed ∨ before.state = .draining →
    (after.state = .committed ∨ after.state = .draining) ∧
      after.planSequence = before.planSequence
  inPlan : after.InPlan → before.InPlan

namespace DeepSeekRequestLifecycle

theorem Moved.refl (request : DeepSeekRequestLifecycle) : Moved request request :=
  ⟨rfl, id, fun live => ⟨live, rfl⟩, id⟩

theorem Moved.trans (earlier : Moved first second) (later : Moved second third) :
    Moved first third where
  generation := later.generation.trans earlier.generation
  settled := fun settled => later.settled (earlier.settled settled)
  live := by
    intro live
    rcases earlier.live live with ⟨middle, same⟩
    rcases later.live middle with ⟨last, kept⟩
    exact ⟨last, kept.trans same⟩
  inPlan := fun last => earlier.inPlan (later.inPlan last)

theorem cancel_moved (changed : request.cancel generation = .ok cancelled) :
    Moved request cancelled := by
  unfold cancel at changed
  split at changed
  · cases changed
  split at changed
  · cases changed
    exact .refl request
  rename_i open_
  split at changed
  case isTrue running =>
    cases changed
    refine ⟨rfl, fun settled => ?_, fun _ => ⟨.inr rfl, rfl⟩, fun _ => .inr (.inl running)⟩
    have ended : request.terminal = false := by simp [terminal, running]
    rw [ended] at settled
    exact settled
  rename_i idle
  cases changed
  refine ⟨rfl, fun _ => rfl, fun live => ?_, ?_⟩
  · rcases live with live | live
    · exact absurd live idle
    · exact absurd (Or.inl live) open_
  · simp [InPlan]

theorem fail_moved (changed : request.fail = .ok failed) : Moved request failed := by
  rcases Result.else_eq_ok.mp changed with ⟨_, changed⟩
  cases changed
  by_cases live : request.state = .committed ∨ request.state = .draining
  · have drained : (decide (request.state ≠ .committed ∧ request.state ≠ .draining)) = false := by
      apply decide_eq_false
      rintro ⟨notCommitted, notDraining⟩
      exact live.elim notCommitted notDraining
    refine ⟨rfl, fun _ => ?_, fun _ => ⟨.inr ?_, rfl⟩, fun _ => .inr live⟩
    · simp only [drained]
      rfl
    · simp only [drained]
      rfl
  have drained : (decide (request.state ≠ .committed ∧ request.state ≠ .draining)) = true :=
    decide_eq_true (not_or.mp live)
  refine ⟨rfl, fun _ => ?_, fun other => absurd other live, ?_⟩
  · simp only [drained]
    rfl
  · simp [InPlan, drained]

theorem finish_moved {finished : DeepSeekRequestLifecycle}
    (changed : request.finish = .ok finished) :
    request.state = .admitted ∧ Moved request finished := by
  rcases Result.else_eq_ok.mp changed with ⟨allowed, changed⟩
  cases changed
  have admitted : request.state = .admitted := by
    by_contra other
    exact allowed (.inl other)
  refine ⟨admitted, rfl, fun _ => rfl, fun live => ?_, ?_⟩
  · rw [admitted] at live
    rcases live with live | live
    · cases live
    · cases live
  · simp [InPlan]

end DeepSeekRequestLifecycle

namespace DeepSeekRequestRegistry

open DeepSeekRequestLifecycle (Moved)

/-- Every request of the registry is moved, and none is added or removed. -/
structure Swept (before after : DeepSeekRequestRegistry) : Prop where
  absent : ∀ id, before.requests id = none → after.requests id = none
  present : ∀ id request, before.requests id = some request →
    ∃ moved, after.requests id = some moved ∧ Moved request moved

theorem Swept.refl (registry : DeepSeekRequestRegistry) : Swept registry registry :=
  ⟨fun _ absent => absent, fun _ request found => ⟨request, found, .refl request⟩⟩

theorem Swept.trans (earlier : Swept first second) (later : Swept second third) :
    Swept first third where
  absent := fun id absent => later.absent id (earlier.absent id absent)
  present := by
    intro id request found
    rcases earlier.present id request found with ⟨middle, there, moved⟩
    rcases later.present id middle there with ⟨last, here, again⟩
    exact ⟨last, here, moved.trans again⟩

theorem swept_set {id : ℕ} (found : registry.requests id = some request)
    (change : Moved request moved) :
    Swept registry (registry.set id (some moved)) where
  absent := by
    intro other absent
    rw [registry.set_requests_of_ne]
    · exact absent
    rintro rfl
    rw [found] at absent
    cases absent
  present := by
    intro other value here
    by_cases same : other = id
    · subst same
      cases some.inj (found.symm.trans here)
      exact ⟨moved, registry.set_requests_self _ _, change⟩
    refine ⟨value, ?_, .refl value⟩
    rw [registry.set_requests_of_ne _ same]
    exact here

theorem changeAll_swept
    (one : ∀ request updated, update request = .ok updated → Moved request updated) :
    Swept registry (registry.changeAll update) where
  absent := by
    intro id absent
    simp [changeAll, absent]
  present := by
    intro id request found
    simp only [changeAll, found, map_some]
    split
    · exact ⟨request, rfl, .refl request⟩
    cases changed : update request with
    | error => exact ⟨request, rfl, .refl request⟩
    | ok updated => exact ⟨updated, rfl, one request updated changed⟩

theorem fail_swept (registry : DeepSeekRequestRegistry) (id generation : ℕ) :
    Swept registry (registry.fail id generation).1 := by
  rcases registry.change_cases id generation (fun request => request.fail) with
    ⟨_, refused⟩ | ⟨_, _, found, changed, moved⟩
  · unfold fail
    rw [refused]
    exact .refl registry
  unfold fail
  rw [moved]
  exact swept_set (find_ok_iff.mp found).1 (fail_moved changed)

end DeepSeekRequestRegistry

theorem DeepSeekPipelineExecution.failRequests_swept (execution : DeepSeekPipelineExecution)
    (requests : DeepSeekRequestRegistry) : Swept requests (execution.failRequests requests) := by
  unfold failRequests
  induction execution.requestIdentities generalizing requests with
  | nil => exact .refl requests
  | cons _ _ hypothesis =>
    rw [List.foldl_cons]
    refine DeepSeekRequestRegistry.Swept.trans ?_ (hypothesis _)
    split
    · exact .refl requests
    · exact .refl requests
    · exact .refl requests
    · exact .refl requests
    · exact requests.fail_swept _ _

namespace DeepSeekControlPlane

open DeepSeekPipelineExecution (Created MembersLive MembersPrepared Rewritten)
open DeepSeekRequestLifecycle (Moved)
open OutputBurstCreditPool (Acquired)

/-! ## Effects -/

variable (plane : DeepSeekControlPlane)

/-- The control plane without an execution, with a returned credit. -/
def released (lease : OutputBurstLease) (shared : DeepSeekPipelineShared) : DeepSeekControlPlane :=
  { plane with
    shared
    outputCredits := plane.outputCredits.assign lease .free
    currentOutputBurst := none
    currentOutputOwners := []
    execution := none }

section

variable (plane : DeepSeekControlPlane)

/-- What a call does, failures and sweeps over all requests apart. -/
inductive Effect : Action → DeepSeekControlPlane → Prop
  | same : Effect action plane
  | submitted {id generation : ℕ} (free : plane.shared.requests.requests id = none) :
    Effect (.submit id generation) (plane.setRequests (plane.shared.requests.set id (some
            { requestGeneration := generation, state := .admitted })))
  | moved {id generation : ℕ}
    {request changed : DeepSeekRequestLifecycle}
    (found : plane.shared.requests.find id generation = .ok request)
    (change : Moved request changed)
    (apart : ∀ execution, plane.execution = some execution →
        execution.coordinator.isPreparing = true → request.state = .admitted ∨
            execution.containsRequest id generation = false) :
    Effect action (plane.setRequests (plane.shared.requests.set id (some changed)))
  | retired {id generation : ℕ} {request : DeepSeekRequestLifecycle}
    (found : plane.shared.requests.find id generation = .ok request)
    (drained : request.backendDrained = true)
    (unnamed : ∀ owners ∈ plane.pendingOutputOwners,
        ∀ identity ∈ owners.getD [], identity.key ≠ (id, generation)) :
    Effect (.retire id generation) ((plane.setRequests
        (plane.shared.requests.set id none)).setLedger (id, generation) none)
  | opened {id generation prompt maximum minimum : ℕ}
    (admitted : plane.shared.requests.state id generation = .ok .admitted)
    (bounds : minimum ≤ maximum ∧ maximum ≠ 0 ∧ prompt ≠ 0 ∧ prompt ≤ u64Max - maximum)
    (free : plane.ledgers (id, generation) = none) :
    Effect (.configureLedger id generation prompt maximum minimum)
      (plane.setLedger (id, generation) (some
          { promptTokenCount := prompt
            maximumCompletionTokens := maximum
            minimumCompletionTokens := minimum }))
  | sampled {id generation : ℕ}
    {config : DeepSeekRequestSamplingConfig} {ledger : DeepSeekLedger}
    (admitted : plane.shared.requests.state id generation = .ok .admitted)
    (found : plane.ledgers (id, generation) = some ledger)
    (unset : ledger.sampling = none) (empty : ledger.tokenIds = []) :
    Effect (.configureSampling id generation config) (plane.setLedger (id, generation)
        (some { ledger with sampling := some config }))
  | undone
    {lease : OutputBurstLease} {credits : OutputBurstCreditPool}
    {resources : DeepSeekPipelineResourceSet}
    (idle : plane.execution = none)
    (acquired : Acquired plane.outputCredits credits descriptor.planSequence lease)
    (untouched : DeepSeekPipelineResourceSet.Untouched plane.shared.resources resources) :
    Effect (.preparePlan descriptor identities)
      { plane with
        outputCredits := plane.outputCredits.assign lease .free
        shared := ⟨plane.shared.requests, resources⟩ }
  | prepared
    {lease : OutputBurstLease} {credits : OutputBurstCreditPool}
    {shared : DeepSeekPipelineShared}
    {execution : DeepSeekPipelineExecution}
    (idle : plane.execution = none)
    (unheld : plane.currentOutputBurst = none)
    (acquired : Acquired plane.outputCredits credits descriptor.planSequence lease)
    (created : Created plane.shared shared descriptor identities execution) :
    Effect (.preparePlan descriptor identities)
      { plane with
        outputCredits := credits
        shared
        currentOutputBurst := some lease
        currentOutputOwners := identities
        execution := some execution }
  | readied {execution : DeepSeekPipelineExecution}
    {coordinator : DeepSeekPipelineCoordinator}
    (live : plane.execution = some execution)
    (preparing : execution.coordinator.isPreparing = true)
    (still : coordinator.isPreparing = true)
    (transaction : coordinator.transaction = execution.coordinator.transaction)
    (worldSize : coordinator.worldSize = execution.coordinator.worldSize) :
    Effect (.stageReady rank)
      { plane with execution := some { execution with coordinator } }
  | rejected
    {execution : DeepSeekPipelineExecution} {lease : OutputBurstLease}
    {requests : DeepSeekRequestRegistry}
    (live : plane.execution = some execution)
    (held : plane.currentOutputBurst = some lease)
    (preparing : execution.coordinator.isPreparing = true)
    (members : execution.MembersPrepared plane.shared.requests)
    (holds : plane.outputCredits.Holds lease .prepared)
    (rewritten : execution.RolledBack plane.shared.requests requests) :
    Effect (.stageReject rank reason)
      { plane.released lease
          ⟨requests, plane.shared.resources.restoreAll⟩ with
        tentativeAccepted := none }
  | withdrawn {id generation : ℕ}
    {execution : DeepSeekPipelineExecution} {lease : OutputBurstLease}
    {requests : DeepSeekRequestRegistry}
    {request cancelled : DeepSeekRequestLifecycle}
    (live : plane.execution = some execution)
    (held : plane.currentOutputBurst = some lease)
    (preparing : execution.coordinator.isPreparing = true)
    (members : execution.MembersPrepared plane.shared.requests)
    (found : plane.shared.requests.find id generation = .ok request)
    (change : request.cancel generation = .ok cancelled)
    (holds : plane.outputCredits.Holds lease .prepared)
    (rewritten : execution.RolledBack (plane.shared.requests.set id (some cancelled)) requests) :
    Effect (.cancel id generation) (plane.released lease
        ⟨requests, plane.shared.resources.restoreAll⟩)
  | committed {execution : DeepSeekPipelineExecution}
    {lease : OutputBurstLease} {requests : DeepSeekRequestRegistry}
    (live : plane.execution = some execution)
    (held : plane.currentOutputBurst = some lease)
    (preparing : execution.coordinator.isPreparing = true)
    (members : execution.MembersPrepared plane.shared.requests)
    (holds : plane.outputCredits.Holds lease .prepared)
    (rewritten : Rewritten plane.shared.requests requests execution.requestIdentities
        fun _ request => request.committed) :
    Effect .commitPlan
      { plane with
        outputCredits := plane.outputCredits.assign lease .committed
        shared := { plane.shared with requests }
        execution := some execution.committed }
  | staged {planSequence : ℕ} {batches : List DeepSeekAcceptedTokenBatch}
    {execution : DeepSeekPipelineExecution}
    (live : plane.execution = some execution)
    (state : execution.state = .committed)
    (unstaged : plane.tentativeAccepted = none)
    (length : batches.length = execution.requestIdentities.length)
    (valid : plane.validateBatches (execution.requestIdentities.zip batches) = .ok ()) :
    Effect (.stageAcceptedTokens planSequence batches)
      { plane with tentativeAccepted := some ⟨planSequence, batches⟩ }
  | counted {execution : DeepSeekPipelineExecution} (live : plane.execution = some execution)
    (state : execution.state = .committed) :
    Effect (.stageComplete rank)
      { plane with execution := some (execution.counted rank) }
  | completed {execution : DeepSeekPipelineExecution}
    {lease : OutputBurstLease} {requests : DeepSeekRequestRegistry}
    (live : plane.execution = some execution)
    (held : plane.currentOutputBurst = some lease)
    (state : execution.state = .committed)
    (members : execution.MembersLive plane.shared.requests)
    (owned : plane.checkOwnership execution = .ok ())
    (present : plane.checkStaged execution = .ok ())
    (holds : plane.outputCredits.Holds lease .committed)
    (rewritten : Rewritten plane.shared.requests requests execution.requestIdentities
        fun identity request => request.drained identity.terminalOnComplete) :
    Effect (.stageComplete rank)
      { plane.parkBurst lease with
        shared := ⟨requests, plane.shared.resources.restoreAll⟩
        outputCredits := plane.outputCredits.assign lease .transferred
        ledgers :=
          match plane.tentativeAccepted with
          | none => plane.ledgers
          | some tentative =>
            acceptBatches requests plane.ledgers
              (execution.requestIdentities.zip tentative.batches)
        execution := none }
  | acknowledged {planSequence index : ℕ} {lease : OutputBurstLease}
    {owners : List DeepSeekRequestIdentity}
    (found : plane.pendingOutputBursts[index]? = some (some lease))
    (named : plane.pendingOutputOwners[index]? = some (some owners))
    (holds : plane.outputCredits.Holds lease .transferred) :
    Effect (.acknowledgeOutputPlan planSequence)
      { plane with
        outputCredits := plane.outputCredits.setCredit lease.creditIndex
            { generation := lease.creditGeneration }
        pendingOutputBursts := plane.pendingOutputBursts.set index none
        pendingOutputOwners := plane.pendingOutputOwners.set index none }

end

/-- The effects of a failure and of a sweep over all requests. -/
inductive Sweep (plane : DeepSeekControlPlane) : DeepSeekControlPlane → Prop
  | swept {requests : DeepSeekRequestRegistry} (sweep : Swept plane.shared.requests requests) :
    Sweep plane (plane.setRequests requests)
  | failed {execution : DeepSeekPipelineExecution}
    {lease : OutputBurstLease} {requests : DeepSeekRequestRegistry}
    {credits : OutputBurstCreditPool}
    (live : plane.execution = some execution)
    (sweep : Swept plane.shared.requests requests) :
    Sweep plane
      { plane.parkBurst lease with
        shared := { plane.shared with requests }
        execution := some execution.poisoned
        outputCredits := credits }

/-- The executions that the control plane keeps are as it stored them. -/
def Stored : Prop := ∀ execution, plane.execution = some execution → execution.Stored

variable {plane : DeepSeekControlPlane} {execution : DeepSeekPipelineExecution}

theorem activeExecution_ok (active : plane.activeExecution = .ok (execution, lease)) :
    plane.execution = some execution ∧ plane.currentOutputBurst = some lease := by
  unfold activeExecution at active
  split at active
  case h_1 live held =>
    cases active
    exact ⟨live, held⟩
  · cases active

/-! ## Requests -/

variable {id : ℕ}

theorem submit_effect : Effect plane (.submit id generation) (plane.submit id generation).1 := by
  unfold submit DeepSeekRequestRegistry.submit
  split
  · exact .same
  rename_i free
  split
  · exact .same
  rename_i request created
  have fresh : request = { requestGeneration := generation } := by
    unfold DeepSeekRequestLifecycle.create at created
    split at created
    · cases created
    · exact (Except.ok.inj created).symm
  subst fresh
  exact .submitted (not_isSome_iff_eq_none.mp free)

theorem finishRequest_effect :
    Effect plane (.finishRequest id generation) (plane.finishRequest id generation).1 := by
  rcases plane.shared.requests.change_cases id generation (fun request => request.finish) with
    ⟨_, refused⟩ | ⟨_, _, found, changed, moved⟩
  · unfold finishRequest DeepSeekRequestRegistry.finish
    rw [refused]
    exact .same
  unfold finishRequest DeepSeekRequestRegistry.finish
  rw [moved]
  rcases finish_moved changed with ⟨admitted, change⟩
  exact .moved found change fun _ _ _ => .inl admitted

theorem retire_effect : Effect plane (.retire id generation) (plane.retire id generation).1 := by
  unfold retire
  split
  · exact .same
  rename_i validated
  unfold validateRetire at validated
  split at validated
  · cases validated
  rename_i registered
  split at validated
  · cases validated
  rename_i unnamed
  unfold DeepSeekRequestRegistry.retire
  rw [registered]
  rcases (validate_ok_iff _ _ _ _).mp registered with ⟨_, found, allowed⟩
  split at allowed
  · cases allowed
  rename_i drained
  rw [not_or, not_not, not_not] at drained
  refine .retired found drained.2 ?_
  intro owners pending identity named same
  apply unnamed
  rw [List.any_eq_true]
  refine ⟨owners, pending, ?_⟩
  rw [List.any_eq_true]
  refine ⟨identity, named, ?_⟩
  rw [decide_eq_true_eq]
  exact Prod.mk.inj same

theorem configureLedger_effect {maximum minimum : ℕ} :
    Effect plane (.configureLedger id generation prompt maximum minimum)
      (plane.configureLedger id generation prompt maximum minimum).1 := by
  unfold configureLedger
  split
  · exact .same
  rename_i found
  split
  · exact .same
  rename_i valid
  rw [not_or, not_or, not_or, not_or, not_not] at valid
  rcases valid with ⟨admitted, prompted, bounded, ordered, fits⟩
  split
  · exact .same
  rename_i free
  rw [admitted] at found
  refine .opened found ⟨Nat.not_lt.mp ordered, bounded, prompted, Nat.not_lt.mp fits⟩
    (not_isSome_iff_eq_none.mp free)

theorem configureSampling_effect : Effect plane (.configureSampling id generation config)
      (plane.configureSampling id generation config).1 := by
  unfold configureSampling
  split
  · exact .same
  rename_i found
  split
  · exact .same
  rename_i present
  split
  · exact .same
  rename_i valid
  rw [not_or, not_or, not_or, not_or, not_not] at valid
  rcases valid with ⟨admitted, -, -, unset, empty⟩
  rw [admitted] at found
  exact .sampled found present (not_isSome_iff_eq_none.mp unset) (not_not.mp empty)

/-! ## Leaving a plan -/

theorem releaseAborted_of_stored (stored : plane.Stored) (dropsStaged : Bool)
    (status : Result Unit) : plane.releaseAborted dropsStaged status = (plane, status) := by
  unfold releaseAborted
  dsimp only
  split
  · rfl
  case h_2 execution live => rw [if_pos (stored execution live).not_aborted]

/-- An aborted execution gives the credit back that was checked before. -/
theorem releaseAborted_of_aborted (shared : DeepSeekPipelineShared)
    (dropsStaged : Bool) (status : Result Unit) (held : plane.currentOutputBurst = some lease)
    (holds : plane.outputCredits.Holds lease .prepared) :
    releaseAborted { plane with shared, execution := some execution.aborted } dropsStaged status =
      ({ plane.released lease shared with
          tentativeAccepted := if dropsStaged then none else plane.tentativeAccepted },
        status) := by
  have returned : plane.outputCredits.abort lease =
      (plane.outputCredits.assign lease .free, .ok ()) :=
    move_of_holds .free holds
  unfold releaseAborted
  rw [held]
  dsimp only
  rw [returned]
  rfl

theorem stageReject_eq (reason : Result Unit) (stored : execution.Stored)
    (live : plane.execution = some execution) (held : plane.currentOutputBurst = some lease)
    (valid : execution.validateStageReject plane.shared rank = .ok ())
    (holds : plane.outputCredits.Holds lease .prepared) :
    ∃ requests status, plane.stageReject rank reason = ({ plane.released lease
        ⟨requests, plane.shared.resources.restoreAll⟩ with
        tentativeAccepted := none }, .error status) ∧
      execution.RolledBack plane.shared.requests requests := by
  rcases stageReject_of_valid reason stored valid with ⟨requests, status, rejected, rewritten⟩
  refine ⟨requests, status, ?_, rewritten⟩
  have active : plane.activeExecution = .ok (execution, lease) := by
    simp only [activeExecution, live, held]
  have checked : plane.outputCredits.validateAbort lease = .ok () :=
    (plane.outputCredits.validate_ok_iff lease _).mpr holds
  simp only [stageReject, active, valid, checked, rejected]
  rw [releaseAborted_of_aborted _ _ _ held holds]
  rfl

theorem stageReject_effect (stored : plane.Stored) :
    Effect plane (.stageReject rank reason) (plane.stageReject rank reason).1 := by
  cases active : plane.activeExecution with
  | error =>
    simp only [stageReject, active]
    exact .same
  | ok pair =>
    rcases pair with ⟨execution, lease⟩
    rcases activeExecution_ok active with ⟨live, held⟩
    cases valid : execution.validateStageReject plane.shared rank with
    | error =>
      simp only [stageReject, active, valid]
      exact .same
    | ok =>
      rcases plane.outputCredits.validate_cases lease .prepared with
        ⟨-, holds⟩ | ⟨⟨status, refused⟩, -⟩
      · rcases stageReject_eq reason (stored execution live) live held
            valid holds with ⟨_, status, moved, rewritten⟩
        rw [moved]
        have parts := (validateStageReject_ok_iff _ _ _).mp valid
        exact .rejected live held parts.1.2.1 parts.2 holds rewritten
      have failed : plane.outputCredits.validateAbort lease = .error status := refused
      simp only [stageReject, active, valid, failed]
      exact .same

theorem cancel_of_preparing (stored : execution.Stored) (live : plane.execution = some execution)
    (held : plane.currentOutputBurst = some lease)
    (member : execution.containsRequest id generation = true)
    (preparing : execution.coordinator.isPreparing = true)
    (valid : execution.validateCancelRequest plane.shared id generation = .ok ())
    (holds : plane.outputCredits.Holds lease .prepared) :
    ∃ request cancelled requests, plane.shared.requests.find id generation = .ok request ∧
      request.cancel generation = .ok cancelled ∧
      execution.MembersPrepared plane.shared.requests ∧
      plane.cancel id generation = (plane.released lease
        ⟨requests, plane.shared.resources.restoreAll⟩, .ok ()) ∧
      execution.RolledBack (plane.shared.requests.set id (some cancelled)) requests := by
  rcases cancelRequest_of_valid stored valid with
    ⟨request, cancelled, found, changed, ⟨running, -⟩ | ⟨allowed, requests, moved, rewritten⟩⟩
  · rw [preparing] at running
    cases running
  have parts := (validateStageReject_ok_iff _ _ _).mp allowed
  refine ⟨request, cancelled, requests, found, changed, parts.2, ?_, rewritten⟩
  have checked : plane.validateCancelActive execution id generation = .ok () := by
    simp only [validateCancelActive, valid, preparing, held]
    exact (plane.outputCredits.validate_ok_iff lease _).mpr holds
  simp only [cancel, live, member, checked, moved]
  rw [releaseAborted_of_aborted _ _ _ held holds]
  rfl

section

variable (stored : plane.Stored) (id : ℕ) (generation : ℕ)

include stored

theorem cancelInactive_cases :
    (∃ status, plane.cancelInactive id generation = (plane, .error status)) ∨ ∃ request changed,
      plane.shared.requests.find id generation = .ok request ∧
        request.cancel generation = .ok changed ∧
        plane.cancelInactive id generation = (plane.setRequests
          (plane.shared.requests.set id (some changed)), .ok ()) := by
  unfold cancelInactive DeepSeekRequestRegistry.cancel
  rw [releaseAborted_of_stored]
  · rcases plane.shared.requests.change_cases id generation
        (fun request => request.cancel generation) with
      ⟨status, refused⟩ | ⟨request, updated, found, changed, moved⟩
    · rw [refused]
      exact .inl ⟨status, rfl⟩
    rw [moved]
    exact .inr ⟨request, updated, found, changed, rfl⟩
  · exact stored

/-- A cancellation is refused, moves one request, or gives up the plan. -/
theorem cancel_cases : (∃ status, plane.cancel id generation = (plane, .error status)) ∨
      (∃ request changed, plane.shared.requests.find id generation = .ok request ∧
          request.cancel generation = .ok changed ∧ (∀ execution, plane.execution = some execution →
            execution.coordinator.isPreparing = true →
              execution.containsRequest id generation = false) ∧
          plane.cancel id generation = (plane.setRequests
              (plane.shared.requests.set id (some changed)), .ok ())) ∨
      ∃ after, plane.cancel id generation = (after, .ok ()) ∧ after.execution = none ∧
        Effect plane (.cancel id generation) after := by
  unfold cancel
  split
  case h_1 idle =>
    rcases cancelInactive_cases stored id generation with
      refused | ⟨request, changed, found, change, moved⟩
    · exact .inl refused
    refine .inr (.inl ⟨request, changed, found, change, ?_, moved⟩)
    intro execution live
    rw [idle] at live
    cases live
  rename_i execution live
  split
  case isTrue apart =>
    rcases cancelInactive_cases stored id generation with
      refused | ⟨request, changed, found, change, moved⟩
    · exact .inl refused
    refine .inr (.inl ⟨request, changed, found, change, ?_, moved⟩)
    intro other same _
    cases some.inj (live.symm.trans same)
    exact Bool.eq_false_iff.mpr apart
  split
  case h_1 status _ => exact .inl ⟨status, rfl⟩
  rename_i validated
  unfold validateCancelActive at validated
  split at validated
  · cases validated
  rename_i valid
  rcases cancelRequest_of_valid (stored execution live) valid with
    ⟨request, cancelled, found, changed, ⟨running, moved⟩ | ⟨allowed, _, moved, rewritten⟩⟩
  · right
    left
    refine ⟨request, cancelled, found, changed, ?_, ?_⟩
    · intro other kept preparing
      cases some.inj (live.symm.trans kept)
      rw [running] at preparing
      cases preparing
    · rw [moved]
      dsimp only
      rw [releaseAborted_of_stored]
      · rw [← live]
        rfl
      rintro _ ⟨⟩
      exact stored execution live
  have parts := (validateStageReject_ok_iff _ _ _).mp allowed
  rw [if_pos parts.1.2.1] at validated
  split at validated
  · cases validated
  rename_i lease held
  have holds := (plane.outputCredits.validate_ok_iff lease _).mp validated
  right
  right
  rw [moved]
  dsimp only
  rw [releaseAborted_of_aborted _ _ _ held holds]
  exact ⟨_, rfl, rfl, .withdrawn live held parts.1.2.1 parts.2 found changed holds rewritten⟩

theorem cancel_effect : Effect plane (.cancel id generation) (plane.cancel id generation).1 := by
  rcases cancel_cases stored id generation with
    ⟨_, refused⟩ | ⟨_, _, found, change, apart, moved⟩ |
      ⟨_, withdrawn, -, effect⟩
  · rw [refused]
    exact .same
  · rw [moved]
    exact .moved found (cancel_moved change)
      fun execution live preparing => .inr (apart execution live preparing)
  rw [withdrawn]
  exact effect

end

/-! ## Plans -/

theorem preparePlan_effect (plane : DeepSeekControlPlane)
    (descriptor : DeepSeekPipelinePlanDescriptor) (identities : List DeepSeekRequestIdentity) :
    Effect plane (.preparePlan descriptor identities)
      (plane.preparePlan descriptor identities).1 := by
  unfold preparePlan
  split
  · exact .same
  rename_i idle
  rw [not_or, not_or] at idle
  rcases idle with ⟨idle, unheld, -⟩
  have idle := not_isSome_iff_eq_none.mp idle
  have unheld := not_isSome_iff_eq_none.mp unheld
  split
  · exact .same
  rcases plane.outputCredits.acquire_cases descriptor.planSequence .deepSeek 5 64 1048576 with
    ⟨status, refused⟩ | ⟨credits, lease, taken, acquired⟩
  · simp only [refused]
    exact .same
  simp only [taken]
  rcases create_cases plane.shared descriptor identities with
    ⟨_, _, failed, untouched⟩ | ⟨_, _, built, created⟩
  · have holds : credits.Holds lease .prepared := by
      rcases acquired.free with ⟨_, there, -⟩
      rw [acquired.next_eq]
      rcases List.getElem_of_getElem? there with ⟨inside, -⟩
      simp [Holds, setCredit, inside]
    have returned : credits.abort lease = (plane.outputCredits.assign lease .free, .ok ()) := by
      refine (move_of_holds .free holds).trans ?_
      rw [acquired.next_eq, assign, assign, setCredit_setCredit]
    simp only [failed, returned]
    exact .undone idle acquired untouched
  simp only [built]
  exact .prepared idle unheld acquired created

theorem stageReady_effect :
    Effect plane (.stageReady rank) (plane.stageReady rank).1 := by
  unfold stageReady
  split
  · exact .same
  rename_i execution live
  have same : ({ plane with execution := some execution } : DeepSeekControlPlane) = plane := by
    rw [← live]
  unfold DeepSeekPipelineExecution.stageReady DeepSeekPipelineCoordinator.stageReady
  dsimp only
  split
  · rw [same]
    exact .same
  split
  · rw [same]
    exact .same
  rename_i preparing
  split
  · rw [same]
    exact .same
  have preparing := not_not.mp preparing
  refine .readied live preparing ?_ rfl rfl
  split
  · rfl
  · exact preparing

theorem commitPlan_effect (stored : plane.Stored) :
    Effect plane .commitPlan plane.commitPlan.1 := by
  cases validated : plane.validateCommitPlan with
  | error =>
    simp only [commitPlan, validated]
    exact .same
  | ok =>
    have whole := validated
    unfold validateCommitPlan at validated
    split at validated
    · cases validated
    rename_i execution lease active
    rcases activeExecution_ok active with ⟨live, held⟩
    split at validated
    · cases validated
    rename_i checked
    have holds := (plane.outputCredits.validate_ok_iff lease _).mp checked
    have moved : plane.outputCredits.commit lease =
        (plane.outputCredits.assign lease .committed, .ok ()) :=
      move_of_holds .committed holds
    rcases commit_of_valid (stored execution live) validated with
      ⟨preparing, members, _, done, rewritten⟩
    simp only [commitPlan, whole, active, moved, done]
    exact .committed live held preparing members holds rewritten

theorem stageAcceptedTokens_effect (plane : DeepSeekControlPlane)
    (planSequence : ℕ) (batches : List DeepSeekAcceptedTokenBatch) :
    Effect plane (.stageAcceptedTokens planSequence batches)
      (plane.stageAcceptedTokens planSequence batches).1 := by
  unfold stageAcceptedTokens
  split
  · exact .same
  rename_i live
  split
  · exact .same
  rename_i matching_
  rw [not_or, not_or, not_or, not_not, not_not, not_not] at matching_
  rcases matching_ with ⟨state, _, unstaged, length⟩
  split
  · exact .same
  rename_i valid
  exact .staged live state (not_isSome_iff_eq_none.mp unstaged) length valid

theorem prepareStageComplete_ok (prepared : plane.prepareStageComplete rank = .ok ()) :
    ∃ execution lease, plane.activeExecution = .ok (execution, lease) ∧
      plane.checkOwnership execution = .ok () ∧
      plane.outputCredits.Holds lease .committed ∧
      plane.checkStaged execution = .ok () ∧
      execution.validateStageComplete plane.shared rank = .ok () := by
  unfold prepareStageComplete at prepared
  split at prepared
  · cases prepared
  rename_i execution lease active
  split at prepared
  · cases prepared
  rename_i owned
  split at prepared
  · cases prepared
  rename_i checked
  split at prepared
  · cases prepared
  rename_i present
  exact ⟨execution, lease, active, owned, (plane.outputCredits.validate_ok_iff lease _).mp checked,
    present, prepared⟩

theorem stageComplete_effect (stored : plane.Stored) :
    Effect plane (.stageComplete rank) (plane.stageComplete rank).1 := by
  cases prepared : plane.prepareStageComplete rank with
  | error =>
    simp only [stageComplete, prepared]
    exact .same
  | ok =>
    rcases prepareStageComplete_ok prepared with
      ⟨execution, lease, active, owned, holds, present, valid⟩
    rcases activeExecution_ok active with ⟨live, held⟩
    rcases stageComplete_of_valid (stored execution live) valid with
      ⟨state, members, moved | ⟨_, moved, rewritten⟩⟩
    · have open_ : (execution.counted rank).state ≠ .complete := by
        change execution.state ≠ .complete
        rw [state]
        nofun
      simp only [stageComplete, prepared, active, moved, open_, and_false]
      exact .counted live state
    have parked : plane.outputCredits.transfer lease =
        (plane.outputCredits.assign lease .transferred, .ok ()) :=
      move_of_holds .transferred holds
    simp only [stageComplete, prepared, active, moved, parked]
    have effect : Effect plane (.stageComplete rank) _ :=
      .completed live held state members owned present holds rewritten
    exact effect

theorem acknowledgeOutputPlan_effect (plane : DeepSeekControlPlane) (planSequence : ℕ) :
    Effect plane (.acknowledgeOutputPlan planSequence)
      (plane.acknowledgeOutputPlan planSequence).1 := by
  unfold acknowledgeOutputPlan
  dsimp only
  split
  case h_1 index lease found there =>
    rw [found] at there
    split
    · exact .same
    rename_i named
    rcases plane.outputCredits.validate_cases lease .transferred with
      ⟨-, holds⟩ | ⟨⟨status, refused⟩, -⟩
    · rw [release_of_holds holds]
      rcases owned : plane.pendingOutputOwners[index]? with _ | _ | owners
      · exact absurd (by rw [owned]; rfl) named
      · exact absurd (by rw [owned]; rfl) named
      exact .acknowledged (join_eq_some_iff.mp there) owned holds
    have failed : plane.outputCredits.release lease = (plane.outputCredits, .error status) := by
      simp only [release, refused]
    rw [failed]
    exact .same
  · exact .same

/-! ## All calls -/

theorem stageFailed_effect :
    (plane.stageFailed rank reason).1 = plane ∨ Sweep plane (plane.stageFailed rank reason).1 := by
  unfold stageFailed
  split
  · exact .inl rfl
  rename_i execution lease active
  rcases activeExecution_ok active with ⟨live, _⟩
  split
  · exact .inl rfl
  rename_i valid
  split
  · exact .inl rfl
  split
  · exact .inl rfl
  rename_i checked
  have holds := (plane.outputCredits.validate_ok_iff lease _).mp checked
  have parked : plane.outputCredits.transfer lease =
      (plane.outputCredits.assign lease .transferred, .ok ()) :=
    move_of_holds .transferred holds
  rcases stageFailed_of_valid reason valid with ⟨_, moved⟩
  right
  simp only [moved, parked]
  refine .failed live ?_
  exact (execution.failRequests_swept _).trans (changeAll_swept fun _ _ => fail_moved)

/-- The calls other than a failure and a sweep over all requests. -/
def Action.quiet : Action → Bool
  | .stageFailed _ _ => false
  | .failAll => false
  | .cancelAll => false
  | _ => true

theorem execute_effect (stored : plane.Stored) (action : Action) :
    Effect plane action (plane.execute action).1 ∨
      action.quiet = false ∧ Sweep plane (plane.execute action).1 := by
  cases action with
  | submit => exact .inl submit_effect
  | cancel id generation => exact .inl (cancel_effect stored id generation)
  | finishRequest => exact .inl finishRequest_effect
  | retire => exact .inl retire_effect
  | configureLedger => exact .inl configureLedger_effect
  | configureSampling => exact .inl configureSampling_effect
  | preparePlan descriptor identities => exact .inl (plane.preparePlan_effect descriptor identities)
  | stageReady => exact .inl stageReady_effect
  | stageReject => exact .inl (stageReject_effect stored)
  | commitPlan => exact .inl (commitPlan_effect stored)
  | stageAcceptedTokens planSequence batches =>
    exact .inl (plane.stageAcceptedTokens_effect planSequence batches)
  | stageComplete => exact .inl (stageComplete_effect stored)
  | acknowledgeOutputPlan planSequence =>
    exact .inl (plane.acknowledgeOutputPlan_effect planSequence)
  | stageFailed rank reason =>
    rcases stageFailed_effect with kept | swept
    · left
      change Effect plane _ (plane.stageFailed rank reason).1
      rw [kept]
      exact .same
    · exact .inr ⟨rfl, swept⟩
  | failAll => exact .inr ⟨rfl, .swept (changeAll_swept fun _ _ => fail_moved)⟩
  | cancelAll => exact .inr ⟨rfl, .swept (changeAll_swept fun _ _ => cancel_moved)⟩

end DeepSeekControlPlane

end Pih
