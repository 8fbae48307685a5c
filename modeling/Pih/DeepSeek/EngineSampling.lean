import Pih.DeepSeek.Engine
import Pih.DeepSeek.LedgerRuns

/-!
# Sampled tokens and the minimum of a request

The engine computes which tokens are suppressed when it prepares a plan, from
the ledger as it is then.  The ledger of a request does not change while the
request is in a plan, so the tokens are still the right ones when the plan is
advanced.
-/

namespace Pih

open DeepSeekControlPlane DeepSeekLedger DeepSeekPipelineExecution
  DeepSeekRequestLifecycle DeepSeekRequestRegistry List Option

/-! ## The refusal of an early end -/

namespace DeepSeekLedger

/-- The answer to a request that ends before its minimum. -/
def endsEarly : Status := .invalidArgument "DeepSeek terminal violates min_tokens"

theorem checkTopLogprobs_ne :
    checkTopLogprobs token selected prior candidates ≠ .error endsEarly := by
  fun_induction checkTopLogprobs token selected prior candidates <;>
    simp_all [endsEarly, Status.invalidArgument]

theorem checkSelectedLogprobs_ne (config : DeepSeekRequestSamplingConfig)
    (pairs : List (ℕ × DeepSeekSelectedLogprobReceipt)) :
    checkSelectedLogprobs config pairs ≠ .error endsEarly := by
  fun_induction checkSelectedLogprobs config pairs with
  | case4 _ _ _ _ _ _ refused =>
    rintro ⟨⟩
    exact checkTopLogprobs_ne refused
  | _ => simp_all [endsEarly, Status.invalidArgument]

theorem checkSamplingReceipts_ne (config : DeepSeekRequestSamplingConfig)
    (selected : List DeepSeekSelectedLogprobReceipt) (ordinal index : ℕ)
    (receipts : List DeepSeekSamplingReceipt) :
    checkSamplingReceipts config selected ordinal index receipts ≠ .error endsEarly := by
  fun_induction checkSamplingReceipts config selected ordinal index receipts <;>
    simp_all [endsEarly, Status.invalidArgument]

theorem checkReceipts_ne (ledger : DeepSeekLedger) (batch : DeepSeekAcceptedTokenBatch) :
    ledger.checkReceipts batch ≠ .error endsEarly := by
  have receipts := checkSamplingReceipts_ne
  fun_cases checkReceipts ledger batch with
  | case4 _ _ _ _ refused =>
    rintro ⟨⟩
    exact checkSelectedLogprobs_ne _ _ refused
  | _ => simp_all [endsEarly, Status.invalidArgument]

theorem validateBatch_early {ledger : DeepSeekLedger}
    (early : ledger.validateBatch batch = .error endsEarly) :
    stops batch ∧ ledger.tokenIds.length + batch.tokenIds.length <
      ledger.minimumCompletionTokens := by
  have receipts := ledger.checkReceipts_ne batch
  revert early
  fun_cases validateBatch ledger batch with
  | case4 => exact fun _ => ‹_›
  | _ => simp_all [endsEarly, Status.invalidArgument, Status.failedPrecondition]

end DeepSeekLedger

/-! ## Requests in a plan -/

namespace DeepSeekRequestRegistry

/-- Every request in a plan was in a plan before. -/
def FromPlan (before after : DeepSeekRequestRegistry) : Prop :=
  ∀ id request, after.requests id = some request → request.InPlan →
    ∃ earlier, before.requests id = some earlier ∧ earlier.InPlan ∧
      earlier.requestGeneration = request.requestGeneration

theorem FromPlan.refl (registry : DeepSeekRequestRegistry) : FromPlan registry registry :=
  fun _ request found inPlan => ⟨request, found, inPlan, rfl⟩

theorem FromPlan.trans (earlier : FromPlan first second)
    (later : FromPlan second third) : FromPlan first third := by
  intro id request found inPlan
  rcases later id request found inPlan with ⟨middle, there, inside, same⟩
  rcases earlier id middle there inside with ⟨old, here, before, again⟩
  exact ⟨old, here, before, again.trans same⟩

theorem Swept.fromPlan {after : DeepSeekRequestRegistry}
    (swept : Swept before after) : FromPlan before after := by
  intro id request found inPlan
  cases earlier : before.requests id with
  | none => simp [swept.absent id earlier] at found
  | some old =>
    rcases swept.present id old earlier with ⟨_, there, change⟩
    cases some.inj (there.symm.trans found)
    exact ⟨old, rfl, change.inPlan inPlan, change.generation.symm⟩

/-- A request that is removed, or set outside a plan. -/
theorem fromPlan_set (registry : DeepSeekRequestRegistry) (id : ℕ)
    (outside : ∀ request, value = some request → ¬ request.InPlan) :
    FromPlan registry (registry.set id value) := by
  intro other request found inPlan
  by_cases same : other = id
  · subst same
    rw [registry.set_requests_self] at found
    exact absurd inPlan (outside request found)
  rw [registry.set_requests_of_ne _ same] at found
  exact ⟨request, found, inPlan, rfl⟩

end DeepSeekRequestRegistry

open DeepSeekRequestRegistry (FromPlan Swept)

theorem DeepSeekPipelineExecution.Rewritten.fromPlan {after : DeepSeekRequestRegistry}
    (rewritten : Rewritten before after identities rewrite)
    (members : ∀ identity ∈ identities, ∃ request,
      before.requests identity.requestId = some request ∧
        ((rewrite identity request).InPlan → request.InPlan))
    (generation : ∀ identity request, (rewrite identity request).requestGeneration =
        request.requestGeneration) : FromPlan before after := by
  intro id request found inPlan
  by_cases member : id ∈ identities.map DeepSeekRequestIdentity.requestId
  · rcases mem_map.mp member with ⟨identity, inside, rfl⟩
    rcases members identity inside with ⟨earlier, there, kept⟩
    rw [rewritten.members identity inside earlier there] at found
    cases found
    exact ⟨earlier, there, kept inPlan, (generation _ _).symm⟩
  rw [rewritten.others id member] at found
  exact ⟨request, found, inPlan, rfl⟩

theorem DeepSeekRequestLifecycle.takenBack_inPlan {plan : ℕ} {request : DeepSeekRequestLifecycle}
    (inPlan : (request.takenBack plan).InPlan) : request.InPlan := by
  unfold takenBack at inPlan
  split at inPlan
  case isTrue prepared => exact .inl prepared.1
  · exact inPlan

theorem DeepSeekRequestLifecycle.drained_not_inPlan (terminal : Bool)
    (request : DeepSeekRequestLifecycle) : ¬ (request.drained terminal).InPlan := by
  cases failed : request.failurePending <;> simp [drained, InPlan] <;> grind

namespace DeepSeekControlPlane

variable {plane after : DeepSeekControlPlane}

/-- A call other than a preparation puts no request into a plan. -/
theorem fromPlan_of_effect (effect : Effect plane action after)
    (live : plane.execution.isSome = true) :
    FromPlan plane.shared.requests after.shared.requests := by
  have takenBack := @takenBack_inPlan
  cases effect with
  | submitted =>
    apply fromPlan_set
    rintro request ⟨⟩
    simp [InPlan]
  | moved found change => exact (swept_set (find_ok_iff.mp found).1 change).fromPlan
  | retired =>
    apply fromPlan_set
    simp
  | prepared idle => simp [idle] at live
  | rejected _ _ _ members _ rewritten =>
    apply rewritten.fromPlan
    · intro identity inside
      rcases members identity inside with ⟨request, found, -⟩
      exact ⟨request, (find_ok_iff.mp found).1, takenBack⟩
    · exact fun _ => takenBack_generation _
  | @withdrawn id generation execution lease requests request cancelled
      running held preparing members found change holds rewritten =>
    have swept := swept_set (find_ok_iff.mp found).1 (cancel_moved change)
    refine swept.fromPlan.trans (rewritten.fromPlan ?_ ?_)
    · intro identity inside
      rcases members identity inside with ⟨member, there, -⟩
      rcases swept.keeps _ member (find_ok_iff.mp there).1 with ⟨middle, here, -⟩
      exact ⟨middle, here, takenBack⟩
    · exact fun _ => takenBack_generation _
  | committed _ _ _ members _ rewritten =>
    apply rewritten.fromPlan
    · intro identity inside
      rcases members identity inside with ⟨request, found, state, -⟩
      exact ⟨request, (find_ok_iff.mp found).1, fun _ => .inl state⟩
    · exact fun _ _ => rfl
  | completed _ _ _ members _ _ _ rewritten =>
    apply rewritten.fromPlan
    · intro identity inside
      rcases members identity inside with ⟨request, found, -⟩
      exact ⟨request, (find_ok_iff.mp found).1,
        fun inPlan => absurd inPlan (drained_not_inPlan _ _)⟩
    · exact fun _ => drained_generation _
  | _ => exact .refl _

theorem not_inPlan_of_admitted {id : ℕ}
    (admitted : plane.shared.requests.state id generation = .ok .admitted)
    (found : plane.shared.requests.find id generation = .ok request) : ¬ request.InPlan := by
  rcases state_ok_iff.mp admitted with ⟨_, there, state⟩
  cases Except.ok.inj (there.symm.trans found)
  simp [InPlan, state]

theorem stagedFor_outside {execution : DeepSeekPipelineExecution} {id : ℕ}
    (live : plane.execution = some execution)
    (outside : id ∉ execution.requestIdentities.map DeepSeekRequestIdentity.requestId) :
    plane.stagedFor (id, generation) = none := by
  unfold stagedFor
  rw [live]
  cases plane.tentativeAccepted with
  | none => rfl
  | some =>
    rw [map_eq_none_iff, find?_eq_none]
    intro pair member same
    have holds := of_decide_eq_true same
    apply outside
    rw [← (Prod.mk.inj holds.1).1]
    exact mem_map_of_mem (of_mem_zip member).1

section

variable (sound : plane.Sound)

include sound

/-- A request in a plan keeps its ledger until the plan is over. -/
theorem ledgers_inPlan (staged : plane.Staged) (effect : Effect plane action after) {id : ℕ}
    (found : after.shared.requests.find id generation = .ok request) (inPlan : request.InPlan) :
    after.ledgers (id, generation) = plane.ledgers (id, generation) := by
  have there := (find_ok_iff.mp found).1
  cases effect with
  | retired =>
    apply Function.update_of_ne
    rintro ⟨⟩
    change (plane.shared.requests.set id none).requests id = _ at there
    simp [set_requests_self] at there
  | opened admitted | sampled admitted =>
    apply Function.update_of_ne
    rintro ⟨⟩
    exact not_inPlan_of_admitted admitted found inPlan
  | @completed rank execution lease requests running held state members
      owned present holds rewritten =>
    refine (ledgers_completed _ sound.stored staged running members rewritten).trans ?_
    rw [stagedFor_outside running]
    intro member
    rcases mem_map.mp member with ⟨identity, inside, rfl⟩
    rcases members identity inside with ⟨earlier, here, -⟩
    have before := (find_ok_iff.mp here).1
    rw [rewritten.members identity inside earlier before] at there
    cases there
    exact drained_not_inPlan _ earlier inPlan
  | _ => rfl

/-- A request in a plan was in it before, with the same ledger. -/
theorem keptInPlan_of_execute (staged : plane.Staged)
    (live : plane.execution.isSome = true) {id : ℕ}
    (found : (plane.execute action).1.shared.requests.find id generation = .ok request)
    (inPlan : request.InPlan) :
    (∃ earlier, plane.shared.requests.find id generation = .ok earlier ∧ earlier.InPlan) ∧
      (plane.execute action).1.ledgers (id, generation) = plane.ledgers (id, generation) := by
  have both : FromPlan plane.shared.requests (plane.execute action).1.shared.requests ∧
      (plane.execute action).1.ledgers (id, generation) = plane.ledgers (id, generation) := by
    rcases execute_effect sound.stored action with effect | ⟨-, sweep⟩
    · exact ⟨fromPlan_of_effect effect live, ledgers_inPlan sound staged effect found inPlan⟩
    refine ⟨?_, congrFun (sweep_ledgers sweep) _⟩
    generalize (plane.execute action).1 = after at sweep
    cases sweep with
    | swept sweep | failed running sweep => exact sweep.fromPlan
  rcases find_ok_iff.mp found with ⟨there, generation_⟩
  rcases both.1 id request there inPlan with ⟨earlier, here, inside, same⟩
  exact ⟨⟨earlier, find_ok_iff.mpr ⟨here, same.trans generation_⟩, inside⟩, both.2⟩

/-! ## The execution over a call -/

/-- The calls that may leave the control plane without an execution. -/
def Action.ends : Action → Bool
  | .cancel _ _ => true
  | .stageReject _ _ => true
  | .stageComplete _ => true
  | _ => false

def Action.prepares : Action → Bool
  | .preparePlan _ _ => true
  | _ => false

/-- Only the preparation of a plan brings a new execution. -/
theorem execution_of_execute (other : action.prepares = false)
    (live : (plane.execute action).1.execution = some later) :
    ∃ execution, plane.execution = some execution ∧
      later.requestIdentities = execution.requestIdentities := by
  rcases execute_effect sound.stored action with effect | ⟨-, sweep⟩
  · generalize (plane.execute action).1 = after at *
    cases effect with
    | undone | prepared => cases other
    | readied running | committed running | counted running =>
      cases live
      exact ⟨_, running, rfl⟩
    | rejected | withdrawn | completed => cases live
    | _ => exact ⟨later, live, rfl⟩
  generalize (plane.execute action).1 = after at *
  cases sweep with
  | swept => exact ⟨later, live, rfl⟩
  | failed running =>
    cases live
    exact ⟨_, running, rfl⟩

theorem live_of_execute (action : Action) (stays : action.ends = false)
    (live : plane.execution.isSome = true) : (plane.execute action).1.execution.isSome = true := by
  rcases execute_effect sound.stored action with effect | ⟨-, sweep⟩
  · generalize (plane.execute action).1 = after at *
    cases effect with
    | rejected | withdrawn | counted | completed => cases stays
    | prepared | readied | committed => rfl
    | _ => exact live
  generalize (plane.execute action).1 = after at *
  cases sweep with
  | swept => exact live
  | failed => rfl

/-- A cancellation that is refused leaves everything as it was. -/
theorem cancel_refused {id : ℕ} (refused : (plane.cancel id generation).2 = .error status) :
    (plane.cancel id generation).1 = plane := by
  rcases cancel_cases sound.stored id generation with
    ⟨_, same⟩ | ⟨_, _, _, _, _, moved⟩ | ⟨_, withdrawn, -⟩
  · rw [same]
  · simp [moved] at refused
  · simp [withdrawn] at refused

end

theorem preparePlan_busy (live : plane.execution.isSome = true) :
    plane.preparePlan descriptor identities = (plane, .error (.resourceExhausted
      "DeepSeek control plane already owns an active execution")) := by
  unfold preparePlan
  rw [if_pos (.inl live)]

theorem preparePlan_ok (done : (plane.preparePlan descriptor identities).2 = .ok ()) :
    ∃ execution, (plane.preparePlan descriptor identities).1.execution = some execution ∧
      execution.requestIdentities = identities ∧
      (plane.preparePlan descriptor identities).1.ledgers = plane.ledgers := by
  revert done
  unfold preparePlan
  split
  · nofun
  split
  · nofun
  split
  · nofun
  rcases create_cases plane.shared descriptor identities with
    ⟨_, _, failed, -⟩ | ⟨_, execution, built, created⟩
  · rw [failed]
    dsimp only
    split
    · nofun
    · nofun
  rw [built]
  exact fun _ => ⟨execution, rfl, created.requestIdentities, rfl⟩

/-- A batch that is refused for its early end. -/
theorem validateBatches_early (early : plane.validateBatches pairs = .error endsEarly) :
    ∃ (index : ℕ) (identity : DeepSeekRequestIdentity)
      (batch : DeepSeekAcceptedTokenBatch) (ledger : DeepSeekLedger),
      pairs[index]? = some (identity, batch) ∧ plane.ledgers identity.key = some ledger ∧
        DeepSeekLedger.stops batch ∧
        ledger.tokenIds.length + batch.tokenIds.length < ledger.minimumCompletionTokens := by
  induction pairs with
  | nil => cases early
  | cons pair _ hypothesis =>
    rw [validateBatches] at early
    split at early
    · simp [endsEarly, Status.invalidArgument, Status.failedPrecondition] at early
    rename_i ledger present
    split at early
    case h_1 refused =>
      cases early
      exact ⟨0, pair.1, pair.2, ledger, rfl, present, validateBatch_early refused⟩
    rcases hypothesis early with ⟨index, identity, batch, other, there, rest_⟩
    exact ⟨index + 1, identity, batch, other, there, rest_⟩

theorem stageAcceptedTokens_early {planSequence : ℕ}
    (early : (plane.stageAcceptedTokens planSequence batches).2 = .error endsEarly) :
    ∃ execution, plane.execution = some execution ∧ execution.state = .committed ∧
      plane.validateBatches (execution.requestIdentities.zip batches) = .error endsEarly := by
  unfold stageAcceptedTokens at early
  split at early
  · simp [endsEarly, Status.invalidArgument, Status.failedPrecondition] at early
  rename_i execution live
  split at early
  · simp [endsEarly, Status.invalidArgument, Status.failedPrecondition] at early
  rename_i matching
  rw [not_or, not_not] at matching
  split at early
  case h_1 refused =>
    cases early
    exact ⟨execution, live, matching.1, refused⟩
  · cases early

end DeepSeekControlPlane

namespace DeepSeekEngine

open DeepSeekControlPlane
open DeepSeekControlPlane (keptInPlan_of_execute execution_of_execute live_of_execute)

variable {engine : DeepSeekEngine}

/-! ## What the engine keeps for a bound plan -/

/--
A member that has not come close to its minimum was given the tokens to
suppress.
-/
def Suppresses (engine : DeepSeekEngine) (execution : DeepSeekPipelineExecution) : Prop :=
  ∀ (index : ℕ) (identity : DeepSeekRequestIdentity)
    (request : DeepSeekRequestLifecycle) (ledger : DeepSeekLedger),
      execution.requestIdentities[index]? = some identity →
      engine.controlPlane.shared.requests.find identity.requestId
          identity.requestGeneration = .ok request →
      request.InPlan →
      engine.controlPlane.ledgers identity.key = some ledger →
      ledger.tokenIds.length + 1 < ledger.minimumCompletionTokens →
      ∃ (config : DeepSeekRequestSamplingConfig) (sampling : DeepSeekPreparedSamplingInput),
        engine.boundSequenceSamplingConfigs[index]? = some (some config) ∧
          engine.boundSequenceSampling[index]? = some (some sampling) ∧
          sampling.suppressedTokens = config.suppressed

/-- The bound plan suppresses early ends of its requests. -/
structure Tracked (engine : DeepSeekEngine) : Prop where
  sound : engine.controlPlane.Sound
  staged : engine.controlPlane.Staged
  bound : engine.boundPlan.isSome = true → engine.publishBoundSampledToken = true →
    ∀ execution, engine.controlPlane.execution = some execution → engine.Suppresses execution

/-- An engine that is ready has an execution for its bound plan. -/
structure Captured (engine : DeepSeekEngine) : Prop extends Tracked engine where
  live : engine.state = .ready → engine.boundPlan.isSome = true →
    engine.controlPlane.execution.isSome = true

theorem Tracked.control (tracked : engine.Tracked)
    (action : DeepSeekControlPlane.Action) (other : action.prepares = false)
    (done : engine.controlPlane.execute action = (plane, outcome)) :
    Tracked { engine with controlPlane := plane } := by
  have reached : (engine.controlPlane.execute action).1 = plane := by rw [done]
  subst reached
  refine ⟨tracked.sound.execute action, ?_, ?_⟩
  · rcases execute_effect tracked.sound.stored action with effect | ⟨-, sweep⟩
    · exact staged_after tracked.sound tracked.staged effect
    · exact staged_sweep tracked.staged sweep
  · intro bound publish later live
    rcases execution_of_execute tracked.sound other live with ⟨execution, running, same⟩
    intro index identity request ledger there found inPlan present short
    rw [same] at there
    rcases keptInPlan_of_execute tracked.sound tracked.staged
        (isSome_iff_exists.mpr ⟨execution, running⟩) found
        inPlan with ⟨⟨earlier, before, inside⟩, kept⟩
    exact tracked.bound bound publish execution running index identity
      earlier ledger there before inside (kept.symm.trans present) short

theorem Captured.control (captured : engine.Captured)
    (action : DeepSeekControlPlane.Action) (other : action.prepares = false)
    (stays : action.ends = false) (done : engine.controlPlane.execute action = (plane, outcome)) :
    Captured { engine with controlPlane := plane } := by
  refine ⟨captured.toTracked.control action other done, ?_⟩
  intro ready bound
  have live := live_of_execute captured.sound action stays (captured.live ready bound)
  rw [done] at live
  exact live

theorem Tracked.unbound (tracked : engine.Tracked) (state : DeepSeekEngineState) :
    Captured { engine.unbind with state } :=
  ⟨⟨tracked.sound, tracked.staged, nofun⟩, nofun⟩

/-- A failure of the engine does not need a live execution. -/
theorem Tracked.fail (tracked : engine.Tracked) (abort : Result Unit)
    (cause : Status) : (engine.fail abort cause).1.Captured := by
  unfold DeepSeekEngine.fail
  split
  case isTrue stopped => exact ⟨tracked, fun ready => absurd ready stopped⟩
  have failed := tracked.control .failAll rfl rfl
  cases abort with
  | error => exact ⟨⟨failed.sound, failed.staged, failed.bound⟩, nofun⟩
  | ok => exact failed.unbound .failed

section

variable (captured : engine.Captured)

include captured

variable {next : DeepSeekEngine × Result Unit}

theorem Captured.afterDevice (answer : DeepSeekDeviceAnswer) (abort : Result Unit)
    (later : next.1.Captured) : (engine.afterDevice answer abort next).1.Captured := by
  cases answer with
  | done => exact later
  | refused => exact captured
  | lost status => exact captured.toTracked.fail abort status

theorem Captured.admitRequest (answer : DeepSeekDeviceAnswer) (abort : Result Unit)
    (later : engine.state = .ready → next.1.Captured) :
    (engine.admitRequest answer abort next).1.Captured := by
  unfold DeepSeekEngine.admitRequest
  split
  · exact captured
  case isFalse ready => exact captured.afterDevice answer abort (later (not_not.mp ready))

/-! ## Requests -/

theorem Captured.submitRequest (id generation : ℕ)
    (admission : DeepSeekDeviceAnswer) (abort : Result Unit) :
    (engine.submitRequest id generation admission abort).1.Captured := by
  apply captured.admitRequest
  intro _
  split_ifs
  · exact captured
  · exact captured
  · exact captured
  split
  case h_1 done => exact captured.control (.submit id generation) rfl rfl done
  case h_2 done =>
    have next := captured.control (.submit id generation) rfl rfl done
    exact ⟨⟨next.sound, next.staged, next.bound⟩, next.live⟩

theorem Captured.cancelRequest (id generation : ℕ) (inputs abort : Result Unit) :
    (engine.cancelRequest id generation inputs abort).1.Captured := by
  unfold DeepSeekEngine.cancelRequest
  split
  · exact captured.toTracked.fail abort _
  split
  case h_1 plane status done =>
    have refused : (engine.controlPlane.cancel id generation).2 = .error status := by rw [done]
    have same := cancel_refused captured.sound refused
    rw [done] at same
    rw [show plane = engine.controlPlane from same]
    exact captured
  rename_i done
  have next := captured.toTracked.control (.cancel id generation) rfl done
  split
  · cases abort with
    | error status => exact next.fail _ status
    | ok => exact next.unbound _
  rename_i still
  refine ⟨next, fun _ bound => ?_⟩
  by_contra idle
  exact still ⟨idle, bound⟩

theorem Captured.retireRequest (id generation : ℕ) :
    (engine.retireRequest id generation).1.Captured := by
  unfold DeepSeekEngine.retireRequest
  split
  · exact captured
  split
  · exact captured
  split
  case h_1 done => exact captured.control (.retire id generation) rfl rfl done
  case h_2 done =>
    have next := captured.control (.retire id generation) rfl rfl done
    exact ⟨⟨next.sound, next.staged, next.bound⟩, next.live⟩

/-! ## Plans -/

theorem Captured.commitPipeline (commit abort : Result Unit) :
    (engine.commitPipeline commit abort).1.Captured := by
  unfold DeepSeekEngine.commitPipeline
  split
  · exact captured
  split
  · exact captured.toTracked.fail abort _
  split
  case h_1 status done =>
    exact (captured.control .commitPlan rfl rfl done).toTracked.fail abort status
  case h_2 done => exact captured.control .commitPlan rfl rfl done

theorem Captured.completeBound (complete abort : Result Unit) :
    (engine.completeBound complete abort).1.Captured := by
  unfold DeepSeekEngine.completeBound
  split
  · exact captured.toTracked.fail abort _
  split
  · exact captured.toTracked.fail abort _
  split
  case h_1 status done =>
    exact (captured.toTracked.control (.stageComplete 0) rfl done).fail abort status
  case h_2 done => exact (captured.toTracked.control (.stageComplete 0) rfl done).unbound _

theorem Captured.advanceBoundPipeline (answer : AdvanceAnswer) (abort : Result Unit) :
    (engine.advanceBoundPipeline answer abort).1.Captured := by
  unfold DeepSeekEngine.advanceBoundPipeline
  split
  · exact captured
  · exact captured
  · exact captured.toTracked.fail abort _
  rename_i complete _
  split
  · split
    · exact captured.toTracked.fail abort _
    split
    case h_1 status done =>
      exact (captured.control (.stageAcceptedTokens _ _) rfl rfl done).toTracked.fail abort status
    rename_i done
    have next := captured.control (.stageAcceptedTokens _ _) rfl rfl done
    apply Captured.completeBound
    exact ⟨⟨next.sound, next.staged, next.bound⟩, next.live⟩
  · exact captured.completeBound complete abort

end

/-! ## Preparing a plan -/

/--
Every request of a plan that publishes tokens has a sampling configuration if
it is more than one token below its minimum.
-/
def SamplingConfigured (engine : DeepSeekEngine)
    (identities : List DeepSeekRequestIdentity) : Prop :=
  ∀ identity ∈ identities, ∀ ledger, engine.controlPlane.ledgers identity.key = some ledger →
    ledger.tokenIds.length + 1 < ledger.minimumCompletionTokens →
    ledger.sampling.isSome = true

theorem samplingInput_ok (present : engine.controlPlane.ledgers identity.key = some ledger)
    (short : ledger.tokenIds.length + 1 < ledger.minimumCompletionTokens)
    (configured : ledger.sampling.isSome = true)
    (made : engine.samplingInput identity = .ok input) :
    ∃ config sampling, input = some (config, sampling) ∧
      sampling.suppressedTokens = config.suppressed := by
  rcases isSome_iff_exists.mp configured with ⟨config, set⟩
  have found : engine.controlPlane.samplingConfig identity.requestId
      identity.requestGeneration = .ok config := by
    unfold samplingConfig
    change engine.controlPlane.ledgers
      (identity.requestId, identity.requestGeneration) = _ at present
    rw [present, bind_some, set]
  have snapshot : engine.acceptedTokenSnapshot identity.requestId
      identity.requestGeneration = .ok ledger.snapshot := by
    unfold DeepSeekEngine.acceptedTokenSnapshot DeepSeekControlPlane.acceptedTokenSnapshot
    change engine.controlPlane.ledgers
      (identity.requestId, identity.requestGeneration) = _ at present
    rw [present]
  unfold DeepSeekEngine.samplingInput at made
  rw [found, snapshot] at made
  cases made
  refine ⟨config, _, rfl, if_pos ?_⟩
  exact Nat.lt_of_succ_lt short

theorem samplingInputs_ok (made : engine.samplingInputs true identities = .ok inputs) {index : ℕ}
    (there : identities[index]? = some identity) :
    ∃ input, inputs[index]? = some input ∧ engine.samplingInput identity = .ok input := by
  induction identities generalizing inputs index with
  | nil => simp at there
  | cons _ _ hypothesis =>
    rw [samplingInputs] at made
    split at made
    · cases made
    split at made
    · cases made
    rename_i input one
    split at made
    · cases made
    rename_i more
    cases made
    cases index with
    | zero =>
      cases there
      exact ⟨input, rfl, one⟩
    | succ => exact hypothesis more there

/-- Before anything is bound, the engine may do with a plan what it wants. -/
theorem captured_unbound (sound : engine.controlPlane.Sound)
    (staged : engine.controlPlane.Staged) (unbound : engine.boundPlan = none) :
    engine.Captured := by
  refine ⟨⟨sound, staged, fun bound => ?_⟩, fun _ bound => ?_⟩
  · rw [unbound] at bound
    cases bound
  · rw [unbound] at bound
    cases bound

theorem Captured.rollback (captured : engine.Captured)
    (unbound : engine.boundPlan = none) (abort : Result Unit) (cause : Status) :
    (engine.rollback abort cause).1.Captured := by
  have next := captured.toTracked.control (.stageReject 0 (.error cause)) rfl rfl
  unfold DeepSeekEngine.rollback
  dsimp only
  split
  · exact next.fail abort _
  · exact captured_unbound next.sound next.staged unbound

/-- The engine with the plan bound that was just prepared. -/
def binding (engine : DeepSeekEngine) (descriptor : DeepSeekPipelinePlanDescriptor) (publish : Bool)
    (inputs : List (Option (DeepSeekRequestSamplingConfig ×
            DeepSeekPreparedSamplingInput))) : DeepSeekEngine :=
  { engine with
    boundPlan := some descriptor
    publishBoundSampledToken := publish
    boundSampledTokenStaged := false
    boundSequenceSamplingConfigs := inputs.map fun input => input.map Prod.fst
    boundSequenceSampling := inputs.map fun input => input.map Prod.snd }

section Preparing

variable (captured : engine.Captured)

include captured

/-- The sampling inputs of a plan that has just been prepared. -/
theorem tracked_prepared (configured : publish = true → engine.SamplingConfigured identities)
    (made : engine.samplingInputs publish identities = .ok inputs)
    (prepared : engine.controlPlane.preparePlan descriptor identities = (plane, .ok ())) :
    Tracked (binding { engine with controlPlane := plane } descriptor publish inputs) ∧
      plane.execution.isSome = true := by
  have effect := engine.controlPlane.preparePlan_effect descriptor identities
  rcases preparePlan_ok (congrArg Prod.snd prepared) with ⟨other, running, same, kept⟩
  rw [prepared] at effect running kept
  refine ⟨⟨captured.sound.effect effect, staged_after captured.sound captured.staged
      effect, ?_⟩, isSome_iff_exists.mpr ⟨other, running⟩⟩
  rintro - publishes _ live
  cases some.inj (running.symm.trans live)
  intro index identity request ledger there found inPlan present short
  cases publishes
  rw [same] at there
  have before : engine.controlPlane.ledgers identity.key = some ledger :=
    (congrFun kept _).symm.trans present
  rcases samplingInputs_ok made there with ⟨_, here, one⟩
  rcases samplingInput_ok before short
      (configured rfl identity (mem_of_getElem? there) ledger before
        short) one with ⟨config, sampling, rfl, suppressed⟩
  refine ⟨config, sampling, ?_, ?_, suppressed⟩
  · simp [binding, here]
  · simp [binding, here]

theorem Captured.bindRuntime (unbound : engine.boundPlan = none)
    (live : engine.controlPlane.execution.isSome = true)
    (tracked : (engine.binding descriptor publish inputs).Tracked) (answers : PrepareAnswers) :
    (engine.bindRuntime descriptor publish inputs answers).1.Captured := by
  unfold DeepSeekEngine.bindRuntime
  split
  · exact captured.rollback unbound _ _
  split
  case h_1 done => exact (captured.control (.stageReady 0) rfl rfl done).rollback unbound _ _
  case h_2 done =>
    refine ⟨tracked.control (.stageReady 0) rfl done, fun _ _ => ?_⟩
    have still := live_of_execute captured.sound (.stageReady 0) rfl live
    rw [show engine.controlPlane.execute (.stageReady 0) = _ from done] at still
    exact still

theorem Captured.prepareDeferredNativePipeline (ready : engine.state = .ready)
    (configured : publish = true → engine.SamplingConfigured identities)
    (made : engine.samplingInputs publish identities = .ok inputs)
    (descriptor : DeepSeekPipelinePlanDescriptor) (answers : PrepareAnswers) :
    (engine.prepareDeferredNativePipeline descriptor identities publish
      inputs answers).1.Captured := by
  unfold DeepSeekEngine.prepareDeferredNativePipeline
  split
  · exact captured
  split
  · exact captured
  apply captured.afterDevice
  by_cases bound : engine.boundPlan.isSome = true
  · -- a bound plan has an execution, so that none can be prepared
    rw [preparePlan_busy (captured.live ready bound)]
    exact captured
  have unbound := not_isSome_iff_eq_none.mp bound
  have after : ∀ {plane outcome}, engine.controlPlane.preparePlan descriptor identities =
        (plane, outcome) →
      Captured { engine with controlPlane := plane } := by
    intro plane outcome done
    have effect := engine.controlPlane.preparePlan_effect descriptor identities
    rw [done] at effect
    exact captured_unbound (captured.sound.effect effect)
      (staged_after captured.sound captured.staged effect) unbound
  split
  case h_1 done => exact after done
  case h_2 done =>
    have tracked := tracked_prepared captured configured made done
    exact (after done).bindRuntime unbound tracked.2 tracked.1 answers

theorem Captured.prepareProductionPipeline
    (configured : publish = true → engine.SamplingConfigured identities)
    (descriptor : DeepSeekPipelinePlanDescriptor)
    (seeds : List DeepSeekProductionRankPlanSeed) (answers : PrepareAnswers) :
    (engine.prepareProductionPipeline descriptor identities seeds publish answers).1.Captured := by
  unfold DeepSeekEngine.prepareProductionPipeline
  split
  · exact captured
  split
  · exact captured
  apply captured.admitRequest
  intro ready
  apply captured.afterDevice
  split
  · exact captured
  case h_2 made =>
    split
    · exact captured
    apply captured.afterDevice
    exact captured.prepareDeferredNativePipeline ready configured made descriptor answers

end Preparing

/-! ## Closing -/

theorem Captured.failAll (captured : engine.Captured) (abort : Result Unit) :
    (engine.failAll abort).Captured := by
  have failed := captured.toTracked.control .failAll rfl rfl
  unfold DeepSeekEngine.failAll
  cases abort with
  | error => exact ⟨⟨failed.sound, failed.staged, failed.bound⟩, nofun⟩
  | ok => exact failed.unbound _

theorem Captured.beginClose (captured : engine.Captured) (abort : Result Unit) :
    (engine.beginClose abort).1.Captured := by
  unfold DeepSeekEngine.beginClose
  split
  · exact captured
  have swept : Tracked (if engine.state = .ready then
        { engine with controlPlane := engine.controlPlane.cancelAll }
      else engine) := by
    split
    · exact captured.toTracked.control .cancelAll rfl rfl
    · exact captured.toTracked
  generalize (if engine.state = .ready then
      { engine with controlPlane := engine.controlPlane.cancelAll }
    else engine) = sweep at swept
  have failed := swept.control .failAll rfl rfl
  have down : Captured
      { sweep with state := .failed, controlPlane := sweep.controlPlane.failAll } :=
    ⟨⟨failed.sound, failed.staged, failed.bound⟩, nofun⟩
  split
  · exact down
  cases abort with
  | error => exact down
  | ok => exact swept.unbound _

/-! ## Runs -/

abbrev EngineHistory := List (Entry DeepSeekEngine Action (Result Unit))

/-- The plans that publish tokens may be prepared with their requests. -/
def Configured (_ : EngineHistory) (engine : DeepSeekEngine) : Action → Prop
  | .prepareProductionPipeline _ identities _ true _ => engine.SamplingConfigured identities
  | _ => True

theorem Captured.execute (captured : engine.Captured)
    (configured : Configured history engine action) : (engine.execute action).1.Captured := by
  cases action with
  | submitRequest => exact captured.submitRequest _ _ _ _
  | cancelRequest => exact captured.cancelRequest _ _ _ _
  | finishRequest id generation => exact captured.control (.finishRequest id generation) rfl rfl rfl
  | retireRequest => exact captured.retireRequest _ _
  | configureLedger id generation prompt maximum minimum =>
    exact captured.control (.configureLedger id generation prompt maximum minimum) rfl rfl rfl
  | configureSampling id generation config =>
    exact captured.control (.configureSampling id generation config) rfl rfl rfl
  | prepareProductionPipeline =>
    apply captured.prepareProductionPipeline
    rintro rfl
    exact configured
  | commitPipeline => exact captured.commitPipeline _ _
  | advanceBoundPipeline => exact captured.advanceBoundPipeline _ _
  | acknowledgeOutputPlan planSequence =>
    exact captured.control (.acknowledgeOutputPlan planSequence) rfl rfl rfl
  | stageAcceptedTokens planSequence batches =>
    exact captured.control (.stageAcceptedTokens planSequence batches) rfl rfl rfl
  | failAll => exact captured.failAll _
  | beginClose => exact captured.beginClose _

theorem captured_of_run {engineEpoch : ℕ} {state : DeepSeekEngine}
    (created : create engineEpoch capacity attentionCapacity = .ok initial)
    (run : Run execute Configured initial history state) : state.Captured := by
  have start : initial.Captured := by
    unfold create at created
    split at created
    · cases created
    rename_i built
    split at created
    · cases created
    cases created
    apply captured_unbound
    · exact sound_of_create built
    · rcases create_ok built with ⟨_, -, rfl⟩
      nofun
    · rfl
  apply run.invariant (fun _ state => state.Captured) start
  intro history state action _ captured configured
  exact captured.execute configured

/-! ## Staging what was sampled -/

/-- The sampler kept to the tokens that it may return. -/
def NotSuppressed (engine : DeepSeekEngine) (samples : ℕ → DeepSeekSamplingResult) : Prop :=
  ∀ (index : ℕ) (sampling : DeepSeekPreparedSamplingInput),
    engine.boundSequenceSampling[index]? = some (some sampling) →
    (samples index).tokenId ∉ sampling.suppressedTokens

/-- The end of a request is one of the tokens that are suppressed. -/
theorem mem_suppressed_of_stops {sampling : Option DeepSeekPreparedSamplingInput}
    (stops : DeepSeekLedger.stops (sampledBatch (some config) sampling sampled)) :
    sampled.tokenId ∈ config.suppressed := by
  have ended : sampled.tokenId = 1 ∨ sampled.tokenId ∈ config.stopTokens := by
    by_contra other
    rw [not_or] at other
    have reason : (sampledBatch (some config) sampling sampled).finishReason = .none := by
      apply if_neg
      rintro (one | stop)
      · exact other.1 one
      · simp only [any_some, contains_iff_mem] at stop
        exact other.2 stop
    unfold DeepSeekLedger.stops at stops
    rw [reason] at stops
    rcases stops with stops | stops
    · cases stops
    · cases stops
  unfold DeepSeekRequestSamplingConfig.suppressed
  split
  case isTrue listed =>
    rcases ended with one | stop
    · rw [one]
      exact listed
    · exact stop
  rcases ended with one | stop
  · rw [one]
    exact mem_append_right _ (mem_singleton_self 1)
  · exact mem_append_left _ stop

theorem Captured.staging_not_early (captured : engine.Captured)
    (bound : engine.boundPlan = some descriptor) (publish : engine.publishBoundSampledToken = true)
    (sampler : engine.NotSuppressed samples) :
    (engine.controlPlane.stageAcceptedTokens descriptor.planSequence
        (engine.sampledBatches descriptor samples)).2 ≠
      .error endsEarly := by
  intro early
  rcases stageAcceptedTokens_early early with ⟨execution, live, committed, refused⟩
  rcases validateBatches_early refused with
    ⟨index, identity, batch, ledger, there, present, stops, short⟩
  rw [getElem?_zip_eq_some] at there
  rcases there with ⟨member, sampled⟩
  have built : batch = sampledBatch (engine.boundSequenceSamplingConfigs.getD index none)
      (engine.boundSequenceSampling.getD index none)
      (samples index) := by
    unfold DeepSeekEngine.sampledBatches at sampled
    rw [getElem?_map, map_eq_some_iff] at sampled
    rcases sampled with ⟨_, same, rfl⟩
    rcases List.getElem_of_getElem? same with ⟨_, value⟩
    rw [List.getElem_range] at value
    rw [value]
  subst built
  rcases captured.sound.members execution live committed identity
      (mem_of_getElem? member) with ⟨request, found, state, -⟩
  rcases captured.bound (by rw [bound]; rfl) publish execution live index
      identity request ledger member found (.inr state) present short with
    ⟨_, sampling, first, second, suppressed⟩
  have token := sampler index sampling second
  rw [suppressed] at token
  apply token
  rw [getD_eq_getElem?_getD, first] at stops
  exact mem_suppressed_of_stops stops

end DeepSeekEngine

end Pih
