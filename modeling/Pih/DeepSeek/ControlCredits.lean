import Pih.DeepSeek.ControlRuns
import Pih.Scheduler.CreditAccounts
import Mathlib.Data.List.Nodup

/-!
# Credits and ownership of the control plane

As long as no stage fails, the credits of the control plane are free, held by
its execution or pending with the requests that own them.  A plan that is
given up before it is committed leaves the stages full and its requests
admitted.
-/

namespace Pih

open DeepSeekPipelineExecution DeepSeekRequestLifecycle DeepSeekRequestRegistry List

namespace DeepSeekControlPlane

open DeepSeekPipelineExecution (Created MembersLive MembersPrepared Rewritten)

variable {plane after : DeepSeekControlPlane} {action : Action}
    {stages : List DeepSeekPipelineStagePool}

/-! ## The account of the control plane -/

/-- The state of the credit that the execution holds. -/
def heldState (plane : DeepSeekControlPlane) : OutputBurstState :=
  match plane.execution with
  | none => .committed
  | some execution => if execution.coordinator.isPreparing then .prepared else .committed

def parkedEntry (lease : Option OutputBurstLease) : Option (OutputBurstLease × OutputBurstState) :=
  lease.map fun lease => (lease, .transferred)

/-- The leases of the control plane with the states of their credits. -/
def heldBursts (plane : DeepSeekControlPlane) : List (OutputBurstLease × OutputBurstState) :=
  (plane.currentOutputBurst.map fun lease => (lease, plane.heldState)).toList ++
    plane.pendingOutputBursts.filterMap parkedEntry

theorem length_parked (bursts : List (Option OutputBurstLease)) :
    (bursts.filterMap parkedEntry).length = bursts.countP Option.isSome := by
  induction bursts with
  | nil => rfl
  | cons burst _ hypothesis =>
    cases burst with
    | none =>
      rw [filterMap_cons_none rfl, hypothesis]
      rfl
    | some lease =>
      have entry : parkedEntry (some lease) = some (lease, .transferred) := rfl
      rw [filterMap_cons_some entry, length_cons, hypothesis, countP_cons_of_pos rfl]

/-- Credits, stages and requests agree with the execution. -/
structure Balanced (stages : List DeepSeekPipelineStagePool)
    (plane : DeepSeekControlPlane) : Prop where
  sound : plane.Sound
  account : plane.outputCredits.Account kBoundaryCredits plane.heldBursts
  burst : plane.currentOutputBurst.isSome = plane.execution.isSome
  owners : ∀ execution, plane.execution = some execution →
      plane.currentOutputOwners = execution.requestIdentities
  healthy : ∀ execution, plane.execution = some execution → execution.state ≠ .poisoned
  world : ∀ execution, plane.execution = some execution → 0 < execution.coordinator.worldSize
  prepared : ∀ execution, plane.execution = some execution →
      execution.coordinator.isPreparing = true → execution.MembersPrepared plane.shared.requests
  idle : plane.execution = none → plane.shared.resources.stages = stages ∧
        plane.shared.resources.transactionLive = false
  busy : plane.execution.isSome = true → plane.shared.resources.stages.map
          DeepSeekPipelineStagePool.restore = stages ∧
        plane.shared.resources.transactionLive = true
  slots : plane.pendingOutputBursts.length = kBoundaryCredits
  parallel : plane.pendingOutputOwners.map Option.isSome =
      plane.pendingOutputBursts.map Option.isSome
  named : ∀ owners ∈ plane.pendingOutputOwners, ∀ identity ∈ owners.getD [], ∃ request,
        plane.shared.requests.find identity.requestId identity.requestGeneration = .ok request

namespace Balanced

variable (balanced : plane.Balanced stages)

include balanced

/-- The credit of a live execution is in the state of its phase. -/
theorem holds (held : plane.currentOutputBurst = some lease) :
    plane.outputCredits.Holds lease plane.heldState := by
  apply balanced.account.holds (lease, plane.heldState)
  unfold heldBursts
  rw [held]
  exact mem_append_left _ (mem_singleton_self _)

section

variable {execution : DeepSeekPipelineExecution} (live : plane.execution = some execution)

include live

theorem holds_prepared (held : plane.currentOutputBurst = some lease)
    (preparing : execution.coordinator.isPreparing = true) :
    plane.outputCredits.Holds lease .prepared := by
  have holds := balanced.holds held
  unfold heldState at holds
  rw [live] at holds
  dsimp only at holds
  rw [if_pos preparing] at holds
  exact holds

theorem some_lease : ∃ lease, plane.currentOutputBurst = some lease := by
  rw [← Option.isSome_iff_exists, balanced.burst, live, Option.isSome_some]

/-- Giving up the execution fills the stages again. -/
theorem restored : plane.shared.resources.restoreAll.stages = stages ∧
      plane.shared.resources.restoreAll.transactionLive = false := by
  rcases balanced.busy (live ▸ rfl) with ⟨full, running⟩
  rw [DeepSeekPipelineResourceSet.restoreAll_of_live running]
  exact ⟨full, rfl⟩

end

/-! ## A pending slot -/

theorem some_slot (held : plane.currentOutputBurst = some lease) :
    ∃ index, plane.pendingSlot = some index ∧ plane.pendingOutputBursts[index]? = some none ∧
      plane.pendingOutputOwners[index]? = some none := by
  have fewer : plane.pendingOutputBursts.countP Option.isSome <
      plane.pendingOutputBursts.length := by
    have conserved := balanced.account.conserved
    unfold heldBursts at conserved
    rw [held, length_append, length_parked] at conserved
    rw [balanced.slots]
    simp only [Option.map_some, Option.toList_some, length_singleton] at conserved
    omega
  rcases exists_not_of_countP_lt fewer with ⟨burst, member, empty⟩
  cases found : plane.pendingSlot with
  | none =>
    have full := findIdx?_eq_none_iff.mp found burst member
    rw [Option.isNone_eq_false_iff, empty] at full
    cases full
  | some index =>
    rcases findIdx?_eq_some_iff_getElem.mp found with ⟨inside, free, -⟩
    have burst : plane.pendingOutputBursts[index]? = some none := by
      rw [getElem?_eq_getElem inside]
      exact congrArg some (Option.isNone_iff_eq_none.mp free)
    refine ⟨index, rfl, burst, ?_⟩
    have same := congrArg (fun table : List Bool => table[index]?) balanced.parallel
    simp only [getElem?_map, burst, Option.map_some] at same
    cases owners : plane.pendingOutputOwners[index]? with
    | none =>
      rw [owners] at same
      cases same
    | some owner =>
      rw [owners] at same
      cases owner with
      | none => rfl
      | some => cases same

/-- The checks before a completion and before a failure. -/
theorem owned {execution : DeepSeekPipelineExecution} (live : plane.execution = some execution) :
    plane.checkOwnership execution = .ok () ∧ plane.checkFailedOwnership execution = .ok () := by
  rcases balanced.some_lease live with ⟨_, held⟩
  rcases balanced.some_slot held with ⟨_, slot, -, free⟩
  have owners := balanced.owners execution live
  have same : ((plane.currentOutputOwners.zip execution.requestIdentities).any fun pair =>
      decide (pair.1.key ≠ pair.2.key)) = false := by
    rw [owners, any_eq_false]
    intro pair member
    rw [zip_eq_zipWith, zipWith_self, mem_map] at member
    rcases member with ⟨_, -, rfl⟩
    simp
  constructor
  · unfold checkOwnership
    rw [slot, same, owners]
    simp [free]
  · unfold checkFailedOwnership
    rw [slot, same, owners]
    simp [free]

/-! ## Steps -/

section

variable (effect : Effect plane action after)

include effect

theorem account_after : after.outputCredits.Account kBoundaryCredits after.heldBursts := by
  have account := balanced.account
  cases effect with
  | undone _ acquired => exact account.undone acquired
  | @prepared _ _ _ _ _ execution _ unheld acquired created =>
    have next := account.acquired acquired
    have before : plane.heldBursts = plane.pendingOutputBursts.filterMap parkedEntry := by
      unfold heldBursts
      rw [unheld]
      rfl
    rw [before] at next
    have preparing : execution.coordinator.isPreparing = true := by
      have state : execution.coordinator.state = .preparing := created.state
      simp [DeepSeekPipelineCoordinator.isPreparing, state]
    unfold heldBursts heldState
    simp only [preparing]
    exact next
  | @readied _ execution coordinator live preparing still =>
    have same : heldBursts { plane with execution := some { execution with coordinator } } =
        plane.heldBursts := by
      unfold heldBursts heldState
      simp only [live, preparing, still]
    rw [same]
    exact account
  | @rejected rank reason execution lease requests live held preparing members holds rewritten
  | @withdrawn id generation execution lease requests request cancelled
      live held preparing members found change holds rewritten =>
    unfold heldBursts at account
    rw [held] at account
    exact account.dropped rfl
  | @committed _ _ _ _ held =>
    unfold heldBursts at account ⊢
    rw [held] at account ⊢
    exact account.moved (by decide)
  | @counted rank execution live =>
    have same : heldBursts { plane with execution := some (execution.counted rank) } =
        plane.heldBursts := by
      unfold heldBursts heldState
      rw [live]
      rfl
    rw [same]
    exact account
  | @completed rank execution lease requests live held state members owned
      present holds rewritten =>
    rcases balanced.some_slot held with ⟨index, slot, free, -⟩
    unfold heldBursts at account
    rw [held] at account
    have moved : (plane.outputCredits.assign lease .transferred).Account kBoundaryCredits
        ((lease, .transferred) :: _) :=
      account.moved (by decide)
    refine moved.perm ?_
    unfold parkBurst
    rw [slot]
    exact (perm_filterMap_set parkedEntry (some lease) free).symm
  | @acknowledged _ _ _ _ found =>
    have parked := perm_filterMap_set parkedEntry none found
    have front := account.perm ((List.Perm.append_left _ parked.symm).trans perm_middle)
    exact front.dropped rfl
  | _ => exact account

theorem prepared_after (execution : DeepSeekPipelineExecution)
    (live : after.execution = some execution)
    (preparing : execution.coordinator.isPreparing = true) :
    execution.MembersPrepared after.shared.requests := by
  cases effect with
  | @submitted _ _ free =>
    intro identity inside
    rcases balanced.prepared execution live preparing identity inside with ⟨request, found, state⟩
    refine ⟨request, ?_, state⟩
    refine (find_set_of_ne _ _ _ ?_).trans found
    rintro rfl
    have present := (find_ok_iff.mp found).1
    rw [free] at present
    cases present
  | @moved _ _ _ _ _ found _ apart =>
    intro identity inside
    rcases balanced.prepared execution live preparing identity
        inside with ⟨member, there, state, plan⟩
    rcases find_set_cases found there _ with stays | ⟨rfl, rfl, rfl⟩
    · exact ⟨member, stays, state, plan⟩
    rcases apart execution live preparing with admitted | outside
    · cases admitted.symm.trans state
    · cases outside.symm.trans (execution.containsRequest_of_mem inside)
  | @retired _ _ _ found drained =>
    intro identity inside
    rcases balanced.prepared execution live preparing identity
        inside with ⟨member, there, state, plan⟩
    rcases find_set_cases found there none with stays | ⟨rfl, rfl, rfl⟩
    · exact ⟨member, stays, state, plan⟩
    cases drained.symm.trans (balanced.sound.not_drained (find_ok_iff.mp found).1
      (by simp [terminal, state]))
  | @prepared _ _ _ _ _ _ _ _ _ created =>
    cases live
    intro identity inside
    rw [created.requestIdentities] at inside
    rcases created.admitted identity inside with ⟨request, found, -⟩
    refine ⟨_, created.rewritten.find inside found rfl, rfl, ?_⟩
    unfold DeepSeekPipelineExecution.planSequence
    rw [created.transaction]
    rfl
  | @readied _ before _ earlier ready _ transaction =>
    cases live
    have members := balanced.prepared before earlier ready
    intro identity inside
    rcases members identity inside with ⟨request, found, state, plan⟩
    refine ⟨request, found, state, ?_⟩
    refine Eq.trans ?_ plan
    unfold DeepSeekPipelineExecution.planSequence
    rw [transaction]
  | rejected | withdrawn | completed => cases live
  | committed =>
    cases live
    cases preparing
  | @counted _ _ _ state =>
    cases live
    exact absurd state (state_ne_of_preparing preparing (by decide))
  | _ => exact balanced.prepared execution live preparing

theorem idle_after (idle : after.execution = none) : after.shared.resources.stages = stages ∧
      after.shared.resources.transactionLive = false := by
  cases effect with
  | undone free _ untouched =>
    rcases balanced.idle free with ⟨full, stopped⟩
    exact ⟨untouched.stages.trans full, untouched.live.trans stopped⟩
  | prepared | readied | committed | counted => cases idle
  | rejected live | withdrawn live | completed live => exact balanced.restored live
  | _ => exact balanced.idle idle

theorem busy_after (live : after.execution.isSome = true) : after.shared.resources.stages.map
        DeepSeekPipelineStagePool.restore = stages ∧
      after.shared.resources.transactionLive = true := by
  cases effect with
  | undone idle =>
    rw [idle] at live
    cases live
  | prepared idle _ _ created =>
    exact ⟨created.reserved.restored.trans (balanced.idle idle).1, created.reserved.live⟩
  | readied before | committed before | counted before => exact balanced.busy (before ▸ rfl)
  | rejected | withdrawn | completed => cases live
  | _ => exact balanced.busy live

/-- What an effect keeps of the execution and of its owners. -/
theorem execution_after : after.currentOutputBurst.isSome = after.execution.isSome ∧
      ∀ execution, after.execution = some execution →
        after.currentOutputOwners = execution.requestIdentities ∧ execution.state ≠ .poisoned ∧
          0 < execution.coordinator.worldSize := by
  have kept : plane.currentOutputBurst.isSome = plane.execution.isSome ∧
      ∀ execution, plane.execution = some execution →
        plane.currentOutputOwners = execution.requestIdentities ∧ execution.state ≠ .poisoned ∧
          0 < execution.coordinator.worldSize :=
    ⟨balanced.burst, fun execution live =>
      ⟨balanced.owners execution live, balanced.healthy execution live,
        balanced.world execution live⟩⟩
  cases effect with
  | prepared _ _ _ created =>
    refine ⟨rfl, ?_⟩
    rintro execution ⟨⟩
    refine ⟨created.requestIdentities.symm, ?_, Nat.pos_of_ne_zero created.worldBound⟩
    rw [created.state]
    decide
  | readied live _ still _ worldSize =>
    have old := kept.2 _ live
    rcases balanced.some_lease live with ⟨lease, held⟩
    refine ⟨congrArg Option.isSome held, ?_⟩
    rintro execution ⟨⟩
    exact ⟨old.1, state_ne_of_preparing still (by decide), worldSize ▸ old.2.2⟩
  | rejected | withdrawn | completed => exact ⟨rfl, nofun⟩
  | committed live held =>
    have old := kept.2 _ live
    refine ⟨held ▸ rfl, ?_⟩
    rintro execution ⟨⟩
    exact ⟨old.1, nofun, old.2.2⟩
  | counted live =>
    have old := kept.2 _ live
    rcases balanced.some_lease live with ⟨_, held⟩
    refine ⟨congrArg Option.isSome held, ?_⟩
    rintro _ ⟨⟩
    exact old
  | _ => exact kept

/-- What an effect keeps of the two tables of pending bursts. -/
theorem pending_after : after.pendingOutputBursts.length = kBoundaryCredits ∧
      after.pendingOutputOwners.map Option.isSome =
        after.pendingOutputBursts.map Option.isSome := by
  cases effect with
  | completed =>
    refine ⟨length_set.trans balanced.slots, ?_⟩
    dsimp only [parkBurst]
    rw [map_set, map_set, balanced.parallel]
    rfl
  | acknowledged =>
    refine ⟨length_set.trans balanced.slots, ?_⟩
    rw [map_set, map_set, balanced.parallel]
    rfl
  | _ => exact ⟨balanced.slots, balanced.parallel⟩

theorem named_after : ∀ owners ∈ after.pendingOutputOwners, ∀ identity ∈ owners.getD [], ∃ request,
      after.shared.requests.find identity.requestId identity.requestGeneration = .ok request := by
  intro owners pending identity named
  rcases Sound.keeps effect with keeps | ⟨_, _, rfl⟩
  · apply keeps.find
    cases effect with
    | completed live _ _ members =>
      rcases mem_or_eq_of_mem_set pending with old | rfl
      · exact balanced.named owners old identity named
      have inside : identity ∈ plane.currentOutputOwners := named
      rw [balanced.owners _ live] at inside
      rcases members identity inside with ⟨request, found, -⟩
      exact ⟨request, found⟩
    | acknowledged =>
      rcases mem_or_eq_of_mem_set pending with old | rfl
      · exact balanced.named owners old identity named
      · cases named
    | _ => exact balanced.named owners pending identity named
  cases effect with
  | same => exact balanced.named owners pending identity named
  | moved found change =>
    exact (swept_set (find_ok_iff.mp found).1
      change).keeps.find (balanced.named owners pending identity named)
  | retired found _ unnamed =>
    rcases balanced.named owners pending identity named with ⟨request, there⟩
    rcases find_set_cases found there none with stays | ⟨rfl, rfl, -⟩
    · exact ⟨request, stays⟩
    · exact (unnamed owners pending identity named rfl).elim

end

theorem effect (effect : Effect plane action after) : after.Balanced stages where
  sound := balanced.sound.effect effect
  account := balanced.account_after effect
  burst := (balanced.execution_after effect).1
  owners := fun execution live => ((balanced.execution_after effect).2 execution live).1
  healthy := fun execution live => ((balanced.execution_after effect).2 execution live).2.1
  world := fun execution live => ((balanced.execution_after effect).2 execution live).2.2
  prepared := balanced.prepared_after effect
  idle := balanced.idle_after effect
  busy := balanced.busy_after effect
  slots := (balanced.pending_after effect).1
  parallel := (balanced.pending_after effect).2
  named := balanced.named_after effect

end Balanced

theorem balanced_of_create {engineEpoch : ℕ} (created : create engineEpoch capacity = .ok initial) :
    initial.Balanced initial.shared.resources.stages := by
  have sound := sound_of_create created
  rcases create_ok created with ⟨_, built, rfl⟩
  exact
    { sound
      account := { holds := nofun, busy := nofun, distinct := nodup_nil, conserved := rfl }
      burst := rfl
      owners := nofun
      healthy := nofun
      world := nofun
      prepared := nofun
      idle := by
        intro _
        refine ⟨rfl, ?_⟩
        unfold DeepSeekPipelineResourceSet.create at built
        split at built
        · cases built
        cases built
        rfl
      busy := nofun
      slots := rfl
      parallel := rfl
      named := by
        intro owners pending identity named
        rw [eq_of_mem_replicate pending] at named
        cases named }

/-- A run in which no stage fails and no sweep takes place. -/
abbrev QuietRun (initial : DeepSeekControlPlane)
    (history : List (Entry DeepSeekControlPlane Action (Result Unit)))
    (state : DeepSeekControlPlane) : Prop :=
  Run execute (fun _ _ action => action.quiet = true) initial history state

theorem balanced_of_run {engineEpoch : ℕ} {state : DeepSeekControlPlane}
    (created : create engineEpoch capacity = .ok initial) (run : QuietRun initial history state) :
    state.Balanced initial.shared.resources.stages := by
  apply run.invariant (fun _ state => state.Balanced initial.shared.resources.stages)
    (balanced_of_create created)
  intro history state action _ balanced quiet
  rcases execute_effect balanced.sound.stored action with effect | ⟨loud, -⟩
  · exact balanced.effect effect
  rw [quiet] at loud
  cases loud

/-! ## Giving up a plan -/

/--
The plan of the execution is given up: its credit is free, the stages are as
given, and its requests are admitted again, except for a cancelled one.
-/
structure Withdrawn (stages : List DeepSeekPipelineStagePool) (before after : DeepSeekControlPlane)
    (execution : DeepSeekPipelineExecution)
    (cancelled : Option (ℕ × ℕ)) : Prop where
  idle : after.execution = none
  unheld : after.currentOutputBurst = none
  credit : after.outputCredits.available = before.outputCredits.available + 1
  stages : after.shared.resources.stages = stages
  untouched : ∀ identity ∈ execution.requestIdentities, cancelled ≠ some identity.key →
      after.shared.requests.state identity.requestId identity.requestGeneration = .ok .admitted
  withdrawn : ∀ identity ∈ execution.requestIdentities, cancelled = some identity.key →
      after.shared.requests.state identity.requestId identity.requestGeneration = .ok .cancelled
  others : ∀ id, id ∉ execution.requestIdentities.map DeepSeekRequestIdentity.requestId →
      after.shared.requests.requests id = before.shared.requests.requests id

theorem available_released (holds : plane.outputCredits.Holds lease .prepared)
    (shared : DeepSeekPipelineShared) :
    (plane.released lease shared).outputCredits.available = plane.outputCredits.available + 1 := by
  have counted := OutputBurstCreditPool.available_setCredit (lease.credit .free) holds
  rw [OutputBurstCreditPool.isFree_credit] at counted
  exact counted

/-- A prepared request is admitted again when its plan is rolled back. -/
theorem state_takenBack {execution : DeepSeekPipelineExecution} {requests : DeepSeekRequestRegistry}
    (rewritten : execution.RolledBack before requests)
    (inside : identity ∈ execution.requestIdentities)
    (found : before.find identity.requestId identity.requestGeneration = .ok request)
    (prepared : request.state = .prepared) (plan : execution.planSequence = request.planSequence) :
    requests.state identity.requestId identity.requestGeneration = .ok .admitted := by
  have there := rewritten.find inside found (takenBack_generation _ _)
  refine state_ok_iff.mpr ⟨_, there, ?_⟩
  unfold takenBack
  rw [if_pos ⟨prepared, plan⟩]

namespace Balanced

variable {execution : DeepSeekPipelineExecution}

theorem stageReject_withdrawn (balanced : plane.Balanced stages)
    (live : plane.execution = some execution) (preparing : execution.coordinator.isPreparing = true)
    (inside : rank < execution.coordinator.worldSize) :
    Withdrawn stages plane (plane.stageReject rank reason).1 execution
      none := by
  rcases balanced.some_lease live with ⟨_, held⟩
  have stored := balanced.sound.stored execution live
  have members := balanced.prepared execution live preparing
  have holds := balanced.holds_prepared live held preparing
  have valid := (validateStageReject_ok_iff plane.shared execution rank).mpr
      ⟨⟨inside, preparing, stored.transaction_prepared preparing⟩, members⟩
  rcases stageReject_eq reason stored live held valid holds with
    ⟨requests, _, moved, rewritten⟩
  rw [moved]
  exact
    { idle := rfl
      unheld := rfl
      credit := available_released holds ⟨requests, plane.shared.resources.restoreAll⟩
      stages := (balanced.restored live).1
      untouched := by
        intro identity member _
        rcases members identity member with ⟨_, found, state, plan⟩
        exact state_takenBack rewritten member found state plan
      withdrawn := nofun
      others := rewritten.others }

theorem cancel_withdrawn (balanced : plane.Balanced stages)
    (live : plane.execution = some execution) (preparing : execution.coordinator.isPreparing = true)
    (inside : identity ∈ execution.requestIdentities) :
    Withdrawn stages plane (plane.cancel identity.requestId identity.requestGeneration).1
      execution (some identity.key) := by
  rcases balanced.some_lease live with ⟨_, held⟩
  have stored := balanced.sound.stored execution live
  have members := balanced.prepared execution live preparing
  have holds := balanced.holds_prepared live held preparing
  have contained := execution.containsRequest_of_mem inside
  rcases members identity inside with ⟨request, found, state, _⟩
  have same := (find_ok_iff.mp found).2
  have open_ : request.validateCancel identity.requestGeneration = .ok () := by
    unfold DeepSeekRequestLifecycle.validateCancel
    rw [if_neg (not_not.mpr same.symm)]
    simp [state, terminal]
  have valid : execution.validateCancelRequest plane.shared identity.requestId
      identity.requestGeneration = .ok () := by
    have registered : plane.shared.requests.validateCancel identity.requestId
        identity.requestGeneration = .ok () :=
      (validate_ok_iff _ _ _ _).mpr ⟨request, found, open_⟩
    unfold validateCancelRequest
    rw [registered]
    rw [if_pos preparing]
    exact (validateStageReject_ok_iff
      plane.shared execution 0).mpr ⟨⟨balanced.world execution live, preparing,
          stored.transaction_prepared preparing⟩, members⟩
  rcases cancel_of_preparing stored live held contained preparing valid holds with
    ⟨_, cancelled, requests, there, changed, -, moved, rewritten⟩
  cases Except.ok.inj (found.symm.trans there)
  have ended : cancelled.state = .cancelled := by
    unfold DeepSeekRequestLifecycle.cancel at changed
    rw [open_] at changed
    simp only [state] at changed
    cases changed
    rfl
  have unaffected : cancelled.takenBack execution.planSequence = cancelled := by
    unfold takenBack
    rw [ended]
    exact if_neg (by simp)
  have distinct := stored.distinct
  rw [moved]
  exact
    { idle := rfl
      unheld := rfl
      credit := available_released holds ⟨requests, _⟩
      stages := (balanced.restored live).1
      untouched := by
        intro other member different
        rcases members other member with ⟨_, here, waiting, sequence⟩
        refine state_takenBack rewritten member ?_ waiting sequence
        refine (find_set_of_ne _ _ _ ?_).trans here
        intro equal
        apply different
        rw [inj_on_of_nodup_map distinct member inside equal]
      withdrawn := by
        intro other member equal
        have equal := Prod.mk.inj (Option.some.inj equal)
        have here : (plane.shared.requests.set identity.requestId
            (some cancelled)).find other.requestId other.requestGeneration = .ok cancelled := by
          rw [find_ok_iff, ← equal.1, ← equal.2]
          refine ⟨set_requests_self _ _ _, ?_⟩
          exact (cancel_generation changed).trans same
        have last := rewritten.find member here (takenBack_generation _ _)
        rw [unaffected] at last
        exact state_ok_iff.mpr ⟨_, last, ended⟩
      others := by
        intro id outside
        refine (rewritten.others id outside).trans ?_
        apply set_requests_of_ne
        rintro rfl
        exact outside (mem_map_of_mem inside) }

end Balanced

/-- A plan that cannot be prepared changes no request and no stage. -/
theorem preparePlan_failed (failed : (plane.preparePlan descriptor identities).2 = .error status) :
    (plane.preparePlan descriptor identities).1.shared.requests = plane.shared.requests ∧
      (plane.preparePlan descriptor identities).1.shared.resources.stages =
        plane.shared.resources.stages ∧
      (plane.preparePlan descriptor identities).1.execution = plane.execution := by
  revert failed
  unfold preparePlan
  split
  · exact fun _ => ⟨rfl, rfl, rfl⟩
  split
  · exact fun _ => ⟨rfl, rfl, rfl⟩
  split
  · exact fun _ => ⟨rfl, rfl, rfl⟩
  rcases create_cases plane.shared descriptor identities with
    ⟨_, _, failed, untouched⟩ | ⟨_, _, built, _⟩
  · simp only [failed]
    split
    · exact fun _ => ⟨rfl, untouched.stages, rfl⟩
    · exact fun _ => ⟨rfl, untouched.stages, rfl⟩
  simp only [built]
  nofun

theorem retire_named {id : ℕ} (pending : owners ∈ plane.pendingOutputOwners)
    (named : identity ∈ owners.getD []) (same : identity.key = (id, generation)) :
    ∃ status, plane.retire id generation = (plane, .error status) := by
  have refused : ∃ status, plane.validateRetire id generation = .error status := by
    unfold validateRetire
    split
    case h_1 status _ => exact ⟨status, rfl⟩
    rw [if_pos]
    · exact ⟨_, rfl⟩
    rw [any_eq_true]
    refine ⟨owners, pending, ?_⟩
    rw [any_eq_true]
    refine ⟨identity, named, ?_⟩
    rw [decide_eq_true_eq]
    exact Prod.mk.inj same
  rcases refused with ⟨status, refused⟩
  exact ⟨status, by simp only [retire, refused]⟩

/-! ## The result -/

/-- A pipeline of one rank. -/
def oneRankCapacity : DeepSeekPipelineCapacity where
  worldSize := 1
  maxPipelineTokens := 4
  expertTokens := 4
  maxSequences := 2
  maxPrefillChunkTokens := 4
  maxDecodeSequences := 2
  maxVerifySequences := 0
  dsparkEnabled := false
  rankCount := 1

def oneRank : DeepSeekControlPlane where
  engineEpoch := 1
  shared :=
    ⟨{}, { capacity := oneRankCapacity, stages := [DeepSeekPipelineResourceSet.stageOf 1 0] }⟩
  outputCredits := ⟨⟨kBoundaryCredits, 1, 5, 64, 1048576⟩, replicate kBoundaryCredits {}⟩

/-- A plan of one request waits for its acknowledgement beside the next. -/
def twoPlans : List (DeepSeekControlPlane → Action) := [fun _ => .submit 7 1, fun _ => .submit 8 1,
    fun _ => .preparePlan ⟨1, 1, .prefill, 1, 1⟩ [⟨7, 1, false⟩],
    fun _ => .stageReady 0, fun _ => .commitPlan, fun _ => .stageComplete 0,
    fun _ => .preparePlan ⟨1, 2, .prefill, 1, 1⟩ [⟨8, 1, false⟩]]

end DeepSeekControlPlane

end Pih
