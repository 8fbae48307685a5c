import Pih.Scheduler.PlanNumbers

/-!
# Conservation of output burst credits

Along every run the credits of the pool are free, pending or held by the
current plan, and a plan can be acknowledged exactly once, after it completed
with at least one event.
-/

namespace Pih

open ControllerSequence List Option OutputBurstCreditPool

namespace ControllerRuntime

open ControllerOutcome (status)

/-! ## The plans that can be acknowledged -/

/-- The plan that a call completed with events. -/
def toldBy (entry : ControllerEntry) : Option ℕ :=
  if publishedBy entry = [] then none
  else (completedBy entry).map fun current => current.plan.planSequence

/-- The plans that were completed with at least one event. -/
def toldPlans (history : ControllerHistory) : List ℕ := history.filterMap toldBy

/-- The plans that were acknowledged. -/
def acknowledgedPlans (history : ControllerHistory) : List ℕ := history.filterMap acknowledgedBy

theorem toldPlans_snoc (history : ControllerHistory) (entry : ControllerEntry) :
    toldPlans (history ++ [entry]) = toldPlans history ++ (toldBy entry).toList :=
  filterMap_concat toldBy entry

theorem acknowledgedPlans_snoc (history : ControllerHistory) (entry : ControllerEntry) :
    acknowledgedPlans (history ++ [entry]) =
      acknowledgedPlans history ++ (acknowledgedBy entry).toList :=
  filterMap_concat acknowledgedBy entry

/-- The plan waits for an acknowledgement. -/
def Awaits (runtime : ControllerRuntime) (planSequence : ℕ) : Prop :=
  ∃ lease, some lease ∈ runtime.pendingOutputBursts ∧ lease.planSequence = planSequence

/-- The pending bursts are those of the plans told but not acknowledged. -/
structure AcknowledgementLedger (history : ControllerHistory) (runtime : ControllerRuntime) :
    Prop where
  counter : runtime.nextPlanSequence ≤ u64Max
  awaits : ∀ planSequence, runtime.Awaits planSequence ↔ planSequence ∈ toldPlans history ∧
      planSequence ∉ acknowledgedPlans history
  told : (toldPlans history).Nodup
  acknowledged : (acknowledgedPlans history).Nodup
  covered : acknowledgedPlans history ⊆ toldPlans history
  spent : ∀ planSequence ∈ toldPlans history, runtime.Spent planSequence
  current : ∀ current, runtime.current = some current → runtime.Spent current.plan.planSequence ∧
      current.plan.planSequence ∉ toldPlans history

namespace AcknowledgementLedger

variable {history : ControllerHistory} {runtime next : ControllerRuntime}

section

variable (ledger : AcknowledgementLedger history runtime)

include ledger

section

variable (told : toldBy ⟨runtime, call, next, outcome⟩ = none)
  (acknowledged : acknowledgedBy ⟨runtime, call, next, outcome⟩ = none)

include told acknowledged

/-- A call that neither completes, acknowledges nor prepares a plan. -/
theorem frame (counter : next.nextPlanSequence = runtime.nextPlanSequence)
    (pending : next.pendingOutputBursts = runtime.pendingOutputBursts)
    (current : ∀ current, next.current = some current → runtime.current = some current) :
    AcknowledgementLedger (history ++ [⟨runtime, call, next, outcome⟩]) next := by
  constructor <;> simp only [toldPlans_snoc, acknowledgedPlans_snoc, told, acknowledged, toList_none,
      append_nil, Awaits, Spent, counter, pending]
  · exact ledger.counter
  · exact ledger.awaits
  · exact ledger.told
  · exact ledger.acknowledged
  · exact ledger.covered
  · exact ledger.spent
  · exact fun plan isCurrent => ledger.current plan (current plan isCurrent)

/-- A new plan takes a plan sequence that was never handed out. -/
theorem prepare (nonzero : runtime.nextPlanSequence ≠ 0)
    (numbered : plan.plan.planSequence = runtime.nextPlanSequence)
    (counter : next.nextPlanSequence = nextU64 runtime.nextPlanSequence)
    (pending : next.pendingOutputBursts = runtime.pendingOutputBursts)
    (isCurrent : next.current = some plan) :
    AcknowledgementLedger (history ++ [⟨runtime, call, next, outcome⟩]) next := by
  have unspent := not_spent_next nonzero
  have next_le := counter.trans_le (nextU64_le _)
  refine ⟨next_le, ?_, ?_, ?_, ?_, ?_, ?_⟩ <;> simp only [toldPlans_snoc, acknowledgedPlans_snoc,
      told, acknowledged, toList_none, append_nil, Awaits, pending]
  · exact ledger.awaits
  · exact ledger.told
  · exact ledger.acknowledged
  · exact ledger.covered
  · intro planSequence member
    exact .advance ledger.counter nonzero counter (.inl (ledger.spent planSequence member))
  · intro current found
    cases isCurrent.symm.trans found
    rw [numbered]
    exact ⟨.advance ledger.counter nonzero counter (.inr rfl),
      fun member => unspent (ledger.spent _ member)⟩

end

/-- A completion with events makes the plan wait. -/
theorem tell (isCurrent : runtime.current = some plan)
    (burst : plan.outputBurst.planSequence = plan.plan.planSequence)
    (told : toldBy ⟨runtime, call, next, outcome⟩ = some plan.plan.planSequence)
    (acknowledged : acknowledgedBy ⟨runtime, call, next, outcome⟩ = none)
    (counter : next.nextPlanSequence = runtime.nextPlanSequence)
    (free : runtime.pendingOutputBursts[index]? = some none) (pending : next.pendingOutputBursts =
      runtime.pendingOutputBursts.set index (some plan.outputBurst))
    (finished : next.current = none) :
    AcknowledgementLedger (history ++ [⟨runtime, call, next, outcome⟩]) next := by
  have new := ledger.current plan isCurrent
  have awaits : ∀ planSequence, next.Awaits planSequence ↔ runtime.Awaits planSequence ∨
      planSequence = plan.plan.planSequence := by
    intro planSequence
    unfold Awaits
    rw [pending]
    constructor
    · rintro ⟨lease, member, rfl⟩
      rcases mem_iff_getElem?.mp member with ⟨other, found⟩
      rcases getElem?_set_cases free other with ⟨-, written⟩ | ⟨-, kept⟩
      · cases written.symm.trans found
        exact .inr burst
      exact .inl ⟨lease, mem_of_getElem? (kept.symm.trans found), rfl⟩
    · rintro (⟨lease, member, rfl⟩ | rfl)
      · rcases mem_iff_getElem?.mp member with ⟨other, found⟩
        rcases getElem?_set_cases free other with ⟨rfl, -⟩ | ⟨-, kept⟩
        · cases free.symm.trans found
        · exact ⟨lease, mem_of_getElem? (kept.trans found), rfl⟩
      · rcases getElem?_set_cases free index with ⟨-, written⟩ | ⟨other, -⟩
        · exact ⟨_, mem_of_getElem? written, burst⟩
        · exact (other rfl).elim
  constructor <;> simp only [toldPlans_snoc, acknowledgedPlans_snoc, told, acknowledged, toList_none,
      toList_some, append_nil, awaits, Spent, counter]
  · exact ledger.counter
  · intro planSequence
    rw [ledger.awaits, mem_append, mem_singleton]
    constructor
    · rintro (⟨member, waits⟩ | rfl)
      · exact ⟨.inl member, waits⟩
      · exact ⟨.inr rfl, fun member => new.2 (ledger.covered member)⟩
    · rintro ⟨member | equal, waits⟩
      · exact .inl ⟨member, waits⟩
      · exact .inr equal
  · refine ledger.told.append (nodup_singleton _) ?_
    rw [disjoint_singleton]
    exact new.2
  · exact ledger.acknowledged
  · exact fun _ member => mem_append_left _ (ledger.covered member)
  · intro planSequence member
    rcases mem_append.mp member with earlier | last
    · exact ledger.spent planSequence earlier
    rw [mem_singleton.mp last]
    exact new.1
  · rw [finished]
    exact nofun

/-- An acknowledgement removes the plan from those that wait. -/
theorem acknowledge (distinct : ∀ (first second : ℕ) (lease other : OutputBurstLease),
      runtime.pendingOutputBursts[first]? = some (some lease) →
      runtime.pendingOutputBursts[second]? = some (some other) →
      lease.planSequence = other.planSequence → first = second)
    (told : toldBy ⟨runtime, call, next, outcome⟩ = none)
    (acknowledged : acknowledgedBy ⟨runtime, call, next, outcome⟩ = some lease.planSequence)
    (counter : next.nextPlanSequence = runtime.nextPlanSequence)
    (found : runtime.pendingOutputBursts[index]? = some (some lease))
    (pending : next.pendingOutputBursts = runtime.pendingOutputBursts.set index none)
    (same : next.current = runtime.current) :
    AcknowledgementLedger (history ++ [⟨runtime, call, next, outcome⟩]) next := by
  have waiting := (ledger.awaits lease.planSequence).mp ⟨lease, mem_of_getElem? found, rfl⟩
  have awaits : ∀ planSequence, next.Awaits planSequence ↔
      runtime.Awaits planSequence ∧ planSequence ≠ lease.planSequence := by
    intro planSequence
    unfold Awaits
    rw [pending]
    constructor
    · rintro ⟨other, member, rfl⟩
      rcases mem_iff_getElem?.mp member with ⟨place, written⟩
      rcases getElem?_set_cases found place with ⟨-, cleared⟩ | ⟨elsewhere, kept⟩
      · cases cleared.symm.trans written
      have old := kept.symm.trans written
      exact ⟨⟨other, mem_of_getElem? old, rfl⟩, fun equal =>
          elsewhere (distinct place index other lease old found equal)⟩
    · rintro ⟨⟨other, member, rfl⟩, different⟩
      rcases mem_iff_getElem?.mp member with ⟨place, old⟩
      rcases getElem?_set_cases found place with ⟨rfl, -⟩ | ⟨-, kept⟩
      · cases found.symm.trans old
        exact (different rfl).elim
      · exact ⟨other, mem_of_getElem? (kept.trans old), rfl⟩
  constructor <;> simp only [toldPlans_snoc, acknowledgedPlans_snoc, told, acknowledged, toList_none,
      toList_some, append_nil, awaits, Spent, counter, same]
  · exact ledger.counter
  · intro planSequence
    rw [ledger.awaits, mem_append, mem_singleton, not_or, and_assoc]
  · exact ledger.told
  · refine ledger.acknowledged.append (nodup_singleton _) ?_
    rw [disjoint_singleton]
    exact waiting.2
  · intro planSequence member
    rcases mem_append.mp member with earlier | last
    · exact ledger.covered earlier
    rw [mem_singleton.mp last]
    exact waiting.1
  · exact ledger.spent
  · exact ledger.current

end

theorem toldBy_of_not_completed (none : completedBy entry = none) : toldBy entry = Option.none := by
  unfold toldBy
  rw [none]
  split <;> rfl

variable (ledger : AcknowledgementLedger history runtime)

include ledger

/-- A call that is not successful, as far as plans are concerned. -/
theorem unsuccessful (other : outcome ≠ .status (.ok ()))
    (counter : next.nextPlanSequence = runtime.nextPlanSequence)
    (pending : next.pendingOutputBursts = runtime.pendingOutputBursts)
    (current : next.current = runtime.current) :
    AcknowledgementLedger (history ++ [⟨runtime, call, next, outcome⟩]) next := by
  have none := @no_plan_of_outcome ⟨runtime, call, next, outcome⟩ other
  refine ledger.frame (toldBy_of_not_completed none.1) none.2 counter pending ?_
  rw [current]
  exact fun _ found => found

variable (balanced : runtime.CreditsBalanced)

include balanced

theorem completed {current : CurrentPlan} {slots : List RuntimeSlot}
    {credits : OutputBurstCreditPool}
    (operation : runtime.CompletesWith current call.operation results now)
    (isCurrent : runtime.current = some current)
    (completed : CompletedPlan runtime call.thread current members now mailbox slots credits bursts)
    (mailbox_eq : next.ingress.mailbox = mailbox)
    (counter : next.nextPlanSequence = runtime.nextPlanSequence)
    (pending : next.pendingOutputBursts = bursts) (finished : next.current = none) :
    AcknowledgementLedger (history ++ [⟨runtime, call, next, .status (.ok ())⟩]) next := by
  rcases @completedBy_of_completes ⟨runtime, call, next, _⟩ current results now operation
      isCurrent rfl with
    ⟨completes, acknowledges⟩
  have tells : Tells ⟨runtime, call, next, .status (.ok ())⟩
      (runtime.completionDrafts call.thread current members now) := by
    refine ⟨rfl, ?_⟩
    rw [mailbox_eq]
    exact completed.emits.continues
  have counted : (publishedBy ⟨runtime, call, next, .status (.ok ())⟩).length =
      eventTotal members := by
    have drafted := congrArg length tells.queuedEvents.2
    rw [length_map] at drafted
    exact drafted.trans (length_planDrafts _ _)
  have settled := completed.settled
  generalize eventTotal members = events at counted settled
  cases settled with
  | released =>
    refine ledger.frame ?_ acknowledges counter pending ?_
    · unfold toldBy
      rw [if_pos (length_eq_zero_iff.mp counted)]
    · rw [finished]
      exact nofun
  | pending nonzero free =>
    have burst := (balanced.current current isCurrent).1
    refine ledger.tell isCurrent burst ?_ acknowledges counter free pending finished
    unfold toldBy
    rw [if_neg, completes]
    · rfl
    intro empty
    rw [empty] at counted
    exact nonzero counted.symm

theorem request (transition : RequestTransition runtime call next outcome) : AcknowledgementLedger
      (history ++ [⟨runtime, call, next, outcome⟩]) next := by
  cases transition with
  | completed operation completion completed =>
    exact ledger.completed balanced operation completion.isCurrent completed rfl rfl rfl rfl
  | finalized operation =>
    refine ledger.frame (toldBy_of_not_completed ?_) ?_ rfl rfl fun _ found => found
    all_goals simp only [completedBy, acknowledgedBy, operation]
  | _ => exact ledger.unsuccessful nofun rfl rfl rfl

theorem preserved (transition : Transition runtime call next outcome) : AcknowledgementLedger
      (history ++ [⟨runtime, call, next, outcome⟩]) next := by
  cases transition with
  | request transition => exact ledger.request balanced transition
  | quiet _ _ inert =>
    refine ledger.unsuccessful ?_ rfl rfl rfl
    rintro rfl
    cases inert
  | prepared operation _ prepared =>
    refine ledger.prepare (toldBy_of_not_completed ?_) ?_
      prepared.nonzero prepared.drafted.planSequence rfl rfl rfl
    all_goals simp only [completedBy, acknowledgedBy, operation]
  | committed operation _ _ _ | marked operation _ _ =>
    refine ledger.frame (toldBy_of_not_completed ?_) ?_ rfl rfl fun _ found => found
    all_goals simp only [completedBy, acknowledgedBy, operation]
  | aborted operation =>
    refine ledger.frame (toldBy_of_not_completed ?_) ?_ rfl rfl nofun
    all_goals simp only [completedBy, acknowledgedBy, operation]
  | acknowledged operation found =>
    refine ledger.acknowledge balanced.distinct (toldBy_of_not_completed ?_) ?_ rfl found rfl rfl
    all_goals simp only [completedBy, acknowledgedBy, operation]
  | _ => exact ledger.unsuccessful nofun rfl rfl rfl

end AcknowledgementLedger

variable {runtime : ControllerRuntime}

theorem acknowledgeOutputPlan_ok_iff (balanced : runtime.CreditsBalanced) (planSequence : ℕ) :
    (runtime.acknowledgeOutputPlan planSequence).2 = .ok () ↔
      planSequence ≠ 0 ∧ runtime.Awaits planSequence := by
  unfold acknowledgeOutputPlan
  split
  case isTrue zero => simp [zero]
  rename_i nonzero
  split
  case h_1 missing =>
    constructor
    · exact nofun
    · rintro ⟨-, lease, member, numbered⟩
      have other := findIdx?_eq_none_iff.mp missing _ member
      simp [burstOf, numbered] at other
  rename_i index found
  rcases findIdx?_eq_some_iff_getElem.mp found with ⟨inside, named, -⟩
  rw [getD_eq_getElem?_getD, getElem?_eq_getElem inside, getD_some]
  generalize held : runtime.pendingOutputBursts[index] = pending at named
  have member : pending ∈ runtime.pendingOutputBursts := held ▸ getElem_mem inside
  cases pending with
  | none => cases named
  | some lease =>
    have released := release_of_holds (balanced.transferred lease member)
    simp only [released, true_iff]
    exact ⟨nonzero, lease, member, by simpa [burstOf] using named⟩

/-! ## The branch without an owner slot -/

/-- The status of a transferred burst that finds no pending entry. -/
@[grind =]
def noOwnerSlot : Status := .internal "controller transferred output credit has no owner slot"

theorem digest_ne_noOwnerSlot (pieces : List (List UInt8)) :
    Sha256.ofPieces pieces ≠ .error noOwnerSlot := by
  have absorbed : ∀ hasher, Sha256.updateAll hasher pieces ≠ .error noOwnerSlot := by
    induction pieces with
    | nil =>
      intro hasher impossible
      cases impossible
    | cons _ _ induction =>
      unfold Sha256.updateAll Sha256.update
      grind
  unfold Sha256.ofPieces Sha256.finalize
  grind

theorem validateResult_ne_noOwnerSlot (slot : RuntimeSlot)
    (sequence : ControllerSequence) (result : ControllerBackendSequenceResult) :
    validateResult slot sequence result ≠ .error noOwnerSlot := by
  have checked : sequence.validateCompletion result.completion ≠ .error noOwnerSlot := by
    unfold validateCompletion completionCut completionLedger
    grind
  unfold validateResult
  grind

theorem validateResults_ne_noOwnerSlot (current : CurrentPlan)
    (slots : List RuntimeSlot) (totals : CompletionTotals) (indices : List ℕ)
    (results : List ControllerBackendSequenceResult) :
    validateResults current slots totals indices results ≠ .error noOwnerSlot := by
  induction indices generalizing totals results with
  | nil => exact nofun
  | cons _ _ induction =>
    cases results with
    | nil => exact nofun
    | cons =>
      unfold validateResults addResult completionStateDigest
      have checked := validateResult_ne_noOwnerSlot
      have digested := digest_ne_noOwnerSlot
      grind

variable (context : CompletionContext)

/-- The runtime keeps its pending bursts and does not miss an owner slot. -/
def Owned (result : ControllerRuntime × Result Unit) (runtime : ControllerRuntime) : Prop :=
  result.2 ≠ .error noOwnerSlot ∧ result.1.pendingOutputBursts = runtime.pendingOutputBursts

theorem publishTokens_owned (requestGeneration : ℕ)
    (digest : Sha256Digest) (runtime : ControllerRuntime) (ordinal index : ℕ) (tokens : List ℕ) :
    Owned (publishTokens context requestGeneration digest runtime ordinal index
      tokens) runtime := by
  induction tokens generalizing runtime ordinal index with
  | nil => exact ⟨nofun, rfl⟩
  | cons _ _ induction =>
    unfold Owned at induction ⊢
    unfold publishTokens publish failWith setIngress
    grind

/-- Completing members does not touch the pending bursts. -/
theorem completeMembers_owned (runtime : ControllerRuntime) (index : ℕ) (slotIndices : List ℕ)
    (results : List ControllerBackendSequenceResult) (digests : List Sha256Digest) :
    Owned (completeMembers context runtime index slotIndices results digests)
      runtime := by
  induction slotIndices generalizing runtime index results digests with
  | nil => exact ⟨nofun, rfl⟩
  | cons _ _ induction =>
    cases results with
    | nil => exact ⟨nofun, rfl⟩
    | cons =>
      cases digests with
      | nil => exact ⟨nofun, rfl⟩
      | cons =>
        have told := publishTokens_owned
        unfold Owned at told induction ⊢
        unfold completeMembers completeMember publish setIngress setSlot
        grind

theorem settleBurst_ne_noOwnerSlot
    (vacant : none ∈ runtime.pendingOutputBursts) (burst : OutputBurstLease) (events : ℕ) :
    (runtime.settleBurst burst events).2 ≠ .error noOwnerSlot := by
  unfold settleBurst release OutputBurstCreditPool.validate failWith
  grind

theorem applyCompletion_ne_noOwnerSlot
    (vacant : none ∈ runtime.pendingOutputBursts) (thread : ThreadId)
    (current : CurrentPlan) (totals : CompletionTotals)
    (results : List ControllerBackendSequenceResult) (nowNs : ℤ) :
    (runtime.applyCompletion thread current totals results nowNs).2 ≠ .error noOwnerSlot := by
  unfold applyCompletion
  split
  · unfold failWith
    grind
  dsimp only
  have owned := completeMembers_owned
      (runtime.completionContext thread current totals.requiredEvents nowNs)
      runtime 0 current.selectedSlotIndices results totals.digests
  unfold completionContext at owned
  split
  case h_1 completed =>
    rw [completed] at owned
    exact owned.1
  rename_i finished completed
  rw [completed] at owned
  apply settleBurst_ne_noOwnerSlot
  rw [@recordRound_eq _ _ finished finished rfl]
  rw [owned.2]
  exact vacant

section

variable {runtime : ControllerRuntime} (balanced : runtime.CreditsBalanced)

include balanced

theorem completeCurrentPlan_ne_noOwnerSlot (thread : ThreadId)
    (results : List ControllerBackendSequenceResult) (nowNs : ℤ) :
    (runtime.completeCurrentPlan thread results nowNs).2 ≠ .error noOwnerSlot := by
  have validated := validateResults_ne_noOwnerSlot
  have transferred : ∀ lease, (runtime.outputCredits.transfer lease).2 ≠ .error noOwnerSlot := by
    unfold transfer OutputBurstCreditPool.move OutputBurstCreditPool.validate
    grind
  unfold completeCurrentPlan
  split
  · exact nofun
  rename_i current isCurrent
  have applied : ∀ credits totals, ({ runtime with
      outputCredits := credits
      lastControllerNowNs := nowNs }.applyCompletion thread
        current totals results nowNs).2 ≠ .error noOwnerSlot := by
    intro credits totals
    apply applyCompletion_ne_noOwnerSlot
    exact balanced.vacant isCurrent
  grind

theorem completeCurrentSampledTokens_ne_noOwnerSlot (thread : ThreadId)
    (tokens : List ℕ) (nowNs : ℤ) :
    (runtime.completeCurrentSampledTokens thread tokens nowNs).2 ≠ .error noOwnerSlot := by
  have sampled : ∀ current slotIndices counts samples,
      runtime.sampledResults current slotIndices counts samples ≠ .error noOwnerSlot := by
    intro current slotIndices
    induction slotIndices with
    | nil =>
      intro counts samples impossible
      cases impossible
    | cons _ _ induction =>
      intro counts samples
      cases counts with
      | nil => exact nofun
      | cons =>
        unfold sampledResults
        grind
  have completed := completeCurrentPlan_ne_noOwnerSlot balanced thread
  unfold completeCurrentSampledTokens
  grind

/-- No call reports that a transferred burst has no owner slot. -/
theorem execute_ne_noOwnerSlot (call : ControllerCall) :
    (runtime.execute call).2 ≠ .status (.error noOwnerSlot) := by
  rcases call with ⟨thread, operation⟩
  intro reported
  cases operation with
  | submitAdmit | submitCancel | step | prepareNextPlan | tryTakeEvent => cases reported
  | commitCurrentPlan =>
    have status := status.inj reported
    unfold commitCurrentPlan OutputBurstCreditPool.commit
      OutputBurstCreditPool.move OutputBurstCreditPool.validate failWith
      at status
    grind
  | markCurrentPlanInFlight =>
    have status := status.inj reported
    unfold markCurrentPlanInFlight failWith at status
    grind
  | abortCurrentPlan =>
    have status := status.inj reported
    unfold abortCurrentPlan failWith at status
    grind
  | completeCurrentPlan results nowNs =>
    exact completeCurrentPlan_ne_noOwnerSlot balanced thread results nowNs (status.inj reported)
  | completeCurrentSampledTokens tokens nowNs =>
    exact completeCurrentSampledTokens_ne_noOwnerSlot balanced thread
      tokens nowNs (status.inj reported)
  | acknowledgeOutputPlan =>
    have status := status.inj reported
    unfold acknowledgeOutputPlan failWith at status
    grind
  | finalizeDraining =>
    have status := status.inj reported
    have finished : ∀ held : Option ControllerSequence,
        held.map finishSequence ≠ some (.error noOwnerSlot) := by
      intro held
      cases held with
      | none => simp
      | some =>
        unfold finishSequence finishDrain
        grind
    unfold finalizeDraining failWith at status
    grind

end

/-! ## The conservation law -/

theorem Fresh.acknowledgementLedger {limits : ControllerRuntimeLimits}
    (fresh : Fresh limits runtime) : AcknowledgementLedger [] runtime := by
  constructor
  · rw [fresh.nextPlanSequence]
    decide
  · intro planSequence
    constructor
    · rintro ⟨_, member, -⟩
      rw [fresh.pending] at member
      cases eq_of_mem_replicate member
    · rintro ⟨member, -⟩
      cases member
  · exact nodup_nil
  · exact nodup_nil
  · exact nil_subset _
  · intro planSequence member
    cases member
  · rw [fresh.current]
    exact nofun

variable
  {limits : ControllerRuntimeLimits}
  {allowed : ControllerHistory → ControllerRuntime → ControllerCall → Prop}
  {history : ControllerHistory} {runtime : ControllerRuntime}

theorem acknowledgementLedger_of_run (run : ControllerRun limits allowed history runtime) :
    AcknowledgementLedger history runtime := by
  refine run.induct AcknowledgementLedger ?_ ?_
  · exact fun _ fresh => fresh.acknowledgementLedger
  · intro _ _ _ _ _ base ledger _ transition
    exact ledger.preserved base.credits transition

/--
Credits are conserved: each is free, pending or held by the current plan;
the pending bursts are told apart by their plans and hold transferred
credits; the transfer always finds an owner slot; and a plan can be
acknowledged exactly once, after it completed with an event.
-/
theorem output_burst_credits_conserved (run : ControllerRun limits allowed history runtime) :
    runtime.outputCredits.available + runtime.pendingBurstCount +
        runtime.currentBurstCount = limits.outputBurstCreditCount ∧
    (∀ current, runtime.current = some current → ∃ state, state ≠ .free ∧
        runtime.outputCredits.Holds current.outputBurst state) ∧
    (∀ (first second : ℕ) (lease other : OutputBurstLease),
      runtime.pendingOutputBursts[first]? = some (some lease) →
      runtime.pendingOutputBursts[second]? = some (some other) →
      lease.planSequence = other.planSequence → first = second) ∧
    (∀ lease, some lease ∈ runtime.pendingOutputBursts →
      runtime.outputCredits.Holds lease .transferred) ∧
    (∀ call, (runtime.execute call).2 ≠ .status (.error (.internal
          "controller transferred output credit has no owner slot"))) ∧
    (∀ thread planSequence, (runtime.execute
        ⟨thread, .acknowledgeOutputPlan planSequence⟩).2 = .status (.ok ()) ↔
        planSequence ∈ toldPlans history ∧ planSequence ∉ acknowledgedPlans history) ∧
    (toldPlans history).Nodup ∧ (acknowledgedPlans history).Nodup ∧
    acknowledgedPlans history ⊆ toldPlans history := by
  have balanced := run.base.credits
  have ledger := acknowledgementLedger_of_run run
  refine ⟨?_, ?_, balanced.distinct, balanced.transferred,
    execute_ne_noOwnerSlot balanced, ?_, ledger.told, ledger.acknowledged, ledger.covered⟩
  · rw [← run.limits_eq]
    exact balanced.balance
  · exact fun current isCurrent => (balanced.current current isCurrent).2
  · intro thread planSequence
    change status (runtime.acknowledgeOutputPlan planSequence).2 = _ ↔ _
    rw [status.injEq, acknowledgeOutputPlan_ok_iff balanced, ledger.awaits]
    constructor
    · exact fun waits => waits.2
    · exact fun told => ⟨(ledger.spent planSequence told.1).1, told⟩

set_option maxRecDepth 100000 in
/-- A request whose first plan completes with a token and is acknowledged. -/
theorem output_burst_credits_conserved_acknowledged : ∃ history runtime,
      ControllerRun smallLimits (fun _ _ _ => True) history runtime ∧
        acknowledgedPlans history = [1] ∧
        runtime.outputCredits.available + runtime.pendingBurstCount +
          runtime.currentBurstCount = 1 := by
  have reaches : scriptReaches smallLimits (fun _ _ _ => True)
      ([fun _ => ⟨1, .submitAdmit 11 [1] 2 {}⟩, fun _ => ⟨1, .step 0 none⟩] ++ planScript ++
        [fun _ => ⟨1, .completeCurrentSampledTokens [42] 0⟩,
          fun _ => ⟨1, .acknowledgeOutputPlan 1⟩])
      (fun history _ => acknowledgedPlans history = [1]) = true := by
    decide +kernel
  rcases ControllerRun.of_script reaches with ⟨history, runtime, run, acknowledged⟩
  exact ⟨history, runtime, run, of_decide_eq_true acknowledged,
    (output_burst_credits_conserved run).1⟩

end ControllerRuntime

end Pih
