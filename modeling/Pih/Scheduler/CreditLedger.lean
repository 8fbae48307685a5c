import Pih.Scheduler.ExecuteTransition

/-!
# The ledger of output burst credits

Every credit of the pool is free, held by a plan whose events wait for an
acknowledgement, or held by the current plan.  The invariant says this by
counting, and every transition keeps it.
-/

namespace Pih.ControllerRuntime

open List Option OutputBurstCreditPool

open OutputBurstCreditPool (Holds)

/-- The bursts that wait for an acknowledgement. -/
def pendingBurstCount (runtime : ControllerRuntime) : ℕ := runtime.pendingOutputBursts.countP isSome

/-- One if a plan is current, and so holds a burst. -/
def currentBurstCount (runtime : ControllerRuntime) : ℕ := if runtime.current.isSome then 1 else 0

/-- Every credit is free, pending or with the plan. -/
structure CreditsBalanced (runtime : ControllerRuntime) : Prop where
  pendingLength : runtime.pendingOutputBursts.length = runtime.limits.outputBurstCreditCount
  transferred : ∀ lease, some lease ∈ runtime.pendingOutputBursts →
    runtime.outputCredits.Holds lease .transferred
  distinct : ∀ (first second : ℕ) (lease other : OutputBurstLease),
    runtime.pendingOutputBursts[first]? = some (some lease) →
    runtime.pendingOutputBursts[second]? = some (some other) →
    lease.planSequence = other.planSequence → first = second
  current : ∀ current, runtime.current = some current →
    current.outputBurst.planSequence = current.plan.planSequence ∧ ∃ state, state ≠ .free ∧
        runtime.outputCredits.Holds current.outputBurst state
  apart : ∀ current, runtime.current = some current →
    ∀ lease, some lease ∈ runtime.pendingOutputBursts →
      lease.planSequence ≠ current.outputBurst.planSequence
  balance : runtime.outputCredits.available + runtime.pendingBurstCount +
      runtime.currentBurstCount =
    runtime.limits.outputBurstCreditCount

namespace CreditsBalanced

variable {runtime next : ControllerRuntime}

variable (balanced : runtime.CreditsBalanced)

include balanced

/-- Only the credits, the pending bursts and the current plan matter. -/
theorem frame (limits : next.limits = runtime.limits)
    (credits : next.outputCredits = runtime.outputCredits)
    (pending : next.pendingOutputBursts = runtime.pendingOutputBursts)
    (current : next.current = runtime.current) : next.CreditsBalanced := by
  rcases next
  subst limits credits pending current
  exact ⟨balanced.pendingLength, balanced.transferred, balanced.distinct,
    balanced.current, balanced.apart, balanced.balance⟩

variable {current : CurrentPlan}

section

variable (isCurrent : runtime.current = some current)

include isCurrent

/-- With a current plan, some pending entry is free. -/
theorem vacant : none ∈ runtime.pendingOutputBursts := by
  have balance := balanced.balance
  have counted : runtime.currentBurstCount = 1 := by
    unfold currentBurstCount
    rw [isCurrent]
    rfl
  have fewer : runtime.pendingOutputBursts.countP isSome < runtime.pendingOutputBursts.length := by
    change runtime.pendingBurstCount < _
    rw [balanced.pendingLength]
    omega
  rcases exists_not_of_countP_lt fewer with ⟨lease, member, free⟩
  cases lease with
  | none => exact member
  | some => cases free

variable (holds : runtime.outputCredits.Holds current.outputBurst source)

include holds

/-- Changing the credit of the current burst leaves the pending ones. -/
theorem transferred_setCredit (lease : OutputBurstLease)
    (member : some lease ∈ runtime.pendingOutputBursts) :
    (runtime.outputCredits.setCredit current.outputBurst.creditIndex
      credit).Holds lease .transferred := by
  have other := balanced.transferred lease member
  apply other.setCredit_other
  exact holds.index_ne other (balanced.apart current isCurrent lease member).symm

/-- The current burst changes its state but stays in use. -/
theorem move (used : source ≠ .free) (stays : target ≠ .free)
    (limits : next.limits = runtime.limits)
    (credits : next.outputCredits = runtime.outputCredits.assign current.outputBurst target)
    (pending : next.pendingOutputBursts = runtime.pendingOutputBursts)
    (same : next.current = runtime.current) : next.CreditsBalanced := by
  rcases next
  subst limits credits pending same
  refine ⟨balanced.pendingLength,
    balanced.transferred_setCredit isCurrent holds, balanced.distinct, ?_, balanced.apart, ?_⟩
  · rw [isCurrent]
    rintro _ ⟨⟩
    exact ⟨(balanced.current current isCurrent).1, target, stays, holds.setCredit_self target⟩
  have changed := available_setCredit (current.outputBurst.credit target) holds
  simp [isFree_credit, used, stays] at changed
  rw [changed]
  exact balanced.balance

/-- The current plan ends and its credit becomes free. -/
theorem finish (used : source ≠ .free) (free : credit.state = .free)
    (limits : next.limits = runtime.limits) (credits : next.outputCredits =
      runtime.outputCredits.setCredit current.outputBurst.creditIndex credit)
    (pending : next.pendingOutputBursts = runtime.pendingOutputBursts)
    (ended : next.current = none) : next.CreditsBalanced := by
  rcases next
  subst limits credits pending ended
  refine ⟨balanced.pendingLength,
    balanced.transferred_setCredit isCurrent holds, balanced.distinct, nofun, nofun, ?_⟩
  have changed := available_setCredit credit holds
  have balance := balanced.balance
  simp [isFree, OutputBurstLease.credit, used, free] at changed
  simp [pendingBurstCount, currentBurstCount, isCurrent] at balance ⊢
  omega

end

/-- A plan that is prepared takes a free credit. -/
theorem acquire (idle : runtime.current = none) {credits : OutputBurstCreditPool}
    (acquired : Acquired runtime.outputCredits credits plan current.outputBurst)
    (planSequence : current.plan.planSequence = plan) (limits : next.limits = runtime.limits)
    (credits_eq : next.outputCredits = credits)
    (pending : next.pendingOutputBursts = runtime.pendingOutputBursts)
    (becomes : next.current = some current) : next.CreditsBalanced := by
  rcases acquired.free with ⟨_, found, wasFree⟩
  have inside := (List.getElem_of_getElem? found).1
  rcases next
  dsimp only at limits credits_eq pending becomes
  subst limits credits_eq pending becomes
  rw [acquired.next_eq, assign]
  refine ⟨balanced.pendingLength, ?_, balanced.distinct, ?_, ?_, ?_⟩
  · intro lease member
    have other := balanced.transferred lease member
    apply other.setCredit_other
    intro same
    unfold Holds at other
    rw [← same, found] at other
    rw [some.inj other] at wasFree
    cases wasFree
  · rintro _ ⟨⟩
    refine ⟨acquired.planSequence.trans planSequence.symm, .prepared, nofun, ?_⟩
    exact getElem?_set_self inside
  · rintro _ ⟨⟩ lease member
    rw [acquired.planSequence]
    exact acquired.unowned _ (mem_of_getElem? (balanced.transferred lease member)) nofun
  have changed := available_setCredit (current.outputBurst.credit .prepared) found
  have balance := balanced.balance
  rw [wasFree] at changed
  simp [isFree_credit] at changed
  simp [pendingBurstCount, currentBurstCount, idle] at balance ⊢
  omega

/-- The completed plan leaves its burst with the pending ones. -/
theorem pend (isCurrent : runtime.current = some current)
    (holds : runtime.outputCredits.Holds current.outputBurst .committed)
    (free : runtime.pendingOutputBursts[index]? = some none) (limits : next.limits = runtime.limits)
    (credits : next.outputCredits = runtime.outputCredits.assign current.outputBurst .transferred)
    (pending : next.pendingOutputBursts =
      runtime.pendingOutputBursts.set index (some current.outputBurst))
    (ended : next.current = none) : next.CreditsBalanced := by
  rcases next
  subst limits credits pending ended
  refine ⟨(length_set ..).trans balanced.pendingLength, ?_, ?_, nofun, nofun, ?_⟩
  · intro lease member
    rcases mem_or_eq_of_mem_set member with old | new
    · exact balanced.transferred_setCredit isCurrent holds lease old
    cases new
    exact holds.setCredit_self .transferred
  · intro first second lease other foundFirst foundSecond same
    rcases getElem?_set_cases free first with ⟨rfl, written⟩ | ⟨-, kept⟩
    · rw [written] at foundFirst
      cases foundFirst
      rcases getElem?_set_cases free second with ⟨rfl, -⟩ | ⟨-, keptSecond⟩
      · rfl
      rw [keptSecond] at foundSecond
      exact (balanced.apart current isCurrent other (mem_of_getElem? foundSecond) same.symm).elim
    rw [kept] at foundFirst
    rcases getElem?_set_cases free second with ⟨rfl, written⟩ | ⟨-, keptSecond⟩
    · rw [written] at foundSecond
      cases foundSecond
      exact (balanced.apart current isCurrent lease (mem_of_getElem? foundFirst) same).elim
    rw [keptSecond] at foundSecond
    exact balanced.distinct first second lease other foundFirst foundSecond same
  have changed := available_setCredit (current.outputBurst.credit .transferred) holds
  unfold assign
  have counted := countP_set_add isSome (some current.outputBurst) free
  have balance := balanced.balance
  simp [isFree_credit] at changed counted
  simp [pendingBurstCount, currentBurstCount, isCurrent] at balance ⊢
  omega

/-- An acknowledgement frees the credit of a pending burst. -/
theorem acknowledge (found : runtime.pendingOutputBursts[index]? = some (some lease))
    (limits : next.limits = runtime.limits)
    (credits : next.outputCredits = runtime.outputCredits.setCredit lease.creditIndex
      { generation := lease.creditGeneration })
    (pending : next.pendingOutputBursts = runtime.pendingOutputBursts.set index none)
    (same : next.current = runtime.current) : next.CreditsBalanced := by
  have member := mem_of_getElem? found
  have holds := balanced.transferred lease member
  have remains : ∀ other position, (runtime.pendingOutputBursts.set index none)[position]? =
        some (some other) →
      position ≠ index ∧ runtime.pendingOutputBursts[position]? = some (some other) := by
    intro other position foundOther
    rcases getElem?_set_cases found position with ⟨-, written⟩ | ⟨different, kept⟩
    · rw [written] at foundOther
      cases foundOther
    rw [kept] at foundOther
    exact ⟨different, foundOther⟩
  rcases next
  subst limits credits pending same
  refine ⟨(length_set ..).trans balanced.pendingLength, ?_, ?_, ?_, ?_, ?_⟩
  · intro other otherMember
    rcases getElem?_of_mem otherMember with ⟨position, at_⟩
    rcases remains other position at_ with ⟨different, before⟩
    have otherHolds := balanced.transferred other (mem_of_getElem? before)
    apply otherHolds.setCredit_other
    apply holds.index_ne otherHolds
    intro equal
    exact different (balanced.distinct index position lease other found before equal).symm
  · intro first second one other foundFirst foundSecond equal
    exact balanced.distinct first second one other
      (remains one first foundFirst).2 (remains other second foundSecond).2
      equal
  · intro current isCurrent
    rcases balanced.current current isCurrent with ⟨planSequence, state, busy, holdsCurrent⟩
    refine ⟨planSequence, state, busy, holdsCurrent.setCredit_other _ ?_⟩
    exact holds.index_ne holdsCurrent (balanced.apart current isCurrent lease member)
  · intro current isCurrent other otherMember
    rcases getElem?_of_mem otherMember with ⟨position, at_⟩
    exact balanced.apart current isCurrent other (mem_of_getElem? (remains other position at_).2)
  have changed := available_setCredit
      { generation := lease.creditGeneration } holds
  have counted := countP_set_add isSome none found
  have balance := balanced.balance
  simp [isFree, OutputBurstLease.credit] at changed counted
  simp only [pendingBurstCount, currentBurstCount] at balance ⊢
  omega

theorem request (transition : RequestTransition runtime call next outcome) :
    next.CreditsBalanced := by
  cases transition with
  | completed _ completion completed =>
    have settled := completed.settled
    generalize eventTotal _ = events at settled
    cases settled with
    | released =>
      exact balanced.finish completion.isCurrent completion.committed nofun rfl rfl rfl rfl rfl
    | pending _ free =>
      exact balanced.pend completion.isCurrent completion.committed free rfl rfl rfl rfl
  | completionBroken _ completion =>
    refine balanced.move completion.isCurrent completion.committed nofun ?_ rfl rfl rfl rfl
    exact nofun
  | _ => exact balanced.frame rfl rfl rfl rfl

/-- Every transition keeps the ledger. -/
theorem preserved (transition : Transition runtime call next outcome) : next.CreditsBalanced := by
  cases transition with
  | request transition => exact balanced.request transition
  | prepared _ _ prepared =>
    exact balanced.acquire prepared.idle prepared.acquired
      prepared.drafted.planSequence rfl rfl rfl rfl
  | committed _ isCurrent holds _ | commitPartial _ isCurrent holds _ _ =>
    refine balanced.move isCurrent holds nofun ?_ rfl rfl rfl rfl
    exact nofun
  | aborted _ isCurrent holds => exact balanced.finish isCurrent holds nofun rfl rfl rfl rfl rfl
  | acknowledged _ found => exact balanced.acknowledge found rfl rfl rfl rfl
  | _ => exact balanced.frame rfl rfl rfl rfl

end CreditsBalanced

end Pih.ControllerRuntime
