import Pih.Scheduler.CompletionEffects

/-!
# Completing the current plan

The validation of a completion yields the list of its members with their
results; from there the completion is determined up to the mailbox.  This
module derives every outcome of `complete_current_plan`.
-/

namespace Pih.ControllerRuntime

open List MemberCompletion OutputBurstCreditPool

open ControllerMailbox (Emits)

/-! ## What the validation establishes -/

/-- The checks that the result of a member passed. -/
structure Validated (slot : RuntimeSlot) (before : ControllerSequence)
    (result : ControllerBackendSequenceResult) : Prop where
  completes : before.Completes result.completion
  tokens : result.completion.acceptedCompletionCount =
      before.acceptedCompletionCount + result.acceptedTokenIds.length
  vocabulary : ∀ token ∈ result.acceptedTokenIds, token < kVocabularySize
  limit : result.completion.acceptedCompletionCount ≤ slot.request.maximumNewTokens
  terminal : result.completion.acceptedCompletionCount = slot.request.maximumNewTokens →
      result.completion.terminal = true
  pending : willDrain before result.completion = false → before.promptTokenCount ≤
        result.completion.committedModelProcessedLength →
      result.acceptedTokenIds ≠ []

theorem validateResult_ok {slot : RuntimeSlot} {before : ControllerSequence}
    {result : ControllerBackendSequenceResult}
    (validated : validateResult slot before result = .ok ()) :
    before.validateCompletion result.completion = .ok () ∧ Validated slot before result := by
  unfold validateResult at validated
  split at validated
  · cases validated
  rename_i valid
  have completes := ControllerSequence.validateCompletion_ok valid
  dsimp only at validated
  split at validated
  · cases validated
  split at validated
  · cases validated
  rename_i known
  split at validated
  · cases validated
  rename_i limited
  split at validated
  · cases validated
  rename_i boundary
  simp only [not_or, not_and, not_not, Nat.not_lt] at limited
  simp only [not_and] at boundary
  refine ⟨valid, ?_⟩
  exact
    { completes
      tokens := by
        have more := completes.more
        omega
      vocabulary := by
        intro token member
        by_contra large
        apply known
        rw [any_eq_true]
        exact ⟨token, member, decide_eq_true (Nat.le_of_not_lt large)⟩
      limit := limited.1
      terminal := limited.2
      pending := by
        intro stays long empty
        apply boundary
        · simp [stays]
        · exact long
        · rw [empty]
          rfl }

/-- A completed sequence drains exactly if that was foreseen. -/
theorem completedState_draining_iff (sequence : ControllerSequence)
    (completion : ControllerPlanCompletion) :
    sequence.completedState completion = .draining ↔ willDrain sequence completion = true := by
  unfold ControllerSequence.completedState willDrain
  by_cases cancelled : sequence.state = .cancelRequested
  · simp [cancelled]
  by_cases terminal : completion.terminal = true
  · simp [terminal]
  simp only [cancelled, terminal, if_false, Bool.false_eq_true]
  split <;> simp

/-- What is known of a member whose result was validated. -/
structure MemberCompletion.Valid (current : CurrentPlan) (slots : List RuntimeSlot)
    (member : MemberCompletion) : Prop where
  applies : member.Applies slots
  validated : Validated member.slot member.before member.result
  digest : completionStateDigest current member.result.completion = .ok member.digest

/-- The member that a validated result makes of a sequence. -/
theorem exists_valid_member {current : CurrentPlan} {slots : List RuntimeSlot}
    {slot : RuntimeSlot} {before : ControllerSequence}
    {result : ControllerBackendSequenceResult} {digest : Sha256Digest}
    (holding : Holding slots index slot before)
    (validated : validateResult slot before result = .ok ())
    (digested : completionStateDigest current result.completion = .ok digest) (start ready : ℕ) :
    ∃ member : MemberCompletion, member.Valid current slots ∧ member.slotIndex = index ∧
      member.result = result ∧ member.digest = digest ∧
      member.start = start ∧ member.ready = ready ∧
      member.drains = willDrain before result.completion := by
  rcases validateResult_ok validated with ⟨valid, facts⟩
  have completed := ControllerSequence.complete_of_validate valid
  refine ⟨⟨index, slot, before, _, result, digest, start, ready⟩,
    ⟨⟨holding, completed⟩, facts, digested⟩, rfl, rfl, rfl, rfl, rfl, ?_⟩
  unfold drains
  rw [Bool.eq_iff_iff, decide_eq_true_iff]
  exact completedState_draining_iff before result.completion

/-- The totals of a validation. -/
structure Totalled (totals final : CompletionTotals) (members : List MemberCompletion) : Prop where
  digests : final.digests = totals.digests ++ members.map digest
  events : final.requiredEvents = totals.requiredEvents + (members.map eventCount).sum

theorem validateResults_ok {current : CurrentPlan} {slots : List RuntimeSlot}
    (aligned : results.length = indices.length)
    (validated : validateResults current slots totals indices results = .ok final) (ready : ℕ) :
    ∃ members : List MemberCompletion, memberIndices members = indices ∧
      members.map result = results ∧ (∀ member ∈ members, member.Valid current slots) ∧
      Totalled totals final members ∧
      Chained totals.requiredEvents ready members := by
  induction indices generalizing totals results ready with
  | nil =>
    cases length_eq_zero_iff.mp aligned
    cases validated
    exact ⟨[], rfl, rfl, fun _ listed => absurd listed nofun, ⟨by simp, by simp⟩, trivial⟩
  | cons _ _ induction =>
    cases results with
    | nil => cases aligned
    | cons =>
      unfold validateResults at validated
      dsimp only at validated
      split at validated
      · cases validated
      rename_i held
      split at validated
      · cases validated
      rename_i checked
      split at validated
      · cases validated
      rename_i added addition
      split at validated
      · cases validated
      rename_i digested
      rcases exists_valid_member (holding_getD held) checked
          digested totals.requiredEvents ready with
        ⟨member, valid, index_eq, result_eq, digest_eq, start_eq, ready_eq, drains_eq⟩
      have totalled : added.digests = totals.digests ∧ added.requiredEvents =
          totals.requiredEvents + member.eventCount := by
        unfold addResult at addition
        split at addition
        · cases addition
        split at addition
        · cases addition
        cases addition
        refine ⟨rfl, ?_⟩
        unfold eventCount
        rw [result_eq, drains_eq, Nat.add_assoc]
      rcases induction (Nat.succ.inj aligned) validated member.nextReady with
        ⟨members, indices_eq, results_eq, all, sums, chained⟩
      refine ⟨member :: members, ?_, ?_, ?_, ⟨?_, ?_⟩, ?_⟩
      · rw [memberIndices_cons, index_eq, indices_eq]
      · rw [map_cons, result_eq, results_eq]
      · intro other listed
        rcases mem_cons.mp listed with rfl | later
        · exact valid
        · exact all other later
      · rw [sums.digests, totalled.1, map_cons, digest_eq, append_assoc]
        rfl
      · rw [sums.events]
        rw [totalled.2, map_cons, sum_cons, Nat.add_assoc]
      · refine ⟨start_eq, ready_eq, ?_⟩
        rw [← totalled.2]
        exact chained

theorem length_planDrafts (context : CompletionContext) (members : List MemberCompletion) :
    (planDrafts context members).length = (members.map eventCount).sum := by
  unfold planDrafts
  rw [length_flatMap]
  congr 1
  apply map_congr_left
  intro member _
  exact member.length_drafts context

/-! ## The outcomes -/

/-- The number of events of a completion. -/
def eventTotal (members : List MemberCompletion) : ℕ := (members.map eventCount).sum

variable (runtime : ControllerRuntime) (thread : ThreadId) (current : CurrentPlan)

/-- What the members of a completion have in common. -/
def completionContext (requiredEvents : ℕ) (nowNs : ℤ) : CompletionContext where
  thread := thread
  epoch := runtime.limits.epoch
  planSequence := current.plan.planSequence
  requiredEvents := requiredEvents
  nowNs := nowNs

/-- A validated completion of the current plan. -/
structure CompletionOf (current : CurrentPlan) (results : List ControllerBackendSequenceResult)
    (members : List MemberCompletion) : Prop where
  isCurrent : runtime.current = some current
  indices : memberIndices members = current.selectedSlotIndices
  results : members.map result = results
  valid : ∀ member ∈ members, member.Valid current runtime.slots
  chained : Chained 0 runtime.nextReadyEnqueueSequence members
  committed : runtime.outputCredits.Holds current.outputBurst .committed
  room : eventTotal members ≤ runtime.ingress.availableEventCredit

/-- The validation of the results asks for this number of events. -/
def RequiresEvents (results : List ControllerBackendSequenceResult) (events : ℕ) : Prop :=
  ∃ totals, validateResults current runtime.slots {}
      current.selectedSlotIndices results = .ok totals ∧
    totals.requiredEvents = events

/-- The credits and pending bursts after a completion. -/
inductive Settled (runtime : ControllerRuntime) (burst : OutputBurstLease) :
    ℕ → OutputBurstCreditPool → List (Option OutputBurstLease) → Prop where
  | released : Settled runtime burst 0 (runtime.outputCredits.setCredit burst.creditIndex
          { generation := burst.creditGeneration })
        runtime.pendingOutputBursts
  | pending {events index : ℕ} (nonzero : events ≠ 0)
      (free : runtime.pendingOutputBursts[index]? = some none) :
      Settled runtime burst events (runtime.outputCredits.assign burst .transferred)
        (runtime.pendingOutputBursts.set index (some burst))

/--
The runtime after the members were completed, apart from its credits; the
round counters are those of another runtime.
-/
def afterCompletion (mailbox : ControllerMailbox) (slots : List RuntimeSlot)
    (ready : ℕ) (counted : ControllerRuntime) (nowNs : ℤ) : ControllerRuntime :=
  { runtime.withMailbox mailbox with
    slots
    nextReadyEnqueueSequence := ready
    consecutiveDecodeRounds := counted.consecutiveDecodeRounds
    lastSuccessfulPlanWasProtectedPrefill := counted.lastSuccessfulPlanWasProtectedPrefill
    lastControllerNowNs := nowNs }

theorem settleBurst_cases {runtime : ControllerRuntime}
    (committed : runtime.outputCredits.Holds burst .committed) (completed : ControllerRuntime)
    (credits : completed.outputCredits = runtime.outputCredits.assign burst .transferred)
    (pending : completed.pendingOutputBursts = runtime.pendingOutputBursts) (events : ℕ) :
    (∃ pool bursts, Settled runtime burst events pool bursts ∧ completed.settleBurst burst events =
        ({ completed with
          outputCredits := pool
          pendingOutputBursts := bursts
          current := none }, .ok ())) ∨
    (∃ status, (∀ lease ∈ runtime.pendingOutputBursts, lease ≠ none) ∧
      completed.settleBurst burst events =
        ({ completed with state := .failed }, .error status)) := by
  have transferred : completed.outputCredits.Holds burst .transferred := by
    rw [credits]
    exact committed.setCredit_self .transferred
  unfold settleBurst
  split
  case isTrue none =>
    subst none
    left
    refine ⟨_, _, .released, ?_⟩
    rw [release_of_holds transferred, credits]
    rw [setCredit_setCredit, pending]
  rename_i nonzero
  split
  case h_1 missing =>
    right
    refine ⟨_, ?_, rfl⟩
    rw [← pending]
    intro lease member free
    have absent := findIdx?_eq_none_iff.mp missing lease member
    rw [free] at absent
    cases absent
  rename_i index found
  left
  rcases findIdx?_eq_some_iff_getElem.mp found with ⟨inside, free, -⟩
  have vacant : runtime.pendingOutputBursts[index]? = some none := by
    rw [← pending, getElem?_eq_getElem inside]
    exact congrArg some (Option.isNone_iff_eq_none.mp free)
  exact ⟨_, _, .pending nonzero vacant, by rw [credits, pending]⟩

/-- The events of the completion of a plan. -/
def completionDrafts (members : List MemberCompletion) (nowNs : ℤ) :
    List ControllerOutputEventDraft :=
  planDrafts (runtime.completionContext thread current (eventTotal members) nowNs) members

/-- The completion reached every member and settled its burst. -/
structure CompletedPlan (thread : ThreadId)
    (current : CurrentPlan) (members : List MemberCompletion) (nowNs : ℤ)
    (mailbox : ControllerMailbox) (slots : List RuntimeSlot)
    (credits : OutputBurstCreditPool)
    (pending : List (Option OutputBurstLease)) : Prop where
  emits : Emits thread runtime.ingress.mailbox
      (runtime.completionDrafts thread current members nowNs) mailbox
  slots : CompletedSlots (runtime.completionContext thread current (eventTotal members) nowNs)
      runtime.slots slots members
  settled : Settled runtime current.outputBurst (eventTotal members) credits pending
  counts : ¬ (current.plan.phase ≠ .prefill ∧ runtime.consecutiveDecodeRounds = u32Max)

/-- The completion stopped after the burst was transferred. -/
structure BrokenPlan (thread : ThreadId)
    (current : CurrentPlan) (members : List MemberCompletion) (nowNs : ℤ)
    (drafts : List ControllerOutputEventDraft)
    (mailbox : ControllerMailbox) (slots : List RuntimeSlot) : Prop where
  emits : Emits thread runtime.ingress.mailbox drafts mailbox
  part : drafts <+: runtime.completionDrafts thread current members nowNs
  slots : BrokenSlots runtime.slots slots members
  reason : (current.plan.phase ≠ .prefill ∧ runtime.consecutiveDecodeRounds = u32Max) ∨
      ¬ runtime.ingress.mailbox.Accepts thread
        (runtime.completionDrafts thread current members nowNs)

theorem recordRound_eq {runtime other : ControllerRuntime}
    (rounds : other.consecutiveDecodeRounds = runtime.consecutiveDecodeRounds) :
    other.recordRound phase tier = { other with
      consecutiveDecodeRounds := (runtime.recordRound phase tier).consecutiveDecodeRounds
      lastSuccessfulPlanWasProtectedPrefill :=
        (runtime.recordRound phase tier).lastSuccessfulPlanWasProtectedPrefill } := by
  unfold recordRound
  rw [rounds]
  split <;> rfl

/-- Every outcome of a completion after the transfer of its burst. -/
theorem applyCompletion_cases {runtime : ControllerRuntime} {current : CurrentPlan}
    (completion : CompletionOf runtime current results members)
    (thread : ThreadId) (nowNs : ℤ) (totalled : Totalled {} totals members)
    (distinct : current.selectedSlotIndices.Nodup) (vacant : none ∈ runtime.pendingOutputBursts) :
    (∃ mailbox slots credits pending,
      CompletedPlan runtime thread current members nowNs mailbox slots credits pending ∧
      { runtime with
        outputCredits := runtime.outputCredits.assign current.outputBurst .transferred
        lastControllerNowNs := nowNs }.applyCompletion thread current totals results nowNs =
        ({ runtime.afterCompletion mailbox slots
          (readyAfter runtime.nextReadyEnqueueSequence members)
          (runtime.recordRound current.plan.phase current.tier) nowNs with
          outputCredits := credits
          pendingOutputBursts := pending
          current := none }, .ok ())) ∨
    ∃ drafts mailbox slots ready status,
      BrokenPlan runtime thread current members nowNs drafts mailbox slots ∧
      { runtime with
        outputCredits := runtime.outputCredits.assign current.outputBurst .transferred
        lastControllerNowNs := nowNs }.applyCompletion thread current totals results nowNs =
        ({ runtime.afterCompletion mailbox slots ready runtime nowNs with
          outputCredits := runtime.outputCredits.setCredit
            current.outputBurst.creditIndex
            (current.outputBurst.credit .transferred)
          state := .failed }, .error status) := by
  have events : totals.requiredEvents = eventTotal members := by
    rw [totalled.events]
    exact Nat.zero_add _
  have digests : totals.digests = members.map digest := totalled.digests
  unfold applyCompletion
  split
  case isTrue wrapped =>
    refine .inr ⟨[], runtime.ingress.mailbox, runtime.slots,
      runtime.nextReadyEnqueueSequence, _, ?_, rfl⟩
    exact ⟨.refl _ _, nil_prefix, .refl _ _, .inl wrapped⟩
  rename_i counts
  dsimp only
  rw [events, digests, ← completion.indices, ← completion.results]
  have indices : (memberIndices members).Nodup := by
    rw [completion.indices]
    exact distinct
  rcases @completeMembers_cases
      (runtime.completionContext thread current (eventTotal members) nowNs)
      { runtime with
        outputCredits := runtime.outputCredits.assign current.outputBurst .transferred
        lastControllerNowNs := nowNs }
      members 0 (fun member listed => (completion.valid member listed).applies) indices
      completion.chained with
    ⟨mailbox, slots, done, emits, completed⟩ |
    ⟨mailbox, slots, ready, status, drafts, done, emits, part, blocked, broken⟩
  · left
    unfold completionContext at done
    rw [done]
    rcases settleBurst_cases completion.committed
        { runtime.afterCompletion mailbox slots
            (readyAfter runtime.nextReadyEnqueueSequence members)
            (runtime.recordRound current.plan.phase current.tier) nowNs with
          outputCredits := runtime.outputCredits.assign current.outputBurst .transferred }
        rfl rfl (eventTotal members) with
      ⟨credits, pending, settled, equal⟩ | ⟨status, full, -⟩
    · refine ⟨mailbox, slots, credits, pending, ⟨emits, completed, settled, counts⟩, .trans ?_ equal⟩
      exact congrArg (settleBurst · _ _) (recordRound_eq rfl)
    · exact (full none vacant rfl).elim
  right
  unfold completionContext at done
  rw [done]
  exact ⟨drafts, mailbox, slots, ready, status, ⟨emits, part, broken, .inr blocked⟩, rfl⟩

/-- Every outcome of `complete_current_plan`. -/
theorem completeCurrentPlan_cases (results : List ControllerBackendSequenceResult) (nowNs : ℤ)
    (distinct : ∀ current, runtime.current = some current → current.selectedSlotIndices.Nodup)
    (vacant : ∀ current, runtime.current = some current → none ∈ runtime.pendingOutputBursts) :
    (∃ status, runtime.completeCurrentPlan thread results nowNs = (runtime, .error status)) ∨
    (∃ current members mailbox slots credits pending,
      CompletionOf runtime current results members ∧
      runtime.RequiresEvents current results (eventTotal members) ∧
      CompletedPlan runtime thread current members nowNs mailbox slots credits pending ∧
      runtime.completeCurrentPlan thread results nowNs = ({ runtime.afterCompletion mailbox slots
          (readyAfter runtime.nextReadyEnqueueSequence members)
          (runtime.recordRound current.plan.phase current.tier) nowNs with
          outputCredits := credits
          pendingOutputBursts := pending
          current := none }, .ok ())) ∨
    ∃ current members drafts mailbox slots ready status,
      CompletionOf runtime current results members ∧
      runtime.RequiresEvents current results (eventTotal members) ∧
      BrokenPlan runtime thread current members nowNs drafts mailbox slots ∧
      runtime.completeCurrentPlan thread results nowNs =
        ({ runtime.afterCompletion mailbox slots ready runtime nowNs with
          outputCredits := runtime.outputCredits.setCredit
            current.outputBurst.creditIndex
            (current.outputBurst.credit .transferred)
          state := .failed }, .error status) := by
  unfold completeCurrentPlan
  split
  · exact .inl ⟨_, rfl⟩
  rename_i current isCurrent
  split
  · exact .inl ⟨_, rfl⟩
  rename_i batch
  simp only [not_or, not_not] at batch
  split
  · exact .inl ⟨_, rfl⟩
  rename_i totals validated
  rcases validateResults_ok batch.1 validated runtime.nextReadyEnqueueSequence with
    ⟨members, indices, listed, valid, totalled, chained⟩
  split
  · exact .inl ⟨_, rfl⟩
  rename_i room
  split
  · exact .inl ⟨_, rfl⟩
  rcases runtime.outputCredits.validate_cases current.outputBurst .committed with
    ⟨-, holds⟩ | ⟨⟨status, refused⟩, -⟩
  · have events : totals.requiredEvents = eventTotal members := by
      rw [totalled.events]
      exact Nat.zero_add _
    have completion : CompletionOf runtime current results members :=
      { isCurrent
        indices
        results := listed
        valid
        chained
        committed := holds
        room := by
          rw [← events]
          exact Nat.le_of_not_lt room }
    unfold transfer
    rw [move_of_holds .transferred holds]
    right
    rcases applyCompletion_cases completion thread nowNs totalled (distinct current isCurrent)
        (vacant current isCurrent) with
      ⟨mailbox, slots, credits, pending, completed, equal⟩ |
      ⟨drafts, mailbox, slots, ready, status, broken, equal⟩
    · exact .inl ⟨current, members, mailbox, slots, credits,
        pending, completion, ⟨totals, validated, events⟩, completed, equal⟩
    exact .inr ⟨current, members, drafts, mailbox, slots, ready, status,
      completion, ⟨totals, validated, events⟩, broken, equal⟩
  unfold transfer move
  rw [refused]
  exact .inl ⟨status, rfl⟩

/-! ## Completion from sampled tokens -/

/-- Completing from samples is completing with the results they stand for. -/
theorem completeCurrentSampledTokens_cases (sampledTokenIds : List ℕ) (nowNs : ℤ) :
    (∃ status, runtime.completeCurrentSampledTokens thread sampledTokenIds nowNs =
        (runtime, .error status)) ∨
    ∃ current results, runtime.current = some current ∧
      current.plan.sequenceCount = current.selectedSlotIndices.length ∧
      runtime.sampledResults current current.selectedSlotIndices
        current.plan.realTokenCounts sampledTokenIds = .ok (results, []) ∧
      runtime.completeCurrentSampledTokens thread sampledTokenIds nowNs =
        runtime.completeCurrentPlan thread results nowNs := by
  unfold completeCurrentSampledTokens
  split
  · exact .inl ⟨_, rfl⟩
  rename_i current isCurrent
  split
  · exact .inl ⟨_, rfl⟩
  rename_i counted
  split
  · exact .inl ⟨_, rfl⟩
  rename_i results _ sampled
  split
  · exact .inl ⟨_, rfl⟩
  rename_i used
  cases length_eq_zero_iff.mp (not_not.mp used)
  exact .inr ⟨current, results, isCurrent, not_not.mp counted, sampled, rfl⟩

end Pih.ControllerRuntime
