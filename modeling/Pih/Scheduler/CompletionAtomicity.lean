import Pih.Scheduler.ControllerRuns

/-!
# Completions are all or nothing

A refused completion leaves the runtime as it is, and an accepted one publishes
exactly the events that its validation asked for, numbered in order.  Between
the two stands the completion that breaks after its validation: this module
lists what can break it.
-/

namespace Pih.ControllerRuntime

open List ControllerOutputEventDraft

/-! ## The places of the events -/

/-- The place of an event among those of its plan. -/
def bundlePlace (draft : ControllerOutputEventDraft) : ℕ × ℕ :=
  (draft.planEventIndex, draft.planEventCount)

variable (context : CompletionContext)

theorem bundlePlaces_tokenDrafts (generation : ℕ) (digest : Sha256Digest)
    (ordinal index : ℕ) (tokens : List ℕ) :
    (tokenDrafts context generation digest ordinal index tokens).map bundlePlace =
      (range' index tokens.length).map (·, context.requiredEvents) := by
  induction tokens generalizing ordinal index with
  | nil => rfl
  | cons _ _ induction =>
    simp [tokenDrafts, induction, range'_succ, bundlePlace, bundleDraft]

theorem bundlePlaces_drafts (member : MemberCompletion) : (member.drafts context).map bundlePlace =
      (range' member.start member.eventCount).map (·, context.requiredEvents) := by
  unfold MemberCompletion.drafts MemberCompletion.eventCount
  rw [map_append, bundlePlaces_tokenDrafts]
  split
  · simp [range'_concat, bundlePlace, bundleDraft]
  · simp

/-- The events of a plan are numbered in order. -/
theorem bundlePlaces_planDrafts (chained : Chained start ready members) :
    (planDrafts context members).map bundlePlace =
      (range' start (eventTotal members)).map (·, context.requiredEvents) := by
  induction members generalizing start ready with
  | nil => rfl
  | cons _ _ induction =>
    rcases chained with ⟨rfl, -, chained⟩
    have later := induction chained
    unfold planDrafts eventTotal at later ⊢
    rw [flatMap_cons, map_append, later, bundlePlaces_drafts, ← map_append,
      range'_append_1, map_cons, sum_cons]

/-! ## Well-formed events -/

theorem mem_tokenDrafts (listed :
      draft ∈ tokenDrafts context generation digest ordinal index tokens) :
    ∃ token ∈ tokens, ∃ ordinal index, draft =
      bundleDraft context .tokenCommitted generation (ordinal + 1) token digest index .none := by
  induction tokens generalizing ordinal index with
  | nil => cases listed
  | cons token _ induction =>
    rcases mem_cons.mp listed with rfl | later
    · exact ⟨token, .head _, ordinal, index, rfl⟩
    rcases induction later with ⟨other, member, found⟩
    exact ⟨other, .tail _ member, found⟩

theorem wellFormed_of_mem_drafts {member : MemberCompletion}
    (epoch : context.epoch ≠ 0) (plan : context.planSequence ≠ 0)
    (generation : member.after.sequenceGeneration ≠ 0) (digest : member.digest.nonzero = true)
    (vocabulary : ∀ token ∈ member.result.acceptedTokenIds, token < kVocabularySize)
    (listed : draft ∈ member.drafts context)
    (inside : draft.planEventIndex < context.requiredEvents) : draft.wellFormed = true := by
  rcases mem_append.mp listed with told | drained
  · rcases mem_tokenDrafts context told with ⟨token, accepted, _, _, rfl⟩
    have counted := Nat.ne_zero_of_lt inside
    simp_all [wellFormed, planBundle, bundleDraft]
  split at drained
  · rw [mem_singleton] at drained
    subst drained
    have counted := Nat.ne_zero_of_lt inside
    simp_all [wellFormed, planBundle, bundleDraft]
  · cases drained

/-! ## What breaks a completion -/

/-- What stops a completion after its validation. -/
inductive Obstacle (runtime : ControllerRuntime) (thread : ThreadId) (current : CurrentPlan)
    (results : List ControllerBackendSequenceResult) (events : ℕ) :
    Prop where
  | rounds (phase : current.plan.phase ≠ .prefill) (last : runtime.consecutiveDecodeRounds = u32Max)
  | foreign (other : ¬ runtime.ingress.mailbox.Owner thread)
  | zeroDigest {result : ControllerBackendSequenceResult}
      {digest : Sha256Digest} (listed : result ∈ results)
      (digested : completionStateDigest current result.completion = .ok digest)
      (zero : digest.nonzero = false)
  | numbers (few : runtime.ingress.mailbox.nextEventSequence = 0 ∨
        u64Max + 1 < runtime.ingress.mailbox.nextEventSequence + events)

section

variable {runtime : ControllerRuntime} {current : CurrentPlan}
  {results : List ControllerBackendSequenceResult}

/-- Without an obstacle the mailbox takes every event of the completion. -/
theorem CompletionOf.accepts (base : runtime.Base) (epoch : runtime.limits.epoch ≠ 0)
    (completion : CompletionOf runtime current results members)
    (clear : ¬ Obstacle runtime thread current results (eventTotal members)) (now : ℤ) :
    runtime.ingress.mailbox.Accepts thread
      (runtime.completionDrafts thread current members now) where
  owner := not_not.mp fun other => clear (.foreign other)
  wellFormed := by
    intro draft listed
    have placed := mem_map_of_mem (f := bundlePlace) listed
    unfold completionDrafts at placed listed
    rw [bundlePlaces_planDrafts _ completion.chained] at placed
    rcases mem_map.mp placed with ⟨index, inside, same⟩
    rcases mem_flatMap.mp listed with ⟨member, among, drafted⟩
    have valid := completion.valid member among
    have linked := base.links.linked current completion.isCurrent
    have sound := (base.links.sound _ _ _ valid.applies.holding).complete valid.applies.complete
    refine wellFormed_of_mem_drafts _ epoch linked.nonzero sound.generation ?_
      valid.validated.vocabulary drafted ?_
    · by_contra zero
      refine clear (.zeroDigest ?_ valid.digest (by simpa using zero))
      rw [← completion.results]
      exact mem_map_of_mem among
    · have index_eq : index = draft.planEventIndex := congrArg Prod.fst same
      rw [← index_eq]
      exact (mem_range'_1.mp inside).2.trans_eq (Nat.zero_add _)
  room := by
    have room := completion.room
    have fits := runtime.ingress.mailbox.events.size_le
    unfold ControllerIngress.availableEventCredit ControllerMailbox.eventAvailableCapacity at room
    unfold completionDrafts
    rw [ControllerMailbox.length_queuedEvents, length_planDrafts]
    unfold eventTotal at room
    unfold RingBuffer.capacity
    omega
  counter := by
    intro _
    constructor
    · exact fun zero => clear (.numbers (.inl zero))
    · by_contra few
      unfold completionDrafts at few
      rw [length_planDrafts] at few
      exact clear (.numbers (.inr (Nat.lt_of_not_le few)))

/-! ## The outcomes -/

/-- What the answer to a completion of the plan promises. -/
structure AllOrNothing (runtime : ControllerRuntime) (call : ControllerCall)
    (answer : ControllerRuntime × Result Unit) : Prop where
  refused : ∀ status, answer.2 = .error status → answer.1.state = .ready → answer.1 = runtime
  told : answer.2 = .ok () → ∃ current results now count events, runtime.current = some current ∧
      runtime.CompletesWith current call.operation results now ∧
      runtime.RequiresEvents current results count ∧
      answer.1.ingress.mailbox.queuedEvents = runtime.ingress.mailbox.queuedEvents ++ events ∧
      events.map (fun event => (event.planEventIndex, event.planEventCount)) =
        (range count).map fun index => (index, count)
  broken : ∀ status, answer.2 = .error status → answer.1 ≠ runtime → ∃ current results now count,
        runtime.current = some current ∧
        runtime.CompletesWith current call.operation results now ∧
        runtime.RequiresEvents current results count ∧
        Obstacle runtime call.thread current results count

theorem AllOrNothing.of_refused (status : Status) :
    AllOrNothing runtime call (runtime, .error status) where
  refused := fun _ _ _ => rfl
  told := nofun
  broken := fun _ _ other => (other rfl).elim

theorem completeCurrentPlan_allOrNothing (base : runtime.Base) (epoch : runtime.limits.epoch ≠ 0)
    (operation : ∀ current, runtime.current = some current →
      runtime.CompletesWith current call.operation results now) :
    AllOrNothing runtime call (runtime.completeCurrentPlan call.thread results now) := by
  have consistent := base.links.consistent base.credits
  rcases runtime.completeCurrentPlan_cases call.thread results now
      consistent.distinct consistent.vacant with
    ⟨status, refused⟩ |
    ⟨current, members, mailbox, slots, _, _, completion, required, completed, equal⟩ |
    ⟨current, members, _, mailbox, slots, _, status, completion, required, broken, equal⟩
  · rw [refused]
    exact .of_refused status
  · rw [equal]
    refine ⟨nofun, fun _ => ?_, nofun⟩
    rcases completed.emits.queuedEvents with ⟨events, queue, drafted⟩
    refine ⟨current, results, now, _, events, completion.isCurrent,
      operation current completion.isCurrent, required, queue, ?_⟩
    have places := bundlePlaces_planDrafts
        (runtime.completionContext call.thread current (eventTotal members) now)
        completion.chained
    rw [range_eq_range']
    refine Eq.trans ?_ places
    exact (map_map ..).symm.trans (congrArg (map bundlePlace) drafted)
  rw [equal]
  refine ⟨nofun, nofun, fun _ _ _ => ⟨current, results, now, _,
    completion.isCurrent, operation current completion.isCurrent, required, ?_⟩⟩
  rcases broken.reason with ⟨phase, last⟩ | blocked
  · exact .rounds phase last
  · by_contra clear
    exact blocked (completion.accepts base epoch clear now)

end

/--
In every state that a runtime reaches, a completion by results or by samples
that reports an error and leaves the runtime ready changed nothing, and one
that succeeds published exactly the events its validation asked for, numbered
from zero.  A completion that breaks in between had one of four obstacles: the
decode round counter is at its end, another thread owns the mailbox, the
digest of a result is zero, or too few event numbers are left.
-/
theorem completion_all_or_nothing {limits : ControllerRuntimeLimits}
    {allowed : ControllerHistory → ControllerRuntime → ControllerCall → Prop}
    {history : ControllerHistory} {runtime : ControllerRuntime}
    (run : ControllerRun limits allowed history runtime) (thread : ThreadId) (now : ℤ) :
    (∀ results, AllOrNothing runtime ⟨thread, .completeCurrentPlan results now⟩
        (runtime.completeCurrentPlan thread results now)) ∧
      ∀ tokens, AllOrNothing runtime ⟨thread, .completeCurrentSampledTokens tokens now⟩
        (runtime.completeCurrentSampledTokens thread tokens now) := by
  have epoch : runtime.limits.epoch ≠ 0 := by
    rw [run.limits_eq]
    rcases run with ⟨_, created, -⟩
    rcases Result.else_eq_ok.mp created with ⟨consistent, -⟩
    simp only [limitsConsistent, decide_eq_true_eq, not_or, not_not] at consistent
    exact consistent.1
  constructor
  · intro results
    exact completeCurrentPlan_allOrNothing run.base epoch fun current _ => .results results now
  · intro tokens
    rcases runtime.completeCurrentSampledTokens_cases thread tokens now with
      ⟨status, refused⟩ | ⟨_, _, isCurrent, counted, sampled, equal⟩
    · rw [refused]
      exact .of_refused status
    rw [equal]
    refine completeCurrentPlan_allOrNothing run.base epoch ?_
    intro other isOther
    cases isOther.symm.trans isCurrent
    exact .sampled tokens now counted sampled

/-- The calls up to a plan in flight, all from the first thread. -/
def flightScript : List (ControllerRuntime → ControllerCall) :=
  [fun _ => ⟨1, .submitAdmit 11 [1] 2 {}⟩, fun _ => ⟨1, .step 0 none⟩,
    fun _ => ⟨1, .prepareNextPlan 0⟩, callCurrent 1 .commitCurrentPlan,
    callCurrent 1 .markCurrentPlanInFlight]

set_option maxRecDepth 100000 in
/-- A plan in flight that its own thread completes with one token. -/
theorem completion_all_or_nothing_token : ∃ history runtime,
      ControllerRun smallLimits (fun _ _ _ => True) history runtime ∧
        (runtime.completeCurrentSampledTokens 1 [42] 0).2 = .ok () ∧
        AllOrNothing runtime ⟨1, .completeCurrentSampledTokens [42] 0⟩
          (runtime.completeCurrentSampledTokens 1 [42] 0) := by
  have reaches : scriptReaches smallLimits (fun _ _ _ => True) flightScript (fun _ runtime =>
        (runtime.completeCurrentSampledTokens 1 [42] 0).2 = .ok ()) =
      true := by
    decide +kernel
  rcases ControllerRun.of_script reaches with ⟨history, runtime, run, done⟩
  exact ⟨history, runtime, run, of_decide_eq_true done, (completion_all_or_nothing run 1 0).2 [42]⟩

set_option maxRecDepth 100000 in
/-- A second thread that completes the plan finds the reserved event refused. -/
theorem completion_publish_refused : ∃ history runtime,
      ControllerRun smallLimits (fun _ _ _ => True) history runtime ∧ runtime.state = .ready ∧
        (runtime.completeCurrentSampledTokens 2 [42] 0).2 = .error
          (.internal "reserved controller token event publish failed") ∧
        (runtime.completeCurrentSampledTokens 2 [42] 0).1.state = .failed := by
  have reaches : scriptReaches smallLimits (fun _ _ _ => True) flightScript
        (fun _ runtime => runtime.state = .ready ∧
          (runtime.completeCurrentSampledTokens 2 [42] 0).2 = .error
            (.internal "reserved controller token event publish failed") ∧
          (runtime.completeCurrentSampledTokens 2 [42] 0).1.state = .failed) =
      true := by
    decide +kernel
  rcases ControllerRun.of_script reaches with ⟨history, runtime, run, done⟩
  exact ⟨history, runtime, run, of_decide_eq_true done⟩

end Pih.ControllerRuntime
