import Pih.Scheduler.RequestWords

/-!
# What a controller run guarantees

The current plan and the slots agree, live sequences follow what was submitted
for them, and a prepared plan carries the next tokens of its requests.
-/

namespace Pih.ControllerRuntime

open List

variable {limits : ControllerRuntimeLimits} {history : ControllerHistory}
  {runtime : ControllerRuntime}

/--
The members of the current plan are different slots that hold the sequences of
its inputs; a sequence works on a plan only if the current plan selects it; and
while the runtime is ready every member works on the plan.
-/
theorem plan_and_slots_agree
    {allowed : ControllerHistory → ControllerRuntime → ControllerCall → Prop}
    (run : ControllerRun limits allowed history runtime) :
    (∀ current, runtime.current = some current → Linked runtime.slots current) ∧
    (∀ index slot sequence, Holding runtime.slots index slot sequence →
      sequence.activePlanSequence ≠ 0 →
      ∃ current, runtime.current = some current ∧ index ∈ current.selectedSlotIndices) ∧
    (runtime.state = .ready → ∀ current, runtime.current = some current →
      ∀ index ∈ current.selectedSlotIndices, ∀ slot sequence,
        Holding runtime.slots index slot sequence → sequence.activePlanSequence ≠ 0) := by
  have links := run.base.links
  exact ⟨links.linked, links.active, links.busy⟩

/-! ## Sequences and their submissions -/

/--
The sequence works on the submitted payload.  While it is open and no completion
has stopped midway, its events are its admission and one for each accepted token.
-/
structure Follows (history : ControllerHistory) (runtime : ControllerRuntime) (slot : RuntimeSlot)
    (sequence : ControllerSequence) (submission : Submission) : Prop where
  works : WorksOn runtime.ingress.requests slot sequence submission
  told : ¬ Halted runtime → sequence.state.ended = false →
      sequence.acceptedCompletionCount ≤ submission.maximumNewTokens ∧
        word history submission.requestGeneration =
          .admitted :: tokenRun 0 sequence.acceptedCompletionCount

/-- The tokens of an input are the next ones of its request: the next part of
the prompt, or the pending token. -/
def Feeds (history : ControllerHistory) (runtime : ControllerRuntime) (phase : PackedTokenPhase)
    (input : PackedSequenceInput) (tokens : List ℕ) : Prop :=
  ∃ submission ∈ submissions history, ∃ index slot sequence,
    Live runtime.slots index slot sequence ∧
    WorksOn runtime.ingress.requests slot sequence submission ∧
    sequence.sequenceGeneration = input.sequenceGeneration ∧
    sequence.modelProcessedLength = input.committedStartPosition ∧
    tokens.length = input.realTokenCount ∧
    (phase = .prefill → tokens =
      slice submission.promptTokenIds input.committedStartPosition input.realTokenCount) ∧
    (phase ≠ .prefill → tokens = slot.pendingToken.toList)

/-- The rows of the plan are those of its inputs, with the tokens of their requests. -/
def FeedsAll (history : ControllerHistory) (runtime : ControllerRuntime)
    (view : ControllerPreparedPlanView) : Prop :=
  ∃ tokens : List PackedSequenceTokens, tokens.length = view.plan.sequences.length ∧
    view.metadata.realRows = PackedTokenMetadataArena.planRows 0 view.plan.sequences tokens ∧
    ∀ input sequence, (input, sequence) ∈ view.plan.sequences.zip tokens →
      Feeds history runtime view.plan.phase input sequence.tokenIds

theorem nextTokens_ok {start count : ℕ}
    (read : runtime.nextTokens slot phase start count = .ok tokens) :
    (phase = .prefill → tokens = slice (runtime.ingress.requests.read
        slot.request.promptTokenIds) start count) ∧
      (phase ≠ .prefill → tokens = slot.pendingToken.toList) := by
  unfold nextTokens at read
  split at read
  case isTrue prefill =>
    rcases Result.else_eq_ok.mp read with ⟨inside, read⟩
    cases read
    refine ⟨fun _ => ?_, fun other => (other prefill).elim⟩
    simp only [not_or, not_lt] at inside
    unfold ControllerRequestArena.read slice
    rw [drop_take, take_take, drop_drop, Nat.min_eq_left inside.2]
  case isFalse other =>
    refine ⟨fun prefill => (other prefill).elim, fun _ => ?_⟩
    split at read
    · cases read
    rename_i pending
    cases (Result.else_eq_ok.mp read).2
    rw [pending, Option.toList_some]

section

variable (run : ControllerRun limits submittedOnce history runtime)

include run

theorem words_of_run : Orderly history runtime ∧ Words history runtime :=
  run.inductOrderly (fun _ _ _ once => once) Words (fun _ fresh => fresh.words)
    fun _ _ _ _ _ orderly words once transition => words.preserved orderly once transition

/-- Every live sequence follows a submission. -/
theorem live_sequences_follow_submissions :
    ∀ index slot sequence, Live runtime.slots index slot sequence →
      ∃ submission ∈ submissions history, Follows history runtime slot sequence submission := by
  rcases words_of_run run with ⟨orderly, words⟩
  intro index slot sequence live
  rcases orderly.ledger.worksOn orderly.books.live live with ⟨submission, known, works⟩
  refine ⟨submission, known, works, fun calm running => ?_⟩
  rw [works.generation, ← works.maximum]
  exact (words.agrees index slot sequence live.holding).opened calm running

/-- Every prepared plan feeds its requests. -/
theorem prepared_plan_feeds_requests {now : ℤ} {view : ControllerPreparedPlanView}
    (prepared : (runtime.prepareNextPlan now).2 = .ok (some view)) :
    FeedsAll history runtime view := by
  rcases words_of_run run with ⟨orderly, -⟩
  rcases prepareNextPlan_cases orderly.base.links.sound orderly.base.links.sized now with
    ⟨_, _, _, _, same, -, nothing, -⟩ |
    ⟨_, _, draft, _, _, _, _, _, same, -, done, -⟩
  · rw [same] at prepared
    exact (nothing view prepared).elim
  rw [same] at prepared
  cases prepared
  have drafted := done.drafted
  refine ⟨draft.members.map CandidateEntry.tokens, ?_, drafted.rows, ?_⟩
  · simp [PlanDraft.view, drafted.sequences]
  intro input sequence pair
  change (input, sequence) ∈ draft.plan.sequences.zip _ at pair
  rw [drafted.sequences, zip_map'] at pair
  rcases mem_map.mp pair with ⟨entry, member, equal⟩
  cases equal
  rcases drafted.described entry member with ⟨slot, held, describes⟩
  have live := orderly.live_of_ready done.ready describes.holding
  rcases orderly.ledger.worksOn orderly.books.live live with ⟨submission, known, works⟩
  have read := nextTokens_ok describes.tokens
  rw [drafted.phase entry member, works.tokens, ← describes.start] at read
  exact ⟨submission, known, entry.slotIndex, slot, held, live, works, describes.state.symm,
    describes.start.symm, drafted.counts entry member, read⟩

end

set_option maxRecDepth 100000 in
/-- A request of three tokens is admitted, and a plan can be prepared for it. -/
theorem exists_admitted : ∃ history runtime view,
    ControllerRun smallLimits submittedOnce history runtime ∧
      (runtime.prepareNextPlan 0).2 = .ok (some view) := by
  have reaches : scriptReaches smallLimits submittedOnce
      [fun _ => ⟨1, .submitAdmit 11 [1, 2, 3] 2 {}⟩, fun _ => ⟨1, .step 0 none⟩]
      (fun _ runtime => (runtime.prepareNextPlan 0).2.toOption.join.isSome) = true := by
    decide +kernel
  rcases ControllerRun.of_script reaches with ⟨history, runtime, run, prepared⟩
  rcases answer : (runtime.prepareNextPlan 0).2 with _ | _ | view
  all_goals rw [answer] at prepared
  · cases prepared
  · cases prepared
  exact ⟨history, runtime, view, run, answer⟩

set_option maxRecDepth 100000 in
/-- The plan is in flight, and its one member is live. -/
theorem exists_in_flight : ∃ history runtime current slot sequence,
    ControllerRun smallLimits submittedOnce history runtime ∧ runtime.state = .ready ∧
      runtime.current = some current ∧ current.selectedSlotIndices = [0] ∧
      Live runtime.slots 0 slot sequence := by
  have reaches : scriptReaches smallLimits submittedOnce
      ([fun _ => ⟨1, .submitAdmit 11 [1, 2, 3] 2 {}⟩, fun _ => ⟨1, .step 0 none⟩] ++ planScript)
      (fun _ runtime => decide (runtime.state = .ready) &&
        (runtime.current.any fun current => current.selectedSlotIndices = [0]) &&
        runtime.slots[0]?.any isLive) = true := by
    decide +kernel
  rcases ControllerRun.of_script reaches with ⟨history, runtime, run, reached⟩
  simp only [Bool.and_eq_true, Option.any_eq_true, decide_eq_true_eq, isLive] at reached
  rcases reached with ⟨⟨ready, current, isCurrent, selected⟩, slot, found, sequence, held, running⟩
  exact ⟨history, runtime, current, slot, sequence, run, ready, isCurrent, selected,
    ⟨found, held⟩, by simpa using running⟩

/-- The plan in flight is linked to the slot of its member, which works on it. -/
theorem plan_and_slots_agree_in_flight : ∃ history runtime current slot sequence,
    ControllerRun smallLimits submittedOnce history runtime ∧ runtime.current = some current ∧
      Linked runtime.slots current ∧ Holding runtime.slots 0 slot sequence ∧
      sequence.activePlanSequence ≠ 0 := by
  rcases exists_in_flight with
    ⟨history, runtime, current, slot, sequence, run, ready, same, selected, live⟩
  have agree := plan_and_slots_agree run
  exact ⟨history, runtime, current, slot, sequence, run, same, agree.1 current same, live.holding,
    agree.2.2 ready current same 0 (by simp [selected]) slot sequence live.holding⟩

theorem live_sequences_follow_submissions_in_flight : ∃ history runtime slot sequence,
    ControllerRun smallLimits submittedOnce history runtime ∧ Live runtime.slots 0 slot sequence ∧
      ∃ submission ∈ submissions history, Follows history runtime slot sequence submission := by
  rcases exists_in_flight with ⟨history, runtime, -, slot, sequence, run, -, -, -, live⟩
  exact ⟨history, runtime, slot, sequence, run, live,
    live_sequences_follow_submissions run 0 slot sequence live⟩

theorem prepared_plan_feeds_requests_admitted : ∃ history runtime view,
    (runtime.prepareNextPlan 0).2 = .ok (some view) ∧ FeedsAll history runtime view := by
  rcases exists_admitted with ⟨history, runtime, view, run, prepared⟩
  exact ⟨history, runtime, view, prepared, prepared_plan_feeds_requests run prepared⟩

end Pih.ControllerRuntime
