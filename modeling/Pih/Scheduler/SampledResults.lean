import Pih.Scheduler.Transitions

/-!
# Results made from sampled tokens

The loop that turns sampled tokens into results: each member gets a result
that commits all its tokens, with a sample exactly if the plan decodes or the
member's prompt is complete.
-/

namespace Pih.ControllerRuntime

/-- The result that the loop makes for one member. -/
structure SampledAt (runtime : ControllerRuntime) (current : CurrentPlan)
    (samples : List ℕ) (index count : ℕ)
    (result : ControllerBackendSequenceResult) (slot : RuntimeSlot)
    (sequence : ControllerSequence) (sample : Option ℕ) : Prop where
  holding : Holding runtime.slots index slot sequence
  sampled : sample.isSome = true ↔ current.plan.phase ≠ .prefill ∨
      sequence.modelProcessedLength + count = sequence.promptTokenCount
  given : ∀ token ∈ sample, token ∈ samples
  result_eq : result = runtime.sampledResult current slot sequence
      (sequence.modelProcessedLength + count) sample

variable {current : CurrentPlan}

theorem sampledResults_at
    (sampled : runtime.sampledResults current indices counts samples = .ok (results, unused))
    {position : ℕ} (found : results[position]? = some result) :
    ∃ index count slot sequence sample,
      indices[position]? = some index ∧ counts[position]? = some count ∧
        SampledAt runtime current samples index count result slot sequence
          sample := by
  induction indices generalizing counts samples results unused position with
  | nil =>
    cases sampled
    cases found
  | cons index _ induction =>
    cases counts with
    | nil =>
      cases sampled
      cases found
    | cons count =>
      unfold sampledResults at sampled
      dsimp only at sampled
      split at sampled
      · cases sampled
      rename_i sequence held
      have holding := holding_getD held
      split at sampled
      · cases sampled
      rename_i added
      cases checkedAddU64_ok added
      split at sampled
      · cases sampled
      split at sampled
      case isTrue produces =>
        split at sampled
        · cases sampled
        split at sampled
        · cases sampled
        split at sampled
        · cases sampled
        rename_i others _ done
        cases sampled
        cases position with
        | zero =>
          cases found
          exact ⟨index, count, _, sequence, _, rfl, rfl, holding, by simp [produces], by simp, rfl⟩
        | succ =>
          rcases induction done found with
            ⟨other, others, slot, member, drawn, atIndex, atCount, made⟩
          refine ⟨other, others, slot, member, drawn, atIndex, atCount, made.holding, made.sampled,
            ?_, made.result_eq⟩
          exact fun token drew => .tail _ (made.given token drew)
      rename_i silent
      split at sampled
      · cases sampled
      rename_i done
      cases sampled
      cases position with
      | zero =>
        cases found
        exact ⟨index, count, _, sequence, none, rfl, rfl, holding, by simp [silent], by simp, rfl⟩
      | succ => exact induction done found

/-- A sampled result that ends its request has a token. -/
theorem SampledAt.accepted_ne_zero {sequence : ControllerSequence}
    (made : SampledAt runtime current samples index count result slot sequence sample)
    (maximum : slot.request.maximumNewTokens ≠ 0) (terminal : result.completion.terminal = true) :
    result.completion.acceptedCompletionCount ≠ 0 := by
  rw [made.result_eq] at terminal ⊢
  unfold sampledResult at terminal ⊢
  cases sample with
  | none =>
    simp only [Option.any_none, Bool.false_eq_true, or_false, decide_eq_true_eq] at terminal
    rw [terminal]
    exact maximum
  | some => simp

/-- The sampled result of a member of the plan. -/
theorem CompletionOf.sampledAt {results : List ControllerBackendSequenceResult}
    (completion : CompletionOf runtime current results members)
    (sampled : runtime.sampledResults current current.selectedSlotIndices
      current.plan.realTokenCounts tokens = .ok (results, unused))
    {position : ℕ} (found : members[position]? = some member) :
    ∃ count sample, current.plan.realTokenCounts[position]? = some count ∧
      SampledAt runtime current tokens member.slotIndex count
        member.result member.slot member.before sample := by
  have result : results[position]? = some member.result := by
    rw [← completion.results, List.getElem?_map, found]
    rfl
  have place : current.selectedSlotIndices[position]? = some member.slotIndex := by
    rw [← completion.indices]
    unfold memberIndices
    rw [List.getElem?_map, found]
    rfl
  rcases sampledResults_at sampled result with
    ⟨_, count, _, _, sample, atIndex, atCount, made⟩
  cases atIndex.symm.trans place
  have valid := completion.valid member (List.mem_of_getElem? found)
  rcases made.holding.unique valid.applies.holding with ⟨rfl, rfl⟩
  exact ⟨count, sample, atCount, made⟩

end Pih.ControllerRuntime
