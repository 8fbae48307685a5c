import Pih.Scheduler.EventWords
import Pih.Scheduler.SampledResults
import Pih.Scheduler.SubmittedRequests

/-!
# The members of a completed plan

What the validation of a completion says about the sequences before and after
it, and that the members of a plan are different requests.
-/

namespace Pih.ControllerRuntime

open ControllerSequence

variable {runtime : ControllerRuntime}

namespace MemberCompletion.Valid

variable {current : CurrentPlan} {member : MemberCompletion}

variable (valid : member.Valid current runtime.slots)

include valid

theorem after_eq : member.after.sequenceGeneration = member.before.sequenceGeneration ∧
      member.after.drainIsCancel = member.before.drainIsCancel ∧
      member.after.state = member.before.completedState member.result.completion ∧
      member.after.acceptedCompletionCount = member.result.completion.acceptedCompletionCount := by
  rcases complete_ok valid.applies.complete with ⟨-, equal⟩
  rw [equal]
  exact ⟨rfl, rfl, rfl, rfl⟩

theorem unended : member.before.state.ended = false := by
  rcases valid.validated.completes.flying with flying | cancelled
  · rw [flying]
    cases member.before.activePhase <;> rfl
  simp only [cancelledCommitted, decide_eq_true_eq] at cancelled
  rw [cancelled.1]
  rfl

theorem live : Live runtime.slots member.slotIndex member.slot member.before :=
  ⟨valid.applies.holding, (tracks_complete valid.applies.complete).liveBefore⟩

theorem drains_iff : member.drains = true ↔
      willDrain member.before member.result.completion = true := by
  unfold MemberCompletion.drains
  rw [decide_eq_true_iff, valid.after_eq.2.2.1]
  exact completedState_draining_iff _ _

/-- The member drains or goes on. -/
theorem ended_after : member.after.state.ended = member.drains := by
  unfold MemberCompletion.drains
  rw [valid.after_eq.2.2.1]
  unfold completedState
  split
  · rfl
  split
  · rfl
  · split <;> rfl

/-- Only a request that reached its limit drains for its length. -/
theorem finishReason_length (length : finishReason member.slot member.result.completion = .length) :
    member.after.acceptedCompletionCount = member.slot.request.maximumNewTokens := by
  rw [valid.after_eq.2.2.2]
  unfold finishReason at length
  split at length
  · split at length
    case isTrue same => exact same
    · cases length
  · cases length

theorem bounded : member.after.acceptedCompletionCount ≤ member.slot.request.maximumNewTokens := by
  rw [valid.after_eq.2.2.2]
  exact valid.validated.limit

end MemberCompletion.Valid

theorem CompletionOf.distinctMembers {current : CurrentPlan}
    {results : List ControllerBackendSequenceResult}
    (completion : CompletionOf runtime current results members)
    (orderly : Orderly history runtime) : DistinctMembers members := by
  have places := (orderly.base.links.linked current completion.isCurrent).distinct
  rw [← completion.indices] at places
  refine List.Pairwise.imp_of_mem ?_ (List.pairwise_map.mp places)
  intro member other listed otherListed different same
  have valid := completion.valid member listed
  have otherValid := completion.valid other otherListed
  rw [valid.after_eq.1, otherValid.after_eq.1] at same
  exact different (orderly.books.live.distinct _ _ _ _ _ _ valid.live otherValid.live same)

end Pih.ControllerRuntime
