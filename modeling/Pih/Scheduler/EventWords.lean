import Pih.Scheduler.RequestBookkeeping

/-!
# The words that requests spell

The events of one request, read as letters.  A completion adds the tokens of
each member and, if the member drains, a draining letter; no other member
writes into that word.
-/

namespace Pih

open List

/-- What an event says about its request. -/
inductive EventLetter where
  | failed
  | admitted
  | token (ordinal : ℕ)
  | draining (reason : ControllerFinishReason)
  | completed
  | cancelled
deriving DecidableEq, Repr

def ControllerOutputEventDraft.letter (draft : ControllerOutputEventDraft) : EventLetter :=
  match draft.kind with
  | .failed => .failed
  | .admitted => .admitted
  | .tokenCommitted => .token draft.tokenOrdinal
  | .draining => .draining draft.finishReason
  | .completed => .completed
  | .cancelled => .cancelled

/-- The letters of the tokens after the first `start` ones. -/
def tokenRun (start count : ℕ) : List EventLetter := (range' (start + 1) count).map .token

theorem tokenRun_append (start first second : ℕ) :
    tokenRun start first ++ tokenRun (start + first) second = tokenRun start (first + second) := by
  unfold tokenRun
  rw [← map_append, ← range'_append_1, Nat.add_right_comm]

/-- The word of a request in a list of drafts. -/
def lettersOf (requestGeneration : ℕ)
    (drafts : List ControllerOutputEventDraft) : List EventLetter :=
  (drafts.filter fun draft => draft.requestGeneration = requestGeneration).map
      ControllerOutputEventDraft.letter

theorem lettersOf_append (requestGeneration : ℕ) (first second : List ControllerOutputEventDraft) :
    lettersOf requestGeneration (first ++ second) = lettersOf requestGeneration first ++
      lettersOf requestGeneration second := by
  unfold lettersOf
  rw [filter_append, map_append]

theorem lettersOf_initial (requestGeneration : ℕ) (initial : first <+: second) :
    lettersOf requestGeneration first <+: lettersOf requestGeneration second := by
  rcases initial with ⟨_, rfl⟩
  rw [lettersOf_append]
  exact prefix_append _ _

theorem lettersOf_own (own : ∀ draft ∈ drafts, draft.requestGeneration = requestGeneration) :
    lettersOf requestGeneration drafts = drafts.map ControllerOutputEventDraft.letter := by
  unfold lettersOf
  rw [filter_eq_self.mpr]
  exact fun draft listed => decide_eq_true (own draft listed)

theorem lettersOf_foreign
    (foreign : ∀ draft ∈ drafts, draft.requestGeneration ≠ requestGeneration) :
    lettersOf requestGeneration drafts = [] := by
  unfold lettersOf
  rw [filter_eq_nil_iff.mpr, map_nil]
  intro draft listed same
  exact foreign draft listed (of_decide_eq_true same)

namespace ControllerRuntime

/-! ## The letters of a completion -/

theorem requestGeneration_tokenDrafts
    (listed : draft ∈ tokenDrafts context requestGeneration digest ordinal index tokens) :
    draft.requestGeneration = requestGeneration := by
  induction tokens generalizing ordinal index with
  | nil => cases listed
  | cons _ _ induction =>
    rcases mem_cons.mp listed with rfl | later
    · rfl
    · exact induction later

theorem letters_tokenDrafts (context : CompletionContext)
    (requestGeneration : ℕ) (digest : Sha256Digest) (ordinal index : ℕ) (tokens : List ℕ) :
    (tokenDrafts context requestGeneration digest ordinal index
        tokens).map ControllerOutputEventDraft.letter =
      tokenRun ordinal tokens.length := by
  induction tokens generalizing ordinal index with
  | nil => rfl
  | cons _ _ induction =>
    unfold tokenDrafts
    rw [map_cons, induction]
    rfl

/-- The letters that the completion of a member adds. -/
def MemberCompletion.letters (member : MemberCompletion) : List EventLetter :=
  tokenRun member.before.acceptedCompletionCount member.result.acceptedTokenIds.length ++
    if member.drains then [.draining (finishReason member.slot member.result.completion)]
    else []

theorem MemberCompletion.requestGeneration_drafts
    {context : CompletionContext} {member : MemberCompletion} {draft : ControllerOutputEventDraft}
    (listed : draft ∈ member.drafts context) :
    draft.requestGeneration = member.after.sequenceGeneration := by
  rcases mem_append.mp listed with token | drain
  · exact requestGeneration_tokenDrafts token
  split at drain
  · cases mem_singleton.mp drain
    rfl
  · cases drain

theorem MemberCompletion.letters_drafts (context : CompletionContext) (member : MemberCompletion) :
    (member.drafts context).map ControllerOutputEventDraft.letter = member.letters := by
  unfold MemberCompletion.drafts MemberCompletion.letters
  rw [map_append, letters_tokenDrafts]
  split <;> rfl

/-- No two members complete the same request. -/
def DistinctMembers (members : List MemberCompletion) : Prop := members.Pairwise fun member other =>
    member.after.sequenceGeneration ≠ other.after.sequenceGeneration

theorem lettersOf_planDrafts (distinct : DistinctMembers members) (listed : member ∈ members) :
    lettersOf member.after.sequenceGeneration (planDrafts context members) = member.letters := by
  induction members with
  | nil => cases listed
  | cons first rest induction =>
    rcases pairwise_cons.mp distinct with ⟨apart, later⟩
    change lettersOf _ (first.drafts context ++ planDrafts context rest) = _
    rw [lettersOf_append]
    rcases mem_cons.mp listed with rfl | inRest
    · have own := lettersOf_own fun draft =>
        @MemberCompletion.requestGeneration_drafts context member draft
      rw [own, member.letters_drafts context, lettersOf_foreign, append_nil]
      intro draft inside
      rcases mem_flatMap.mp inside with ⟨other, inRest, drafted⟩
      rw [MemberCompletion.requestGeneration_drafts drafted]
      exact (apart other inRest).symm
    rw [induction later inRest, lettersOf_foreign, nil_append]
    intro draft drafted
    rw [MemberCompletion.requestGeneration_drafts drafted]
    exact apart member inRest

theorem lettersOf_planDrafts_foreign (foreign : ∀ member ∈ members,
      member.after.sequenceGeneration ≠ requestGeneration) :
    lettersOf requestGeneration (planDrafts context members) = [] := by
  apply lettersOf_foreign
  intro draft inside
  rcases mem_flatMap.mp inside with ⟨member, listed, drafted⟩
  rw [MemberCompletion.requestGeneration_drafts drafted]
  exact foreign member listed

end ControllerRuntime

end Pih
