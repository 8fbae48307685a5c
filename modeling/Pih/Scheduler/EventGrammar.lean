import Pih.Scheduler.PlanMembers

/-!
# The grammar of the events of a request

A request is rejected, or it is admitted, commits its tokens one after the
other, drains and ends.  The word of a live sequence is determined by its
ledger, which is what makes each published event the one that comes next.
-/

namespace Pih

open ControllerOutputEvent List

/-- The words that a request with a token limit may spell. -/
inductive LegalWord (maximum : ℕ) (emptyEnd : Prop) : List EventLetter → Prop where
  | failed : LegalWord maximum emptyEnd [.failed]
  | served
    {count : ℕ} {reason : ControllerFinishReason} {ending : EventLetter}
    (bounded : count ≤ maximum)
    (atLimit : reason = .length → count = maximum)
    (ends : ending = .cancelled ∨ (ending = .completed ∧ (1 ≤ count ∨ emptyEnd))) :
    LegalWord maximum emptyEnd (.admitted :: tokenRun 0 count ++ [.draining reason, ending])

/-- The word can still become a legal one. -/
def LegalPrefix (maximum : ℕ) (emptyEnd : Prop) (word : List EventLetter) : Prop :=
  ∃ legal, LegalWord maximum emptyEnd legal ∧ word <+: legal

section

variable {maximum : ℕ}

theorem LegalWord.weaken (legal : LegalWord maximum emptyEnd word)
    (weaker : emptyEnd → later) : LegalWord maximum later word := by
  cases legal with
  | failed => exact .failed
  | served bounded atLimit ends =>
    exact .served bounded atLimit (ends.imp_right (And.imp_right (Or.imp_right weaker)))

theorem LegalPrefix.weaken (legal : LegalPrefix maximum emptyEnd word)
    (weaker : emptyEnd → later) : LegalPrefix maximum later word := by
  rcases legal with ⟨whole, isLegal, part⟩
  exact ⟨whole, isLegal.weaken weaker, part⟩

theorem LegalPrefix.shorten (legal : LegalPrefix maximum emptyEnd word)
    (part : shorter <+: word) : LegalPrefix maximum emptyEnd shorter := by
  rcases legal with ⟨whole, isLegal, initial⟩
  exact ⟨whole, isLegal, part.trans initial⟩

theorem LegalWord.legalPrefix (legal : LegalWord maximum emptyEnd word) :
    LegalPrefix maximum emptyEnd word :=
  ⟨word, legal, prefix_rfl⟩

theorem legalPrefix_nil : LegalPrefix maximum emptyEnd [] := ⟨[.failed], .failed, nil_prefix⟩

/-- Whatever the reason to drain, the request may be cancelled next. -/
theorem legalPrefix_draining {count : ℕ} {reason : ControllerFinishReason}
    (bounded : count ≤ maximum) (atLimit : reason = .length → count = maximum) :
    LegalPrefix maximum emptyEnd (.admitted :: tokenRun 0 count ++ [.draining reason]) := by
  refine ⟨_, .served bounded atLimit (.inl rfl), [.cancelled], ?_⟩
  rw [append_assoc]
  rfl

theorem legalPrefix_open {count : ℕ} (bounded : count ≤ maximum) :
    LegalPrefix maximum emptyEnd (.admitted :: tokenRun 0 count) :=
  (@legalPrefix_draining maximum emptyEnd count .none bounded (nofun)).shorten (prefix_append _ _)

end

namespace ControllerRuntime

/-! ## The word of a request in a run -/

/-- The letters of the events published for a request. -/
def word (history : ControllerHistory) (requestGeneration : ℕ) : List EventLetter :=
  lettersOf requestGeneration ((published history).map toControllerOutputEventDraft)

/-- The call ended a request that had no token yet. -/
def EndsEmpty (entry : ControllerEntry) (requestGeneration : ℕ) : Prop :=
  match entry.action.operation, entry.outcome with
  | .completeCurrentPlan results _, .status (.ok ()) =>
    ∃ result ∈ results, result.completion.sequenceGeneration = requestGeneration ∧
        result.completion.terminal = true ∧
        result.completion.acceptedCompletionCount = 0
  | _, _ => False

def EndedEmpty (history : ControllerHistory) (requestGeneration : ℕ) : Prop :=
  ∃ entry ∈ history, EndsEmpty entry requestGeneration

theorem EndedEmpty.snoc (ended : EndedEmpty history requestGeneration) (entry : ControllerEntry) :
    EndedEmpty (history ++ [entry]) requestGeneration := by
  rcases ended with ⟨earlier, member, ends⟩
  exact ⟨earlier, mem_append_left _ member, ends⟩

/-- The word of a sequence agrees with its ledger. -/
structure Agrees (history : ControllerHistory) (runtime : ControllerRuntime)
    (slot : RuntimeSlot) (sequence : ControllerSequence) : Prop where
  opened : ¬ Halted runtime → sequence.state.ended = false →
      sequence.acceptedCompletionCount ≤ slot.request.maximumNewTokens ∧
        word history sequence.sequenceGeneration =
          .admitted :: tokenRun 0 sequence.acceptedCompletionCount
  drained : runtime.state = .ready → sequence.state = .draining → ∃ reason,
        sequence.acceptedCompletionCount ≤ slot.request.maximumNewTokens ∧
        (reason = .length → sequence.acceptedCompletionCount = slot.request.maximumNewTokens) ∧
        (sequence.drainIsCancel = false → 1 ≤ sequence.acceptedCompletionCount ∨
            EndedEmpty history sequence.sequenceGeneration) ∧
        word history sequence.sequenceGeneration =
          .admitted :: tokenRun 0 sequence.acceptedCompletionCount ++ [.draining reason]

/-- Every request spells a legal word. -/
structure Words (history : ControllerHistory) (runtime : ControllerRuntime) : Prop where
  unknown : ∀ requestGeneration, requestGeneration ∉
        (submissions history).map Submission.requestGeneration →
      word history requestGeneration = []
  waiting : ∀ command ∈ runtime.queuedAdmissions, word history command.requestGeneration = []
  agrees : ∀ index slot sequence, Holding runtime.slots index slot sequence →
    Agrees history runtime slot sequence
  legal : ∀ submission ∈ submissions history, LegalPrefix submission.maximumNewTokens
      (EndedEmpty history submission.requestGeneration)
      (word history submission.requestGeneration)

section

variable {next : ControllerRuntime}

theorem told_of_continues (continues :
      runtime.ingress.mailbox.Continues next.ingress.mailbox drafts) :
    (publishedBy ⟨runtime, call, next, outcome⟩).map toControllerOutputEventDraft = drafts := by
  rcases continues.queuedEvents with ⟨_, grown, drafted⟩
  unfold publishedBy queuedEvents
  rw [grown, drop_left]
  exact drafted

/-- A call appends the letters of what it published. -/
theorem word_of_told (told : (publishedBy ⟨runtime, call, next, outcome⟩).map
        toControllerOutputEventDraft = drafts) (requestGeneration : ℕ) :
    word (history ++ [⟨runtime, call, next, outcome⟩]) requestGeneration =
      word history requestGeneration ++ lettersOf requestGeneration drafts := by
  unfold word
  rw [published_snoc, map_append, told, lettersOf_append]

theorem word_of_continues (continues :
      runtime.ingress.mailbox.Continues next.ingress.mailbox drafts) (requestGeneration : ℕ) :
    word (history ++ [⟨runtime, call, next, outcome⟩]) requestGeneration =
      word history requestGeneration ++ lettersOf requestGeneration drafts :=
  word_of_told (told_of_continues continues) requestGeneration

/-- The word stays, and the runtime is as good as before. -/
theorem Agrees.keep {sequence : ControllerSequence} (agrees : Agrees history runtime slot sequence)
    (halts : Halted runtime → Halted next) (ready : next.state = .ready → runtime.state = .ready)
    (request : newSlot.request = slot.request)
    (same : word (history ++ [⟨runtime, call, next, outcome⟩]) sequence.sequenceGeneration =
      word history sequence.sequenceGeneration) :
    Agrees (history ++ [⟨runtime, call, next, outcome⟩]) next newSlot sequence where
  opened := by
    intro running unended
    rw [request, same]
    exact agrees.opened (fun halted => running (halts halted)) unended
  drained := by
    intro isReady draining
    rcases agrees.drained (ready isReady) draining with ⟨reason, bounded, atLimit, ends, spelled⟩
    rw [request, same]
    exact ⟨reason, bounded, atLimit,
      fun finished => (ends finished).imp_right fun empty => empty.snoc _, spelled⟩

/-- A sequence that works has the same word. -/
theorem Agrees.works {after : ControllerSequence}
    (agrees : Agrees history runtime slot before) (works : before.Works after) :
    Agrees history runtime slot after where
  opened := by
    intro running _
    rw [works.accepted, works.generation]
    exact agrees.opened running works.openBefore
  drained := by
    intro _ draining
    have unended := works.openAfter
    rw [draining] at unended
    cases unended

variable (words : Words history runtime) (orderly : Orderly history runtime)
  (transition : Transition runtime call next outcome)

include words orderly transition

/--
A call that submits nothing keeps the words legal if the requests it tells
about spell what their ledgers say.
-/
theorem Words.extend (told : (publishedBy ⟨runtime, call, next, outcome⟩).map
      toControllerOutputEventDraft = drafts)
    (submitted : submittedBy ⟨runtime, call, next, outcome⟩ = none)
    (unknown : ∀ requestGeneration, lettersOf requestGeneration drafts ≠ [] → requestGeneration ∈
          (submissions history).map Submission.requestGeneration)
    (waiting : ∀ command ∈ next.queuedAdmissions, command ∈ runtime.queuedAdmissions ∧
        lettersOf command.requestGeneration drafts = [])
    (agrees : ∀ index slot sequence, Holding next.slots index slot sequence →
      (GoesOn runtime.slots index slot sequence ∧
          lettersOf sequence.sequenceGeneration drafts = []) ∨
        Agrees (history ++ [⟨runtime, call, next, outcome⟩]) next slot sequence)
    (legal : ∀ submission ∈ submissions history,
      lettersOf submission.requestGeneration drafts ≠ [] → LegalPrefix submission.maximumNewTokens
          (EndedEmpty (history ++ [⟨runtime, call, next, outcome⟩]) submission.requestGeneration)
          (word history submission.requestGeneration ++
            lettersOf submission.requestGeneration drafts)) :
    Words (history ++ [⟨runtime, call, next, outcome⟩]) next := by
  have spelled : ∀ generation, word (history ++ [⟨runtime, call, next, outcome⟩]) generation =
      word history generation ++ lettersOf generation drafts :=
    word_of_told told
  have sameSubmissions : submissions (history ++ [⟨runtime, call, next, outcome⟩]) =
      submissions history := by
    rw [submissions_snoc, submitted, Option.toList_none, append_nil]
  constructor
  · intro generation never
    rw [sameSubmissions] at never
    have silent : lettersOf generation drafts = [] := by
      by_contra some
      exact never (unknown generation some)
    rw [spelled, silent, append_nil]
    exact words.unknown generation never
  · intro command queued
    rcases waiting command queued with ⟨queuedBefore, silent⟩
    rw [spelled, silent, append_nil]
    exact words.waiting command queuedBefore
  · intro index slot sequence holding
    rcases agrees index slot sequence holding with ⟨goesOn, silent⟩ | done
    · have same : word (history ++ [⟨runtime, call, next, outcome⟩]) sequence.sequenceGeneration =
          word history sequence.sequenceGeneration := by
        rw [spelled, silent, append_nil]
      have halts : Halted runtime → Halted next :=
        fun halted => halted.preserved orderly.base transition
      cases goesOn with
      | same held =>
        exact (words.agrees index slot sequence held).keep halts transition.ready rfl same
      | works held slotEq works =>
        exact ((words.agrees index _ _ held).works works).keep halts
          transition.ready (by rw [slotEq]) same
    · exact done
  · rw [sameSubmissions]
    intro submission member
    rw [spelled]
    by_cases silent : lettersOf submission.requestGeneration drafts = []
    · rw [silent, append_nil]
      exact (words.legal submission member).weaken fun empty => empty.snoc _
    · exact legal submission member silent

/-- A call that publishes nothing. -/
theorem Words.quiet (published : publishedBy ⟨runtime, call, next, outcome⟩ = [])
    (submitted : submittedBy ⟨runtime, call, next, outcome⟩ = none)
    (waiting : ∀ command ∈ next.queuedAdmissions, command ∈ runtime.queuedAdmissions)
    (slots : ∀ index slot sequence, Holding next.slots index slot sequence →
      GoesOn runtime.slots index slot sequence ∨
        (sequence.state.ended = true ∧ next.state ≠ .ready)) :
    Words (history ++ [⟨runtime, call, next, outcome⟩]) next := by
  have told : (publishedBy ⟨runtime, call, next, outcome⟩).map
      toControllerOutputEventDraft = [] := by
    rw [published, map_nil]
  refine words.extend orderly transition told submitted (fun _ told => (told rfl).elim)
    (fun command queued => ⟨waiting command queued, rfl⟩) ?_
    (fun _ _ told => (told rfl).elim)
  intro index slot sequence holding
  rcases slots index slot sequence holding with goesOn | ⟨ended, failed⟩
  · exact .inl ⟨goesOn, rfl⟩
  refine .inr ⟨?_, fun ready => (failed ready).elim⟩
  intro _ unended
  cases ended.symm.trans unended

end

end ControllerRuntime

end Pih
