import Pih.Scheduler.EventGrammar

/-!
# Requests spell legal words

Each call that publishes extends the word of a request by the letter that its
ledger calls for; a completion does so for all members of its plan.
-/

namespace Pih

open List

theorem lettersOf_single (own : draft.requestGeneration = requestGeneration) :
    lettersOf requestGeneration [draft] = [draft.letter] := by
  rw [lettersOf_own]
  · rfl
  intro other listed
  rw [mem_singleton.mp listed]
  exact own

theorem lettersOf_single_foreign (foreign : requestGeneration ≠ draft.requestGeneration) :
    lettersOf requestGeneration [draft] = [] := by
  apply lettersOf_foreign
  intro other listed
  rw [mem_singleton.mp listed]
  exact foreign.symm

theorem own_of_letters (told : lettersOf requestGeneration [draft] ≠ []) :
    requestGeneration = draft.requestGeneration := by
  by_contra foreign
  exact told (lettersOf_single_foreign foreign)

namespace ControllerRuntime

open ControllerSequence

theorem lettersOf_plainDraft (runtime : ControllerRuntime)
    (kind : ControllerOutputEventKind) (requestGeneration : ℕ) (digest : Sha256Digest) :
    lettersOf requestGeneration [runtime.plainDraft kind requestGeneration digest] =
      [(runtime.plainDraft kind requestGeneration digest).letter] :=
  lettersOf_single rfl

section

variable {history : ControllerHistory} {runtime next : ControllerRuntime}

/-! ## One letter -/

section

variable (words : Words history runtime)

include words

section

variable (orderly : Orderly history runtime) (transition : Transition runtime call next outcome)
  (submitted : submittedBy ⟨runtime, call, next, outcome⟩ = none)

include orderly transition submitted

theorem Words.tell (continues : runtime.ingress.mailbox.Continues next.ingress.mailbox [draft])
    (known : draft.requestGeneration ∈ (submissions history).map Submission.requestGeneration)
    (waiting : ∀ command ∈ next.queuedAdmissions, command ∈ runtime.queuedAdmissions ∧
        command.requestGeneration ≠ draft.requestGeneration)
    (agrees : ∀ index slot sequence, Holding next.slots index slot sequence →
      (Holding runtime.slots index slot sequence ∧
          sequence.sequenceGeneration ≠ draft.requestGeneration) ∨
        Agrees (history ++ [⟨runtime, call, next, outcome⟩]) next slot sequence)
    (legal : ∀ submission ∈ submissions history,
      submission.requestGeneration = draft.requestGeneration →
        LegalPrefix submission.maximumNewTokens (EndedEmpty history draft.requestGeneration)
          (word history draft.requestGeneration ++ [draft.letter])) :
    Words (history ++ [⟨runtime, call, next, outcome⟩]) next := by
  refine words.extend orderly transition (told_of_continues continues) submitted ?_ ?_ ?_ ?_
  · intro generation told
    rw [own_of_letters told]
    exact known
  · intro command queued
    rcases waiting command queued with ⟨before, other⟩
    exact ⟨before, lettersOf_single_foreign other⟩
  · intro index slot sequence holding
    rcases agrees index slot sequence holding with ⟨held, other⟩ | done
    · exact .inl ⟨.same held, lettersOf_single_foreign other⟩
    · exact .inr done
  · intro submission member told
    have own := own_of_letters told
    rw [lettersOf_single own.symm, own]
    exact (legal submission member own).weaken fun empty => empty.snoc _

variable {command : ControllerCommand}

variable {taken : ControllerMailbox}

/-- A cancelled sequence without a plan starts to drain. -/
theorem Words.cancelDrained {sequence : ControllerSequence}
    (steps : runtime.Steps call now command taken)
    (target : runtime.CancelTarget command index slot sequence cancelled)
    (drained : cancelled.beginDraining = .ok draining)
    (published : taken.Published next.ingress.mailbox call.thread
      (runtime.plainDraft .draining draining.sequenceGeneration command.payloadDigest))
    (slots : next.slots = runtime.slots.set index { slot with sequence := some draining }) :
    Words (history ++ [⟨runtime, call, next, outcome⟩]) next := by
  have works := works_requestCancel target.requested
  rcases beginDraining_ok drained with ⟨isCancelled, drainingEq⟩
  have live := orderly.live_of_ready steps.ready target.holding
  have continues := steps.took.continues.trans published.continues
  have generation : draining.sequenceGeneration = sequence.sequenceGeneration := by
    rw [drainingEq]
    exact works.generation
  have accepted : draining.acceptedCompletionCount = sequence.acceptedCompletionCount := by
    rw [drainingEq]
    exact works.accepted
  have flagged : draining.drainIsCancel = true := by
    rw [drainingEq]
    have sound := (orderly.base.links.sound _ _ _ target.holding).requestCancel target.requested
    exact sound.flagged (.inl isCancelled)
  rcases (words.agrees index slot sequence target.holding).opened
      (orderly.halts steps.ready) works.openBefore with
    ⟨bounded, spelled⟩
  refine words.tell orderly transition submitted continues ?_ ?_ ?_ ?_
  · rw [generation]
    exact orderly.live_known live
  · intro other queued
    rw [queuedAdmissions_of_took steps.took
      (by rw [target.kind]; exact nofun) published.commands] at queued
    refine ⟨queued, ?_⟩
    rw [generation]
    exact orderly.live_ne_queued live queued
  · intro place held another holding
    rw [slots] at holding
    rcases (holding_set_iff target.holding.lt _).mp holding with
      ⟨rfl, rfl, found⟩ | ⟨different, before⟩
    · right
      cases Option.some.inj found
      refine ⟨?_, fun _ _ => ⟨.none, ?_, nofun, ?_, ?_⟩⟩
      · intro _ unended
        rw [drainingEq] at unended
        cases unended
      · rw [accepted]
        exact bounded
      · intro finished
        rw [flagged] at finished
        cases finished
      · rw [word_of_continues continues, nil_append,
          lettersOf_plainDraft, generation, spelled, accepted]
        rfl
    refine .inl ⟨before, fun same => different ?_⟩
    exact orderly.books.live.distinct _ _ _ _ _ _ (orderly.live_of_ready steps.ready before) live
      (same.trans generation)
  · intro submission member same
    change LegalPrefix _ _ (word history draining.sequenceGeneration ++ [.draining .none])
    rw [generation] at same ⊢
    rw [spelled]
    refine legalPrefix_draining ?_ nofun
    rw [← (orderly.maximum live member same).1]
    exact bounded

/-- An admission that was taken is rejected. -/
theorem Words.rejected {now : ℤ}
    (steps : runtime.Steps call now command taken) (kind : command.kind = .admission)
    (claimed : runtime.ingress.requests.Claimed command index request)
    (published : taken.Published next.ingress.mailbox call.thread
      (runtime.plainDraft .failed command.requestGeneration command.payloadDigest))
    (slots : next.slots = runtime.slots) :
    Words (history ++ [⟨runtime, call, next, outcome⟩]) next := by
  refine words.tell orderly transition submitted (steps.took.continues.trans published.continues)
    (orderly.claimed_known claimed)
    (orderly.others_wait steps kind published.commands) ?_ ?_
  · intro place slot sequence holding
    rw [slots] at holding
    exact .inl ⟨holding, orderly.books.live_ne_claimed claimed
      (orderly.live_of_ready steps.ready holding)⟩
  · intro submission _ _
    change LegalPrefix _ _ (word history command.requestGeneration ++ [.failed])
    rw [words.waiting command (Bookkeeping.mem_of_took steps kind)]
    exact LegalWord.failed.legalPrefix

/-- An admission that was taken gets its sequence. -/
theorem Words.admitted {now : ℤ}
    {slot written : RuntimeSlot} {sequence : ControllerSequence}
    (steps : runtime.Steps call now command taken) (kind : command.kind = .admission)
    (claimed : runtime.ingress.requests.Claimed command requestIndex request)
    (found : runtime.slots[index]? = some slot)
    (created : admitSequence command.requestGeneration
      request.promptTokens 1 = .ok sequence)
    (published : taken.Published next.ingress.mailbox call.thread
      (runtime.plainDraft .admitted command.requestGeneration digest))
    (slots : next.slots = runtime.slots.set index written)
    (held : written.sequence = some sequence) :
    Words (history ++ [⟨runtime, call, next, outcome⟩]) next := by
  have continues := steps.took.continues.trans published.continues
  have small := orderly.base.links.prompts request (mem_of_getElem? claimed.found)
  have sequenceEq := (admitSequence_sound small created).2
  have silent := words.waiting command (Bookkeeping.mem_of_took steps kind)
  refine words.tell orderly transition submitted continues (orderly.claimed_known claimed)
    (orderly.others_wait steps kind published.commands) ?_ ?_
  · intro place other another holding
    rw [slots] at holding
    rcases (holding_set_iff (List.getElem_of_getElem? found).1 _).mp holding with
      ⟨rfl, rfl, writes⟩ | ⟨-, before⟩
    · right
      cases Option.some.inj (writes.symm.trans held)
      rw [sequenceEq]
      refine ⟨fun _ _ => ⟨Nat.zero_le _, ?_⟩, nofun⟩
      rw [word_of_continues continues, nil_append, lettersOf_plainDraft, silent]
      rfl
    exact .inl ⟨before, orderly.books.live_ne_claimed claimed
      (orderly.live_of_ready steps.ready before)⟩
  · intro submission _ _
    change LegalPrefix _ _ (word history command.requestGeneration ++ [.admitted])
    rw [silent]
    exact legalPrefix_open (Nat.zero_le _)

/-- A draining sequence ends. -/
theorem Words.finalized {sequence : ControllerSequence}
    (target : runtime.DrainTarget generation index slot sequence finished kind)
    (published : runtime.ingress.mailbox.Published next.ingress.mailbox call.thread
      (runtime.plainDraft kind generation slot.request.payloadDigest))
    (slots : next.slots = runtime.slots.set index written) (vacant : written.sequence = none) :
    Words (history ++ [⟨runtime, call, next, outcome⟩]) next := by
  have live := orderly.live_of_ready target.ready target.holding
  have own := target.generation
  rcases finishSequence_ok target.finish with ⟨draining, ending⟩
  rcases (words.agrees index slot sequence target.holding).drained target.ready draining with
    ⟨_, bounded, atLimit, ends, spelled⟩
  rw [own] at ends spelled
  refine words.tell orderly transition submitted published.continues ?_ ?_ ?_ ?_
  · rw [← own]
    exact orderly.live_known live
  · intro other queued
    rw [queuedAdmissions_of_commands published.commands] at queued
    refine ⟨queued, ?_⟩
    rw [← own]
    exact orderly.live_ne_queued live queued
  · intro place other another holding
    rw [slots] at holding
    rcases (holding_set_iff target.holding.lt _).mp holding with
      ⟨-, -, writes⟩ | ⟨different, before⟩
    · cases vacant.symm.trans writes
    refine .inl ⟨before, fun same => different ?_⟩
    exact orderly.books.live.distinct _ _ _ _ _ _ (orderly.live_of_ready target.ready before) live
      (same.trans own.symm)
  · intro submission member same
    rw [(orderly.maximum live member (same.trans own.symm)).1] at bounded atLimit
    change LegalPrefix _ _ (word history generation ++ _)
    rw [spelled, append_assoc]
    refine LegalWord.legalPrefix (.served bounded atLimit ?_)
    rcases ending with ⟨-, rfl, -⟩ | ⟨flag, rfl, -⟩
    · exact .inl rfl
    · exact .inr ⟨rfl, ends flag⟩

end

/-! ## The letters of a completion -/

/-- The word that the completion of a member spells. -/
def MemberCompletion.spelling (member : MemberCompletion) : List EventLetter :=
  .admitted :: tokenRun 0 member.after.acceptedCompletionCount ++
    if member.drains then [.draining (finishReason member.slot member.result.completion)]
    else []

theorem Words.member (running : ¬ Halted runtime) {current : CurrentPlan}
    {member : MemberCompletion} (valid : member.Valid current runtime.slots) :
    word history member.after.sequenceGeneration ++ member.letters = member.spelling := by
  rcases (words.agrees _ _ _ valid.applies.holding).opened running valid.unended with ⟨-, spelled⟩
  have tokens := valid.validated.tokens
  rw [← valid.after_eq.2.2.2] at tokens
  unfold MemberCompletion.letters MemberCompletion.spelling
  rw [valid.after_eq.1, spelled, tokens, ← tokenRun_append, Nat.zero_add,
    ← append_assoc, cons_append]

end

theorem MemberCompletion.Valid.legal {current : CurrentPlan}
    {member : MemberCompletion} (valid : member.Valid current runtime.slots) (emptyEnd : Prop) :
    LegalPrefix member.slot.request.maximumNewTokens emptyEnd
      member.spelling := by
  unfold MemberCompletion.spelling
  split
  · exact legalPrefix_draining valid.bounded valid.finishReason_length
  rw [append_nil]
  exact legalPrefix_open valid.bounded

section Completion

variable {current : CurrentPlan}
  {results : List ControllerBackendSequenceResult}

/-- A plan tells about its members only. -/
theorem CompletionOf.member_of_letters (completion : CompletionOf runtime current results members)
    (orderly : Orderly history runtime)
    (told : lettersOf requestGeneration (planDrafts context members) ≠ []) :
    ∃ member ∈ members, member.after.sequenceGeneration = requestGeneration ∧
      lettersOf requestGeneration (planDrafts context members) = member.letters := by
  by_contra nobody
  simp only [not_exists, not_and] at nobody
  refine told (lettersOf_planDrafts_foreign fun member listed own => ?_)
  refine nobody member listed own ?_
  rw [← own]
  exact lettersOf_planDrafts (completion.distinctMembers orderly) listed

/-- The end of a member without a token was reported by the caller. -/
theorem CompletesWith.endsEmpty
    (operation : runtime.CompletesWith current call.operation results nowNs)
    (completion : CompletionOf runtime current results members) (listed : member ∈ members)
    (maximum : member.slot.request.maximumNewTokens ≠ 0)
    (terminal : member.result.completion.terminal = true)
    (empty : member.result.completion.acceptedCompletionCount = 0) :
    EndsEmpty ⟨runtime, call, next, .status (.ok ())⟩
      member.before.sequenceGeneration := by
  unfold EndsEmpty
  generalize call.operation = performed at operation
  cases operation with
  | results =>
    refine ⟨_, ?_, ?_, terminal, empty⟩
    · rw [← completion.results]
      exact mem_map_of_mem listed
    · exact (completion.valid member listed).validated.completes.generation
  | sampled _ _ _ sampled =>
    rcases getElem?_of_mem listed with ⟨_, found⟩
    rcases completion.sampledAt sampled found with ⟨_, _, -, made⟩
    exact made.accepted_ne_zero maximum terminal empty

variable (words : Words history runtime) (orderly : Orderly history runtime)

include words orderly

/-- A completion, or the part of it that was published, keeps the words. -/
theorem Words.complete (transition : Transition runtime call next outcome)
    (submitted : submittedBy ⟨runtime, call, next, outcome⟩ = none)
    (completion : CompletionOf runtime current results members)
    (part : drafts <+: planDrafts context members)
    (continues : runtime.ingress.mailbox.Continues next.ingress.mailbox drafts)
    (admissions : next.queuedAdmissions = runtime.queuedAdmissions)
    (agrees : ∀ index slot sequence, Holding next.slots index slot sequence →
      (GoesOn runtime.slots index slot sequence ∧
          lettersOf sequence.sequenceGeneration drafts = []) ∨
        Agrees (history ++ [⟨runtime, call, next, outcome⟩]) next slot sequence) :
    Words (history ++ [⟨runtime, call, next, outcome⟩]) next := by
  have member_of_part : ∀ generation, lettersOf generation drafts ≠ [] →
      ∃ member ∈ members, member.after.sequenceGeneration = generation ∧
        lettersOf generation drafts <+: member.letters := by
    intro generation told
    have initial := lettersOf_initial generation part
    rcases completion.member_of_letters orderly
        (fun empty => told (prefix_nil.mp (empty ▸ initial))) with
      ⟨member, listed, own, letters⟩
    exact ⟨member, listed, own, letters ▸ initial⟩
  refine words.extend orderly transition (told_of_continues continues) submitted ?_ ?_ agrees ?_
  · intro generation told
    rcases member_of_part generation told with ⟨member, listed, own, -⟩
    have valid := completion.valid member listed
    rw [← own, valid.after_eq.1]
    exact orderly.live_known valid.live
  · intro command queued
    rw [admissions] at queued
    refine ⟨queued, ?_⟩
    by_contra told
    rcases member_of_part _ told with ⟨member, listed, own, -⟩
    have valid := completion.valid member listed
    rw [valid.after_eq.1] at own
    exact orderly.live_ne_queued valid.live queued own.symm
  · intro submission known told
    rcases member_of_part _ told with ⟨member, listed, own, initial⟩
    have valid := completion.valid member listed
    have spelled := words.member completion.not_halted valid
    have maximum := (orderly.maximum valid.live known (own.symm.trans valid.after_eq.1)).1
    rw [← maximum]
    refine (valid.legal _).shorten ?_
    rw [← spelled, own]
    exact (prefix_append_right_inj _).mpr initial

/-- A member that was completed spells what its ledger says. -/
theorem Words.agrees_member {nowNs : ℤ}
    (operation : runtime.CompletesWith current call.operation results nowNs)
    (completion : CompletionOf runtime current results members)
    (continues : runtime.ingress.mailbox.Continues next.ingress.mailbox
        (planDrafts context members)) {member : MemberCompletion} (listed : member ∈ members)
    {slot : RuntimeSlot} (request : slot.request = member.slot.request) :
    Agrees (history ++ [⟨runtime, call, next, .status (.ok ())⟩]) next slot
      member.after := by
  have valid := completion.valid member listed
  have spelled : word (history ++ [⟨runtime, call, next, .status (.ok ())⟩])
      member.after.sequenceGeneration = member.spelling := by
    rw [word_of_continues continues,
      lettersOf_planDrafts (completion.distinctMembers orderly) listed]
    exact words.member completion.not_halted valid
  have bounded := valid.bounded
  have atLimit := @valid.finishReason_length
  rw [← request] at bounded atLimit
  constructor
  · intro _ unended
    rw [valid.ended_after] at unended
    refine ⟨bounded, ?_⟩
    rw [spelled]
    unfold MemberCompletion.spelling
    rw [unended, if_neg Bool.false_ne_true, append_nil]
  · intro _ draining
    have drains : member.drains = true := decide_eq_true draining
    refine ⟨_, bounded, atLimit, ?_, ?_⟩
    · intro finished
      rw [valid.after_eq.2.1] at finished
      -- A cancelled member would carry the flag, so the caller ended it.
      have terminal : member.result.completion.terminal = true := by
        have sound := orderly.base.links.sound _ _ _ valid.applies.holding
        have ends := valid.drains_iff.mp drains
        rcases of_decide_eq_true ends with terminal | cancelled
        · exact terminal
        · cases finished.symm.trans (sound.flagged (.inl cancelled))
      rw [valid.after_eq.2.2.2, valid.after_eq.1]
      by_cases empty : member.result.completion.acceptedCompletionCount = 0
      · right
        rcases orderly.ledger.worksOn orderly.books.live valid.live with ⟨_, known, works⟩
        have maximum := orderly.maximum valid.live known works.generation
        exact ⟨_, mem_append_right _ (.head _), operation.endsEmpty completion listed
            (maximum.1 ▸ maximum.2) terminal empty⟩
      · exact .inl (Nat.pos_of_ne_zero empty)
    · rw [spelled]
      unfold MemberCompletion.spelling
      rw [drains, if_pos rfl]

/-- A completion that reached every member. -/
theorem Words.completed (transition : Transition runtime call next (.status (.ok ())))
    (submitted : submittedBy ⟨runtime, call, next, .status (.ok ())⟩ = none) {nowNs : ℤ}
    (operation : runtime.CompletesWith current call.operation results nowNs)
    (completion : CompletionOf runtime current results members)
    (emits : ControllerMailbox.Emits thread runtime.ingress.mailbox
      (planDrafts context members) next.ingress.mailbox)
    (completed : CompletedSlots context runtime.slots next.slots members) :
    Words (history ++ [⟨runtime, call, next, .status (.ok ())⟩]) next := by
  refine words.complete orderly transition submitted completion prefix_rfl emits.continues
    (queuedAdmissions_of_commands emits.frame.1) ?_
  intro index slot sequence holding
  by_cases listed : index ∈ memberIndices members
  · rcases mem_map.mp listed with ⟨member, inside, rfl⟩
    right
    cases (completed.inside member inside).symm.trans holding.1
    have held := holding.2
    rw [MemberCompletion.sequence_slotAfter] at held
    cases held
    exact words.agrees_member orderly operation completion emits.continues
      inside (MemberCompletion.request_slotAfter _ _)
  have before : Holding runtime.slots index slot sequence :=
    ⟨completed.outside index listed ▸ holding.1, holding.2⟩
  cases ended : sequence.state.terminal with
  | true =>
    right
    constructor
    · intro _ unended
      have live := terminal_of_open unended
      cases ended.symm.trans live
    · intro _ draining
      rw [draining] at ended
      cases ended
  | false =>
    left
    refine ⟨.same before, lettersOf_planDrafts_foreign ?_⟩
    intro member inside same
    have valid := completion.valid member inside
    rw [valid.after_eq.1] at same
    have place := orderly.books.live.distinct _ _ _ _ _ _ valid.live ⟨before, ended⟩ same
    exact listed (place ▸ mem_map_of_mem inside)

end Completion

/-! ## Every call -/

section

variable (words : Words history runtime)

include words

/-- A new request has not spelled anything yet. -/
theorem Words.submitted (orderly : Orderly history runtime)
    (once : submittedOnce history runtime call)
    (transition : Transition runtime call next outcome) {maximum : ℕ}
    (operation : call.operation = .submitAdmit generation prompt maximum sampling)
    (told : outcome = .command (.ok command))
    (queued : runtime.ingress.mailbox.Queued next.ingress.mailbox command)
    (own : command.requestGeneration = generation) (slots : next.slots = runtime.slots) :
    Words (history ++ [⟨runtime, call, next, outcome⟩]) next := by
  have fresh : generation ∉ (submissions history).map Submission.requestGeneration := by
    unfold submittedOnce at once
    rw [operation] at once
    exact once
  have submissionsEq : submissions (history ++ [⟨runtime, call, next, outcome⟩]) =
      submissions history ++ [⟨generation, prompt, maximum, sampling⟩] := by
    rw [submissions_snoc]
    unfold submittedBy
    rw [operation, told]
    rfl
  have same : ∀ request, word (history ++ [⟨runtime, call, next, outcome⟩]) request =
      word history request := by
    intro request
    rw [word_of_continues queued.continues]
    exact append_nil _
  constructor
  · intro request never
    rw [submissionsEq, map_append, mem_append, not_or] at never
    rw [same]
    exact words.unknown request never.1
  · intro other waits
    rw [queuedAdmissions_of_queued queued] at waits
    rw [same]
    rcases mem_append.mp waits with before | only
    · exact words.waiting other before
    rw [mem_singleton.mp (mem_of_mem_filter only), own]
    exact words.unknown generation fresh
  · intro index slot sequence holding
    rw [slots] at holding
    exact (words.agrees index slot sequence holding).keep
      (fun halted => halted.preserved orderly.base transition)
      transition.ready rfl (same _)
  · rw [submissionsEq]
    intro submission member
    rw [same]
    rcases mem_append.mp member with before | only
    · exact (words.legal submission before).weaken fun empty => empty.snoc _
    rw [mem_singleton.mp only, words.unknown generation fresh]
    exact legalPrefix_nil

variable (orderly : Orderly history runtime) (once : submittedOnce history runtime call)

include orderly once

theorem Words.request (transition : RequestTransition runtime call next outcome) :
    Words (history ++ [⟨runtime, call, next, outcome⟩]) next := by
  have step := Transition.request transition
  have quiet : (∀ command, outcome ≠ .command (.ok command)) →
      submittedBy ⟨runtime, call, next, outcome⟩ = none :=
    fun other => submittedBy_of_outcome other
  cases transition with
  | submitted operation _ _ queued value =>
    exact words.submitted orderly once step operation rfl queued (by rw [value]) rfl
  | withdrawn =>
    exact words.quiet orderly step (Silent.publishedBy_of_continues
        (ControllerMailbox.continues_of_events rfl rfl))
      (quiet nofun) (fun _ queued => queued)
      (fun _ _ _ holding => .inl (.same holding))
  | unmatched steps kind =>
    exact words.quiet orderly step (Silent.publishedBy_of_continues steps.took.continues)
      (quiet nofun)
      (fun command queued => (orderly.others_wait steps kind rfl command queued).1)
      (fun _ _ _ holding => .inl (.same holding))
  | cancelDrained steps target drained _ published =>
    exact words.cancelDrained orderly step (quiet nofun) steps target drained published rfl
  | cancelStuck steps target drained _ queues =>
    refine words.quiet orderly step (Silent.publishedBy_of_continues
        (steps.took.continues.trans queues.continues))
      (quiet nofun) ?_ ?_
    · intro command queued
      rw [queuedAdmissions_of_took steps.took
        (by rw [target.kind]; exact nofun) queues.commands] at queued
      exact queued
    · intro index slot sequence holding
      rcases (holding_set_iff target.holding.lt _).mp holding with ⟨-, -, found⟩ | ⟨-, before⟩
      · cases Option.some.inj found
        rcases beginDraining_ok drained with ⟨-, rfl⟩
        exact .inr ⟨rfl, nofun⟩
      · exact .inl (.same before)
  | overflowed steps kind =>
    exact words.quiet orderly step (Silent.publishedBy_of_continues steps.took.continues)
      (quiet nofun)
      (fun command queued => (orderly.others_wait steps kind rfl command queued).1)
      (fun _ _ _ holding => .inl (.same holding))
  | abandoned steps kind _ written queues =>
    refine words.quiet orderly step (Silent.publishedBy_of_continues
        (steps.took.continues.trans queues.continues))
      (quiet nofun)
      (fun command queued => (orderly.others_wait steps kind queues.commands command queued).1) ?_
    intro index slot sequence holding
    cases written with
    | same => exact .inl (.same holding)
    | wrote found _ still =>
      rcases (holding_set_iff (List.getElem_of_getElem? found).1 _).mp holding with
        ⟨-, -, held⟩ | ⟨-, before⟩
      · cases still.symm.trans held
      · exact .inl (.same before)
  | rejected steps kind claimed published =>
    exact words.rejected orderly step (quiet nofun) steps kind claimed published rfl
  | admitted steps kind claimed found _ created published =>
    exact words.admitted orderly step (quiet nofun)
      steps kind claimed found created published rfl rfl
  | completed operation completion completed =>
    exact words.completed orderly step (quiet nofun) operation completion
      completed.emits completed.slots
  | completionBroken _ completion broken =>
    refine words.complete orderly step (quiet nofun) completion broken.part broken.emits.continues
      (queuedAdmissions_of_commands broken.emits.frame.1) ?_
    intro index slot sequence _
    right
    constructor
    · intro running
      exact (running ⟨_, tornPlan_broken completion.isCurrent completion.committed rfl⟩).elim
    · exact nofun
  | finalized _ target _ _ _ published =>
    exact words.finalized orderly step (quiet nofun) target published rfl rfl
  | finalizeStuck _ target _ queues =>
    refine words.quiet orderly step (Silent.publishedBy_of_continues queues.continues)
      (quiet nofun) ?_ ?_
    · intro command queued
      rw [queuedAdmissions_of_commands queues.commands] at queued
      exact queued
    · intro index slot sequence holding
      rcases (holding_set_iff target.holding.lt _).mp holding with ⟨-, -, found⟩ | ⟨-, before⟩
      · cases Option.some.inj found
        rcases finishSequence_ok target.finish with ⟨-, ⟨-, -, rfl⟩ | ⟨-, -, rfl⟩⟩
        · exact .inr ⟨rfl, nofun⟩
        · exact .inr ⟨rfl, nofun⟩
      · exact .inl (.same before)

theorem Words.preserved (transition : Transition runtime call next outcome) :
    Words (history ++ [⟨runtime, call, next, outcome⟩]) next := by
  rcases transition.silent_or_request with silent | request
  · rcases silent.slots with ⟨_, moves⟩
    exact words.quiet orderly transition silent.published silent.submitted
      (fun command queued => silent.admissions ▸ queued)
      (fun _ _ _ holding => .inl (.of_moves moves holding))
  · exact words.request orderly once request

end

end

/-! ## The events that are taken -/

/-- The letters of the events taken for a request. -/
def takenWord (history : ControllerHistory) (requestGeneration : ℕ) : List EventLetter :=
  lettersOf requestGeneration ((taken history).map
      ControllerOutputEvent.toControllerOutputEventDraft)

/-- What was taken is an initial part of what was published. -/
theorem EventsNumbered.taken_initial (numbered : EventsNumbered history runtime)
    (requestGeneration : ℕ) :
    takenWord history requestGeneration <+: word history requestGeneration := by
  unfold word
  rw [← numbered.split, map_append]
  exact lettersOf_initial _ (prefix_append _ _)

theorem EventsNumbered.taken_consecutive (numbered : EventsNumbered history runtime) :
    ControllerMailbox.Consecutive (taken history) := by
  have all := numbered.consecutive
  unfold ControllerMailbox.Consecutive at all ⊢
  rw [← numbered.split, map_append, length_append, ← range'_append_1] at all
  exact (append_inj all (by simp)).1

theorem Fresh.words {limits : ControllerRuntimeLimits}
    {runtime : ControllerRuntime} (fresh : Fresh limits runtime) :
    Words [] runtime where
  unknown := fun _ _ => rfl
  waiting := fun _ _ => rfl
  agrees := fun _ _ _ holding => (fresh.no_holding holding).elim
  legal := nofun

/--
The events taken for a request are an initial part of a legal word, requests
that nobody submitted have no events, and the events are numbered 1, 2, 3, …
in the order in which they are taken.
-/
theorem taken_events_legal {limits : ControllerRuntimeLimits} {history : ControllerHistory}
    {runtime : ControllerRuntime} (run : ControllerRun limits submittedOnce history runtime) :
    (∀ submission ∈ submissions history, LegalPrefix submission.maximumNewTokens
      (EndedEmpty history submission.requestGeneration)
      (takenWord history submission.requestGeneration)) ∧
    (∀ requestGeneration, requestGeneration ∉
        (submissions history).map Submission.requestGeneration →
      takenWord history requestGeneration = []) ∧
    (taken history).map ControllerOutputEvent.eventSequence = range' 1 (taken history).length := by
  have words := (run.inductOrderly (fun _ _ _ once => once) Words (fun _ fresh => fresh.words)
      (fun _ _ _ _ _ orderly words once transition => words.preserved orderly once transition)).2
  have numbered := run.numbered
  refine ⟨?_, ?_, numbered.taken_consecutive⟩
  · intro submission member
    exact (words.legal submission member).shorten (numbered.taken_initial _)
  · intro requestGeneration never
    have initial := numbered.taken_initial requestGeneration
    rw [words.unknown requestGeneration never] at initial
    exact prefix_nil.mp initial

set_option maxRecDepth 100000 in
/-- A request that commits two tokens and completes. -/
theorem taken_events_legal_two_tokens : ∃ history runtime,
      ControllerRun smallLimits submittedOnce history runtime ∧ takenWord history 11 =
          [.admitted, .token 1, .token 2, .draining .length, .completed] ∧
        LegalPrefix 2 (EndedEmpty history 11) (takenWord history 11) := by
  have reaches : scriptReaches smallLimits submittedOnce
      ([fun _ => ⟨1, .submitAdmit 11 [1] 2 {}⟩, fun _ => ⟨1, .step 0 none⟩] ++ planScript ++
        [fun _ => ⟨1, .completeCurrentSampledTokens [42] 0⟩,
          fun _ => ⟨1, .acknowledgeOutputPlan 1⟩] ++ planScript ++
        [fun _ => ⟨1, .completeCurrentSampledTokens [43] 0⟩,
          fun _ => ⟨1, .finalizeDraining 11⟩] ++ replicate 5 fun _ => ⟨2, .tryTakeEvent⟩)
      (fun history _ =>
        takenWord history 11 = [.admitted, .token 1, .token 2, .draining .length, .completed] ∧
          submissions history = [⟨11, [1], 2, {}⟩]) = true := by
    decide +kernel
  rcases ControllerRun.of_script reaches with ⟨history, runtime, run, told⟩
  rcases of_decide_eq_true told with ⟨spelled, submitted⟩
  exact ⟨history, runtime, run, spelled, (taken_events_legal run).1 ⟨11, [1], 2, {}⟩
      (by rw [submitted]; exact .head _)⟩

/-- A word that completes without a token is not legal by itself. -/
theorem not_legalPrefix_empty_completed {maximum : ℕ} :
    ¬ LegalPrefix maximum False [.admitted, .draining reason, .completed] := by
  rintro ⟨_, isLegal, initial⟩
  cases isLegal with
  | failed =>
    rcases initial with ⟨rest, equal⟩
    cases equal
  | @served count _ _ _ _ ends =>
    rcases initial with ⟨_, equal⟩
    cases count with
    | zero =>
      cases equal
      rcases ends with cancelled | ⟨-, positive | impossible⟩
      · cases cancelled
      · cases positive
      · exact impossible
    | succ => cases equal

set_option maxRecDepth 100000 in
/-- A backend that ends a request in its prompt completes it without tokens. -/
theorem completed_without_token : ∃ history runtime,
      ControllerRun smallLimits submittedOnce history runtime ∧ ∃ submission ∈ submissions history,
        ¬ LegalPrefix submission.maximumNewTokens False
          (takenWord history submission.requestGeneration) := by
  have reaches : scriptReaches smallLimits submittedOnce
      ([fun _ => ⟨1, .submitAdmit 11 [1, 2, 3] 2 {}⟩, fun _ => ⟨1, .step 0 none⟩] ++ planScript ++
        [fun _ => ⟨1, .completeCurrentPlan [⟨⟨1, 11, 2, 0, 2, .decode, true⟩, []⟩] 0⟩,
          fun _ => ⟨1, .finalizeDraining 11⟩] ++ replicate 3 fun _ => ⟨2, .tryTakeEvent⟩)
      (fun history _ =>
        takenWord history 11 = [.admitted, .draining .stop, .completed] ∧
          submissions history = [⟨11, [1, 2, 3], 2, {}⟩]) = true := by
    decide +kernel
  rcases ControllerRun.of_script reaches with ⟨history, runtime, run, told⟩
  rcases of_decide_eq_true told with ⟨spelled, submitted⟩
  refine ⟨history, runtime, run, ⟨11, [1, 2, 3], 2, {}⟩, ?_, ?_⟩
  · rw [submitted]
    exact .head _
  · change ¬ LegalPrefix 2 False (takenWord history 11)
    rw [spelled]
    exact not_legalPrefix_empty_completed

end ControllerRuntime

end Pih
