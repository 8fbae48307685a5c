import Pih.Scheduler.ControllerRuntime

/-!
# The controller runtime: preparing, committing and aborting plans

`prepare_next_plan` collects a candidate for every ready sequence, lets the
scheduler choose, builds the plan and its metadata, acquires an output credit
and prepares the chosen sequences; if one of them refuses, the others are
rolled back.  Commit, mark and abort then move all members of the plan.
-/

namespace Pih

/-- What the caller gets of a prepared plan. -/
structure ControllerPreparedPlanView where
  plan : PackedTokenPlan
  metadata : PackedTokenMetadataView
  selectedSlotIndices : List ℕ
  selectedSampling : List ControllerRequestSampling
  planDigest : Sha256Digest
deriving DecidableEq

namespace ControllerRuntime

/-- The four arrays that `prepare_next_plan` fills for a ready sequence. -/
structure CandidateEntry where
  slotIndex : ℕ
  candidate : SchedulerCandidate
  state : ScheduledSequenceState
  tokens : PackedSequenceTokens
deriving DecidableEq

/-! ## Collecting candidates -/

variable (runtime : ControllerRuntime)

/-- The tokens that the next plan presents for a ready sequence. -/
def nextTokens (slot : RuntimeSlot) (phase : PackedTokenPhase)
    (start count : ℕ) : Result (List ℕ) :=
  if phase = .prefill then
    if start > slot.request.promptTokenIds.size ∨
        count > slot.request.promptTokenIds.size - start then
      .error (.internal "controller prompt chunk mapping drifted")
    else .ok (runtime.ingress.requests.read ⟨slot.request.promptTokenIds.offset + start, count⟩)
  else
    match slot.pendingToken with
    | none => .error (.failedPrecondition "decode-ready sequence has no valid pending token")
    | some pending =>
      if phase ≠ .decode ∨ count ≠ 1 then
        .error (.failedPrecondition "decode-ready sequence has no valid pending token")
      else .ok [pending]

/-- The candidate of a sequence that is ready for a phase. -/
def candidateOf (index : ℕ) (slot : RuntimeSlot)
    (sequence : ControllerSequence) (phase : PackedTokenPhase) :
    Result CandidateEntry :=
  if phase = .verify then
    .error (.failedPrecondition "verify-ready sequence has no bound draft payload")
  else
    match sequence.nextRealTokenCount runtime.limits.maximumPrefillChunkTokens 0 with
    | .error status => .error status
    | .ok count =>
      match sequence.nextPlanProducesLogits runtime.limits.maximumPrefillChunkTokens 0 with
      | .error status => .error status
      | .ok producesLogits =>
        match runtime.nextTokens slot phase sequence.modelProcessedLength count with
        | .error status => .error status
        | .ok tokenIds =>
          match packedTokenInputDigest tokenIds with
          | .error status => .error status
          | .ok inputDigest =>
            .ok
              { slotIndex := index
                candidate :=
                  { sequenceGeneration := sequence.sequenceGeneration
                    nextPhase := phase
                    lastServicePlanSeq := slot.lastServicePlanSequence
                    readyEnqueueSeq := slot.readyEnqueueSequence
                    prefillEligibleSinceNs := slot.prefillEligibleSinceNs
                    realTokenCount := count
                    infeasibility := .none }
                state :=
                  { sequenceGeneration := sequence.sequenceGeneration
                    committedStartPosition := sequence.modelProcessedLength
                    stateGeneration := sequence.stateGeneration
                    inputDigest }
                tokens :=
                  { sequenceGeneration := sequence.sequenceGeneration, tokenIds, producesLogits } }

/-- The loop over the slots, from an index on. -/
def collectCandidates (runtime : ControllerRuntime) :
    ℕ → List RuntimeSlot → Result (List CandidateEntry)
  | _, [] => .ok []
  | index, slot :: rest =>
    match slot.sequence with
    | none => runtime.collectCandidates (index + 1) rest
    | some sequence =>
      match sequence.readyPhase with
      | .error _ => runtime.collectCandidates (index + 1) rest
      | .ok phase =>
        match runtime.candidateOf index slot sequence phase with
        | .error status => .error status
        | .ok entry =>
          match runtime.collectCandidates (index + 1) rest with
          | .error status => .error status
          | .ok entries => .ok (entry :: entries)

/-! ## Moving the sequences of a plan -/

/--
Apply an operation to the sequence of a slot.  The source dereferences the
optional sequence; the members of a plan always have one.
-/
def applyToSequence (operation : ControllerSequence → Result ControllerSequence)
    (slots : List RuntimeSlot) (index : ℕ) : Result (List RuntimeSlot) :=
  let slot := slots.getD index {}
  match slot.sequence with
  | none => .error (.internal "slot has no sequence")
  | some sequence =>
    match operation sequence with
    | .error status => .error status
    | .ok next => .ok (slots.set index { slot with sequence := some next })

/-- Apply an operation to the members in order, up to the first failure. -/
def applyToMembers (operation : ControllerSequence → Result ControllerSequence) :
    List RuntimeSlot → List ℕ → List RuntimeSlot × Result Unit
  | slots, [] => (slots, .ok ())
  | slots, index :: rest =>
    match applyToSequence operation slots index with
    | .error status => (slots, .error status)
    | .ok next => applyToMembers operation next rest

/-- Prepare the chosen candidates; `prepared` lists the slots done so far. -/
def prepareMembers (planSequence : ℕ) (phase : PackedTokenPhase) :
    List RuntimeSlot → List ℕ → List CandidateEntry → List RuntimeSlot × List ℕ × Result Unit
  | slots, prepared, [] => (slots, prepared, .ok ())
  | slots, prepared, entry :: rest =>
    match applyToSequence (fun sequence =>
          sequence.prepare planSequence phase entry.candidate.realTokenCount)
        slots entry.slotIndex with
    | .error status => (slots, prepared, .error status)
    | .ok next => prepareMembers planSequence phase next (prepared ++ [entry.slotIndex]) rest

/-- The sampling parameters of a member, with its next sample ordinal. -/
def memberSampling (slots : List RuntimeSlot) (index : ℕ) : ControllerRequestSampling :=
  let slot := slots.getD index {}
  { slot.request.sampling with
    sampleOrdinal := (slot.sequence.map ControllerSequence.acceptedCompletionCount).getD 0 }

/-! ## Preparing a plan -/

/-- A decision of the scheduler, turned into a plan. -/
structure PlanDraft where
  tier : SchedulerTier
  members : List CandidateEntry
  plan : PackedTokenPlan
  digest : Sha256Digest
  metadata : PackedTokenMetadataView
deriving DecidableEq

/-- The chosen candidates, in the order of the decision. -/
def chosenEntries (entries : List CandidateEntry) (indices : List ℕ) : List CandidateEntry :=
  indices.filterMap fun index => entries[index]?

def planIdentity (totalRealTokens : ℕ) : ScheduledPlanIdentity where
  epoch := runtime.limits.epoch
  planSequence := runtime.nextPlanSequence
  profileRevision := runtime.limits.profileRevision
  resourceVectorHash := runtime.limits.resourceVectorHash
  executionBucketTokens :=
    if runtime.limits.padToMaximumExecutionBucket then
      runtime.limits.metadata.maximumExecutionBucketTokens
    else totalRealTokens
  maximumExecutionBucketTokens := runtime.limits.metadata.maximumExecutionBucketTokens

/-- Build the plan, its digest and its metadata from a decision. -/
def draftPlan (entries : List CandidateEntry) (decision : SchedulerDecisionView) :
    ControllerRuntime × Result PlanDraft :=
  match runtime.scheduler.assembleCurrentPlan decision.generation
      (runtime.planIdentity decision.totalRealTokens)
      (entries.map CandidateEntry.state) with
  | .error status => (runtime, .error status)
  | .ok plan =>
    match plan.semanticDigest with
    | .error status => (runtime, .error status)
    | .ok digest =>
      match runtime.scheduler.materializeCurrentMetadata
          decision.generation plan (entries.map CandidateEntry.tokens)
          runtime.metadata with
      | (arena, .error status) => ({ runtime with metadata := arena }, .error status)
      | (arena, .ok metadata) =>
        ({ runtime with metadata := arena }, .ok
          { tier := decision.tier
            members := chosenEntries entries decision.includedCandidateIndices
            plan
            digest
            metadata })

/-- The most output records that a member of the plan may need. -/
def maximumRecords (members : List CandidateEntry) : ℕ :=
  if members.any (fun entry => entry.tokens.producesLogits) then 1 else 0

/-- Undo the members that were prepared before one refused. -/
def rollbackPrepared (burst : OutputBurstLease) (prepared : List ℕ) (status : Status) :
    ControllerRuntime × Result (Option ControllerPreparedPlanView) :=
  match applyToMembers (fun sequence => sequence.abortPrepared runtime.nextPlanSequence)
      runtime.slots prepared with
  | (slots, .error _) =>
    { runtime with slots }.failWith (.internal "controller plan prepare rollback failed")
  | (slots, .ok ()) =>
    match runtime.outputCredits.abort burst with
    | (credits, .error _) =>
      { runtime with slots, outputCredits := credits }.failWith
        (.internal "controller output credit rollback failed")
    | (credits, .ok ()) => ({ runtime with slots, outputCredits := credits }, .error status)

/-- Acquire the credit, prepare the members and install the plan. -/
def installPlan (draft : PlanDraft) :
    ControllerRuntime × Result (Option ControllerPreparedPlanView) :=
  match runtime.outputCredits.acquire runtime.nextPlanSequence
      runtime.limits.outputPlanKind (maximumRecords draft.members)
      runtime.limits.outputMaximumSlotsPerCredit
      runtime.limits.outputMaximumBytesPerCredit with
  | (credits, .error status) => ({ runtime with outputCredits := credits }, .error status)
  | (credits, .ok burst) =>
    match prepareMembers runtime.nextPlanSequence draft.plan.phase
        runtime.slots [] draft.members with
    | (slots, prepared, .error status) =>
      { runtime with slots, outputCredits := credits }.rollbackPrepared burst prepared status
    | (slots, prepared, .ok ()) =>
      ({ runtime with
          slots
          outputCredits := credits
          current := some
            { plan := draft.plan
              outputBurst := burst
              digest := draft.digest
              tier := draft.tier
              selectedSlotIndices := prepared }
          nextPlanSequence := nextU64 runtime.nextPlanSequence },
        .ok (some
          { plan := draft.plan
            metadata := draft.metadata
            selectedSlotIndices := prepared
            selectedSampling := prepared.map (memberSampling slots)
            planDigest := draft.digest }))

/-- Choose, assemble and install the next plan. -/
def prepareNextPlan (nowNs : ℤ) : ControllerRuntime × Result (Option ControllerPreparedPlanView) :=
  if runtime.state ≠ .ready ∨ runtime.current.isSome then
    (runtime, .error (.failedPrecondition "controller cannot prepare another plan"))
  else if nowNs < runtime.lastControllerNowNs ∨ runtime.nextPlanSequence = 0 then
    (runtime, .error (.invalidArgument "controller plan identity is invalid"))
  else
    let timed := { runtime with lastControllerNowNs := nowNs }
    match timed.collectCandidates 0 timed.slots with
    | .error status => (timed, .error status)
    | .ok entries =>
      if entries.length = 0 then (timed, .ok none)
      else
        match timed.scheduler.select
            { nowNs
              consecutiveDecodeRounds := timed.consecutiveDecodeRounds
              lastSuccessfulPlanWasProtectedPrefill := timed.lastSuccessfulPlanWasProtectedPrefill
              candidates := entries.map CandidateEntry.candidate } with
        | (scheduler, .error status) => ({ timed with scheduler }, .error status)
        | (scheduler, .ok decision) =>
          let decided := { timed with scheduler }
          if decision.tier = .idle then (decided, .ok none)
          else
            match decided.draftPlan entries decision with
            | (drafted, .error status) => (drafted, .error status)
            | (drafted, .ok draft) => drafted.installPlan draft

/-! ## Commit, in flight, abort -/

section

variable (planSequence : ℕ) (planDigest : Sha256Digest)

/-- The current plan, if the caller names its sequence and digest. -/
def currentNamed : Option CurrentPlan := runtime.current.filter fun current =>
    current.plan.planSequence = planSequence ∧ current.digest = planDigest

/-- Commit the credit and every member of the plan. -/
def commitCurrentPlan : ControllerRuntime × Result Unit :=
  match runtime.currentNamed planSequence planDigest with
  | none => (runtime, .error (.failedPrecondition "controller plan commit identity drifted"))
  | some current =>
    match runtime.outputCredits.commit current.outputBurst with
    | (credits, .error status) => ({ runtime with outputCredits := credits }, .error status)
    | (credits, .ok ()) =>
      match applyToMembers (fun sequence => sequence.commit planSequence)
          runtime.slots current.selectedSlotIndices with
      | (slots, .error _) =>
        { runtime with outputCredits := credits, slots }.failWith
          (.internal "controller plan commit became partial")
      | (slots, .ok ()) => ({ runtime with outputCredits := credits, slots }, .ok ())

/-- Mark every member of the plan as executing. -/
def markCurrentPlanInFlight : ControllerRuntime × Result Unit :=
  match runtime.currentNamed planSequence planDigest with
  | none => (runtime, .error (.failedPrecondition "controller in-flight identity drifted"))
  | some current =>
    match applyToMembers (fun sequence => sequence.markInFlight planSequence)
        runtime.slots current.selectedSlotIndices with
    | (slots, .error _) =>
      { runtime with slots }.failWith (.internal "controller in-flight publication became partial")
    | (slots, .ok ()) => ({ runtime with slots }, .ok ())

/-- Take back the members and the credit of the plan. -/
def abortCurrentPlan : ControllerRuntime × Result Unit :=
  match runtime.currentNamed planSequence planDigest with
  | none => (runtime, .error (.failedPrecondition "controller plan abort identity drifted"))
  | some current =>
    match applyToMembers (fun sequence => sequence.abortPrepared planSequence)
        runtime.slots current.selectedSlotIndices with
    | (slots, .error _) =>
      { runtime with slots }.failWith (.internal "controller plan abort became partial")
    | (slots, .ok ()) =>
      match runtime.outputCredits.abort current.outputBurst with
      | (credits, .error _) =>
        { runtime with slots, outputCredits := credits }.failWith
          (.internal "controller output credit abort failed")
      | (credits, .ok ()) =>
        ({ runtime with slots, outputCredits := credits, current := none }, .ok ())

end

end ControllerRuntime

end Pih
