import Pih.Model.PackedTokenMetadata
import Mathlib.Data.List.Sort

/-!
# The phase-tier scheduler

The scheduler chooses the sequences of the next plan from a snapshot of the
candidates: it orders the tiers, takes the first tier that yields a sequence
and fills the plan greedily in service order.  The decision is remembered so
that the plan and its metadata can be assembled from the same choice.

Times are 64-bit signed integers that the checks keep nonnegative, so they
are integers here.  The three arrays that the source fills in step for the
included candidates are one list of records.
-/

namespace Pih

/-- The families that compete for a round. -/
inductive SchedulerTier where
  | idle
  | protectedPrefill
  | decodeFamily
  | normalPrefill
deriving DecidableEq, Repr

inductive SchedulerInfeasibility where
  | none
  | persistentResource
  | workspace
  | boundaryCredit
  | expertPaging
  | outputCredit
  | planTokenBound
deriving DecidableEq, Repr

/-- A sequence that could be scheduled. -/
structure SchedulerCandidate where
  sequenceGeneration : ℕ
  nextPhase : PackedTokenPhase
  lastServicePlanSeq : ℕ
  readyEnqueueSeq : ℕ
  prefillEligibleSinceNs : ℤ
  realTokenCount : ℕ
  infeasibility : SchedulerInfeasibility
deriving DecidableEq

structure PhaseTierProfile where
  maximumCandidates : ℕ
  maximumSequencesPerPlan : ℕ
  maximumRealTokensPerPlan : ℕ
  schedulerScanLimit : ℕ
  maxConsecutiveDecodeRounds : ℕ
  prefillStarvationThresholdNs : ℤ
deriving DecidableEq

/-- What a decision is taken from. -/
structure SchedulerSnapshot where
  nowNs : ℤ
  consecutiveDecodeRounds : ℕ
  lastSuccessfulPlanWasProtectedPrefill : Bool
  candidates : List SchedulerCandidate
deriving DecidableEq

/-- An included candidate: its index, generation and token count. -/
structure SelectedCandidate where
  candidateIndex : ℕ
  sequenceGeneration : ℕ
  realTokenCount : ℕ
deriving DecidableEq

/-- The chosen tier and its candidates. -/
structure SchedulerDecisionView where
  generation : ℕ
  tier : SchedulerTier
  phase : PackedTokenPhase
  includedCandidateIndices : List ℕ
  candidateResults : List SchedulerInfeasibility
  scannedCount : ℕ
  totalRealTokens : ℕ
deriving DecidableEq

structure ScheduledSequenceState where
  sequenceGeneration : ℕ
  committedStartPosition : ℕ
  stateGeneration : ℕ
  inputDigest : Sha256Digest
deriving DecidableEq

structure ScheduledPlanIdentity where
  epoch : ℕ
  planSequence : ℕ
  profileRevision : List UInt8
  resourceVectorHash : Sha256Digest
  executionBucketTokens : ℕ
  maximumExecutionBucketTokens : ℕ
deriving DecidableEq

/-- The profile and the last decision. -/
structure PhaseTierScheduler where
  profile : PhaseTierProfile
  generation : ℕ := 0
  included : List SelectedCandidate := []
  currentCandidateCount : ℕ := 0
  currentTotalTokens : ℕ := 0
  currentTier : SchedulerTier := .idle
  currentPhase : PackedTokenPhase := .prefill
deriving DecidableEq

namespace PhaseTierScheduler

variable (profile : PhaseTierProfile)

def create : Result PhaseTierScheduler :=
  if profile.maximumCandidates = 0 ∨ profile.maximumSequencesPerPlan = 0 ∨
      profile.maximumSequencesPerPlan > profile.maximumCandidates ∨
      profile.maximumRealTokensPerPlan = 0 ∨
      profile.schedulerScanLimit < profile.maximumCandidates ∨
      profile.maxConsecutiveDecodeRounds = 0 ∨
      profile.prefillStarvationThresholdNs ≤ 0 then
    .error (.invalidArgument "phase-tier scheduler profile is invalid")
  else .ok { profile }

/-! ## The order of service -/

def keyLess (left right : SchedulerCandidate) : Bool :=
  if left.lastServicePlanSeq ≠ right.lastServicePlanSeq then
    left.lastServicePlanSeq < right.lastServicePlanSeq
  else if left.readyEnqueueSeq ≠ right.readyEnqueueSeq then
    left.readyEnqueueSeq < right.readyEnqueueSeq
  else left.sequenceGeneration < right.sequenceGeneration

/-- A candidate outside the snapshot; no index in use reaches it. -/
def absentCandidate : SchedulerCandidate := ⟨0, .prefill, 0, 0, 0, 0, .none⟩

variable (snapshot : SchedulerSnapshot)

def candidateAt (index : ℕ) : SchedulerCandidate := snapshot.candidates.getD index absentCandidate

/-- The first index is served before the second or has the same key. -/
def servedBefore (left right : ℕ) : Prop :=
  keyLess (candidateAt snapshot right) (candidateAt snapshot left) = false

instance (snapshot : SchedulerSnapshot) : DecidableRel (servedBefore snapshot) :=
  fun _ _ => inferInstanceAs (Decidable (_ = false))

/-! ## The checks on a snapshot -/

def candidateValid (nowNs : ℤ) (candidate : SchedulerCandidate) : Bool :=
  ¬ (candidate.sequenceGeneration = 0 ∨ candidate.readyEnqueueSeq = 0 ∨
    candidate.realTokenCount = 0 ∨
    candidate.prefillEligibleSinceNs < 0 ∨
    candidate.prefillEligibleSinceNs > nowNs)

/-- The candidates share a generation or an enqueue number. -/
def duplicates (prior candidate : SchedulerCandidate) : Bool :=
  prior.sequenceGeneration = candidate.sequenceGeneration ∨
    prior.readyEnqueueSeq = candidate.readyEnqueueSeq

def validateCandidates (nowNs : ℤ) : List SchedulerCandidate → List SchedulerCandidate → Result Unit
  | _, [] => .ok ()
  | prior, candidate :: rest =>
    if ¬ candidateValid nowNs candidate then
      .error (.invalidArgument "scheduler candidate is invalid")
    else if prior.any (fun earlier => duplicates earlier candidate) then
      .error (.invalidArgument "scheduler candidate identity is duplicated")
    else validateCandidates nowNs (prior ++ [candidate]) rest

/-! ## Tiers -/

def isPrefill (candidate : SchedulerCandidate) : Bool := candidate.nextPhase = .prefill

/-- A prefill candidate that has waited for the starvation threshold. -/
def isProtected (nowNs : ℤ) (candidate : SchedulerCandidate) : Bool :=
  candidate.nextPhase = .prefill ∧ nowNs - candidate.prefillEligibleSinceNs ≥
      profile.prefillStarvationThresholdNs

def appendUnique (preferences : List SchedulerTier) (tier : SchedulerTier) : List SchedulerTier :=
  if tier ∈ preferences then preferences else preferences ++ [tier]

/-- The tiers to try, in order. -/
def preferences : List SchedulerTier :=
  let hasPrefill := snapshot.candidates.any isPrefill
  let hasDecode := snapshot.candidates.any fun candidate => ¬ isPrefill candidate
  let hasProtected := snapshot.candidates.any (isProtected profile snapshot.nowNs)
  let recent := snapshot.lastSuccessfulPlanWasProtectedPrefill
  let first :=
    if hasProtected ∧ (¬ hasDecode ∨ ¬ recent) then appendUnique [] .protectedPrefill
    else []
  let second :=
    if hasDecode ∧ (recent ∨ ¬ hasPrefill ∨ snapshot.consecutiveDecodeRounds <
          profile.maxConsecutiveDecodeRounds) then
      appendUnique first .decodeFamily
    else first
  let third := if hasPrefill then appendUnique second .normalPrefill else second
  if hasDecode then appendUnique third .decodeFamily else third

def belongs (nowNs : ℤ) (tier : SchedulerTier) (candidate : SchedulerCandidate) : Bool :=
  match tier with
  | .protectedPrefill => isProtected profile nowNs candidate
  | .normalPrefill => isPrefill candidate
  | _ => ¬ isPrefill candidate

/-! ## Filling the plan -/

/-- What the scan has found so far. -/
structure Scan where
  scanned : List ℕ := []
  results : List SchedulerInfeasibility
  included : List SelectedCandidate := []
  totalTokens : ℕ := 0
deriving DecidableEq

section

variable (snapshot : SchedulerSnapshot)

/-- Consider one candidate of the tier. -/
def scanCandidate (tierPhase : PackedTokenPhase) (scan : Scan) (index : ℕ) : Scan :=
  let candidate := candidateAt snapshot index
  if candidate.nextPhase ≠ tierPhase then scan
  else
    let scanned := { scan with scanned := scan.scanned ++ [index] }
    if candidate.infeasibility ≠ .none then
      { scanned with results := scanned.results.set index candidate.infeasibility }
    else if scan.included.length = profile.maximumSequencesPerPlan ∨ candidate.realTokenCount >
          profile.maximumRealTokensPerPlan - scan.totalTokens then
      { scanned with results := scanned.results.set index .planTokenBound }
    else
      { scanned with
        included :=
          scan.included ++ [⟨index, candidate.sequenceGeneration, candidate.realTokenCount⟩]
        totalTokens := scan.totalTokens + candidate.realTokenCount }

/-- The unscanned candidates of a tier in service order. -/
def orderedIndices (tier : SchedulerTier) (scanned : List ℕ) : List ℕ :=
  ((List.range snapshot.candidates.length).filter fun index =>
    belongs profile snapshot.nowNs tier (candidateAt snapshot index) ∧
      index ∉ scanned).insertionSort (servedBefore snapshot)

def tierPhase (tier : SchedulerTier) (ordered : List ℕ) : PackedTokenPhase :=
  match tier, ordered with
  | .decodeFamily, index :: _ => (candidateAt snapshot index).nextPhase
  | _, _ => .prefill

end

/-- Try the tiers until one of them includes a candidate. -/
def scanTiers (profile : PhaseTierProfile) (snapshot : SchedulerSnapshot) :
    Scan → List SchedulerTier → Scan × SchedulerTier × PackedTokenPhase
  | scan, [] => (scan, .idle, .prefill)
  | scan, tier :: rest =>
    let ordered := orderedIndices profile snapshot tier scan.scanned
    let phase := tierPhase snapshot tier ordered
    let next := ordered.foldl (scanCandidate profile snapshot phase) scan
    if next.included.length ≠ 0 then (next, tier, phase)
    else scanTiers profile snapshot next rest

variable (scheduler : PhaseTierScheduler)

/-- Try the tiers in the order of preference. -/
def select (snapshot : SchedulerSnapshot) : PhaseTierScheduler × Result SchedulerDecisionView :=
  if snapshot.nowNs < 0 ∨ snapshot.candidates.length > scheduler.profile.maximumCandidates ∨
      snapshot.candidates.length > scheduler.profile.schedulerScanLimit ∨
      scheduler.generation = u64Max then
    (scheduler, .error (.invalidArgument "scheduler snapshot exceeds its profile"))
  else
    match validateCandidates snapshot.nowNs [] snapshot.candidates with
    | .error status => (scheduler, .error status)
    | .ok () =>
      let chosen :=
        scanTiers scheduler.profile snapshot
          { results := List.replicate snapshot.candidates.length .none }
          (preferences scheduler.profile snapshot)
      let scan := chosen.1
      let next : PhaseTierScheduler :=
        { profile := scheduler.profile
          generation := scheduler.generation + 1
          included := scan.included
          currentCandidateCount := snapshot.candidates.length
          currentTotalTokens := scan.totalTokens
          currentTier := chosen.2.1
          currentPhase := chosen.2.2 }
      (next, .ok
        { generation := next.generation
          tier := next.currentTier
          phase := next.currentPhase
          includedCandidateIndices := scan.included.map SelectedCandidate.candidateIndex
          candidateResults := scan.results
          scannedCount := scan.scanned.length
          totalRealTokens := scan.totalTokens })

/-! ## Assembling the plan of a decision -/

/-- The loop of `assemble_current_plan`. -/
def planInputs (candidateStates : List ScheduledSequenceState) :
    List SelectedCandidate → Result (List PackedSequenceInput)
  | [] => .ok []
  | selected :: rest =>
    match candidateStates[selected.candidateIndex]? with
    | none => .error (.invalidArgument "scheduler decision index is invalid")
    | some state =>
      if state.sequenceGeneration ≠ selected.sequenceGeneration ∨ state.stateGeneration = 0 then
        .error (.invalidArgument "scheduled sequence state drifted")
      else
        match planInputs candidateStates rest with
        | .error status => .error status
        | .ok inputs =>
          .ok (⟨state.sequenceGeneration, state.committedStartPosition,
              selected.realTokenCount, state.stateGeneration, state.inputDigest⟩ :: inputs)

/-- The plan of the last decision. -/
def assembleCurrentPlan (decisionGeneration : ℕ) (identity : ScheduledPlanIdentity)
    (candidateStates : List ScheduledSequenceState) :
    Result PackedTokenPlan :=
  if decisionGeneration = 0 ∨ decisionGeneration ≠ scheduler.generation ∨
      scheduler.currentTier = .idle ∨ scheduler.included.length = 0 ∨
      candidateStates.length ≠ scheduler.currentCandidateCount then
    .error (.invalidArgument "scheduler decision is stale or idle")
  else
    match planInputs candidateStates scheduler.included with
    | .error status => .error status
    | .ok inputs =>
      if (scheduler.included.map SelectedCandidate.realTokenCount).sum ≠
            scheduler.currentTotalTokens then
        .error (.internal "scheduler selected-token ledger drifted")
      else
        PackedTokenPlan.create identity.epoch identity.planSequence
          scheduler.currentPhase identity.profileRevision
          identity.resourceVectorHash inputs
          identity.executionBucketTokens
          { maximumSequences := scheduler.profile.maximumSequencesPerPlan
            maximumRealTokens := scheduler.profile.maximumRealTokensPerPlan
            maximumExecutionBucketTokens := identity.maximumExecutionBucketTokens }

/-- The loop of `materialize_current_metadata`. -/
def metadataInputs (candidateTokens : List PackedSequenceTokens) :
    List PackedSequenceInput → List SelectedCandidate → Result (List PackedSequenceTokens)
  | input :: inputs, selected :: rest =>
    match candidateTokens[selected.candidateIndex]? with
    | none => .error (.invalidArgument "scheduled token payload drifted")
    | some tokens =>
      if tokens.sequenceGeneration ≠ selected.sequenceGeneration ∨
          tokens.tokenIds.length ≠ selected.realTokenCount ∨
          input.sequenceGeneration ≠ selected.sequenceGeneration ∨
          input.realTokenCount ≠ selected.realTokenCount then
        .error (.invalidArgument "scheduled token payload drifted")
      else
        match metadataInputs candidateTokens inputs rest with
        | .error status => .error status
        | .ok sequences => .ok (tokens :: sequences)
  | _, _ => .ok []

/-- The metadata of the last decision. -/
def materializeCurrentMetadata (decisionGeneration : ℕ) (plan : PackedTokenPlan)
    (candidateTokens : List PackedSequenceTokens) (arena : PackedTokenMetadataArena) :
    PackedTokenMetadataArena × Result PackedTokenMetadataView :=
  if decisionGeneration = 0 ∨ decisionGeneration ≠ scheduler.generation ∨
      scheduler.currentTier = .idle ∨ scheduler.included.length = 0 ∨
      candidateTokens.length ≠ scheduler.currentCandidateCount ∨
      plan.phase ≠ scheduler.currentPhase ∨
      plan.sequenceCount ≠ scheduler.included.length ∨
      plan.totalRealTokens ≠ scheduler.currentTotalTokens then
    (arena, .error (.invalidArgument "packed metadata decision identity drifted"))
  else
    match metadataInputs candidateTokens plan.sequences scheduler.included with
    | .error status => (arena, .error status)
    | .ok sequences => arena.materialize plan sequences

end PhaseTierScheduler

end Pih
