import Pih.Scheduler.SlotMoves

/-!
# What a prepared plan consists of

The scheduler includes candidates of one phase, each at most once, and the
plan and its metadata list exactly those candidates, in the order of the
decision.  Every ready sequence can be prepared for the plan that was built
from its candidate, so the rollback branch of `prepare_next_plan` is never
taken.
-/

namespace Pih

open List ControllerSequence

namespace PhaseTierScheduler

/-! ## The decision -/

/-- The record of an included candidate. -/
def selectedOf (snapshot : SchedulerSnapshot) (index : ℕ) : SelectedCandidate where
  candidateIndex := index
  sequenceGeneration := (candidateAt snapshot index).sequenceGeneration
  realTokenCount := (candidateAt snapshot index).realTokenCount

/-- The indices were chosen from a snapshot for a plan of one phase. -/
structure Chosen (snapshot : SchedulerSnapshot) (phase : PackedTokenPhase)
    (indices : List ℕ) : Prop where
  distinct : indices.Nodup
  inside : ∀ index ∈ indices, index < snapshot.candidates.length
  phase : ∀ index ∈ indices, (candidateAt snapshot index).nextPhase = phase

theorem Chosen.nil (snapshot : SchedulerSnapshot) (phase : PackedTokenPhase) :
    Chosen snapshot phase [] :=
  ⟨nodup_nil, nofun, nofun⟩

variable (profile : PhaseTierProfile)

theorem orderedIndices_nodup (snapshot : SchedulerSnapshot)
    (tier : SchedulerTier) (scanned : List ℕ) :
    (orderedIndices profile snapshot tier scanned).Nodup := by
  unfold orderedIndices
  rw [(perm_insertionSort _ _).nodup_iff]
  exact nodup_range.filter _

theorem lt_of_mem_orderedIndices {profile : PhaseTierProfile}
    (member : index ∈ orderedIndices profile snapshot tier scanned) :
    index < snapshot.candidates.length := by
  unfold orderedIndices at member
  rw [(perm_insertionSort _ _).mem_iff] at member
  exact mem_range.mp (mem_filter.mp member).1

/-- One candidate of the scan is included or it is not. -/
theorem included_scanCandidate :
    (scanCandidate profile snapshot phase scan index).included = scan.included ∨
      ((candidateAt snapshot index).nextPhase = phase ∧
        (scanCandidate profile snapshot phase scan index).included =
          scan.included ++ [selectedOf snapshot index]) := by
  unfold scanCandidate
  dsimp only
  split
  · exact .inl rfl
  case isFalse same =>
    split
    · exact .inl rfl
    split
    · exact .inl rfl
    · exact .inr ⟨not_not.mp same, rfl⟩

/-- A scan includes a sublist of the candidates that it considers. -/
theorem included_foldl_scanCandidate (snapshot : SchedulerSnapshot)
    (phase : PackedTokenPhase) (scan : Scan) (ordered : List ℕ) :
    ∃ chosen, List.Sublist chosen ordered ∧ (∀ index ∈ chosen,
        (candidateAt snapshot index).nextPhase = phase) ∧
      (ordered.foldl (scanCandidate profile snapshot phase) scan).included =
          scan.included ++ chosen.map (selectedOf snapshot) := by
  induction ordered generalizing scan with
  | nil => exact ⟨[], .slnil, nofun, by simp⟩
  | cons _ _ induction =>
    rcases induction _ with ⟨chosen, sublist, phases, included⟩
    rw [foldl_cons, included]
    rcases included_scanCandidate profile with skipped | ⟨same, taken⟩
    · rw [skipped]
      exact ⟨chosen, sublist.cons _, phases, rfl⟩
    rw [taken]
    refine ⟨_, sublist.cons_cons _, ?_, by simp⟩
    intro other member
    rcases mem_cons.mp member with rfl | later
    · exact same
    · exact phases other later

theorem scanTiers_chosen (snapshot : SchedulerSnapshot) (scan : Scan)
    (empty : scan.included = []) (tiers : List SchedulerTier) :
    ∃ chosen, Chosen snapshot (scanTiers profile snapshot scan tiers).2.2 chosen ∧
      (scanTiers profile snapshot scan tiers).1.included = chosen.map (selectedOf snapshot) := by
  induction tiers generalizing scan with
  | nil => exact ⟨[], .nil _ _, empty⟩
  | cons tier _ induction =>
    unfold scanTiers
    dsimp only
    rcases included_foldl_scanCandidate profile snapshot (tierPhase snapshot tier _) scan _ with
      ⟨chosen, sublist, phases, included⟩
    rw [empty] at included
    split
    · refine ⟨chosen, ⟨?_, ?_, phases⟩, included⟩
      · exact sublist.nodup (orderedIndices_nodup _ _ _ _)
      intro index member
      exact lt_of_mem_orderedIndices (sublist.subset member)
    case isFalse none => exact induction _ (length_eq_zero_iff.mp (not_not.mp none))

/-- Every outcome of a selection. -/
theorem select_cases (scheduler : PhaseTierScheduler) (snapshot : SchedulerSnapshot) :
    (∃ status, scheduler.select snapshot = (scheduler, .error status)) ∨
    ∃ next decision chosen, scheduler.select snapshot = (next, .ok decision) ∧
      Chosen snapshot next.currentPhase chosen ∧
      next.included = chosen.map (selectedOf snapshot) ∧
      decision.includedCandidateIndices = chosen ∧
      decision.phase = next.currentPhase := by
  unfold select
  split
  · exact .inl ⟨_, rfl⟩
  split
  · exact .inl ⟨_, rfl⟩
  rcases scanTiers_chosen scheduler.profile snapshot
      { results := replicate snapshot.candidates.length .none }
      rfl _ with
    ⟨chosen, valid, included⟩
  refine .inr ⟨_, _, chosen, rfl, valid, included, ?_, rfl⟩
  rw [included, map_map]
  exact map_id _

end PhaseTierScheduler

namespace ControllerRuntime

open PhaseTierScheduler (candidateAt metadataInputs planInputs selectedOf)
open CandidateEntry (slotIndex tokens)

/-! ## The candidates -/

/-- What the plan records of a candidate. -/
def CandidateEntry.input (entry : CandidateEntry) : PackedSequenceInput where
  sequenceGeneration := entry.state.sequenceGeneration
  committedStartPosition := entry.state.committedStartPosition
  realTokenCount := entry.candidate.realTokenCount
  stateGeneration := entry.state.stateGeneration
  inputDigest := entry.state.inputDigest

/-- The entry is the candidate of the ready sequence in its slot. -/
structure Describes (runtime : ControllerRuntime) (entry : CandidateEntry)
    (slot : RuntimeSlot) (sequence : ControllerSequence) : Prop where
  holding : Holding runtime.slots entry.slotIndex slot sequence
  ready : sequence.readyPhase = .ok entry.candidate.nextPhase
  notVerify : entry.candidate.nextPhase ≠ .verify
  count : sequence.nextRealTokenCount runtime.limits.maximumPrefillChunkTokens 0 =
      .ok entry.candidate.realTokenCount
  logits : sequence.nextPlanProducesLogits runtime.limits.maximumPrefillChunkTokens 0 =
      .ok entry.tokens.producesLogits
  tokens : runtime.nextTokens slot entry.candidate.nextPhase
        sequence.modelProcessedLength entry.candidate.realTokenCount =
      .ok entry.tokens.tokenIds
  candidate : entry.candidate.sequenceGeneration = sequence.sequenceGeneration
  state : entry.state.sequenceGeneration = sequence.sequenceGeneration
  start : entry.state.committedStartPosition = sequence.modelProcessedLength
  lastService : entry.candidate.lastServicePlanSeq = slot.lastServicePlanSequence

/-- Only the slots, the limits and the ingress matter for a candidate. -/
theorem Describes.transport {sequence : ControllerSequence}
    (describes : Describes first entry slot sequence)
    (slots : second.slots = first.slots) (limits : second.limits = first.limits)
    (ingress : second.ingress = first.ingress) :
    Describes second entry slot sequence :=
  { describes with
    holding := slots ▸ describes.holding
    count := limits ▸ describes.count
    logits := limits ▸ describes.logits
    tokens := by
      have tokens := describes.tokens
      unfold nextTokens at tokens ⊢
      rw [ingress]
      exact tokens }

variable {runtime : ControllerRuntime}

theorem candidateOf_describes {sequence : ControllerSequence}
    (holding : Holding runtime.slots index slot sequence)
    (ready : sequence.readyPhase = .ok phase)
    (built : runtime.candidateOf index slot sequence phase = .ok entry) :
    entry.slotIndex = index ∧ Describes runtime entry slot sequence := by
  rcases Result.else_eq_ok.mp built with ⟨notVerify, built⟩
  split at built
  · cases built
  rename_i count counted
  split at built
  · cases built
  rename_i logits produces
  split at built
  · cases built
  rename_i read
  split at built
  · cases built
  cases built
  exact ⟨rfl,
    { holding
      ready
      notVerify
      count := counted
      logits := produces
      tokens := read
      candidate := rfl
      state := rfl
      start := rfl
      lastService := rfl }⟩

/-- The collected entries describe different slots. -/
structure Collected (runtime : ControllerRuntime) (entries : List CandidateEntry) : Prop where
  described : ∀ entry ∈ entries, ∃ slot sequence, Describes runtime entry slot sequence
  distinct : (entries.map slotIndex).Nodup

theorem collectCandidates_from (suffix : runtime.slots.drop index = rest)
    (collected : runtime.collectCandidates index rest = .ok entries) :
    Collected runtime entries ∧ ∀ entry ∈ entries, index ≤ entry.slotIndex := by
  induction rest generalizing index entries with
  | nil =>
    cases collected
    exact ⟨⟨nofun, nodup_nil⟩, nofun⟩
  | cons slot rest induction =>
    have found : runtime.slots[index]? = some slot := by rw [← head?_drop, suffix, head?_cons]
    have later : runtime.slots.drop (index + 1) = rest := by
      rw [← drop_drop, suffix, drop_succ_cons, drop_zero]
    have skip : ∀ {entries : List CandidateEntry},
        runtime.collectCandidates (index + 1) rest = .ok entries →
        Collected runtime entries ∧ ∀ entry ∈ entries, index ≤ entry.slotIndex := by
      intro entries collected
      rcases induction later collected with ⟨all, beyond⟩
      exact ⟨all, fun entry member => Nat.le_of_succ_le (beyond entry member)⟩
    unfold collectCandidates at collected
    split at collected
    · exact skip collected
    rename_i sequence held
    split at collected
    · exact skip collected
    rename_i ready
    split at collected
    · cases collected
    rename_i built
    split at collected
    · cases collected
    rename_i collectedRest
    cases collected
    rcases induction later collectedRest with ⟨all, beyond⟩
    rcases candidateOf_describes ⟨found, held⟩ ready built with ⟨rfl, describes⟩
    refine ⟨⟨?_, ?_⟩, ?_⟩
    · intro other member
      rcases mem_cons.mp member with rfl | listed
      · exact ⟨slot, sequence, describes⟩
      · exact all.described other listed
    · rw [map_cons, nodup_cons]
      refine ⟨?_, all.distinct⟩
      intro repeated
      rcases mem_map.mp repeated with ⟨other, listed, _⟩
      have := beyond other listed
      omega
    · intro other member
      rcases mem_cons.mp member with rfl | listed
      · exact Nat.le_refl _
      · exact Nat.le_of_succ_le (beyond other listed)

theorem collectCandidates_collected
    (collected : runtime.collectCandidates 0 runtime.slots = .ok entries) :
    Collected runtime entries :=
  (collectCandidates_from drop_zero collected).1

/-! ## The chosen candidates -/

section Chosen

variable
  {entries : List CandidateEntry} {snapshot : SchedulerSnapshot}
  (candidates : snapshot.candidates = entries.map CandidateEntry.candidate)

theorem chosenEntries_cons (found : entries[index]? = some entry) (rest : List ℕ) :
    chosenEntries entries (index :: rest) = entry :: chosenEntries entries rest := by
  simp [chosenEntries, found]

theorem mem_of_mem_chosenEntries (member : entry ∈ chosenEntries entries indices) :
    ∃ index ∈ indices, entries[index]? = some entry :=
  mem_filterMap.mp member

include candidates in
theorem candidateAt_of_entry
    (found : entries[index]? = some entry) :
    candidateAt snapshot index = entry.candidate := by
  unfold candidateAt
  rw [candidates, getD_eq_getElem?_getD, getElem?_map, found]
  rfl

include candidates in
/-- An index inside the snapshot has an entry. -/
theorem entry_of_inside (inside : index < snapshot.candidates.length) :
    ∃ entry, entries[index]? = some entry := by
  rw [candidates, length_map] at inside
  exact ⟨_, getElem?_eq_getElem inside⟩

theorem chosenEntries_distinct (distinct : (entries.map slotIndex).Nodup)
    (nodup : indices.Nodup)
    (inside : ∀ index ∈ indices, ∃ entry, entries[index]? = some entry) :
    ((chosenEntries entries indices).map slotIndex).Nodup := by
  induction indices with
  | nil => exact nodup_nil
  | cons index _ induction =>
    rcases nodup_cons.mp nodup with ⟨fresh, nodup⟩
    rcases inside index (.head _) with ⟨_, found⟩
    rw [chosenEntries_cons found, map_cons, nodup_cons]
    refine ⟨?_, induction nodup fun other member => inside other (.tail _ member)⟩
    intro repeated
    rcases mem_map.mp repeated with ⟨_, listed, same⟩
    rcases mem_of_mem_chosenEntries listed with ⟨position, member, foundOther⟩
    have bounded : position < (entries.map slotIndex).length := by
      rw [length_map]
      exact (List.getElem_of_getElem? foundOther).1
    have equal : position = index := by
      apply (getElem?_inj bounded distinct).mp
      rw [getElem?_map, getElem?_map, found, foundOther, Option.map_some, Option.map_some, same]
    subst equal
    exact fresh member

include candidates in
theorem planInputs_chosen
    (inside : ∀ index ∈ indices, ∃ entry, entries[index]? = some entry)
    (built : planInputs (entries.map CandidateEntry.state)
      (indices.map (selectedOf snapshot)) = .ok inputs) :
    inputs = (chosenEntries entries indices).map CandidateEntry.input := by
  induction indices generalizing inputs with
  | nil =>
    cases built
    rfl
  | cons index rest induction =>
    rcases inside index (.head _) with ⟨entry, found⟩
    have later : ∀ other ∈ rest, ∃ entry, entries[other]? = some entry :=
      fun other member => inside other (.tail _ member)
    rw [map_cons, planInputs] at built
    simp only [selectedOf, getElem?_map, found,
      Option.map_some, candidateAt_of_entry candidates found] at built
    split at built
    · cases built
    split at built
    · cases built
    case h_2 builtRest =>
      cases built
      rw [chosenEntries_cons found, map_cons, ← induction later builtRest]
      rfl

theorem metadataInputs_chosen (aligned : inputs.length = indices.length)
    (inside : ∀ index ∈ indices, ∃ entry, entries[index]? = some entry)
    (built : metadataInputs (entries.map tokens)
      inputs (indices.map (selectedOf snapshot)) = .ok sequences) :
    sequences = (chosenEntries entries indices).map tokens := by
  induction indices generalizing inputs sequences with
  | nil =>
    cases inputs with
    | nil =>
      cases built
      rfl
    | cons => cases aligned
  | cons index rest induction =>
    rcases inside index (.head _) with ⟨entry, found⟩
    have later : ∀ other ∈ rest, ∃ entry, entries[other]? = some entry :=
      fun other member => inside other (.tail _ member)
    cases inputs with
    | nil => cases aligned
    | cons =>
      have listed : (entries.map tokens)[(selectedOf snapshot
          index).candidateIndex]? = some entry.tokens := by
        change (entries.map tokens)[index]? = _
        rw [getElem?_map, found, Option.map_some]
      rw [map_cons, metadataInputs, listed] at built
      dsimp only at built
      split at built
      · cases built
      split at built
      · cases built
      case h_2 builtRest =>
        cases built
        rw [chosenEntries_cons found, map_cons, ← induction (Nat.succ.inj aligned) later builtRest]

end Chosen

/-! ## The draft of a plan -/

theorem assembleCurrentPlan_ok {scheduler : PhaseTierScheduler}
    (assembled : scheduler.assembleCurrentPlan generation identity states = .ok plan) :
    ∃ inputs, planInputs states scheduler.included = .ok inputs ∧
      PackedTokenPlan.Created identity.epoch identity.planSequence
        scheduler.currentPhase inputs identity.executionBucketTokens
        plan := by
  unfold PhaseTierScheduler.assembleCurrentPlan at assembled
  split at assembled
  · cases assembled
  split at assembled
  · cases assembled
  case h_2 inputs built =>
    split at assembled
    · cases assembled
    · exact ⟨inputs, built, PackedTokenPlan.create_ok assembled⟩

theorem materializeCurrentMetadata_cases (scheduler : PhaseTierScheduler)
    (generation : ℕ) (tokens : List PackedSequenceTokens) (sized : arena.Sized)
    (bucket : plan.totalRealTokens ≤ plan.executionBucketTokens) :
    (∃ status, scheduler.materializeCurrentMetadata generation plan tokens arena =
        (arena, .error status)) ∨
    ∃ next view sequences, scheduler.materializeCurrentMetadata generation plan tokens arena =
        (next, .ok view) ∧
      next.Sized ∧
      plan.sequenceCount = scheduler.included.length ∧
      metadataInputs tokens plan.sequences scheduler.included = .ok sequences ∧
      PackedTokenMetadataArena.Materialized plan sequences view := by
  unfold PhaseTierScheduler.materializeCurrentMetadata
  split
  · exact .inl ⟨_, rfl⟩
  rename_i identity
  simp only [not_or, not_not] at identity
  split
  · exact .inl ⟨_, rfl⟩
  rename_i sequences built
  rcases PackedTokenMetadataArena.materialize_cases sized bucket sequences with
    ⟨status, refused⟩ | ⟨next, view, done, kept, materialized⟩
  · exact .inl ⟨status, refused⟩
  exact .inr ⟨next, view, sequences, done, kept, identity.2.2.2.2.2.2.1, built, materialized⟩

/-- What a draft says about the slots it was made from. -/
structure Drafted (runtime : ControllerRuntime) (draft : PlanDraft) : Prop where
  described : ∀ entry ∈ draft.members, ∃ slot sequence, Describes runtime entry slot sequence
  distinct : (draft.members.map slotIndex).Nodup
  phase : ∀ entry ∈ draft.members, entry.candidate.nextPhase = draft.plan.phase
  nonempty : draft.members ≠ []
  sequences : draft.plan.sequences = draft.members.map CandidateEntry.input
  planSequence : draft.plan.planSequence = runtime.nextPlanSequence
  generations : draft.plan.orderedSequenceGenerations.Nodup
  rows : draft.metadata.realRows = PackedTokenMetadataArena.planRows 0 draft.plan.sequences
    (draft.members.map tokens)
  counts : ∀ entry ∈ draft.members, entry.tokens.tokenIds.length = entry.candidate.realTokenCount

variable {runtime : ControllerRuntime} {phase : PackedTokenPhase}
  {sequence : ControllerSequence}

theorem draftPlan_cases (collected : Collected runtime entries)
    (candidates : snapshot.candidates = entries.map CandidateEntry.candidate)
    (chosen : PhaseTierScheduler.Chosen snapshot runtime.scheduler.currentPhase
        decision.includedCandidateIndices)
    (included : runtime.scheduler.included = decision.includedCandidateIndices.map
          (selectedOf snapshot))
    (sized : runtime.metadata.Sized) :
    (∃ status, runtime.draftPlan entries decision = (runtime, .error status)) ∨
    ∃ metadata draft, runtime.draftPlan entries decision = ({ runtime with metadata }, .ok draft) ∧
      metadata.Sized ∧ Drafted runtime draft ∧
      draft.tier = decision.tier ∧ draft.plan.phase = runtime.scheduler.currentPhase := by
  unfold draftPlan
  split
  · exact .inl ⟨_, rfl⟩
  rename_i plan assembled
  split
  · exact .inl ⟨_, rfl⟩
  rcases assembleCurrentPlan_ok assembled with ⟨_, built, created⟩
  have bucket : plan.totalRealTokens ≤ plan.executionBucketTokens := by
    rw [created.bucket_eq]
    exact created.bucket_le
  rcases materializeCurrentMetadata_cases runtime.scheduler decision.generation _ sized bucket with
    ⟨status, refused⟩ |
    ⟨metadata, _, sequences, done, kept, count, read, materialized⟩
  · rw [refused]
    exact .inl ⟨status, rfl⟩
  rw [done]
  refine .inr ⟨metadata, _, rfl, kept, ?_, rfl, created.phase_eq⟩
  have inside : ∀ index ∈ decision.includedCandidateIndices,
      ∃ entry, entries[index]? = some entry :=
    fun index member => entry_of_inside candidates (chosen.inside index member)
  rw [included] at built read count
  have inputs_eq := planInputs_chosen candidates inside built
  have aligned : plan.sequences.length = decision.includedCandidateIndices.length := by
    rw [length_map] at count
    exact count
  have sequences_eq := metadataInputs_chosen aligned inside read
  have listed : ∀ entry ∈ chosenEntries entries
      decision.includedCandidateIndices, entry ∈ entries := by
    intro entry member
    rcases mem_of_mem_chosenEntries member with ⟨index, -, found⟩
    exact mem_of_getElem? found
  exact
    { described := fun entry member => collected.described entry (listed entry member)
      distinct := chosenEntries_distinct collected.distinct chosen.distinct inside
      phase := by
        intro entry member
        rcases mem_of_mem_chosenEntries member with ⟨index, indexMember, found⟩
        rw [created.phase_eq, ← chosen.phase index indexMember,
          candidateAt_of_entry candidates found]
      nonempty := by
        intro empty
        apply created.nonempty
        rw [inputs_eq, show chosenEntries entries decision.includedCandidateIndices = [] from empty]
        rfl
      sequences := created.sequences_eq.trans inputs_eq
      planSequence := created.planSequence_eq
      generations := created.generations
      rows := by
        rw [materialized.realRows, sequences_eq]
      counts := by
        have agree := materialized.agree
        rw [created.sequences_eq, inputs_eq, sequences_eq] at agree
        intro entry member
        rw [PackedTokenMetadataArena.Matches, forall₂_map_left_iff, forall₂_map_right_iff,
          forall₂_same] at agree
        exact (agree entry member).2 }

/-! ## Preparing the members -/

/-- A ready sequence has no plan. -/
theorem idle_of_readyPhase (sound : sequence.Sound) (ready : sequence.readyPhase = .ok phase) :
    sequence.activePlanSequence = 0 := by
  by_contra active
  have inside := (sound.work active).state
  unfold readyPhase at ready
  split at ready
  case h_1 state =>
    rw [state] at inside
    rcases inside with inside | ⟨impossible, -⟩
    · exact inside.not_offPlan ⟨rfl, rfl⟩
    · cases impossible
  case h_2 state =>
    rw [state] at inside
    rcases inside with inside | ⟨impossible, -⟩
    · exact inside.not_offPlan ⟨rfl, rfl⟩
    · cases impossible
  · cases ready

theorem readyFor_of_readyPhase (ready : sequence.readyPhase = .ok phase) :
    sequence.readyFor phase = true := by
  unfold readyPhase at ready
  split at ready
  case h_1 state =>
    cases ready
    simp [readyFor, state]
  case h_2 state =>
    cases ready
    simp [readyFor, state]
  · cases ready

/-- The token count of a candidate, phase by phase. -/
theorem Describes.counted {sequence : ControllerSequence}
    (describes : Describes runtime entry slot sequence) :
    entry.candidate.realTokenCount ≠ 0 ∧ (entry.candidate.nextPhase = .prefill →
        sequence.modelProcessedLength + entry.candidate.realTokenCount ≤
          sequence.promptTokenCount) ∧
      (entry.candidate.nextPhase = .decode → entry.candidate.realTokenCount = 1) := by
  have counted := describes.count
  unfold nextRealTokenCount at counted
  rw [describes.ready] at counted
  have notVerify := describes.notVerify
  rcases Result.else_eq_ok.mp counted with ⟨_, counted⟩
  cases phase : entry.candidate.nextPhase with
  | prefill =>
    rw [phase] at counted
    rcases Result.else_eq_ok.mp counted with ⟨short, counted⟩
    simp only [not_or, not_not] at short
    have count := Except.ok.inj counted
    refine ⟨?_, fun _ => ?_, nofun⟩ <;> omega
  | decode =>
    rw [phase] at counted
    dsimp only at counted
    split at counted
    · cases counted
    have count := Except.ok.inj counted
    exact ⟨by omega, nofun, fun _ => count.symm⟩
  | verify => exact (notVerify phase).elim

theorem Describes.prepare (describes : Describes runtime entry slot sequence)
    (sound : sequence.Sound) (nonzero : planSequence ≠ 0)
    (same : entry.candidate.nextPhase = phase) :
    ∃ next, sequence.prepare planSequence phase entry.candidate.realTokenCount = .ok next := by
  subst same
  rcases describes.counted with ⟨tokens, fits, single⟩
  unfold prepare
  rw [if_neg (by
    simp only [not_or, not_not]
    exact ⟨readyFor_of_readyPhase describes.ready, nonzero, tokens,
      idle_of_readyPhase sound describes.ready⟩)]
  cases phase : entry.candidate.nextPhase with
  | prefill =>
    have inside := fits phase
    have added := checkedAddU64_of_le (Nat.le_trans inside sound.small)
    simp [added, Nat.not_lt.mpr inside]
  | decode => simp [single phase]
  | verify => exact (describes.notVerify phase).elim

/-- The member of the plan at an index was prepared. -/
def PreparedBy (planSequence : ℕ) (phase : PackedTokenPhase)
    (members : List CandidateEntry) (index : ℕ)
    (before after : ControllerSequence) : Prop :=
  ∃ entry ∈ members, entry.slotIndex = index ∧
      before.prepare planSequence phase entry.candidate.realTokenCount = .ok after

theorem prepareMembers_ok {slots : List RuntimeSlot} (prepared : List ℕ)
    (listed : ∀ entry ∈ rest, entry ∈ members)
    (distinct : (rest.map slotIndex).Nodup)
    (willing : ∀ entry ∈ rest, ∃ slot sequence next, Holding slots entry.slotIndex slot sequence ∧
          sequence.prepare planSequence phase entry.candidate.realTokenCount = .ok next) :
    ∃ next, prepareMembers planSequence phase slots prepared rest =
        (next, prepared ++ rest.map slotIndex, .ok ()) ∧
      MovesAll (PreparedBy planSequence phase members) slots next
        (rest.map slotIndex) := by
  induction rest generalizing slots prepared with
  | nil =>
    refine ⟨slots, ?_, .nil⟩
    rw [map_nil, append_nil, prepareMembers]
  | cons entry rest induction =>
    rcases nodup_cons.mp distinct with ⟨fresh, distinct⟩
    rcases willing entry (.head _) with ⟨slot, sequence, changed, holding, done⟩
    have applied := (applyToSequence_ok_iff (fun sequence =>
          sequence.prepare planSequence phase
            entry.candidate.realTokenCount) slots _ entry.slotIndex).mpr
        ⟨slot, sequence, changed, holding, done, rfl⟩
    have later : ∀ other ∈ rest, ∃ held before after,
        Holding (slots.set entry.slotIndex { slot with sequence := some changed })
          other.slotIndex held before ∧
        before.prepare planSequence phase other.candidate.realTokenCount = .ok after := by
      intro other member
      rcases willing other (.tail _ member) with ⟨held, before, after, heldBefore, doneOther⟩
      refine ⟨held, before, after, ?_, doneOther⟩
      apply (holding_set_iff holding.lt _).mpr
      refine .inr ⟨?_, heldBefore⟩
      intro same
      exact fresh (same ▸ mem_map_of_mem member)
    rcases induction _ (fun other member => listed other (.tail _ member)) distinct later with
      ⟨next, equal, moves⟩
    refine ⟨next, ?_, .cons fresh holding ?_ moves⟩
    · rw [prepareMembers, applied]
      dsimp only
      rw [equal, append_assoc]
      rfl
    · exact ⟨entry, listed entry (.head _), rfl, done⟩

/-! ## The whole operation -/

/-- The current plan that a draft becomes. -/
def PlanDraft.current (draft : PlanDraft) (burst : OutputBurstLease) : CurrentPlan where
  plan := draft.plan
  outputBurst := burst
  digest := draft.digest
  tier := draft.tier
  selectedSlotIndices := draft.members.map slotIndex

/-- What the caller of `prepare_next_plan` sees of a draft. -/
def PlanDraft.view (draft : PlanDraft) (slots : List RuntimeSlot) : ControllerPreparedPlanView where
  plan := draft.plan
  metadata := draft.metadata
  selectedSlotIndices := draft.members.map slotIndex
  selectedSampling := (draft.members.map slotIndex).map (memberSampling slots)
  planDigest := draft.digest

/-- Every sequence in the table satisfies the ledger invariant. -/
def AllSound (slots : List RuntimeSlot) : Prop :=
  ∀ index slot sequence, Holding slots index slot sequence → sequence.Sound

theorem installPlan_cases (drafted : Drafted runtime draft)
    (sound : AllSound runtime.slots) (nonzero : runtime.nextPlanSequence ≠ 0) :
    (∃ status, runtime.installPlan draft = (runtime, .error status)) ∨
    ∃ slots credits burst, runtime.installPlan draft =
        ({ runtime with
            slots
            outputCredits := credits
            current := some (draft.current burst)
            nextPlanSequence := nextU64 runtime.nextPlanSequence },
          .ok (some (draft.view slots))) ∧
      OutputBurstCreditPool.Acquired runtime.outputCredits credits runtime.nextPlanSequence burst ∧
      MovesAll (PreparedBy runtime.nextPlanSequence draft.plan.phase draft.members)
        runtime.slots slots
        (draft.members.map slotIndex) := by
  unfold installPlan
  rcases runtime.outputCredits.acquire_cases runtime.nextPlanSequence
      runtime.limits.outputPlanKind _
      runtime.limits.outputMaximumSlotsPerCredit
      runtime.limits.outputMaximumBytesPerCredit with
    ⟨status, refused⟩ | ⟨credits, burst, done, acquired⟩
  · rw [refused]
    exact .inl ⟨status, rfl⟩
  rw [done]
  have willing : ∀ entry ∈ draft.members, ∃ slot sequence next,
      Holding runtime.slots entry.slotIndex slot sequence ∧
        sequence.prepare runtime.nextPlanSequence draft.plan.phase
          entry.candidate.realTokenCount = .ok next := by
    intro entry member
    rcases drafted.described entry member with ⟨slot, sequence, describes⟩
    rcases describes.prepare (sound _ _ _ describes.holding) nonzero
        (drafted.phase entry member) with
      ⟨next, prepared⟩
    exact ⟨slot, sequence, next, describes.holding, prepared⟩
  rcases prepareMembers_ok [] (fun _ member => member) drafted.distinct willing with
    ⟨slots, prepared, moves⟩
  rw [prepared]
  exact .inr ⟨slots, credits, burst, rfl, acquired, moves⟩

theorem Drafted.transport (drafted : Drafted first draft)
    (slots : second.slots = first.slots) (limits : second.limits = first.limits)
    (ingress : second.ingress = first.ingress)
    (planSequence : second.nextPlanSequence = first.nextPlanSequence) :
    Drafted second draft :=
  { drafted with
    described := by
      intro entry member
      rcases drafted.described entry member with ⟨slot, sequence, describes⟩
      exact ⟨slot, sequence, describes.transport slots limits ingress⟩
    planSequence := drafted.planSequence.trans planSequence.symm }

/-- A plan was prepared. -/
structure PreparedNext (runtime : ControllerRuntime) (draft : PlanDraft)
    (burst : OutputBurstLease) (slots : List RuntimeSlot)
    (credits : OutputBurstCreditPool) : Prop where
  ready : runtime.state = .ready
  idle : runtime.current = none
  nonzero : runtime.nextPlanSequence ≠ 0
  drafted : Drafted runtime draft
  acquired : OutputBurstCreditPool.Acquired runtime.outputCredits credits
      runtime.nextPlanSequence burst
  moves : MovesAll (PreparedBy runtime.nextPlanSequence draft.plan.phase draft.members)
      runtime.slots slots (draft.members.map slotIndex)

/-- The decision on the candidates of an idle runtime, with its round counters. -/
structure Decides (runtime : ControllerRuntime) (nowNs : ℤ) (entries : List CandidateEntry)
    (scheduler : PhaseTierScheduler) (decision : SchedulerDecisionView) : Prop where
  idle : runtime.current = none
  collected : { runtime with lastControllerNowNs := nowNs }.collectCandidates 0 runtime.slots =
      .ok entries
  selected : runtime.scheduler.select
        { nowNs
          consecutiveDecodeRounds := runtime.consecutiveDecodeRounds
          lastSuccessfulPlanWasProtectedPrefill := runtime.lastSuccessfulPlanWasProtectedPrefill
          candidates := entries.map CandidateEntry.candidate } = (scheduler, .ok decision)

/-- The plan has the tier and the phase of a decision. -/
structure PlanOf (decision : SchedulerDecisionView) (current : CurrentPlan) : Prop where
  used : decision.tier ≠ .idle
  tier : current.tier = decision.tier
  phase : current.plan.phase = decision.phase

/-- Every outcome of `prepare_next_plan`. -/
theorem prepareNextPlan_cases (sound : AllSound runtime.slots)
    (sized : runtime.metadata.Sized) (nowNs : ℤ) :
    (∃ now scheduler metadata result, runtime.prepareNextPlan nowNs =
        ({ runtime with lastControllerNowNs := now, scheduler, metadata }, result) ∧
      PackedTokenMetadataArena.Sized metadata ∧
      (∀ view, result ≠ .ok (some view)) ∧
      (scheduler = runtime.scheduler ∨
        ∃ entries decision, runtime.Decides nowNs entries scheduler decision)) ∨
    ∃ scheduler metadata draft burst slots credits entries decision, runtime.prepareNextPlan nowNs =
        ({ runtime with
            lastControllerNowNs := nowNs
            scheduler
            metadata
            slots
            outputCredits := credits
            current := some (draft.current burst)
            nextPlanSequence := nextU64 runtime.nextPlanSequence },
          .ok (some (draft.view slots))) ∧
      PackedTokenMetadataArena.Sized metadata ∧
      PreparedNext runtime draft burst slots credits ∧
      runtime.Decides nowNs entries scheduler decision ∧ PlanOf decision (draft.current burst) := by
  unfold prepareNextPlan
  split
  · exact .inl ⟨_, _, _, _, rfl, sized, nofun, .inl rfl⟩
  rename_i free
  split
  · exact .inl ⟨_, _, _, _, rfl, sized, nofun, .inl rfl⟩
  rename_i identity
  simp only [not_or, not_not] at free identity
  dsimp only
  split
  · exact .inl ⟨nowNs, _, _, _, rfl, sized, nofun, .inl rfl⟩
  rename_i entries collected
  split
  · exact .inl ⟨nowNs, _, _, _, rfl, sized, nofun, .inl rfl⟩
  rcases runtime.scheduler.select_cases _ with ⟨status, refused⟩ |
    ⟨scheduler, decision, _, selected, valid, included, indices, phase⟩
  · rw [refused]
    exact .inl ⟨nowNs, _, _, _, rfl, sized, nofun, .inl rfl⟩
  have idle : runtime.current = none := by simpa using free.2
  have decides : runtime.Decides nowNs entries scheduler decision := ⟨idle, collected, selected⟩
  rw [selected]
  dsimp only
  split
  · exact .inl ⟨nowNs, scheduler, _, _, rfl, sized, nofun, .inr ⟨_, _, decides⟩⟩
  rename_i used
  have all := collectCandidates_collected collected
  have described : Collected
      { runtime with lastControllerNowNs := nowNs, scheduler } entries := by
    refine ⟨?_, all.distinct⟩
    intro entry member
    rcases all.described entry member with ⟨slot, sequence, describes⟩
    exact ⟨slot, sequence, describes.transport rfl rfl rfl⟩
  subst indices
  rcases draftPlan_cases described rfl valid included sized with
    ⟨status, refused⟩ | ⟨metadata, draft, done, kept, drafted, tier, same⟩
  · rw [refused]
    exact .inl ⟨nowNs, scheduler, _, _, rfl, sized, nofun, .inr ⟨_, _, decides⟩⟩
  rw [done]
  dsimp only
  have installing : Drafted
      { runtime with lastControllerNowNs := nowNs, scheduler, metadata } draft :=
    drafted.transport rfl rfl rfl rfl
  rcases installPlan_cases installing sound identity.2 with ⟨_, refused⟩ |
    ⟨slots, credits, burst, installed, acquired, moves⟩
  · rw [refused]
    exact .inl ⟨nowNs, scheduler, metadata, _, rfl, kept, nofun, .inr ⟨_, _, decides⟩⟩
  rw [installed]
  refine .inr ⟨scheduler, metadata, draft, burst, slots, credits, entries, decision, rfl, kept,
    ?_, decides, used, tier, same.trans phase.symm⟩
  exact
    { ready := free.1
      idle
      nonzero := identity.2
      drafted := drafted.transport rfl rfl rfl rfl
      acquired
      moves }

end ControllerRuntime

end Pih
