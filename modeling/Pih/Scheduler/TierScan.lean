import Pih.Scheduler.PlanAssembly

/-!
# Choosing a tier

The tiers are tried in the order of preference until one of them includes a
candidate.  With fitting candidates only that is the first one.  In general
the decode family is tried once, for the phase of its first candidate alone,
so a candidate that fits is left waiting if it is of the other phase of that
family and nothing else fits.
-/

namespace Pih.PhaseTierScheduler

open List

/-- A candidate that a plan of its own can hold. -/
def fits (profile : PhaseTierProfile) (candidate : SchedulerCandidate) : Prop :=
  candidate.infeasibility = .none ∧ candidate.realTokenCount ≤ profile.maximumRealTokensPerPlan

instance (profile : PhaseTierProfile) (candidate : SchedulerCandidate) :
    Decidable (fits profile candidate) :=
  inferInstanceAs (Decidable (_ ∧ _))

def hasPrefill (candidates : List SchedulerCandidate) : Bool := candidates.any isPrefill

def hasDecode (candidates : List SchedulerCandidate) : Bool :=
  candidates.any fun candidate => ¬ isPrefill candidate

variable
  {profile : PhaseTierProfile} {snapshot : SchedulerSnapshot}
  {tier : SchedulerTier}

/-! ## The candidates of a tier -/

theorem mem_candidates_iff : candidate ∈ snapshot.candidates ↔ ∃ index < snapshot.candidates.length,
      candidateAt snapshot index = candidate := by
  rw [mem_iff_getElem]
  constructor
  · rintro ⟨index, inside, rfl⟩
    exact ⟨index, inside, by simp [candidateAt, inside]⟩
  · rintro ⟨index, inside, rfl⟩
    exact ⟨index, inside, by simp [candidateAt, inside]⟩

theorem mem_orderedIndices : index ∈ orderedIndices profile snapshot tier scanned ↔
      index < snapshot.candidates.length ∧ belongs profile snapshot.nowNs tier
          (candidateAt snapshot index) = true ∧
        index ∉ scanned := by
  unfold orderedIndices
  rw [(perm_insertionSort _ _).mem_iff, mem_filter, mem_range, decide_eq_true_eq]

/-- The first candidate of a tier has the phase of the tier. -/
theorem nextPhase_first (ordered : orderedIndices profile snapshot tier scanned = index :: rest)
    (used : tier ≠ .idle) :
    (candidateAt snapshot index).nextPhase = tierPhase snapshot tier (index :: rest) := by
  have member : index ∈ orderedIndices profile snapshot tier scanned := by
    rw [ordered]
    exact .head _
  have inside := (mem_orderedIndices.mp member).2.1
  cases tier with
  | idle => exact (used rfl).elim
  | decodeFamily => rfl
  | protectedPrefill =>
    simp only [belongs, isProtected, decide_eq_true_eq] at inside
    exact inside.1
  | normalPrefill =>
    simp only [belongs, isPrefill, decide_eq_true_eq] at inside
    exact inside

/-- The decode tier is the only one whose plans are not prefill plans. -/
theorem tierPhase_eq_prefill_iff (some : orderedIndices profile snapshot tier scanned ≠ []) :
    tierPhase snapshot tier (orderedIndices profile snapshot tier scanned) = .prefill ↔
      tier ≠ .decodeFamily := by
  cases tier with
  | idle => exact ⟨nofun, fun _ => rfl⟩
  | protectedPrefill => exact ⟨nofun, fun _ => rfl⟩
  | normalPrefill => exact ⟨nofun, fun _ => rfl⟩
  | decodeFamily =>
    rcases exists_cons_of_ne_nil some with ⟨index, _, ordered⟩
    have member : index ∈ orderedIndices profile snapshot .decodeFamily scanned := by
      rw [ordered]
      exact .head _
    have inside := (mem_orderedIndices.mp member).2.1
    rw [ordered]
    simp only [belongs, isPrefill, decide_eq_true_eq] at inside
    exact ⟨fun prefill => (inside prefill).elim, fun different => (different rfl).elim⟩

/-! ## Scanning a tier -/

/-- The candidate would start a plan of the phase. -/
def Starts (profile : PhaseTierProfile) (phase : PackedTokenPhase)
    (candidate : SchedulerCandidate) : Prop :=
  candidate.nextPhase = phase ∧ fits profile candidate

/-- A scan that has included nothing so far. -/
structure Barren (scan : Scan) : Prop where
  included : scan.included = []
  totalTokens : scan.totalTokens = 0

theorem length_included_foldl (phase : PackedTokenPhase) (scan : Scan) (ordered : List ℕ) :
    scan.included.length ≤ (ordered.foldl (scanCandidate profile snapshot phase)
      scan).included.length := by
  rcases included_foldl_scanCandidate profile snapshot phase scan ordered with
    ⟨_, -, -, included⟩
  simp [included]

section

variable (room : profile.maximumSequencesPerPlan ≠ 0)

include room

theorem scanCandidate_cases (barren : Barren scan) :
    Starts profile phase (candidateAt snapshot index) ∧
        (scanCandidate profile snapshot phase scan index).included ≠ [] ∨
      ¬ Starts profile phase (candidateAt snapshot index) ∧
        Barren (scanCandidate profile snapshot phase scan index) ∧
        ∀ other ∈ (scanCandidate profile snapshot phase scan index).scanned,
          other ∈ scan.scanned ∨ other = index ∧
            (candidateAt snapshot index).nextPhase = phase := by
  rcases barren with ⟨included, totalTokens⟩
  unfold scanCandidate Starts
  dsimp only
  split_ifs with other infeasible large
  · exact .inr ⟨fun starts => other starts.1, ⟨included, totalTokens⟩, fun _ => .inl⟩
  · refine .inr ⟨fun starts => infeasible starts.2.1, ⟨included, totalTokens⟩, ?_⟩
    simp [not_not.mp other]
  · rw [included, totalTokens] at large
    refine .inr ⟨fun starts => ?_, ⟨included, totalTokens⟩, ?_⟩
    · rcases large with full | large
      · exact room full.symm
      · exact Nat.not_lt.mpr starts.2.2 large
    · simp [not_not.mp other]
  · rw [totalTokens] at large
    simp only [not_or, Nat.not_lt] at large
    exact .inl ⟨⟨not_not.mp other, not_not.mp infeasible, large.2⟩, by simp⟩

/-- A tier includes a candidate exactly if one of its phase fits. -/
theorem foldl_cases {scan : Scan} (barren : Barren scan)
    (phase : PackedTokenPhase) (ordered : List ℕ) :
    (∃ index ∈ ordered, Starts profile phase (candidateAt snapshot index)) ∧
        (ordered.foldl (scanCandidate profile snapshot phase) scan).included ≠ [] ∨
      (∀ index ∈ ordered, ¬ Starts profile phase (candidateAt snapshot index)) ∧
        Barren (ordered.foldl (scanCandidate profile snapshot phase) scan) ∧
        ∀ other ∈ (ordered.foldl (scanCandidate profile snapshot phase) scan).scanned,
          other ∈ scan.scanned ∨ other ∈ ordered ∧
            (candidateAt snapshot other).nextPhase = phase := by
  induction ordered generalizing scan with
  | nil => exact .inr ⟨nofun, barren, fun _ => .inl⟩
  | cons index rest induction =>
    rw [foldl_cons]
    rcases scanCandidate_cases room barren with ⟨starts, included⟩ | ⟨skipped, again, scanned⟩
    · have more := @length_included_foldl profile snapshot phase
        (scanCandidate profile snapshot phase scan index) rest
      have positive := length_pos_iff.mpr included
      exact .inl ⟨⟨index, .head _, starts⟩, length_pos_iff.mp (by omega)⟩
    · rcases induction again with ⟨⟨later, member, starts⟩, included⟩ | ⟨none, barren, more⟩
      · exact .inl ⟨⟨later, .tail _ member, starts⟩, included⟩
      · refine .inr ⟨?_, barren, ?_⟩
        · simpa using ⟨skipped, none⟩
        · intro other member
          rcases more other member with before | ⟨later, same⟩
          · rcases scanned other before with before | ⟨rfl, same⟩
            · exact .inl before
            · exact .inr ⟨.head _, same⟩
          · exact .inr ⟨.tail _ later, same⟩

end

/-- A tier with a fitting candidate is chosen when it is tried first. -/
theorem scanTiers_first {scan : Scan} (barren : Barren scan)
    (room : profile.maximumSequencesPerPlan ≠ 0)
    (fitting : ∀ candidate ∈ snapshot.candidates, fits profile candidate) (used : tier ≠ .idle)
    (some : orderedIndices profile snapshot tier scan.scanned ≠ []) (rest : List SchedulerTier) :
    (scanTiers profile snapshot scan (tier :: rest)).2 = (tier, tierPhase snapshot tier
      (orderedIndices profile snapshot tier scan.scanned)) := by
  unfold scanTiers
  rcases exists_cons_of_ne_nil some with ⟨index, _, ordered⟩
  have member : index ∈ orderedIndices profile snapshot tier scan.scanned := by
    rw [ordered]
    exact .head _
  have listed := mem_candidates_iff.mpr ⟨index, lt_of_mem_orderedIndices member, rfl⟩
  have phase := nextPhase_first ordered used
  rw [← ordered] at phase
  rcases foldl_cases room barren _ _ with ⟨-, included⟩ | ⟨none, -⟩
  · rw [if_pos (mt length_eq_zero_iff.mp included)]
  · exact (none index member ⟨phase, fitting _ listed⟩).elim

/-! ## The order of preference -/

theorem mem_ite_appendUnique [Decidable condition] :
    (tier ∈ if condition then appendUnique earlier other else earlier) ↔
      tier ∈ earlier ∨ tier = other ∧ condition := by
  grind [appendUnique]

/-- Every preferred tier has a candidate. -/
theorem exists_belongs_of_preferred (preferred : tier ∈ preferences profile snapshot) :
    tier ≠ .idle ∧ ∃ candidate ∈ snapshot.candidates,
      belongs profile snapshot.nowNs tier candidate = true := by
  rcases mem_ite_appendUnique.mp preferred with preferred | ⟨rfl, decode⟩
  · rcases mem_ite_appendUnique.mp preferred with preferred | ⟨rfl, prefill⟩
    · rcases mem_ite_appendUnique.mp preferred with preferred | ⟨rfl, decode, -⟩
      · rcases mem_ite_appendUnique.mp preferred with impossible | ⟨rfl, starved, -⟩
        · exact (not_mem_nil impossible).elim
        · exact ⟨nofun, any_eq_true.mp starved⟩
      · exact ⟨nofun, any_eq_true.mp decode⟩
    · exact ⟨nofun, any_eq_true.mp prefill⟩
  · exact ⟨nofun, any_eq_true.mp decode⟩

theorem preferences_once : (preferences profile snapshot).Nodup := by
  grind [preferences, appendUnique]

theorem decodeFamily_mem_preferences (waiting : hasDecode snapshot.candidates = true) :
    .decodeFamily ∈ preferences profile snapshot :=
  mem_ite_appendUnique.mpr (.inr ⟨rfl, waiting⟩)

theorem normalPrefill_mem_preferences (waiting : hasPrefill snapshot.candidates = true) :
    .normalPrefill ∈ preferences profile snapshot :=
  mem_ite_appendUnique.mpr (.inl (mem_ite_appendUnique.mpr (.inr ⟨rfl, waiting⟩)))

theorem orderedIndices_ne_nil (member : candidate ∈ snapshot.candidates)
    (inside : belongs profile snapshot.nowNs tier candidate = true) :
    orderedIndices profile snapshot tier [] ≠ [] := by
  rcases mem_candidates_iff.mp member with ⟨_, bound, rfl⟩
  exact ne_nil_of_mem (mem_orderedIndices.mpr ⟨bound, inside, not_mem_nil⟩)

/-- Decode is preferred to a waiting prefill only within its bound. -/
theorem decode_first (first : preferences profile snapshot = .decodeFamily :: rest)
    (waiting : hasPrefill snapshot.candidates = true) :
    snapshot.lastSuccessfulPlanWasProtectedPrefill = true ∨ snapshot.consecutiveDecodeRounds <
      profile.maxConsecutiveDecodeRounds := by
  grind [preferences, appendUnique, hasPrefill]

/-- Prefill is preferred to a waiting decode only after decode's turns. -/
theorem prefill_first (first : preferences profile snapshot = tier :: rest)
    (prefill : tier ≠ .decodeFamily) (waiting : hasDecode snapshot.candidates = true) :
    snapshot.lastSuccessfulPlanWasProtectedPrefill = false ∧
      (tier = .protectedPrefill ∨ profile.maxConsecutiveDecodeRounds ≤
        snapshot.consecutiveDecodeRounds) := by
  grind [preferences, appendUnique, hasDecode]

/-! ## The decision -/

/-- The tiers of a snapshot, scanned in the order of preference. -/
def chosenTier (profile : PhaseTierProfile) (snapshot : SchedulerSnapshot) :
    Scan × SchedulerTier × PackedTokenPhase :=
  scanTiers profile snapshot
    { results := replicate snapshot.candidates.length .none }
    (preferences profile snapshot)

theorem select_ok {scheduler next : PhaseTierScheduler}
    (selected : scheduler.select snapshot = (next, .ok decision)) :
    next.profile = scheduler.profile ∧ decision.tier = (chosenTier scheduler.profile snapshot).2.1 ∧
      decision.phase = (chosenTier scheduler.profile snapshot).2.2 ∧
      decision.includedCandidateIndices = (chosenTier scheduler.profile snapshot).1.included.map
        SelectedCandidate.candidateIndex := by
  unfold select at selected
  split at selected
  · cases selected
  split at selected
  · cases selected
  cases selected
  exact ⟨rfl, rfl, rfl, rfl⟩

/-- What a selection from fitting candidates chooses. -/
theorem select_first {scheduler next : PhaseTierScheduler} {decision : SchedulerDecisionView}
    (room : scheduler.profile.maximumSequencesPerPlan ≠ 0)
    (fitting : ∀ candidate ∈ snapshot.candidates, fits scheduler.profile candidate)
    (selected : scheduler.select snapshot = (next, .ok decision)) (used : decision.tier ≠ .idle) :
    ∃ rest, preferences scheduler.profile snapshot = decision.tier :: rest ∧
      (decision.phase = .prefill ↔ decision.tier ≠ .decodeFamily) := by
  rcases select_ok selected with ⟨-, chosen, phase, -⟩
  unfold chosenTier at chosen phase
  cases preferred : preferences scheduler.profile snapshot with
  | nil =>
    rw [preferred] at chosen
    exact (used chosen).elim
  | cons tier rest =>
    have member : tier ∈ preferences scheduler.profile snapshot := by
      rw [preferred]
      exact .head _
    rcases exists_belongs_of_preferred member with ⟨busy, _, present, inside⟩
    have some := orderedIndices_ne_nil present inside
    rw [preferred, @scanTiers_first _ _ _ ⟨[], _, [], 0⟩ ⟨rfl, rfl⟩ room fitting
      busy some] at chosen phase
    rw [chosen, phase]
    exact ⟨rest, rfl, tierPhase_eq_prefill_iff some⟩

/-! ## Waiting candidates -/

/-- The phase that a tier would plan before anything was scanned. -/
def firstPhase (profile : PhaseTierProfile) (snapshot : SchedulerSnapshot)
    (tier : SchedulerTier) : PackedTokenPhase :=
  tierPhase snapshot tier (orderedIndices profile snapshot tier [])

/-- Some candidate of the tier would start a plan of its first phase. -/
def Serves (profile : PhaseTierProfile) (snapshot : SchedulerSnapshot)
    (tier : SchedulerTier) : Prop :=
  ∃ index ∈ orderedIndices profile snapshot tier [],
    Starts profile (firstPhase profile snapshot tier) (candidateAt snapshot index)

/-- What was scanned does not fit, and is no candidate of a tier to come. -/
def Spent (profile : PhaseTierProfile) (snapshot : SchedulerSnapshot)
    (tiers : List SchedulerTier) (scan : Scan) : Prop :=
  ∀ index ∈ scan.scanned, ¬ fits profile (candidateAt snapshot index) ∧
      (.decodeFamily ∈ tiers → isPrefill (candidateAt snapshot index) = true)

theorem tierPhase_eq_firstPhase (member : tier ∈ tiers)
    (spent : Spent profile snapshot tiers scan) :
    tierPhase snapshot tier (orderedIndices profile snapshot tier scan.scanned) =
      firstPhase profile snapshot tier := by
  cases tier with
  | decodeFamily =>
    unfold orderedIndices
    congr 2
    apply filter_congr
    intro index _
    have prefill := fun scanned => (spent index scanned).2 member
    simp only [belongs, decide_eq_true_eq]
    grind
  | _ => rfl

/-- The tiers are tried until one of them serves a candidate. -/
theorem scanTiers_serves (room : profile.maximumSequencesPerPlan ≠ 0)
    (once : tiers.Nodup) (used : .idle ∉ tiers) (barren : Barren scan)
    (spent : Spent profile snapshot tiers scan) :
    let chosen := scanTiers profile snapshot scan tiers
    (chosen.2.1 ≠ .idle ∧ chosen.1.included ≠ []) ↔
      ∃ tier ∈ tiers, Serves profile snapshot tier := by
  induction tiers generalizing scan with
  | nil => simp [scanTiers]
  | cons tier _ induction =>
    have phase := tierPhase_eq_firstPhase (.head _) spent
    unfold scanTiers
    dsimp only
    rw [phase]
    rcases @foldl_cases _ snapshot room _ barren _
        (orderedIndices profile snapshot tier scan.scanned) with
      ⟨⟨index, member, starts⟩, included⟩ | ⟨none, again, scanned⟩
    · have inside := mem_orderedIndices.mp member
      have serves : Serves profile snapshot tier :=
        ⟨index, mem_orderedIndices.mpr ⟨inside.1, inside.2.1, not_mem_nil⟩, starts⟩
      rw [if_pos (mt length_eq_zero_iff.mp included)]
      refine ⟨fun _ => ⟨tier, .head _, serves⟩, fun _ => ⟨?_, included⟩⟩
      rintro rfl
      exact used (.head _)
    · have idle : ¬ Serves profile snapshot tier := by
        rintro ⟨index, member, starts⟩
        have inside := mem_orderedIndices.mp member
        have fresh : index ∉ scan.scanned := fun before => (spent index before).1 starts.2
        exact none index (mem_orderedIndices.mpr ⟨inside.1, inside.2.1, fresh⟩) starts
      rw [if_neg (by simp [again.included]), exists_mem_cons_iff, or_iff_right idle]
      rcases nodup_cons.mp once with ⟨alone, once⟩
      refine induction once (mt (.tail _) used) again ?_
      intro other member
      rcases scanned other member with before | ⟨inside, same⟩
      · exact ⟨(spent other before).1, fun later => (spent other before).2 (.tail _ later)⟩
      · refine ⟨fun fit => none other inside ⟨same, fit⟩, fun later => ?_⟩
        cases tier with
        | decodeFamily => exact (alone later).elim
        | _ => exact decide_eq_true same

/--
A candidate fits that is a prefill or has the phase of the first decode or
verify candidate in service order.
-/
def HasWork (profile : PhaseTierProfile) (snapshot : SchedulerSnapshot) : Prop :=
  ∃ candidate ∈ snapshot.candidates, fits profile candidate ∧ (candidate.nextPhase = .prefill ∨
      candidate.nextPhase = firstPhase profile snapshot .decodeFamily)

theorem exists_serves_iff : (∃ tier ∈ preferences profile snapshot, Serves profile snapshot tier) ↔
      HasWork profile snapshot := by
  constructor
  · rintro ⟨tier, _, index, member, same, fit⟩
    have inside := mem_orderedIndices.mp member
    refine ⟨_, mem_candidates_iff.mpr ⟨index, inside.1, rfl⟩, fit, ?_⟩
    cases tier with
    | decodeFamily => exact .inr same
    | _ => exact .inl same
  · rintro ⟨_, member, fit, phase⟩
    rcases mem_candidates_iff.mp member with ⟨index, inside, rfl⟩
    by_cases prefill : isPrefill (candidateAt snapshot index) = true
    · refine ⟨_, normalPrefill_mem_preferences
        (any_eq_true.mpr ⟨_, member, prefill⟩), index, ?_, ?_, fit⟩
      · exact mem_orderedIndices.mpr ⟨inside, prefill, not_mem_nil⟩
      · exact of_decide_eq_true prefill
    · refine ⟨_, decodeFamily_mem_preferences
        (any_eq_true.mpr ⟨_, member, decide_eq_true prefill⟩), index, ?_, ?_, fit⟩
      · exact mem_orderedIndices.mpr ⟨inside, decide_eq_true prefill, not_mem_nil⟩
      · exact phase.resolve_left fun same => prefill (decide_eq_true same)

/-- A decision includes a candidate exactly if there is work that it looks at. -/
theorem select_works_iff {scheduler fresh next : PhaseTierScheduler}
    {decision : SchedulerDecisionView} (valid : create scheduler.profile = .ok fresh)
    (selected : scheduler.select snapshot = (next, .ok decision)) :
    (decision.tier ≠ .idle ∧ decision.includedCandidateIndices ≠ []) ↔
      HasWork scheduler.profile snapshot := by
  have room : scheduler.profile.maximumSequencesPerPlan ≠ 0 := by
    have accepted := (Result.guard_eq_ok.mp valid).1
    omega
  rcases select_ok selected with ⟨-, chosen, -, included⟩
  rw [included, ne_eq _ [], map_eq_nil_iff, chosen, ← exists_serves_iff]
  apply scanTiers_serves room preferences_once
  · exact fun idle => (exists_belongs_of_preferred idle).1 rfl
  · exact ⟨rfl, rfl⟩
  · exact nofun

/-- A profile that creation accepts. -/
def smallProfile : PhaseTierProfile := ⟨2, 1, 4, 2, 1, 1⟩

/-- An infeasible decode is served before a verify that fits. -/
def blockedVerify : SchedulerSnapshot := ⟨0, 0, false, [⟨1, .decode, 0, 1, 0, 1, .outputCredit⟩,
    ⟨2, .verify, 0, 2, 0, 1, .none⟩]⟩

/-- A prefill that fits is planned although the decode is infeasible. -/
theorem select_works_iff_prefill :
    let snapshot : SchedulerSnapshot :=
      { blockedVerify with
        candidates := blockedVerify.candidates.map fun candidate =>
          if candidate.infeasibility = .none then { candidate with nextPhase := .prefill }
          else candidate }
    HasWork smallProfile snapshot := by
  refine (@select_works_iff _ ⟨smallProfile, 0, [], 0, 0, .idle, .prefill⟩ _ _ _ rfl rfl).mp ?_
  decide +kernel

/-- The candidate that fits is left waiting by an idle decision. -/
theorem select_idle_beside_work :
    (∃ candidate ∈ blockedVerify.candidates, fits smallProfile candidate) ∧
      ∃ scheduler next decision, create smallProfile = .ok scheduler ∧
        scheduler.select blockedVerify = (next, .ok decision) ∧
        decision.tier = .idle ∧ decision.includedCandidateIndices = [] := by
  refine ⟨by decide, _, _, _, rfl, rfl, ?_⟩
  decide +kernel

end Pih.PhaseTierScheduler
