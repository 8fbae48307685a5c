import Pih.Scheduler.ControllerHistory
import Pih.Scheduler.TierScan

/-!
# Fairness between prefill and decode

A round is one decision of the scheduler, taken with the counters that the
runtime maintains, and the fate of the plan made from it: the counters move
only if the plan completes.  With feasible candidates the first tier in the
order of preference is chosen, so the counters bound how often in a row one
family is passed over.
-/

namespace Pih

open ControllerRuntime List

namespace ControllerRuntime

open PhaseTierScheduler

/-! ## Rounds -/

/-- What one round is given, and whether its plan completes. -/
structure Round where
  nowNs : ℤ
  candidates : List SchedulerCandidate
  completes : Bool

/-- The decision of a round and whether the counters recorded it. -/
structure RoundResult where
  decision : SchedulerDecisionView
  completed : Bool

/-- The snapshot that `prepareNextPlan` gives to the scheduler. -/
def roundSnapshot (runtime : ControllerRuntime) (round : Round) : SchedulerSnapshot where
  nowNs := round.nowNs
  consecutiveDecodeRounds := runtime.consecutiveDecodeRounds
  lastSuccessfulPlanWasProtectedPrefill := runtime.lastSuccessfulPlanWasProtectedPrefill
  candidates := round.candidates

/--
One round: a selection with the runtime's counters, which the completion of
its plan then records.  An aborted plan, an idle decision and the completion
that the exhausted decode counter refuses leave them as they are.
-/
def playRound (runtime : ControllerRuntime) (round : Round) :
    ControllerRuntime × Result RoundResult :=
  match runtime.scheduler.select (runtime.roundSnapshot round) with
  | (scheduler, .error status) => ({ runtime with scheduler }, .error status)
  | (scheduler, .ok decision) =>
    let selected := { runtime with scheduler }
    if round.completes = true ∧ decision.tier ≠ .idle ∧ ¬ (decision.phase ≠ .prefill ∧
          runtime.consecutiveDecodeRounds = u32Max) then
      (selected.recordRound decision.phase decision.tier, .ok ⟨decision, true⟩)
    else (selected, .ok ⟨decision, false⟩)

/-- The rounds of a history that reached a decision. -/
def playedRounds (history : List (Entry ControllerRuntime Round (Result RoundResult))) :
    List (Round × RoundResult) :=
  history.filterMap fun entry => entry.outcome.toOption.map fun result => (entry.action, result)

/-- All candidates of the round are feasible and within the token bound. -/
def fitting (_ : List (Entry ControllerRuntime Round (Result RoundResult)))
    (runtime : ControllerRuntime) (round : Round) : Prop :=
  ∀ candidate ∈ round.candidates, fits runtime.scheduler.profile candidate

instance (history : List (Entry ControllerRuntime Round (Result RoundResult)))
    (runtime : ControllerRuntime) (round : Round) :
    Decidable (fitting history runtime round) :=
  inferInstanceAs (Decidable (∀ _ ∈ _, _))

/-- The decode family was chosen while a prefill candidate waited. -/
def passesPrefill (played : Round × RoundResult) : Prop :=
  hasPrefill played.1.candidates = true ∧ played.2.decision.tier = .decodeFamily

/-- A prefill tier was chosen while a decode candidate waited. -/
def passesDecode (played : Round × RoundResult) : Prop := hasDecode played.1.candidates = true ∧
    (played.2.decision.tier = .protectedPrefill ∨ played.2.decision.tier = .normalPrefill)

instance (played : Round × RoundResult) : Decidable (passesPrefill played) :=
  inferInstanceAs (Decidable (_ ∧ _))

instance (played : Round × RoundResult) : Decidable (passesDecode played) :=
  inferInstanceAs (Decidable (_ ∧ _))

/-- The number of rounds whose plan completed. -/
def completedCount (series : List (Round × RoundResult)) : ℕ :=
  series.countP fun played => played.2.completed

/-- What a round with a decision does to the counters. -/
structure Played (runtime : ControllerRuntime) (round : Round) (result : RoundResult)
    (next : ControllerRuntime) : Prop where
  profile : next.scheduler.profile = runtime.scheduler.profile
  kept : result.completed = false → next.consecutiveDecodeRounds = runtime.consecutiveDecodeRounds ∧
      next.lastSuccessfulPlanWasProtectedPrefill = runtime.lastSuccessfulPlanWasProtectedPrefill
  decode : passesPrefill (round, result) → (runtime.lastSuccessfulPlanWasProtectedPrefill = true ∨
        runtime.consecutiveDecodeRounds < runtime.scheduler.profile.maxConsecutiveDecodeRounds) ∧
      (result.completed = true →
        next.consecutiveDecodeRounds = runtime.consecutiveDecodeRounds + 1 ∧
          next.lastSuccessfulPlanWasProtectedPrefill = false)
  prefill : passesDecode (round, result) → runtime.lastSuccessfulPlanWasProtectedPrefill = false ∧
      (result.decision.tier = .protectedPrefill ∨
        runtime.scheduler.profile.maxConsecutiveDecodeRounds ≤ runtime.consecutiveDecodeRounds) ∧
      (result.completed = true → next.consecutiveDecodeRounds = 0 ∧
          next.lastSuccessfulPlanWasProtectedPrefill =
            decide (result.decision.tier = .protectedPrefill))

/-- Every outcome of a round with fitting candidates. -/
theorem playRound_cases {round : Round}
    (room : runtime.scheduler.profile.maximumSequencesPerPlan ≠ 0)
    (permitted : fitting history runtime round) :
    (∃ status, runtime.playRound round = (runtime, .error status)) ∨
      ∃ next result, runtime.playRound round = (next, .ok result) ∧
        Played runtime round result next := by
  rcases runtime.scheduler.select_cases _ with
    ⟨status, refused⟩ | ⟨_, decision, -, selected, -⟩
  · refine .inl ⟨status, ?_⟩
    unfold playRound
    rw [refused]
  have profile := (select_ok selected).1
  have decode : passesPrefill (round, ⟨decision, true⟩) →
      (runtime.lastSuccessfulPlanWasProtectedPrefill = true ∨ runtime.consecutiveDecodeRounds <
        runtime.scheduler.profile.maxConsecutiveDecodeRounds) ∧
      decision.phase ≠ .prefill := by
    rintro ⟨waiting, chosen⟩
    rcases @select_first (runtime.roundSnapshot round) _ _ _ room
        permitted selected (by rw [chosen]; nofun) with
      ⟨rest, first, phase⟩
    rw [chosen] at first
    refine ⟨decode_first first waiting, ?_⟩
    intro prefill
    exact phase.mp prefill chosen
  have prefill : passesDecode (round, ⟨decision, true⟩) →
      runtime.lastSuccessfulPlanWasProtectedPrefill = false ∧
      (decision.tier = .protectedPrefill ∨ runtime.scheduler.profile.maxConsecutiveDecodeRounds ≤
        runtime.consecutiveDecodeRounds) ∧
      decision.phase = .prefill := by
    rintro ⟨waiting, chosen⟩
    have other : decision.tier ≠ .decodeFamily := by
      rcases chosen with chosen | chosen <;> rw [chosen] <;> nofun
    have used : decision.tier ≠ .idle := by
      rcases chosen with chosen | chosen <;> rw [chosen] <;> nofun
    rcases @select_first (runtime.roundSnapshot round) _ _ _ room permitted selected used with
      ⟨_, first, phase⟩
    rcases prefill_first first other waiting with ⟨recent, turn⟩
    exact ⟨recent, turn, phase.mpr other⟩
  unfold playRound
  rw [selected]
  dsimp only
  split
  · refine .inr ⟨_, _, rfl, ?_⟩
    refine ⟨?_, nofun, ?_, ?_⟩
    · unfold recordRound
      split <;> exact profile
    · intro passes
      rcases decode passes with ⟨turn, phase⟩
      refine ⟨turn, fun _ => ?_⟩
      unfold recordRound
      rw [if_neg phase]
      exact ⟨rfl, rfl⟩
    · intro passes
      rcases prefill passes with ⟨recent, turn, phase⟩
      refine ⟨recent, turn, fun _ => ?_⟩
      unfold recordRound
      rw [if_pos phase]
      exact ⟨rfl, rfl⟩
  refine .inr ⟨_, _, rfl, ?_⟩
  refine ⟨profile, fun _ => ⟨rfl, rfl⟩, ?_, ?_⟩
  · intro passes
    exact ⟨(decode passes).1, nofun⟩
  · intro passes
    rcases prefill passes with ⟨recent, turn, -⟩
    exact ⟨recent, turn, nofun⟩

/-! ## Series of rounds -/

theorem completedCount_snoc (series : List (Round × RoundResult)) (played : Round × RoundResult) :
    completedCount (series ++ [played]) = completedCount series + played.2.completed.toNat := by
  unfold completedCount
  rw [countP_append, countP_singleton]
  cases played.2.completed <;> rfl

theorem playedRounds_snoc (history : List (Entry ControllerRuntime Round (Result RoundResult)))
    (runtime : ControllerRuntime) (round : Round) :
    playedRounds (history ++ [.of playRound runtime round]) =
      playedRounds history ++ ((runtime.playRound round).2.toOption.map
        fun result => (round, result)).toList := by
  unfold playedRounds
  cases outcome : (runtime.playRound round).2 <;> simp [Entry.of, outcome, Except.toOption]

variable {limits : ControllerRuntimeLimits} {fresh : ControllerRuntime}

section Series

variable
  {passes : Round × RoundResult → Prop}
  {Potential : ℕ → ControllerRuntime → Prop} {bound : ℕ}

/--
The series of rounds that pass some test.  The potential relates the
completed rounds of the series that are still going on to the counters.
-/
structure SeriesBound (passes : Round × RoundResult → Prop)
    (Potential : ℕ → ControllerRuntime → Prop) (bound : ℕ)
    (played : List (Round × RoundResult))
    (runtime : ControllerRuntime) : Prop where
  ongoing : ∀ series, series <:+ played → (∀ round ∈ series, passes round) →
      Potential (completedCount series) runtime
  past : ∀ series, series <:+: played → series ≠ [] → (∀ round ∈ series, passes round) →
      completedCount series.dropLast < bound

theorem SeriesBound.start (initial : ∀ runtime, Potential 0 runtime) :
    SeriesBound passes Potential bound [] fresh := by
  constructor
  · intro series last _
    rw [suffix_nil.mp last]
    exact initial fresh
  · intro series inside some
    exact (some (infix_nil.mp inside)).elim

/--
A further round must find the bound not yet reached and keep the potential
of the series that it continues.
-/
theorem SeriesBound.extend {round : Round} {next : ControllerRuntime}
    (initial : ∀ runtime, Potential 0 runtime)
    (grows : ∀ count, passes (round, result) → Potential count runtime →
      count < bound ∧ Potential (count + result.completed.toNat) next)
    (bounded : SeriesBound passes Potential bound played runtime) :
    SeriesBound passes Potential bound (played ++ [(round, result)]) next := by
  have continued : ∀ earlier, earlier <:+ played →
      (∀ other ∈ earlier ++ [(round, result)], passes other) →
      completedCount earlier < bound ∧ Potential (completedCount (earlier ++ [(round, result)]))
        next := by
    intro earlier last passing
    rw [completedCount_snoc]
    apply grows _ (passing _ (by simp))
    apply bounded.ongoing earlier last
    intro other member
    exact passing other (mem_append_left _ member)
  constructor
  · intro series last passing
    rcases suffix_concat_iff.mp last with rfl | ⟨earlier, rfl, shorter⟩
    · exact initial next
    · exact (continued earlier shorter passing).2
  · intro series inside some passing
    rcases infix_concat_iff.mp inside with last | before
    · rcases suffix_concat_iff.mp last with rfl | ⟨earlier, rfl, shorter⟩
      · exact (some rfl).elim
      rw [dropLast_concat]
      exact (continued earlier shorter passing).1
    · exact bounded.past series before some passing

/-- A potential that every round keeps bounds the series of a run. -/
theorem seriesBound (room : fresh.scheduler.profile.maximumSequencesPerPlan ≠ 0)
    (initial : ∀ runtime, Potential 0 runtime) (grows : ∀ runtime round result next count,
      runtime.scheduler.profile = fresh.scheduler.profile →
      Played runtime round result next →
      passes (round, result) →
      Potential count runtime →
      count < bound ∧ Potential (count + result.completed.toNat) next)
    (run : Run playRound fitting fresh history runtime) :
    SeriesBound passes Potential bound (playedRounds history) runtime := by
  refine (run.invariant (fun history runtime =>
      runtime.scheduler.profile = fresh.scheduler.profile ∧
      SeriesBound passes Potential bound (playedRounds history) runtime)
    ⟨rfl, .start initial⟩ ?_).2
  rintro _ runtime round - ⟨profile, bounded⟩ permitted
  rw [playedRounds_snoc]
  rcases playRound_cases (by rw [profile]; exact room) permitted with
    ⟨_, refused⟩ | ⟨next, result, played, effect⟩
  · rw [refused]
    dsimp only [Except.toOption, Option.map_none, Option.toList]
    rw [append_nil]
    exact ⟨profile, bounded⟩
  rw [played]
  refine ⟨effect.profile.trans profile, bounded.extend initial ?_⟩
  intro count
  exact grows runtime round result next count profile effect

end Series

/-! ## Two-sided fairness -/

/-- Completed decode rounds of a series are counted since its start. -/
def DecodePotential (count : ℕ) (runtime : ControllerRuntime) : Prop :=
  count ≤ runtime.consecutiveDecodeRounds ∧
    (0 < count → runtime.lastSuccessfulPlanWasProtectedPrefill = false)

/-- The first completed prefill round is followed by a protected one only. -/
def PrefillPotential (count : ℕ) (runtime : ControllerRuntime) : Prop :=
  count ≤ 2 ∧ (0 < count → runtime.consecutiveDecodeRounds = 0) ∧
    (1 < count → runtime.lastSuccessfulPlanWasProtectedPrefill = true)

section

variable {next : ControllerRuntime} {round : Round} (effect : Played runtime round result next)
  (turns : 0 < runtime.scheduler.profile.maxConsecutiveDecodeRounds)

include effect turns

theorem Played.decodePotential {count : ℕ} (passes : passesPrefill (round, result))
    (potential : DecodePotential count runtime) :
    count < runtime.scheduler.profile.maxConsecutiveDecodeRounds ∧
      DecodePotential (count + result.completed.toNat) next := by
  rcases potential with ⟨counted, recent⟩
  rcases effect.decode passes with ⟨turn, recorded⟩
  constructor
  · rcases Nat.eq_zero_or_pos count with rfl | positive
    · exact turns
    · rcases turn with protectedLast | below
      · rw [recent positive] at protectedLast
        cases protectedLast
      · omega
  · cases completed : result.completed with
    | true =>
      rcases recorded completed with ⟨rounds, cleared⟩
      refine ⟨?_, fun _ => cleared⟩
      rw [rounds]
      exact Nat.add_le_add_right counted 1
    | false =>
      rcases effect.kept completed with ⟨rounds, same⟩
      refine ⟨?_, ?_⟩
      · rw [rounds]
        exact counted
      · rw [same]
        exact recent

theorem Played.prefillPotential {count : ℕ} (passes : passesDecode (round, result))
    (potential : PrefillPotential count runtime) :
    count < 2 ∧ PrefillPotential (count + result.completed.toNat) next := by
  rcases potential with ⟨small, rounds, recent⟩
  rcases effect.prefill passes with ⟨unprotected, turn, recorded⟩
  have once : count < 2 := by
    by_contra twice
    have protectedLast := recent (by omega)
    rw [unprotected] at protectedLast
    cases protectedLast
  refine ⟨once, ?_⟩
  cases completed : result.completed with
  | true =>
    rcases recorded completed with ⟨cleared, protectedNow⟩
    refine ⟨by simp only [Bool.toNat_true]; omega, fun _ => cleared, ?_⟩
    intro second
    rw [protectedNow, decide_eq_true_eq]
    -- After a completed prefill the decode counter is too small for the
    -- normal tier to go first.
    rcases turn with starved | exhausted
    · exact starved
    have zero := rounds (by simp only [Bool.toNat_true] at second; omega)
    omega
  | false =>
    rcases effect.kept completed with ⟨same, still⟩
    refine ⟨by simp only [Bool.toNat_false]; omega, ?_, ?_⟩
    · rw [same]
      exact rounds
    · rw [still]
      exact recent

end

theorem create_profile (created : create limits = .ok fresh) :
    fresh.scheduler.profile = limits.scheduler ∧ limits.scheduler.maximumSequencesPerPlan ≠ 0 ∧
      limits.scheduler.maxConsecutiveDecodeRounds ≠ 0 := by
  unfold create at created
  split at created
  · cases created
  split at created
  · cases created
  split at created
  · cases created
  case h_2 schedulerCreated =>
    split at created
    · cases created
    split at created
    · cases created
    cases created
    unfold PhaseTierScheduler.create at schedulerCreated
    split at schedulerCreated
    · cases schedulerCreated
    case isFalse valid =>
      cases schedulerCreated
      simp only [not_or] at valid
      exact ⟨rfl, valid.2.1, valid.2.2.2.2.2.1⟩

/-! ## The rounds of a controller run -/

/-- Every candidate that a call collects for a plan is feasible. -/
def collectsFitting (_ : ControllerHistory) (runtime : ControllerRuntime)
    (call : ControllerCall) : Prop :=
  ∀ nowNs entries, call.operation = .prepareNextPlan nowNs →
    { runtime with lastControllerNowNs := nowNs }.collectCandidates 0 runtime.slots = .ok entries →
    ∀ entry ∈ entries, fits runtime.scheduler.profile entry.candidate

/-- A round was decided, and whether its plan completes is open. -/
structure Opens (played : ControllerRuntime) (nowNs : ℤ) (candidates : List SchedulerCandidate)
    (scheduler : PhaseTierScheduler) (decision : SchedulerDecisionView) : Prop where
  fit : ∀ candidate ∈ candidates, fits played.scheduler.profile candidate
  selected : ∀ completes, played.scheduler.select
      (played.roundSnapshot ⟨nowNs, candidates, completes⟩) = (scheduler, .ok decision)

/-- The runtime stands where the rounds have led; a plan in hand is an open round. -/
structure Abreast (played runtime : ControllerRuntime) : Prop where
  rounds : runtime.consecutiveDecodeRounds = played.consecutiveDecodeRounds
  recent : runtime.lastSuccessfulPlanWasProtectedPrefill =
    played.lastSuccessfulPlanWasProtectedPrefill
  scheduler : runtime.current = none → runtime.scheduler = played.scheduler
  plan : ∀ current, runtime.current = some current → ∃ nowNs candidates decision,
    Opens played nowNs candidates runtime.scheduler decision ∧ PlanOf decision current

/-- The tiers of the rounds whose plan completed. -/
def completedTiers (series : List (Round × RoundResult)) : List SchedulerTier :=
  (series.filter fun played => played.2.completed).map fun played => played.2.decision.tier

/-- The tier of the plan that a call completed. -/
def completedTier (entry : ControllerEntry) : Option SchedulerTier :=
  (completedBy entry).map CurrentPlan.tier

/-- A call plays no round, or one that completes with the plan of the call. -/
def Plays (played : ControllerRuntime) (entry : ControllerEntry) : Prop :=
  (completedBy entry = none ∧ Abreast played entry.after) ∨
    ∃ round result, fitting [] played round ∧ (played.playRound round).2 = .ok result ∧
      completedTiers [(round, result)] = (completedTier entry).toList ∧
      Abreast (played.playRound round).1 entry.after

section

variable {played : ControllerRuntime} {entry : ControllerEntry} {scheduler : PhaseTierScheduler}

/-- The plan of an open round does not complete. -/
theorem Opens.lost (opens : Opens played nowNs candidates scheduler decision)
    (silent : completedBy entry = none) (same : entry.after.scheduler = scheduler)
    (rounds : entry.after.consecutiveDecodeRounds = played.consecutiveDecodeRounds)
    (recent : entry.after.lastSuccessfulPlanWasProtectedPrefill =
      played.lastSuccessfulPlanWasProtectedPrefill)
    (idle : entry.after.current = none) : Plays played entry := by
  have lost : played.playRound ⟨nowNs, candidates, false⟩ =
      ({ played with scheduler }, .ok ⟨decision, false⟩) := by
    unfold playRound
    rw [opens.selected]
    exact if_neg nofun
  refine .inr ⟨⟨nowNs, candidates, false⟩, _, opens.fit, congrArg Prod.snd lost, ?_, ?_⟩
  · rw [completedTier, silent]
    rfl
  rw [lost]
  exact ⟨rounds, recent, fun _ => same, by rw [idle]; exact nofun⟩

/-- The plan of an open round completes. -/
theorem Opens.completed {current : CurrentPlan}
    (opens : Opens played nowNs candidates scheduler decision) (planned : PlanOf decision current)
    (counts : ¬ (current.plan.phase ≠ .prefill ∧ played.consecutiveDecodeRounds = u32Max)) :
    played.playRound ⟨nowNs, candidates, true⟩ =
      ({ played with scheduler }.recordRound current.plan.phase current.tier,
        .ok ⟨decision, true⟩) := by
  rw [planned.phase] at counts ⊢
  unfold playRound
  rw [opens.selected, planned.tier]
  exact if_pos ⟨rfl, planned.used, counts⟩

theorem Abreast.preserved {next : ControllerRuntime} (abreast : Abreast played runtime)
    (permitted : collectsFitting history runtime call)
    (transition : Transition runtime call next outcome) :
    Plays played ⟨runtime, call, next, outcome⟩ := by
  have opens : ∀ {nowNs entries scheduler decision}, call.operation = .prepareNextPlan nowNs →
      runtime.Decides nowNs entries scheduler decision →
      Opens played nowNs (entries.map CandidateEntry.candidate) scheduler decision := by
    intro nowNs entries scheduler decision operation decides
    have same := abreast.scheduler decides.idle
    constructor
    · rw [← same, forall_mem_map]
      exact permitted nowNs entries operation decides.collected
    · intro completes
      unfold roundSnapshot
      rw [← same, ← abreast.rounds, ← abreast.recent]
      exact decides.selected
  have stays : ∀ {same answer}, answer ≠ .status (.ok ()) → Abreast played same →
      Plays played ⟨runtime, call, same, answer⟩ :=
    fun other kept => .inl ⟨(no_plan_of_outcome other).1, kept⟩
  cases transition with
  | request transition =>
    cases transition with
    | @completed current _ _ _ _ _ _ _ operation completion completed =>
      have isCurrent := completion.isCurrent
      rcases abreast.plan current isCurrent with ⟨nowNs, candidates, _, opens, planned⟩
      have done := opens.completed planned (abreast.rounds ▸ completed.counts)
      refine .inr ⟨⟨nowNs, candidates, true⟩, _, opens.fit, congrArg Prod.snd done, ?_, ?_⟩
      · rw [completedTier, (completedBy_of_completes operation isCurrent rfl).1]
        exact congrArg (fun tier => [tier]) planned.tier.symm
      rw [done, @recordRound_eq _ _ runtime { played with
          scheduler := runtime.scheduler } abreast.rounds.symm]
      exact ⟨rfl, rfl, fun _ => rfl, nofun⟩
    | finalized operation =>
      exact .inl ⟨by simp only [completedBy, operation], { abreast with }⟩
    | _ => exact stays nofun { abreast with }
  | quiet _ _ inert decided =>
    have other : outcome ≠ .status (.ok ()) := by
      rintro rfl
      cases inert
    rcases decided with rfl | ⟨_, _, _, operation, decides⟩
    · exact stays other { abreast with }
    · exact (opens operation decides).lost (no_plan_of_outcome other).1 rfl
        abreast.rounds abreast.recent decides.idle
  | prepared operation _ _ decides planned =>
    refine .inl ⟨by simp only [completedBy, operation], abreast.rounds, abreast.recent, nofun, ?_⟩
    rintro _ ⟨⟩
    exact ⟨_, _, _, opens operation decides, planned⟩
  | committed operation _ _ _ | marked operation _ _ | acknowledged operation _ _ =>
    exact .inl ⟨by simp only [completedBy, operation], { abreast with }⟩
  | aborted operation isCurrent =>
    rcases abreast.plan _ isCurrent with ⟨_, _, _, opens, -⟩
    exact opens.lost (by simp only [completedBy, operation]) rfl abreast.rounds abreast.recent rfl
  | _ => exact stays nofun { abreast with }

end

/--
The calls of a controller run play rounds: a run of rounds stands where the
controller stands, and its completed rounds are the completed plans.
-/
theorem rounds_of_run (run : ControllerRun limits collectsFitting history runtime) :
    ∃ fresh rounds played, create limits = .ok fresh ∧ Run playRound fitting fresh rounds played ∧
      Abreast played runtime ∧
      completedTiers (playedRounds rounds) = history.filterMap completedTier := by
  rcases run with ⟨fresh, created, run⟩
  have start := create_fresh created
  refine ⟨fresh, (run.invariant (fun history runtime => runtime.Base ∧ ∃ rounds played,
      create limits = .ok fresh ∧ Run playRound fitting fresh rounds played ∧
      Abreast played runtime ∧
      completedTiers (playedRounds rounds) = history.filterMap completedTier) ?_ ?_).2⟩
  · refine ⟨start.base, [], fresh, created, .start, ⟨rfl, rfl, fun _ => rfl, ?_⟩, rfl⟩
    rw [start.current]
    exact nofun
  rintro _ runtime call - ⟨base, rounds, played, -, run, abreast, tiers⟩ permitted
  have transition := base.transition call
  refine ⟨base.preserved transition, ?_⟩
  rw [filterMap_concat, ← tiers]
  rcases abreast.preserved permitted transition with
    ⟨none, kept⟩ | ⟨round, _, fit, answer, completed, kept⟩
  · refine ⟨rounds, played, created, run, kept, ?_⟩
    rw [completedTier, show completedBy (.of execute runtime call) = Option.none from none]
    exact (append_nil _).symm
  · refine ⟨_, _, created, run.step round fit, kept, ?_⟩
    rw [playedRounds_snoc, answer, show (completedTier (.of execute runtime call)).toList = _ from
      completed.symm]
    unfold completedTiers
    rw [filter_append, map_append]
    rfl

/-- Rounds that are played one after another by a created runtime. -/
def roundsReach (limits : ControllerRuntimeLimits) (rounds : List Round)
    (reached : List (Round × RoundResult) → Bool) : Bool :=
  match create limits with
  | .error _ => false
  | .ok fresh =>
    let script := rounds.map fun round _ => round
    decide (ScriptAllowed playRound fitting [] fresh script) &&
      reached (playedRounds (runScript playRound [] fresh script).1)

theorem exists_run_of_roundsReach (reaches : roundsReach limits rounds reached = true) :
    ∃ fresh history runtime, create limits = .ok fresh ∧
      Run playRound fitting fresh history runtime ∧
      reached (playedRounds history) = true := by
  unfold roundsReach at reaches
  cases created : create limits with
  | error =>
    rw [created] at reaches
    cases reaches
  | ok fresh =>
    rw [created] at reaches
    rcases (Bool.and_eq_true _ _).mp reaches with ⟨permitted, reached⟩
    exact ⟨fresh, _, _, rfl, Run.start.runScript _ (of_decide_eq_true permitted), reached⟩

/--
A series of decode decisions that each pass over a waiting prefill candidate
has fewer completed plans before its last decision than the decode bound,
and a series of prefill decisions that each pass over a waiting decode
candidate has at most one.  Where every plan of a series completes, these
are bounds on its length.  By `rounds_of_run` they hold of the decisions
that the calls of a controller run take.
-/
theorem rounds_two_sided_fair (created : create limits = .ok fresh)
    {history : List (Entry ControllerRuntime Round (Result RoundResult))}
    {runtime : ControllerRuntime} (run : Run playRound fitting fresh history runtime)
    {series : List (Round × RoundResult)} (within : series <:+: playedRounds history)
    (some : series ≠ []) :
    ((∀ played ∈ series, passesPrefill played) → completedCount series.dropLast + 1 ≤
      limits.scheduler.maxConsecutiveDecodeRounds) ∧
    ((∀ played ∈ series, passesDecode played) → completedCount series.dropLast + 1 ≤ 2) := by
  rcases create_profile created with ⟨profile, room, turns⟩
  have capacity : fresh.scheduler.profile.maximumSequencesPerPlan ≠ 0 := by
    rw [profile]
    exact room
  have positive : 0 < limits.scheduler.maxConsecutiveDecodeRounds := Nat.pos_of_ne_zero turns
  constructor
  · refine (seriesBound capacity ?_ ?_ run :
      SeriesBound passesPrefill DecodePotential _ _ _).past series within some
    · intro runtime
      exact ⟨Nat.zero_le _, nofun⟩
    · intro runtime round result next count same effect
      rw [← profile, ← same] at positive ⊢
      exact effect.decodePotential positive
  · refine (seriesBound capacity ?_ ?_ run :
      SeriesBound passesDecode PrefillPotential _ _ _).past series within some
    · intro runtime
      exact ⟨Nat.zero_le _, nofun, nofun⟩
    · intro runtime round result next count same effect
      rw [← profile, ← same] at positive
      exact effect.prefillPotential positive

/-- A prefill and a decode candidate wait together. -/
def mixedRound (completes : Bool) : Round where
  nowNs := 0
  candidates := [⟨11, .prefill, 0, 1, 0, 2, .none⟩, ⟨12, .decode, 0, 2, 0, 1, .none⟩]
  completes := completes

set_option maxRecDepth 100000 in
/-- With a bound of four, four completed decode rounds pass the prefill. -/
theorem rounds_two_sided_fair_four_decodes : ∃ fresh history runtime series,
      create smallLimits = .ok fresh ∧
      Run playRound fitting fresh history runtime ∧
      series <:+: playedRounds history ∧ (∀ played ∈ series, passesPrefill played) ∧
      series.length = 4 ∧ completedCount series = 4 ∧
      completedCount series.dropLast + 1 ≤ 4 := by
  have reaches : roundsReach smallLimits (replicate 5 (mixedRound true)) (fun played =>
      (∀ round ∈ played.take 4, passesPrefill round) ∧ (played.take 4).length = 4 ∧
        completedCount (played.take 4) = 4) = true := by
    decide +kernel
  rcases exists_run_of_roundsReach reaches with ⟨fresh, history, runtime, created, run, told⟩
  rcases of_decide_eq_true told with ⟨passing, four, completed⟩
  have within := ( take_prefix 4 (playedRounds history)).isInfix
  have some : (playedRounds history).take 4 ≠ [] := by
    intro none
    rw [none] at four
    cases four
  exact ⟨fresh, history, runtime, _, created, run, within, passing, four,
    completed, (rounds_two_sided_fair created run within some).1 passing⟩

set_option maxRecDepth 100000 in
/-- Plans that do not complete are not counted, whatever the bound. -/
theorem uncompleted_decodes_pass_prefill : ∃ fresh history runtime series,
      create smallLimits = .ok fresh ∧
      Run playRound fitting fresh history runtime ∧
      series <:+: playedRounds history ∧ (∀ played ∈ series, passesPrefill played) ∧
      smallLimits.scheduler.maxConsecutiveDecodeRounds < series.length := by
  have reaches : roundsReach smallLimits (replicate 5 (mixedRound false)) (fun played =>
      (∀ round ∈ played, passesPrefill round) ∧ played.length = 5) = true := by
    decide +kernel
  rcases exists_run_of_roundsReach reaches with ⟨fresh, history, runtime, created, run, told⟩
  rcases of_decide_eq_true told with ⟨passing, five⟩
  refine ⟨fresh, history, runtime, playedRounds history, created, run, infix_rfl, passing, ?_⟩
  rw [five]
  decide

end ControllerRuntime

end Pih
