import Pih.DeepSeek.RankSteps
import Pih.Library.FairRuns

/-!
# Cancelling a plan that is served on ranks

Coordinator and worker advance their gates at different moments.  A cancel
that is accepted after a completion has arrived fails the gate of the
coordinator; a cancel that arrives after its execution has finished fails the
gate of the worker, and the completion then fails the one of the coordinator.
In runs without such a race neither side fails, and a begun plan completes
after a bounded number of rounds in which every party takes one step with its
channels available.
-/

namespace Pih

open List

namespace DeepSeekRankServingCoordinator

/-! ## Fair rounds -/

/-- The coordinator, or the worker of a rank. -/
abbrev Party (world : ℕ) := Option (Fin world)

def Enabled {world : ℕ} : Party world → DeepSeekRankServingCoordinator → Prop
  | none, coordinator => ∃ serving ∈ coordinator.ranks, serving.stage.awaitsCoordinator = true
  | some index, coordinator =>
    ∃ serving ∈ coordinator.ranks[index.val]?, serving.stage.awaitsWorker = true

variable {coordinator : DeepSeekRankServingCoordinator}

theorem Enabled.of_ranks {party : Party world} {after : DeepSeekRankServingCoordinator}
    (enabled : Enabled party coordinator)
    (same : after.ranks = coordinator.ranks) : Enabled party after := by
  cases party with
  | none =>
    rcases enabled with ⟨serving, listed, awaits⟩
    rw [← same] at listed
    exact ⟨serving, listed, awaits⟩
  | some =>
    rcases enabled with ⟨serving, found, awaits⟩
    rw [← same] at found
    exact ⟨serving, found, awaits⟩

/--
A call that finds all channels available and, on a worker, the execution
finished, unless the cancel of the execution is still under way.
-/
def Willing {world : ℕ} : Party world → DeepSeekRankServingCoordinator → Action → Prop
  | none, _, action =>
    ∃ sendable pollable, action = .advance sendable pollable ∧ Ready world sendable ∧
        Ready world pollable
  | some index, coordinator, action =>
    ∃ terminal, action = .work index true true terminal ∧ (terminal = true ∨
          ∃ serving ∈ coordinator.ranks[index.val]?, serving.overtaken true = true)

/-- Every party takes a willing step. -/
def FairRound (world : ℕ) (stretch : List
        (Entry DeepSeekRankServingCoordinator Action (Result Unit))) :
    Prop := ∀ party : Party world, ∃ entry ∈ stretch, Willing party entry.before entry.action

/-- The steps from a begun plan up to its completion. -/
def Continues (coordinator : DeepSeekRankServingCoordinator) (action : Action) : Prop :=
  Permitted coordinator action ∧ ∀ request, action = .begin request → coordinator.active = true

theorem worked_ne {stage : Stage} (awaits : stage.awaitsWorker = true)
    (willing : terminal = true ∨ stage.overtaken true = true) :
    stage.worked true true terminal ≠ stage := by
  cases stage <;> cases terminal <;> first
      | decide
      | (cases awaits; done)
      | (rcases willing with willing | willing <;> cases willing)

/-- A willing step of an enabled party moves a rank. -/
theorem ranks_ne_of_willing (sound : Sound coordinator)
    (active : coordinator.active = true) (serving : Serving coordinator placed)
    (permitted : Permitted coordinator action) {party : Party coordinator.ranks.length}
    (enabled : Enabled party coordinator) (willing : Willing party coordinator action) :
    (coordinator.execute action).1.ranks ≠ coordinator.ranks := by
  intro same
  have size : coordinator.ranks.length = placed.length := by rw [serving.ranks, length_map]
  cases party with
  | none =>
    rcases willing with ⟨sendable, pollable, rfl, sends, polls⟩
    rw [size] at sends polls
    rcases advance_ranks sound.healthy active serving.ranks serving.facts
      sendable pollable with ⟨after, reports, descent, settled⟩
    have moved := left_ranks reports.ranks
    have before := left_ranks serving.ranks
    have kept : (coordinator.advance sendable pollable).1.left = coordinator.left :=
      congrArg (fun ranks => (ranks.map fun rank : ServingRank => rank.stage.weight).sum) same
    have unmoved : after = placed := by
      rcases descent.lighter with same | less
      · exact same
      · omega
    rcases enabled with ⟨rank, listed, awaits⟩
    rw [serving.ranks] at listed
    rcases mem_map.mp listed with ⟨member, inside, rfl⟩
    have quiet := settled sends polls unmoved member inside
    have stage : member.rank.stage = member.2 := member.1.stage_rank member.2
    rw [stage, quiet] at awaits
    cases awaits
  | some index =>
    rcases willing with ⟨terminal, rfl, reached⟩
    rcases enabled with ⟨_, found, awaits⟩
    rcases placed_at serving found with ⟨member, listed, rfl⟩
    have facts := serving.facts member (mem_of_getElem? listed)
    have stage : member.rank.stage = member.2 := member.1.stage_rank member.2
    rw [stage] at awaits
    have late : terminal = true ∨ member.2.overtaken true = true := by
      rcases reached with terminates | ⟨_, same, overtaken⟩
      · exact .inl terminates
      cases Option.some.inj (found.symm.trans same)
      refine .inr ?_
      rw [← facts.1.overtaken_rank]
      exact overtaken
    have moves := worked_ne awaits late
    have arrived : terminal = true → member.2.overtaken true = false := by
      intro terminates
      rw [← facts.1.overtaken_rank]
      exact permitted terminates _ found
    have advanced : (member.rank.advance true true terminal).1 =
        member.1.rank (member.2.worked true true terminal) :=
      facts.1.advance_rank member.2 true true terminal arrived
    unfold execute at same
    dsimp only at same
    rw [found] at same
    dsimp only at same
    rw [advanced] at same
    have inside := (List.getElem_of_getElem? found).1
    have replaced := congrArg (fun ranks : List ServingRank => ranks[index.val]?) same
    rw [getElem?_set_self inside, found] at replaced
    have stages := congrArg ServingRank.stage (Option.some.inj replaced)
    rw [stage, member.1.stage_rank] at stages
    exact moves stages

/-- A plan is served or complete. -/
structure Begun (world : ℕ) (coordinator : DeepSeekRankServingCoordinator) : Prop where
  sound : Sound coordinator
  size : coordinator.ranks.length = world
  flags : coordinator.active = true ∨ coordinator.complete = true

def Completed (coordinator : DeepSeekRankServingCoordinator) : Prop :=
  coordinator.active = false ∧ coordinator.complete = true

theorem Begun.active (begun : Begun world coordinator)
    (unfinished : ¬ Completed coordinator) : coordinator.active = true := by
  rcases begun.flags with active | complete
  · exact active
  by_contra inactive
  exact unfinished ⟨Bool.not_eq_true _ |>.mp inactive, complete⟩

theorem Completed.lasts (sound : Sound coordinator) (completed : Completed coordinator)
    (continues : Continues coordinator action) : (coordinator.execute action).1 = coordinator := by
  apply execute_inactive sound completed.1
  rintro request rfl
  have active := continues.2 request rfl
  rw [completed.1] at active
  cases active

theorem fair_progress : FairProgress execute Continues (Begun world) Completed left
    (@Enabled world) Willing where
  good coordinator action begun continues := by
    have steps := execute_steps begun.sound continues.1
    have size : (coordinator.execute action).1.ranks.length = coordinator.ranks.length := by
      simpa [DeepSeekRankServingCoordinator.sessions] using congrArg length steps.sessions
    refine ⟨steps.sound, size.trans begun.size, ?_⟩
    by_cases completed : Completed coordinator
    · rw [completed.lasts begun.sound continues]
      exact .inr completed.2
    · exact steps.outcome (begun.active completed)
  lasting coordinator action begun continues completed := by
    rw [completed.lasts begun.sound continues]
    exact completed
  enabled coordinator begun unfinished := by
    have active := begun.active unfinished
    rcases begun.sound.serving active with ⟨placed, serving⟩
    rcases serving.unfinished with ⟨member, listed, waiting⟩
    have stage : member.rank.stage = member.2 := member.1.stage_rank member.2
    rcases Stage.awaits_of_unfinished waiting with awaits | awaits
    · refine ⟨none, member.rank, ?_, ?_⟩
      · rw [serving.ranks]
        exact mem_map_of_mem listed
      rw [stage]
      exact awaits
    rcases mem_iff_getElem?.mp listed with ⟨index, found⟩
    have at_ : coordinator.ranks[index]? = some member.rank := by
      rw [serving.ranks, getElem?_map, found]
      rfl
    have inside := (List.getElem_of_getElem? at_).1
    rw [begun.size] at inside
    refine ⟨some ⟨index, inside⟩, _, at_, ?_⟩
    rw [stage]
    exact awaits
  stays coordinator action begun continues unfinished := by
    have active := begun.active fun completed => by
      rw [completed.lasts begun.sound continues] at unfinished
      exact unfinished completed
    have steps := execute_steps begun.sound continues.1
    rcases steps.lighter active with same | less
    · refine .inr ⟨?_, ?_⟩
      · unfold left
        rw [same]
      intro party enabled
      refine ⟨?_, ?_⟩
      · exact enabled.of_ranks same
      · intro willing
        rcases begun.sound.serving active with ⟨_, serving⟩
        cases begun.size
        exact ranks_ne_of_willing begun.sound active serving continues.1 enabled willing same
    · exact .inl less

/-! ## Runs -/

theorem createRanks_facts {ranks : List ServingRank}
    (created : createRanks first world index bindings = .ok ranks) :
    sessions ranks = bindings ∧ Aligned first.engineEpoch world index bindings ∧
      ∀ serving ∈ ranks, serving.Idle := by
  induction bindings generalizing index ranks with
  | nil =>
    cases created
    refine ⟨rfl, ?_, fun _ listed => (not_mem_nil listed).elim⟩
    intro offset session found
    cases found
  | cons session _ induction =>
    unfold createRanks at created
    split at created
    next => cases created
    rename_i same
    simp only [not_or, not_not] at same
    split at created
    next => cases created
    rename_i gate validated
    split at created
    next => cases created
    rename_i looped
    cases created
    rcases induction looped with ⟨names, aligned, idle⟩
    have fresh : gate = { session } := by
      unfold DeepSeekRankServingWorkerGate.create at validated
      split at validated
      · cases validated
      · exact (Except.ok.inj validated).symm
    refine ⟨congrArg _ names, ?_, ?_⟩
    · intro offset other found
      cases offset with
      | zero =>
        cases found
        exact ⟨same.2.2.2.1, same.2.2.1, same.1⟩
      | succ offset =>
        rcases aligned offset other found with ⟨_, facts⟩
        exact ⟨by omega, facts⟩
    · intro serving listed
      rcases mem_cons.mp listed with rfl | later
      · exact ⟨Nat.one_pos, fresh, rfl, rfl, rfl⟩
      · exact idle serving later

theorem Sound.create {bindings : List DeepSeekRankServingSessionBinding}
    {start : DeepSeekRankServingCoordinator}
    (created : create bindings = .ok start) : Sound start := by
  unfold DeepSeekRankServingCoordinator.create at created
  split at created
  next => cases created
  rename_i first rest
  split at created
  next => cases created
  next =>
    split at created
    next => cases created
    rename_i ranks looped
    cases created
    rcases createRanks_facts looped with ⟨names, aligned, idle⟩
    have length : ranks.length = (first :: rest).length := by
      rw [← names]
      unfold sessions
      rw [length_map]
    refine ⟨rfl, ?_, ?_, nofun, fun _ => idle⟩
    · intro empty
      change ranks = [] at empty
      rw [empty] at length
      cases length
    · have epoch : engineEpoch { ranks } = first.engineEpoch := by
        have heads :=
          congrArg (fun all => (all.head?.map DeepSeekRankServingSessionBinding.engineEpoch).getD 0)
            names
        simpa [sessions, engineEpoch, Function.comp_def] using heads
      rw [epoch, names]
      rw [length]
      exact aligned

/-- Runs in which no execution overtakes its cancel. -/
abbrev PermittedRun := Run execute fun _ => Permitted

theorem Sound.run (initial : Sound start)
    (run : PermittedRun start history coordinator) : Sound coordinator := by
  apply run.invariant (fun _ => Sound) initial
  intro _ before action _ sound permitted
  exact (execute_steps sound permitted).sound

theorem Sound.workers (sound : Sound coordinator) :
    ∀ serving ∈ coordinator.ranks, serving.worker.failed = false := by
  intro rank listed
  by_cases active : coordinator.active = true
  · rcases sound.serving active with ⟨_, serving⟩
    rw [serving.ranks] at listed
    rcases mem_map.mp listed with ⟨⟨_, stage⟩, _, rfl⟩
    cases stage <;> rfl
  have idle := sound.idle (Bool.not_eq_true _ |>.mp active) rank listed
  rw [idle.worker]

theorem left_le : coordinator.left ≤ 8 * coordinator.ranks.length := by
  unfold left
  induction coordinator.ranks with
  | nil => exact Nat.le_refl _
  | cons serving _ induction =>
    have weight : serving.stage.weight ≤ 8 := by cases serving.stage <;> decide
    rw [map_cons, sum_cons, length_cons]
    omega

/-- Without a plan, a well formed request is begun. -/
theorem Sound.begin_ok (sound : Sound coordinator)
    (inactive : coordinator.active = false) (accepted : request.Accepted)
    (epoch : request.plan.engineEpoch = coordinator.engineEpoch)
    (room : ∀ serving ∈ coordinator.ranks, serving.nextCommandSequence < u64Max) :
    (coordinator.begin request).2 = .ok () ∧ (coordinator.begin request).1.active = true := by
  have taken : ¬ (coordinator.poisoned = true ∨ coordinator.active = true ∨
      request.requestId = 0 ∨ request.requestGeneration = 0 ∨
      request.plan.engineEpoch ≠ coordinator.engineEpoch ∨
      request.plan.planSequence = 0 ∨ request.plan.tokenCount = 0 ∨
      request.plan.sequenceCount = 0 ∨ request.plan.phase = .drain ∨
      request.inputLeaseIdentity = 0 ∨
      request.outputLeaseIdentity = 0) := by
    simp [sound.healthy, inactive, epoch, accepted.requestId,
      accepted.requestGeneration, accepted.planSequence, accepted.tokens,
      accepted.sequences, accepted.phase, accepted.input, accepted.output]
  unfold begin
  rw [if_neg taken, beginRanks_idle request _ 0 coordinator.ranks fun serving listed =>
      ⟨sound.idle inactive serving listed, room serving listed⟩]
  exact ⟨rfl, rfl⟩

/--
Where no execution overtakes its cancel, no party fails, every begun plan
completes within a bounded number of fair rounds, and the next one begins.
-/
theorem cancellation_safe_without_overtaking {bindings : List DeepSeekRankServingSessionBinding}
    {start coordinator : DeepSeekRankServingCoordinator}
    {history : List (Entry DeepSeekRankServingCoordinator Action (Result Unit))}
    (created : create bindings = .ok start) (run : PermittedRun start history coordinator) :
    coordinator.poisoned = false ∧ (∀ serving ∈ coordinator.ranks, serving.worker.failed = false) ∧
      (coordinator.active = true → ∀ later after count,
        Run execute (fun _ => Continues) coordinator later after →
        Rounds (FairRound coordinator.ranks.length) count later →
        8 * coordinator.ranks.length < count →
        Completed after) ∧
      (coordinator.active = false → ∀ request : BeginRequest, request.Accepted →
        request.plan.engineEpoch = coordinator.engineEpoch →
        (∀ serving ∈ coordinator.ranks, serving.nextCommandSequence < u64Max) →
        (coordinator.begin request).2 = .ok () ∧
          (coordinator.begin request).1.active = true) := by
  have sound := (Sound.create created).run run
  refine ⟨sound.healthy, sound.workers, ?_, ?_⟩
  · intro active later after count continued rounds enough
    have begun : Begun coordinator.ranks.length coordinator := ⟨sound, rfl, .inl active⟩
    exact fair_progress.reached continued begun rounds (Nat.lt_of_le_of_lt left_le enough)
  · intro inactive request accepted epoch room
    exact sound.begin_ok inactive accepted epoch room

/-! ## The race -/

def sessionOf (world rank : ℕ) : DeepSeekRankServingSessionBinding where
  engineEpoch := 1
  workerGeneration := 1
  worldSize := world
  rank := rank
  processIdentity := 1
  pidfdIdentity := 1
  controlIdentity := 1
  materializationWarmSealRoot := ⟨replicate 32 1, by simp⟩

/-- The coordinator of so many ranks before its first plan. -/
def newRanks (world : ℕ) : DeepSeekRankServingCoordinator where
  ranks := (range world).map fun rank =>
      { session := sessionOf world rank
        gate := { session := sessionOf world rank }
        worker := { gate := { session := sessionOf world rank } } }

theorem create_one : create ((range 1).map (sessionOf 1)) = .ok (newRanks 1) := rfl

theorem create_two : create ((range 2).map (sessionOf 2)) = .ok (newRanks 2) := rfl

def onePlan : BeginRequest where
  requestId := 1
  requestGeneration := 1
  plan :=
    { engineEpoch := 1, planSequence := 1, phase := .decode, tokenCount := 1, sequenceCount := 1 }
  inputLeaseIdentity := 1
  outputLeaseIdentity := 1

/-- The coordinator finds all channels available. -/
def coordinate : Action := .advance (fun _ => true) (fun _ => true)

/-- The worker of a rank takes a command and its execution finishes. -/
def finishRank (index : ℕ) : List Action := [.work index true true true, .work index true true true]

/-- A cancel that is accepted after the completion of the first rank. -/
def cancelAfterCompletion : List (DeepSeekRankServingCoordinator → Action) := always
    ([.begin onePlan, coordinate] ++ finishRank 0 ++ [coordinate, .cancel 1 1, coordinate])

/-- An execution that finishes before its cancel is received. -/
def cancelBehindExecution : List (DeepSeekRankServingCoordinator → Action) := always
    ([.begin onePlan, coordinate] ++ finishRank 0 ++
      [.cancel 1 1, coordinate, .work 0 true true true])

/-- A cancel that reaches the worker first, and a second plan. -/
def cancelInTime : List (DeepSeekRankServingCoordinator → Action) := always
    ([.begin onePlan, coordinate, .work 0 true true false, .cancel 1 1,
      coordinate] ++ finishRank 0 ++ [coordinate, .begin onePlan])

instance decidablePermitted (coordinator : DeepSeekRankServingCoordinator) :
    ∀ action, Decidable (Permitted coordinator action)
  | .begin _ =>
    inferInstanceAs (Decidable (coordinator.active = false →
          ∀ serving ∈ coordinator.ranks, serving.nextCommandSequence < u64Max))
  | .cancel requestId requestGeneration =>
    inferInstanceAs (Decidable ((coordinator.cancel requestId requestGeneration).1 ≠ coordinator →
          ∀ serving ∈ coordinator.ranks,
            serving.unfinished = true ∧ serving.nextCommandSequence < u64Max))
  | .advance _ _ => inferInstanceAs (Decidable True)
  | .work index receives _ terminal =>
    inferInstanceAs (Decidable (terminal = true → ∀ serving ∈ coordinator.ranks[index]?,
            serving.overtaken receives = false))

/-- A plan that is cancelled in time, and the plan after it. -/
theorem cancellation_safe_in_time :
    let reached := runScript execute [] (newRanks 1) cancelInTime
    reached.2.poisoned = false ∧ (∀ serving ∈ reached.2.ranks, serving.worker.failed = false) ∧
      (reached.1.map fun entry => entry.outcome.isOk) = replicate 9 true ∧
      reached.2.active = true := by
  have safe := cancellation_safe_without_overtaking create_one
      (Run.runScript .start cancelInTime (by decide +kernel))
  exact ⟨safe.1, safe.2.1, by decide +kernel, by decide +kernel⟩

/--
A cancel is accepted, and the coordinator is poisoned; in the second run the
worker fails as well.
-/
theorem cancel_loses_race : (let reached := runScript execute [] (newRanks 2) cancelAfterCompletion
     create ((range 2).map (sessionOf 2)) = .ok (newRanks 2) ∧
      Run execute (fun _ _ _ => True) (newRanks 2) reached.1 reached.2 ∧
      (reached.1.map fun entry => entry.outcome.isOk) = replicate 6 true ++ [false] ∧
      reached.2.poisoned = true) ∧
    (let reached := runScript execute [] (newRanks 1) cancelBehindExecution
     create ((range 1).map (sessionOf 1)) = .ok (newRanks 1) ∧
      Run execute (fun _ _ _ => True) (newRanks 1) reached.1 reached.2 ∧
      (reached.1.map fun entry => entry.outcome.isOk) = replicate 5 true ++ [false, false] ∧
      reached.2.poisoned = true ∧
      ∃ serving ∈ reached.2.ranks, serving.worker.failed = true) := by
  refine ⟨⟨create_two, ?_, ?_⟩, ⟨create_one, ?_, ?_⟩⟩
  · exact Run.runScript .start _ (ScriptAllowed.unrestricted _)
  · decide +kernel
  · exact Run.runScript .start _ (ScriptAllowed.unrestricted _)
  · decide +kernel

end DeepSeekRankServingCoordinator

end Pih
