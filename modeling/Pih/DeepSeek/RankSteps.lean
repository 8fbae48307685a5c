import Pih.DeepSeek.RankStages
import Mathlib.Algebra.BigOperators.Group.List.Basic
import Mathlib.Algebra.GroupWithZero.Nat

/-!
# The steps of a plan that is served on ranks

While no execution finishes before its cancel command arrives, the ranks of a
plan are assignments at stages.  Each stage has a weight, and every step of the
coordinator or of a worker leaves the stages as they are or makes them
lighter.
-/

namespace Pih

open List Placed Stage

/-! ## The weight of a stage -/

namespace Stage

/-- How many moves a stage may still make. -/
def weight : Stage → ℕ
  | .unsent => 8
  | .sent => 7
  | .running => 6
  | .sentAsked => 6
  | .runningAsked => 5
  | .sentCancel => 5
  | .runningCancel => 4
  | .cancelling => 3
  | .pending => 2
  | .pendingCancelled => 2
  | .delivered => 1
  | .deliveredCancelled => 1
  | .received => 0
  | .receivedCancelled => 0

variable (stage : Stage)

/-- The coordinator has something to do for the rank. -/
def awaitsCoordinator : Bool :=
  stage.sendExecute ≠ stage ∨ stage.sendCancel ≠ stage ∨ stage.poll ≠ stage

/-- The worker has something to do. -/
def awaitsWorker : Stage → Bool
  | .sent => true
  | .running => true
  | .pending => true
  | .sentAsked => true
  | .sentCancel => true
  | .runningCancel => true
  | .cancelling => true
  | .pendingCancelled => true
  | _ => false

/-- Somebody has something to do until the completion has arrived. -/
theorem awaits_of_unfinished {stage : Stage} (unfinished : stage.finished = false) :
    stage.awaitsCoordinator = true ∨ stage.awaitsWorker = true := by
  cases stage <;> first | exact .inr rfl | exact .inl rfl | cases unfinished

theorem sendCancel_of_unasked {stage : Stage} (unasked : stage.asked = false) :
    stage.sendCancel = stage := by
  cases stage <;> first | rfl | cases unasked

theorem sendCancel_sendCancel : stage.sendCancel.sendCancel = stage.sendCancel := by
  cases stage <;> rfl

/-- A move that every stage makes downwards or not at all. -/
def Descends (step : Stage → Stage) : Prop :=
  ∀ stage, step stage = stage ∨ (step stage).weight < stage.weight

theorem descends_worked : Descends (worked receives sends terminal) := by
  intro stage
  cases stage <;> cases receives <;> cases sends <;> cases terminal <;> decide

theorem descends_sendExecute : Descends sendExecute := by
  intro stage
  cases stage <;> decide

theorem descends_sendCancel : Descends sendCancel := by
  intro stage
  cases stage <;> decide

theorem descends_poll : Descends poll := by
  intro stage
  cases stage <;> decide

theorem descends_ask : Descends ask := by
  intro stage
  cases stage <;> decide

theorem asked_worked (stage : Stage) :
    (stage.worked receives sends terminal).asked = stage.asked := by
  cases stage <;> cases receives <;> cases sends <;> cases terminal <;> rfl

theorem finished_worked (stage : Stage) :
    (stage.worked receives sends terminal).finished = stage.finished := by
  cases stage <;> cases receives <;> cases sends <;> cases terminal <;> rfl

theorem asked_sendExecute : stage.sendExecute.asked = stage.asked := by cases stage <;> rfl

theorem asked_sendCancel : stage.sendCancel.asked = stage.asked := by cases stage <;> rfl

theorem asked_poll : stage.poll.asked = stage.asked := by cases stage <;> rfl

end Stage

namespace Placed

/-- How many moves a list of ranks may still make. -/
def total (placed : List Placed) : ℕ := (placed.map fun member => member.2.weight).sum

variable {before after : List Placed}

/-- Members that have moved make the list lighter. -/
theorem Between.lighter (between : Between step before after) (descends : Descends step) :
    after = before ∨ total after < total before := by
  induction between with
  | nil => exact .inl rfl
  | @cons earlier later _ _ moved _ induction =>
    simp only [total, map_cons, sum_cons] at induction ⊢
    have single : later = earlier ∨ later.2.weight < earlier.2.weight := by
      rcases moved with rfl | rfl
      · exact .inl rfl
      rcases descends earlier.2 with same | less
      · refine .inl ?_
        unfold move
        rw [same]
      · exact .inr less
    rcases single with rfl | less
    · rcases induction with rfl | less
      · exact .inl rfl
      · exact .inr (by omega)
    rcases induction with rfl | less' <;> omega

/-- If a member moves, the list gets lighter. -/
theorem total_map_lt (descends : Descends step) (listed : member ∈ placed)
    (moves : step member.2 ≠ member.2) : total (placed.map (move step)) < total placed := by
  rcases (Between.all step placed).lighter descends with same | less
  · have kept : placed.map (move step) = placed.map id := by rw [map_id, same]
    have still := map_inj_left.mp kept member listed
    exact (moves (congrArg Prod.snd still)).elim
  · exact less

theorem Between.facts (between : Between step before after)
    (asked : ∀ stage, (step stage).asked = stage.asked)
    (earlier : ∀ member ∈ before, member.1.Valid ∧ member.2.asked = flag) :
    ∀ member ∈ after, member.1.Valid ∧ member.2.asked = flag := by
  induction between with
  | nil => exact fun _ member => (not_mem_nil member).elim
  | @cons first _ _ _ moved _ induction =>
    have head := earlier first mem_cons_self
    intro member listed
    rcases mem_cons.mp listed with rfl | rest
    · rcases moved with rfl | rfl
      · exact head
      · exact ⟨head.1, (asked first.2).trans head.2⟩
    exact induction (fun other inside => earlier other (mem_cons_of_mem _ inside)) member rest

/-- One member takes a step. -/
theorem Between.set (step : Stage → Stage) (found : placed[index]? = some member) :
    Between step placed (placed.set index (move step member)) := by
  induction placed generalizing index with
  | nil => cases found
  | cons _ rest induction =>
    cases index with
    | zero =>
      cases found
      exact .cons (.inr rfl) (Between.refl step rest)
    | succ => exact .cons (.inl rfl) (induction found)

/-- A step that finishes nobody leaves an unfinished member. -/
theorem Between.unfinished (between : Between step before after)
    (kept : ∀ stage, (step stage).finished = stage.finished)
    (listed : member ∈ before) (unfinished : member.2.finished = false) :
    ∃ other ∈ after, other.2.finished = false := by
  induction between with
  | nil => cases listed
  | @cons _ later _ _ moved _ induction =>
    rcases mem_cons.mp listed with rfl | rest
    · refine ⟨later, mem_cons_self, ?_⟩
      rcases moved with rfl | rfl
      · exact unfinished
      · exact (kept member.2).trans unfinished
    rcases induction rest with ⟨other, inside, open_⟩
    exact ⟨other, mem_cons_of_mem _ inside, open_⟩

theorem Between.sessions (between : Between step before after) :
    after.map (fun member => member.1.session) = before.map fun member => member.1.session := by
  induction between with
  | nil => rfl
  | cons moved _ induction =>
    rw [map_cons, induction]
    rcases moved with rfl | rfl <;> rfl

end Placed

/-- A cancel command that was not sent can still be sent. -/
theorem Assignment.unsent_of_asked (assignment : Assignment) (asked : stage.asked = true)
    (unsent : decide (¬ (assignment.rank stage).cancel.sent) = true) :
    stage.finished = false ∧ stage.sendCancel ≠ stage := by
  cases stage with
  | sentAsked | runningAsked => exact ⟨rfl, nofun⟩
  | _ => first | (cases unsent; done) | cases asked

/-- A rank that was sent its execution and has not finished it. -/
theorem Assignment.early_stage (assignment : Assignment) (unasked : stage.asked = false)
    (sent : (assignment.rank stage).execute.sent = true)
    (unfinished : (assignment.rank stage).unfinished = true) :
    stage = .sent ∨ stage = .running := by
  cases stage with
  | sent => exact .inl rfl
  | running => exact .inr rfl
  | unsent => cases sent
  | pending | delivered | received => cases unfinished
  | _ => cases unasked

/-! ## Ranks without a plan -/

/-- A rank between two plans. -/
structure ServingRank.Idle (serving : ServingRank) : Prop where
  positive : 0 < serving.nextCommandSequence
  gate : serving.gate =
    { session := serving.session, lastCommandSequence := serving.nextCommandSequence - 1 }
  worker : serving.worker = { gate := serving.gate }
  commands : serving.commands = []
  completions : serving.completions = []

theorem Assignment.idle_rank (assignment : Assignment)
    (finished : stage.finished = true) : (assignment.rank stage).Idle := by
  cases stage with
  | received | receivedCancelled => exact ⟨Nat.succ_pos _, rfl, rfl, rfl, rfl⟩
  | _ => cases finished

/-- A worker without a plan has nothing to do. -/
theorem ServingRank.Idle.advance {serving : ServingRank} (idle : serving.Idle)
    (receives sends terminal : Bool) : (serving.advance receives sends terminal).1 = serving := by
  have healthy : serving.worker.failed = false := by rw [idle.worker]
  have none : serving.worker.pendingCompletion = none := by rw [idle.worker]
  rw [Assignment.advance_polled (.inl idle.commands) healthy none]
  have kept := idle.worker
  rcases serving with
    ⟨_, gate, _, _, _, _, _, _, worker⟩
  change worker = { gate } at kept
  subst kept
  rfl

namespace DeepSeekRankServingCoordinator

open Placed

/-- The sessions are those of ranks that are counted from an index. -/
def Aligned (epoch world index : ℕ) (sessions : List DeepSeekRankServingSessionBinding) : Prop :=
  ∀ (offset : ℕ) (session : DeepSeekRankServingSessionBinding), sessions[offset]? = some session →
      session.rank = index + offset ∧ session.worldSize = world ∧ session.engineEpoch = epoch

def sessions (ranks : List ServingRank) : List DeepSeekRankServingSessionBinding :=
  ranks.map fun serving => serving.session

theorem Aligned.head (aligned : Aligned epoch world index (session :: rest)) :
    session.rank = index ∧ session.worldSize = world ∧ session.engineEpoch = epoch :=
  aligned 0 session rfl

theorem Aligned.tail (aligned : Aligned epoch world index (session :: rest)) :
    Aligned epoch world (index + 1) rest := by
  intro offset other found
  rcases aligned (offset + 1) other found with ⟨_, world, epoch⟩
  exact ⟨by omega, world, epoch⟩

/-! ## Beginning a plan -/

variable (request : BeginRequest)
  {coordinator : DeepSeekRankServingCoordinator} {placed : List Placed}

/-- The assignment of an idle rank for a request. -/
def assign (world index : ℕ) (serving : ServingRank) : Assignment where
  session := serving.session
  base := serving.nextCommandSequence - 1
  requestId := request.requestId
  requestGeneration := request.requestGeneration
  plan := request.plan
  inputLeaseIdentity := if index = 0 then request.inputLeaseIdentity else 0
  outputLeaseIdentity := if index + 1 = world then request.outputLeaseIdentity else 0

/-- A request that `begin` takes. -/
structure BeginRequest.Accepted : Prop where
  requestId : request.requestId ≠ 0
  requestGeneration : request.requestGeneration ≠ 0
  planSequence : request.plan.planSequence ≠ 0
  tokens : request.plan.tokenCount ≠ 0
  sequences : request.plan.sequenceCount ≠ 0
  phase : request.plan.phase ≠ .drain
  input : request.inputLeaseIdentity ≠ 0
  output : request.outputLeaseIdentity ≠ 0

theorem assign_valid {request : BeginRequest} (accepted : request.Accepted)
    (idle : serving.Idle) (room : serving.nextCommandSequence < u64Max)
    (rank : serving.session.rank = index) (size : serving.session.worldSize = world)
    (epoch : serving.session.engineEpoch = request.plan.engineEpoch) :
    (assign request world index serving).Valid where
  room := by
    have positive := idle.positive
    unfold assign
    dsimp only
    omega
  __ := accepted
  epoch := epoch.symm
  phase := by
    have phase := accepted.phase
    change validPhase request.plan.phase = true
    cases phased : request.plan.phase with
    | drain => exact (phase phased).elim
    | _ => rfl
  input := by
    change serving.session.rank = 0 ↔ (if index = 0 then _ else _) ≠ 0
    rw [rank]
    split
    next first => exact iff_of_true first accepted.input
    next later => exact iff_of_false later (fun none => none rfl)
  output := by
    change serving.session.rank + 1 = serving.session.worldSize ↔
      (if index + 1 = world then _ else _) ≠ 0
    rw [rank, size]
    split
    next last => exact iff_of_true last accepted.output
    next earlier => exact iff_of_false earlier (fun none => none rfl)

theorem begun_rank (idle : serving.Idle) : { resetRank serving with
      nextCommandSequence := serving.nextCommandSequence + 1
      execute := { command := some (executeCommand request world index serving) } } =
      (assign request world index serving).rank .unsent := by
  rcases idle with ⟨positive, gate, worker, commands, completions⟩
  rcases serving with ⟨_, _, next, _, _, _, _, _, _⟩
  cases next with
  | zero => cases positive
  | succ =>
    dsimp only at gate worker commands completions
    subst gate worker commands completions
    rfl

/-- The assignments of idle ranks for a request. -/
def assignAll (request : BeginRequest) (world : ℕ) : ℕ → List ServingRank → List Placed
  | _, [] => []
  | index, serving :: rest =>
    (assign request world index serving, .unsent) :: assignAll request world (index + 1) rest

theorem beginRanks_idle (world index : ℕ) (ranks : List ServingRank) (idle :
      ∀ serving ∈ ranks, serving.Idle ∧ serving.nextCommandSequence < u64Max) :
    beginRanks request world index (ranks.map resetRank) =
      ((assignAll request world index ranks).map rank, true) := by
  induction ranks generalizing index with
  | nil => rfl
  | cons serving _ induction =>
    rcases idle serving mem_cons_self with ⟨quiet, _⟩
    have positive := quiet.positive
    have others := induction (index + 1) (fun other listed => idle other (mem_cons_of_mem _ listed))
    rw [map_cons]
    unfold beginRanks
    rw [if_neg]
    · rw [others]
      refine Prod.ext ?_ rfl
      exact congrArg (· :: _) (begun_rank request quiet)
    change ¬ (serving.nextCommandSequence = 0 ∨ serving.nextCommandSequence = u64Max)
    omega

theorem assignAll_facts {request : BeginRequest} {ranks : List ServingRank}
    (accepted : request.Accepted)
    (idle : ∀ serving ∈ ranks, serving.Idle ∧ serving.nextCommandSequence < u64Max)
    (aligned : Aligned request.plan.engineEpoch world index (sessions ranks)) :
    ∀ member ∈ assignAll request world index ranks, member.1.Valid ∧ member.2 = .unsent := by
  induction ranks generalizing index with
  | nil => exact fun _ member => (not_mem_nil member).elim
  | cons serving _ induction =>
    intro member listed
    rcases mem_cons.mp listed with rfl | later
    · rcases idle serving mem_cons_self with ⟨quiet, room⟩
      rcases aligned.head with ⟨rank, size, epoch⟩
      exact ⟨assign_valid accepted quiet room rank size epoch, rfl⟩
    exact induction (fun other inside => idle other (mem_cons_of_mem _ inside))
      aligned.tail member later

theorem sessions_assignAll (world index : ℕ) (ranks : List ServingRank) :
    sessions ((assignAll request world index ranks).map rank) = sessions ranks := by
  induction ranks generalizing index with
  | nil => rfl
  | cons serving _ induction => exact congrArg (serving.session :: ·) (induction (index + 1))

/-! ## Asking for a cancellation -/

theorem asked_rank (assignment : Assignment) (early : stage = .sent ∨ stage = .running) :
    { assignment.rank stage with
      nextCommandSequence := (assignment.rank stage).nextCommandSequence + 1
      cancel :=
        { command := (assignment.rank stage).execute.command.map (cancelCommand
          (assignment.rank stage).nextCommandSequence) } } =
      assignment.rank stage.ask := by
  rcases early with rfl | rfl <;> rfl

theorem cancelRanks_early (placed : List Placed)
    (early : ∀ member ∈ placed, member.2 = .sent ∨ member.2 = .running)
    (room : ∀ member ∈ placed, member.rank.nextCommandSequence < u64Max) :
    cancelRanks ((placed.map rank).map fun serving => { serving with cancel := {} }) =
      ((placed.map (move ask)).map rank, true) := by
  induction placed with
  | nil => rfl
  | cons member _ induction =>
    have others := induction (fun other listed => early other (mem_cons_of_mem _ listed))
      (fun other listed => room other (mem_cons_of_mem _ listed))
    have space := room member mem_cons_self
    have stage := early member mem_cons_self
    have positive : 0 < member.rank.nextCommandSequence := by
      unfold rank Assignment.rank
      dsimp only
      split <;> omega
    rw [map_cons, map_cons]
    unfold cancelRanks
    rw [if_neg]
    · rw [others]
      refine Prod.ext ?_ rfl
      exact congrArg (· :: _) (asked_rank member.1 stage)
    change ¬ (member.rank.nextCommandSequence = 0 ∨ member.rank.nextCommandSequence = u64Max)
    omega

/-! ## Advancing the coordinator -/

/-- A list of ranks has moved down, or not at all. -/
structure Descent (flag : Bool) (before after : List Placed) : Prop where
  lighter : after = before ∨ total after < total before
  facts : (∀ member ∈ before, member.1.Valid ∧ member.2.asked = flag) →
    ∀ member ∈ after, member.1.Valid ∧ member.2.asked = flag
  sessions : after.map (fun member => member.1.session) = before.map fun member => member.1.session

variable {after : List Placed}

theorem Descent.of_between (between : Between step before after) (descends : Descends step)
    (asked : ∀ stage, (step stage).asked = stage.asked) (flag : Bool) :
    Descent flag before after :=
  ⟨between.lighter descends, between.facts asked, between.sessions⟩

theorem Descent.trans (first : Descent flag before middle)
    (second : Descent flag middle after) : Descent flag before after where
  lighter := by
    rcases first.lighter with rfl | less
    · exact second.lighter
    refine .inr ?_
    rcases second.lighter with rfl | less'
    · exact less
    · exact Nat.lt_trans less' less
  facts earlier := second.facts (first.facts earlier)
  sessions := second.sessions.trans first.sessions

/-- If nothing has moved in the end, nothing has moved in between. -/
theorem Descent.middle_eq (first : Descent flag before middle)
    (second : Descent flag middle before) : middle = before := by
  rcases first.lighter with same | less
  · exact same
  rcases second.lighter with same | less'
  · exact same.symm
  · exact (Nat.lt_asymm less less').elim

/-- What the coordinator reports and how it leaves its flags. -/
inductive Reports (coordinator : DeepSeekRankServingCoordinator) (after : List Placed) :
    DeepSeekRankServingCoordinator × Result Unit → Prop where
  | going (unfinished : ∃ member ∈ after, member.2.finished = false) : Reports coordinator after
      ({ coordinator with ranks := after.map Placed.rank }, .ok ())
  | complete (finished : ∀ member ∈ after, member.2.finished = true) : Reports coordinator after
      ({ coordinator with
        ranks := after.map Placed.rank
        active := false
        complete := true }, .ok ())

theorem Reports.ranks (reports : Reports coordinator after answer) :
    answer.1.ranks = after.map rank := by
  cases reports <;> rfl

/-- All channels of the ranks are available. -/
def Ready (world : ℕ) (available : ℕ → Bool) : Prop := ∀ index < world, available index = true

theorem pollCompletions_ranks (coordinator : DeepSeekRankServingCoordinator)
    (placed : List Placed) (pollable : ℕ → Bool) (flag : Bool) :
    ∃ after, Reports coordinator after (pollCompletions
        { coordinator with ranks := placed.map rank }
        pollable) ∧
      Descent flag placed after ∧
      (Ready placed.length pollable → after = placed.map (move poll)) := by
  rcases pollRanks_ranks pollable placed 0 with ⟨after, looped, between, complete⟩
  refine ⟨after, ?_, .of_between between descends_poll asked_poll flag, ?_⟩
  · unfold pollCompletions
    rw [looped]
    dsimp only
    split
    next all =>
      apply Reports.complete
      intro member listed
      rw [all_map, all_eq_true] at all
      exact all member listed
    next open_ =>
      apply Reports.going
      rw [all_map, Bool.not_eq_true, all_eq_false] at open_
      rcases open_ with ⟨member, listed, unfinished⟩
      exact ⟨member, listed, Bool.not_eq_true _ |>.mp unfinished⟩
  · intro ready
    apply complete
    intro other _ inside
    exact ready other (by omega)

/-- A list in which every member has taken a step has settled. -/
theorem settled_of_map_eq (same : placed.map (move step) = placed) :
    ∀ member ∈ placed, step member.2 = member.2 := by
  intro member listed
  have kept : placed.map (move step) = placed.map id := by rw [map_id, same]
  exact congrArg Prod.snd (map_inj_left.mp kept member listed)

theorem advance_ranks (healthy : coordinator.poisoned = false) (active : coordinator.active = true)
    (ranks : coordinator.ranks = placed.map rank)
    (facts : ∀ member ∈ placed, member.1.Valid ∧ member.2.asked = coordinator.cancellationRequested)
    (sendable pollable : ℕ → Bool) :
    ∃ after, Reports coordinator after (coordinator.advance sendable pollable) ∧
      Descent coordinator.cancellationRequested placed after ∧
      (Ready placed.length sendable → Ready placed.length pollable → after = placed →
        ∀ member ∈ placed, member.2.awaitsCoordinator = false) := by
  have executes : ∀ member ∈ placed, Assignment.Sends .execute member.rank
      (move sendExecute member).rank :=
    fun member listed => (facts member listed).1.sends_execute member.2
  rcases sendPending_ranks sendable placed executes 0 with ⟨sent, looped, between, complete⟩
  have down : Descent coordinator.cancellationRequested placed sent :=
    .of_between between descends_sendExecute asked_sendExecute _
  have sentFacts := down.facts facts
  have allSent (ready : Ready placed.length sendable) : sent = placed.map (move sendExecute) :=
    complete fun other _ inside => ready other (by omega)
  have length : sent.length = placed.length := by simpa using congrArg length down.sessions
  unfold advance
  rw [if_neg (by simp [healthy]), if_neg (by simp [active]), ranks, looped]
  dsimp only
  split
  next waiting =>
    rw [any_map, any_eq_true] at waiting
    rcases waiting with ⟨member, listed, unsent⟩
    have early : member.2 = .unsent := by simpa [rank, Assignment.rank] using unsent
    refine ⟨sent, .going ⟨member, listed, by rw [early]; rfl⟩, down, ?_⟩
    intro ready _ _
    rw [allSent ready] at listed
    rcases mem_map.mp listed with ⟨origin, _, rfl⟩
    have moved : origin.2.sendExecute = .unsent := early
    cases stage : origin.2 <;> rw [stage] at moved <;> cases moved
  next =>
    split
    next plain =>
      rcases pollCompletions_ranks coordinator sent pollable coordinator.cancellationRequested with
        ⟨after, reports, polled, all⟩
      refine ⟨after, reports, down.trans polled, ?_⟩
      rintro ready arrives rfl member listed
      have kept : sent = after := down.middle_eq polled
      have executed := settled_of_map_eq ((allSent ready).symm.trans kept) member listed
      have polls : sent.map (move poll) = after := (all (length ▸ arrives)).symm
      rw [kept] at polls
      have received := settled_of_map_eq polls member listed
      have unasked := (facts member listed).2
      rw [Bool.not_eq_true] at plain
      rw [plain] at unasked
      have nothing := sendCancel_of_unasked unasked
      simp [awaitsCoordinator, executed, received, nothing]
    rename_i cancelling
    rw [not_not] at cancelling
    have cancels : ∀ member ∈ sent, Assignment.Sends .cancel member.rank
        (move sendCancel member).rank :=
      fun member listed => (sentFacts member listed).1.sends_cancel member.2
    rcases sendPending_ranks sendable sent cancels 0 with ⟨stopped, looped', between', complete'⟩
    have down' : Descent coordinator.cancellationRequested sent stopped :=
      .of_between between' descends_sendCancel asked_sendCancel _
    have stoppedFacts := down'.facts sentFacts
    have allStopped (ready : Ready placed.length sendable) : stopped = sent.map (move sendCancel) :=
      complete' fun other _ inside => ready other (by omega)
    have length' : stopped.length = sent.length := by
      simpa using congrArg List.length down'.sessions
    rw [looped']
    dsimp only
    split
    next waiting =>
      rw [any_map, any_eq_true] at waiting
      rcases waiting with ⟨member, listed, unsent⟩
      have asked := (stoppedFacts member listed).2
      rw [cancelling] at asked
      have early := member.1.unsent_of_asked asked unsent
      refine ⟨stopped, .going ⟨member, listed, early.1⟩, down.trans down', ?_⟩
      intro ready _ _
      rw [allStopped ready] at listed
      rcases mem_map.mp listed with ⟨origin, _, rfl⟩
      exact (early.2 (sendCancel_sendCancel origin.2)).elim
    next =>
      rcases pollCompletions_ranks coordinator stopped pollable
        coordinator.cancellationRequested with
        ⟨after, reports, polled, all⟩
      refine ⟨after, reports, (down.trans down').trans polled, ?_⟩
      rintro ready arrives rfl member listed
      have kept : sent = after := down.middle_eq (down'.trans polled)
      have kept' : stopped = after := (down.trans down').middle_eq polled
      have executed := settled_of_map_eq ((allSent ready).symm.trans kept) member listed
      have cancelled : sent.map (move sendCancel) = after := (allStopped ready).symm.trans kept'
      rw [kept] at cancelled
      have polls : stopped.map (move poll) = after := (all (length' ▸ length ▸ arrives)).symm
      rw [kept'] at polls
      have nothing := settled_of_map_eq cancelled member listed
      have received := settled_of_map_eq polls member listed
      simp [awaitsCoordinator, executed, received, nothing]

/-! ## Every reached state -/

/--
The steps without the race: a cancel takes effect before any rank has
finished, no execution finishes before its cancel has arrived, and no
sequence number is used up.
-/
def Permitted (coordinator : DeepSeekRankServingCoordinator) : Action → Prop
  | .begin _ =>
    coordinator.active = false → ∀ serving ∈ coordinator.ranks, serving.nextCommandSequence < u64Max
  | .cancel requestId requestGeneration =>
    (coordinator.cancel requestId requestGeneration).1 ≠ coordinator →
      ∀ serving ∈ coordinator.ranks,
        serving.unfinished = true ∧ serving.nextCommandSequence < u64Max
  | .advance _ _ => True
  | .work index receives _ terminal =>
    terminal = true → ∀ serving ∈ coordinator.ranks[index]?, serving.overtaken receives = false

/-- A plan is being served. -/
structure Serving (coordinator : DeepSeekRankServingCoordinator) (placed : List Placed) : Prop where
  ranks : coordinator.ranks = placed.map Placed.rank
  facts : ∀ member ∈ placed, member.1.Valid ∧ member.2.asked = coordinator.cancellationRequested
  unfinished : ∃ member ∈ placed, member.2.finished = false

/-- What holds of every reached state. -/
structure Sound (coordinator : DeepSeekRankServingCoordinator) : Prop where
  healthy : coordinator.poisoned = false
  nonempty : coordinator.ranks ≠ []
  aligned : Aligned coordinator.engineEpoch coordinator.ranks.length 0 (sessions coordinator.ranks)
  serving : coordinator.active = true → ∃ placed, Serving coordinator placed
  idle : coordinator.active = false → ∀ serving ∈ coordinator.ranks, serving.Idle

theorem sessions_ranks (placed : List Placed) : sessions (placed.map rank) =
      placed.map fun member => member.1.session := by
  unfold sessions
  rw [map_map]
  rfl

/-- The sessions decide the epoch and the order of the ranks. -/
theorem Sound.realign (sound : Sound coordinator) (after : DeepSeekRankServingCoordinator)
    (same : sessions after.ranks = sessions coordinator.ranks) :
    after.ranks ≠ [] ∧ Aligned after.engineEpoch after.ranks.length 0 (sessions after.ranks) := by
  have length : after.ranks.length = coordinator.ranks.length := by
    simpa [sessions] using congrArg length same
  have epoch : after.engineEpoch = coordinator.engineEpoch := by
    have heads :=
      congrArg (fun all =>
          (all.head?.map DeepSeekRankServingSessionBinding.engineEpoch).getD 0) same
    simpa [sessions, engineEpoch, Function.comp_def] using heads
  refine ⟨?_, ?_⟩
  · intro empty
    apply sound.nonempty
    rw [empty] at length
    exact eq_nil_of_length_eq_zero length.symm
  · rw [same, length, epoch]
    exact sound.aligned

/-- How many moves the plan may still make. -/
def left (coordinator : DeepSeekRankServingCoordinator) : ℕ :=
  (coordinator.ranks.map fun serving => serving.stage.weight).sum

theorem left_ranks (ranks : coordinator.ranks = placed.map rank) :
    coordinator.left = total placed := by
  unfold left
  rw [ranks, map_map]
  congr 1
  apply map_congr_left
  intro member _
  exact congrArg weight (member.1.stage_rank member.2)

/-- What one permitted step does. -/
structure Steps (coordinator after : DeepSeekRankServingCoordinator) : Prop where
  sound : Sound after
  sessions : sessions after.ranks = sessions coordinator.ranks
  lighter : coordinator.active = true →
    after.ranks = coordinator.ranks ∨ after.left < coordinator.left
  outcome : coordinator.active = true → after.active = true ∨ after.complete = true

theorem Steps.unchanged (sound : Sound coordinator) : Steps coordinator coordinator :=
  ⟨sound, rfl, fun _ => .inl rfl, .inl⟩

/-- A plan that goes on, with ranks that have moved down. -/
theorem Steps.moved {next : List Placed} (sound : Sound coordinator)
    (serving : Serving coordinator placed) (active : coordinator.active = true)
    (sessions : next.map (fun member => member.1.session) =
        placed.map fun member => member.1.session)
    (facts : ∀ member ∈ next, member.1.Valid ∧ member.2.asked = flag)
    (unfinished : ∃ member ∈ next, member.2.finished = false)
    (lighter : next = placed ∨ total next < total placed) :
    Steps coordinator
      { coordinator with ranks := next.map rank, cancellationRequested := flag } := by
  have same : DeepSeekRankServingCoordinator.sessions (next.map rank) =
      DeepSeekRankServingCoordinator.sessions coordinator.ranks := by
    rw [serving.ranks, sessions_ranks, sessions_ranks, sessions]
  have realigned := sound.realign
      { coordinator with ranks := next.map rank, cancellationRequested := flag } same
  refine ⟨⟨sound.healthy, realigned.1, realigned.2, ?_, ?_⟩, same, ?_, ?_⟩
  · exact fun _ => ⟨next, rfl, facts, unfinished⟩
  · intro inactive
    rw [active] at inactive
    cases inactive
  · intro _
    rcases lighter with rfl | less
    · exact .inl serving.ranks.symm
    refine .inr ?_
    rw [left_ranks rfl, left_ranks serving.ranks]
    exact less
  · exact fun _ => .inl active

theorem begin_steps (sound : Sound coordinator) (request : BeginRequest)
    (permitted : Permitted coordinator (.begin request)) :
    Steps coordinator (coordinator.begin request).1 := by
  unfold begin
  split
  · exact .unchanged sound
  rename_i accepted
  simp only [not_or] at accepted
  rcases accepted with
    ⟨_, inactive, id, generation, epoch, sequence, tokens, sequences, phase, input, output⟩
  have quiet : coordinator.active = false := Bool.not_eq_true _ |>.mp inactive
  have valid : request.Accepted :=
    ⟨id, generation, sequence, tokens, sequences, phase, input, output⟩
  have idle : ∀ serving ∈ coordinator.ranks, serving.Idle ∧ serving.nextCommandSequence < u64Max :=
    fun serving listed => ⟨sound.idle quiet serving listed, permitted quiet serving listed⟩
  have aligned : Aligned request.plan.engineEpoch coordinator.ranks.length 0
      (sessions coordinator.ranks) := by
    rw [not_not.mp epoch]
    exact sound.aligned
  have facts := assignAll_facts valid idle aligned
  rw [beginRanks_idle request _ 0 coordinator.ranks idle]
  have realigned := sound.realign
      { coordinator with
        ranks := (assignAll request coordinator.ranks.length 0 coordinator.ranks).map rank
        cancellationRequested := false
        complete := false
        active := true }
      (sessions_assignAll request _ 0 coordinator.ranks)
  refine ⟨⟨sound.healthy, realigned.1, realigned.2, ?_, nofun⟩,
    sessions_assignAll request _ 0 coordinator.ranks, ?_, ?_⟩
  · refine fun _ => ⟨_, rfl, ?_, ?_⟩
    · intro member listed
      rcases facts member listed with ⟨valid, unsent⟩
      rw [unsent]
      exact ⟨valid, rfl⟩
    · have nonempty := realigned.1
      rcases exists_mem_of_ne_nil _ (fun empty => nonempty (map_eq_nil_iff.mpr empty)) with
        ⟨member, listed⟩
      refine ⟨member, listed, ?_⟩
      rw [(facts member listed).2]
      rfl
  · exact fun active => (inactive active).elim
  · exact fun _ => .inl rfl

theorem cancel_steps (sound : Sound coordinator) (requestId requestGeneration : ℕ)
    (permitted : Permitted coordinator (.cancel requestId requestGeneration)) :
    Steps coordinator (coordinator.cancel requestId requestGeneration).1 := by
  by_cases same : (coordinator.cancel requestId requestGeneration).1 = coordinator
  · rw [same]
    exact .unchanged sound
  have allowed := permitted same
  unfold cancel
  split
  · exact .unchanged sound
  split
  · exact .unchanged sound
  rename_i accepted
  simp only [not_or] at accepted
  rcases accepted with ⟨_, active, fresh, _, _⟩
  rw [not_not] at active
  rw [Bool.not_eq_true] at fresh
  split
  · exact .unchanged sound
  rename_i delivered
  rcases sound.serving active with ⟨placed, serving⟩
  have known : ∀ member ∈ placed, member.rank ∈ coordinator.ranks := by
    intro member listed
    rw [serving.ranks]
    exact mem_map_of_mem listed
  have early : ∀ member ∈ placed, member.2 = .sent ∨ member.2 = .running := by
    intro member listed
    refine member.1.early_stage ((serving.facts member listed).2.trans fresh) ?_
      (allowed member.rank (known member listed)).1
    rw [Bool.not_eq_true, any_eq_false] at delivered
    have sent : member.rank.execute.sent = true := by
      simpa using delivered member.rank (known member listed)
    exact sent
  have room : ∀ member ∈ placed, member.rank.nextCommandSequence < u64Max := fun member listed =>
      (allowed member.rank (known member listed)).2
  rw [serving.ranks, cancelRanks_early placed early room]
  rcases serving.unfinished with ⟨member, listed, _⟩
  refine Steps.moved sound serving active ?_ ?_ ?_ (.inr ?_)
  · exact (Placed.Between.all ask placed).sessions
  · intro asked inside
    rcases mem_map.mp inside with ⟨origin, before, rfl⟩
    refine ⟨(serving.facts origin before).1, ?_⟩
    rcases early origin before with stage | stage <;> simp [move, stage, ask, asked]
  · refine ⟨_, mem_map_of_mem listed, ?_⟩
    rcases early member listed with stage | stage <;> simp [move, stage, ask, finished]
  · apply total_map_lt descends_ask listed
    rcases early member listed with stage | stage <;> simp [stage, ask]

theorem advance_steps (sound : Sound coordinator) (sendable pollable : ℕ → Bool) :
    Steps coordinator (coordinator.advance sendable pollable).1 := by
  by_cases active : coordinator.active = true
  · rcases sound.serving active with ⟨_, serving⟩
    rcases advance_ranks sound.healthy active serving.ranks serving.facts
      sendable pollable with ⟨after, reports, descent, _⟩
    generalize coordinator.advance sendable pollable = answer at reports
    cases reports with
    | going unfinished =>
      exact Steps.moved sound serving active descent.sessions
        (descent.facts serving.facts) unfinished descent.lighter
    | complete finished =>
      have same : sessions (after.map rank) = sessions coordinator.ranks := by
        rw [serving.ranks, sessions_ranks, sessions_ranks, descent.sessions]
      have realigned := sound.realign
          { coordinator with
            ranks := after.map rank
            active := false
            complete := true } same
      refine ⟨⟨sound.healthy, realigned.1, realigned.2, nofun, ?_⟩, same, ?_, fun _ => .inr rfl⟩
      · intro _ rank listed
        rcases mem_map.mp listed with ⟨member, inside, rfl⟩
        exact member.1.idle_rank (finished member inside)
      · intro _
        rcases descent.lighter with rfl | less
        · exact .inl serving.ranks.symm
        refine .inr ?_
        rw [left_ranks rfl, left_ranks serving.ranks]
        exact less
  have same : (coordinator.advance sendable pollable).1 = coordinator := by
    unfold advance
    rw [if_neg (by simp [sound.healthy]), if_pos (by simp [active])]
  rw [same]
  exact .unchanged sound

theorem placed_at (serving : Serving coordinator placed) {index : ℕ}
    {rank : ServingRank} (found : coordinator.ranks[index]? = some rank) :
    ∃ member, placed[index]? = some member ∧ member.rank = rank := by
  rw [serving.ranks, getElem?_map] at found
  exact Option.map_eq_some_iff.mp found

variable (sound : Sound coordinator)

include sound

theorem work_steps {index : ℕ}
    (permitted : Permitted coordinator (.work index receives sends terminal)) :
    Steps coordinator (coordinator.execute (.work index receives sends terminal)).1 := by
  unfold execute
  dsimp only
  split
  · exact .unchanged sound
  rename_i rank found
  by_cases active : coordinator.active = true
  · rcases sound.serving active with ⟨placed, serving⟩
    rcases placed_at serving found with ⟨member, listed, rfl⟩
    have facts := serving.facts member (mem_of_getElem? listed)
    have reached : terminal = true → member.2.overtaken receives = false := by
      intro terminates
      rw [← facts.1.overtaken_rank]
      exact permitted terminates _ found
    have advanced : (member.rank.advance receives sends terminal).1 =
        (move (worked receives sends terminal) member).rank :=
      facts.1.advance_rank member.2 receives sends terminal reached
    have between := Placed.Between.set (worked receives sends terminal) listed
    have descent : Descent coordinator.cancellationRequested placed _ :=
      .of_between between descends_worked asked_worked _
    rw [advanced, serving.ranks, ← map_set]
    refine Steps.moved sound serving active descent.sessions
      (descent.facts serving.facts) ?_ descent.lighter
    rcases serving.unfinished with ⟨_, inside, unfinished⟩
    exact Placed.Between.unfinished between finished_worked inside unfinished
  have idle := sound.idle (Bool.not_eq_true _ |>.mp active) rank (List.mem_of_getElem? found)
  rcases List.getElem_of_getElem? found with ⟨_, rfl⟩
  rw [idle.advance, set_getElem_self]
  exact .unchanged sound

theorem execute_steps (permitted : Permitted coordinator action) :
    Steps coordinator (coordinator.execute action).1 := by
  cases action with
  | begin request => exact begin_steps sound request permitted
  | cancel requestId requestGeneration =>
    exact cancel_steps sound requestId requestGeneration permitted
  | advance sendable pollable => exact advance_steps sound sendable pollable
  | work => exact work_steps sound permitted

/-- Without a plan only `begin` does anything. -/
theorem execute_inactive (inactive : coordinator.active = false)
    (other : ∀ request, action ≠ .begin request) :
    (coordinator.execute action).1 = coordinator := by
  cases action with
  | begin request => exact (other request rfl).elim
  | cancel =>
    unfold execute cancel
    dsimp only
    split
    next => rfl
    next => rw [if_pos (.inr (.inl (by simp [inactive])))]
  | advance =>
    unfold execute advance
    dsimp only
    rw [if_neg (by simp [sound.healthy]), if_pos (by simp [inactive])]
  | work =>
    unfold execute
    dsimp only
    split
    next => rfl
    next rank found =>
      have idle := sound.idle inactive rank (List.mem_of_getElem? found)
      rcases List.getElem_of_getElem? found with ⟨_, rfl⟩
      rw [idle.advance, set_getElem_self]

end DeepSeekRankServingCoordinator

end Pih
