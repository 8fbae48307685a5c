import Pih.DeepSeek.RankServing
import Mathlib.Data.List.Basic

/-!
# The stages of a rank

While a plan is served, everything that the coordinator, the channels and the
worker keep for a rank follows from one stage.  `Assignment.rank` is the rank
in a stage, and each call of the source moves the stage: the worker by
`Stage.worked`, the coordinator by `Stage.sendExecute`, `Stage.sendCancel`,
`Stage.poll` and `Stage.ask`.  A stage whose execution would finish before the
cancel arrives has no move for that.
-/

namespace Pih

open DeepSeekRankServingPlanWorkerExecutor DeepSeekRankServingWorkerGate
  DeepSeekRankServingWorkerLoop List

/-- Where the execution of a rank and its cancel command are. -/
inductive Stage where
  | unsent
  | sent
  | running
  | pending
  | delivered
  | received
  | sentAsked
  | runningAsked
  | sentCancel
  | runningCancel
  | cancelling
  | pendingCancelled
  | deliveredCancelled
  | receivedCancelled
deriving DecidableEq, Repr

namespace Stage

/-- The coordinator has asked for a cancellation. -/
def asked : Stage → Bool
  | .unsent => false
  | .sent => false
  | .running => false
  | .pending => false
  | .delivered => false
  | .received => false
  | _ => true

/-- One call of the worker. -/
def worked (receives sends terminal : Bool) : Stage → Stage
  | .sent =>
    if receives then if terminal then .pending else .running
    else .sent
  | .running => if terminal then .pending else .running
  | .pending => if sends then .delivered else .pending
  | .sentAsked => if receives then .runningAsked else .sentAsked
  | .sentCancel => if receives then .runningCancel else .sentCancel
  | .runningCancel =>
    if receives then if terminal then .pendingCancelled else .cancelling
    else .runningCancel
  | .cancelling => if terminal then .pendingCancelled else .cancelling
  | .pendingCancelled => if sends then .deliveredCancelled else .pendingCancelled
  | stage => stage

/-- An execution that the cancel has not reached when the worker polls. -/
def overtaken (receives : Bool) : Stage → Bool
  | .sentAsked => receives
  | .runningAsked => true
  | .sentCancel => receives
  | .runningCancel => ¬ receives
  | _ => false

def sendExecute : Stage → Stage
  | .unsent => .sent
  | stage => stage

def sendCancel : Stage → Stage
  | .sentAsked => .sentCancel
  | .runningAsked => .runningCancel
  | stage => stage

def poll : Stage → Stage
  | .delivered => .received
  | .deliveredCancelled => .receivedCancelled
  | stage => stage

def ask : Stage → Stage
  | .sent => .sentAsked
  | .running => .runningAsked
  | stage => stage

/-- The completion has arrived. -/
def finished : Stage → Bool
  | .received => true
  | .receivedCancelled => true
  | _ => false

end Stage

/-- What a rank is asked to do, and its last command before that. -/
structure Assignment where
  session : DeepSeekRankServingSessionBinding
  base : ℕ
  requestId : ℕ
  requestGeneration : ℕ
  plan : DeepSeekPipelinePlanDescriptor
  inputLeaseIdentity : ℕ
  outputLeaseIdentity : ℕ

namespace Assignment

open DeepSeekRankServingWorkerGate

/-- The assignment passes the checks of a gate. -/
structure Valid (assignment : Assignment) : Prop where
  room : assignment.base + 1 < u64Max
  requestId : assignment.requestId ≠ 0
  requestGeneration : assignment.requestGeneration ≠ 0
  epoch : assignment.plan.engineEpoch = assignment.session.engineEpoch
  planSequence : assignment.plan.planSequence ≠ 0
  phase : validPhase assignment.plan.phase = true
  tokens : assignment.plan.tokenCount ≠ 0
  sequences : assignment.plan.sequenceCount ≠ 0
  input : assignment.session.rank = 0 ↔ assignment.inputLeaseIdentity ≠ 0
  output : assignment.session.rank + 1 = assignment.session.worldSize ↔
    assignment.outputLeaseIdentity ≠ 0

variable (assignment : Assignment)

def execution : DeepSeekRankServingCommand where
  session := assignment.session
  commandSequence := assignment.base + 1
  requestId := assignment.requestId
  requestGeneration := assignment.requestGeneration
  plan := assignment.plan
  inputLeaseIdentity := assignment.inputLeaseIdentity
  outputLeaseIdentity := assignment.outputLeaseIdentity

def cancellation : DeepSeekRankServingCommand :=
  DeepSeekRankServingCoordinator.cancelCommand (assignment.base + 2) assignment.execution

def completion (cancelled : Bool) : DeepSeekRankServingCompletion :=
  completionOf assignment.execution cancelled

/-- A gate without an execution. -/
def idleGate (last : ℕ) : DeepSeekRankServingWorkerGate where
  session := assignment.session
  lastCommandSequence := last

/-- A gate with the execution, not cancelled. -/
def openGate : DeepSeekRankServingWorkerGate where
  session := assignment.session
  lastCommandSequence := assignment.base + 1
  activeExecution := some assignment.execution

/-- A gate with the execution and its cancel command. -/
def cancelledGate : DeepSeekRankServingWorkerGate where
  session := assignment.session
  lastCommandSequence := assignment.base + 2
  activeExecution := some assignment.execution
  cancellationCommandSequence := some (assignment.base + 2)

def coordinatorGate : Stage → DeepSeekRankServingWorkerGate
  | .unsent => assignment.idleGate assignment.base
  | .received => assignment.idleGate (assignment.base + 1)
  | .receivedCancelled => assignment.idleGate (assignment.base + 2)
  | .sent => assignment.openGate
  | .running => assignment.openGate
  | .pending => assignment.openGate
  | .delivered => assignment.openGate
  | .sentAsked => assignment.openGate
  | .runningAsked => assignment.openGate
  | _ => assignment.cancelledGate

def workerGate : Stage → DeepSeekRankServingWorkerGate
  | .unsent => assignment.idleGate assignment.base
  | .sent => assignment.idleGate assignment.base
  | .sentAsked => assignment.idleGate assignment.base
  | .sentCancel => assignment.idleGate assignment.base
  | .running => assignment.openGate
  | .runningAsked => assignment.openGate
  | .runningCancel => assignment.openGate
  | .cancelling => assignment.cancelledGate
  | .pending => assignment.idleGate (assignment.base + 1)
  | .delivered => assignment.idleGate (assignment.base + 1)
  | .received => assignment.idleGate (assignment.base + 1)
  | _ => assignment.idleGate (assignment.base + 2)

def executor : Stage → DeepSeekRankServingPlanWorkerExecutor
  | .running => { activeCommand := some assignment.execution }
  | .runningAsked => { activeCommand := some assignment.execution }
  | .runningCancel => { activeCommand := some assignment.execution }
  | .cancelling => { activeCommand := some assignment.execution, cancellationRequested := true }
  | _ => {}

def pendingCompletion : Stage → Option DeepSeekRankServingCompletion
  | .pending => some (assignment.completion false)
  | .pendingCancelled => some (assignment.completion true)
  | _ => none

def cancelOutbox : Stage → OutgoingCommand
  | .sentAsked => { command := some assignment.cancellation }
  | .runningAsked => { command := some assignment.cancellation }
  | stage =>
    if stage.asked then { command := some assignment.cancellation, sent := true }
    else {}

def commands : Stage → List DeepSeekRankServingCommand
  | .sent => [assignment.execution]
  | .sentAsked => [assignment.execution]
  | .sentCancel => [assignment.execution, assignment.cancellation]
  | .runningCancel => [assignment.cancellation]
  | _ => []

def completions : Stage → List DeepSeekRankServingCompletion
  | .delivered => [assignment.completion false]
  | .deliveredCancelled => [assignment.completion true]
  | _ => []

/-- The rank in a stage of its assignment. -/
def rank (stage : Stage) : ServingRank where
  session := assignment.session
  gate := assignment.coordinatorGate stage
  nextCommandSequence := if stage.asked then assignment.base + 3 else assignment.base + 2
  execute := { command := some assignment.execution, sent := stage ≠ .unsent }
  cancel := assignment.cancelOutbox stage
  completionReceived := stage.finished
  commands := assignment.commands stage
  completions := assignment.completions stage
  worker :=
    { gate := assignment.workerGate stage
      executor := assignment.executor stage
      pendingCompletion := assignment.pendingCompletion stage }

variable {assignment}

/-! ## The gates -/

@[simp]
theorem samePlan_self (plan : DeepSeekPipelinePlanDescriptor) : samePlan plan plan = true := by
  simp [samePlan]

theorem Valid.owns (valid : assignment.Valid) :
    (assignment.idleGate assignment.base).acceptExecute assignment.execution =
      (assignment.openGate, .ok ()) := by
  have input : decide (assignment.session.rank = 0) = decide (assignment.inputLeaseIdentity ≠ 0) :=
    decide_eq_decide.mpr valid.input
  have output : decide (assignment.session.rank + 1 = assignment.session.worldSize) =
      decide (assignment.outputLeaseIdentity ≠ 0) :=
    decide_eq_decide.mpr valid.output
  unfold acceptExecute
  rw [if_neg]
  · rfl
  rintro (active | target | left | right)
  · cases active
  · exact target rfl
  · exact left input
  · exact right output

/-- Both gates let the execution in. -/
theorem Valid.accept_execution (valid : assignment.Valid) :
    (assignment.idleGate assignment.base).accept assignment.execution =
      (assignment.openGate, .ok ()) := by
  have room := valid.room
  have full : ¬ assignment.base = u64Max := by omega
  have envelope : (assignment.idleGate assignment.base).validateEnvelope
      assignment.execution = .ok () := by
    simp [validateEnvelope, idleGate,
      execution, valid.requestId, valid.requestGeneration, valid.epoch,
      valid.planSequence, valid.phase, valid.tokens, valid.sequences, full]
  unfold accept
  rw [envelope]
  exact valid.owns

theorem Valid.accept_cancellation (valid : assignment.Valid) :
    assignment.openGate.accept assignment.cancellation = (assignment.cancelledGate, .ok ()) := by
  have room := valid.room
  have full : ¬ assignment.base + 1 = u64Max := by omega
  simp [accept, validateEnvelope, acceptCancel, openGate, cancelledGate,
    cancellation, execution, DeepSeekRankServingCoordinator.cancelCommand,
    valid.requestId, valid.requestGeneration, valid.epoch,
    valid.planSequence, valid.phase, valid.tokens, valid.sequences, full]

theorem complete_openGate : assignment.openGate.complete (assignment.completion false) =
      (assignment.idleGate (assignment.base + 1), .ok ()) := by
  simp [complete, checkOutcome, openGate, idleGate, completion, execution, completionOf]

theorem complete_cancelledGate : assignment.cancelledGate.complete (assignment.completion true) =
      (assignment.idleGate (assignment.base + 2), .ok ()) := by
  simp [complete, checkOutcome, cancelledGate, idleGate, completion, execution, completionOf]

/-! ## The worker -/

variable (assignment) in
/-- A worker that executes the assignment. -/
def runningWorker : DeepSeekRankServingWorkerLoop where
  gate := assignment.openGate
  executor := { activeCommand := some assignment.execution }

variable (assignment) in
/-- A worker that has been told to cancel the assignment. -/
def cancellingWorker : DeepSeekRankServingWorkerLoop where
  gate := assignment.cancelledGate
  executor := { activeCommand := some assignment.execution, cancellationRequested := true }

theorem Valid.handle_execution (valid : assignment.Valid) : handle
        { gate := assignment.idleGate assignment.base }
        assignment.execution =
      (assignment.runningWorker, .ok ()) := by
  unfold handle
  rw [valid.accept_execution]
  rfl

theorem Valid.handle_cancellation (valid : assignment.Valid) :
    assignment.runningWorker.handle assignment.cancellation =
      (assignment.cancellingWorker, .ok ()) := by
  have cancels : DeepSeekRankServingPlanWorkerExecutor.cancel
      { activeCommand := some assignment.execution } assignment.cancellation =
        ({ activeCommand := some assignment.execution
           cancellationRequested := true }, .ok ()) := by
    simp [DeepSeekRankServingPlanWorkerExecutor.cancel, cancellation,
      DeepSeekRankServingCoordinator.cancelCommand]
  unfold handle runningWorker
  dsimp only
  rw [valid.accept_cancellation]
  rw [show assignment.cancellation.kind = .cancel from rfl]
  rw [cancels]
  rfl

theorem finish_runningWorker : assignment.runningWorker.finish true =
      ({ gate := assignment.idleGate (assignment.base + 1)
         pendingCompletion := some (assignment.completion false) },
        .ok ()) := by
  have completes := @complete_openGate assignment
  unfold completion at completes
  unfold finish runningWorker
  dsimp only [poll]
  rw [if_pos rfl]
  dsimp only
  rw [completes]
  rfl

theorem finish_cancellingWorker : assignment.cancellingWorker.finish true =
      ({ gate := assignment.idleGate (assignment.base + 2)
         pendingCompletion := some (assignment.completion true) },
        .ok ()) := by
  have completes := @complete_cancelledGate assignment
  unfold completion at completes
  unfold finish cancellingWorker
  dsimp only [poll]
  rw [if_pos rfl]
  dsimp only
  rw [completes]
  rfl

/-- A worker without a pending completion that receives a command. -/
theorem advance_received {serving : ServingRank} (commands : serving.commands = command :: later)
    (healthy : serving.worker.failed = false) (idle : serving.worker.pendingCompletion = none)
    (handled : serving.worker.handle command = (worker, .ok ())) (sends terminal : Bool) :
    (serving.advance true sends terminal).1 =
      { serving with commands := later, worker := (worker.finish terminal).1 } := by
  unfold ServingRank.advance
  rw [if_neg (by simp [healthy]), idle]
  rw [commands]
  dsimp only
  rw [handled]

/-- A worker without a pending completion that receives nothing. -/
theorem advance_polled {serving : ServingRank} (nothing : serving.commands = [] ∨ receives = false)
    (healthy : serving.worker.failed = false)
    (idle : serving.worker.pendingCompletion = none) (sends terminal : Bool) :
    (serving.advance receives sends terminal).1 =
      { serving with worker := (serving.worker.finish terminal).1 } := by
  unfold ServingRank.advance
  rw [if_neg (by simp [healthy]), idle]
  dsimp only
  split
  next commands =>
    rcases nothing with empty | deaf
    · rw [empty] at commands
      cases commands
    · cases deaf
  next => rfl

/-- One call of the worker moves the stage. -/
theorem Valid.advance_rank (valid : assignment.Valid) (stage : Stage)
    (receives sends terminal : Bool)
    (reached : terminal = true → stage.overtaken receives = false) :
    ((assignment.rank stage).advance receives sends terminal).1 =
      assignment.rank (stage.worked receives sends terminal) := by
  cases stage with
  | sent =>
    cases receives with
    | false => rfl
    | true =>
      rw [advance_received rfl rfl rfl valid.handle_execution]
      cases terminal with
      | false => rfl
      | true =>
        rw [finish_runningWorker]
        rfl
  | running =>
    cases terminal with
    | false => rfl
    | true =>
      change { assignment.rank .running with
        worker := (assignment.runningWorker.finish true).1 } = _
      rw [finish_runningWorker]
      rfl
  | sentAsked =>
    cases receives with
    | false => rfl
    | true =>
      have going := Bool.eq_false_iff.mpr fun ended => nomatch reached ended
      rw [advance_received rfl rfl rfl valid.handle_execution, going]
      rfl
  | runningAsked =>
    have going := Bool.eq_false_iff.mpr fun ended => nomatch reached ended
    rw [going]
    rfl
  | sentCancel =>
    cases receives with
    | false => rfl
    | true =>
      have going := Bool.eq_false_iff.mpr fun ended => nomatch reached ended
      rw [advance_received rfl rfl rfl valid.handle_execution, going]
      rfl
  | runningCancel =>
    cases receives with
    | false =>
      have going := Bool.eq_false_iff.mpr fun ended => nomatch reached ended
      rw [going]
      rfl
    | true =>
      rw [advance_received rfl rfl rfl valid.handle_cancellation]
      cases terminal with
      | false => rfl
      | true =>
        rw [finish_cancellingWorker]
        rfl
  | cancelling =>
    cases terminal with
    | false => rfl
    | true =>
      change { assignment.rank .cancelling with
        worker := (assignment.cancellingWorker.finish true).1 } = _
      rw [finish_cancellingWorker]
      rfl
  | pending | pendingCancelled => cases sends <;> rfl
  | unsent | delivered | received | deliveredCancelled | receivedCancelled => rfl

/-! ## The coordinator -/

open DeepSeekRankServingCoordinator

/-- A rank has nothing to send, or sending moves its stage. -/
inductive Sends (outbox : Outbox) (serving next : ServingRank) : Prop where
  | nothing (none : ∀ command, outbox.of serving ≠ ⟨some command, false⟩) (same : next = serving)
  | command (command : DeepSeekRankServingCommand) (gate : DeepSeekRankServingWorkerGate)
    (outgoing : outbox.of serving = ⟨some command, false⟩)
    (accepted : serving.gate.accept command = (gate, .ok ()))
    (sent :
      next = outbox.markSent
        { serving with commands := serving.commands ++ [command], gate })

theorem Valid.sends_execute (valid : assignment.Valid) (stage : Stage) :
    Sends .execute (assignment.rank stage) (assignment.rank stage.sendExecute) := by
  cases stage with
  | unsent => exact .command assignment.execution assignment.openGate rfl valid.accept_execution rfl
  | _ => exact .nothing (fun _ same => by cases same) rfl

theorem Valid.sends_cancel (valid : assignment.Valid) (stage : Stage) :
    Sends .cancel (assignment.rank stage) (assignment.rank stage.sendCancel) := by
  cases stage with
  | sentAsked | runningAsked =>
    exact .command assignment.cancellation assignment.cancelledGate rfl
      valid.accept_cancellation rfl
  | _ => exact .nothing (fun _ same => by cases same) rfl

/-- A rank has no completion to receive, or receiving it moves its stage. -/
inductive Polls (serving next : ServingRank) : Prop where
  | nothing (none : serving.completionReceived = true ∨ serving.completions = [])
    (same : next = serving)
  | completion (completion : DeepSeekRankServingCompletion)
    (later : List DeepSeekRankServingCompletion)
    (gate : DeepSeekRankServingWorkerGate)
    (waiting : serving.completionReceived = false)
    (arrived : serving.completions = completion :: later)
    (accepted : serving.gate.complete completion = (gate, .ok ()))
    (received : next = { serving with completions := later, gate, completionReceived := true })

theorem polls_rank (assignment : Assignment) (stage : Stage) :
    Polls (assignment.rank stage) (assignment.rank stage.poll) := by
  cases stage with
  | delivered => exact .completion _ [] _ rfl rfl complete_openGate rfl
  | deliveredCancelled => exact .completion _ [] _ rfl rfl complete_cancelledGate rfl
  | received | receivedCancelled => exact .nothing (.inl rfl) rfl
  | _ => exact .nothing (.inr rfl) rfl

end Assignment

/-- An assignment and the stage it has reached. -/
abbrev Placed := Assignment × Stage

namespace Placed

def rank (placed : Placed) : ServingRank := placed.1.rank placed.2

variable (step : Stage → Stage)

def move (placed : Placed) : Placed := (placed.1, step placed.2)

/-- Some members of a list have taken a step. -/
def Between (before after : List Placed) : Prop := Forall₂
    (fun earlier later => later = earlier ∨ later = move step earlier)
    before after

theorem Between.refl (placed : List Placed) : Between step placed placed := by
  induction placed with
  | nil => exact .nil
  | cons _ _ induction => exact .cons (.inl rfl) induction

theorem Between.all (placed : List Placed) : Between step placed (placed.map (move step)) := by
  induction placed with
  | nil => exact .nil
  | cons _ _ induction => exact .cons (.inr rfl) induction

open DeepSeekRankServingCoordinator

/-- The loop of `send_pending` moves stages, and all of them if it can. -/
theorem sendPending_ranks {step : Stage → Stage} (sendable : ℕ → Bool) (placed : List Placed)
    (sends : ∀ member ∈ placed,
      Assignment.Sends outbox member.rank (move step member).rank) (index : ℕ) :
    ∃ after, sendPending outbox sendable index (placed.map rank) = (after.map rank, none) ∧
      Between step placed after ∧
      ((∀ other, index ≤ other → other < index + placed.length → sendable other = true) →
        after = placed.map (move step)) := by
  induction placed generalizing index with
  | nil => exact ⟨[], rfl, .nil, fun _ => rfl⟩
  | cons first _ induction =>
    rcases induction (fun member listed => sends member (mem_cons_of_mem _ listed))
      (index + 1) with ⟨_, looped, between, complete⟩
    rw [map_cons]
    unfold sendPending
    cases sends first mem_cons_self with
    | nothing none same =>
      refine ⟨_, ?_, .cons (.inr rfl) between, ?_⟩
      · split
        next command outgoing => exact (none command outgoing).elim
        next => rw [looped, map_cons, same]
      · intro all
        rw [map_cons, complete]
        intro other lower upper
        rw [length_cons] at all
        exact all other (by omega) (by omega)
    | command _ _ outgoing accepted sent =>
      rw [outgoing]
      dsimp only
      by_cases ready : sendable index = true
      · refine ⟨_, ?_, .cons (.inr rfl) between, ?_⟩
        · rw [if_neg (by simp [ready]), accepted]
          rw [looped, map_cons, sent]
        intro all
        rw [map_cons, complete]
        intro other lower upper
        rw [length_cons] at all
        exact all other (by omega) (by omega)
      refine ⟨_, ?_, .refl step _, ?_⟩
      · rw [if_pos (by simp [ready]), map_cons]
      · intro all
        rw [length_cons] at all
        exact (ready (all index (by omega) (by omega))).elim

/-- The loop of `poll_completions` moves stages, and all if it can. -/
theorem pollRanks_ranks (pollable : ℕ → Bool) (placed : List Placed) (index : ℕ) : ∃ after,
      pollRanks pollable index (placed.map rank) = (after.map rank, none) ∧
        Between Stage.poll placed after ∧
        ((∀ other, index ≤ other → other < index + placed.length → pollable other = true) →
          after = placed.map (move Stage.poll)) := by
  induction placed generalizing index with
  | nil => exact ⟨[], rfl, .nil, fun _ => rfl⟩
  | cons first rest induction =>
    rcases induction (index + 1) with ⟨after, looped, between, complete⟩
    have whole (all : ∀ other, index ≤ other → other < index + (first :: rest).length →
          pollable other = true) :
        move Stage.poll first :: after = (first :: rest).map (move Stage.poll) := by
      rw [map_cons, complete]
      intro other lower upper
      rw [length_cons] at all
      exact all other (by omega) (by omega)
    rw [map_cons]
    unfold pollRanks
    cases first.1.polls_rank first.2 with
    | nothing none same =>
      refine ⟨_, ?_, .cons (.inr rfl) between, whole⟩
      have kept : (move Stage.poll first).rank = first.rank := same
      rw [looped, map_cons, kept]
      split
      next => rfl
      next waiting =>
        split
        next completion later arrived _ =>
          rcases none with received | empty
          · exact (waiting received).elim
          have arrived' : first.rank.completions = _ := arrived
          change first.rank.completions = [] at empty
          rw [empty] at arrived'
          cases arrived'
        next => rfl
    | completion completion later gate waiting arrived accepted received =>
      change first.rank.completionReceived = false at waiting
      change first.rank.completions = completion :: later at arrived
      change first.rank.gate.complete completion = (gate, .ok ()) at accepted
      rw [if_neg (by simp [waiting]), arrived]
      by_cases ready : pollable index = true
      · refine ⟨_, ?_, .cons (.inr rfl) between, whole⟩
        have moved : (move Stage.poll first).rank = _ := received
        rw [ready]
        dsimp only
        rw [accepted]
        rw [looped, map_cons, moved]
        rfl
      refine ⟨_, ?_, .cons (.inl rfl) between, ?_⟩
      · rw [Bool.not_eq_true] at ready
        rw [ready]
        rw [looped, map_cons]
      · intro all
        rw [length_cons] at all
        exact (ready (all index (by omega) (by omega))).elim

end Placed

/-! ## Reading the stage of a rank -/

namespace ServingRank

variable (serving : ServingRank)

/-- The stage of a rank whose plan is being served. -/
def stage : Stage :=
  if ¬ serving.execute.sent then .unsent
  else if serving.cancel.command = none then
    if serving.completionReceived then .received
    else if serving.completions ≠ [] then .delivered
    else if serving.worker.pendingCompletion.isSome then .pending
    else if serving.commands ≠ [] then .sent
    else .running
  else if serving.completionReceived then .receivedCancelled
  else if serving.completions ≠ [] then .deliveredCancelled
  else if serving.worker.pendingCompletion.isSome then .pendingCancelled
  else if serving.worker.executor.cancellationRequested then .cancelling
  else if serving.cancel.sent then
    if serving.commands.length = 1 then .runningCancel else .sentCancel
  else if serving.commands ≠ [] then .sentAsked
  else .runningAsked

/-- The worker after it has received a command, if there is one. -/
def afterReceiving (receives : Bool) : DeepSeekRankServingWorkerLoop :=
  match serving.commands, receives with
  | command :: _, true => (serving.worker.handle command).1
  | _, _ => serving.worker

/-- The worker polls an execution whose cancel has not reached it. -/
def overtaken (receives : Bool) : Bool := serving.cancel.command.isSome ∧
    (serving.afterReceiving receives).executor.activeCommand.isSome ∧
    ¬ (serving.afterReceiving receives).executor.cancellationRequested

/-- The worker has not finished the execution. -/
def unfinished : Bool := ¬ serving.completionReceived ∧ serving.completions = [] ∧
    serving.worker.pendingCompletion = none

end ServingRank

namespace Assignment

variable {assignment : Assignment}

@[simp]
theorem stage_rank (assignment : Assignment) (stage : Stage) :
    (assignment.rank stage).stage = stage := by
  cases stage <;> rfl

/-- What the worker holds after a command decides whether it is late. -/
theorem overtaken_eq {serving : ServingRank} (worker : DeepSeekRankServingWorkerLoop)
    (received : serving.afterReceiving receives = worker) :
    serving.overtaken receives =
      decide (serving.cancel.command.isSome ∧ worker.executor.activeCommand.isSome ∧
        ¬ worker.executor.cancellationRequested) := by
  unfold ServingRank.overtaken
  rw [received]

theorem Valid.overtaken_rank (valid : assignment.Valid) (stage : Stage) (receives : Bool) :
    (assignment.rank stage).overtaken receives = stage.overtaken receives := by
  have executes : (handle { gate := assignment.idleGate assignment.base }
      assignment.execution).1 = assignment.runningWorker := by
    rw [valid.handle_execution]
  have cancels : (assignment.runningWorker.handle assignment.cancellation).1 =
      assignment.cancellingWorker := by
    rw [valid.handle_cancellation]
  cases receives with
  | false => cases stage <;> rfl
  | true =>
    cases stage with
    | sentAsked | sentCancel | sent =>
      refine (overtaken_eq assignment.runningWorker ?_).trans rfl
      exact executes
    | runningCancel =>
      refine (overtaken_eq assignment.cancellingWorker ?_).trans rfl
      exact cancels
    | _ => rfl

end Assignment

end Pih
