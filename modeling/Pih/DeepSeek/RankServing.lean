import Pih.Core.Sha256
import Pih.DeepSeek.BatchEngine

/-!
# Serving a plan on a set of ranks

A coordinator sends each rank a command to execute its part of a plan, may
send a command to cancel it, and waits for one completion of each rank.
Coordinator and worker check every command and every completion with a gate of
their own.  A channel keeps its frames in order; both ends may find it
temporarily unavailable.

The parallel vectors of the coordinator are kept as one record for each rank,
together with the channels and the worker of that rank.
-/

namespace Pih

/-- The session of a rank. -/
structure DeepSeekRankServingSessionBinding where
  engineEpoch : ℕ
  workerGeneration : ℕ
  worldSize : ℕ
  rank : ℕ
  processIdentity : ℕ
  pidfdIdentity : ℕ
  controlIdentity : ℕ
  materializationWarmSealRoot : Sha256Digest
deriving DecidableEq

inductive DeepSeekRankServingCommandKind where
  | execute
  | cancel
deriving DecidableEq, Repr

/-- A command to one rank. -/
structure DeepSeekRankServingCommand where
  session : DeepSeekRankServingSessionBinding
  commandSequence : ℕ
  kind : DeepSeekRankServingCommandKind := .execute
  requestId : ℕ
  requestGeneration : ℕ
  plan : DeepSeekPipelinePlanDescriptor
  targetExecutionSequence : ℕ := 0
  inputLeaseIdentity : ℕ := 0
  outputLeaseIdentity : ℕ := 0
deriving DecidableEq

inductive DeepSeekRankServingCompletionOutcome where
  | completed
  | cancelled
  | failed
deriving DecidableEq, Repr

/-- The answer of a rank. -/
structure DeepSeekRankServingCompletion where
  session : DeepSeekRankServingSessionBinding
  executionCommandSequence : ℕ
  requestId : ℕ
  requestGeneration : ℕ
  plan : DeepSeekPipelinePlanDescriptor
  outcome : DeepSeekRankServingCompletionOutcome
  outputLeaseIdentity : ℕ := 0
deriving DecidableEq

def validPhase : DeepSeekPlanPhase → Bool
  | .prefill => true
  | .decode => true
  | .verify => true
  | .drain => false

def samePlan (left right : DeepSeekPipelinePlanDescriptor) : Bool :=
  left.engineEpoch = right.engineEpoch ∧
    left.planSequence = right.planSequence ∧ left.phase = right.phase ∧
    left.tokenCount = right.tokenCount ∧
    left.sequenceCount = right.sequenceCount

/-! ## The gate -/

structure DeepSeekRankServingWorkerGate where
  session : DeepSeekRankServingSessionBinding
  lastCommandSequence : ℕ := 0
  activeExecution : Option DeepSeekRankServingCommand := none
  cancellationCommandSequence : Option ℕ := none
  failed : Bool := false
deriving DecidableEq

namespace DeepSeekRankServingWorkerGate

def validateSession (session : DeepSeekRankServingSessionBinding) : Result Unit :=
  if session.engineEpoch = 0 ∨ session.workerGeneration = 0 ∨
      session.worldSize = 0 ∨ session.rank ≥ session.worldSize ∨
      session.processIdentity = 0 ∨ session.pidfdIdentity = 0 ∨
      session.controlIdentity = 0 ∨
      ¬ session.materializationWarmSealRoot.nonzero then
    .error (.invalidArgument "DeepSeek rank serving session binding is invalid")
  else .ok ()

def create (session : DeepSeekRankServingSessionBinding) : Result DeepSeekRankServingWorkerGate :=
  match validateSession session with
  | .error status => .error status
  | .ok () => .ok { session }

variable (gate : DeepSeekRankServingWorkerGate)

def reject (cause : Status) : DeepSeekRankServingWorkerGate × Result Unit :=
  ({ gate with failed := true }, .error cause)

section

variable (command : DeepSeekRankServingCommand)

/-- The command continues the session of the gate. -/
def validateEnvelope : Result Unit :=
  if command.session ≠ gate.session ∨ command.commandSequence = 0 ∨
      gate.lastCommandSequence = u64Max ∨
      command.commandSequence ≠ gate.lastCommandSequence + 1 ∨
      command.requestId = 0 ∨ command.requestGeneration = 0 ∨
      command.plan.engineEpoch ≠ gate.session.engineEpoch ∨
      command.plan.planSequence = 0 ∨ ¬ validPhase command.plan.phase ∨
      command.plan.tokenCount = 0 ∨ command.plan.sequenceCount = 0 then
    .error (.failedPrecondition "DeepSeek rank serving command envelope does not match session")
  else .ok ()

/-- Accept an execution while none is active. -/
def acceptExecute : DeepSeekRankServingWorkerGate × Result Unit :=
  if gate.activeExecution.isSome ∨ command.targetExecutionSequence ≠ 0 ∨
      decide (gate.session.rank = 0) ≠ decide (command.inputLeaseIdentity ≠ 0) ∨
      decide (gate.session.rank + 1 = gate.session.worldSize) ≠
        decide (command.outputLeaseIdentity ≠ 0) then
    reject gate (.failedPrecondition "DeepSeek rank execute command violates ownership or ordering")
  else
    ({ gate with
        lastCommandSequence := command.commandSequence
        activeExecution := some command }, .ok ())

/-- Accept the one cancellation of the active execution. -/
def acceptCancel : DeepSeekRankServingWorkerGate × Result Unit :=
  let rejected :=
    reject gate (.failedPrecondition "DeepSeek rank cancellation does not match active execution")
  match gate.activeExecution with
  | none => rejected
  | some execution =>
    if gate.cancellationCommandSequence.isSome ∨ command.inputLeaseIdentity ≠ 0 ∨
        command.outputLeaseIdentity ≠ 0 ∨
        command.targetExecutionSequence ≠ execution.commandSequence ∨
        command.requestId ≠ execution.requestId ∨
        command.requestGeneration ≠ execution.requestGeneration ∨
        ¬ samePlan command.plan execution.plan then
      rejected
    else
      ({ gate with
          lastCommandSequence := command.commandSequence
          cancellationCommandSequence := some command.commandSequence },
        .ok ())

def accept : DeepSeekRankServingWorkerGate × Result Unit :=
  if gate.failed then (gate, .error (.failedPrecondition "DeepSeek rank serving gate is failed"))
  else
    match validateEnvelope gate command with
    | .error status => reject gate status
    | .ok () =>
      match command.kind with
      | .execute => acceptExecute gate command
      | .cancel => acceptCancel gate command

end

/-- Why an outcome is not allowed for an execution. -/
def checkOutcome (execution : DeepSeekRankServingCommand)
    (completion : DeepSeekRankServingCompletion) : Option Status :=
  let requested := gate.cancellationCommandSequence.isSome
  match completion.outcome with
  | .completed =>
    if requested ∨ completion.outputLeaseIdentity ≠ execution.outputLeaseIdentity then
      some (.failedPrecondition ("DeepSeek rank completion violates cancellation or output " ++
          "ownership"))
    else none
  | .cancelled =>
    if ¬ requested ∨ completion.outputLeaseIdentity ≠ 0 then
      some (.failedPrecondition "DeepSeek rank cancellation completion is invalid")
    else none
  | .failed =>
    if completion.outputLeaseIdentity ≠ 0 then
      some (.failedPrecondition "DeepSeek rank failed completion cannot publish output")
    else none

def complete (completion : DeepSeekRankServingCompletion) :
    DeepSeekRankServingWorkerGate × Result Unit :=
  let mismatch :=
    reject gate (.failedPrecondition "DeepSeek rank completion does not match active execution")
  if gate.failed then (gate, .error (.failedPrecondition "DeepSeek rank serving gate is failed"))
  else
    match gate.activeExecution with
    | none => mismatch
    | some execution =>
      if completion.session ≠ gate.session ∨ completion.executionCommandSequence ≠
            execution.commandSequence ∨
          completion.requestId ≠ execution.requestId ∨
          completion.requestGeneration ≠ execution.requestGeneration ∨
          ¬ samePlan completion.plan execution.plan then
        mismatch
      else
        match checkOutcome gate execution completion with
        | some status => reject gate status
        | none =>
          ({ gate with activeExecution := none, cancellationCommandSequence := none }, .ok ())

end DeepSeekRankServingWorkerGate

/-! ## The worker -/

/--
The plan executor.  Leases resolve and executions start and cancel; whether
an execution has finished is an answer of the step.
-/
structure DeepSeekRankServingPlanWorkerExecutor where
  activeCommand : Option DeepSeekRankServingCommand := none
  cancellationRequested : Bool := false
deriving DecidableEq

namespace DeepSeekRankServingPlanWorkerExecutor

variable (executor : DeepSeekRankServingPlanWorkerExecutor) (command : DeepSeekRankServingCommand)

def start : DeepSeekRankServingPlanWorkerExecutor × Result Unit :=
  if executor.activeCommand.isSome ∨ command.kind ≠ .execute then
    (executor, .error (.failedPrecondition
      "DeepSeek rank serving plan executor already has an execution"))
  else ({ activeCommand := some command, cancellationRequested := false }, .ok ())

def cancel : DeepSeekRankServingPlanWorkerExecutor × Result Unit :=
  let differs :=
    (executor, .error (.failedPrecondition
      "DeepSeek rank serving cancellation differs from active execution"))
  match executor.activeCommand with
  | none => differs
  | some active =>
    if executor.cancellationRequested ∨ command.kind ≠ .cancel ∨
        command.targetExecutionSequence ≠ active.commandSequence ∨
        command.inputLeaseIdentity ≠ 0 ∨
        command.outputLeaseIdentity ≠ 0 ∨
        command.session ≠ active.session ∨
        command.requestId ≠ active.requestId ∨
        command.requestGeneration ≠ active.requestGeneration ∨
        ¬ samePlan command.plan active.plan then
      differs
    else ({ executor with cancellationRequested := true }, .ok ())

/-- The completion of a command, cancelled or not. -/
def completionOf (cancelled : Bool) : DeepSeekRankServingCompletion where
  session := command.session
  executionCommandSequence := command.commandSequence
  requestId := command.requestId
  requestGeneration := command.requestGeneration
  plan := command.plan
  outcome := if cancelled then .cancelled else .completed
  outputLeaseIdentity := if cancelled then 0 else command.outputLeaseIdentity

def poll (terminal : Bool) : DeepSeekRankServingPlanWorkerExecutor ×
      Option DeepSeekRankServingCompletion :=
  match executor.activeCommand with
  | none => (executor, none)
  | some command =>
    if terminal then ({}, some (completionOf command executor.cancellationRequested))
    else (executor, none)

end DeepSeekRankServingPlanWorkerExecutor

/-- A gate with the executor behind it. -/
structure DeepSeekRankServingWorkerLoop where
  gate : DeepSeekRankServingWorkerGate
  executor : DeepSeekRankServingPlanWorkerExecutor := {}
  pendingCompletion : Option DeepSeekRankServingCompletion := none
  failed : Bool := false
deriving DecidableEq

namespace DeepSeekRankServingWorkerLoop

variable (worker : DeepSeekRankServingWorkerLoop)

def fail (cause : Status) : DeepSeekRankServingWorkerLoop × Result Unit :=
  ({ worker with failed := true }, .error cause)

/-- A command that the transport delivered. -/
def handle (command : DeepSeekRankServingCommand) : DeepSeekRankServingWorkerLoop × Result Unit :=
  match worker.gate.accept command with
  | (gate, .error status) => fail { worker with gate } status
  | (gate, .ok ()) =>
    let worker := { worker with gate }
    let handled :=
      match command.kind with
      | .execute => worker.executor.start command
      | .cancel => worker.executor.cancel command
    match handled with
    | (executor, .error status) => fail { worker with executor } status
    | (executor, .ok ()) => ({ worker with executor }, .ok ())

/-- The executor is polled and a completion is kept for sending. -/
def finish (terminal : Bool) : DeepSeekRankServingWorkerLoop × Result Unit :=
  match worker.executor.poll terminal with
  | (executor, none) => ({ worker with executor }, .ok ())
  | (executor, some completion) =>
    match worker.gate.complete completion with
    | (gate, .error status) => fail { worker with executor, gate } status
    | (gate, .ok ()) =>
      ({ worker with executor, gate, pendingCompletion := some completion }, .ok ())

end DeepSeekRankServingWorkerLoop

/-! ## The coordinator -/

/-- A command of the coordinator and whether it was sent. -/
structure OutgoingCommand where
  command : Option DeepSeekRankServingCommand := none
  sent : Bool := false
deriving DecidableEq

/-- What the coordinator keeps for a rank, its channels and its worker. -/
structure ServingRank where
  session : DeepSeekRankServingSessionBinding
  gate : DeepSeekRankServingWorkerGate
  nextCommandSequence : ℕ := 1
  execute : OutgoingCommand := {}
  cancel : OutgoingCommand := {}
  completionReceived : Bool := false
  commands : List DeepSeekRankServingCommand := []
  completions : List DeepSeekRankServingCompletion := []
  worker : DeepSeekRankServingWorkerLoop
deriving DecidableEq

namespace ServingRank

/-- One call of the worker's `advance`. -/
def advance (rank : ServingRank) (receives sends terminal : Bool) : ServingRank × Result Unit :=
  if rank.worker.failed then
    (rank, .error (.failedPrecondition "DeepSeek rank serving worker is failed"))
  else
    match rank.worker.pendingCompletion with
    | some completion =>
      if sends then
        ({ rank with
            completions := rank.completions ++ [completion]
            worker := { rank.worker with pendingCompletion := none } },
          .ok ())
      else (rank, .error (.unavailable "transport"))
    | none =>
      match rank.commands, receives with
      | command :: rest, true =>
        match rank.worker.handle command with
        | (worker, .error status) => ({ rank with commands := rest, worker }, .error status)
        | (worker, .ok ()) =>
          ({ rank with commands := rest, worker := (worker.finish terminal).1 },
            (worker.finish terminal).2)
      | _, _ =>
        ({ rank with worker := (rank.worker.finish terminal).1 }, (rank.worker.finish terminal).2)

end ServingRank

/-- The ranks and the plan that they serve. -/
structure DeepSeekRankServingCoordinator where
  ranks : List ServingRank
  active : Bool := false
  complete : Bool := false
  cancellationRequested : Bool := false
  poisoned : Bool := false
deriving DecidableEq

namespace DeepSeekRankServingCoordinator

def createRanks (first : DeepSeekRankServingSessionBinding) (world : ℕ) :
    ℕ → List DeepSeekRankServingSessionBinding → Result (List ServingRank)
  | _, [] => .ok []
  | rank, session :: rest =>
    if session.engineEpoch ≠ first.engineEpoch ∨ session.workerGeneration ≠ first.workerGeneration ∨
        session.worldSize ≠ world ∨ session.rank ≠ rank ∨
        session.materializationWarmSealRoot ≠ first.materializationWarmSealRoot then
      .error (.failedPrecondition "DeepSeek rank serving sessions do not describe one generation")
    else
      match DeepSeekRankServingWorkerGate.create session with
      | .error status => .error status
      | .ok gate =>
        match createRanks first world (rank + 1) rest with
        | .error status => .error status
        | .ok ranks => .ok ({ session, gate, worker := { gate } } :: ranks)

def create (sessions : List DeepSeekRankServingSessionBinding) :
    Result DeepSeekRankServingCoordinator :=
  match sessions with
  | [] => .error (.invalidArgument "DeepSeek rank serving session geometry is invalid")
  | first :: rest =>
    if (first :: rest).length > 4 then
      .error (.invalidArgument "DeepSeek rank serving session geometry is invalid")
    else
      match createRanks first (first :: rest).length 0 (first :: rest) with
      | .error status => .error status
      | .ok ranks => .ok { ranks }

variable (coordinator : DeepSeekRankServingCoordinator)

/-- `fail`, which also aborts the generation of the channel. -/
def fail (cause : Status) : DeepSeekRankServingCoordinator × Result Unit :=
  ({ coordinator with poisoned := true, active := false }, .error cause)

def engineEpoch : ℕ := (coordinator.ranks.head?.map fun rank => rank.session.engineEpoch).getD 0

/-- The arguments of `begin`. -/
structure BeginRequest where
  requestId : ℕ
  requestGeneration : ℕ
  plan : DeepSeekPipelinePlanDescriptor
  inputLeaseIdentity : ℕ
  outputLeaseIdentity : ℕ
deriving DecidableEq

variable (rank : ServingRank)

def resetRank : ServingRank :=
  { rank with execute := {}, cancel := {}, completionReceived := false }

variable (request : BeginRequest)

def executeCommand (world index : ℕ) (rank : ServingRank) : DeepSeekRankServingCommand where
  session := rank.session
  commandSequence := rank.nextCommandSequence
  requestId := request.requestId
  requestGeneration := request.requestGeneration
  plan := request.plan
  inputLeaseIdentity := if index = 0 then request.inputLeaseIdentity else 0
  outputLeaseIdentity := if index + 1 = world then request.outputLeaseIdentity else 0

/-- The loop of `begin`; `false` if a sequence number is used up. -/
def beginRanks (request : BeginRequest) (world : ℕ) : ℕ → List ServingRank → List ServingRank × Bool
  | _, [] => ([], true)
  | index, rank :: rest =>
    if rank.nextCommandSequence = 0 ∨ rank.nextCommandSequence = u64Max then (rank :: rest, false)
    else
      let begun :=
        { rank with
          nextCommandSequence := rank.nextCommandSequence + 1
          execute := { command := some (executeCommand request world index rank) } }
      let others := beginRanks request world (index + 1) rest
      (begun :: others.1, others.2)

/-- Give every rank the command for its part of the plan. -/
def begin : DeepSeekRankServingCoordinator × Result Unit :=
  if coordinator.poisoned ∨ coordinator.active ∨ request.requestId = 0 ∨
      request.requestGeneration = 0 ∨
      request.plan.engineEpoch ≠ coordinator.engineEpoch ∨
      request.plan.planSequence = 0 ∨ request.plan.tokenCount = 0 ∨
      request.plan.sequenceCount = 0 ∨ request.plan.phase = .drain ∨
      request.inputLeaseIdentity = 0 ∨
      request.outputLeaseIdentity = 0 then
    (coordinator, .error (.failedPrecondition "DeepSeek rank serving plan cannot begin"))
  else
    let begun := beginRanks request coordinator.ranks.length 0 (coordinator.ranks.map resetRank)
    let reset :=
      { coordinator with ranks := begun.1, cancellationRequested := false, complete := false }
    if begun.2 then ({ reset with active := true }, .ok ())
    else fail reset (.failedPrecondition "DeepSeek rank serving command sequence is exhausted")

def cancelCommand (sequence : ℕ) (execution : DeepSeekRankServingCommand) :
    DeepSeekRankServingCommand :=
  { execution with
    commandSequence := sequence
    kind := .cancel
    targetExecutionSequence := execution.commandSequence
    inputLeaseIdentity := 0
    outputLeaseIdentity := 0 }

/-- The loop of `cancel`; `false` if a sequence number is used up. -/
def cancelRanks : List ServingRank → List ServingRank × Bool
  | [] => ([], true)
  | rank :: rest =>
    if rank.nextCommandSequence = 0 ∨ rank.nextCommandSequence = u64Max then (rank :: rest, false)
    else
      let asked :=
        { rank with
          nextCommandSequence := rank.nextCommandSequence + 1
          cancel :=
            { command := rank.execute.command.map (cancelCommand rank.nextCommandSequence) } }
      let others := cancelRanks rest
      (asked :: others.1, others.2)

def cancel (requestId requestGeneration : ℕ) : DeepSeekRankServingCoordinator × Result Unit :=
  let rejected :=
    (coordinator, .error (.failedPrecondition "DeepSeek rank serving plan cannot cancel"))
  match coordinator.ranks.head?.bind fun rank => rank.execute.command with
  | none => rejected
  | some execution =>
    if coordinator.poisoned ∨ ¬ coordinator.active ∨ coordinator.cancellationRequested ∨
        requestId ≠ execution.requestId ∨
        requestGeneration ≠ execution.requestGeneration then
      rejected
    else if coordinator.ranks.any fun rank => ¬ rank.execute.sent then
      (coordinator, .error (.unavailable
        "DeepSeek rank serving cannot cancel before execute delivery"))
    else
      let asked := cancelRanks (coordinator.ranks.map fun rank => { rank with cancel := {} })
      if asked.2 then ({ coordinator with ranks := asked.1, cancellationRequested := true }, .ok ())
      else
        fail { coordinator with ranks := asked.1 } (.failedPrecondition
          "DeepSeek rank serving cancellation sequence is exhausted")

/-- The two vectors of commands that the coordinator sends from. -/
inductive Outbox where
  | execute
  | cancel
deriving DecidableEq, Repr

def Outbox.of : Outbox → OutgoingCommand
  | .execute => rank.execute
  | .cancel => rank.cancel

def Outbox.markSent : Outbox → ServingRank
  | .execute => { rank with execute := { rank.execute with sent := true } }
  | .cancel => { rank with cancel := { rank.cancel with sent := true } }

/--
`send_pending`: the ranks after the loop, and the status that stopped it.  A
channel that is unavailable ends the loop without a status.
-/
def sendPending (outbox : Outbox) (sendable : ℕ → Bool) :
    ℕ → List ServingRank → List ServingRank × Option Status
  | _, [] => ([], none)
  | index, rank :: rest =>
    match outbox.of rank with
    | ⟨some command, false⟩ =>
      if ¬ sendable index then (rank :: rest, none)
      else
        let framed := { rank with commands := rank.commands ++ [command] }
        match rank.gate.accept command with
        | (gate, .error status) => ({ framed with gate } :: rest, some status)
        | (gate, .ok ()) =>
          let others := sendPending outbox sendable (index + 1) rest
          (outbox.markSent { framed with gate } :: others.1, others.2)
    | _ =>
      let others := sendPending outbox sendable (index + 1) rest
      (rank :: others.1, others.2)

/-- The loop of `poll_completions`. -/
def pollRanks (pollable : ℕ → Bool) : ℕ → List ServingRank → List ServingRank × Option Status
  | _, [] => ([], none)
  | index, rank :: rest =>
    let next := fun rank =>
      let others := pollRanks pollable (index + 1) rest
      (rank :: others.1, others.2)
    if rank.completionReceived then next rank
    else
      match rank.completions, pollable index with
      | completion :: later, true =>
        match rank.gate.complete completion with
        | (gate, .error status) => ({ rank with completions := later, gate } :: rest, some status)
        | (gate, .ok ()) =>
          next
            { rank with completions := later, gate, completionReceived := true }
      | _, _ => next rank

def pollCompletions (pollable : ℕ → Bool) : DeepSeekRankServingCoordinator × Result Unit :=
  match pollRanks pollable 0 coordinator.ranks with
  | (ranks, some status) => fail { coordinator with ranks } status
  | (ranks, none) =>
    if ranks.all fun rank => rank.completionReceived then
      ({ coordinator with ranks, active := false, complete := true }, .ok ())
    else ({ coordinator with ranks }, .ok ())

/-- Send what is pending, then poll for completions. -/
def advance (sendable pollable : ℕ → Bool) : DeepSeekRankServingCoordinator × Result Unit :=
  if coordinator.poisoned then
    (coordinator, .error (.failedPrecondition "DeepSeek rank serving is poisoned"))
  else if ¬ coordinator.active then (coordinator, .ok ())
  else
    match sendPending .execute sendable 0 coordinator.ranks with
    | (ranks, some status) => fail { coordinator with ranks } status
    | (ranks, none) =>
      let executing := { coordinator with ranks }
      if ranks.any fun rank => ¬ rank.execute.sent then (executing, .ok ())
      else if ¬ coordinator.cancellationRequested then executing.pollCompletions pollable
      else
        match sendPending .cancel sendable 0 ranks with
        | (ranks, some status) => fail { coordinator with ranks } status
        | (ranks, none) =>
          let cancelling := { coordinator with ranks }
          if ranks.any fun rank => ¬ rank.cancel.sent then (cancelling, .ok ())
          else cancelling.pollCompletions pollable

/-! ## Runs -/

/-- A call of the coordinator, or of the worker of one rank. -/
inductive Action where
  | begin (request : BeginRequest)
  | cancel (requestId requestGeneration : ℕ)
  | advance (sendable pollable : ℕ → Bool)
  | work (index : ℕ) (receives sends terminal : Bool)

def execute : Action → DeepSeekRankServingCoordinator × Result Unit
  | .begin request => coordinator.begin request
  | .cancel requestId requestGeneration => coordinator.cancel requestId requestGeneration
  | .advance sendable pollable => coordinator.advance sendable pollable
  | .work index receives sends terminal =>
    match coordinator.ranks[index]? with
    | none => (coordinator, .ok ())
    | some rank =>
      let worked := rank.advance receives sends terminal
      ({ coordinator with ranks := coordinator.ranks.set index worked.1 }, worked.2)

end DeepSeekRankServingCoordinator

end Pih
