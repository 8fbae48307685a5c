import Pih.Model.PackedTokenPlan

/-!
# The controller sequence

The lifecycle of one admitted request.  A sequence is queued for prefill or
ready to decode; a plan takes it through prepared, committed and in flight;
completion moves its ledger of processed and accepted tokens and returns it
to the queue or lets it drain.  A cancellation can arrive in every state.
-/

namespace Pih

/-- The states of a sequence. -/
inductive ControllerSequenceState where
  | queuedPrefill
  | prefillPrepared
  | prefillCommitted
  | prefillInFlight
  | readyDecode
  | decodePrepared
  | decodeCommitted
  | decodeInFlight
  | verifyPrepared
  | verifyCommitted
  | verifyInFlight
  | cancelRequested
  | draining
  | cancelled
  | completed
  | failed
deriving DecidableEq, Repr

namespace ControllerSequenceState

def preparedState : PackedTokenPhase → ControllerSequenceState
  | .prefill => .prefillPrepared
  | .decode => .decodePrepared
  | .verify => .verifyPrepared

def committedState : PackedTokenPhase → ControllerSequenceState
  | .prefill => .prefillCommitted
  | .decode => .decodeCommitted
  | .verify => .verifyCommitted

def inflightState : PackedTokenPhase → ControllerSequenceState
  | .prefill => .prefillInFlight
  | .decode => .decodeInFlight
  | .verify => .verifyInFlight

def terminal : ControllerSequenceState → Bool
  | .cancelled | .completed | .failed => true
  | _ => false

def prepared : ControllerSequenceState → Bool
  | .prefillPrepared | .decodePrepared | .verifyPrepared => true
  | _ => false

def committedOrInFlight : ControllerSequenceState → Bool
  | .prefillCommitted | .prefillInFlight | .decodeCommitted
  | .decodeInFlight | .verifyCommitted | .verifyInFlight => true
  | _ => false

end ControllerSequenceState

/-- What a completed plan did for a sequence. -/
structure ControllerPlanCompletion where
  planSequence : ℕ
  sequenceGeneration : ℕ
  committedModelProcessedLength : ℕ
  acceptedCompletionCount : ℕ
  stateGeneration : ℕ
  nextDecodePhase : PackedTokenPhase
  terminal : Bool
deriving DecidableEq

/-- A sequence and its token ledger. -/
structure ControllerSequence where
  sequenceGeneration : ℕ
  promptTokenCount : ℕ
  modelProcessedLength : ℕ := 0
  acceptedCompletionCount : ℕ := 0
  stateGeneration : ℕ
  activePlanSequence : ℕ := 0
  activeRealTokenCount : ℕ := 0
  activePhase : PackedTokenPhase := .prefill
  nextDecodePhase : PackedTokenPhase := .decode
  state : ControllerSequenceState := .queuedPrefill
  stateBeforeCancel : ControllerSequenceState := .queuedPrefill
  drainIsCancel : Bool := false
deriving DecidableEq

namespace ControllerSequence

def admitSequence (sequenceGeneration promptTokenCount initialStateGeneration : ℕ) :
    Result ControllerSequence :=
  if sequenceGeneration = 0 ∨ promptTokenCount = 0 ∨ initialStateGeneration = 0 then
    .error (.invalidArgument "controller sequence identity is invalid")
  else .ok { sequenceGeneration, promptTokenCount, stateGeneration := initialStateGeneration }

variable (sequence : ControllerSequence)

def hasActivePlan : Bool := sequence.activePlanSequence ≠ 0

def clearPlan : ControllerSequence :=
  { sequence with activePlanSequence := 0, activeRealTokenCount := 0 }

/-- The sequence waits at a boundary where the phase can be planned. -/
def readyFor (phase : PackedTokenPhase) : Bool :=
  (sequence.state = .queuedPrefill ∧ phase = .prefill) ∨
    (sequence.state = .readyDecode ∧ phase = sequence.nextDecodePhase)

variable (planSequence : ℕ)

/-- Make the sequence a member of a plan. -/
def prepare (phase : PackedTokenPhase) (realTokenCount : ℕ) : Result ControllerSequence :=
  if ¬ sequence.readyFor phase ∨ planSequence = 0 ∨
      realTokenCount = 0 ∨ sequence.activePlanSequence ≠ 0 then
    .error (.failedPrecondition "sequence cannot prepare this plan")
  else
    let prepared : ControllerSequence :=
      { sequence with
        activePlanSequence := planSequence
        activeRealTokenCount := realTokenCount
        activePhase := phase
        state := .preparedState phase }
    match phase with
    | .prefill =>
      match checkedAddU64 sequence.modelProcessedLength realTokenCount with
      | .error _ => .error (.invalidArgument "prefill plan exceeds prompt partition")
      | .ok last =>
        if last > sequence.promptTokenCount then
          .error (.invalidArgument "prefill plan exceeds prompt partition")
        else .ok prepared
    | .decode =>
      if realTokenCount ≠ 1 then .error (.invalidArgument "decode plan must contain one real token")
      else .ok prepared
    | .verify =>
      if realTokenCount > 5 then .error (.invalidArgument "verify plan exceeds the V1 draft bound")
      else .ok prepared

def commit : Result ControllerSequence :=
  if ¬ sequence.state.prepared ∨ planSequence ≠ sequence.activePlanSequence then
    .error (.failedPrecondition "sequence plan is not prepared")
  else .ok { sequence with state := .committedState sequence.activePhase }

def markInFlight : Result ControllerSequence :=
  if ¬ sequence.state.committedOrInFlight ∨ sequence.state = .inflightState sequence.activePhase ∨
      planSequence ≠ sequence.activePlanSequence then
    .error (.failedPrecondition "sequence plan is not committed")
  else .ok { sequence with state := .inflightState sequence.activePhase }

/-- Leave a plan that was not committed. -/
def abortPrepared : Result ControllerSequence :=
  if ¬ sequence.state.prepared ∨ planSequence ≠ sequence.activePlanSequence then
    .error (.failedPrecondition "only a prepared plan can be aborted")
  else
    .ok
      { sequence.clearPlan with
        state :=
          if sequence.activePhase = .prefill then .queuedPrefill
          else .readyDecode }

/-- A cancelled sequence whose plan was committed before the cancellation. -/
def cancelledCommitted : Bool :=
  sequence.state = .cancelRequested ∧ sequence.activePlanSequence ≠ 0 ∧
    sequence.stateBeforeCancel.committedOrInFlight

section

variable (completion : ControllerPlanCompletion)

/-- The identity checks of a completion. -/
def completionIdentity : Bool := ¬ ((sequence.state ≠ .inflightState sequence.activePhase ∧
      ¬ sequence.cancelledCommitted) ∨
    completion.planSequence ≠ sequence.activePlanSequence ∨
    completion.sequenceGeneration ≠ sequence.sequenceGeneration ∨
    completion.stateGeneration ≤ sequence.stateGeneration ∨
    completion.committedModelProcessedLength < sequence.modelProcessedLength ∨
    completion.acceptedCompletionCount < sequence.acceptedCompletionCount ∨
    (completion.nextDecodePhase ≠ .decode ∧ completion.nextDecodePhase ≠ .verify))

/-- The committed length agrees with the tokens that the plan presented. -/
def completionCut : Result Unit :=
  match checkedAddU64 sequence.modelProcessedLength sequence.activeRealTokenCount with
  | .error _ =>
    if sequence.activePhase = .prefill then
      .error (.invalidArgument "prefill completion cut is invalid")
    else .error (.invalidArgument "decode-family state cut is invalid")
  | .ok expected =>
    if sequence.activePhase = .prefill then
      if completion.committedModelProcessedLength ≠ expected ∨
          expected > sequence.promptTokenCount then
        .error (.invalidArgument "prefill completion cut is invalid")
      else .ok ()
    else if completion.committedModelProcessedLength > expected then
      .error (.invalidArgument "decode-family state cut is invalid")
    else .ok ()

/-- The ledger equation between processed and accepted tokens. -/
def completionLedger : Result Unit :=
  if completion.acceptedCompletionCount ≠ 0 then
    match checkedAddU64 sequence.promptTokenCount (completion.acceptedCompletionCount - 1) with
    | .error _ => .error (.invalidArgument "K=P+A-1 ledger invariant failed")
    | .ok expected =>
      if completion.committedModelProcessedLength ≠ expected then
        .error (.invalidArgument "K=P+A-1 ledger invariant failed")
      else .ok ()
  else if completion.committedModelProcessedLength ≥ sequence.promptTokenCount then
    .error (.invalidArgument "final prefill must publish its first token")
  else .ok ()

def validateCompletion : Result Unit :=
  if ¬ sequence.completionIdentity completion then
    .error (.failedPrecondition "plan completion identity is invalid")
  else
    match sequence.completionCut completion with
    | .error status => .error status
    | .ok () => sequence.completionLedger completion

/-- The state after a completion. -/
def completedState : ControllerSequenceState :=
  if sequence.state = .cancelRequested then .draining
  else if completion.terminal then .draining
  else if completion.committedModelProcessedLength < sequence.promptTokenCount then .queuedPrefill
  else .readyDecode

/-- Take over the result of the plan in flight. -/
def complete : Result ControllerSequence :=
  match sequence.validateCompletion completion with
  | .error status => .error status
  | .ok () =>
    .ok
      { sequence.clearPlan with
        modelProcessedLength := completion.committedModelProcessedLength
        acceptedCompletionCount := completion.acceptedCompletionCount
        stateGeneration := completion.stateGeneration
        nextDecodePhase := completion.nextDecodePhase
        state := sequence.completedState completion }

end

/-- Ask for a cancellation; the plan at work ends first. -/
def requestCancel : Result ControllerSequence :=
  if sequence.state.terminal ∨ sequence.state = .draining then
    .error (.failedPrecondition "terminal sequence cannot be cancelled")
  else if sequence.state = .cancelRequested then .ok sequence
  else
    .ok
      { sequence with
        stateBeforeCancel := sequence.state
        drainIsCancel := true
        state := .cancelRequested }

def beginDraining : Result ControllerSequence :=
  if sequence.state ≠ .cancelRequested ∨ (sequence.activePlanSequence ≠ 0 ∧
        ¬ sequence.stateBeforeCancel.prepared) then
    .error (.failedPrecondition "sequence still has committed work")
  else .ok { sequence.clearPlan with state := .draining }

def finishCancel : Result ControllerSequence :=
  if sequence.state ≠ .draining ∨ ¬ sequence.drainIsCancel then
    .error (.failedPrecondition "sequence is not draining")
  else .ok { sequence with state := .cancelled }

def finishDrain : Result ControllerSequence :=
  if sequence.state ≠ .draining ∨ sequence.drainIsCancel then
    .error (.failedPrecondition "sequence is not terminal-draining")
  else .ok { sequence with state := .completed }

def fail : Result ControllerSequence :=
  if sequence.state.terminal then .error (.failedPrecondition "sequence is already terminal")
  else .ok { sequence.clearPlan with state := .failed }

def readyPhase : Result PackedTokenPhase :=
  match sequence.state with
  | .queuedPrefill => .ok .prefill
  | .readyDecode => .ok sequence.nextDecodePhase
  | _ => .error (.failedPrecondition "sequence is not at a schedulable boundary")

/-- The tokens that the next plan would take. -/
def nextRealTokenCount (maximumPrefillChunkTokens verifyTokenCount : ℕ) : Result ℕ :=
  if maximumPrefillChunkTokens = 0 then
    .error (.invalidArgument "prefill chunk bound must be positive")
  else
    match sequence.readyPhase with
    | .error status => .error status
    | .ok .prefill =>
      if verifyTokenCount ≠ 0 ∨ sequence.modelProcessedLength ≥ sequence.promptTokenCount then
        .error (.invalidArgument "prefill scheduling input is inconsistent")
      else
        .ok (min (sequence.promptTokenCount - sequence.modelProcessedLength)
          maximumPrefillChunkTokens)
    | .ok .decode =>
      if verifyTokenCount ≠ 0 then .error (.invalidArgument "decode cannot carry verify tokens")
      else .ok 1
    | .ok .verify =>
      if verifyTokenCount = 0 ∨ verifyTokenCount > 5 then
        .error (.invalidArgument "verify token count is outside the V1 bound")
      else .ok verifyTokenCount

def nextPlanProducesLogits (maximumPrefillChunkTokens verifyTokenCount : ℕ) : Result Bool :=
  match sequence.nextRealTokenCount maximumPrefillChunkTokens verifyTokenCount with
  | .error status => .error status
  | .ok count =>
    match sequence.readyPhase with
    | .error status => .error status
    | .ok phase =>
      if phase ≠ .prefill then .ok true
      else .ok (decide (sequence.modelProcessedLength + count = sequence.promptTokenCount))

end ControllerSequence

end Pih
