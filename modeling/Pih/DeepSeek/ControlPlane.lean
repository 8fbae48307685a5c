import Pih.DeepSeek.PipelineExecution
import Pih.Scheduler.OutputBurstCreditPool
import Mathlib.Data.Rat.Defs
import Mathlib.Algebra.Order.Ring.Unbundled.Rat

/-!
# The DeepSeek control plane

The control plane owns the registry of requests, the resources of the
pipeline, the execution of at most one plan, the output credits and the
accepted tokens of every request.  A plan holds a credit while it is live;
when it completes, the credit waits with the identities of its requests until
the consumer acknowledges it.

Tokens that a committed plan accepts are staged first and appended to the
ledgers of the requests when the plan completes.
-/

namespace Pih

structure DeepSeekSamplingReceipt where
  configId : ℕ
  sampleOrdinal : ℕ
  selectedLogprob : Option ℚ
deriving DecidableEq, Repr

structure DeepSeekSelectedLogprobReceipt where
  configId : ℕ
  selectedLogprob : Option ℚ
  topLogprobs : List DeepSeekTopLogprob := []
deriving DecidableEq, Repr

/-- The tokens that a plan brings a request. -/
structure DeepSeekAcceptedTokenBatch where
  tokenIds : List ℕ
  finishReason : DeepSeekFinishReason := .none
  samplingReceipts : List DeepSeekSamplingReceipt := []
  selectedLogprobs : List DeepSeekSelectedLogprobReceipt := []
deriving DecidableEq, Repr

/-- The accepted tokens of a request and their limits. -/
structure DeepSeekLedger where
  promptTokenCount : ℕ
  maximumCompletionTokens : ℕ
  minimumCompletionTokens : ℕ
  tokenIds : List ℕ := []
  finishReason : DeepSeekFinishReason := .none
  sampling : Option DeepSeekRequestSamplingConfig := none
  sampleOrdinal : ℕ := 0
  selectedLogprobs : List (Option ℚ) := []
  topLogprobs : List (List DeepSeekTopLogprob) := []
deriving DecidableEq, Repr

/-- Batches that wait for their plan to complete. -/
structure DeepSeekTentativeAccepted where
  planSequence : ℕ
  batches : List DeepSeekAcceptedTokenBatch
deriving DecidableEq, Repr

/-- The requests, their ledgers and the one execution. -/
structure DeepSeekControlPlane where
  engineEpoch : ℕ
  shared : DeepSeekPipelineShared
  execution : Option DeepSeekPipelineExecution := none
  outputCredits : OutputBurstCreditPool
  currentOutputBurst : Option OutputBurstLease := none
  currentOutputOwners : List DeepSeekRequestIdentity := []
  pendingOutputBursts : List (Option OutputBurstLease) := List.replicate kBoundaryCredits none
  pendingOutputOwners : List (Option (List DeepSeekRequestIdentity)) :=
    List.replicate kBoundaryCredits none
  ledgers : ℕ × ℕ → Option DeepSeekLedger := fun _ => none
  tentativeAccepted : Option DeepSeekTentativeAccepted := none

/-- The key of the ledger of a request. -/
def DeepSeekRequestIdentity.key (identity : DeepSeekRequestIdentity) : ℕ × ℕ :=
  (identity.requestId, identity.requestGeneration)

/-! ## Accepted tokens -/

namespace DeepSeekLedger

/-- The ranked candidates of one token, after those already checked. -/
def checkTopLogprobs (token : ℕ) (selected : Option ℚ) :
    List DeepSeekTopLogprob → List DeepSeekTopLogprob → Result Unit
  | _, [] => .ok ()
  | prior, candidate :: rest =>
    let rises : Bool :=
      match prior.getLast?.bind fun earlier => earlier.logprob, candidate.logprob with
      | some earlier, some later => earlier < later
      | _, _ => false
    if candidate.tokenId ≥ 129280 ∨ candidate.logprob = none ∨
        candidate.rank ≠ prior.length + 1 ∨ rises then
      .error (.invalidArgument "DeepSeek ranked top logprob receipt is invalid")
    else if candidate.tokenId = token ∧ candidate.logprob ≠ selected then
      .error (.invalidArgument "DeepSeek selected and ranked logprobs disagree")
    else if prior.any fun earlier => earlier.tokenId = candidate.tokenId then
      .error (.invalidArgument "DeepSeek ranked top logprob tokens are duplicated")
    else checkTopLogprobs token selected (prior ++ [candidate]) rest

/-- The selected log probabilities of a batch. -/
def checkSelectedLogprobs (config : DeepSeekRequestSamplingConfig) :
    List (ℕ × DeepSeekSelectedLogprobReceipt) → Result Unit
  | [] => .ok ()
  | (token, receipt) :: rest =>
    if receipt.configId ≠ config.configId ∨ receipt.selectedLogprob = none then
      .error (.invalidArgument "DeepSeek selected logprob receipt is stale or invalid")
    else if receipt.topLogprobs.length ≠ config.topLogprobsCount then
      .error (.invalidArgument "DeepSeek top logprob cardinality differs")
    else
      match checkTopLogprobs token receipt.selectedLogprob [] receipt.topLogprobs with
      | .error status => .error status
      | .ok () => checkSelectedLogprobs config rest

/-- The sampling receipts of a batch, with the receipts beside them. -/
def checkSamplingReceipts (config : DeepSeekRequestSamplingConfig)
    (selected : List DeepSeekSelectedLogprobReceipt) :
    ℕ → ℕ → List DeepSeekSamplingReceipt → Result Unit
  | _, _, [] => .ok ()
  | ordinal, index, receipt :: rest =>
    if receipt.configId ≠ config.configId ∨ receipt.sampleOrdinal ≠ ordinal + index ∨
        receipt.selectedLogprob = none then
      .error (.invalidArgument "DeepSeek stochastic sampling receipt is stale or invalid")
    else if selected ≠ [] ∧ (selected[index]?.bind fun beside => beside.selectedLogprob) ≠
          receipt.selectedLogprob then
      .error (.invalidArgument "DeepSeek sampling and logprob receipts disagree")
    else checkSamplingReceipts config selected ordinal (index + 1) rest

variable (ledger : DeepSeekLedger)

section

variable (batch : DeepSeekAcceptedTokenBatch)

/-- The receipts of a batch against the configuration of the request. -/
def checkReceipts : Result Unit :=
  match ledger.sampling with
  | none =>
    if batch.samplingReceipts ≠ [] ∨ batch.selectedLogprobs ≠ [] then
      .error (.invalidArgument "DeepSeek sampling receipt has no request configuration")
    else .ok ()
  | some config =>
    if batch.selectedLogprobs ≠ [] ∧ batch.selectedLogprobs.length ≠ batch.tokenIds.length then
      .error (.invalidArgument "DeepSeek selected logprob cardinality differs")
    else
      match checkSelectedLogprobs config (batch.tokenIds.zip batch.selectedLogprobs) with
      | .error status => .error status
      | .ok () =>
        match config.mode with
        | .greedy =>
          if batch.samplingReceipts ≠ [] then
            .error (.invalidArgument "DeepSeek greedy result must not consume RNG receipts")
          else .ok ()
        | .stochastic =>
          if batch.samplingReceipts.length ≠ batch.tokenIds.length then
            .error (.invalidArgument "DeepSeek stochastic result receipt cardinality differs")
          else
            checkSamplingReceipts config batch.selectedLogprobs
              ledger.sampleOrdinal 0 batch.samplingReceipts

/-- A batch fits the ledger of its request. -/
def validateBatch : Result Unit :=
  let target := ledger.tokenIds.length + batch.tokenIds.length
  if ledger.finishReason ≠ .none ∨ batch.tokenIds = [] ∨ batch.tokenIds.length >
        ledger.maximumCompletionTokens - ledger.tokenIds.length then
    .error (.failedPrecondition "DeepSeek accepted-token batch exceeds live ledger")
  else if batch.tokenIds.any fun token => token ≥ 129280 then
    .error (.invalidArgument "DeepSeek accepted token is outside vocabulary")
  else
    match ledger.checkReceipts batch with
    | .error status => .error status
    | .ok () =>
      if (batch.finishReason = .stop ∨ batch.finishReason = .toolCalls) ∧
          target < ledger.minimumCompletionTokens then
        .error (.invalidArgument "DeepSeek terminal violates min_tokens")
      else if batch.finishReason = .length ∧ target ≠ ledger.maximumCompletionTokens then
        .error (.invalidArgument "DeepSeek length finish differs from max_tokens")
      else .ok ()

/-- Append the tokens of a batch. -/
def accept : DeepSeekLedger :=
  let tokens := ledger.tokenIds ++ batch.tokenIds
  { ledger with
    tokenIds := tokens
    finishReason :=
      if batch.finishReason = .none ∧ tokens.length = ledger.maximumCompletionTokens then .length
      else batch.finishReason
    sampleOrdinal := ledger.sampleOrdinal + batch.samplingReceipts.length
    selectedLogprobs :=
      ledger.selectedLogprobs ++ batch.selectedLogprobs.map fun receipt => receipt.selectedLogprob
    topLogprobs :=
      ledger.topLogprobs ++ batch.selectedLogprobs.map fun receipt => receipt.topLogprobs }

end

/-- What the ledger shows to the caller. -/
def snapshot : DeepSeekAcceptedTokenSnapshot where
  tokenIds := ledger.tokenIds
  acceptedCompletionCount := ledger.tokenIds.length
  modelProcessedLength :=
    if ledger.tokenIds.length = 0 then ledger.promptTokenCount
    else ledger.promptTokenCount + ledger.tokenIds.length - 1
  pendingInputToken :=
    if ledger.tokenIds.length ≠ 0 ∧ ledger.finishReason = .none then ledger.tokenIds.getLast?
    else none
  finishReason := ledger.finishReason
  sampleOrdinal := ledger.sampleOrdinal
  selectedLogprobs := ledger.selectedLogprobs
  topLogprobs := ledger.topLogprobs
  minimumCompletionTokens := ledger.minimumCompletionTokens

end DeepSeekLedger

/-- The checks of a sampling configuration on its own. -/
def DeepSeekRequestSamplingConfig.valid (config : DeepSeekRequestSamplingConfig) : Bool :=
  let stops := config.stopTokenIds.take config.stopTokenCount
  let validStops : Bool :=
    config.stopTokenCount ≤ 16 ∧ (∀ id ∈ config.stopTokenIds.drop config.stopTokenCount, id = 0) ∧
      (∀ id ∈ stops, id < 129280) ∧ stops.Nodup
  let validMode : Bool :=
    match config.mode with
    | .greedy => config.temperature = some 0 ∧ config.topP = some 1 ∧ config.topK = none
    | .stochastic =>
      (∃ value ∈ config.temperature, 0 < value ∧ value ≤ 2) ∧
        (∃ value ∈ config.topP, 0 < value ∧ value ≤ 1) ∧
        ∀ count ∈ config.topK, 0 < count ∧ count ≤ 129280
  validMode ∧ config.topLogprobsCount ≤ 20 ∧
    (config.logprobsEnabled ∨ config.topLogprobsCount = 0) ∧ validStops

namespace DeepSeekControlPlane

def create (engineEpoch : ℕ) (capacity : DeepSeekPipelineCapacity) : Result DeepSeekControlPlane :=
  if engineEpoch = 0 then .error (.invalidArgument "DeepSeek control epoch must be nonzero")
  else
    match DeepSeekPipelineResourceSet.create capacity with
    | .error status => .error status
    | .ok resources =>
      match OutputBurstCreditPool.create ⟨kBoundaryCredits, 1, 5, 64, 1048576⟩ with
      | .error status => .error status
      | .ok credits => .ok { engineEpoch, shared := ⟨{}, resources⟩, outputCredits := credits }

variable (plane : DeepSeekControlPlane) (requests : DeepSeekRequestRegistry)

def setRequests : DeepSeekControlPlane := { plane with shared := { plane.shared with requests } }

def setLedger (key : ℕ × ℕ) (ledger : Option DeepSeekLedger) : DeepSeekControlPlane :=
  { plane with ledgers := Function.update plane.ledgers key ledger }

def executionLive : Bool := plane.execution.isSome

/-! ## Requests -/

def submit (id generation : ℕ) : DeepSeekControlPlane × Result Unit :=
  let submitted := plane.shared.requests.submit id generation
  (plane.setRequests submitted.1, submitted.2)

def finishRequest (id generation : ℕ) : DeepSeekControlPlane × Result Unit :=
  let finished := plane.shared.requests.finish id generation
  (plane.setRequests finished.1, finished.2)

def validateRetire (id generation : ℕ) : Result Unit :=
  match plane.shared.requests.validateRetire id generation with
  | .error status => .error status
  | .ok () =>
    if plane.pendingOutputOwners.any fun owners =>
        (owners.getD []).any fun identity =>
          identity.requestId = id ∧ identity.requestGeneration = generation then
      .error (.failedPrecondition "DeepSeek request cannot retire before output acknowledgement")
    else .ok ()

def retire (id generation : ℕ) : DeepSeekControlPlane × Result Unit :=
  match plane.validateRetire id generation with
  | .error status => (plane, .error status)
  | .ok () =>
    match plane.shared.requests.retire id generation with
    | (requests, .error status) => (plane.setRequests requests, .error status)
    | (requests, .ok ()) => ((plane.setRequests requests).setLedger (id, generation) none, .ok ())

/-- Open the ledger of an admitted request. -/
def configureLedger (id generation prompt maximum minimum : ℕ) :
    DeepSeekControlPlane × Result Unit :=
  match plane.shared.requests.state id generation with
  | .error status => (plane, .error status)
  | .ok state =>
    if state ≠ .admitted ∨ prompt = 0 ∨ maximum = 0 ∨
        minimum > maximum ∨ prompt > u64Max - maximum then
      (plane, .error (.invalidArgument "DeepSeek accepted-token ledger is invalid"))
    else if (plane.ledgers (id, generation)).isSome then
      (plane, .error (.failedPrecondition "DeepSeek accepted-token ledger already exists"))
    else
      (plane.setLedger (id, generation) (some
          { promptTokenCount := prompt
            maximumCompletionTokens := maximum
            minimumCompletionTokens := minimum }), .ok ())

/-- Set the sampling of an unused ledger. -/
def configureSampling (id generation : ℕ) (config : DeepSeekRequestSamplingConfig) :
    DeepSeekControlPlane × Result Unit :=
  let refused :=
    (plane, .error (.failedPrecondition
      "DeepSeek request sampling configuration is not installable"))
  match plane.shared.requests.state id generation with
  | .error status => (plane, .error status)
  | .ok state =>
    match plane.ledgers (id, generation) with
    | none => refused
    | some ledger =>
      if state ≠ .admitted ∨ config.configId = 0 ∨ ¬ config.valid ∨
          ledger.sampling.isSome ∨ ledger.tokenIds ≠ [] then
        refused
      else (plane.setLedger (id, generation) (some { ledger with sampling := some config }), .ok ())

def samplingConfig (id generation : ℕ) : Result DeepSeekRequestSamplingConfig :=
  match (plane.ledgers (id, generation)).bind fun ledger => ledger.sampling with
  | none => .error (.failedPrecondition "DeepSeek request sampling configuration is unavailable")
  | some config => .ok config

def acceptedTokenSnapshot (id generation : ℕ) : Result DeepSeekAcceptedTokenSnapshot :=
  match plane.ledgers (id, generation) with
  | none => .error (.failedPrecondition "DeepSeek accepted-token ledger is missing")
  | some ledger => .ok ledger.snapshot

/-! ## Plans -/

/--
The end of `cancel` and of `stage_reject`: an aborted execution gives its
credit back.  Only `stage_reject` also drops the staged tokens.
-/
def releaseAborted (dropsStaged : Bool) (status : Result Unit) :
    DeepSeekControlPlane × Result Unit :=
  let released (plane : DeepSeekControlPlane) :=
    { plane with
      execution := none
      tentativeAccepted := if dropsStaged then none else plane.tentativeAccepted }
  match plane.execution with
  | none => (plane, status)
  | some execution =>
    if execution.state ≠ .aborted then (plane, status)
    else
      match plane.currentOutputBurst with
      | none => (released plane, status)
      | some lease =>
        match plane.outputCredits.abort lease with
        | (credits, .error refused) => ({ plane with outputCredits := credits }, .error refused)
        | (credits, .ok ()) =>
          (released
            { plane with
              outputCredits := credits
              currentOutputBurst := none
              currentOutputOwners := [] }, status)

variable (execution : DeepSeekPipelineExecution)

/-- The checks of a cancellation of a request in the current plan. -/
def validateCancelActive (id generation : ℕ) : Result Unit :=
  match execution.validateCancelRequest plane.shared id generation with
  | .error status => .error status
  | .ok () =>
    if execution.coordinator.isPreparing then
      match plane.currentOutputBurst with
      | none => .error (.internal "DeepSeek prepared cancellation lost output burst ownership")
      | some lease => plane.outputCredits.validateAbort lease
    else .ok ()

def cancelInactive (id generation : ℕ) : DeepSeekControlPlane × Result Unit :=
  let cancelled := plane.shared.requests.cancel id generation
  (plane.setRequests cancelled.1).releaseAborted false cancelled.2

/-- Cancel a request, and a plan in preparation with it. -/
def cancel (id generation : ℕ) : DeepSeekControlPlane × Result Unit :=
  match plane.execution with
  | none => plane.cancelInactive id generation
  | some execution =>
    if ¬ execution.containsRequest id generation then plane.cancelInactive id generation
    else
      match plane.validateCancelActive execution id generation with
      | .error status => (plane, .error status)
      | .ok () =>
        match execution.cancelRequest plane.shared id generation with
        | (shared, execution, status) =>
          releaseAborted
            { plane with shared, execution := some execution } false status

/-- The staged batches against the ledgers of the requests. -/
def validateBatches (plane : DeepSeekControlPlane) :
    List (DeepSeekRequestIdentity × DeepSeekAcceptedTokenBatch) → Result Unit
  | [] => .ok ()
  | (identity, batch) :: rest =>
    match plane.ledgers identity.key with
    | none => .error (.failedPrecondition "DeepSeek accepted-token ledger is missing")
    | some ledger =>
      match ledger.validateBatch batch with
      | .error status => .error status
      | .ok () => plane.validateBatches rest

/-- Check and keep the batches of the current plan. -/
def stageAcceptedTokens (planSequence : ℕ) (batches : List DeepSeekAcceptedTokenBatch) :
    DeepSeekControlPlane × Result Unit :=
  let mismatched :=
    (plane, .error (.failedPrecondition
      "DeepSeek accepted-token result does not match committed plan"))
  match plane.execution with
  | none => mismatched
  | some execution =>
    if execution.state ≠ .committed ∨ execution.planSequence ≠ planSequence ∨
        plane.tentativeAccepted.isSome ∨
        batches.length ≠ execution.requestIdentities.length then
      mismatched
    else
      match plane.validateBatches (execution.requestIdentities.zip batches) with
      | .error status => (plane, .error status)
      | .ok () => ({ plane with tentativeAccepted := some ⟨planSequence, batches⟩ }, .ok ())

/-- Take a credit and prepare a plan on every stage. -/
def preparePlan (descriptor : DeepSeekPipelinePlanDescriptor)
    (identities : List DeepSeekRequestIdentity) :
    DeepSeekControlPlane × Result Unit :=
  if plane.execution.isSome ∨ plane.currentOutputBurst.isSome ∨ plane.currentOutputOwners ≠ [] then
    (plane, .error (.resourceExhausted "DeepSeek control plane already owns an active execution"))
  else if descriptor.engineEpoch ≠ plane.engineEpoch then
    (plane, .error (.failedPrecondition "DeepSeek plan epoch differs from control plane"))
  else
    match plane.outputCredits.acquire descriptor.planSequence .deepSeek 5 64 1048576 with
    | (credits, .error status) => ({ plane with outputCredits := credits }, .error status)
    | (credits, .ok lease) =>
      match DeepSeekPipelineExecution.create plane.shared descriptor identities with
      | (shared, .error status) =>
        match credits.abort lease with
        | (credits, .error _) =>
          ({ plane with outputCredits := credits, shared },
            .error (.internal "DeepSeek output credit rollback failed"))
        | (credits, .ok ()) => ({ plane with outputCredits := credits, shared }, .error status)
      | (shared, .ok execution) =>
        ({ plane with
            outputCredits := credits
            shared
            currentOutputBurst := some lease
            currentOutputOwners := identities
            execution := some execution }, .ok ())

variable (rank : ℕ)

def stageReady : DeepSeekControlPlane × Result Unit :=
  match plane.execution with
  | none => (plane, .error (.failedPrecondition "DeepSeek has no active execution"))
  | some execution =>
    let staged := execution.stageReady rank
    ({ plane with execution := some staged.1 }, staged.2)

/-- The execution and the credit that it holds. -/
def activeExecution : Result (DeepSeekPipelineExecution × OutputBurstLease) :=
  match plane.execution, plane.currentOutputBurst with
  | some execution, some lease => .ok (execution, lease)
  | _, _ => .error (.failedPrecondition "DeepSeek has no active execution")

/-- A rank refuses the plan in preparation. -/
def stageReject (reason : Result Unit) : DeepSeekControlPlane × Result Unit :=
  match plane.activeExecution with
  | .error status => (plane, .error status)
  | .ok (execution, lease) =>
    match execution.validateStageReject plane.shared rank with
    | .error status => (plane, .error status)
    | .ok () =>
      match plane.outputCredits.validateAbort lease with
      | .error status => (plane, .error status)
      | .ok () =>
        match execution.stageReject plane.shared rank reason with
        | (shared, execution, status) =>
          releaseAborted
            { plane with shared, execution := some execution } true status

def validateCommitPlan : Result Unit :=
  match plane.activeExecution with
  | .error status => .error status
  | .ok (execution, lease) =>
    match plane.outputCredits.validateCommit lease with
    | .error status => .error status
    | .ok () => execution.validateCommit plane.shared

/-- Commit the plan that every rank is ready for. -/
def commitPlan : DeepSeekControlPlane × Result Unit :=
  match plane.validateCommitPlan, plane.activeExecution with
  | .error status, _ => (plane, .error status)
  | .ok (), .error status => (plane, .error status)
  | .ok (), .ok (execution, lease) =>
    match plane.outputCredits.commit lease with
    | (credits, .error status) => ({ plane with outputCredits := credits }, .error status)
    | (credits, .ok ()) =>
      match execution.commit plane.shared with
      | (shared, execution, status) =>
        ({ plane with outputCredits := credits, shared, execution := some execution }, status)

/-- The first slot for a completed plan. -/
def pendingSlot : Option ℕ := plane.pendingOutputBursts.findIdx? fun lease => lease.isNone

/-- The slot that a completed plan goes to, and the owners it belongs to. -/
def checkOwnership : Result Unit :=
  match plane.pendingSlot with
  | none => .error (.internal "DeepSeek output burst has no pending owner slot")
  | some index =>
    if (plane.pendingOutputOwners[index]?.join).isSome then
      .error (.internal "DeepSeek output owner slot is already occupied")
    else if plane.currentOutputOwners.length ≠ execution.requestIdentities.length then
      .error (.internal "DeepSeek current output ownership drifted")
    else if (plane.currentOutputOwners.zip execution.requestIdentities).any fun pair =>
        pair.1.key ≠ pair.2.key then
      .error (.internal "DeepSeek current output identity drifted")
    else .ok ()

/-- The staged tokens of a plan that is about to complete. -/
def checkStaged : Result Unit :=
  match plane.tentativeAccepted with
  | none => .ok ()
  | some tentative =>
    if tentative.batches.length ≠ execution.requestIdentities.length then
      .error (.internal "DeepSeek accepted-token staging cardinality drifted")
    else
      DeepSeekPipelineExecution.validateAll (fun identity =>
          match plane.shared.requests.state identity.requestId identity.requestGeneration with
          | .error status => .error status
          | .ok state =>
            if state = .committed ∧ plane.ledgers identity.key = none then
              .error (.internal "DeepSeek accepted-token ledger disappeared before completion")
            else .ok ())
        execution.requestIdentities

/-- Everything that a completion checks first. -/
def prepareStageComplete : Result Unit :=
  match plane.activeExecution with
  | .error status => .error status
  | .ok (execution, lease) =>
    match plane.checkOwnership execution with
    | .error status => .error status
    | .ok () =>
      match plane.outputCredits.validateTransfer lease with
      | .error status => .error status
      | .ok () =>
        match plane.checkStaged execution with
        | .error status => .error status
        | .ok () => execution.validateStageComplete plane.shared rank

/-- The request is admitted, or complete, after its plan. -/
def survives (identity : DeepSeekRequestIdentity) : Bool :=
  match requests.state identity.requestId identity.requestGeneration with
  | .ok .admitted => true
  | .ok .completed => true
  | _ => false

/--
Append the staged tokens of the requests that survive.  The ledger of such a
request exists.
-/
def acceptBatches (requests : DeepSeekRequestRegistry) : (ℕ × ℕ → Option DeepSeekLedger) →
      List (DeepSeekRequestIdentity × DeepSeekAcceptedTokenBatch) → (ℕ × ℕ → Option DeepSeekLedger)
  | ledgers, [] => ledgers
  | ledgers, (identity, batch) :: rest =>
    if survives requests identity then
      acceptBatches requests (Function.update ledgers identity.key
          ((ledgers identity.key).map fun ledger => ledger.accept batch))
        rest
    else acceptBatches requests ledgers rest

/-- The ledgers after the staged tokens are taken over. -/
def acceptStaged : ℕ × ℕ → Option DeepSeekLedger :=
  match plane.tentativeAccepted with
  | none => plane.ledgers
  | some tentative =>
    acceptBatches plane.shared.requests plane.ledgers
      (execution.requestIdentities.zip tentative.batches)

/-- The burst of a finished plan waits for its acknowledgement. -/
def parkBurst (lease : OutputBurstLease) : DeepSeekControlPlane :=
  { plane with
    pendingOutputBursts := plane.pendingOutputBursts.set (plane.pendingSlot.getD 0) (some lease)
    pendingOutputOwners := plane.pendingOutputOwners.set (plane.pendingSlot.getD 0)
        (some plane.currentOutputOwners)
    currentOutputBurst := none
    currentOutputOwners := []
    tentativeAccepted := none }

/-- A rank completed; the last one settles the plan. -/
def stageComplete : DeepSeekControlPlane × Result Unit :=
  match plane.prepareStageComplete rank, plane.activeExecution with
  | .error status, _ => (plane, .error status)
  | .ok (), .error status => (plane, .error status)
  | .ok (), .ok (execution, lease) =>
    match execution.stageComplete plane.shared rank with
    | (shared, execution, status) =>
      let staged := { plane with shared, execution := some execution }
      if Result.isOk status ∧ execution.state = .complete then
        match staged.outputCredits.transfer lease with
        | (credits, .error refused) => ({ staged with outputCredits := credits }, .error refused)
        | (credits, .ok ()) =>
          ({ staged.parkBurst lease with
              outputCredits := credits
              ledgers := staged.acceptStaged execution
              execution := none }, status)
      else (staged, status)

/-- Free the credit of a consumed plan. -/
def acknowledgeOutputPlan (planSequence : ℕ) : DeepSeekControlPlane × Result Unit :=
  let found :=
    plane.pendingOutputBursts.findIdx? fun lease =>
      (lease.map fun lease => lease.planSequence) = some planSequence
  match found, found.bind fun index =>
      plane.pendingOutputBursts[index]?.join with
  | some index, some lease =>
    if (plane.pendingOutputOwners[index]?.join).isNone then
      (plane, .error (.internal "DeepSeek output ACK lost request ownership"))
    else
      match plane.outputCredits.release lease with
      | (credits, .error status) => ({ plane with outputCredits := credits }, .error status)
      | (credits, .ok ()) =>
        ({ plane with
            outputCredits := credits
            pendingOutputBursts := plane.pendingOutputBursts.set index none
            pendingOutputOwners := plane.pendingOutputOwners.set index none }, .ok ())
  | _, _ => (plane, .error (.failedPrecondition "DeepSeek output ACK is stale or forged"))

/-- The ownership checks of `stage_failed`, with their own texts. -/
def checkFailedOwnership : Result Unit :=
  match plane.pendingSlot with
  | none => .error (.internal "DeepSeek failed output burst has no pending owner slot")
  | some index =>
    if (plane.pendingOutputOwners[index]?.join).isSome then
      .error (.internal "DeepSeek failed output owner slot is occupied")
    else if plane.currentOutputOwners.length ≠ execution.requestIdentities.length then
      .error (.internal "DeepSeek failed output ownership drifted")
    else if (plane.currentOutputOwners.zip execution.requestIdentities).any fun pair =>
        pair.1.key ≠ pair.2.key then
      .error (.internal "DeepSeek failed output identity drifted")
    else .ok ()

/-- A rank failed, and the engine with it. -/
def stageFailed (reason : Result Unit) : DeepSeekControlPlane × Result Unit :=
  match plane.activeExecution with
  | .error status => (plane, .error status)
  | .ok (execution, lease) =>
    match execution.validateStageFailed plane.shared rank with
    | .error status => (plane, .error status)
    | .ok () =>
      match plane.checkFailedOwnership execution with
      | .error status => (plane, .error status)
      | .ok () =>
        match plane.outputCredits.validateTransfer lease with
        | .error status => (plane, .error status)
        | .ok () =>
          match execution.stageFailed plane.shared rank reason with
          | (shared, execution, status) =>
            let failed := { plane with shared, execution := some execution }
            if execution.state = .poisoned then
              match failed.outputCredits.transfer lease with
              | (credits, .error refused) =>
                ({ failed with outputCredits := credits }, .error refused)
              | (credits, .ok ()) =>
                (({ failed.parkBurst lease with outputCredits := credits }).setRequests
                  shared.requests.failAll, status)
            else (failed, status)

def failAll : DeepSeekControlPlane := plane.setRequests plane.shared.requests.failAll

def cancelAll : DeepSeekControlPlane := plane.setRequests plane.shared.requests.cancelAll

/-! ## Runs -/

inductive Action where
  | submit (id generation : ℕ)
  | cancel (id generation : ℕ)
  | finishRequest (id generation : ℕ)
  | retire (id generation : ℕ)
  | configureLedger (id generation prompt maximum minimum : ℕ)
  | configureSampling (id generation : ℕ) (config : DeepSeekRequestSamplingConfig)
  | preparePlan (descriptor : DeepSeekPipelinePlanDescriptor)
    (identities : List DeepSeekRequestIdentity)
  | stageReady (rank : ℕ)
  | stageReject (rank : ℕ) (reason : Result Unit)
  | commitPlan
  | stageAcceptedTokens (planSequence : ℕ) (batches : List DeepSeekAcceptedTokenBatch)
  | stageComplete (rank : ℕ)
  | acknowledgeOutputPlan (planSequence : ℕ)
  | stageFailed (rank : ℕ) (reason : Result Unit)
  | failAll
  | cancelAll

def execute : Action → DeepSeekControlPlane × Result Unit
  | .submit id generation => plane.submit id generation
  | .cancel id generation => plane.cancel id generation
  | .finishRequest id generation => plane.finishRequest id generation
  | .retire id generation => plane.retire id generation
  | .configureLedger id generation prompt maximum minimum =>
    plane.configureLedger id generation prompt maximum minimum
  | .configureSampling id generation config => plane.configureSampling id generation config
  | .preparePlan descriptor identities => plane.preparePlan descriptor identities
  | .stageReady rank => plane.stageReady rank
  | .stageReject rank reason => plane.stageReject rank reason
  | .commitPlan => plane.commitPlan
  | .stageAcceptedTokens planSequence batches => plane.stageAcceptedTokens planSequence batches
  | .stageComplete rank => plane.stageComplete rank
  | .acknowledgeOutputPlan planSequence => plane.acknowledgeOutputPlan planSequence
  | .stageFailed rank reason => plane.stageFailed rank reason
  | .failAll => (plane.failAll, .ok ())
  | .cancelAll => (plane.cancelAll, .ok ())

end DeepSeekControlPlane

end Pih
