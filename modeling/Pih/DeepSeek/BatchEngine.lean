import Pih.Core.Status
import Mathlib.Data.Rat.Init

/-!
# The engine behind batched generation

The generator talks to an engine through a fixed set of calls.  Here an
engine is any state with one function for each call, so that what is proved
about the generator holds whatever the calls answer.
-/

namespace Pih

inductive DeepSeekFinishReason where
  | none
  | stop
  | length
  | toolCalls
deriving DecidableEq, Repr, Inhabited

/-- A ranked candidate; a number that is not finite is `none`. -/
structure DeepSeekTopLogprob where
  tokenId : ℕ
  logprob : Option ℚ
  rank : ℕ
deriving DecidableEq, Repr

/-- The accepted tokens of a request. -/
structure DeepSeekAcceptedTokenSnapshot where
  tokenIds : List ℕ := []
  acceptedCompletionCount : ℕ := 0
  modelProcessedLength : ℕ := 0
  pendingInputToken : Option ℕ := none
  finishReason : DeepSeekFinishReason := .none
  sampleOrdinal : ℕ := 0
  selectedLogprobs : List (Option ℚ) := []
  topLogprobs : List (List DeepSeekTopLogprob) := []
  minimumCompletionTokens : ℕ := 0
deriving DecidableEq, Repr, Inhabited

inductive DeepSeekSamplingMode where
  | greedy
  | stochastic
deriving DecidableEq, Repr, Inhabited

/-- A number that is not finite is `none`. -/
structure DeepSeekRequestSamplingConfig where
  configId : ℕ := 0
  mode : DeepSeekSamplingMode := .greedy
  effectiveSeed : ℕ := 0
  temperature : Option ℚ := some 0
  topP : Option ℚ := some 1
  topK : Option ℕ := none
  logprobsEnabled : Bool := false
  topLogprobsCount : ℕ := 0
  stopTokenIds : List ℕ := List.replicate 16 0
  stopTokenCount : ℕ := 0
deriving DecidableEq, Repr, Inhabited

/-- A request and its generation. -/
structure DeepSeekRequestIdentity where
  requestId : ℕ
  requestGeneration : ℕ
  terminalOnComplete : Bool := true
deriving DecidableEq, Repr

inductive DeepSeekPlanPhase where
  | prefill
  | decode
  | verify
  | drain
deriving DecidableEq, Repr

/-- What a plan tells every rank. -/
structure DeepSeekPipelinePlanDescriptor where
  engineEpoch : ℕ
  planSequence : ℕ
  phase : DeepSeekPlanPhase
  tokenCount : ℕ
  sequenceCount : ℕ
deriving DecidableEq, Repr

/-- The inputs of a plan that the generator fills in. -/
structure DeepSeekProductionRankPlanSeed where
  tokenIds : List ℕ := []
  positions : List ℕ := []
  tablePositionCount : ℕ := 0
deriving DecidableEq, Repr, Inhabited

/-- The calls of an engine, each on the state of the engine. -/
structure BatchEngine (Engine : Type) where
  bindExecutionThread : Engine → Engine × Result Unit
  submitRequest : Engine → ℕ → ℕ → Engine × Result Unit
  configureLedger : Engine → ℕ → ℕ → ℕ → ℕ → ℕ → Engine × Result Unit
  configureSampling : Engine → ℕ → ℕ → DeepSeekRequestSamplingConfig → Engine × Result Unit
  cancelRequest : Engine → ℕ → ℕ → Engine × Result Unit
  finishRequest : Engine → ℕ → ℕ → Engine × Result Unit
  retireRequest : Engine → ℕ → ℕ → Engine × Result Unit
  prepareProductionPipeline : Engine → DeepSeekPipelinePlanDescriptor →
    List DeepSeekRequestIdentity → List DeepSeekProductionRankPlanSeed →
    ℕ → ℕ → ℕ → Bool → Engine × Result Unit
  commitPipeline : Engine → Engine × Result Unit
  executionLive : Engine → Bool
  advanceBoundPipeline : Engine → Engine × Result Unit
  acknowledgeOutputPlan : Engine → ℕ → Engine × Result Unit
  acceptedTokenSnapshot : Engine → ℕ → ℕ → Result DeepSeekAcceptedTokenSnapshot
  failAll : Engine → Engine
  epoch : Engine → ℕ
  worldSize : Engine → ℕ

namespace BatchEngine

variable {Engine : Type} (api : BatchEngine Engine)

/--
The loop that waits for a committed plan.  The number says how often the
pipeline is polled before the drain deadline passes.
-/
def drain : ℕ → Engine → Engine × Result Unit
  | polls, engine =>
    if ¬ api.executionLive engine then (engine, .ok ())
    else
      match polls with
      | 0 => (engine, .error ⟨.deadlineExceeded, "DeepSeek batch device drain timed out"⟩)
      | polls + 1 =>
        match api.advanceBoundPipeline engine with
        | (advanced, .ok ()) => drain polls advanced
        | (advanced, .error status) =>
          if status.code ≠ .unavailable then (advanced, .error status)
          else drain polls advanced

/-- Prepare, commit, drain and acknowledge a plan. -/
def runPlan (engine : Engine) (descriptor : DeepSeekPipelinePlanDescriptor)
    (identities : List DeepSeekRequestIdentity)
    (seed : DeepSeekProductionRankPlanSeed) (sequences tokens : ℕ)
    (sample : Bool) (polls : ℕ) : Engine × Result Unit :=
  match api.prepareProductionPipeline engine descriptor identities
      (List.replicate (api.worldSize engine) seed) sequences tokens 129280
      sample with
  | (prepared, .error status) => (prepared, .error status)
  | (prepared, .ok ()) =>
    match api.commitPipeline prepared with
    | (committed, .error status) => (committed, .error status)
    | (committed, .ok ()) =>
      match api.drain polls committed with
      | (drained, .error status) => (drained, .error status)
      | (drained, .ok ()) => api.acknowledgeOutputPlan drained descriptor.planSequence

/-- Cancel or finish a request, then retire it. -/
def retire (engine : Engine) (id generation : ℕ) (cancel : Bool) : Engine × Result Unit :=
  let closed :=
    if cancel then api.cancelRequest engine id generation
    else api.finishRequest engine id generation
  match closed with
  | (closed, .error status) => (closed, .error status)
  | (closed, .ok ()) => api.retireRequest closed id generation

/-- The calls with which a request is admitted after it was submitted. -/
def configure (engine : Engine) (id generation prompt maximum minimum : ℕ)
    (sampling : DeepSeekRequestSamplingConfig) : Engine × Result Unit :=
  match api.configureLedger engine id generation prompt maximum minimum with
  | (configured, .error status) => (configured, .error status)
  | (configured, .ok ()) =>
    api.configureSampling configured id generation
      { sampling with configId := generation }

end BatchEngine

end Pih
