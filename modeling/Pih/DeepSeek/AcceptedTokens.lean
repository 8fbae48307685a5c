import Pih.DeepSeek.ControlCredits
import Pih.DeepSeek.EngineSampling
import Mathlib.Data.List.ReduceOption

/-!
# The accepted-token ledgers over whole runs

The ledgers of the control plane hold what completed plans brought, whatever
the calls are.  The batches that the engine stages are not refused for an
early end, if the requests that are still far from their minimum have a
sampling configuration: without one the engine suppresses nothing.
-/

namespace Pih

namespace DeepSeekEngine

open DeepSeekControlPlane (ControlHistory ControlRun received oneRank oneRankCapacity)

def oneRankEngine : DeepSeekEngine where
  controlPlane := oneRank
  freeAttentionStateSlots := 1

/-- A request that needs three tokens, up to its first committed plan. -/
def firstToken (configure : List (DeepSeekEngine → Action)) : List (DeepSeekEngine → Action) :=
  [fun _ => .submitRequest 7 1 .done (.ok ()), fun _ => .configureLedger 7 1 1 4 3] ++ configure ++
  [fun _ =>
      .prepareProductionPipeline ⟨1, 1, .prefill, 1, 1⟩ [⟨7, 1, false⟩] [⟨[5], [0], 8⟩] true {},
    fun _ => .commitPipeline (.ok ()) (.ok ())]

def greedySampling : List (DeepSeekEngine → Action) :=
  [fun _ => .configureSampling 7 1 { configId := 1 }]

/-- One plan brings a token to a request of the control plane. -/
def oneToken : List (DeepSeekControlPlane → DeepSeekControlPlane.Action) :=
  [fun _ => .submit 7 1, fun _ => .configureLedger 7 1 1 4 3,
    fun _ => .preparePlan ⟨1, 1, .prefill, 1, 1⟩ [⟨7, 1, false⟩],
    fun _ => .stageReady 0, fun _ => .commitPlan,
    fun _ => .stageAcceptedTokens 1 [{ tokenIds := [5] }],
    fun _ => .stageComplete 0]

end DeepSeekEngine

end Pih
