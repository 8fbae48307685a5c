import Pih.Core.Fips180
import Pih.DeepSeek.ChunkedPrefill
import Pih.DeepSeek.ExpertSubwave
import Pih.Scheduler.CreditConservation
import Pih.Scheduler.CompletionAtomicity
import Pih.Scheduler.RequestWords
import Pih.Scheduler.RequestExactness
import Pih.Scheduler.RoundFairness
import Pih.Qwen.KvSlotPool
import Pih.Qwen.KvSlotLedger
import Pih.Qwen.AdmissionCoordinator
import Pih.Qwen.GenerationStep
import Pih.DeepSeek.AttentionPagePool
import Pih.DeepSeek.AttentionTransaction
import Pih.DeepSeek.PageMoves
import Pih.DeepSeek.PageLedger
import Pih.DeepSeek.TransactionLedger
import Pih.DeepSeek.CommitAtomicity
import Pih.DeepSeek.PublishedLookup
import Pih.DeepSeek.PublishedPages
import Pih.DeepSeek.BatchEngine
import Pih.DeepSeek.BatchGeneration
import Pih.DeepSeek.BatchBoard
import Pih.DeepSeek.BatchSteps
import Pih.DeepSeek.BatchAnswers
import Pih.DeepSeek.RankServing
import Pih.DeepSeek.RankStages
import Pih.Library.FairRuns
import Pih.DeepSeek.RankCancellation
import Pih.DeepSeek.BatchWaiting
import Pih.DeepSeek.PipelineExecution
import Pih.DeepSeek.ControlPlane
import Pih.DeepSeek.ExecutionMoves
import Pih.DeepSeek.ControlEffects
import Pih.DeepSeek.ControlRuns
import Pih.Scheduler.CreditAccounts
import Pih.DeepSeek.ControlCredits
import Pih.DeepSeek.LedgerRuns
import Pih.DeepSeek.Engine
import Pih.DeepSeek.EngineSampling
import Pih.DeepSeek.AcceptedTokens
import Pih.Scheduler.SequenceRuns
import Pih.Microkernel.PluginTeardown
import Pih.Library.Tilings
import Pih.Model.SafetensorsHeader
import Pih.Core.CanonicalPreimages
import Pih.Scheduler.IdentityPreimages
import Pih.Scheduler.ControllerGuarantees
