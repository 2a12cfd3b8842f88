import StrategyLab.Runtime.TerminalStates
import StrategyLab.Runtime.StartRecovery
import StrategyLab.Runtime.RetryBound
import StrategyLab.Runtime.LeaseExclusivity
import StrategyLab.Runtime.QueueLog
import StrategyLab.Runtime.ReplayAccounting
import StrategyLab.Adapters.DeployChampion
import StrategyLab.Adapters.ActivationCrash
import StrategyLab.Adapters.FailedDeployment
import StrategyLab.Control.PromotedWinner
import StrategyLab.Control.VersionRetirement
import StrategyLab.Control.FailedApply
import StrategyLab.Control.LostActivation
import StrategyLab.Deploy.TruthfulOutcome
import StrategyLab.Deploy.StorageLifecycle
import StrategyLab.Backtest.PortfolioInvariant
import StrategyLab.Knowledge.ProviderOutage
import StrategyLab.Runtime.SelectedSymbols
import StrategyLab.Runtime.RestartTransparency
import StrategyLab.Runtime.StagnationRecovery
import StrategyLab.Research.LookbackMonotonicity
import StrategyLab.Control.LiveApprovalLaws
import StrategyLab.Adapters.CompletedResults
import StrategyLab.Adapters.RequestedPromotion
import StrategyLab.Control.SignCounters
import StrategyLab.Control.SpentChallenges
import StrategyLab.Research.SpentApprovals
import StrategyLab.Adapters.SettledHandoffs
import StrategyLab.Adapters.ExecutedPlans
import StrategyLab.Adapters.PaperEvidence
import StrategyLab.Adapters.WindowValidation
import StrategyLab.Research.ForwardTrades
import StrategyLab.Research.ForwardAlignment
import StrategyLab.Runtime.ClosedTrades
import StrategyLab.Runtime.PlannerSoundness
import StrategyLab.Runtime.AutomationRunners
import StrategyLab.Research.BoundedSelection
import StrategyLab.Research.CandidatePreference
import StrategyLab.Research.ExclusionDiagnostics
import StrategyLab.Research.FifoConservation
import StrategyLab.Learning.MemoryRestrictions
import StrategyLab.Research.FillTiming
import StrategyLab.Knowledge.RankingMonotonicity
import StrategyLab.Knowledge.IndependentVerdicts
import StrategyLab.Research.HypothesisStability
import StrategyLab.Research.RegimeAgreement
import StrategyLab.Research.SufficientKey
import StrategyLab.Learning.ExportRoundTrip
import StrategyLab.Learning.CompleteHistory
import StrategyLab.Research.ValidationHorizons
import StrategyLab.Research.PerformanceMetrics
import StrategyLab.Knowledge.TypoTolerance
import StrategyLab.Research.IndicatorRanges
import StrategyLab.Runtime.LongResponse
import StrategyLab.Research.ReloadedRules
import StrategyLab.Learning.FamilyPriors
