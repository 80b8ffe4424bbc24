import KairosRisk.Lib.Feed
import KairosRisk.Lib.Run
import KairosRisk.Config
import KairosRisk.Strategy
import KairosRisk.CanaryInstrument
import KairosRisk.Paper
import KairosRisk.CoordinatorSteps
import KairosRisk.AccountAuthority
import KairosRisk.Approvals
import KairosRisk.Conservation
import KairosRisk.Exclusivity
import KairosRisk.Recovery
import KairosRisk.RegimeBindings
import KairosRisk.Scenario
import KairosRisk.CanaryAuthorization
import KairosRisk.Service
import KairosRisk.Authority
import KairosRisk.DecisionCache
import KairosRisk.DecisionTime
import KairosRisk.LiveContracts
import KairosRisk.Live
import KairosRisk.LiveSizing
import KairosRisk.LiveProvenance
import KairosRisk.LiveCeilings
import KairosRisk.RecoveryOrder
import KairosRisk.ReplayIdentity
import KairosRisk.ReleasedApprovals
import KairosRisk.Lib.Monitor
import KairosRisk.Wakeups
import KairosRisk.ForeignAccounts
import KairosRisk.CircuitBreaker
import KairosRisk.ModeHistory
import KairosRisk.AccountFeed
import KairosRisk.AllocationFeed
import KairosRisk.PaperLeverage
import KairosRisk.Lib.DecimalText
import KairosRisk.Canary
import KairosRisk.CanaryAgreement
import KairosRisk.PaperAdmission
import KairosRisk.ReservationOrder
import KairosRisk.OperatorRefusal
import KairosRisk.Lib.Grid
import KairosRisk.LiveInstrument
import KairosRisk.Lib.Decimal
import KairosRisk.BindingRefusal
import KairosRisk.CanaryCodec
import KairosRisk.CanaryLot
import KairosRisk.VenueFeed
import KairosRisk.CapitalBudgetProposal
import KairosRisk.CapitalTightening
import KairosRisk.CapitalGrowth
import KairosRisk.Lib.FloatGrid
import KairosRisk.FloatConversion
import KairosRisk.CapitalAdoption
import KairosRisk.Pipeline
import KairosRisk.PipelineLimits
import KairosRisk.ProtectiveExit
import KairosRisk.Commands
import KairosRisk.SelectedExposure
import KairosRisk.AccountRepublication
import KairosRisk.Simulation
import KairosRisk.SimulationAdmission
import KairosRisk.Lib.Standing
import KairosRisk.Lib.Guarded
import KairosRisk.Lib.Announcer
import KairosRisk.LegacyRuntime
import KairosRisk.LegacyOrders
import KairosRisk.CoordinatorBounds
import KairosRisk.CanaryPreflight
import KairosRisk.CanarySession
import KairosRisk.AdmissionOrder
import KairosRisk.Lib.Agree
import KairosRisk.Lib.Batch
import KairosRisk.InstrumentFetch
import KairosRisk.StrategyAllowlist
import KairosRisk.Evaluation
import KairosRisk.Lib.Traces
import KairosRisk.FeedInterleaving
import KairosRisk.Lib.Logged
import KairosRisk.CanaryRunner
