import Yevow.Models.Cascade.AbsorptionIsolation
import Yevow.Models.Cascade.CandleAccount
import Yevow.Models.Cascade.DetectorRuns
import Yevow.Models.Cascade.HeatCap
import Yevow.Models.Cascade.Lookahead
import Yevow.Models.DotCast.Creator.PayoutReplay
import Yevow.Models.DotCast.Funding.Ledger
import Yevow.Models.DotCast.Funding.Retry
import Yevow.Models.DotCast.Identifiers
import Yevow.Models.DotCast.Parimutuel.OrderIndependence
import Yevow.Models.DotCast.Parimutuel.Preview
import Yevow.Models.DotCast.Pool.Exactness
import Yevow.Models.DotCast.Pool.ObjectRuns
import Yevow.Models.DotCast.Pool.Resolvability
import Yevow.Models.DotCast.Resolution.ChallengePages
import Yevow.Models.DotCast.Resolution.ChallengeRuns
import Yevow.Models.DotCast.Resolution.FaultRecovery
import Yevow.Models.DotCast.Resolution.PanelLaw
import Yevow.Models.DotCast.Resolution.PanelOrder
import Yevow.Models.Engine.Book.Purge
import Yevow.Models.Engine.Book.Refinement
import Yevow.Models.Engine.Book.TickSizes
import Yevow.Models.Engine.Config.Application
import Yevow.Models.Engine.Maintenance.Interleaving
import Yevow.Models.Engine.Maintenance.OrderRuns
import Yevow.Models.Engine.Planning.Soundness
import Yevow.Models.Engine.Queue.Delivery
import Yevow.Models.Engine.Queue.Wakeups
import Yevow.Models.Engine.Quotes.Suspension
import Yevow.Models.Engine.Recovery.Survival
import Yevow.Models.Execution.BucketRuns
import Yevow.Models.Execution.FillStatus
import Yevow.Models.Execution.ReplaySafety
import Yevow.Models.Execution.ReportForwarding
import Yevow.Models.Execution.RequestRate
import Yevow.Models.Execution.Submission
import Yevow.Models.Ingest.HandOn
import Yevow.Models.Ingest.HawkesFlow
import Yevow.Models.Ingest.L4History
import Yevow.Models.Lotto.Generation.Runs
import Yevow.Models.Lotto.TicketLab.Comparison
import Yevow.Models.Paper.Totals
import Yevow.Models.Shadow.FillAccounting
import Yevow.Models.Shadow.SinglePrecision
