import DexArbitrage.Amm.AerodromeV2
import DexArbitrage.Amm.UniswapV2
import DexArbitrage.Cache.Format
import DexArbitrage.Cache.RoundTrip
import DexArbitrage.Contracts.Abi
import DexArbitrage.Contracts.Authority
import DexArbitrage.Contracts.Executor
import DexArbitrage.Contracts.ForeignCode
import DexArbitrage.Contracts.FundsSafety
import DexArbitrage.Contracts.HopAccounting
import DexArbitrage.Contracts.Profit
import DexArbitrage.Contracts.Reentrancy
import DexArbitrage.Contracts.V2Quote
import DexArbitrage.Detector.ChangedPairs
import DexArbitrage.Detector.Completeness
import DexArbitrage.Detector.CycleKeys
import DexArbitrage.Detector.EdgeLists
import DexArbitrage.Detector.EdgeRanking
import DexArbitrage.Detector.HashOrders
import DexArbitrage.Detector.OrderIndependence
import DexArbitrage.Detector.PathCompleteness
import DexArbitrage.Detector.PathFinder
import DexArbitrage.Detector.PathSearch
import DexArbitrage.Detector.Reachability
import DexArbitrage.Detector.RouteKeys
import DexArbitrage.Detector.RouteVisits
import DexArbitrage.Detector.SearchInStep
import DexArbitrage.Detector.Selection
import DexArbitrage.Detector.SelectionLimits
import DexArbitrage.Detector.Soundness
import DexArbitrage.Detector.TokenPathVariants
import DexArbitrage.Discovery.BatchFold
import DexArbitrage.Discovery.Bootstrap
import DexArbitrage.Discovery.BootstrapFates
import DexArbitrage.Discovery.BootstrapRuns
import DexArbitrage.Discovery.ChunkedLogs
import DexArbitrage.Discovery.CursorCompleteness
import DexArbitrage.Discovery.DecodeExact
import DexArbitrage.Discovery.EventStream
import DexArbitrage.Discovery.FactoryScan
import DexArbitrage.Discovery.LogDecode
import DexArbitrage.Discovery.LogDedup
import DexArbitrage.Discovery.PollModes
import DexArbitrage.Discovery.PoolFetch
import DexArbitrage.Discovery.PoolFetchExact
import DexArbitrage.Discovery.PoolPatch
import DexArbitrage.Discovery.PriceDerivation
import DexArbitrage.Discovery.PriceRounds
import DexArbitrage.Discovery.Refresh
import DexArbitrage.Discovery.RefreshBatch
import DexArbitrage.Discovery.Replay
import DexArbitrage.Discovery.StalePatches
import DexArbitrage.Discovery.StalePools
import DexArbitrage.Engine.EventLoop
import DexArbitrage.Engine.InFlight
import DexArbitrage.Engine.InitialRefresh
import DexArbitrage.Engine.NoLostLog
import DexArbitrage.Engine.NonceGap
import DexArbitrage.Engine.PollingRuns
import DexArbitrage.Engine.Rollback
import DexArbitrage.Engine.RouteRanking
import DexArbitrage.Engine.SnapshotRun
import DexArbitrage.Engine.Trading
import DexArbitrage.Execution.Approval
import DexArbitrage.Execution.CapitalSelector
import DexArbitrage.Execution.FailureCache
import DexArbitrage.Execution.NonceInterleaving
import DexArbitrage.Execution.NonceLocks
import DexArbitrage.Execution.Simulation
import DexArbitrage.Execution.Submitter
import DexArbitrage.Execution.Validator
import DexArbitrage.Graph.BuildOrder
import DexArbitrage.Graph.DistanceCache
import DexArbitrage.Graph.DistinctEdges
import DexArbitrage.Graph.Indexes
import DexArbitrage.Graph.Model
import DexArbitrage.Graph.PairIndex
import DexArbitrage.Graph.Snapshot
import DexArbitrage.Lib.BeamSearch
import DexArbitrage.Lib.BestKept
import DexArbitrage.Lib.BigEndian
import DexArbitrage.Lib.BlockTree
import DexArbitrage.Lib.ByteReader
import DexArbitrage.Lib.Checked
import DexArbitrage.Lib.Checksum
import DexArbitrage.Lib.ChunkedScan
import DexArbitrage.Lib.Chunks
import DexArbitrage.Lib.Dedup
import DexArbitrage.Lib.Expiring
import DexArbitrage.Lib.Failure
import DexArbitrage.Lib.FailureStreak
import DexArbitrage.Lib.Folds
import DexArbitrage.Lib.Ledger
import DexArbitrage.Lib.Marking
import DexArbitrage.Lib.Moves
import DexArbitrage.Lib.ProRata
import DexArbitrage.Lib.Program
import DexArbitrage.Lib.Propagation
import DexArbitrage.Lib.Recency
import DexArbitrage.Lib.Related
import DexArbitrage.Lib.Rotation
import DexArbitrage.Lib.Run
import DexArbitrage.Lib.SideBySide
import DexArbitrage.Lib.Sorting
import DexArbitrage.Lib.StableSort
import DexArbitrage.Lib.Walk
import DexArbitrage.Reorg.ChainInvariant
import DexArbitrage.Reorg.CommonAncestor
import DexArbitrage.Reorg.LockDiscipline
import DexArbitrage.Reorg.Tracking
import DexArbitrage.Risk.GasTracker
import DexArbitrage.Risk.Valuation
import DexArbitrage.Router.BestPlan
import DexArbitrage.Router.ExactQuoter
import DexArbitrage.Router.ExtraCodec
import DexArbitrage.Router.HopConservation
import DexArbitrage.Router.PairSplits
import DexArbitrage.Router.PlanConsistency
import DexArbitrage.Router.PlanSearch
import DexArbitrage.Router.PriceImpact
import DexArbitrage.Router.QuoteCache
import DexArbitrage.Router.QuoteCacheRuns
import DexArbitrage.Router.QuoteCandidate
import DexArbitrage.Router.QuoteFailures
import DexArbitrage.Router.RangeArithmetic
import DexArbitrage.Router.Rebalance
import DexArbitrage.Router.ScaleSplits
import DexArbitrage.Router.SearchRange
import DexArbitrage.Router.SplitLimits
import DexArbitrage.Router.SplitOptimizer
import DexArbitrage.Router.V2Split
import DexArbitrage.Router.V3Limits
import DexArbitrage.Rpc.Client
import DexArbitrage.Rpc.ClientRuns
import DexArbitrage.Rpc.Values
import DexArbitrage.Types
