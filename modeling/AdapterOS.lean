import AdapterOS.HotSwap.Residency
import AdapterOS.HotSwap.Retirement
import AdapterOS.HotSwap.ConcurrentSwap
import AdapterOS.HotSwap.RequestPinner
import AdapterOS.HotSwap.Generations
import AdapterOS.HotSwap.Pins
import AdapterOS.Kv.QuotaAccounting
import AdapterOS.Kv.SequenceIds
import AdapterOS.Receipt.BatchSoundness
import AdapterOS.Core.StorePins
import AdapterOS.Receipt.TraceAgreement
import AdapterOS.Aos.CacheAccounting
import AdapterOS.Aos.StagedSwap
import AdapterOS.Aos.ArchiveSafety
import AdapterOS.Aos.ArchiveRoundTrip
import AdapterOS.Worker.LockInterleaving
import AdapterOS.Worker.CacheTotals
import AdapterOS.Core.SingleFlightWakeup
import AdapterOS.Core.SingleFlightNotify
import AdapterOS.Exec.Snapshot
import AdapterOS.Exec.LedgerRaces
import AdapterOS.Exec.BarrierRounds
import AdapterOS.Exec.Channel
import AdapterOS.Exec.Termination
import AdapterOS.Telemetry.RetentionLaw
import AdapterOS.Telemetry.MerkleProofs
import AdapterOS.Telemetry.BundleDurability
import AdapterOS.Telemetry.BundleSignatures
import AdapterOS.Audit.DualWrite
import AdapterOS.Evidence.Coverage
import AdapterOS.Evidence.Store
import AdapterOS.Core.BreakerRecovery
import AdapterOS.Core.BreakerLimit
import AdapterOS.Server.StuckKeys
import AdapterOS.HotSwap.SwapVram
import AdapterOS.HotSwap.RollbackInverse
import AdapterOS.Lifecycle.Transitions
import AdapterOS.Lifecycle.KReductionMonotone
import AdapterOS.Lifecycle.Registration
import AdapterOS.Storage.RepositoryIndexes
import AdapterOS.Federation.Consensus
import AdapterOS.Federation.SignatureChain
import AdapterOS.HotSwap.StackHash
import AdapterOS.Routing.PolicyMask
import AdapterOS.Routing.PolicyFilter
import AdapterOS.Kv.Reuse
import AdapterOS.Kv.PrefixRecency
import AdapterOS.Receipt.RoutingBinding
import AdapterOS.Worker.StopStream
import AdapterOS.Storage.Pagination
import AdapterOS.Storage.SecureFs
import AdapterOS.Server.StoreLocks
import AdapterOS.Server.SseSequential
