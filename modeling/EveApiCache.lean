import EveApiCache.Construction.World
import EveApiCache.Library.Concurrent
import EveApiCache.Library.PrefixCode
import EveApiCache.Library.Program
import EveApiCache.Library.Tracking
import EveApiCache.Proof.Archive.AppendOnly
import EveApiCache.Proof.Archive.Deltas
import EveApiCache.Proof.Archive.Keys
import EveApiCache.Proof.Archive.Discovery
import EveApiCache.Proof.Archive.Shared.Backwards
import EveApiCache.Proof.Archive.Shared.History
import EveApiCache.Proof.Archive.Shared.Partition
import EveApiCache.Proof.Archive.Shared.Serial
import EveApiCache.Proof.Archive.Sourced
import EveApiCache.Proof.Cache.TimedCache
import EveApiCache.Proof.BatchBody
import EveApiCache.Proof.ConnectionPool
import EveApiCache.Proof.Esi.Blocked
import EveApiCache.Proof.Esi.Breaker
import EveApiCache.Proof.Esi.Pages
import EveApiCache.Proof.Esi.Progress
import EveApiCache.Proof.Esi.Retry
import EveApiCache.Proof.ExactSharing
import EveApiCache.Proof.FirstRuns
import EveApiCache.Proof.Identity
import EveApiCache.Proof.Metrics.Faithful
import EveApiCache.Proof.NoStrandedWaiter
import EveApiCache.Proof.Unambiguous
import EveApiCache.Proof.RateLimit.ClientKey
import EveApiCache.Proof.RateLimit.Growth
import EveApiCache.Proof.RegionHistory
import EveApiCache.Proof.Routes
import EveApiCache.Proof.Service.Collector
import EveApiCache.Proof.Service.Expiry
import EveApiCache.Proof.Service.Outage
import EveApiCache.Proof.Service.Pairing
import EveApiCache.Proof.Service.Progress
import EveApiCache.Proof.Service.Provenance
import EveApiCache.Proof.Service.Stampede
import EveApiCache.Proof.SingletonJob
