import EveApiCache.Construction.Json

/-!
This file holds the settings of `app/config.py` and the libraries that the code calls.
-/

namespace EveApiCache

/-- These are the settings that the modelled functions read. -/
structure Settings where
  dbPoolSize : Int := 20
  dbMaxOverflow : Int := 10
  esiMaxRetries : Int := 2
  esiRetryBaseDelay : ℚ := mkRat 1 4
  esiRetryMaxDelay : ℚ := 10
  pageConcurrency : Nat := 10
  upstreamConcurrency : Nat := 20
  esiErrorBudgetThreshold : Int := 10
  esiErrorBudgetBlockSeconds : Int := 60
  esiMaxRequestsPerSecond : ℚ := 20
  defaultDatasource : PyStr := text "tranquility"
  maxPostBatchItems : Nat := 1000
  staleCacheSeconds : Int := 3600
  staleCacheMaxBodyBytes : Int := 5000000
  negativeCacheTtlSeconds : Int := 60
  cacheCompressMinBytes : Nat := 65536
  collectorWarmAliasVersions : List PyStr := []
  enableMarketOrderParquet : Bool := true
  enableMarketOrderDeltas : Bool := true
  marketRegionIds : List Int := [10000002, 10000043, 10000030, 10000032, 10000042]
  pollMarketOrdersSeconds : Int := 300
  pollMarketPricesSeconds : Int := 3600
  pollMarketHistorySeconds : Int := 86400
  pollUniverseSeconds : Int := 3600

/-- A compressor gives back every body at every level. -/
structure Compressor where
  compress : Nat → Bytes → Bytes
  decompress : Bytes → Option Bytes
  inverse : ∀ level body, decompress (compress level body) = some body

/-- Parquet tables are written from a list of objects and read as one JSON value. -/
structure Pyarrow where
  writeTable : List Json → Option Bytes
  readTable : Bytes → Option Json

/-- These are the libraries outside the repository. `queryDigest` is `sha256(..).hexdigest()[:16]`,
`floatInt` is `int` of a float, and `zstandard` or `pyarrow` is absent when its import fails.
`jsonb` gives the value that PostgreSQL returns for a sorted JSON text, whose key order it does
not keep, or refuses the text. -/
structure Libraries where
  floatRepr : PyStr → PyStr
  floatInt : PyStr → Option Int
  sha256 : Bytes → PyStr
  queryDigest : Bytes → PyStr
  zstandard : Option Compressor
  zlib : Compressor
  pyarrow : Option Pyarrow
  jsonb : PyStr → Option Json

end EveApiCache
