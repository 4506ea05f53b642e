import EveApiCache.Construction.Allowlist
import EveApiCache.Construction.Archive.Schema

/-!
This file models the write functions of `app/archive.py`.
-/

namespace EveApiCache
open Effects

/-- These are the statements with the types of their replies. -/
def insertTimeseries (row : TimeSeriesSnapshot) : Transaction (Option Nat) :=
  Program.call (I := archiveInterface) (.insertTimeseries row)

def selectTimeseriesId (idempotencyKey : PyStr) : Transaction (Option Nat) :=
  Program.call (I := archiveInterface) (.selectTimeseriesId idempotencyKey)

def selectObjectFileId (contentHash : PyStr) : Transaction (Option Nat) :=
  Program.call (I := archiveInterface) (.selectObjectFileId contentHash)

def insertObjectFile (row : ArchiveObjectFile) : Transaction (Option Nat) :=
  Program.call (I := archiveInterface) (.insertObjectFile row)

def upsertVersionBatch (rows : List VersionValues) : Transaction Unit :=
  Program.call (I := archiveInterface) (.upsertVersions rows)

def insertEntryBatch (rows : List EntryValues) : Transaction Unit :=
  Program.call (I := archiveInterface) (.insertEntries rows)

def upsertNameBatch (rows : List NameValues) : Transaction Unit :=
  Program.call (I := archiveInterface) (.upsertNames rows)

/-- An exception stops a transaction when a value is missing. -/
def orFail {A : Type} : Option A → Transaction A
  | some value => .done value
  | none => .fail

/-- This is the value of a decimal digit of any script. -/
def decimalValue (symbol : CodePoint) : Option Nat :=
  (decimalZeros.find? fun start => start ≤ symbol.val && symbol.val < start + 10).map
    (symbol.val - ·)

/-- Single underscores may stand between the digits of a numeral. -/
def digitValues : PyStr → Option (List Nat)
  | [] => none
  | [last] => (decimalValue last).map ([·])
  | first :: next :: rest => do
      let value ← decimalValue first
      if next = 0x5f then
        let values ← digitValues rest
        return value :: values
      else
        let values ← digitValues (next :: rest)
        return value :: values

/-- This is `int` of a text. -/
def intOfText (input : PyStr) : Option Int := do
  let (negative, digits) := match strip input with
    | first :: rest =>
        if first = 0x2d then (true, rest)
        else if first = 0x2b then (false, rest)
        else (false, first :: rest)
    | [] => (false, [])
  let values ← digitValues digits
  if values.length ≤ Json.maxIntDigits then
    let value := values.foldl (fun (value : Int) (digit : Nat) => 10 * value + digit) 0
    return if negative then -value else value
  else none

section Libraries
variable (libraries : Libraries)

/-- This is `int` of a JSON value. -/
def intOf : Json → Option Int
  | .int value => some value
  | .bool value => some (if value then 1 else 0)
  | .float numeral => libraries.floatInt numeral
  | .str value => intOfText value
  | _ => none

/-- This is the group of `_MARKET_ORDERS_RE`. -/
def marketOrdersRegion (path : PyStr) : Option PyStr :=
  match path with
  | slash :: rest =>
      let version := rest.takeWhile (· ≠ 0x2f)
      if slash = 0x2f ∧ version ≠ [] then
        (consumeAll [literal "/markets/"] (rest.drop version.length)).bind fun input =>
          let digits := input.takeWhile isDecimal
          if digits = [] then none
          else
            (consumeAll [literal "/orders"] (input.drop digits.length)).bind fun rest =>
              if atEnd rest then some digits else none
      else none
  | [] => none

/-- This is `_market_orders_region_id`, where `int` may refuse the digits. -/
def marketOrdersRegionId (path : PyStr) : Transaction (Option Int) :=
  match marketOrdersRegion path with
  | none => .done none
  | some digits => orFail ((intOfText digits).map some)

/-- This is `_compress_payload`. -/
def compressPayload (payload : Bytes) : PyStr × Bytes :=
  match libraries.zstandard with
  | some zstandard => (text "zstd", zstandard.compress 6 payload)
  | none => (text "zlib", libraries.zlib.compress 9 payload)

/-- This is the row of `_write_payload_blob`. -/
def payloadBlob (payload : Bytes) (createdAt : Datetime) : ArchivePayloadBlob :=
  let (codec, compressed) := compressPayload libraries payload
  { payloadCodec := codec
    payloadCompressed := compressed
    rawSize := payload.length
    compressedSize := compressed.length
    storageFormat := text "raw_json"
    createdAt := createdAt }

/-- This is `_timeseries_idempotency_key`. -/
def timeseriesIdempotencyKey (identity : Identity) (contentHash : PyStr) (fetchedAt : Datetime) :
    PyStr :=
  libraries.sha256 (encode (List.intercalate [0]
    [identity.datasource, identity.path, identity.queryHash, fetchedAt.minuteStart.isoformat,
      contentHash]))

/-- This is the relative path in `_write_market_orders_parquet_file`. -/
def parquetFilePath (datasource : PyStr) (regionId : Int) (contentHash : PyStr)
    (fetchedAt : Datetime) : PyStr :=
  text "markets/orders/datasource=" ++ datasource ++ text "/region_id=" ++ intStr regionId ++
    text "/date=" ++ fetchedAt.datePart ++ text "/snapshot_" ++ fetchedAt.timestampPart ++ text "_" ++
    contentHash.take 12 ++ text ".parquet"

def deltaInsertBatchSize : Nat := 1000

/-- This is `_chunks`. Every round takes a row, so the length bounds the rounds. -/
def chunkRounds {Row : Type} (size : Nat) : Nat → List Row → List (List Row)
  | 0, _ => []
  | _, [] => []
  | rounds + 1, rows => rows.take size :: chunkRounds size rounds (rows.drop size)

def chunks {Row : Type} (size : Nat) (rows : List Row) : List (List Row) :=
  chunkRounds size rows.length rows

/-- This is the version hash of an order. -/
def versionHash (order : Json) : PyStr := libraries.sha256 (encode order.canonical)

/-- The loop skips what is not an object with an order id, and `int` may refuse the id. -/
def orderRows : List Json → Option (List (Int × Json))
  | [] => some []
  | .obj fields :: rest =>
      match Json.field (text "order_id") fields with
      | none => orderRows rest
      | some id => do
          let orderId ← intOf libraries id
          let rows ← orderRows rest
          return (orderId, .obj fields) :: rows
  | _ :: rest => orderRows rest

/-- This program performs an effect for every batch. -/
def forBatches {Row : Type} (effect : List Row → Transaction Unit) : List (List Row) → Transaction Unit
  | [] => .done ()
  | batch :: rest => do
      effect batch
      forBatches effect rest

/-- This is `_write_market_order_deltas`. -/
def writeMarketOrderDeltas (snapshotId : Nat) (datasource : PyStr) (regionId : Int)
    (orders : List Json) (fetchedAt : Datetime) : Transaction Unit := do
  let rows ← orFail (orderRows libraries orders)
  let versionRows := rows.map fun row =>
    ({ key := ⟨datasource, row.1, versionHash libraries row.2⟩
       payload := row.2
       seenAt := fetchedAt } : VersionValues)
  let entryRows := rows.map fun row =>
    ({ snapshotId := snapshotId
       orderId := row.1
       versionHash := versionHash libraries row.2
       regionId := regionId } : EntryValues)
  forBatches upsertVersionBatch (chunks deltaInsertBatchSize versionRows)
  forBatches insertEntryBatch (chunks deltaInsertBatchSize entryRows)

variable (settings : Settings)

/-- A writer that lost the race for a manifest uses the manifest of the winner. -/
def insertedManifest (contentHash : PyStr) : Option Nat → Transaction (Option Nat)
  | some id => .done (some id)
  | none => selectObjectFileId contentHash

/-- The manifest of a content hash is reused, or the file is written and its manifest inserted. -/
def parquetManifest (pyarrow : Pyarrow) (snapshotId : Nat) (regionId : Int) (identity : Identity)
    (contentHash : PyStr) (payload : Bytes) (orders : List Json) (fetchedAt : Datetime) :
    Option Nat → Transaction (Option Nat)
  | some existing => .done (some existing)
  | none => do
      let filePath := parquetFilePath identity.datasource regionId contentHash fetchedAt
      let content ← orFail (pyarrow.writeTable orders)
      Program.call (I := archiveInterface) (.writeParquet filePath content)
      let inserted ← insertObjectFile
        { id := 0
          contentHash := contentHash
          identity := identity
          fetchedAt := fetchedAt
          storageFormat := text "parquet"
          codec := text "zstd"
          filePath := filePath
          rawSize := payload.length
          storedSize := content.length
          rowCount := orders.length
          regionId := regionId
          snapshotId := snapshotId
          createdAt := fetchedAt }
      insertedManifest contentHash inserted

/-- A market-orders payload is a list. -/
def ordersOf : Json → Option (List Json)
  | .arr orders => some orders
  | _ => none

/-- This is `_write_market_orders_parquet` once pyarrow is known to be there. -/
def writeMarketOrdersParquet (pyarrow : Pyarrow) (snapshotId : Nat) (regionId : Int)
    (identity : Identity) (contentHash : PyStr) (payload : Bytes) (fetchedAt : Datetime) :
    Transaction (Option Nat) := do
  let parsed ← orFail (Json.loads libraries.floatRepr payload)
  let orders ← orFail (ordersOf parsed)
  let existing ← selectObjectFileId contentHash
  let manifestId ← parquetManifest pyarrow snapshotId regionId identity contentHash payload orders
    fetchedAt existing
  if settings.enableMarketOrderDeltas then
    writeMarketOrderDeltas libraries snapshotId identity.datasource regionId orders fetchedAt
  return manifestId

/-- These are the arguments of `write_snapshot`. -/
structure Observation where
  identity : Identity
  contentHash : PyStr
  payload : Bytes
  httpStatus : Int
  etag : Option PyStr
  expiresAt : Option Datetime
  archiveType : ArchiveType

/-- A suppressed insert looks its row up by the idempotency key. -/
def insertedSnapshot (idempotencyKey : PyStr) : Option Nat → Transaction (Option Nat)
  | some id => .done (some id)
  | none => selectTimeseriesId idempotencyKey

/-- Only a manifest that exists relabels its snapshot. -/
def labelSnapshot (snapshotId : Nat) : Option Nat → Transaction Unit
  | some manifestId => Program.call (I := archiveInterface) (.labelParquet snapshotId manifestId)
  | none => .done ()

/-- The Parquet store is optional. -/
def storeParquet (now : Datetime) (observed : Observation) (snapshotId : Option Nat)
    (regionId : Option Int) : Transaction Unit :=
  match snapshotId, regionId, libraries.pyarrow with
  | some snapshotId, some regionId, some pyarrow =>
      if settings.enableMarketOrderParquet then do
        let manifestId ← writeMarketOrdersParquet libraries settings pyarrow snapshotId regionId
          observed.identity observed.contentHash observed.payload now
        labelSnapshot snapshotId manifestId
      else .done ()
  | _, _, _ => .done ()

/-- This is the row that `write_snapshot` inserts. -/
def snapshotRow (now : Datetime) (observed : Observation) : TimeSeriesSnapshot where
  id := 0
  identity := observed.identity
  contentHash := observed.contentHash
  idempotencyKey := some (timeseriesIdempotencyKey libraries observed.identity observed.contentHash now)
  payload := none
  payloadStorage := .compressedJson
  parquetManifestId := none
  fetchedAt := now
  esiExpiresAt := observed.expiresAt
  etag := observed.etag
  httpStatus := observed.httpStatus

/-- The branch `TIME_SERIES` of `write_snapshot` first stores the payload and its row. -/
def recordSnapshot (now : Datetime) (observed : Observation) :
    Transaction (Option Nat × Option Int) := do
  Program.call (I := archiveInterface)
    (.insertBlob observed.contentHash (payloadBlob libraries observed.payload now))
  let regionId ← marketOrdersRegionId observed.identity.path
  let inserted ← insertTimeseries (snapshotRow libraries now observed)
  let snapshotId ← insertedSnapshot
    (timeseriesIdempotencyKey libraries observed.identity observed.contentHash now) inserted
  return (snapshotId, regionId)

/-- This is the branch `TIME_SERIES` of `write_snapshot`. -/
def writeTimeSeries (now : Datetime) (observed : Observation) : Transaction Unit := do
  let recorded ← recordSnapshot libraries now observed
  storeParquet libraries settings now observed recorded.1 recorded.2

/-- This is `write_snapshot` at the time `now`. -/
def writeSnapshot (now : Datetime) (observed : Observation) : Transaction Unit :=
  match observed.archiveType with
  | .none => .done ()
  | .timeSeries => do
      writeTimeSeries libraries settings now observed
      Program.call (I := archiveInterface) .commit
  | .reference => do
      let payload ← orFail (Json.loads libraries.floatRepr observed.payload)
      Program.call (I := archiveInterface) (.upsertReference observed.identity
        { contentHash := observed.contentHash
          payload := payload
          firstSeenAt := now
          lastUpdatedAt := now
          esiExpiresAt := observed.expiresAt
          etag := observed.etag
          httpStatus := observed.httpStatus })
      Program.call (I := archiveInterface) .commit
  | .event => do
      let payload ← orFail (Json.loads libraries.floatRepr observed.payload)
      Program.call (I := archiveInterface) (.insertEvent observed.identity
        { contentHash := observed.contentHash
          payload := payload
          fetchedAt := now
          etag := observed.etag
          httpStatus := observed.httpStatus })
      Program.call (I := archiveInterface) .commit

end Libraries

/-- This is the truth value of a JSON value in Python. -/
def truthy : Json → Bool
  | .null => false
  | .bool value => value
  | .int value => value ≠ 0
  | .float numeral => !(numeral.any Json.isDigit) ||
      numeral.any fun symbol => Json.isDigit symbol && symbol ≠ 0x30
  | .str value => value ≠ []
  | .arr items => !items.isEmpty
  | .obj fields => !fields.isEmpty

/-- An item counts when it is an object with a true id and a true name. -/
def nameItem (category : Option Json) : Json → Option (Json × Json × Json)
  | .obj fields =>
      match Json.field (text "id") fields, Json.field (text "name") fields with
      | some id, some name =>
          if truthy id && truthy name then
            some (id, name, category.getD ((Json.field (text "category") fields).getD .null))
          else none
      | _, _ => none
  | _ => none

/-- The categories of `/universe/ids/` lose their final letter `s`. -/
def normalizedCategory (category : PyStr) : PyStr :=
  if category.getLast? = some 0x73 then category.dropLast else category

/-- This is `_extract_name_mappings`. -/
def extractNameMappings : Json → List (Json × Json × Json)
  | .arr items => items.filterMap (nameItem none)
  | .obj fields => fields.flatMap fun field =>
      match field.2 with
      | .arr items => items.filterMap (nameItem (some (.str (normalizedCategory field.1))))
      | _ => []
  | _ => []

/-- This is `str` of a name key, as it stands in an f-string. -/
def keyStr : Json → PyStr
  | .int value => intStr value
  | .bool value => if value then text "True" else text "False"
  | .float numeral => numeral
  | .str value => value
  | _ => []

/-- The cache takes `unknown` for a false category. -/
def cachedName (mapping : Json × Json × Json) : PyStr × PyStr × PyStr :=
  (keyStr mapping.1, keyStr mapping.2.1,
    if truthy mapping.2.2 then keyStr mapping.2.2 else text "unknown")

/-- The mappings go to the table in batches and then to the cache. -/
def writeMappings (now : Datetime) (datasource : PyStr) :
    List (Json × Json × Json) → Transaction Unit
  | [] => .done ()
  | first :: rest => do
      let rows := (first :: rest).map fun mapping =>
        ({ datasource := datasource
           entityId := mapping.1
           entityName := mapping.2.1
           category := mapping.2.2
           seenAt := now } : NameValues)
      forBatches upsertNameBatch (chunks deltaInsertBatchSize rows)
      Program.call (I := archiveInterface) (.setNames datasource ((first :: rest).map cachedName))
      Program.call (I := archiveInterface) .commit

/-- This is `write_names` at the time `now`. -/
def writeNames (libraries : Libraries) (now : Datetime) (datasource : PyStr) (payload : Bytes) :
    Transaction Unit :=
  match Json.loads libraries.floatRepr payload with
  | none => .done ()
  | some data => writeMappings now datasource (extractNameMappings data)

end EveApiCache
