import EveApiCache.Construction.Archive.Schema

/-!
This file models `get_latest_payload` of `app/archive.py`.
-/

namespace EveApiCache

section Libraries
variable (libraries : Libraries)

/-- This is `_decompress_payload`, and an exception is `none`. -/
def decompressPayload (codec : PyStr) (payload : Bytes) : Option Bytes :=
  if codec = text "zstd" then libraries.zstandard.bind fun zstandard => zstandard.decompress payload
  else if codec = text "zlib" then libraries.zlib.decompress payload
  else none

/-- This is `json.dumps(value).encode()` of a column that is not `None`. -/
def columnText : Option Json → Option Bytes
  | none => none
  | some .null => none
  | some value => some (encode (Json.dumps Json.defaultSeparators value))

/-- This is `ORDER BY fetched_at DESC LIMIT 1`. PostgreSQL leaves open which of two rows with one
time comes first, and this function takes the later insert. -/
def latestRow (rows : List TimeSeriesSnapshot) : Option TimeSeriesSnapshot :=
  rows.foldl (fun best row =>
    match best with
    | none => some row
    | some other =>
        if other.fetchedAt.ordinal ≤ row.fetchedAt.ordinal then some row else some other) none

/-- The reference row comes before the event row. -/
def referenceOrEvent (database : Database) (identity : Identity) : Option Bytes :=
  (columnText ((database.reference identity).map (·.payload))).or
    (columnText ((database.events identity).map (·.payload)))

/-- This is `_read_parquet_payload`. -/
def readParquetPayload (files : PyStr → Option Bytes) (filePath : PyStr) : Option Bytes := do
  let pyarrow ← libraries.pyarrow
  let content ← files filePath
  let table ← pyarrow.readTable content
  return encode (Json.dumps Json.defaultSeparators table)

/-- This is `get_latest_payload`. The outer `none` is an exception. -/
def getLatestPayload (database : Database) (files : PyStr → Option Bytes) (identity : Identity) :
    Option (Option Bytes) :=
  match latestRow (database.timeseries.filter (·.identity = identity)) with
  | none => some (referenceOrEvent database identity)
  | some snapshot =>
      match columnText snapshot.payload with
      | some payload => some (some payload)
      | none =>
          match database.blobs snapshot.contentHash with
          | some blob => (decompressPayload libraries blob.payloadCodec blob.payloadCompressed).map some
          | none =>
              match snapshot.parquetManifestId.bind fun id =>
                database.objectFiles.find? fun manifest => manifest.id = id with
              | some manifest => (readParquetPayload libraries files manifest.filePath).map some
              | none => some (referenceOrEvent database identity)

end Libraries

end EveApiCache
