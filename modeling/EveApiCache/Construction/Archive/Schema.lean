import EveApiCache.Construction.Cache
import EveApiCache.Library.Program

/-!
This file models the tables of `app/db.py` and the statements that `app/archive.py` runs on them.
-/

namespace EveApiCache
open Effects

instance year_neZero : NeZero 10000 := ⟨by decide⟩

instance month_neZero : NeZero 13 := ⟨by decide⟩

instance day_neZero : NeZero 32 := ⟨by decide⟩

instance hour_neZero : NeZero 24 := ⟨by decide⟩

instance minute_neZero : NeZero 60 := ⟨by decide⟩

instance microsecond_neZero : NeZero 1000000 := ⟨by decide⟩

/-- A UTC time has bounded fields, so that its text has a fixed width. -/
structure Datetime where
  year : Fin 10000
  month : Fin 13
  day : Fin 32
  hour : Fin 24
  minute : Fin 60
  second : Fin 60
  microsecond : Fin 1000000
  deriving DecidableEq

namespace Datetime

/-- This number counts the minutes up to a time and keeps their order. -/
def minutes (time : Datetime) : Nat :=
  (((time.year.val * 13 + time.month.val) * 32 + time.day.val) * 24 + time.hour.val) * 60 +
    time.minute.val

/-- This number orders the times. -/
def ordinal (time : Datetime) : Nat :=
  (time.minutes * 60 + time.second.val) * 1000000 + time.microsecond.val

/-- This is `replace(second=0, microsecond=0)`. -/
def minuteStart (time : Datetime) : Datetime := { time with second := 0, microsecond := 0 }

def pad (width value : Nat) : PyStr :=
  List.replicate (width - (numeral value).length) (0x30 : CodePoint) ++ numeral value

/-- This is `strftime("%Y-%m-%d")`. -/
def datePart (time : Datetime) : PyStr :=
  pad 4 time.year.val ++ text "-" ++ pad 2 time.month.val ++ text "-" ++ pad 2 time.day.val

/-- This is `strftime("%Y%m%dT%H%M%SZ")`. -/
def timestampPart (time : Datetime) : PyStr :=
  pad 4 time.year.val ++ pad 2 time.month.val ++ pad 2 time.day.val ++ text "T" ++
    pad 2 time.hour.val ++ pad 2 time.minute.val ++ pad 2 time.second.val ++ text "Z"

/-- This is `isoformat()` of a UTC time. -/
def isoformat (time : Datetime) : PyStr :=
  time.datePart ++ text "T" ++ pad 2 time.hour.val ++ text ":" ++ pad 2 time.minute.val ++
    text ":" ++ pad 2 time.second.val ++
    (if time.microsecond = 0 then [] else text "." ++ pad 6 time.microsecond.val) ++ text "+00:00"

end Datetime

/-- The archive knows an observed request by these columns. -/
structure Identity where
  datasource : PyStr
  path : PyStr
  queryHash : PyStr
  deriving DecidableEq

inductive PayloadStorage where
  | jsonb
  | compressedJson
  | marketParquetDelta
  deriving DecidableEq

structure TimeSeriesSnapshot where
  id : Nat
  identity : Identity
  contentHash : PyStr
  idempotencyKey : Option PyStr
  payload : Option Json
  payloadStorage : PayloadStorage
  parquetManifestId : Option Nat
  fetchedAt : Datetime
  esiExpiresAt : Option Datetime
  etag : Option PyStr
  httpStatus : Int

/-- The primary key of a blob is its content hash. -/
structure ArchivePayloadBlob where
  payloadCodec : PyStr
  payloadCompressed : Bytes
  rawSize : Nat
  compressedSize : Nat
  storageFormat : PyStr
  createdAt : Datetime

structure ArchiveObjectFile where
  id : Nat
  contentHash : PyStr
  identity : Identity
  fetchedAt : Datetime
  storageFormat : PyStr
  codec : PyStr
  filePath : PyStr
  rawSize : Nat
  storedSize : Nat
  rowCount : Nat
  regionId : Int
  snapshotId : Nat
  createdAt : Datetime

/-- The primary key of a reference row is its identity. -/
structure ReferenceSnapshot where
  contentHash : PyStr
  payload : Json
  firstSeenAt : Datetime
  lastUpdatedAt : Datetime
  esiExpiresAt : Option Datetime
  etag : Option PyStr
  httpStatus : Int

/-- The primary key of an event row is its identity. -/
structure EventSnapshot where
  contentHash : PyStr
  payload : Json
  fetchedAt : Datetime
  etag : Option PyStr
  httpStatus : Int

/-- The primary key of a name row is its datasource and entity. -/
structure IdName where
  entityName : PyStr
  category : Option PyStr
  firstSeenAt : Datetime
  lastUpdatedAt : Datetime

structure VersionKey where
  datasource : PyStr
  orderId : Int
  versionHash : PyStr
  deriving DecidableEq

structure MarketOrderVersion where
  payload : Json
  firstSeenAt : Datetime
  lastSeenAt : Datetime

/-- The primary key of an entry is its snapshot and order. -/
structure MarketOrderSnapshotEntry where
  versionHash : PyStr
  regionId : Int

/-- A table whose primary key no statement changes is a partial function on its keys. -/
structure Database where
  timeseries : List TimeSeriesSnapshot
  blobs : PyStr → Option ArchivePayloadBlob
  objectFiles : List ArchiveObjectFile
  reference : Identity → Option ReferenceSnapshot
  events : Identity → Option EventSnapshot
  names : PyStr × Int → Option IdName
  versions : VersionKey → Option MarketOrderVersion
  entries : Nat × Int → Option MarketOrderSnapshotEntry
  snapshotSequence : Nat
  objectFileSequence : Nat

def Database.empty : Database where
  timeseries := []
  blobs := fun _ => none
  objectFiles := []
  reference := fun _ => none
  events := fun _ => none
  names := fun _ => none
  versions := fun _ => none
  entries := fun _ => none
  snapshotSequence := 1
  objectFileSequence := 1

/-- A transaction works on its own view of the tables until it commits. A write also reaches the
archive directory and the name cache, which no rollback restores. -/
structure Session where
  database : Database
  committed : Database
  files : PyStr → Option Bytes
  cache : Redis

/-- No transaction is open on an idle session. -/
def Session.Idle (session : Session) : Prop := session.database = session.committed

/-- A rollback restores the committed tables but not the sequences. -/
def Session.rollback (session : Session) : Session :=
  let restored := { session.committed with
    snapshotSequence := session.database.snapshotSequence
    objectFileSequence := session.database.objectFileSequence }
  { session with
    database := restored
    committed := restored }

structure VersionValues where
  key : VersionKey
  payload : Json
  seenAt : Datetime

structure EntryValues where
  snapshotId : Nat
  orderId : Int
  versionHash : PyStr
  regionId : Int

/-- A name row may still hold any JSON value where the response put one. -/
structure NameValues where
  datasource : PyStr
  entityId : Json
  entityName : Json
  category : Json
  seenAt : Datetime

/-- These are the statements and the other effects of the archive code. -/
inductive Statement where
  | insertBlob (contentHash : PyStr) (row : ArchivePayloadBlob)
  | insertTimeseries (row : TimeSeriesSnapshot)
  | selectTimeseriesId (idempotencyKey : PyStr)
  | selectObjectFileId (contentHash : PyStr)
  | writeParquet (filePath : PyStr) (content : Bytes)
  | insertObjectFile (row : ArchiveObjectFile)
  | upsertVersions (rows : List VersionValues)
  | insertEntries (rows : List EntryValues)
  | labelParquet (snapshotId manifestId : Nat)
  | upsertReference (identity : Identity) (row : ReferenceSnapshot)
  | insertEvent (identity : Identity) (row : EventSnapshot)
  | upsertNames (rows : List NameValues)
  | setNames (datasource : PyStr) (items : List (PyStr × PyStr × PyStr))
  | commit

def Statement.Reply : Statement → Type
  | .insertTimeseries _ => Option Nat
  | .selectTimeseriesId _ => Option Nat
  | .selectObjectFileId _ => Option Nat
  | .insertObjectFile _ => Option Nat
  | _ => Unit

abbrev archiveInterface : Interface := ⟨Statement, Statement.Reply⟩

abbrev Transaction := Program archiveInterface

def bigint (value : Int) : Bool := -2 ^ 63 ≤ value && value < 2 ^ 63

def smallint (value : Int) : Bool := -2 ^ 15 ≤ value && value < 2 ^ 15

/-- PostgreSQL stores no text with a zero code point or a surrogate. -/
def isText (value : PyStr) : Bool := value.all fun symbol => symbol ≠ 0 && !isSurrogate symbol

def isVarchar (limit : Nat) (value : PyStr) : Bool := isText value && value.length ≤ limit

def Identity.fits (identity : Identity) : Bool :=
  isVarchar 20 identity.datasource && isText identity.path && isVarchar 16 identity.queryHash

def optional {Value : Type} (fits : Value → Bool) : Option Value → Bool
  | none => true
  | some value => fits value

/-- The columns of a row hold the values that its types admit. The content hash is a digest. -/
def TimeSeriesSnapshot.fits (row : TimeSeriesSnapshot) : Bool :=
  row.identity.fits && optional (isVarchar 255) row.etag && smallint row.httpStatus

def ReferenceSnapshot.fits (row : ReferenceSnapshot) : Bool :=
  optional (isVarchar 255) row.etag && smallint row.httpStatus

def EventSnapshot.fits (row : EventSnapshot) : Bool :=
  optional (isVarchar 255) row.etag && smallint row.httpStatus

/-- These columns form `uq_timeseries_snapshot`. -/
def TimeSeriesSnapshot.sameSnapshot (first second : TimeSeriesSnapshot) : Bool :=
  first.identity = second.identity && first.fetchedAt = second.fetchedAt &&
    first.contentHash = second.contentHash

section Libraries
variable (libraries : Libraries)

/-- This is the value of a JSONB column after a value was stored in it. -/
def storedJson (value : Json) : Option Json := libraries.jsonb value.canonical

/-- An upsert refuses a statement that would touch a row twice. -/
def upsertVersion (versions : VersionKey → Option MarketOrderVersion) (row : VersionValues)
    (payload : Json) : VersionKey → Option MarketOrderVersion :=
  Function.update versions row.key
    (match versions row.key with
      | some old => some { old with lastSeenAt := row.seenAt }
      | none => some ⟨payload, row.seenAt, row.seenAt⟩)

/-- `ON CONFLICT DO UPDATE` of a batch, row by row. -/
def upsertVersions (versions : VersionKey → Option MarketOrderVersion) :
    List VersionValues → Option (VersionKey → Option MarketOrderVersion)
  | [] => some versions
  | row :: rest =>
      if isVarchar 20 row.key.datasource && bigint row.key.orderId then
        (storedJson libraries row.payload).bind fun payload =>
          upsertVersions (upsertVersion versions row payload) rest
      else none

end Libraries

/-- `ON CONFLICT DO NOTHING` of a batch, row by row. The snapshot is a foreign key. -/
def insertEntries (database : Database) (entries : Nat × Int → Option MarketOrderSnapshotEntry) :
    List EntryValues → Option (Nat × Int → Option MarketOrderSnapshotEntry)
  | [] => some entries
  | row :: rest =>
      if bigint row.orderId && bigint row.regionId &&
        database.timeseries.any fun snapshot => snapshot.id = row.snapshotId then
        insertEntries database
          (match entries (row.snapshotId, row.orderId) with
            | some _ => entries
            | none => Function.update entries (row.snapshotId, row.orderId)
                (some ⟨row.versionHash, row.regionId⟩)) rest
      else none

/-- A category column takes a text or nothing. -/
def nameCategory : Json → Option (Option PyStr)
  | .null => some none
  | .str category => if isVarchar 50 category then some (some category) else none
  | _ => none

def upsertName (names : PyStr × Int → Option IdName) (key : PyStr × Int) (name : PyStr)
    (category : Option PyStr) (seenAt : Datetime) : PyStr × Int → Option IdName :=
  Function.update names key
    (match names key with
      | some old => some { old with
          entityName := name
          category := category
          lastUpdatedAt := seenAt }
      | none => some ⟨name, category, seenAt, seenAt⟩)

section Libraries
variable (libraries : Libraries)

/-- The driver passes the value of `int` for a number to an integer column. -/
def columnInt : Json → Option Int
  | .int value => some value
  | .bool value => some (if value then 1 else 0)
  | .float numeral => libraries.floatInt numeral
  | _ => none

def NameValues.key (row : NameValues) : PyStr × Option Int :=
  (row.datasource, columnInt libraries row.entityId)

def upsertNames (names : PyStr × Int → Option IdName) :
    List NameValues → Option (PyStr × Int → Option IdName)
  | [] => some names
  | row :: rest =>
      match columnInt libraries row.entityId, row.entityName, nameCategory row.category with
      | some entityId, .str name, some category =>
          if isVarchar 20 row.datasource && bigint entityId && isText name then
            upsertNames (upsertName names (row.datasource, entityId) name category row.seenAt) rest
          else none
      | _, _, _ => none

end Libraries

/-- This function executes one statement, and a refused one gives nothing. -/
def execute (libraries : Libraries) : (statement : Statement) → Session →
    Option (statement.Reply × Session)
  | .insertBlob contentHash row, session =>
      let blobs := match session.database.blobs contentHash with
        | some _ => session.database.blobs
        | none => Function.update session.database.blobs contentHash (some row)
      some ((), { session with database := { session.database with blobs := blobs } })
  | .insertTimeseries row, session =>
      let database := session.database
      let attempted := { database with snapshotSequence := database.snapshotSequence + 1 }
      if !row.fits then none
      else if row.idempotencyKey.isSome &&
          database.timeseries.any (fun old => old.idempotencyKey = row.idempotencyKey) then
        some (none, { session with database := attempted })
      else if database.timeseries.any row.sameSnapshot then none
      else
        let row := { row with id := database.snapshotSequence }
        some (some row.id, { session with
          database := { attempted with timeseries := database.timeseries ++ [row] } })
  | .selectTimeseriesId idempotencyKey, session =>
      some ((session.database.timeseries.find? fun row =>
        row.idempotencyKey = some idempotencyKey).map (·.id), session)
  | .selectObjectFileId contentHash, session =>
      some ((session.database.objectFiles.find? fun row =>
        row.contentHash = contentHash).map (·.id), session)
  | .writeParquet filePath content, session =>
      some ((), { session with files := Function.update session.files filePath (some content) })
  | .insertObjectFile row, session =>
      let database := session.database
      let attempted := { database with objectFileSequence := database.objectFileSequence + 1 }
      if !(row.identity.fits && bigint row.regionId) then none
      else if database.objectFiles.any (fun old => old.contentHash = row.contentHash) then
        some (none, { session with database := attempted })
      else
        let row := { row with id := database.objectFileSequence }
        some (some row.id, { session with
          database := { attempted with objectFiles := database.objectFiles ++ [row] } })
  | .upsertVersions rows, session =>
      if (rows.map (·.key)).Nodup then
        (upsertVersions libraries session.database.versions rows).map fun versions =>
          ((), { session with database := { session.database with versions := versions } })
      else none
  | .insertEntries rows, session =>
      (insertEntries session.database session.database.entries rows).map fun entries =>
        ((), { session with database := { session.database with entries := entries } })
  | .labelParquet snapshotId manifestId, session =>
      if session.database.objectFiles.any (fun row => row.id = manifestId) then
        let timeseries := session.database.timeseries.map fun row =>
          if row.id = snapshotId then
            { row with
              parquetManifestId := some manifestId
              payloadStorage := .marketParquetDelta }
          else row
        some ((), { session with database := { session.database with timeseries := timeseries } })
      else none
  | .upsertReference identity row, session =>
      if identity.fits && row.fits then
        (storedJson libraries row.payload).map fun payload =>
          let first := match session.database.reference identity with
            | some old => old.firstSeenAt
            | none => row.firstSeenAt
          let row := { row with payload := payload, firstSeenAt := first }
          ((), { session with database := { session.database with
            reference := Function.update session.database.reference identity (some row) } })
      else none
  | .insertEvent identity row, session =>
      if identity.fits && row.fits then
        (storedJson libraries row.payload).map fun payload =>
          let events := match session.database.events identity with
            | some _ => session.database.events
            | none => Function.update session.database.events identity
                (some { row with payload := payload })
          ((), { session with database := { session.database with events := events } })
      else none
  | .upsertNames rows, session =>
      if (rows.map (NameValues.key libraries)).Nodup then
        (upsertNames libraries session.database.names rows).map fun names =>
          ((), { session with database := { session.database with names := names } })
      else none
  | .setNames datasource items, session =>
      some ((), { session with cache := session.cache.setNames datasource items })
  | .commit, session => some ((), { session with committed := session.database })

end EveApiCache
