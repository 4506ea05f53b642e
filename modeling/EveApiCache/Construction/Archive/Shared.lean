import EveApiCache.Construction.Archive.Write
import EveApiCache.Library.Overlay
import EveApiCache.Library.StepMachine

/-!
This file models concurrent writers of the archive. PostgreSQL runs each transaction at the level
`READ COMMITTED`, so a statement sees what is committed when it starts and what its own transaction has
written.
-/

namespace EveApiCache
open Effects StepMachine

/-- A transaction locks a row that it writes under the keys of the row. -/
inductive RowKey where
  | snapshot (id : Nat)
  | snapshotKey (idempotencyKey : PyStr)
  | blob (contentHash : PyStr)
  | manifestId (id : Nat)
  | manifest (contentHash : PyStr)
  | reference (identity : Identity)
  | event (identity : Identity)
  | name (key : PyStr × Int)
  | version (key : VersionKey)
  | entry (key : Nat × Int)
  deriving DecidableEq

/-- A transaction holds the keys of its written rows. -/
def Database.holds (written : Database) : RowKey → Bool
  | .snapshot id => written.timeseries.any (·.id = id)
  | .snapshotKey key => written.timeseries.any (·.idempotencyKey = some key)
  | .blob contentHash => (written.blobs contentHash).isSome
  | .manifestId id => written.objectFiles.any (·.id = id)
  | .manifest contentHash => written.objectFiles.any (·.contentHash = contentHash)
  | .reference identity => (written.reference identity).isSome
  | .event identity => (written.events identity).isSome
  | .name key => (written.names key).isSome
  | .version key => (written.versions key).isSome
  | .entry key => (written.entries key).isSome

/-- This is the view of a transaction that has written some rows above the committed ones. -/
def Database.onto (written base : Database) : Database where
  timeseries := Overlay.rows (·.id) written.timeseries base.timeseries
  blobs := Overlay.table written.blobs base.blobs
  objectFiles := Overlay.rows (·.id) written.objectFiles base.objectFiles
  reference := Overlay.table written.reference base.reference
  events := Overlay.table written.events base.events
  names := Overlay.table written.names base.names
  versions := Overlay.table written.versions base.versions
  entries := Overlay.table written.entries base.entries
  snapshotSequence := base.snapshotSequence
  objectFileSequence := base.objectFileSequence

def Statement.commits : Statement → Bool
  | .commit => true
  | _ => false

section Libraries
variable (libraries : Libraries)

/-- A statement waits for the transaction that holds one of these keys. -/
def Statement.locks : Statement → List RowKey
  | .insertBlob contentHash _ => [.blob contentHash]
  | .insertTimeseries row => row.idempotencyKey.toList.map .snapshotKey
  | .insertObjectFile row => [.manifest row.contentHash]
  | .upsertVersions rows => rows.map fun row => .version row.key
  | .insertEntries rows => rows.map fun row => .entry (row.snapshotId, row.orderId)
  | .labelParquet snapshotId _ => [.snapshot snapshotId]
  | .upsertReference identity _ => [.reference identity]
  | .insertEvent identity _ => [.event identity]
  | .upsertNames rows => rows.filterMap fun row =>
      (columnInt libraries row.entityId).map fun entityId => .name (row.datasource, entityId)
  | _ => []

def Statement.touches (statement : Statement) (key : RowKey) : Bool :=
  key ∈ statement.locks libraries

/-- These rows a transaction has written when a statement led to its view `after`. -/
def Statement.written (statement : Statement) (committed held after : Database) : Database :=
  if statement.commits then .empty
  else
    { timeseries := Overlay.addedRows (·.id)
        (fun row => held.holds (.snapshot row.id) || statement.touches libraries (.snapshot row.id))
        committed.timeseries after.timeseries
      blobs := Overlay.added committed.blobs after.blobs
      objectFiles := Overlay.addedRows (·.id) (fun _ => false) committed.objectFiles after.objectFiles
      reference := Overlay.updated (fun identity => statement.touches libraries (.reference identity))
        held.reference after.reference
      events := Overlay.added committed.events after.events
      names := Overlay.updated (fun key => statement.touches libraries (.name key)) held.names after.names
      versions := Overlay.updated (fun key => statement.touches libraries (.version key)) held.versions
        after.versions
      entries := Overlay.added committed.entries after.entries
      snapshotSequence := 1
      objectFileSequence := 1 }

/-- A caller submits a response to the archive. -/
inductive Submission where
  | snapshot (observed : Observation)
  | names (datasource : PyStr) (payload : Bytes)

variable (settings : Settings)

/-- The program of a submission reads the clock when it starts. -/
def Submission.program (now : Datetime) : Submission → Transaction Unit
  | .snapshot observed => writeSnapshot libraries settings now observed
  | .names datasource payload => writeNames libraries now datasource payload

/-- A connection runs the transaction of one submission. It also records the Parquet files of the
transaction. -/
structure Connection where
  submission : Submission
  program : Transaction Unit
  written : Database
  exported : List PyStr

/-- A rollback drops the rows of the transaction, but it leaves the files. -/
def Connection.rollback (connection : Connection) : Connection :=
  { connection with
    program := .done ()
    written := .empty
    exported := [] }

def Statement.exports : Statement → List PyStr
  | .writeParquet filePath _ => [filePath]
  | _ => []

/-- A connection goes on after a statement. -/
def Connection.advance (connection : Connection) (statement : Statement)
    (committed after : Database) (rest : Transaction Unit) : Connection :=
  { connection with
    program := rest
    written := statement.written libraries committed connection.written after
    exported := if statement.commits then [] else connection.exported ++ statement.exports }

/-- All writers share the committed tables, the archive directory, the name cache and the clock. The
last field records the files of the committed transactions. -/
structure SharedArchive where
  now : Datetime
  committed : Database
  files : PyStr → Option Bytes
  cache : Redis
  connections : List Connection
  exports : List (Submission × PyStr)

namespace SharedArchive

/-- A connection sees its own rows above the committed ones. -/
def session (archive : SharedArchive) (connection : Connection) : Session where
  database := connection.written.onto archive.committed
  committed := archive.committed
  files := archive.files
  cache := archive.cache

/-- A statement waits while another transaction holds a row that it writes. -/
def blocked (archive : SharedArchive) (index : Nat) (statement : Statement) : Bool :=
  (archive.connections.eraseIdx index).any fun other =>
    (statement.locks libraries).any other.written.holds

/-- A transaction that fails is rolled back. -/
def abandon (archive : SharedArchive) (index : Nat) (connection : Connection) : SharedArchive :=
  { archive with connections := archive.connections.set index connection.rollback }

/-- An executed statement reaches the shared state. A sequence keeps its value whatever happens next. -/
def advance (archive : SharedArchive) (index : Nat) (connection : Connection) (statement : Statement)
    (session : Session) (rest : Transaction Unit) : SharedArchive :=
  { archive with
    committed := { session.committed with
      snapshotSequence := session.database.snapshotSequence
      objectFileSequence := session.database.objectFileSequence }
    files := session.files
    cache := session.cache
    connections := archive.connections.set index
      (connection.advance libraries statement archive.committed session.database rest)
    exports := if statement.commits then
        archive.exports ++ connection.exported.map (Prod.mk connection.submission)
      else archive.exports }

/-- A connection performs its next statement, or its program fails. -/
def proceed (archive : SharedArchive) (index : Nat) (connection : Connection) : Option SharedArchive :=
  match connection.program with
  | .done _ => none
  | .fail => some (archive.abandon index connection)
  | .perform statement next =>
      if archive.blocked libraries index statement then none
      else
        match execute libraries statement (archive.session connection) with
        | none => some (archive.abandon index connection)
        | some (reply, session) =>
            some (archive.advance libraries index connection statement session (next reply))

end SharedArchive

/-- A fault may end any transaction before its next statement. -/
inductive SharedAction where
  | tick (later : Datetime)
  | submit (submission : Submission)
  | proceed (index : Nat)
  | fault (index : Nat)

def SharedArchive.step (archive : SharedArchive) : SharedAction → Option SharedArchive
  | .tick later =>
      if archive.now.ordinal ≤ later.ordinal then some { archive with now := later } else none
  | .submit submission => some { archive with
      connections := archive.connections ++
        [⟨submission, submission.program libraries settings archive.now, .empty, []⟩] }
  | .proceed index => archive.connections[index]?.bind (archive.proceed libraries index)
  | .fault index => archive.connections[index]?.map (archive.abandon index)

/-- The archive starts empty, and any number of writers then interleave their statements. -/
def sharedMachine : Machine SharedArchive SharedAction where
  initial archive := archive.committed = .empty ∧ archive.connections = [] ∧ archive.exports = []
  step archive action := archive.step libraries settings action

end Libraries

end EveApiCache
