import EveApiCache.Proof.Archive.Shared.Integrity

/-!
This file shows where the Parquet files of concurrent writers stand and which manifests they have.
-/

namespace EveApiCache
open Effects StepMachine

/-- An insert of a manifest is refused when the view has a manifest of the content. -/
def Statement.refused : Statement → Session → Bool
  | .insertObjectFile row, session =>
      session.database.objectFiles.any fun old => old.contentHash = row.contentHash
  | _, _ => false

/-- The file of a submission stands in its own partition, and its content has a manifest. The strict
form asks for the manifest of this file. -/
def Exported (strict : Bool) (submission : Submission) (path : PyStr) (database : Database) : Prop :=
  ∃ observed, submission = .snapshot observed ∧
    (∃ region time, pathRegion observed.identity.path = some region ∧
      path = parquetFilePath observed.identity.datasource region observed.contentHash time) ∧
    ∃ manifest ∈ database.objectFiles, manifest.contentHash = observed.contentHash ∧
      (strict = true → manifest.filePath = path)

theorem Exported.mono {strict : Bool} {submission : Submission} {path : PyStr} {before after : Database}
    (exported : Exported strict submission path before)
    (kept : ∀ manifest ∈ before.objectFiles, manifest ∈ after.objectFiles) :
    Exported strict submission path after := by
  obtain ⟨observed, same, place, manifest, member, rest⟩ := exported
  exact ⟨observed, same, place, manifest, kept manifest member, rest⟩

variable (libraries : Libraries)

/-- A strict handler executes no refused insert of a manifest. -/
def settle (strict : Bool) : Program.Handler archiveInterface Session := fun statement session =>
  if strict && statement.refused session then none else execute libraries statement session

/-- A program commits only when the file is exported. -/
abbrev Closes (strict : Bool) (submission : Submission) (path : PyStr) :
    Transaction Unit → Session → Prop :=
  Program.Guarantees (settle libraries strict) (Interferes libraries)
    (fun statement session => statement = .commit → Exported strict submission path session.database)
    fun _ _ => True

/-- A program closes the files that it writes. -/
def ClosesFiles (strict : Bool) (submission : Submission) :
    (statement : Statement) → (statement.Reply → Transaction Unit) → Prop
  | .writeParquet path _, next => ∀ session, Closes libraries strict submission path (next ()) session
  | _, _ => True

variable {libraries} {strict : Bool} {submission : Submission}
  {observed : Observation} {path : PyStr}

theorem execute_of_settle {statement : Statement} {session : Session}
    {result : statement.Reply × Session}
    (settled : settle libraries strict statement session = some result) :
    execute libraries statement session = some result := by
  unfold settle at settled
  split_ifs at settled
  exact settled

/-- An exported file stays exported. -/
theorem closes_of_exported (program : Transaction Unit) (session : Session)
    (exported : Exported strict submission path session.database) :
    Closes libraries strict submission path program session := by
  induction program generalizing session with
  | done value => trivial
  | fail => trivial
  | perform statement next ih =>
      intro later moved
      have still := exported.mono moved.extended.objectFiles
      exact ⟨fun _ => still, fun result settled => ih result.1 result.2
        (still.mono
        (execute_extends libraries statement later result (execute_of_settle settled)).objectFiles)⟩

/-- An insert of a manifest leaves a manifest of the content, and an accepted one leaves its own. -/
theorem insertObjectFile_leaves {session : Session} {row : ArchiveObjectFile}
    {result : Option Nat × Session}
    (settled : settle libraries strict (.insertObjectFile row) session = some result) :
    ∃ manifest ∈ result.2.database.objectFiles, manifest.contentHash = row.contentHash ∧
      (strict = true → manifest.filePath = row.filePath) := by
  have moved := execute_of_settle settled
  simp only [execute] at moved
  split_ifs at moved with _ taken
  · cases moved
    obtain ⟨old, member, same⟩ := List.any_eq_true.mp taken
    refine ⟨old, member, by simpa using same, fun chosen => ?_⟩
    rw [settle, chosen, Statement.refused, taken] at settled
    cases settled
  · cases moved
    exact ⟨_, List.mem_append_right _ (List.mem_singleton_self _), rfl, fun _ => rfl⟩

/-- These statements write no file. -/
def Statement.Fileless : Statement → Prop
  | .writeParquet _ _ => False
  | _ => True

theorem closesFiles_of_fileless (statement : Statement) (next : statement.Reply → Transaction Unit)
    (fileless : statement.Fileless) : ClosesFiles libraries strict submission statement next := by
  cases statement with
  | writeParquet path content => exact fileless.elim
  | _ => trivial

theorem writeMarketOrderDeltas_fileless (snapshotId : Nat) (datasource : PyStr) (regionId : Int)
    (orders : List Json) (fetchedAt : Datetime) :
    (writeMarketOrderDeltas libraries snapshotId datasource regionId orders fetchedAt).Only
      Statement.Fileless :=
  (orFail_only _ _).bind fun _ => (forBatches_only _ _ (fun _ => call_only _ _ trivial) _).bind fun _ =>
    forBatches_only _ _ (fun _ => call_only _ _ trivial) _

/-- The file of a manifest is written on the way to the manifest. -/
theorem parquetManifest_closes (pyarrow : Pyarrow) (snapshotId : Nat) (regionId : Int)
    (payload : Bytes) (orders : List Json) (fetchedAt : Datetime) (existing : Option Nat)
    (region : pathRegion observed.identity.path = some regionId)
    (next : Option Nat → Transaction Unit) (rest : ∀ value, (next value).Only Statement.Fileless) :
    (parquetManifest pyarrow snapshotId regionId observed.identity observed.contentHash payload orders
      fetchedAt existing >>= next).Always (ClosesFiles libraries strict (.snapshot observed)) := by
  have closed (value : Option Nat) := Program.always_of_only
    (@closesFiles_of_fileless libraries strict (.snapshot observed)) (rest value)
  cases existing with
  | some id => exact closed (some id)
  | none =>
      change (orFail (pyarrow.writeTable orders) >>= _ >>= next).Always _
      rw [Program.bind_assoc]
      cases pyarrow.writeTable orders with
      | none => trivial
      | some content =>
          refine ⟨fun session later _ => ⟨nofun, fun result settled => ?_⟩, fun _ => ⟨trivial, fun reply => ?_⟩⟩
          · refine closes_of_exported _ _ ⟨observed, rfl, ⟨regionId, fetchedAt, region, rfl⟩, ?_⟩
            exact insertObjectFile_leaves settled
          · cases reply with
            | some id => exact closed (some id)
            | none => exact ⟨trivial, fun found => closed found⟩

variable (settings : Settings)

/-- The optional Parquet store closes its file. -/
theorem storeParquet_closes (now : Datetime) (snapshotId : Option Nat) (next : Unit → Transaction Unit)
    (rest : (next ()).Only Statement.Fileless) :
    (storeParquet libraries settings now observed snapshotId (pathRegion observed.identity.path) >>=
      next).Always (ClosesFiles libraries strict (.snapshot observed)) := by
  have closed := Program.always_of_only (@closesFiles_of_fileless libraries strict (.snapshot observed)) rest
  unfold storeParquet
  split
  · rename_i id region pyarrow place _
    split_ifs
    · unfold writeMarketOrdersParquet
      simp only [Program.bind_assoc]
      refine Program.always_bind closesFiles_of_fileless (orFail_only _ _) (Program.returns_all _)
        fun parsed _ => Program.always_bind closesFiles_of_fileless (orFail_only _ _)
          (Program.returns_all _) fun orders _ => ⟨trivial, fun existing => ?_⟩
      refine parquetManifest_closes pyarrow id region observed.payload orders now existing place _
        fun manifestId => ?_
      have labelled : (labelSnapshot id manifestId >>= next).Only Statement.Fileless := by
        cases manifestId with
        | none => exact rest
        | some found => exact ⟨trivial, fun _ => rest⟩
      split_ifs
      · rw [Program.bind_assoc]
        exact (writeMarketOrderDeltas_fileless id _ region orders now).bind fun _ => labelled
      · exact labelled
    · exact closed
  · exact closed

/-- The first part of a time-series call writes no file and returns the region of its path. -/
theorem recordSnapshot_fileless (now : Datetime) :
    (recordSnapshot libraries now observed).Only Statement.Fileless ∧
      (recordSnapshot libraries now observed).Returns fun recorded =>
        recorded.2 = pathRegion observed.identity.path := by
  have region : (marketOrdersRegionId observed.identity.path).Only Statement.Fileless ∧
      (marketOrdersRegionId observed.identity.path).Returns fun region =>
        region = pathRegion observed.identity.path := by
    unfold marketOrdersRegionId pathRegion
    cases marketOrdersRegion observed.identity.path with
    | none => exact ⟨trivial, rfl⟩
    | some digits =>
        refine ⟨orFail_only _ _, ?_⟩
        change (orFail ((intOfText digits).map some)).Returns fun region => region = intOfText digits
        cases intOfText digits with
        | none => trivial
        | some value => rfl
  refine ⟨⟨trivial, fun _ => region.1.bind fun _ => ⟨trivial, fun inserted => ?_⟩⟩,
    fun _ => region.2.bind fun _ same inserted => ?_⟩
  · cases inserted with
    | some id => trivial
    | none => exact ⟨trivial, fun _ => trivial⟩
  · cases inserted with
    | some id => exact same
    | none => exact fun _ => same

/-- A call of `write_snapshot` closes the files that it writes. -/
theorem writeSnapshot_closes (now : Datetime) :
    (writeSnapshot libraries settings now observed).Always
      (ClosesFiles libraries strict (.snapshot observed)) := by
  unfold writeSnapshot
  cases observed.archiveType with
  | none => trivial
  | timeSeries =>
      have order := Program.bind_assoc (recordSnapshot libraries now observed)
        (fun recorded => storeParquet libraries settings now observed recorded.1 recorded.2)
        fun _ => Program.call (I := archiveInterface) .commit
      refine (congrArg (Program.Always (ClosesFiles libraries strict (.snapshot observed))) order).mpr ?_
      have recorded := @recordSnapshot_fileless libraries observed now
      refine Program.always_bind closesFiles_of_fileless recorded.1 recorded.2 fun stored same => ?_
      rw [same]
      exact storeParquet_closes settings now stored.1 _ ⟨trivial, fun _ => trivial⟩
  | reference | event =>
      exact Program.always_bind closesFiles_of_fileless (orFail_only _ _) (Program.returns_all _)
        fun payload _ => ⟨trivial, fun _ => ⟨trivial, fun _ => trivial⟩⟩

/-- Every submission closes the files that it writes. -/
theorem submission_closes (now : Datetime) (submission : Submission) :
    (submission.program libraries settings now).Always (ClosesFiles libraries strict submission) := by
  cases submission with
  | snapshot observed => exact writeSnapshot_closes settings now
  | names datasource payload =>
      refine Program.always_of_only (fun statement next naming => ?_)
        (writeNames_naming libraries now datasource payload)
      refine closesFiles_of_fileless statement next ?_
      cases statement <;> first | exact naming.elim | trivial

variable (libraries strict) in
/-- A connection closes the files that it has written and those that it will write. -/
structure Connection.Closed (archive : SharedArchive) (connection : Connection) : Prop where
  ahead : connection.program.Always (ClosesFiles libraries strict connection.submission)
  behind : ∀ path ∈ connection.exported, Closes libraries strict connection.submission path
    connection.program (archive.session connection)

variable (libraries strict) in
/-- The files of the committed calls are exported, and every connection closes its files. -/
structure SharedArchive.Closed (archive : SharedArchive) : Prop where
  sound : SharedArchive.Sound libraries archive
  exports : ∀ file ∈ archive.exports, Exported strict file.1 file.2 archive.committed
  connections : ∀ (index : Nat) (connection : Connection), archive.connections[index]? = some connection →
    Connection.Closed libraries strict archive connection

/-- In a strict run no insert of a manifest is refused. -/
def Uncontested (strict : Bool) (archive : SharedArchive) : SharedAction → Prop
  | .proceed index => ∀ connection statement next, archive.connections[index]? = some connection →
      connection.program = .perform statement next → strict = true →
        statement.refused (archive.session connection) = false
  | _ => True

theorem uncontested_false (archive : SharedArchive) (action : SharedAction) :
    Uncontested false archive action := by
  cases action with
  | proceed index =>
      intro connection statement next found program strict
      cases strict
  | _ => trivial

theorem Connection.Closed.outlives {archive later : SharedArchive} {connection : Connection}
    (closed : Connection.Closed libraries strict archive connection)
    (moved : Interferes libraries (archive.session connection) (later.session connection)) :
    Connection.Closed libraries strict later connection where
  ahead := closed.ahead
  behind path member := Program.Guarantees.later (fun _ _ _ one two => one.trans libraries two)
    (fun _ _ _ _ _ => trivial) (closed.behind path member) moved

section Executed
variable {archive : SharedArchive} {index : Nat} {connection : Connection} {statement : Statement}
  {next : statement.Reply → Transaction Unit} {result : statement.Reply × Session}
  (closed : SharedArchive.Closed libraries strict archive)
  (executed : SharedArchive.Executed libraries archive index connection statement next result)
include closed executed

/-- A file that the connection has written stays closed. -/
theorem SharedArchive.Closed.behind (settled : settle libraries strict statement
      (archive.session connection) = some result) (path : PyStr) (written : path ∈ connection.exported) :
    (statement = .commit → Exported strict connection.submission path
        (archive.session connection).database) ∧
      Closes libraries strict connection.submission path (next result.1) result.2 := by
  have promised := (closed.connections index connection executed.found).behind path written
  rw [executed.program] at promised
  obtain ⟨exported, rest⟩ := promised (archive.session connection)
    ⟨.refl _, fun _ present => present, (closed.sound.connections index connection executed.found).whole⟩
  exact ⟨exported, rest result settled⟩

/-- The connection goes on closed. -/
theorem SharedArchive.Closed.continues (settled : settle libraries strict statement
      (archive.session connection) = some result) :
    Connection.Closed libraries strict
      (archive.advance libraries index connection statement result.2 (next result.1))
      (connection.advance libraries statement archive.committed result.2.database (next result.1)) := by
  have ahead := (closed.connections index connection executed.found).ahead
  rw [executed.program] at ahead
  refine ⟨ahead.2 result.1, fun path member => ?_⟩
  refine Program.Guarantees.later (fun _ _ _ one two => one.trans libraries two)
    (fun _ _ _ _ _ => trivial) ?_ (closed.sound.continues executed)
  change path ∈ (if statement.commits then [] else connection.exported ++ statement.exports) at member
  split_ifs at member
  · cases member
  · rcases List.mem_append.mp member with old | new
    · exact (closed.behind executed settled path old).2
    · have closes := ahead.1
      cases statement with
      | writeParquet filePath content =>
          obtain rfl := List.mem_singleton.mp new
          exact closes result.2
      | _ => cases new

/-- The files of the committed calls stay exported. -/
theorem SharedArchive.Closed.exported (settled : settle libraries strict statement
      (archive.session connection) = some result) :
    ∀ file ∈ (archive.advance libraries index connection statement result.2 (next result.1)).exports,
      Exported strict file.1 file.2
        (archive.advance libraries index connection statement result.2 (next result.1)).committed := by
  have own := closed.sound.connections index connection executed.found
  rcases executed.advanced with ⟨plain, committed⟩ | ⟨rfl, committed, view⟩
  · intro file member
    rw [committed]
    refine (closed.exports file ?_).mono fun _ kept => kept
    rw [SharedArchive.advance, plain] at member
    exact member
  · intro file member
    rw [committed, view]
    rcases List.mem_append.mp member with old | new
    · exact (closed.exports file old).mono own.fragment.extended.objectFiles
    · obtain ⟨path, written, rfl⟩ := List.mem_map.mp new
      exact (closed.behind executed settled path written).1 rfl

theorem SharedArchive.Closed.advance (uncontested : strict = true →
      statement.refused (archive.session connection) = false) :
    SharedArchive.Closed libraries strict
      (archive.advance libraries index connection statement result.2 (next result.1)) := by
  have settled : settle libraries strict statement (archive.session connection) = some result := by
    unfold settle
    rw [if_neg, executed.moved]
    intro refused
    obtain ⟨chosen, taken⟩ := Bool.and_eq_true_iff.mp refused
    rw [uncontested chosen] at taken
    cases taken
  refine ⟨closed.sound.advance executed, closed.exported executed settled, fun other others found => ?_⟩
  rcases set_cases found with ⟨_, rfl⟩ | ⟨differs, present⟩
  · exact closed.continues executed settled
  · exact (closed.connections other others present).outlives
      (closed.sound.others executed differs present).moved

end Executed

variable (libraries strict) in
/-- Every state of an uncontested run is closed. -/
theorem shared_closed (injective : Function.Injective libraries.sha256) {archive : SharedArchive}
    (reached : (sharedMachine libraries settings).Guarded (Uncontested strict) archive) :
    SharedArchive.Closed libraries strict archive := by
  refine Machine.Guarded.invariant (SharedArchive.Closed libraries strict) ?_ ?_ reached
  · intro archive initial
    have sound := shared_sound libraries settings injective (.start initial)
    obtain ⟨_, unconnected, exports⟩ := initial
    refine ⟨sound, fun file member => ?_, fun index connection found => ?_⟩
    · rw [exports] at member
      cases member
    · rw [unconnected] at found
      cases found
  · intro archive action later closed allowed moved
    have moved := SharedArchive.step_moved libraries settings moved
    have sound := closed.sound.step injective moved
    rcases moved with ⟨time, _⟩ | ⟨submission⟩ | ⟨_, index, connection, _⟩ |
      ⟨index, connection, statement, next, result, found, program, free, executed⟩
    · exact ⟨sound, closed.exports, fun index connection found =>
        let same := closed.connections index connection found
        ⟨same.ahead, same.behind⟩⟩
    · refine ⟨sound, closed.exports, fun index connection found => ?_⟩
      rcases append_cases found with present | ⟨_, rfl⟩
      · have same := closed.connections index connection present
        exact ⟨same.ahead, same.behind⟩
      · exact ⟨submission_closes settings archive.now submission, nofun⟩
    · refine ⟨sound, closed.exports, fun other others found => ?_⟩
      rcases set_cases found with ⟨_, rfl⟩ | ⟨_, present⟩
      · exact ⟨trivial, nofun⟩
      · have same := closed.connections other others present
        exact ⟨same.ahead, same.behind⟩
    · exact closed.advance ⟨found, program, free, executed⟩
        (allowed connection statement next found program)

/-- Whatever the writers do at the same time, a labelled snapshot resolves to a file in the partition of
its manifest, and every file of a committed call stands in the partition of the call and has a manifest of
its content. When no insert of a manifest is refused, that manifest is the manifest of the file. -/
theorem shared_partition (libraries : Libraries) (settings : Settings)
    (injective : Function.Injective libraries.sha256) {archive : SharedArchive}
    (reached : (sharedMachine libraries settings).Reachable archive) :
    (∀ row ∈ archive.committed.timeseries, row.payloadStorage = .marketParquetDelta →
      ∃ manifest ∈ archive.committed.objectFiles, row.parquetManifestId = some manifest.id ∧
        manifest.contentHash = row.contentHash ∧ InPartition archive.files manifest) ∧
    (∀ file ∈ archive.exports, Exported false file.1 file.2 archive.committed) ∧
    ((sharedMachine libraries settings).Guarded (Uncontested true) archive →
      ∀ file ∈ archive.exports, Exported true file.1 file.2 archive.committed) := by
  have whole := (shared_sound libraries settings injective reached).committed
  refine ⟨fun row member label => ?_, ?_, fun uncontested => ?_⟩
  · obtain ⟨manifest, stored, same, hash⟩ := whole.labelled row member label
    exact ⟨manifest, stored, same, hash, whole.filed manifest stored⟩
  · have free : (sharedMachine libraries settings).Guarded (Uncontested false) archive :=
      reached.mono fun state action _ => uncontested_false state action
    exact (shared_closed libraries false settings injective free).exports
  · exact (shared_closed libraries true settings injective uncontested).exports

/-- The last snapshot leads to the file of the other region, and its own file has no manifest. -/
theorem shared_partition_crossed : ∃ archive : SharedArchive,
    (sharedMachine racingLibraries {}).Reachable archive ∧
    (∃ row ∈ archive.committed.timeseries, row.payloadStorage = .marketParquetDelta ∧
      ∀ manifest ∈ archive.committed.objectFiles, row.parquetManifestId = some manifest.id →
        manifest.identity.path ≠ row.identity.path ∧
          pathRegion row.identity.path ≠ some manifest.regionId) ∧
    ∃ file ∈ archive.exports, ∀ manifest ∈ archive.committed.objectFiles, manifest.filePath ≠ file.2 := by
  obtain ⟨archive, ran, found⟩ := (Option.any_eq_true ..).mp (show (((sharedMachine racingLibraries {}).run
    sharedEmpty racingSchedule).any fun archive => decide ((∃ row ∈ archive.committed.timeseries,
      row.payloadStorage = .marketParquetDelta ∧ ∀ manifest ∈ archive.committed.objectFiles,
        row.parquetManifestId = some manifest.id → manifest.identity.path ≠ row.identity.path ∧
          pathRegion row.identity.path ≠ some manifest.regionId) ∧
      ∃ file ∈ archive.exports, ∀ manifest ∈ archive.committed.objectFiles,
        manifest.filePath ≠ file.2)) = true by decide +kernel)
  exact ⟨archive, Machine.Reachable.run (.start ⟨rfl, rfl, rfl⟩) racingSchedule ran, of_decide_eq_true found⟩

/-- Both files of the two writers have one manifest. -/
theorem shared_partition_racing : ∃ archive : SharedArchive, archive.exports.length = 2 ∧
    ∀ file ∈ archive.exports, Exported false file.1 file.2 archive.committed := by
  obtain ⟨archive, ran, count⟩ := (Option.any_eq_true ..).mp (show (((sharedMachine racingLibraries {}).run
    sharedEmpty racingSchedule).any fun archive => decide (archive.exports.length = 2)) = true by
      decide +kernel)
  exact ⟨archive, of_decide_eq_true count, (shared_partition racingLibraries {}
    (pinnedDigest_injective racingDigests_pinnable)
    (Machine.Reachable.run (.start ⟨rfl, rfl, rfl⟩) racingSchedule ran)).2.1⟩

end EveApiCache
