import EveApiCache.Proof.Archive.Shared.Advance
import EveApiCache.Proof.Archive.Shared.Promises

/-!
This file shows that concurrent writers keep the tables of the archive whole.
-/

namespace EveApiCache
open Effects StepMachine

variable (libraries : Libraries) (settings : Settings)

/-- A step ticks, opens a connection, rolls one back or lets one execute a statement. -/
inductive SharedArchive.Moved (archive : SharedArchive) : SharedAction → SharedArchive → Prop where
  | ticked (later : Datetime) (ordered : archive.now.ordinal ≤ later.ordinal) :
      SharedArchive.Moved archive (.tick later) { archive with now := later }
  | submitted (submission : Submission) : SharedArchive.Moved archive (.submit submission) { archive with
      connections := archive.connections ++
        [⟨submission, submission.program libraries settings archive.now, .empty, []⟩] }
  | abandoned (action : SharedAction) (index : Nat) (connection : Connection)
      (found : archive.connections[index]? = some connection) :
      SharedArchive.Moved archive action (archive.abandon index connection)
  | advanced (index : Nat) (connection : Connection) (statement : Statement)
      (next : statement.Reply → Transaction Unit) (result : statement.Reply × Session)
      (found : archive.connections[index]? = some connection)
      (program : connection.program = .perform statement next)
      (free : archive.blocked libraries index statement = false)
      (moved : execute libraries statement (archive.session connection) = some result) :
      SharedArchive.Moved archive (.proceed index)
        (archive.advance libraries index connection statement result.2 (next result.1))

/-- Every step of the shared archive is one of these. -/
theorem SharedArchive.step_moved {archive later : SharedArchive} {action : SharedAction}
    (moved : archive.step libraries settings action = some later) :
    SharedArchive.Moved libraries settings archive action later := by
  cases action with
  | tick time =>
      simp only [SharedArchive.step] at moved
      split_ifs at moved with ordered
      cases moved
      exact .ticked time ordered
  | submit submission =>
      cases moved
      exact .submitted submission
  | fault index =>
      obtain ⟨connection, found, rfl⟩ := Option.map_eq_some_iff.mp moved
      exact .abandoned _ index connection found
  | proceed index =>
      obtain ⟨connection, found, moved⟩ := Option.bind_eq_some_iff.mp moved
      unfold SharedArchive.proceed at moved
      cases program : connection.program with
      | done value =>
          rw [program] at moved
          cases moved
      | fail =>
          rw [program] at moved
          cases moved
          exact .abandoned _ index connection found
      | perform statement next =>
          rw [program] at moved
          dsimp only at moved
          split_ifs at moved with blocked
          cases executed : execute libraries statement (archive.session connection) with
          | none =>
              rw [executed] at moved
              cases moved
              exact .abandoned _ index connection found
          | some result =>
              rw [executed] at moved
              cases moved
              exact .advanced index connection statement next result found program
                (by simpa using blocked) executed

/-- A statement that is not blocked locks no key of another connection. -/
theorem SharedArchive.free_of_blocked {archive : SharedArchive} {index other : Nat}
    {statement : Statement} (free : archive.blocked libraries index statement = false)
    (differs : other ≠ index) {connection : Connection}
    (found : archive.connections[other]? = some connection) :
    ∀ key ∈ statement.locks libraries, connection.written.holds key = false := by
  intro key locked
  refine Bool.eq_false_of_not_eq_true fun held => ?_
  have blocked : archive.blocked libraries index statement = true := by
    unfold SharedArchive.blocked
    rw [List.any_eq_true]
    refine ⟨connection, List.mem_eraseIdx_iff_getElem?.mpr ⟨other, differs, found⟩, ?_⟩
    rw [List.any_eq_true]
    exact ⟨key, locked, held⟩
  rw [blocked] at free
  cases free

/-- A connection is sound when its view is whole and its program keeps its promises. -/
structure Connection.Sound (archive : SharedArchive) (connection : Connection) : Prop where
  fragment : Fragment archive.committed connection.written
  whole : Whole libraries archive.files (connection.written.onto archive.committed)
  numbered : IdsBelow connection.written archive.committed.snapshotSequence
    archive.committed.objectFileSequence
  promised : Promises libraries (fun _ _ => True) connection.program (archive.session connection)

/-- The shared archive is sound when all its views are, and no two transactions hold one key. -/
structure SharedArchive.Sound (archive : SharedArchive) : Prop where
  committed : Whole libraries archive.files archive.committed
  numbered : IdsBelow archive.committed archive.committed.snapshotSequence
    archive.committed.objectFileSequence
  connections : ∀ (index : Nat) (connection : Connection), archive.connections[index]? = some connection →
    Connection.Sound libraries archive connection
  apart : ∀ (first second : Nat) (one two : Connection), first ≠ second → archive.connections[first]? = some one →
    archive.connections[second]? = some two → Apart one.written two.written

variable {libraries}

theorem numbered_empty (snapshotSequence objectFileSequence : Nat) :
    IdsBelow .empty snapshotSequence objectFileSequence where
  snapshots _ absent := by cases absent
  manifests _ absent := by cases absent

/-- A connection that has written nothing sees what is committed. -/
theorem Connection.sound_fresh {archive : SharedArchive} (committed : Whole libraries archive.files
      archive.committed) (connection : Connection) (empty : connection.written = .empty)
    (promised : Promises libraries (fun _ _ => True) connection.program (archive.session connection)) :
    Connection.Sound libraries archive connection := by
  refine ⟨?_, ?_, ?_, promised⟩
  · rw [empty]
    exact fragment_empty archive.committed
  · rw [empty, onto_empty]
    exact committed
  · rw [empty]
    exact numbered_empty _ _

variable (libraries) in
/-- A connection outlives a change of the archive when it sees what it has seen. -/
structure Connection.Outlives (archive later : SharedArchive) (connection : Connection) : Prop where
  fragment : Fragment later.committed connection.written
  moved : Interferes libraries (archive.session connection) (later.session connection)
  snapshots : archive.committed.snapshotSequence ≤ later.committed.snapshotSequence
  manifests : archive.committed.objectFileSequence ≤ later.committed.objectFileSequence

/-- A promise survives what other transactions do. -/
theorem Promises.later {A : Type} {program : Transaction A} {before after : Session}
    (promised : Promises libraries (fun _ _ => True) program before)
    (moved : Interferes libraries before after) :
    Promises libraries (fun _ _ => True) program after :=
  Program.Guarantees.later (fun _ _ _ one two => one.trans libraries two) (fun _ _ _ _ _ => trivial)
    promised moved

/-- A connection stays sound while others change the archive below it. -/
theorem Connection.Sound.outlives {archive later : SharedArchive} {connection : Connection}
    (sound : Connection.Sound libraries archive connection)
    (outlives : Connection.Outlives libraries archive later connection) :
    Connection.Sound libraries later connection where
  fragment := outlives.fragment
  whole := outlives.moved.whole
  numbered := ⟨fun row member => (sound.numbered.snapshots row member).trans_le outlives.snapshots,
    fun row member => (sound.numbered.manifests row member).trans_le outlives.manifests⟩
  promised := sound.promised.later outlives.moved

/-- The connections after a change are the others and the changed one. -/
theorem set_cases {connections : List Connection} {index other : Nat} {changed connection : Connection}
    (found : (connections.set index changed)[other]? = some connection) :
    (other = index ∧ connection = changed) ∨ other ≠ index ∧ connections[other]? = some connection := by
  rw [List.getElem?_set] at found
  split_ifs at found with same inside
  · exact .inl ⟨same.symm, (Option.some.inj found).symm⟩
  · exact .inr ⟨Ne.symm same, found⟩

/-- An archive is sound after a change when the other connections are and the changed one is. -/
theorem SharedArchive.Sound.replace {archive later : SharedArchive}
    (sound : SharedArchive.Sound libraries archive) (index : Nat) (changed : Connection)
    (connections : later.connections = archive.connections.set index changed)
    (committed : Whole libraries later.files later.committed)
    (numbered : IdsBelow later.committed later.committed.snapshotSequence
      later.committed.objectFileSequence)
    (others : ∀ other connection, other ≠ index → archive.connections[other]? = some connection →
      Connection.Sound libraries later connection ∧ Apart changed.written connection.written)
    (own : Connection.Sound libraries later changed) : SharedArchive.Sound libraries later where
  committed := committed
  numbered := numbered
  connections other connection found := by
    rcases set_cases (connections ▸ found) with ⟨_, rfl⟩ | ⟨differs, found⟩
    · exact own
    · exact (others other connection differs found).1
  apart first second one two differs foundOne foundTwo := by
    rcases set_cases (connections ▸ foundOne) with ⟨rfl, rfl⟩ | ⟨notFirst, foundOne⟩
    · rcases set_cases (connections ▸ foundTwo) with ⟨rfl, rfl⟩ | ⟨notSecond, foundTwo⟩
      · exact absurd rfl differs
      · exact (others second two notSecond foundTwo).2
    · rcases set_cases (connections ▸ foundTwo) with ⟨rfl, rfl⟩ | ⟨notSecond, foundTwo⟩
      · exact (others first one notFirst foundOne).2.symm
      · exact sound.apart first second one two differs foundOne foundTwo

theorem SharedArchive.Sound.abandon {archive : SharedArchive}
    (sound : SharedArchive.Sound libraries archive) (index : Nat) (connection : Connection) :
    SharedArchive.Sound libraries (archive.abandon index connection) := by
  refine sound.replace index connection.rollback rfl sound.committed sound.numbered
    (fun other found _ present => ⟨?_, ?_⟩) ?_
  · have same := sound.connections other found present
    exact ⟨same.fragment, same.whole, same.numbered, same.promised⟩
  · exact (apart_empty found.written).symm
  · refine Connection.sound_fresh ?_ _ rfl trivial
    exact sound.committed

/-- The connections after a submission are the others and the new one. -/
theorem append_cases {connections : List Connection} {index : Nat} {new connection : Connection}
    (found : (connections ++ [new])[index]? = some connection) :
    connections[index]? = some connection ∨ connections.length ≤ index ∧ connection = new := by
  rw [List.getElem?_append] at found
  split_ifs at found with inside
  · exact .inl found
  · exact .inr ⟨by omega, List.mem_singleton.mp (List.mem_of_getElem? found)⟩

variable {settings} in
theorem SharedArchive.Sound.submit {archive : SharedArchive}
    (injective : Function.Injective libraries.sha256) (sound : SharedArchive.Sound libraries archive)
    (submission : Submission) : SharedArchive.Sound libraries { archive with
      connections := archive.connections ++
        [⟨submission, submission.program libraries settings archive.now, .empty, []⟩] } := by
  refine ⟨sound.committed, sound.numbered, fun index connection found => ?_,
    fun first second one two differs foundOne foundTwo => ?_⟩
  · rcases append_cases found with present | ⟨_, rfl⟩
    · have same := sound.connections index connection present
      exact ⟨same.fragment, same.whole, same.numbered, same.promised⟩
    · refine Connection.sound_fresh ?_ _ rfl ?_
      · exact sound.committed
      · exact submission_promises settings injective archive.now submission _
  · rcases append_cases foundOne with presentOne | ⟨_, rfl⟩
    · rcases append_cases foundTwo with presentTwo | ⟨_, rfl⟩
      · exact sound.apart first second one two differs presentOne presentTwo
      · exact apart_empty one.written
    · exact (apart_empty two.written).symm

theorem Extends.sequences (database : Database) (snapshotSequence objectFileSequence : Nat) :
    Extends database { database with
      snapshotSequence := snapshotSequence
      objectFileSequence := objectFileSequence } :=
  { Extends.refl database with toKept := { Kept.refl database with } }

theorem Whole.sequences {files : PyStr → Option Bytes} {database : Database}
    (whole : Whole libraries files database) (snapshotSequence objectFileSequence : Nat) :
    Whole libraries files { database with
      snapshotSequence := snapshotSequence
      objectFileSequence := objectFileSequence } :=
  whole.of_extends (.sequences database _ _) rfl rfl rfl

theorem Fragment.sequences {committed written : Database} (fragment : Fragment committed written)
    (snapshotSequence objectFileSequence : Nat) :
    Fragment { committed with
      snapshotSequence := snapshotSequence
      objectFileSequence := objectFileSequence } written where
  snapshotIds := fragment.snapshotIds
  manifestIds := fragment.manifestIds
  extended := { fragment.extended with toKept := { fragment.extended.toKept with } }

/-- A sound connection that executes a statement reaches a whole view. -/
theorem Connection.Sound.executed {archive : SharedArchive} {connection : Connection}
    (sound : Connection.Sound libraries archive connection)
    (numbered : IdsBelow archive.committed archive.committed.snapshotSequence
      archive.committed.objectFileSequence)
    {statement : Statement} {next : statement.Reply → Transaction Unit}
    {result : statement.Reply × Session} (program : connection.program = .perform statement next)
    (moved : execute libraries statement (archive.session connection) = some result) :
    Whole libraries result.2.files result.2.database ∧
      IdsBelow result.2.database result.2.database.snapshotSequence
        result.2.database.objectFileSequence ∧
      Promises libraries (fun _ _ => True) (next result.1) result.2 := by
  have promised := sound.promised
  rw [program] at promised
  obtain ⟨permitted, rest⟩ := promised (archive.session connection)
    ⟨.refl _, fun _ present => present, sound.whole⟩
  have inView : IdsBelow (archive.session connection).database archive.committed.snapshotSequence
      archive.committed.objectFileSequence := by
    refine ⟨fun row member => ?_, fun row member => ?_⟩
    · rcases (sound.fragment.snapshot _).mp member with own | ⟨below, _⟩
      · exact sound.numbered.snapshots row own
      · exact numbered.snapshots row below
    · rcases (sound.fragment.manifest _).mp member with own | ⟨below, _⟩
      · exact sound.numbered.manifests row own
      · exact numbered.manifests row below
  exact ⟨execute_whole libraries statement _ result sound.whole inView permitted moved,
    written_numbered rfl sound.whole.snapshotIds inView moved, rest result moved⟩

/-- A statement other than a commit leaves the committed rows. -/
theorem execute_plain (statement : Statement) (session : Session)
    (result : statement.Reply × Session) (plain : statement.commits = false)
    (moved : execute libraries statement session = some result) :
    result.2.committed = session.committed := by
  rcases execute_committed libraries statement session result moved with same | ⟨rfl, _⟩
  · exact same
  · cases plain

variable (libraries) in
/-- These facts describe a statement that a connection of a sound archive has executed. -/
structure SharedArchive.Executed (archive : SharedArchive) (index : Nat) (connection : Connection)
    (statement : Statement) (next : statement.Reply → Transaction Unit)
    (result : statement.Reply × Session) : Prop where
  found : archive.connections[index]? = some connection
  program : connection.program = .perform statement next
  free : archive.blocked libraries index statement = false
  moved : execute libraries statement (archive.session connection) = some result

/-- The committed tables stay below the new view, or the new view is what is committed. -/
theorem SharedArchive.Executed.advanced {archive : SharedArchive} {index : Nat} {connection : Connection}
    {statement : Statement} {next : statement.Reply → Transaction Unit}
    {result : statement.Reply × Session}
    (executed : SharedArchive.Executed libraries archive index connection statement next result) :
    (statement.commits = false ∧ (archive.advance libraries index connection statement result.2
      (next result.1)).committed = { archive.committed with
        snapshotSequence := result.2.database.snapshotSequence
        objectFileSequence := result.2.database.objectFileSequence }) ∨
      (statement = .commit ∧ (archive.advance libraries index connection statement result.2
        (next result.1)).committed = result.2.database ∧
          result.2.database = connection.written.onto archive.committed) := by
  cases plain : statement.commits with
  | false =>
      refine .inl ⟨rfl, ?_⟩
      unfold SharedArchive.advance
      rw [execute_plain statement _ result plain executed.moved]
      rfl
  | true =>
      obtain rfl : statement = .commit := by
        cases statement <;> first | rfl | cases plain
      have moved := executed.moved
      cases moved
      exact .inr ⟨rfl, rfl, rfl⟩

section Executed
variable {archive : SharedArchive} {index : Nat} {connection : Connection} {statement : Statement}
  {next : statement.Reply → Transaction Unit} {result : statement.Reply × Session}
  (sound : SharedArchive.Sound libraries archive)
  (executed : SharedArchive.Executed libraries archive index connection statement next result)
include sound executed

theorem SharedArchive.Sound.reaches : Whole libraries result.2.files result.2.database ∧
    IdsBelow result.2.database result.2.database.snapshotSequence result.2.database.objectFileSequence ∧
      Promises libraries (fun _ _ => True) (next result.1) result.2 :=
  (sound.connections index connection executed.found).executed sound.numbered executed.program
    executed.moved

/-- The transaction sees what the statement left. -/
theorem SharedArchive.Sound.view :
    (statement.written libraries archive.committed connection.written result.2.database).onto
      (archive.advance libraries index connection statement result.2 (next result.1)).committed =
        result.2.database := by
  have own := sound.connections index connection executed.found
  obtain ⟨whole, _⟩ := sound.reaches executed
  rcases executed.advanced with ⟨plain, committed⟩ | ⟨rfl, committed, _⟩
  · rw [committed]
    exact written_onto rfl plain own.fragment sound.numbered executed.moved whole.snapshotIds
      whole.manifestIds
  · rw [committed]
    exact onto_empty _

/-- The transaction goes on from what the statement left. -/
theorem SharedArchive.Sound.continues : Interferes libraries result.2
    ((archive.advance libraries index connection statement result.2 (next result.1)).session
      (connection.advance libraries statement archive.committed result.2.database (next result.1))) := by
  have view := sound.view executed
  obtain ⟨whole, _⟩ := sound.reaches executed
  refine ⟨?_, fun _ present => present, ?_⟩
  · change Extends result.2.database (Database.onto (statement.written ..) _)
    rw [view]
    exact .refl _
  · change Whole libraries result.2.files (Database.onto (statement.written ..) _)
    rw [view]
    exact whole

/-- Every other connection outlives the statement. -/
theorem SharedArchive.Sound.others {other : Nat} {others : Connection} (differs : other ≠ index)
    (present : archive.connections[other]? = some others) :
    Connection.Outlives libraries archive
      (archive.advance libraries index connection statement result.2 (next result.1)) others := by
  have own := sound.connections index connection executed.found
  have before := sound.connections other others present
  have kept := execute_files libraries statement _ result executed.moved
  have manifests : archive.committed.objectFileSequence ≤ result.2.database.objectFileSequence :=
    (execute_framed libraries statement _ result executed.moved).objectFileSequence
  have snapshots : archive.committed.snapshotSequence ≤ result.2.database.snapshotSequence :=
    (execute_grown libraries statement _ result executed.moved).sequence
  rcases executed.advanced with ⟨plain, committed⟩ | ⟨rfl, committed, view⟩
  · refine ⟨?_, ⟨?_, kept, ?_⟩, ?_, ?_⟩
    · rw [committed]
      exact before.fragment.sequences _ _
    · rw [SharedArchive.session, SharedArchive.session, committed]
      exact .sequences _ _ _
    · rw [SharedArchive.session, committed]
      exact (before.whole.files kept).sequences _ _
    · rw [committed]
      exact snapshots
    · rw [committed]
      exact manifests
  · have apart := sound.apart index other connection others differs.symm executed.found present
    rw [view] at committed
    refine ⟨?_, ⟨?_, kept, ?_⟩, ?_, ?_⟩
    · rw [committed]
      exact ⟨before.fragment.snapshotIds, before.fragment.manifestIds, joined_extends own.fragment
        before.fragment apart before.whole.snapshotIds before.whole.manifestIds⟩
    · rw [SharedArchive.session, SharedArchive.session, committed]
      exact before.fragment.mono own.fragment.extended
    · rw [SharedArchive.session, committed]
      exact (joined_whole own.fragment before.fragment apart before.whole.snapshotIds
        before.whole.manifestIds own.whole before.whole).files kept
    · rw [committed, ← view]
      exact snapshots
    · rw [committed, ← view]
      exact manifests

/-- A statement of one connection keeps the shared archive sound. -/
theorem SharedArchive.Sound.advance : SharedArchive.Sound libraries
    (archive.advance libraries index connection statement result.2 (next result.1)) := by
  have own := sound.connections index connection executed.found
  have kept := execute_files libraries statement _ result executed.moved
  have manifests : archive.committed.objectFileSequence ≤ result.2.database.objectFileSequence :=
    (execute_framed libraries statement _ result executed.moved).objectFileSequence
  have snapshots : archive.committed.snapshotSequence ≤ result.2.database.snapshotSequence :=
    (execute_grown libraries statement _ result executed.moved).sequence
  obtain ⟨whole, numbered, promised⟩ := sound.reaches executed
  have continues := sound.continues executed
  refine sound.replace index _ rfl ?_ ?_ (fun other others differs present =>
    ⟨(sound.connections other others present).outlives (sound.others executed differs present), ?_⟩)
    ⟨?_, continues.whole, ?_, promised.later continues⟩
  · rcases executed.advanced with ⟨_, committed⟩ | ⟨_, committed, _⟩
    · rw [committed]
      exact (sound.committed.files kept).sequences _ _
    · rw [committed]
      exact whole
  · rcases executed.advanced with ⟨_, committed⟩ | ⟨_, committed, _⟩
    · rw [committed]
      exact ⟨fun row member => (sound.numbered.snapshots row member).trans_le snapshots,
        fun row member => (sound.numbered.manifests row member).trans_le manifests⟩
    · rw [committed]
      exact numbered
  · have before := sound.connections other others present
    exact written_apart rfl own.fragment before.fragment before.whole before.numbered executed.moved
      (SharedArchive.free_of_blocked libraries executed.free differs present)
      (sound.apart index other connection others differs.symm executed.found present)
  · rcases executed.advanced with ⟨plain, committed⟩ | ⟨rfl, _⟩
    · rw [committed]
      exact written_fragment rfl plain own.fragment sound.numbered executed.moved whole.snapshotIds
        whole.manifestIds
    · exact fragment_empty _
  · rcases executed.advanced with ⟨_, committed⟩ | ⟨rfl, _⟩
    · rw [committed]
      exact ⟨fun row member => numbered.snapshots row (written_snapshot member).1,
        fun row member => numbered.manifests row (written_manifest member).1⟩
    · exact numbered_empty _ _

end Executed

variable {settings} in
/-- Every step keeps the shared archive sound. -/
theorem SharedArchive.Sound.step (injective : Function.Injective libraries.sha256)
    {archive later : SharedArchive} {action : SharedAction}
    (sound : SharedArchive.Sound libraries archive)
    (moved : SharedArchive.Moved libraries settings archive action later) :
    SharedArchive.Sound libraries later := by
  rcases moved with ⟨time, _⟩ | ⟨submission⟩ | ⟨_, index, connection, _⟩ |
    ⟨index, connection, statement, next, result, found, program, free, executed⟩
  · exact ⟨sound.committed, sound.numbered, fun index connection found =>
      let same := sound.connections index connection found
      ⟨same.fragment, same.whole, same.numbered, same.promised⟩, sound.apart⟩
  · exact sound.submit injective submission
  · exact sound.abandon index connection
  · exact sound.advance ⟨found, program, free, executed⟩

variable (libraries) in
/-- Every reachable state of the shared archive is sound. -/
theorem shared_sound (injective : Function.Injective libraries.sha256) {archive : SharedArchive}
    (reached : (sharedMachine libraries settings).Reachable archive) :
    SharedArchive.Sound libraries archive := by
  refine Machine.Guarded.invariant (SharedArchive.Sound libraries) ?_ ?_ reached
  · rintro archive ⟨empty, none, _⟩
    have unconnected {index : Nat} {connection : Connection}
        (found : archive.connections[index]? = some connection) : False := by
      rw [none] at found
      cases found
    refine ⟨empty ▸ whole_empty libraries archive.files, empty ▸ numbered_empty _ _,
      fun _ _ found => (unconnected found).elim, fun _ _ _ _ _ found => (unconnected found).elim⟩
  · intro archive action later sound _ moved
    exact sound.step injective (SharedArchive.step_moved libraries settings moved)

/-- The rows of the archive refer to each other. -/
structure Integral (files : PyStr → Option Bytes) (database : Database) : Prop where
  labelled : ∀ row ∈ database.timeseries, row.payloadStorage = .marketParquetDelta →
    ∃ manifest ∈ database.objectFiles, row.parquetManifestId = some manifest.id ∧
      manifest.contentHash = row.contentHash ∧ (files manifest.filePath).isSome = true
  unlabelled : ∀ row ∈ database.timeseries, row.payloadStorage ≠ .marketParquetDelta →
    row.parquetManifestId = none
  manifestIds : (database.objectFiles.map (·.id)).Nodup
  contentHashes : (database.objectFiles.map (·.contentHash)).Nodup
  entries : ∀ snapshotId orderId entry, database.entries (snapshotId, orderId) = some entry →
    ∃ row ∈ database.timeseries, row.id = snapshotId ∧
      (database.versions ⟨row.identity.datasource, orderId, entry.versionHash⟩).isSome = true

theorem Whole.integral {files : PyStr → Option Bytes} {database : Database}
    (whole : Whole libraries files database) : Integral files database where
  labelled row member label := by
    obtain ⟨manifest, stored, same, hash⟩ := whole.labelled row member label
    exact ⟨manifest, stored, same, hash, (whole.filed manifest stored).stored⟩
  unlabelled := whole.unlabelled
  manifestIds := whole.manifestIds
  contentHashes := by
    refine List.Nodup.map_on (fun row member other inside same => ?_) (List.Nodup.of_map _ whole.manifestIds)
    exact List.inj_on_of_nodup_map whole.manifestIds member inside
      (whole.manifests row member other inside same)
  entries := whole.entries

/-- Whatever the writers do at the same time, the committed tables refer to each other, and the file of
a labelled snapshot is there. -/
theorem shared_integral (libraries : Libraries) (settings : Settings)
    (injective : Function.Injective libraries.sha256) {archive : SharedArchive}
    (reached : (sharedMachine libraries settings).Reachable archive) :
    Integral archive.files archive.committed :=
  (shared_sound libraries settings injective reached).committed.integral

/-- The digests are the real ones on an empty list and on the idempotency texts of three snapshots. -/
def racingDigests : List (Bytes × PyStr) :=
  let hash := "4f53cda18c2baa0c0354bb5f9a3ecbe5ed12ab4d8e11ba873c2f11161202b945"
  [(bytes "[]", text hash),
    (bytes "tranquility\u0000/v1/incursions/\u000044136fa355b3678a\u00002024-01-01T00:00:00+00:00" ++
        bytes "\u0000" ++ bytes hash,
      text "6e7ae86608b709e03c3d2eb373ae18ced62870a7a7c7372938d700ae639ddf81"),
    (bytes "tranquility\u0000/v1/markets/10000002/orders/\u0000e9c55fc73bb8045e\u0000" ++
        bytes "2024-01-01T00:00:00+00:00\u0000" ++ bytes hash,
      text "9db90f1f170b4b1f2e5f233fe0841a5cf8768f36dae331b0fc14057d743ab030"),
    (bytes "tranquility\u0000/v1/markets/10000043/orders/\u0000e9c55fc73bb8045e\u0000" ++
        bytes "2024-01-01T00:00:00+00:00\u0000" ++ bytes hash,
      text "f6f30060fb9f8b8fd75a6ccdcdb41e69b27a4b6cfe8c92b5bf0befc89a7e53f1")]

theorem racingDigests_pinnable : Pinnable racingDigests :=
  pinnable_of_digests (by decide +kernel) (by decide +kernel)

/-- These bytes are a Parquet file of a table without columns. -/
def emptyTable : Bytes :=
  [80, 65, 82, 49, 21, 4, 25, 28, 72, 6, 115, 99, 104, 101, 109, 97, 21, 0, 0, 22, 0, 25, 12, 0,
    20, 0, 0, 0, 80, 65, 82, 49]

/-- This library stores an empty list of orders. -/
def emptyPyarrow : Pyarrow where
  writeTable orders := if orders.isEmpty then some emptyTable else none
  readTable content := if content = emptyTable then some (.arr []) else none

def racingLibraries : Libraries :=
  { incursionLibraries with
    sha256 := pinnedDigest racingDigests
    queryDigest := pinnedDigest racingDigests
    pyarrow := some emptyPyarrow }

/-- This observes that a region has no orders. -/
def noOrders (path : String) : Observation :=
  { incursions with identity := ⟨text "tranquility", text path, text "e9c55fc73bb8045e"⟩ }

def sharedEmpty : SharedArchive where
  now := newYear
  committed := .empty
  files := fun _ => none
  cache := .empty 0
  connections := []
  exports := []

/-- The payload is known without a manifest. Two writers of regions then look for the manifest before
either of them inserts it. -/
def racingSchedule : List SharedAction :=
  [.submit (.snapshot incursions), .proceed 0, .proceed 0, .proceed 0,
    .submit (.snapshot (noOrders "/v1/markets/10000002/orders/")),
    .submit (.snapshot (noOrders "/v1/markets/10000043/orders/")),
    .proceed 1, .proceed 1, .proceed 1, .proceed 1, .proceed 2, .proceed 2, .proceed 2, .proceed 2,
    .proceed 1, .proceed 1, .proceed 1, .proceed 2, .proceed 2, .proceed 2, .proceed 2]

/-- Both writers end with a label that leads to the one manifest. -/
theorem shared_integral_racing : ∃ archive : SharedArchive,
    archive.committed.timeseries.map (fun row => (row.payloadStorage, row.parquetManifestId)) =
      [(.compressedJson, none), (.marketParquetDelta, some 1), (.marketParquetDelta, some 1)] ∧
      Integral archive.files archive.committed := by
  obtain ⟨archive, ran, labels⟩ := (Option.any_eq_true ..).mp (show (((sharedMachine racingLibraries {}).run
    sharedEmpty racingSchedule).any fun archive => decide (archive.committed.timeseries.map
      (fun row => (row.payloadStorage, row.parquetManifestId)) = [(.compressedJson, none),
        (.marketParquetDelta, some 1), (.marketParquetDelta, some 1)])) = true by decide +kernel)
  exact ⟨archive, of_decide_eq_true labels, shared_integral racingLibraries {}
    (pinnedDigest_injective racingDigests_pinnable)
    (Machine.Reachable.run (.start ⟨rfl, rfl, rfl⟩) racingSchedule ran)⟩

end EveApiCache
