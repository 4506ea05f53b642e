import EveApiCache.Proof.Archive.Shared.Integrity

/-!
This file shows what concurrent writers keep of the archive along a run.
-/

namespace EveApiCache
open Effects StepMachine

variable {libraries : Libraries} {settings : Settings}

/-- Every step extends the committed tables and keeps the files. -/
theorem SharedArchive.Sound.extends {archive later : SharedArchive} {action : SharedAction}
    (sound : SharedArchive.Sound libraries archive)
    (moved : SharedArchive.Moved libraries settings archive action later) :
    Extends archive.committed later.committed ∧ FilesKept archive.files later.files := by
  rcases moved with ⟨time, _⟩ | ⟨submission⟩ | ⟨_, index, connection, _⟩ |
    ⟨index, connection, statement, next, result, found, program, free, executed⟩
  · exact ⟨.refl _, fun _ present => present⟩
  · exact ⟨.refl _, fun _ present => present⟩
  · exact ⟨.refl _, fun _ present => present⟩
  · refine ⟨?_, execute_files libraries statement _ result executed⟩
    have fact : SharedArchive.Executed libraries archive index connection statement next result :=
      ⟨found, program, free, executed⟩
    rcases fact.advanced with ⟨_, committed⟩ | ⟨_, committed, view⟩
    · rw [committed]
      exact .sequences _ _ _
    · rw [committed, view]
      exact (sound.connections index connection found).fragment.extended

/-- Whatever the writers do at the same time, a committed row never disappears. Only the label of a
snapshot and the columns that an upsert sets ever change. -/
theorem shared_extends (libraries : Libraries) (settings : Settings)
    (injective : Function.Injective libraries.sha256) {archive final : SharedArchive}
    (reached : (sharedMachine libraries settings).Reachable archive)
    (later : ((sharedMachine libraries settings).after archive).Reachable final) :
    Extends archive.committed final.committed ∧ FilesKept archive.files final.files := by
  have grown := Machine.Guarded.invariant (fun state => SharedArchive.Sound libraries state ∧
    Extends archive.committed state.committed ∧ FilesKept archive.files state.files) ?_ ?_ later
  · exact grown.2
  · rintro _ rfl
    exact ⟨shared_sound libraries settings injective reached, .refl _, fun _ present => present⟩
  · intro before action after holds _ moved
    have step := SharedArchive.step_moved libraries settings moved
    have extended := holds.1.extends step
    exact ⟨holds.1.step injective step, holds.2.1.trans extended.1,
      fun path present => extended.2 path (holds.2.2 path present)⟩

/-- The two racing writers of regions leave the snapshot that was there before. -/
theorem shared_extends_racing : ∃ archive final : SharedArchive,
    archive.committed.timeseries.length = 1 ∧ final.committed.timeseries.length = 3 ∧
      Extends archive.committed final.committed := by
  obtain ⟨archive, ran, before⟩ := (Option.any_eq_true ..).mp (show (((sharedMachine racingLibraries {}).run
    sharedEmpty (racingSchedule.take 4)).any fun archive => decide
      (archive.committed.timeseries.length = 1)) = true by decide +kernel)
  obtain ⟨final, all, after⟩ := (Option.any_eq_true ..).mp (show (((sharedMachine racingLibraries {}).run
    sharedEmpty (racingSchedule.take 4 ++ racingSchedule.drop 4)).any fun final => decide
      (final.committed.timeseries.length = 3)) = true by decide +kernel)
  rw [Machine.run_append, ran, Option.bind_some] at all
  exact ⟨archive, final, of_decide_eq_true before, of_decide_eq_true after,
    (shared_extends racingLibraries {} (pinnedDigest_injective racingDigests_pinnable)
      (Machine.Reachable.run (.start ⟨rfl, rfl, rfl⟩) (racingSchedule.take 4) ran)
      (Machine.Reachable.run (.start rfl) (racingSchedule.drop 4)
        ((Machine.run_after _ archive archive _).trans all))).1⟩

/-- However often and however concurrently an observation is written within a minute, it leaves one
snapshot. -/
theorem shared_once (libraries : Libraries) (settings : Settings)
    (injective : Function.Injective libraries.sha256) {archive : SharedArchive}
    (reached : (sharedMachine libraries settings).Reachable archive) :
    (archive.committed.timeseries.map fun row =>
      (row.identity, row.contentHash, row.fetchedAt.minuteStart)).Nodup := by
  have whole := (shared_sound libraries settings injective reached).committed
  refine List.Nodup.map_on (fun row member other inside same => ?_) (List.Nodup.of_map _ whole.snapshotIds)
  obtain ⟨identity, rest⟩ := Prod.mk.inj same
  obtain ⟨content, minute⟩ := Prod.mk.inj rest
  have keys : row.idempotencyKey = other.idempotencyKey := by
    rw [whole.keyed row member, whole.keyed other inside]
    unfold timeseriesIdempotencyKey
    rw [identity, content, minute]
  exact List.inj_on_of_nodup_map whole.snapshotIds member inside
    (whole.snapshotKeys row member other inside keys)

/-- The second writer of an observation starts before the first one has written it. -/
def repeatedSchedule : List SharedAction :=
  [.submit (.snapshot incursions), .submit (.snapshot incursions), .proceed 0, .proceed 0, .proceed 0,
    .proceed 1, .proceed 1, .proceed 1, .proceed 1]

/-- Both writers commit, and there is one snapshot. -/
theorem shared_once_repeated : ∃ archive : SharedArchive, archive.committed.timeseries.length = 1 ∧
    (archive.committed.timeseries.map fun row =>
      (row.identity, row.contentHash, row.fetchedAt.minuteStart)).Nodup := by
  obtain ⟨archive, ran, count⟩ := (Option.any_eq_true ..).mp (show (((sharedMachine racingLibraries {}).run
    sharedEmpty repeatedSchedule).any fun archive => decide (archive.committed.timeseries.length = 1)) =
      true by decide +kernel)
  exact ⟨archive, of_decide_eq_true count, shared_once racingLibraries {}
    (pinnedDigest_injective racingDigests_pinnable)
    (Machine.Reachable.run (.start ⟨rfl, rfl, rfl⟩) repeatedSchedule ran)⟩

variable (libraries) in
/-- A program justifies its statements while other transactions extend what it sees. -/
abbrev Justifies : Transaction Unit → Session → Prop :=
  Program.Guarantees (execute libraries) (fun before after => Extends before.database after.database)
    (fun statement session => statement.Justified libraries session.database) fun _ _ => True

theorem Justifies.later {program : Transaction Unit} {before after : Session}
    (justified : Justifies libraries program before)
    (extended : Extends before.database after.database) : Justifies libraries program after := by
  refine Program.Guarantees.later ?_ (fun _ _ _ _ _ => trivial) justified extended
  exact fun _ _ _ one two => one.trans two

/-- A program that brings neither a blob nor a snapshot is justified. -/
theorem harmless_justifies {program : Transaction Unit} (only : program.Only Statement.Harmless)
    (session : Session) : Justifies libraries program session := by
  refine Program.guarantees_of_only (fun statement state harmless => ?_) only session
  cases statement <;> first | exact harmless.elim | trivial

/-- The statements behind the blob bring a snapshot of its hash only. -/
theorem afterBlob_stores (now : Datetime) (observed : Observation) :
    (((marketOrdersRegionId observed.identity.path >>= fun regionId =>
      insertTimeseries (snapshotRow libraries now observed) >>= fun inserted =>
        insertedSnapshot (timeseriesIdempotencyKey libraries observed.identity observed.contentHash
          now) inserted >>= fun snapshotId => pure (snapshotId, regionId)) >>= fun recorded =>
            storeParquet libraries settings now observed recorded.1 recorded.2) >>= fun _ =>
              Program.call (I := archiveInterface) .commit).Only (Statement.Stores observed.contentHash) := by
  have region : (marketOrdersRegionId observed.identity.path).Only
      (Statement.Stores observed.contentHash) := by
    unfold marketOrdersRegionId
    split
    · trivial
    · exact orFail_only _ _
  have recorded : (marketOrdersRegionId observed.identity.path >>= fun regionId =>
      insertTimeseries (snapshotRow libraries now observed) >>= fun inserted =>
        insertedSnapshot (timeseriesIdempotencyKey libraries observed.identity observed.contentHash
          now) inserted >>= fun snapshotId => pure (snapshotId, regionId)).Only
            (Statement.Stores observed.contentHash) := by
    refine region.bind fun regionId => ⟨rfl, fun inserted => ?_⟩
    cases inserted with
    | some id => trivial
    | none => exact ⟨trivial, fun _ => trivial⟩
  refine (recorded.bind fun stored => ?_).bind fun _ => ⟨trivial, fun _ => trivial⟩
  exact Only.weaken (storeParquet_exports libraries settings now observed _ _)
    fun statement exported => exported.harmless.stores _

/-- Once the blob of its hash is stored, the rest of a transaction is justified. -/
theorem stores_justifies {hash : PyStr} {program : Transaction Unit}
    (only : program.Only (Statement.Stores hash)) (session : Session)
    (present : (session.database.blobs hash).isSome = true) : Justifies libraries program session := by
  have remains {before after : Database} (extended : Extends before after)
      (present : (before.blobs hash).isSome = true) : (after.blobs hash).isSome = true := by
    obtain ⟨blob, stored⟩ := Option.isSome_iff_exists.mp present
    exact Option.isSome_iff_exists.mpr ⟨blob, extended.blobs hash blob stored⟩
  induction program generalizing session with
  | done value => trivial
  | fail => trivial
  | perform statement next ih =>
      intro later extended
      have still := remains extended present
      refine ⟨?_, fun result moved => ih result.1 (only.2 result.1) result.2
        (remains (execute_extends libraries statement later result moved) still)⟩
      have stores := only.1
      cases statement with
      | insertBlob => exact stores.elim
      | insertTimeseries row =>
          change (later.database.blobs row.contentHash).isSome = true
          rw [show row.contentHash = hash from stores]
          exact still
      | _ => trivial

/-- A transaction that begins with the blob of its payload is justified. -/
theorem writeSnapshot_justifies (now : Datetime) (observed : Observation)
    (hashed : observed.contentHash = libraries.sha256 observed.payload) (session : Session) :
    Justifies libraries (writeSnapshot libraries settings now observed) session := by
  unfold writeSnapshot
  cases observed.archiveType with
  | none => trivial
  | timeSeries =>
      intro later _
      refine ⟨⟨observed.payload, decompress_payloadBlob libraries _ _, hashed.symm⟩,
        fun result moved => stores_justifies (afterBlob_stores now observed) result.2 ?_⟩
      cases moved
      cases old : later.database.blobs observed.contentHash <;> simp [old]
  | reference | event =>
      exact harmless_justifies ((orFail_only _ _).bind fun _ => (call_only _ _ trivial).bind fun _ =>
        call_only _ _ trivial) session

/-- Every submission that brings the hash of its payload is justified. -/
theorem submission_justifies (now : Datetime) (submission : Submission)
    (hashed : ∀ observed, submission = .snapshot observed →
      observed.contentHash = libraries.sha256 observed.payload) (session : Session) :
    Justifies libraries (submission.program libraries settings now) session := by
  cases submission with
  | snapshot observed => exact writeSnapshot_justifies now observed (hashed observed rfl) session
  | names datasource payload =>
      exact harmless_justifies (writeNames_harmless libraries now datasource payload) session

variable (libraries) in
/-- Both callers compute the content hash from the payload. -/
def BringsHash (_ : SharedArchive) : SharedAction → Prop
  | .submit (.snapshot observed) => observed.contentHash = libraries.sha256 observed.payload
  | _ => True

variable (libraries) in
/-- Every view of the shared archive is restorable, and every program is justified. -/
structure SharedArchive.Restorable (archive : SharedArchive) : Prop where
  sound : SharedArchive.Sound libraries archive
  committed : EveApiCache.Restorable libraries archive.committed
  connections : ∀ (index : Nat) (connection : Connection), archive.connections[index]? = some connection →
    EveApiCache.Restorable libraries (connection.written.onto archive.committed) ∧
      Justifies libraries connection.program (archive.session connection)

/-- A view stays restorable while restorable tables grow below it. -/
theorem Restorable.onto {committed later written : Database}
    (view : Restorable libraries (written.onto committed)) (below : Restorable libraries later)
    (before : Fragment committed written) (after : Fragment later written)
    (extended : Extends (written.onto committed) (written.onto later)) :
    Restorable libraries (written.onto later) where
  blobs hash blob stored := by
    rcases Overlay.table_cases stored with own | ⟨_, inBase⟩
    · exact view.blobs hash blob (Overlay.table_of_written own)
    · exact below.blobs hash blob inBase
  payloads row member := by
    rcases (after.snapshot later).mp member with own | ⟨inBase, _⟩
    · obtain ⟨blob, stored⟩ := Option.isSome_iff_exists.mp
        (view.payloads row ((before.snapshot committed).mpr (.inl own)))
      exact Option.isSome_iff_exists.mpr ⟨blob, extended.blobs _ _ stored⟩
    · obtain ⟨blob, stored⟩ := Option.isSome_iff_exists.mp (below.payloads row inBase)
      exact Option.isSome_iff_exists.mpr ⟨blob, after.extended.blobs _ _ stored⟩

/-- A statement of a justified program keeps every view restorable. -/
theorem SharedArchive.Restorable.advance {archive : SharedArchive} {index : Nat}
    {connection : Connection} {statement : Statement} {next : statement.Reply → Transaction Unit}
    {result : statement.Reply × Session} (restorable : SharedArchive.Restorable libraries archive)
    (executed : SharedArchive.Executed libraries archive index connection statement next result) :
    SharedArchive.Restorable libraries
      (archive.advance libraries index connection statement result.2 (next result.1)) := by
  obtain ⟨own, justified⟩ := restorable.connections index connection executed.found
  rw [executed.program] at justified
  obtain ⟨permitted, rest⟩ := justified (archive.session connection) (.refl _)
  have view := execute_restorable libraries statement _ result own permitted executed.moved
  have sound := restorable.sound.advance executed
  have committed : EveApiCache.Restorable libraries (archive.advance libraries index connection
      statement result.2 (next result.1)).committed := by
    rcases executed.advanced with ⟨_, same⟩ | ⟨_, same, _⟩
    · rw [same]
      exact ⟨restorable.committed.blobs, restorable.committed.payloads⟩
    · rw [same]
      exact view
  refine ⟨sound, committed, fun other others found => ?_⟩
  rcases set_cases found with ⟨_, rfl⟩ | ⟨differs, present⟩
  · refine ⟨?_, Justifies.later (rest result executed.moved)
      (restorable.sound.continues executed).extended⟩
    have same := restorable.sound.view executed
    exact (congrArg (EveApiCache.Restorable libraries) same).mpr view
  · obtain ⟨seen, promised⟩ := restorable.connections other others present
    have outlives := restorable.sound.others executed differs present
    exact ⟨seen.onto committed (restorable.sound.connections other others present).fragment
      outlives.fragment outlives.moved.extended, Justifies.later promised outlives.moved.extended⟩

/-- Every state of a run whose submissions bring their hashes is restorable. -/
theorem shared_restorableStates (injective : Function.Injective libraries.sha256)
    {archive : SharedArchive}
    (reached : (sharedMachine libraries settings).Guarded (BringsHash libraries) archive) :
    SharedArchive.Restorable libraries archive := by
  refine Machine.Guarded.invariant (SharedArchive.Restorable libraries) ?_ ?_ reached
  · intro archive initial
    have sound := shared_sound libraries settings injective (.start initial)
    obtain ⟨empty, unconnected, _⟩ := initial
    refine ⟨sound, ?_, fun index connection found => ?_⟩
    · rw [empty]
      exact ⟨nofun, nofun⟩
    · rw [unconnected] at found
      cases found
  · intro archive action later restorable hashed moved
    have moved := SharedArchive.step_moved libraries settings moved
    have sound := restorable.sound.step injective moved
    have fresh : EveApiCache.Restorable libraries (Database.onto .empty archive.committed) := by
      rw [onto_empty]
      exact restorable.committed
    rcases moved with ⟨time, _⟩ | ⟨submission⟩ | ⟨_, index, connection, _⟩ |
      ⟨index, connection, statement, next, result, found, program, free, executed⟩
    · exact ⟨sound, restorable.committed, restorable.connections⟩
    · refine ⟨sound, restorable.committed, fun index connection found => ?_⟩
      rcases append_cases found with present | ⟨_, rfl⟩
      · exact restorable.connections index connection present
      · refine ⟨fresh, submission_justifies archive.now submission (fun observed same => ?_) _⟩
        subst same
        exact hashed
    · refine ⟨sound, restorable.committed, fun other others found => ?_⟩
      rcases set_cases found with ⟨_, rfl⟩ | ⟨_, present⟩
      · exact ⟨fresh, trivial⟩
      · exact restorable.connections other others present
    · exact restorable.advance ⟨found, program, free, executed⟩

/-- Whatever the writers do at the same time, every committed snapshot decompresses to a payload with its
content hash. -/
theorem shared_restorable (libraries : Libraries) (settings : Settings)
    (injective : Function.Injective libraries.sha256) {archive : SharedArchive}
    (reached : (sharedMachine libraries settings).Guarded (BringsHash libraries) archive)
    {row : TimeSeriesSnapshot} (member : row ∈ archive.committed.timeseries) :
    ∃ blob payload, archive.committed.blobs row.contentHash = some blob ∧
      decompressPayload libraries blob.payloadCodec blob.payloadCompressed = some payload ∧
        libraries.sha256 payload = row.contentHash := by
  have restorable := (shared_restorableStates injective reached).committed
  obtain ⟨blob, stored⟩ := Option.isSome_iff_exists.mp (restorable.payloads row member)
  obtain ⟨payload, restored, hashed⟩ := restorable.blobs row.contentHash blob stored
  exact ⟨blob, payload, stored, restored, hashed⟩

/-- This check admits only submissions that bring the hash of their payload. -/
def bringsHash (libraries : Libraries) (_ : SharedArchive) : SharedAction → Bool
  | .submit (.snapshot observed) => observed.contentHash = libraries.sha256 observed.payload
  | _ => true

theorem bringsHash_of_check (archive : SharedArchive) (action : SharedAction)
    (checked : bringsHash libraries archive action = true) : BringsHash libraries archive action := by
  cases action with
  | submit submission =>
      cases submission with
      | snapshot observed =>
          change observed.contentHash = libraries.sha256 observed.payload
          exact of_decide_eq_true checked
      | names datasource payload => trivial
  | _ => trivial

/-- The snapshot of the first racing writer decompresses to the list without orders. -/
theorem shared_restorable_racing : ∃ archive : SharedArchive,
    ∃ row ∈ archive.committed.timeseries, row.payloadStorage = .marketParquetDelta ∧
      ∃ blob payload, archive.committed.blobs row.contentHash = some blob ∧
        decompressPayload racingLibraries blob.payloadCodec blob.payloadCompressed = some payload ∧
          racingLibraries.sha256 payload = row.contentHash := by
  obtain ⟨archive, ran, labelled⟩ := (Option.any_eq_true ..).mp (show (((sharedMachine racingLibraries
    {}).runIf (bringsHash racingLibraries) sharedEmpty racingSchedule).any fun archive => decide
      (∃ row ∈ archive.committed.timeseries, row.payloadStorage = .marketParquetDelta)) = true by
        decide +kernel)
  obtain ⟨row, member, label⟩ := of_decide_eq_true labelled
  exact ⟨archive, row, member, label, shared_restorable racingLibraries {}
    (pinnedDigest_injective racingDigests_pinnable) (Machine.Guarded.runIf (.start ⟨rfl, rfl, rfl⟩)
      racingSchedule (fun action _ state => bringsHash_of_check state action) ran) member⟩

end EveApiCache
