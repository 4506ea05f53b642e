import EveApiCache.Library.RelyGuarantee
import EveApiCache.Proof.Archive.Shared.Whole

/-!
This file shows that a writer performs only permitted statements while other writers change what it
sees.
-/

namespace EveApiCache
open Effects

variable (libraries : Libraries)

/-- Other transactions let a view and the archive directory grow, and they leave the view whole. -/
structure Interferes (before after : Session) : Prop where
  extended : Extends before.database after.database
  files : FilesKept before.files after.files
  whole : Whole libraries after.files after.database

theorem Interferes.trans {first second third : Session} (one : Interferes libraries first second)
    (two : Interferes libraries second third) : Interferes libraries first third :=
  ⟨one.extended.trans two.extended, fun path present => two.files path (one.files path present),
    two.whole⟩

/-- A program promises to perform only permitted statements and to end well. -/
abbrev Promises {A : Type} (ok : A → Session → Prop) : Transaction A → Session → Prop :=
  Program.Guarantees (execute libraries) (Interferes libraries) (Statement.Permitted libraries) ok

/-- A lasting fact survives what a transaction and its environment do. -/
def Enduring (fact : Session → Prop) : Prop := ∀ before after, fact before →
  Extends before.database after.database → FilesKept before.files after.files → fact after

variable {libraries}

theorem Enduring.and {first second : Session → Prop} (one : Enduring first) (two : Enduring second) :
    Enduring fun state => first state ∧ second state :=
  fun before after holds extended files =>
    ⟨one before after holds.1 extended files, two before after holds.2 extended files⟩

theorem Enduring.all {Index : Type} {fact : Index → Session → Prop} (each : ∀ index, Enduring (fact index)) :
    Enduring fun state => ∀ index, fact index state :=
  fun before after holds extended files index => each index before after (holds index) extended files

theorem Enduring.given {fact : Session → Prop} (condition : Prop) (lasting : Enduring fact) :
    Enduring fun state => condition → fact state :=
  fun before after holds extended files known => lasting before after (holds known) extended files

/-- A promise keeps a lasting fact, and the fact may justify its statements. -/
theorem promises_using {A : Type} {weaker : Statement → Session → Prop} {ok : A → Session → Prop}
    {program : Transaction A} {session : Session} {fact : Session → Prop} (lasting : Enduring fact)
    (justified : ∀ statement state, fact state → weaker statement state →
      statement.Permitted libraries state)
    (promised : program.Guarantees (execute libraries) (Interferes libraries) weaker ok session)
    (start : fact session) :
    Promises libraries (fun value final => ok value final ∧ fact final) program session :=
  Program.Guarantees.using fact
    (fun state later holds moved => lasting state later holds moved.extended moved.files)
    (fun statement state result holds moved => lasting state result.2 holds
      (execute_extends libraries statement state result moved)
      (execute_files libraries statement state result moved))
    justified promised start

theorem promises_keeping {A : Type} {ok : A → Session → Prop} {program : Transaction A}
    {session : Session} {fact : Session → Prop} (lasting : Enduring fact)
    (promised : Promises libraries ok program session) (start : fact session) :
    Promises libraries (fun value final => ok value final ∧ fact final) program session :=
  promises_using lasting (fun _ _ _ permitted => permitted) promised start

theorem promises_orFail {A : Type} {ok : A → Session → Prop} {session : Session} (value : Option A)
    (present : ∀ found, value = some found → ok found session) :
    Promises libraries ok (orFail value) session := by
  cases value with
  | none => trivial
  | some found => exact present found rfl

/-- A promise about every batch holds of all the batches. -/
theorem promises_forBatches {Row : Type} (effect : List Row → Transaction Unit)
    (fact : Session → Prop) (lasting : Enduring fact) (made : Row → Session → Prop)
    (lastingMade : ∀ row, Enduring (made row)) (batches : List (List Row))
    (each : ∀ batch ∈ batches, ∀ state, fact state →
      Promises libraries (fun _ final => ∀ row ∈ batch, made row final) (effect batch) state)
    (session : Session) (start : fact session) :
    Promises libraries (fun _ final => ∀ row ∈ batches.flatten, made row final)
      (forBatches effect batches) session := by
  induction batches generalizing session with
  | nil => exact fun row absent => by cases absent
  | cons batch batches ih =>
      have first := promises_keeping lasting (each batch (by simp) session start) start
      refine (Program.guarantees_bind _ _ _).mpr (first.mono fun _ middle holds => ?_)
      have batchMade : Enduring fun state => ∀ row ∈ batch, made row state :=
        fun before after made extended files row member =>
          lastingMade row before after (made row member) extended files
      have rest := promises_keeping batchMade
        (ih (fun other member => each other (by simp [member])) middle holds.2) holds.1
      refine rest.mono fun _ final made row member => ?_
      rcases List.mem_append.mp (List.flatten_cons ▸ member) with here | later
      · exact made.2 row here
      · exact made.1 row later

/-- A permitted statement promises what holds after it. -/
theorem promises_call {statement : Statement} {ok : statement.Reply → Session → Prop} {session : Session}
    (permitted : ∀ later, Interferes libraries session later → statement.Permitted libraries later)
    (after : ∀ later, Interferes libraries session later → ∀ result,
      execute libraries statement later = some result → ok result.1 result.2) :
    Promises libraries ok (Program.call (I := archiveInterface) statement) session :=
  Program.guarantees_call permitted after

theorem lasting_recorded (snapshotId : Nat) (identity : Identity) (contentHash : PyStr) :
    Enduring fun session => Recorded session.database snapshotId identity contentHash :=
  fun _ _ recorded extended _ => recorded.mono extended.toKept

theorem lasting_version (key : VersionKey) :
    Enduring fun session => (session.database.versions key).isSome = true :=
  fun _ _ present extended _ => extended.version present

/-- A manifest with an id and a content hash is there. -/
def Manifested (contentHash : PyStr) (id : Nat) (session : Session) : Prop :=
  ∃ manifest ∈ session.database.objectFiles, manifest.id = id ∧ manifest.contentHash = contentHash

theorem enduring_manifested (contentHash : PyStr) (id : Nat) : Enduring (Manifested contentHash id) := by
  rintro before after ⟨manifest, member, rest⟩ extended _
  exact ⟨manifest, extended.objectFiles manifest member, rest⟩

/-- An accepted insert of a manifest returns the id of its row. -/
theorem insertObjectFile_reply {session final : Session} {row : ArchiveObjectFile} {reply : Option Nat}
    (moved : execute libraries (.insertObjectFile row) session = some (reply, final)) {id : Nat}
    (replied : reply = some id) : Manifested row.contentHash id final := by
  simp only [execute] at moved
  split_ifs at moved <;> cases moved <;> cases replied
  exact ⟨{ row with id := session.database.objectFileSequence },
    List.mem_append_right _ (List.mem_singleton_self _), rfl, rfl⟩

/-- A written file is there afterwards. -/
theorem writeParquet_promises (path : PyStr) (content : Bytes) (session : Session) :
    Promises libraries (fun _ final => (final.files path).isSome = true)
      (Program.call (I := archiveInterface) (.writeParquet path content)) session := by
  refine promises_call (fun _ _ => trivial) fun later _ result moved => ?_
  cases moved
  change (Function.update later.files path (some content) path).isSome = true
  rw [Function.update_self]
  rfl

/-- A manifest that a lookup finds is there. -/
theorem selectObjectFileId_promises (contentHash : PyStr) (session : Session) :
    Promises libraries (fun reply final => ∀ id, reply = some id → Manifested contentHash id final)
      (selectObjectFileId contentHash) session := by
  refine promises_call (fun _ _ => trivial) fun later _ result looked => ?_
  cases looked
  intro id searched
  obtain ⟨manifest, hit, rfl⟩ := Option.map_eq_some_iff.mp searched
  exact ⟨manifest, List.mem_of_find?_eq_some hit, rfl, by simpa using List.find?_some hit⟩

/-- The row under an idempotency key has the identity and the hash of the key. -/
theorem Whole.find_recorded {files : PyStr → Option Bytes} {database : Database}
    (injective : Function.Injective libraries.sha256) (whole : Whole libraries files database)
    {observed : Observation} {now : Datetime} (fits : observed.identity.fits = true) {id : Nat}
    (found : (database.timeseries.find? fun row => row.idempotencyKey =
      some (timeseriesIdempotencyKey libraries observed.identity observed.contentHash now)).map (·.id) =
        some id) :
    Recorded database id observed.identity observed.contentHash := by
  obtain ⟨row, search, rfl⟩ := Option.map_eq_some_iff.mp found
  have member := List.mem_of_find?_eq_some search
  have keys := (whole.keyed row member).symm.trans (by simpa using List.find?_some search)
  obtain ⟨identity, _, hash⟩ := timeseriesIdempotencyKey_injective libraries injective
    (whole.fits row member) fits (Option.some.inj keys)
  exact ⟨row, member, rfl, identity, hash⟩

/-- The first part of a time-series call records its snapshot and returns the region of its path. -/
theorem recordSnapshot_promises (injective : Function.Injective libraries.sha256) (now : Datetime)
    (observed : Observation) (session : Session) :
    Promises libraries (fun recorded final => (∀ id, recorded.1 = some id →
        Recorded final.database id observed.identity observed.contentHash) ∧
          recorded.2 = pathRegion observed.identity.path)
      (recordSnapshot libraries now observed) session := by
  refine (Program.guarantees_bind _ _ _).mpr (promises_call (fun _ _ => trivial) fun _ _ result _ => ?_)
  have region : Promises libraries (fun region _ => region = pathRegion observed.identity.path)
      (marketOrdersRegionId observed.identity.path) result.2 := by
    unfold marketOrdersRegionId pathRegion
    cases marketOrdersRegion observed.identity.path with
    | none => rfl
    | some digits =>
        refine promises_orFail _ fun region parsed => ?_
        obtain ⟨value, read, rfl⟩ := Option.map_eq_some_iff.mp parsed
        exact read.symm
  refine (Program.guarantees_bind _ _ _).mpr (region.mono fun regionId stored same => ?_)
  refine (Program.guarantees_bind _ _ _).mpr (promises_call (fun _ _ => ⟨rfl, rfl, rfl⟩)
    fun later _ result moved => ?_)
  obtain ⟨reply, inserted⟩ := result
  obtain ⟨fits, ⟨id, rfl, rows⟩ | ⟨rfl, _⟩⟩ := insertTimeseries_reply libraries moved
  · refine ⟨fun other equal => ?_, same⟩
    obtain rfl := Option.some.inj equal
    exact ⟨_, rows ▸ List.mem_append_right _ (List.mem_singleton_self _), rfl, rfl, rfl⟩
  · refine (Program.guarantees_bind _ _ _).mpr (promises_call (fun _ _ => trivial)
      fun last moved result looked => ?_)
    cases looked
    exact ⟨fun id found => moved.whole.find_recorded injective (TimeSeriesSnapshot.fits_identity fits)
      found, same⟩

/-- The delta statements enter orders only under versions that are there. -/
theorem writeMarketOrderDeltas_promises (snapshotId : Nat) (identity : Identity) (contentHash : PyStr)
    (regionId : Int) (orders : List Json) (fetchedAt : Datetime) (session : Session)
    (recorded : Recorded session.database snapshotId identity contentHash) :
    Promises libraries (fun _ _ => True)
      (writeMarketOrderDeltas libraries snapshotId identity.datasource regionId orders fetchedAt)
      session := by
  refine (Program.guarantees_bind _ _ _).mpr (promises_orFail _ fun rows _ => ?_)
  have lasting := lasting_recorded snapshotId identity contentHash
  have versions := promises_keeping lasting (@promises_forBatches libraries _
    upsertVersionBatch (fun _ => True) (fun _ _ _ _ _ => trivial)
    (fun values state => (state.database.versions values.key).isSome = true)
    (fun values => lasting_version values.key)
    (chunks deltaInsertBatchSize (rows.map (versionValues libraries identity.datasource fetchedAt)))
    (fun batch _ state _ => promises_call (fun _ _ => trivial) fun later _ result moved values member =>
      (execute_present libraries _ later result moved).2.1 values.key
        (List.mem_map.mpr ⟨values, member, rfl⟩)) session trivial) recorded
  refine (Program.guarantees_bind _ _ _).mpr (versions.mono fun _ middle present => ?_)
  rw [chunks_flatten _ _ (by decide)] at present
  have known : Enduring fun state => Recorded state.database snapshotId identity contentHash ∧
      ∀ row : {row // row ∈ rows}, (state.database.versions
        ⟨identity.datasource, row.1.1, versionHash libraries row.1.2⟩).isSome = true :=
    lasting.and (.all fun row => lasting_version _)
  refine (promises_forBatches insertEntryBatch _ known (fun _ _ => True) (fun _ _ _ _ _ _ => trivial)
    (chunks deltaInsertBatchSize (rows.map (entryValues libraries snapshotId regionId)))
    (fun batch chosen state holds => promises_call (fun later moved => ?_) fun _ _ _ _ _ _ => trivial)
    middle ⟨present.2, fun row => present.1 (versionValues libraries identity.datasource fetchedAt row.1)
      (List.mem_map_of_mem row.2)⟩).mono fun _ _ _ => trivial
  obtain ⟨⟨row, member, identified, same, _⟩, stored⟩ := known state later holds moved.extended moved.files
  intro values inside
  obtain ⟨order, listed, rfl⟩ := List.mem_map.mp (mem_chunks chosen inside)
  exact ⟨row, member, identified, same ▸ stored ⟨order, listed⟩⟩

/-- Storing the manifest promises its presence. -/
theorem parquetManifest_promises (pyarrow : Pyarrow) (snapshotId : Nat) (regionId : Int)
    (identity : Identity) (contentHash : PyStr) (payload : Bytes) (orders : List Json)
    (fetchedAt : Datetime) (existing : Option Nat) (session : Session)
    (region : pathRegion identity.path = some regionId)
    (found : ∀ id, existing = some id → Manifested contentHash id session) :
    Promises libraries (fun manifestId final => ∀ id, manifestId = some id →
        Manifested contentHash id final)
      (parquetManifest pyarrow snapshotId regionId identity contentHash payload orders fetchedAt
        existing) session := by
  cases existing with
  | some id =>
      intro other equal
      obtain rfl := Option.some.inj equal
      exact found id rfl
  | none =>
      refine (Program.guarantees_bind _ _ _).mpr (promises_orFail _ fun content _ => ?_)
      have written := @writeParquet_promises libraries
        (parquetFilePath identity.datasource regionId contentHash fetchedAt) content session
      refine (Program.guarantees_bind _ _ _).mpr (written.mono fun _ middle stored => ?_)
      refine (Program.guarantees_bind _ _ _).mpr (promises_call
        (fun later moved => ⟨region, rfl, moved.files _ stored⟩) fun later moved result inserted => ?_)
      obtain ⟨reply, final⟩ := result
      cases reply with
      | some id =>
          intro other equal
          obtain rfl := Option.some.inj equal
          exact insertObjectFile_reply inserted rfl
      | none =>
          exact selectObjectFileId_promises contentHash final

variable (settings : Settings)

/-- The Parquet part of a recorded snapshot performs only permitted statements. -/
theorem storeParquet_promises (now : Datetime) (observed : Observation) (snapshotId : Option Nat)
    (session : Session) (recorded : ∀ id, snapshotId = some id →
      Recorded session.database id observed.identity observed.contentHash) :
    Promises libraries (fun _ _ => True)
      (storeParquet libraries settings now observed snapshotId (pathRegion observed.identity.path))
      session := by
  unfold storeParquet
  split
  · rename_i id region pyarrow place _
    split_ifs
    · have lasting := lasting_recorded id observed.identity observed.contentHash
      have parquet : Promises libraries (fun manifestId final => ∀ found, manifestId = some found →
          Manifested observed.contentHash found final)
          (writeMarketOrdersParquet libraries settings pyarrow id region observed.identity
            observed.contentHash observed.payload now) session := by
        refine (Program.guarantees_bind _ _ _).mpr (promises_orFail _ fun parsed _ => ?_)
        refine (Program.guarantees_bind _ _ _).mpr (promises_orFail _ fun orders _ => ?_)
        have looked := promises_keeping lasting
          (@selectObjectFileId_promises libraries observed.contentHash session)
          (recorded id rfl)
        refine (Program.guarantees_bind _ _ _).mpr (looked.mono fun existing middle holds => ?_)
        refine (Program.guarantees_bind _ _ _).mpr ((promises_keeping lasting (parquetManifest_promises
          pyarrow id region observed.identity observed.contentHash observed.payload orders now existing
          middle place holds.1) holds.2).mono fun manifestId last stored => ?_)
        split_ifs
        · have manifested : Enduring fun state => ∀ found, manifestId = some found →
              Manifested observed.contentHash found state :=
            .all fun found => .given _ (enduring_manifested observed.contentHash found)
          exact (Program.guarantees_bind _ _ _).mpr ((promises_keeping manifested
            (writeMarketOrderDeltas_promises id observed.identity observed.contentHash region orders now
              last stored.2) stored.1).mono fun _ final known => known.2)
        · exact stored.1
      refine (Program.guarantees_bind _ _ _).mpr ((promises_keeping lasting parquet
        (recorded id rfl)).mono fun manifestId middle holds => ?_)
      cases manifestId with
      | none => trivial
      | some found =>
          refine promises_call (fun later moved => ?_) fun _ _ _ _ => trivial
          obtain ⟨row, member, identified, _, hashed⟩ :=
            lasting middle later holds.2 moved.extended moved.files
          obtain ⟨manifest, stored, same, hash⟩ := enduring_manifested _ _ middle later
            (holds.1 found rfl) moved.extended moved.files
          exact ⟨row, member, identified, manifest, stored, same, hash.trans hashed.symm⟩
    · trivial
  · trivial

/-- A call of `write_snapshot` performs only permitted statements. -/
theorem writeSnapshot_promises (injective : Function.Injective libraries.sha256) (now : Datetime)
    (observed : Observation) (session : Session) :
    Promises libraries (fun _ _ => True) (writeSnapshot libraries settings now observed) session := by
  have commits (state : Session) : Promises libraries (fun _ _ => True)
      (Program.call (I := archiveInterface) .commit) state :=
    promises_call (fun _ _ => trivial) fun _ _ _ _ => trivial
  unfold writeSnapshot
  cases observed.archiveType with
  | none => trivial
  | timeSeries =>
      refine (Program.guarantees_bind _ _ _).mpr (Program.Guarantees.mono ?_
        fun _ middle (_ : True) => commits middle)
      refine (Program.guarantees_bind _ _ _).mpr ((recordSnapshot_promises injective now observed
        session).mono fun recorded middle holds => ?_)
      rw [holds.2]
      exact storeParquet_promises settings now observed recorded.1 middle holds.1
  | reference | event =>
      refine (Program.guarantees_bind _ _ _).mpr (promises_orFail _ fun payload _ => ?_)
      exact (Program.guarantees_bind _ _ _).mpr (promises_call (fun _ _ => trivial)
        fun _ _ result _ => commits result.2)

/-- Every submission performs only permitted statements. -/
theorem submission_promises (injective : Function.Injective libraries.sha256) (now : Datetime)
    (submission : Submission) (session : Session) :
    Promises libraries (fun _ _ => True) (submission.program libraries settings now) session := by
  cases submission with
  | snapshot observed => exact writeSnapshot_promises settings injective now observed session
  | names datasource payload =>
      refine Program.guarantees_of_only (fun statement state naming => ?_)
        (writeNames_naming libraries now datasource payload) session
      cases statement <;> first | exact naming.elim | trivial

end EveApiCache
