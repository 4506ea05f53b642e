import EveApiCache.Construction.Archive.Read
import EveApiCache.Construction.Archive.Runs
import EveApiCache.Proof.Pinned

/-!
This file shows that the archive only grows and that every row keeps its payload.
-/

namespace EveApiCache
open Effects StepMachine

/-- These two columns of a snapshot may be relabelled. -/
def Relabelled (before after : TimeSeriesSnapshot) : Prop :=
  ∃ storage manifest,
    after = { before with payloadStorage := storage, parquetManifestId := manifest }

/-- The later database keeps what the earlier one preserves forever. -/
structure Kept (before after : Database) : Prop where
  timeseries : ∀ row ∈ before.timeseries, ∃ kept ∈ after.timeseries, Relabelled row kept
  blobs : ∀ hash blob, before.blobs hash = some blob → after.blobs hash = some blob
  events : ∀ identity row, before.events identity = some row → after.events identity = some row
  reference : ∀ identity row, before.reference identity = some row →
    ∃ kept, after.reference identity = some kept ∧ kept.firstSeenAt = row.firstSeenAt

theorem Relabelled.refl (row : TimeSeriesSnapshot) : Relabelled row row :=
  ⟨row.payloadStorage, row.parquetManifestId, rfl⟩

theorem Relabelled.trans {first second third : TimeSeriesSnapshot} (one : Relabelled first second)
    (two : Relabelled second third) : Relabelled first third := by
  obtain ⟨_, _, rfl⟩ := one
  obtain ⟨storage, manifest, rfl⟩ := two
  exact ⟨storage, manifest, rfl⟩

theorem Kept.refl (database : Database) : Kept database database where
  timeseries row member := ⟨row, member, .refl row⟩
  blobs _ _ stored := stored
  events _ _ stored := stored
  reference _ row stored := ⟨row, stored, rfl⟩

theorem Kept.trans {first second third : Database} (one : Kept first second)
    (two : Kept second third) : Kept first third where
  timeseries row member := by
    obtain ⟨middle, inside, before⟩ := one.timeseries row member
    obtain ⟨last, present, after⟩ := two.timeseries middle inside
    exact ⟨last, present, before.trans after⟩
  blobs hash blob stored := two.blobs hash blob (one.blobs hash blob stored)
  events identity row stored := two.events identity row (one.events identity row stored)
  reference identity row stored := by
    obtain ⟨middle, present, before⟩ := one.reference identity row stored
    obtain ⟨last, final, after⟩ := two.reference identity middle present
    exact ⟨last, final, after.trans before⟩

variable (libraries : Libraries)

/-- One statement of any kind keeps what is preserved. -/
theorem execute_kept (statement : Statement) (session : Session)
    (result : statement.Reply × Session)
    (moved : execute libraries statement session = some result) :
    Kept session.database result.2.database := by
  cases statement with
  | insertBlob hash row =>
      cases moved
      refine { Kept.refl session.database with blobs := fun other blob stored => ?_ }
      cases present : session.database.blobs hash with
      | some old => simpa [present] using stored
      | none =>
          have differs : other ≠ hash := by
            rintro rfl
            rw [present] at stored
            cases stored
          simpa [present, differs] using stored
  | insertTimeseries row =>
      simp only [execute] at moved
      split_ifs at moved
      · cases moved
        exact { Kept.refl session.database with }
      · cases moved
        refine { Kept.refl session.database with timeseries := fun old member => ?_ }
        exact ⟨old, List.mem_append_left _ member, .refl old⟩
  | insertObjectFile row =>
      simp only [execute] at moved
      split_ifs at moved <;> cases moved <;> exact { Kept.refl session.database with }
  | upsertVersions rows =>
      simp only [execute] at moved
      split_ifs at moved
      obtain ⟨_, _, rfl⟩ := Option.map_eq_some_iff.mp moved
      exact { Kept.refl session.database with }
  | insertEntries rows =>
      obtain ⟨_, _, rfl⟩ := Option.map_eq_some_iff.mp moved
      exact { Kept.refl session.database with }
  | labelParquet snapshotId manifestId =>
      simp only [execute] at moved
      split_ifs at moved
      cases moved
      refine { Kept.refl session.database with timeseries := fun row member => ?_ }
      refine ⟨_, List.mem_map_of_mem member, ?_⟩
      split_ifs
      · exact ⟨_, _, rfl⟩
      · exact .refl row
  | upsertReference identity row =>
      simp only [execute] at moved
      split_ifs at moved
      obtain ⟨payload, _, rfl⟩ := Option.map_eq_some_iff.mp moved
      refine { Kept.refl session.database with reference := fun other old stored => ?_ }
      by_cases same : other = identity
      · subst same
        simp [stored]
      · exact ⟨old, by simpa [same] using stored, rfl⟩
  | insertEvent identity row =>
      simp only [execute] at moved
      split_ifs at moved
      obtain ⟨payload, _, rfl⟩ := Option.map_eq_some_iff.mp moved
      refine { Kept.refl session.database with events := fun other old stored => ?_ }
      cases present : session.database.events identity with
      | some _ => simpa [present] using stored
      | none =>
          have differs : other ≠ identity := by
            rintro rfl
            rw [present] at stored
            cases stored
          simpa [present, differs] using stored
  | upsertNames rows =>
      simp only [execute] at moved
      split_ifs at moved
      obtain ⟨_, _, rfl⟩ := Option.map_eq_some_iff.mp moved
      exact { Kept.refl session.database with }
  | selectTimeseriesId key =>
      cases moved
      exact .refl _
  | selectObjectFileId hash =>
      cases moved
      exact .refl _
  | writeParquet path content =>
      cases moved
      exact .refl _
  | setNames datasource items =>
      cases moved
      exact .refl _
  | commit =>
      cases moved
      exact .refl _

/-- A stored blob decompresses to a payload with its hash, and every snapshot has a blob. -/
structure Restorable (database : Database) : Prop where
  blobs : ∀ hash blob, database.blobs hash = some blob → ∃ payload,
    decompressPayload libraries blob.payloadCodec blob.payloadCompressed = some payload ∧
      libraries.sha256 payload = hash
  payloads : ∀ row ∈ database.timeseries, (database.blobs row.contentHash).isSome = true

/-- A statement is justified when it brings no blob or snapshot without its payload. -/
def Statement.Justified (database : Database) : Statement → Prop
  | .insertBlob hash row => ∃ payload,
      decompressPayload libraries row.payloadCodec row.payloadCompressed = some payload ∧
        libraries.sha256 payload = hash
  | .insertTimeseries row => (database.blobs row.contentHash).isSome = true
  | _ => True

theorem Restorable.of_same {before after : Database} (restorable : Restorable libraries before)
    (blobs : after.blobs = before.blobs)
    (timeseries : ∀ row ∈ after.timeseries, ∃ old ∈ before.timeseries, Relabelled old row) :
    Restorable libraries after where
  blobs hash blob stored := restorable.blobs hash blob (blobs ▸ stored)
  payloads row member := by
    obtain ⟨old, present, _, _, rfl⟩ := timeseries row member
    rw [blobs]
    exact restorable.payloads old present

theorem execute_restorable (statement : Statement) (session : Session)
    (result : statement.Reply × Session) (restorable : Restorable libraries session.database)
    (justified : statement.Justified libraries session.database)
    (moved : execute libraries statement session = some result) :
    Restorable libraries result.2.database := by
  have same (row : TimeSeriesSnapshot) (member : row ∈ session.database.timeseries) :
      ∃ old ∈ session.database.timeseries, Relabelled old row := ⟨row, member, .refl row⟩
  cases statement with
  | insertBlob hash row =>
      have kept := execute_kept libraries _ session result moved
      cases moved
      refine ⟨fun other blob stored => ?_, fun old member => ?_⟩
      · cases present : session.database.blobs hash with
        | some old => exact restorable.blobs other blob (by simpa [present] using stored)
        | none =>
            by_cases equal : other = hash
            · subst equal
              obtain rfl : row = blob := by simpa [present] using stored
              exact justified
            · exact restorable.blobs other blob (by simpa [present, equal] using stored)
      · obtain ⟨blob, stored⟩ := Option.isSome_iff_exists.mp (restorable.payloads old member)
        exact Option.isSome_iff_exists.mpr ⟨blob, kept.blobs _ _ stored⟩
  | insertTimeseries row =>
      simp only [execute] at moved
      split_ifs at moved
      · cases moved
        exact restorable.of_same libraries rfl same
      · cases moved
        refine ⟨restorable.blobs, fun old member => ?_⟩
        rcases List.mem_append.mp member with member | fresh
        · exact restorable.payloads old member
        · obtain rfl := List.mem_singleton.mp fresh
          exact justified
  | insertObjectFile row =>
      simp only [execute] at moved
      split_ifs at moved <;> cases moved <;> exact restorable.of_same libraries rfl same
  | upsertVersions rows =>
      simp only [execute] at moved
      split_ifs at moved
      obtain ⟨_, _, rfl⟩ := Option.map_eq_some_iff.mp moved
      exact restorable.of_same libraries rfl same
  | insertEntries rows =>
      obtain ⟨_, _, rfl⟩ := Option.map_eq_some_iff.mp moved
      exact restorable.of_same libraries rfl same
  | labelParquet snapshotId manifestId =>
      simp only [execute] at moved
      split_ifs at moved
      cases moved
      refine restorable.of_same libraries rfl fun row member => ?_
      obtain ⟨old, present, rfl⟩ := List.mem_map.mp member
      refine ⟨old, present, ?_⟩
      split_ifs
      · exact ⟨_, _, rfl⟩
      · exact .refl old
  | upsertReference identity row =>
      simp only [execute] at moved
      split_ifs at moved
      obtain ⟨_, _, rfl⟩ := Option.map_eq_some_iff.mp moved
      exact restorable.of_same libraries rfl same
  | insertEvent identity row =>
      simp only [execute] at moved
      split_ifs at moved
      obtain ⟨_, _, rfl⟩ := Option.map_eq_some_iff.mp moved
      exact restorable.of_same libraries rfl same
  | upsertNames rows =>
      simp only [execute] at moved
      split_ifs at moved
      obtain ⟨_, _, rfl⟩ := Option.map_eq_some_iff.mp moved
      exact restorable.of_same libraries rfl same
  | selectTimeseriesId key =>
      cases moved
      exact restorable
  | selectObjectFileId hash =>
      cases moved
      exact restorable
  | writeParquet path content =>
      cases moved
      exact restorable
  | setNames datasource items =>
      cases moved
      exact restorable
  | commit =>
      cases moved
      exact restorable

/-- These statements bring neither a blob nor a snapshot. -/
def Statement.Harmless : Statement → Prop
  | .insertBlob _ _ => False
  | .insertTimeseries _ => False
  | _ => True

/-- These statements leave the snapshots as they are. -/
def Statement.LeavesSnapshots : Statement → Prop
  | .insertTimeseries _ => False
  | .labelParquet _ _ => False
  | _ => True

theorem execute_timeseries (statement : Statement) (session : Session)
    (result : statement.Reply × Session) (leaves : statement.LeavesSnapshots)
    (moved : execute libraries statement session = some result) :
    result.2.database.timeseries = session.database.timeseries := by
  cases statement with
  | insertTimeseries | labelParquet => exact leaves.elim
  | insertObjectFile row =>
      simp only [execute] at moved
      split_ifs at moved <;> cases moved <;> rfl
  | insertEntries rows =>
      obtain ⟨_, _, rfl⟩ := Option.map_eq_some_iff.mp moved
      rfl
  | upsertVersions | upsertReference | insertEvent | upsertNames =>
      simp only [execute] at moved
      split_ifs at moved
      obtain ⟨_, _, rfl⟩ := Option.map_eq_some_iff.mp moved
      rfl
  | insertBlob | selectTimeseriesId | selectObjectFileId | writeParquet | setNames | commit =>
      cases moved
      rfl

/-- Once the blob of a hash is stored, a snapshot of that hash is harmless as well. -/
def Statement.Stores (hash : PyStr) : Statement → Prop
  | .insertBlob _ _ => False
  | .insertTimeseries row => row.contentHash = hash
  | _ => True

theorem Statement.Harmless.stores {statement : Statement} (harmless : statement.Harmless)
    (hash : PyStr) : statement.Stores hash := by
  cases statement <;> first | exact harmless.elim | trivial

theorem Only.weaken {A : Type} {strong weak : Statement → Prop} {program : Transaction A}
    (only : program.Only strong) (implies : ∀ statement, strong statement → weak statement) :
    program.Only weak := by
  induction program with
  | done value => trivial
  | fail => trivial
  | perform op next ih => exact ⟨implies op only.1, fun reply => ih reply (only.2 reply)⟩

theorem orFail_only {A : Type} (kind : Statement → Prop) (value : Option A) :
    (orFail value).Only kind := by
  cases value <;> trivial

theorem forBatches_only {Row : Type} (kind : Statement → Prop)
    (effect : List Row → Transaction Unit) (each : ∀ batch, (effect batch).Only kind)
    (batches : List (List Row)) : (forBatches effect batches).Only kind := by
  induction batches with
  | nil => trivial
  | cons batch batches ih => exact (each batch).bind fun _ => ih

theorem call_only (kind : Statement → Prop) (statement : Statement) (allowed : kind statement) :
    (Program.call (I := archiveInterface) statement).Only kind :=
  ⟨allowed, fun _ => trivial⟩

/-- These statements export a snapshot to the Parquet store and to the delta tables. -/
def Statement.Exports (identity : Identity) (contentHash : PyStr) : Statement → Prop
  | .selectObjectFileId _ => True
  | .writeParquet _ _ => True
  | .insertObjectFile row => row.identity = identity ∧ row.contentHash = contentHash
  | .upsertVersions _ => True
  | .insertEntries _ => True
  | .labelParquet _ _ => True
  | _ => False

theorem Statement.Exports.harmless {identity : Identity} {contentHash : PyStr}
    {statement : Statement} (exported : statement.Exports identity contentHash) :
    statement.Harmless := by
  cases statement <;> first | exact exported.elim | trivial

/-- These statements come before the label of an export. -/
def Statement.Prepares (identity : Identity) (contentHash : PyStr) : Statement → Prop
  | .labelParquet _ _ => False
  | statement => statement.Exports identity contentHash

theorem Statement.Prepares.exports {identity : Identity} {contentHash : PyStr} {statement : Statement}
    (prepared : statement.Prepares identity contentHash) : statement.Exports identity contentHash := by
  cases statement <;> first | exact prepared.elim | exact prepared

theorem writeMarketOrderDeltas_prepares (identity : Identity) (contentHash : PyStr)
    (snapshotId : Nat) (datasource : PyStr) (regionId : Int) (orders : List Json)
    (fetchedAt : Datetime) :
    (writeMarketOrderDeltas libraries snapshotId datasource regionId orders fetchedAt).Only
      (Statement.Prepares identity contentHash) := by
  refine (orFail_only _ _).bind fun rows => ?_
  refine (forBatches_only _ _ (fun batch => call_only _ _ trivial) _).bind fun _ => ?_
  exact forBatches_only _ _ (fun batch => call_only _ _ trivial) _

theorem parquetManifest_prepares (pyarrow : Pyarrow) (snapshotId : Nat) (regionId : Int)
    (identity : Identity) (contentHash : PyStr) (payload : Bytes) (orders : List Json)
    (fetchedAt : Datetime) (existing : Option Nat) :
    (parquetManifest pyarrow snapshotId regionId identity contentHash payload orders fetchedAt
      existing).Only (Statement.Prepares identity contentHash) := by
  cases existing with
  | some id => trivial
  | none =>
      refine (orFail_only _ _).bind fun content => (call_only _ _ trivial).bind fun _ =>
        (call_only _ _ ⟨rfl, rfl⟩).bind fun inserted => ?_
      cases inserted with
      | some id => trivial
      | none => exact call_only _ _ trivial

theorem writeMarketOrdersParquet_prepares (settings : Settings) (pyarrow : Pyarrow)
    (snapshotId : Nat) (regionId : Int) (identity : Identity) (contentHash : PyStr) (payload : Bytes)
    (fetchedAt : Datetime) :
    (writeMarketOrdersParquet libraries settings pyarrow snapshotId regionId identity contentHash
      payload fetchedAt).Only (Statement.Prepares identity contentHash) := by
  refine (orFail_only _ _).bind fun parsed => (orFail_only _ _).bind fun orders =>
    (call_only _ _ trivial).bind fun existing =>
      (parquetManifest_prepares _ _ _ _ _ _ _ _ _).bind fun manifestId => ?_
  split_ifs
  · exact (writeMarketOrderDeltas_prepares libraries _ _ _ _ _ _ _).bind fun _ => trivial
  · trivial

theorem storeParquet_exports (settings : Settings) (now : Datetime) (observed : Observation)
    (snapshotId : Option Nat) (regionId : Option Int) :
    (storeParquet libraries settings now observed snapshotId regionId).Only
      (Statement.Exports observed.identity observed.contentHash) := by
  unfold storeParquet
  split
  · split_ifs
    · refine Program.Only.bind (Only.weaken (writeMarketOrdersParquet_prepares libraries _ _ _ _ _ _ _ _)
        fun _ prepared => prepared.exports) fun manifestId => ?_
      cases manifestId with
      | some id => exact call_only _ _ trivial
      | none => trivial
    · trivial
  · trivial

/-- These statements store names. -/
def Statement.Naming : Statement → Prop
  | .upsertNames _ => True
  | .setNames _ _ => True
  | .commit => True
  | _ => False

theorem writeNames_naming (now : Datetime) (datasource : PyStr) (payload : Bytes) :
    (writeNames libraries now datasource payload).Only Statement.Naming := by
  unfold writeNames
  split
  · trivial
  · rename_i data _
    cases extractNameMappings data with
    | nil => trivial
    | cons first rest =>
        refine Program.Only.bind (forBatches_only Statement.Naming _
          (fun batch => call_only _ _ trivial) _) fun _ => ?_
        refine (call_only _ _ trivial).bind fun _ => ?_
        exact call_only _ _ trivial

theorem writeNames_harmless (now : Datetime) (datasource : PyStr) (payload : Bytes) :
    (writeNames libraries now datasource payload).Only Statement.Harmless :=
  Only.weaken (writeNames_naming libraries now datasource payload) fun statement naming => by
    cases statement <;> first | exact naming.elim | trivial

theorem decompress_payloadBlob (payload : Bytes) (createdAt : Datetime) :
    decompressPayload libraries (payloadBlob libraries payload createdAt).payloadCodec
      (payloadBlob libraries payload createdAt).payloadCompressed = some payload := by
  unfold payloadBlob compressPayload decompressPayload
  cases present : libraries.zstandard with
  | some zstandard => exact zstandard.inverse 6 payload
  | none => exact libraries.zlib.inverse 9 payload

/-- A transaction that begins with the blob of its payload keeps every snapshot restorable. -/
theorem writeTimeSeries_restorable (settings : Settings) (now : Datetime) (observed : Observation)
    (session : Session) (hashed : observed.contentHash = libraries.sha256 observed.payload)
    (restorable : Restorable libraries session.database) :
    (writeTimeSeries libraries settings now observed).Ensures (execute libraries)
      (fun _ final => Restorable libraries final.database)
      (fun final => Restorable libraries final.database) session := by
  refine ⟨restorable, fun result moved => ?_⟩
  have stored := execute_restorable libraries
    (.insertBlob observed.contentHash (payloadBlob libraries observed.payload now)) session result
    restorable ⟨observed.payload, decompress_payloadBlob libraries _ _, hashed.symm⟩ moved
  have present : (result.2.database.blobs observed.contentHash).isSome = true := by
    cases moved
    cases old : session.database.blobs observed.contentHash <;> simp [old]
  have only : ((marketOrdersRegionId observed.identity.path >>= fun regionId =>
      insertTimeseries (snapshotRow libraries now observed) >>= fun inserted =>
        insertedSnapshot (timeseriesIdempotencyKey libraries observed.identity observed.contentHash
          now) inserted >>= fun snapshotId => pure (snapshotId, regionId)) >>= fun recorded =>
          storeParquet libraries settings now observed recorded.1 recorded.2).Only
      (Statement.Stores observed.contentHash) := by
    have region : (marketOrdersRegionId observed.identity.path).Only
        (Statement.Stores observed.contentHash) := by
      unfold marketOrdersRegionId
      split
      · trivial
      · exact orFail_only _ _
    have insert : (insertTimeseries (snapshotRow libraries now observed)).Only
        (Statement.Stores observed.contentHash) := ⟨rfl, fun _ => trivial⟩
    have lookup (inserted : Option Nat) : (insertedSnapshot (timeseriesIdempotencyKey libraries observed.identity
        observed.contentHash now) inserted).Only (Statement.Stores observed.contentHash) := by
      cases inserted with
      | some id => trivial
      | none => exact call_only _ _ trivial
    refine Program.Only.bind (region.bind fun regionId => insert.bind fun inserted =>
      (lookup inserted).bind fun snapshotId => ?_) fun recorded => ?_
    · exact trivial
    · exact Only.weaken (storeParquet_exports libraries _ _ _ _ _)
        fun statement exported => exported.harmless.stores _
  have ensured := Program.ensures_of_only (execute libraries)
    (fun state => Restorable libraries state.database ∧
      (state.database.blobs observed.contentHash).isSome = true)
    (fun statement state result stores holds moved => by
      refine ⟨execute_restorable libraries statement state result holds.1 ?_ moved, ?_⟩
      · cases statement with
        | insertBlob => exact stores.elim
        | insertTimeseries row =>
            change (state.database.blobs row.contentHash).isSome = true
            rw [show row.contentHash = observed.contentHash from stores]
            exact holds.2
        | _ => trivial
      · obtain ⟨blob, found⟩ := Option.isSome_iff_exists.mp holds.2
        exact Option.isSome_iff_exists.mpr
          ⟨blob, (execute_kept libraries statement state result moved).blobs _ _ found⟩)
    only ⟨stored, present⟩
  exact Program.Ensures.mono ensured (fun _ _ holds => holds.1) fun _ holds => holds.1

theorem harmless_restorable {A : Type} {program : Transaction A} {session : Session}
    (only : program.Only Statement.Harmless) (restorable : Restorable libraries session.database) :
    program.Ensures (execute libraries) (fun _ final => Restorable libraries final.database)
      (fun final => Restorable libraries final.database) session := by
  refine Program.ensures_of_only (execute libraries)
    (fun state => Restorable libraries state.database) ?_ only restorable
  intro statement state result harmless holds moved
  refine execute_restorable libraries statement state result holds ?_ moved
  cases statement <;> first | exact harmless.elim | trivial

theorem ensures_kept {A : Type} (program : Transaction A) (session : Session) (start : Database)
    (kept : Kept start session.database) :
    program.Ensures (execute libraries) (fun _ final => Kept start final.database)
      (fun final => Kept start final.database) session := by
  induction program generalizing session with
  | done value => exact kept
  | fail => exact kept
  | perform statement next ih =>
      exact ⟨kept, fun result moved => ih result.1 result.2
        (kept.trans (execute_kept libraries statement session result moved))⟩

theorem writeSnapshot_restorable (settings : Settings) (now : Datetime) (observed : Observation)
    (session : Session) (hashed : observed.contentHash = libraries.sha256 observed.payload)
    (restorable : Restorable libraries session.database) :
    (writeSnapshot libraries settings now observed).Ensures (execute libraries)
      (fun _ final => Restorable libraries final.database)
      (fun final => Restorable libraries final.database) session := by
  unfold writeSnapshot
  cases observed.archiveType with
  | none => exact restorable
  | timeSeries =>
      refine (Program.ensures_bind _ _ _).mpr (Program.Ensures.mono
        (writeTimeSeries_restorable libraries settings now observed session hashed restorable)
        (fun _ final holds => ⟨holds, fun result moved => ?_⟩) fun _ holds => holds)
      exact execute_restorable libraries .commit final result holds trivial moved
  | reference =>
      refine harmless_restorable libraries ?_ restorable
      exact (orFail_only _ _).bind fun _ => (call_only _ _ trivial).bind fun _ => call_only _ _ trivial
  | event =>
      refine harmless_restorable libraries ?_ restorable
      exact (orFail_only _ _).bind fun _ => (call_only _ _ trivial).bind fun _ => call_only _ _ trivial

/-- Only a commit changes the committed tables. -/
theorem execute_committed (statement : Statement) (session : Session)
    (result : statement.Reply × Session)
    (moved : execute libraries statement session = some result) :
    result.2.committed = session.committed ∨
      statement = .commit ∧ result.2.committed = session.database := by
  cases statement with
  | insertTimeseries row =>
      simp only [execute] at moved
      split_ifs at moved <;> cases moved <;> exact .inl rfl
  | insertObjectFile row =>
      simp only [execute] at moved
      split_ifs at moved <;> cases moved <;> exact .inl rfl
  | upsertVersions rows =>
      simp only [execute] at moved
      split_ifs at moved
      obtain ⟨_, _, rfl⟩ := Option.map_eq_some_iff.mp moved
      exact .inl rfl
  | insertEntries rows =>
      obtain ⟨_, _, rfl⟩ := Option.map_eq_some_iff.mp moved
      exact .inl rfl
  | labelParquet snapshotId manifestId =>
      simp only [execute] at moved
      split_ifs at moved
      cases moved
      exact .inl rfl
  | upsertReference identity row =>
      simp only [execute] at moved
      split_ifs at moved
      obtain ⟨_, _, rfl⟩ := Option.map_eq_some_iff.mp moved
      exact .inl rfl
  | insertEvent identity row =>
      simp only [execute] at moved
      split_ifs at moved
      obtain ⟨_, _, rfl⟩ := Option.map_eq_some_iff.mp moved
      exact .inl rfl
  | upsertNames rows =>
      simp only [execute] at moved
      split_ifs at moved
      obtain ⟨_, _, rfl⟩ := Option.map_eq_some_iff.mp moved
      exact .inl rfl
  | insertBlob hash row =>
      cases moved
      exact .inl rfl
  | selectTimeseriesId key =>
      cases moved
      exact .inl rfl
  | selectObjectFileId hash =>
      cases moved
      exact .inl rfl
  | writeParquet path content =>
      cases moved
      exact .inl rfl
  | setNames datasource items =>
      cases moved
      exact .inl rfl
  | commit =>
      cases moved
      exact .inr ⟨rfl, rfl⟩

/-- What holds of the tables wherever a program stops also holds of what it has committed. -/
theorem ensures_committed {A : Type} {holds : Database → Prop} {program : Transaction A}
    {session : Session} (start : holds session.committed)
    (working : program.Ensures (execute libraries) (fun _ final => holds final.database)
      (fun final => holds final.database) session) :
    program.Ensures (execute libraries) (fun _ final => holds final.committed)
      (fun final => holds final.committed) session := by
  induction program generalizing session with
  | done value => exact start
  | fail => exact start
  | perform statement next ih =>
      refine ⟨start, fun result moved => ih result.1 ?_ (working.2 result moved)⟩
      rcases execute_committed libraries statement session result moved with same | ⟨_, same⟩
      · exact same ▸ start
      · exact same ▸ working.1

/-- A call leaves an idle session in which the tables are the committed ones. -/
theorem transact_holds {A : Type} {holds : Database → Prop} (fault : Option Nat)
    (program : Transaction A) (session : Session) (start : holds session.committed)
    (working : program.Ensures (execute libraries) (fun _ final => holds final.database)
      (fun final => holds final.database) session) :
    ∃ final : Session, (transact libraries fault program session).2 = final.rollback ∧
      holds final.committed := by
  have ended := Program.run_of_ensures fault program session
    (ensures_committed libraries start working)
  unfold transact
  split at ended
  · rename_i final same
    rw [same]
    exact ⟨final, rfl, ended⟩
  · rename_i final same
    rw [same]
    exact ⟨final, rfl, ended⟩

theorem transact_idle {A : Type} (fault : Option Nat) (program : Transaction A) (session : Session) :
    (transact libraries fault program session).2.Idle := by
  unfold transact
  split <;> rfl

theorem rollback_kept {start : Database} {final : Session} (kept : Kept start final.committed) :
    Kept start final.rollback.committed := { kept with }

theorem rollback_restorable {final : Session} (restorable : Restorable libraries final.committed) :
    Restorable libraries final.rollback.committed := { restorable with }

/-- A transaction keeps the archive whether it commits or not. -/
theorem transact_kept {A : Type} (fault : Option Nat) (program : Transaction A) (session : Session)
    (idle : session.Idle) :
    Kept session.committed (transact libraries fault program session).2.committed := by
  obtain ⟨final, same, kept⟩ := transact_holds libraries fault program session (.refl _)
    (ensures_kept libraries program session session.committed (idle ▸ .refl _))
  rw [same]
  exact rollback_kept kept

variable (settings : Settings)

theorem call_kept (call : ArchiveCall) (session : Session) (idle : session.Idle) :
    Kept session.committed (call.transact libraries settings session).2.committed := by
  cases call <;> exact transact_kept libraries _ _ session idle

theorem call_restorable (call : ArchiveCall) (session : Session) (idle : session.Idle)
    (restorable : Restorable libraries session.committed) :
    Restorable libraries (call.transact libraries settings session).2.committed := by
  have working : Restorable libraries session.database := idle ▸ restorable
  have transacted {A : Type} (fault : Option Nat) (program : Transaction A)
      (ensured : program.Ensures (execute libraries)
        (fun _ final => Restorable libraries final.database)
        (fun final => Restorable libraries final.database) session) :
      Restorable libraries (transact libraries fault program session).2.committed := by
    obtain ⟨final, same, kept⟩ := transact_holds libraries fault program session restorable ensured
    rw [same]
    exact rollback_restorable libraries kept
  cases call with
  | snapshot now observed fault =>
      exact transacted fault _ (writeSnapshot_restorable libraries settings now _ session rfl working)
  | names now datasource payload fault =>
      exact transacted fault _
        (harmless_restorable libraries (writeNames_harmless libraries now datasource payload) working)

theorem call_idle (call : ArchiveCall) (session : Session) :
    (call.transact libraries settings session).2.Idle := by
  cases call <;> exact transact_idle libraries _ _ session

/-- Between two calls the session is idle and the committed tables are restorable. -/
theorem reachable_restorable {session : Session}
    (reached : (archiveMachine libraries settings).Reachable session) :
    session.Idle ∧ Restorable libraries session.committed := by
  refine Machine.Guarded.invariant
    (fun session => session.Idle ∧ Restorable libraries session.committed) ?_ ?_ reached
  · rintro session ⟨empty, idle⟩
    refine ⟨idle, ?_⟩
    rw [empty]
    exact ⟨nofun, nofun⟩
  · rintro session call next ⟨idle, restorable⟩ _ moved
    cases moved
    exact ⟨call_idle libraries settings call session,
      call_restorable libraries settings call session idle restorable⟩

/-- Along every run the committed tables keep their rows, and each snapshot decompresses to a
payload with its content hash. -/
theorem archive_appendOnly {before after : Session}
    (reached : (archiveMachine libraries settings).Reachable before)
    (leads : (archiveMachine libraries settings).Leads before after) :
    Kept before.committed after.committed ∧
      ∀ row ∈ after.committed.timeseries, ∃ blob payload,
        after.committed.blobs row.contentHash = some blob ∧
          decompressPayload libraries blob.payloadCodec blob.payloadCompressed = some payload ∧
          libraries.sha256 payload = row.contentHash := by
  have preserved (state : Session) (call : ArchiveCall) (next : Session)
      (holds : state.Idle ∧ Restorable libraries state.committed)
      (moved : (archiveMachine libraries settings).step state call = some next) :
      (next.Idle ∧ Restorable libraries next.committed) ∧ Kept state.committed next.committed := by
    cases moved
    exact ⟨⟨call_idle libraries settings call state,
      call_restorable libraries settings call state holds.1 holds.2⟩,
      call_kept libraries settings call state holds.1⟩
  obtain ⟨⟨_, restorable⟩, kept⟩ := Machine.Leads.keeps
    (fun state => state.Idle ∧ Restorable libraries state.committed)
    (fun first last => Kept first.committed last.committed) (fun state => .refl state.committed)
    (fun _ _ _ => Kept.trans) preserved (reachable_restorable libraries settings reached) leads
  refine ⟨kept, fun row member => ?_⟩
  obtain ⟨blob, stored⟩ := Option.isSome_iff_exists.mp (restorable.payloads row member)
  obtain ⟨payload, restored, hashed⟩ := restorable.blobs _ _ stored
  exact ⟨blob, payload, stored, restored, hashed⟩

/-- This snapshot observes that there are no incursions. -/
def incursions : Observation where
  identity := ⟨text "tranquility", text "/v1/incursions/", text "44136fa355b3678a"⟩
  contentHash := text "4f53cda18c2baa0c0354bb5f9a3ecbe5ed12ab4d8e11ba873c2f11161202b945"
  payload := bytes "[]"
  httpStatus := 200
  etag := none
  expiresAt := none
  archiveType := .timeSeries

/-- These digests are the real ones on two payloads and on idempotency texts of their snapshots. -/
def incursionDigests : List (Bytes × PyStr) :=
  [(bytes "[]", text "4f53cda18c2baa0c0354bb5f9a3ecbe5ed12ab4d8e11ba873c2f11161202b945"),
    (bytes "[1]", text "080a9ed428559ef602668b4c00f114f1a11c3f6b02a435f0bdc154578e4d7f22"),
    (bytes "tranquility\u0000/v1/incursions/\u000044136fa355b3678a\u00002024-01-01T00:00:00+00:00" ++
        bytes "\u00004f53cda18c2baa0c0354bb5f9a3ecbe5ed12ab4d8e11ba873c2f11161202b945",
      text "6e7ae86608b709e03c3d2eb373ae18ced62870a7a7c7372938d700ae639ddf81"),
    (bytes "tranquility\u0000/v1/incursions/\u000044136fa355b3678a\u00002024-01-01T00:00:00+00:00" ++
        bytes "\u0000080a9ed428559ef602668b4c00f114f1a11c3f6b02a435f0bdc154578e4d7f22",
      text "17827ee476dbe46d3c1cbda0be73a45b1dc7ae8d79e2dc5c700a7b54ce96adbd"),
    (bytes "tranquility\u0000/v1/incursions/\u000044136fa355b3678a\u00002024-01-01T00:05:00+00:00" ++
        bytes "\u0000080a9ed428559ef602668b4c00f114f1a11c3f6b02a435f0bdc154578e4d7f22",
      text "012cb5d2ed5af30015209514de13e0283546b782cb91c553c22b5cd3f0ddd208"),
    (bytes "tranquility\u0000/v1/incursions/\u000044136fa355b3678a\u00002024-01-01T00:10:00+00:00" ++
        bytes "\u00004f53cda18c2baa0c0354bb5f9a3ecbe5ed12ab4d8e11ba873c2f11161202b945",
      text "e4a438cd9c572c10f11c5997f1b3a806a2c4ea6364aade9247196042a4f01a07")]

theorem incursionDigests_pinnable : Pinnable incursionDigests :=
  pinnable_of_digests (by decide +kernel) (by decide +kernel)

/-- These bytes are the real ones that `zlib` gives for the payloads. -/
def incursionBodies : List ((Nat × Bytes) × Bytes) :=
  [((6, bytes "[]"), [120, 156, 139, 142, 5, 0, 1, 21, 0, 185]),
    ((9, bytes "[]"), [120, 218, 139, 142, 5, 0, 1, 21, 0, 185]),
    ((9, bytes "[1]"), [120, 218, 139, 54, 140, 5, 0, 1, 211, 0, 234])]

theorem incursionBodies_consistent : Consistent incursionBodies := by
  unfold Consistent
  decide

def incursionLibraries : Libraries where
  floatRepr := id
  floatInt _ := none
  sha256 := pinnedDigest incursionDigests
  queryDigest := pinnedDigest incursionDigests
  zstandard := none
  zlib := pinnedCompressor incursionBodies incursionBodies_consistent
  pyarrow := none
  jsonb _ := none

/-- This call observes incursions at a minute of the first hour of the year. -/
def incursionsCall (minute : Fin 60) (payload : Bytes) (fault : Option Nat) : ArchiveCall :=
  .snapshot ⟨2024, 1, 1, 0, minute, 0, 0⟩ { incursions with payload := payload } fault

def emptySession : Session := ⟨.empty, .empty, fun _ => none, .empty 0⟩

/-- One snapshot is committed, a second one follows, and a third call fails at its last statement. -/
theorem archive_appendOnly_incursions :
    ∃ before after : Session,
      before.committed.timeseries.map (·.idempotencyKey) =
        [some (text "6e7ae86608b709e03c3d2eb373ae18ced62870a7a7c7372938d700ae639ddf81")] ∧
      after.committed.timeseries.map (·.idempotencyKey) =
        [some (text "6e7ae86608b709e03c3d2eb373ae18ced62870a7a7c7372938d700ae639ddf81"),
          some (text "012cb5d2ed5af30015209514de13e0283546b782cb91c553c22b5cd3f0ddd208")] ∧
      Kept before.committed after.committed ∧
      ∀ row ∈ after.committed.timeseries, ∃ blob payload,
        after.committed.blobs row.contentHash = some blob ∧
          decompressPayload incursionLibraries blob.payloadCodec blob.payloadCompressed = some payload ∧
          incursionLibraries.sha256 payload = row.contentHash := by
  let machine := archiveMachine incursionLibraries {}
  let first := (incursionsCall 0 (bytes "[]") none).transact incursionLibraries {} emptySession
  let second := (incursionsCall 5 (bytes "[1]") none).transact incursionLibraries {} first.2
  let third := (incursionsCall 10 (bytes "[]") (some 2)).transact incursionLibraries {} second.2
  have start : machine.Reachable emptySession := .start ⟨rfl, rfl⟩
  have committed : machine.Reachable first.2 :=
    start.step trivial (show machine.step emptySession (incursionsCall 0 (bytes "[]") none) = _ from rfl)
  have follows : machine.Leads first.2 third.2 :=
    (Relation.ReflTransGen.single ⟨incursionsCall 5 (bytes "[1]") none, rfl⟩).tail
      ⟨incursionsCall 10 (bytes "[]") (some 2), rfl⟩
  exact ⟨first.2, third.2, by decide +kernel, by decide +kernel,
    archive_appendOnly incursionLibraries {} committed follows⟩

end EveApiCache
