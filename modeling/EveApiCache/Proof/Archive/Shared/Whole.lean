import EveApiCache.Proof.Archive.Discovery
import EveApiCache.Proof.Archive.Shared.Views

/-!
This file states what holds of the tables of every view and shows that a permitted statement keeps it.
-/

namespace EveApiCache
open Effects

/-- The file of a manifest stands in the partition of the manifest. -/
structure InPartition (files : PyStr → Option Bytes) (manifest : ArchiveObjectFile) : Prop where
  region : pathRegion manifest.identity.path = some manifest.regionId
  path : manifest.filePath = parquetFilePath manifest.identity.datasource manifest.regionId
    manifest.contentHash manifest.fetchedAt
  stored : (files manifest.filePath).isSome = true

/-- A labelled snapshot resolves to a manifest with its content hash. -/
def Resolved (database : Database) (row : TimeSeriesSnapshot) : Prop :=
  ∃ manifest ∈ database.objectFiles, row.parquetManifestId = some manifest.id ∧
    manifest.contentHash = row.contentHash

/-- An entry leads from its snapshot to a stored version. -/
def Linked (database : Database) (snapshotId : Nat) (orderId : Int) (hash : PyStr) : Prop :=
  ∃ row ∈ database.timeseries, row.id = snapshotId ∧
    (database.versions ⟨row.identity.datasource, orderId, hash⟩).isSome = true

variable (libraries : Libraries)

/-- The tables are whole when their rows refer to each other as the code intends. -/
structure Whole (files : PyStr → Option Bytes) (database : Database) : Prop where
  fits : ∀ row ∈ database.timeseries, row.identity.fits = true
  keyed : ∀ row ∈ database.timeseries, row.idempotencyKey =
    some (timeseriesIdempotencyKey libraries row.identity row.contentHash row.fetchedAt)
  labelled : ∀ row ∈ database.timeseries, row.payloadStorage = .marketParquetDelta →
    Resolved database row
  unlabelled : ∀ row ∈ database.timeseries, row.payloadStorage ≠ .marketParquetDelta →
    row.parquetManifestId = none
  snapshotIds : (database.timeseries.map (·.id)).Nodup
  snapshotKeys : ∀ row ∈ database.timeseries, ∀ other ∈ database.timeseries,
    row.idempotencyKey = other.idempotencyKey → row.id = other.id
  manifestIds : (database.objectFiles.map (·.id)).Nodup
  manifests : ∀ row ∈ database.objectFiles, ∀ other ∈ database.objectFiles,
    row.contentHash = other.contentHash → row.id = other.id
  filed : ∀ manifest ∈ database.objectFiles, InPartition files manifest
  entries : ∀ snapshotId orderId entry, database.entries (snapshotId, orderId) = some entry →
    Linked database snapshotId orderId entry.versionHash

theorem whole_empty (files : PyStr → Option Bytes) : Whole libraries files .empty :=
  ⟨nofun, nofun, nofun, nofun, .nil, nofun, .nil, nofun, nofun, nofun⟩

/-- The ids in the tables lie below the sequences. -/
structure IdsBelow (database : Database) (snapshotSequence objectFileSequence : Nat) : Prop where
  snapshots : ∀ row ∈ database.timeseries, row.id < snapshotSequence
  manifests : ∀ row ∈ database.objectFiles, row.id < objectFileSequence

variable {libraries}

/-- A file that is there stays there. -/
def FilesKept (before after : PyStr → Option Bytes) : Prop :=
  ∀ path, (before path).isSome = true → (after path).isSome = true

theorem InPartition.mono {before after : PyStr → Option Bytes} {manifest : ArchiveObjectFile}
    (filed : InPartition before manifest) (kept : FilesKept before after) : InPartition after manifest :=
  { filed with stored := kept _ filed.stored }

theorem Resolved.mono {before after : Database} {row : TimeSeriesSnapshot}
    (resolved : Resolved before row) (extended : Extends before after) : Resolved after row := by
  obtain ⟨manifest, member, rest⟩ := resolved
  exact ⟨manifest, extended.objectFiles manifest member, rest⟩

theorem Extends.version {before after : Database} (extended : Extends before after) {key : VersionKey}
    (present : (before.versions key).isSome = true) : (after.versions key).isSome = true := by
  obtain ⟨old, stored⟩ := Option.isSome_iff_exists.mp present
  obtain ⟨last, found, _⟩ := extended.versions key old stored
  exact Option.isSome_iff_exists.mpr ⟨last, found⟩

theorem Linked.mono {before after : Database} {snapshotId : Nat} {orderId : Int} {hash : PyStr}
    (linked : Linked before snapshotId orderId hash) (extended : Extends before after) :
    Linked after snapshotId orderId hash := by
  obtain ⟨row, member, identified, version⟩ := linked
  obtain ⟨_, kept, _, _, rfl⟩ := extended.timeseries row member
  exact ⟨_, kept, identified, extended.version version⟩

theorem Whole.files {before after : PyStr → Option Bytes} {database : Database}
    (whole : Whole libraries before database) (kept : FilesKept before after) :
    Whole libraries after database :=
  { whole with filed := fun manifest member => (whole.filed manifest member).mono kept }

/-- Whole tables stay whole when neither the snapshots nor the manifests nor the entries change. -/
theorem Whole.of_extends {files : PyStr → Option Bytes} {before after : Database}
    (whole : Whole libraries files before) (extended : Extends before after)
    (timeseries : after.timeseries = before.timeseries)
    (objectFiles : after.objectFiles = before.objectFiles)
    (entries : after.entries = before.entries) : Whole libraries files after where
  fits := timeseries ▸ whole.fits
  keyed := timeseries ▸ whole.keyed
  labelled row member label := (whole.labelled row (timeseries ▸ member) label).mono extended
  unlabelled := timeseries ▸ whole.unlabelled
  snapshotIds := timeseries ▸ whole.snapshotIds
  snapshotKeys := timeseries ▸ whole.snapshotKeys
  manifestIds := objectFiles ▸ whole.manifestIds
  manifests := objectFiles ▸ whole.manifests
  filed := objectFiles ▸ whole.filed
  entries snapshotId orderId entry stored :=
    (whole.entries snapshotId orderId entry (entries ▸ stored)).mono extended

variable (libraries)

/-- The archive code performs a statement only when its rows refer to what is there. -/
def Statement.Permitted (statement : Statement) (session : Session) : Prop :=
  match statement with
  | .insertTimeseries row => row.idempotencyKey =
      some (timeseriesIdempotencyKey libraries row.identity row.contentHash row.fetchedAt) ∧
        row.payloadStorage = .compressedJson ∧ row.parquetManifestId = none
  | .insertObjectFile row => InPartition session.files row
  | .insertEntries rows => ∀ values ∈ rows,
      Linked session.database values.snapshotId values.orderId values.versionHash
  | .labelParquet snapshotId manifestId => ∃ row ∈ session.database.timeseries, row.id = snapshotId ∧
      ∃ manifest ∈ session.database.objectFiles, manifest.id = manifestId ∧
        manifest.contentHash = row.contentHash
  | _ => True

/-- A file stays when a statement is executed. -/
theorem execute_files (statement : Statement) (session : Session)
    (result : statement.Reply × Session)
    (moved : execute libraries statement session = some result) :
    FilesKept session.files result.2.files := by
  intro path present
  cases statement with
  | writeParquet filePath content =>
      cases moved
      change (Function.update session.files filePath (some content) path).isSome = true
      by_cases same : path = filePath
      · subst same
        rw [Function.update_self]
        rfl
      · rw [Function.update_of_ne same]
        exact present
  | insertTimeseries | insertObjectFile =>
      simp only [execute] at moved
      split_ifs at moved <;> cases moved <;> exact present
  | labelParquet =>
      simp only [execute] at moved
      split_ifs at moved
      cases moved
      exact present
  | upsertVersions | upsertReference | insertEvent | upsertNames =>
      simp only [execute] at moved
      split_ifs at moved
      obtain ⟨_, _, rfl⟩ := Option.map_eq_some_iff.mp moved
      exact present
  | insertEntries =>
      obtain ⟨_, _, rfl⟩ := Option.map_eq_some_iff.mp moved
      exact present
  | insertBlob | selectTimeseriesId | selectObjectFileId | setNames | commit =>
      cases moved
      exact present

/-- A new snapshot with a fresh key and the next id keeps the tables whole. -/
theorem Whole.insertTimeseries {files : PyStr → Option Bytes} {database : Database}
    (whole : Whole libraries files database) (row : TimeSeriesSnapshot) (sequence : Nat)
    (fits : row.identity.fits = true)
    (keyed : row.idempotencyKey =
      some (timeseriesIdempotencyKey libraries row.identity row.contentHash row.fetchedAt))
    (storage : row.payloadStorage = .compressedJson) (manifest : row.parquetManifestId = none)
    (free : ∀ old ∈ database.timeseries, old.idempotencyKey ≠ row.idempotencyKey)
    (fresh : ∀ old ∈ database.timeseries, old.id < row.id) :
    Whole libraries files { database with
      timeseries := database.timeseries ++ [row]
      snapshotSequence := sequence } := by
  have extended : Extends database { database with
      timeseries := database.timeseries ++ [row]
      snapshotSequence := sequence } :=
    { Extends.refl database with timeseries := fun old member =>
        ⟨old, List.mem_append_left _ member, .refl old⟩ }
  have cases {P : TimeSeriesSnapshot → Prop} (old : ∀ other ∈ database.timeseries, P other) (new : P row) :
      ∀ other ∈ database.timeseries ++ [row], P other := fun other member =>
    (List.mem_append.mp member).elim (old other) fun last => List.mem_singleton.mp last ▸ new
  refine { whole with
    fits := cases whole.fits fits
    keyed := cases whole.keyed keyed
    labelled := cases (fun other member label => (whole.labelled other member label).mono extended)
      fun label => by rw [storage] at label; cases label
    unlabelled := cases whole.unlabelled fun _ => manifest
    snapshotIds := ?_
    snapshotKeys := cases (fun first inside => cases (whole.snapshotKeys first inside) fun same =>
      absurd same (free first inside)) (cases (fun second inside same => absurd same.symm
        (free second inside)) fun _ => rfl)
    entries := fun snapshotId orderId entry stored =>
      (whole.entries snapshotId orderId entry stored).mono extended }
  rw [List.map_append, List.map_singleton]
  refine List.nodup_append'.mpr ⟨whole.snapshotIds, List.nodup_singleton _, ?_⟩
  rw [List.disjoint_singleton]
  intro member
  obtain ⟨old, present, clash⟩ := List.mem_map.mp member
  exact Nat.ne_of_lt (fresh old present) clash

/-- A new manifest with a fresh hash and the next id keeps the tables whole. -/
theorem Whole.insertObjectFile {files : PyStr → Option Bytes} {database : Database}
    (whole : Whole libraries files database) (row : ArchiveObjectFile) (sequence : Nat)
    (filed : InPartition files row)
    (free : ∀ old ∈ database.objectFiles, old.contentHash ≠ row.contentHash)
    (fresh : ∀ old ∈ database.objectFiles, old.id < row.id) :
    Whole libraries files { database with
      objectFiles := database.objectFiles ++ [row]
      objectFileSequence := sequence } := by
  have extended : Extends database { database with
      objectFiles := database.objectFiles ++ [row]
      objectFileSequence := sequence } :=
    { Extends.refl database with objectFiles := fun old member => List.mem_append_left _ member }
  have cases {P : ArchiveObjectFile → Prop} (old : ∀ other ∈ database.objectFiles, P other) (new : P row) :
      ∀ other ∈ database.objectFiles ++ [row], P other := fun other member =>
    (List.mem_append.mp member).elim (old other) fun last => List.mem_singleton.mp last ▸ new
  refine { whole with
    labelled := fun other member label => (whole.labelled other member label).mono extended
    manifestIds := ?_
    manifests := cases (fun first inside => cases (whole.manifests first inside) fun same =>
      absurd same (free first inside)) (cases (fun second inside same => absurd same.symm
        (free second inside)) fun _ => rfl)
    filed := cases whole.filed filed
    entries := fun snapshotId orderId entry stored =>
      (whole.entries snapshotId orderId entry stored).mono extended }
  rw [List.map_append, List.map_singleton]
  refine List.nodup_append'.mpr ⟨whole.manifestIds, List.nodup_singleton _, ?_⟩
  rw [List.disjoint_singleton]
  intro member
  obtain ⟨old, present, clash⟩ := List.mem_map.mp member
  exact Nat.ne_of_lt (fresh old present) clash

/-- A label that leads to the manifest of its snapshot keeps the tables whole. -/
theorem Whole.labelParquet {files : PyStr → Option Bytes} {database : Database}
    (whole : Whole libraries files database) {chosen : TimeSeriesSnapshot}
    (inside : chosen ∈ database.timeseries) {manifest : ArchiveObjectFile}
    (stored : manifest ∈ database.objectFiles) (same : manifest.contentHash = chosen.contentHash) :
    Whole libraries files { database with
      timeseries := database.timeseries.map fun row =>
        if row.id = chosen.id then
          { row with
            parquetManifestId := some manifest.id
            payloadStorage := .marketParquetDelta }
        else row } := by
  have relabelled (row : TimeSeriesSnapshot) : Relabelled row (if row.id = chosen.id then
      { row with
        parquetManifestId := some manifest.id
        payloadStorage := .marketParquetDelta }
      else row) := by
    split_ifs
    · exact ⟨_, _, rfl⟩
    · exact .refl row
  have extended : Extends database { database with
      timeseries := database.timeseries.map fun row =>
        if row.id = chosen.id then
          { row with
            parquetManifestId := some manifest.id
            payloadStorage := .marketParquetDelta }
        else row } :=
    { Extends.refl database with timeseries := fun row member =>
        ⟨_, List.mem_map_of_mem member, relabelled row⟩ }
  have kept {P : TimeSeriesSnapshot → Prop} (old : ∀ row ∈ database.timeseries, ∀ after,
      Relabelled row after → P after) : ∀ row ∈ database.timeseries.map fun row =>
        if row.id = chosen.id then
          { row with
            parquetManifestId := some manifest.id
            payloadStorage := .marketParquetDelta }
        else row, P row := by
    intro row member
    obtain ⟨before, present, rfl⟩ := List.mem_map.mp member
    exact old before present _ (relabelled before)
  refine { whole with
    fits := kept fun row member after label => ?_
    keyed := kept fun row member after label => ?_
    labelled := fun row member label => ?_
    unlabelled := fun row member plain => ?_
    snapshotIds := ?_
    snapshotKeys := kept fun first member after label => kept fun second inside last again equal => ?_
    entries := fun snapshotId orderId entry present =>
      (whole.entries snapshotId orderId entry present).mono extended }
  · obtain ⟨_, _, rfl⟩ := label
    exact whole.fits row member
  · obtain ⟨_, _, rfl⟩ := label
    exact whole.keyed row member
  · obtain ⟨before, present, rfl⟩ := List.mem_map.mp member
    split_ifs at label ⊢ with here
    · obtain rfl := List.inj_on_of_nodup_map whole.snapshotIds present inside here
      exact ⟨manifest, stored, rfl, same⟩
    · exact (whole.labelled before present label).mono extended
  · obtain ⟨before, present, rfl⟩ := List.mem_map.mp member
    split_ifs at plain ⊢ with here
    · exact absurd rfl plain
    · exact whole.unlabelled before present plain
  · rw [List.map_map, List.map_congr_left fun row _ => show (_ ∘ _) row = row.id from ?_]
    · exact whole.snapshotIds
    · obtain ⟨_, _, label⟩ := relabelled row
      exact congrArg (·.id) label
  · obtain ⟨_, _, rfl⟩ := label
    obtain ⟨_, _, rfl⟩ := again
    exact whole.snapshotKeys first member second inside equal

/-- A permitted statement keeps the tables whole. -/
theorem execute_whole (statement : Statement) (session : Session)
    (result : statement.Reply × Session) (whole : Whole libraries session.files session.database)
    (numbered : IdsBelow session.database session.database.snapshotSequence
      session.database.objectFileSequence)
    (permitted : statement.Permitted libraries session)
    (moved : execute libraries statement session = some result) :
    Whole libraries result.2.files result.2.database := by
  have extended := execute_extends libraries statement session result moved
  have kept := execute_files libraries statement session result moved
  cases statement with
  | insertTimeseries row =>
      simp only [execute] at moved
      split_ifs at moved with misfit taken clash
      · cases moved
        exact whole.of_extends extended rfl rfl rfl
      · cases moved
        obtain ⟨keyed, storage, manifest⟩ := permitted
        have fits : row.fits = true := by simpa using misfit
        refine whole.insertTimeseries libraries { row with id := session.database.snapshotSequence } _
          (TimeSeriesSnapshot.fits_identity fits) keyed storage manifest ?_ numbered.snapshots
        intro old member same
        refine taken ?_
        have same : old.idempotencyKey = row.idempotencyKey := same
        simp only [Bool.and_eq_true, List.any_eq_true, decide_eq_true_eq]
        exact ⟨by rw [keyed]; rfl, old, member, same⟩
  | insertObjectFile row =>
      simp only [execute] at moved
      split_ifs at moved with misfit taken
      · cases moved
        exact whole.of_extends extended rfl rfl rfl
      · cases moved
        refine whole.insertObjectFile libraries { row with id := session.database.objectFileSequence } _
          ⟨permitted.region, permitted.path, permitted.stored⟩ ?_ numbered.manifests
        simpa using taken
  | insertEntries rows =>
      obtain ⟨after, accepted, rfl⟩ := Option.map_eq_some_iff.mp moved
      refine { whole with
        labelled := fun row member label => (whole.labelled row member label).mono extended
        entries := fun snapshotId orderId entry stored => ?_ }
      rcases (insertEntries_inserted _ rows _ _ accepted).brought _ entry stored with
        known | ⟨values, member, key, hash⟩
      · exact (whole.entries snapshotId orderId entry known).mono extended
      · obtain ⟨rfl, rfl⟩ := Prod.mk.inj key
        exact hash ▸ (permitted values member).mono extended
  | labelParquet snapshotId manifestId =>
      obtain ⟨row, member, rfl, manifest, stored, rfl, same⟩ := permitted
      simp only [execute] at moved
      split_ifs at moved
      cases moved
      exact whole.labelParquet libraries member stored same
  | upsertVersions | upsertReference | insertEvent | upsertNames =>
      simp only [execute] at moved
      split_ifs at moved
      obtain ⟨_, _, rfl⟩ := Option.map_eq_some_iff.mp moved
      exact whole.of_extends extended rfl rfl rfl
  | writeParquet =>
      cases moved
      exact (whole.files kept).of_extends extended rfl rfl rfl
  | insertBlob | selectTimeseriesId | selectObjectFileId | setNames | commit =>
      cases moved
      exact whole.of_extends extended rfl rfl rfl

end EveApiCache
