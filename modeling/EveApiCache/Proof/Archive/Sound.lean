import EveApiCache.Proof.Archive.AppendOnly

/-!
This file states what holds of the archive tables between any two statements.
-/

namespace EveApiCache
open Effects

variable (libraries : Libraries)

/-- A version row stands for the orders with its hash. -/
def VersionOf (hash : PyStr) (payload : Json) : Prop :=
  ∃ order, versionHash libraries order = hash ∧ storedJson libraries order = some payload

/-- A snapshot row holds a payload that lists an order under an order id. -/
def Lists (row : TimeSeriesSnapshot) (orderId : Int) (order : Json) : Prop :=
  ∃ payload orders rows, libraries.sha256 payload = row.contentHash ∧
    Json.loads libraries.floatRepr payload = some (.arr orders) ∧
    orderRows libraries orders = some rows ∧ (orderId, order) ∈ rows

/-- An entry leads from its snapshot to a stored version of an order in the payload. -/
def EntryOf (database : Database) (snapshotId : Nat) (orderId : Int) (hash : PyStr) : Prop :=
  ∃ row ∈ database.timeseries, row.id = snapshotId ∧
    (∃ order, Lists libraries row orderId order ∧ hash = versionHash libraries order) ∧
    (database.versions ⟨row.identity.datasource, orderId, hash⟩).isSome = true

/-- The archive tables are sound when each row is what the code writes. -/
structure Sound (database : Database) : Prop where
  fits : ∀ row ∈ database.timeseries, row.identity.fits = true
  keyed : ∀ row ∈ database.timeseries, row.idempotencyKey =
    some (timeseriesIdempotencyKey libraries row.identity row.contentHash row.fetchedAt)
  compressed : ∀ row ∈ database.timeseries, row.payload = none
  distinct : (database.timeseries.map (·.id)).Nodup
  versions : ∀ key row, database.versions key = some row →
    VersionOf libraries key.versionHash row.payload
  entries : ∀ snapshotId orderId row, database.entries (snapshotId, orderId) = some row →
    EntryOf libraries database snapshotId orderId row.versionHash

theorem sound_empty : Sound libraries .empty := ⟨nofun, nofun, nofun, .nil, nofun, nofun⟩

/-- A session is sound when its tables are and the next snapshot id is fresh. -/
structure SoundSession (session : Session) : Prop where
  working : Sound libraries session.database
  committed : Sound libraries session.committed
  fresh : ∀ row ∈ session.database.timeseries, row.id < session.database.snapshotSequence
  restored : ∀ row ∈ session.committed.timeseries, row.id < session.database.snapshotSequence

/-- A statement is warranted when the rows that it brings are what the code writes. -/
def Statement.Warranted (database : Database) : Statement → Prop
  | .insertTimeseries row => row.idempotencyKey =
      some (timeseriesIdempotencyKey libraries row.identity row.contentHash row.fetchedAt) ∧
        row.payload = none
  | .upsertVersions rows =>
      ∀ row ∈ rows, row.key.versionHash = versionHash libraries row.payload
  | .insertEntries rows =>
      ∀ row ∈ rows, EntryOf libraries database row.snapshotId row.orderId row.versionHash
  | _ => True

/-- An upsert keeps the stored versions, brings its rows and nothing else. -/
structure Upserted (rows : List VersionValues)
    (before after : VersionKey → Option MarketOrderVersion) : Prop where
  kept : ∀ key row, before key = some row → ∃ last, after key = some last ∧ last.payload = row.payload
  brought : ∀ key row, after key = some row →
    (∃ first, before key = some first ∧ first.payload = row.payload) ∨
      ∃ values ∈ rows, values.key = key ∧ storedJson libraries values.payload = some row.payload
  complete : ∀ values ∈ rows, (after values.key).isSome = true

theorem upsertVersion_upserted (values : VersionValues) (payload : Json)
    (stored : storedJson libraries values.payload = some payload)
    (before : VersionKey → Option MarketOrderVersion) :
    Upserted libraries [values] before (upsertVersion before values payload) := by
  unfold upsertVersion
  constructor
  · intro key row present
    by_cases same : key = values.key
    · subst same
      rw [present, Function.update_self]
      exact ⟨_, rfl, rfl⟩
    · rw [Function.update_of_ne same]
      exact ⟨row, present, rfl⟩
  · intro key row present
    by_cases same : key = values.key
    · subst same
      rw [Function.update_self] at present
      cases old : before values.key with
      | some first =>
          rw [old] at present
          cases present
          exact .inl ⟨first, rfl, rfl⟩
      | none =>
          rw [old] at present
          cases present
          exact .inr ⟨values, by simp, rfl, stored⟩
    · rw [Function.update_of_ne same] at present
      exact .inl ⟨row, present, rfl⟩
  · intro other member
    obtain rfl := List.mem_singleton.mp member
    rw [Function.update_self]
    cases before other.key <;> rfl

theorem Upserted.trans {first second : List VersionValues}
    {start middle final : VersionKey → Option MarketOrderVersion}
    (one : Upserted libraries first start middle) (two : Upserted libraries second middle final) :
    Upserted libraries (first ++ second) start final where
  kept key row present := by
    obtain ⟨between, found, same⟩ := one.kept key row present
    obtain ⟨last, reached, equal⟩ := two.kept key between found
    exact ⟨last, reached, equal.trans same⟩
  brought key row present := by
    rcases two.brought key row present with ⟨between, found, same⟩ | ⟨values, member, rest⟩
    · rcases one.brought key between found with ⟨old, known, equal⟩ | ⟨values, member, key, stored⟩
      · exact .inl ⟨old, known, equal.trans same⟩
      · exact .inr ⟨values, List.mem_append_left _ member, key, by rw [stored, same]⟩
    · exact .inr ⟨values, List.mem_append_right _ member, rest⟩
  complete values member := by
    rcases List.mem_append.mp member with early | late
    · obtain ⟨between, found⟩ := Option.isSome_iff_exists.mp (one.complete values early)
      obtain ⟨last, reached, _⟩ := two.kept _ between found
      exact Option.isSome_iff_exists.mpr ⟨last, reached⟩
    · exact two.complete values late

/-- An accepted batch upserts its rows. -/
theorem upsertVersions_upserted (rows : List VersionValues)
    (before after : VersionKey → Option MarketOrderVersion)
    (moved : upsertVersions libraries before rows = some after) :
    Upserted libraries rows before after := by
  induction rows generalizing before with
  | nil =>
      cases moved
      exact ⟨fun _ row present => ⟨row, present, rfl⟩, fun _ row present => .inl ⟨row, present, rfl⟩,
        nofun⟩
  | cons values rows ih =>
      unfold upsertVersions at moved
      split_ifs at moved
      obtain ⟨payload, stored, rest⟩ := Option.bind_eq_some_iff.mp moved
      exact (upsertVersion_upserted libraries values payload stored before).trans libraries (ih _ rest)

/-- A batch is accepted when its rows fit. -/
theorem upsertVersions_isSome (rows : List VersionValues)
    (before : VersionKey → Option MarketOrderVersion)
    (fits : ∀ values ∈ rows, isVarchar 20 values.key.datasource = true ∧
      bigint values.key.orderId = true ∧ (storedJson libraries values.payload).isSome = true) :
    (upsertVersions libraries before rows).isSome = true := by
  induction rows generalizing before with
  | nil => rfl
  | cons values rows ih =>
      obtain ⟨datasource, orderId, stored⟩ := fits values (by simp)
      obtain ⟨payload, stored⟩ := Option.isSome_iff_exists.mp stored
      unfold upsertVersions
      rw [if_pos (by simp [datasource, orderId]), stored]
      exact ih _ fun other member => fits other (by simp [member])

/-- An insert keeps the stored entries, brings its rows and nothing else. -/
structure Inserted (rows : List EntryValues)
    (before after : Nat × Int → Option MarketOrderSnapshotEntry) : Prop where
  kept : ∀ key row, before key = some row → after key = some row
  brought : ∀ key row, after key = some row → before key = some row ∨
    ∃ values ∈ rows, (values.snapshotId, values.orderId) = key ∧ values.versionHash = row.versionHash
  complete : ∀ values ∈ rows, (after (values.snapshotId, values.orderId)).isSome = true

/-- An accepted batch inserts its rows. -/
theorem insertEntries_inserted (database : Database) (rows : List EntryValues)
    (before after : Nat × Int → Option MarketOrderSnapshotEntry)
    (moved : insertEntries database before rows = some after) : Inserted rows before after := by
  induction rows generalizing before with
  | nil =>
      cases moved
      exact ⟨fun _ _ present => present, fun _ _ present => .inl present, nofun⟩
  | cons values rows ih =>
      unfold insertEntries at moved
      split_ifs at moved
      have rest := ih _ moved
      cases old : before (values.snapshotId, values.orderId) with
      | some entry =>
          simp only [old] at rest
          refine ⟨rest.kept, fun key row present => ?_, fun other member => ?_⟩
          · rcases rest.brought key row present with known | ⟨other, member, same⟩
            · exact .inl known
            · exact .inr ⟨other, by simp [member], same⟩
          · rcases List.mem_cons.mp member with rfl | member
            · exact Option.isSome_iff_exists.mpr ⟨entry, rest.kept _ _ old⟩
            · exact rest.complete other member
      | none =>
          simp only [old] at rest
          refine ⟨fun key row present => rest.kept key row ?_, fun key row present => ?_,
            fun other member => ?_⟩
          · rw [Function.update_of_ne]
            · exact present
            · rintro rfl
              rw [old] at present
              cases present
          · rcases rest.brought key row present with known | ⟨other, member, same⟩
            · by_cases here : key = (values.snapshotId, values.orderId)
              · subst here
                rw [Function.update_self] at known
                cases known
                exact .inr ⟨values, by simp, rfl, rfl⟩
              · rw [Function.update_of_ne here] at known
                exact .inl known
            · exact .inr ⟨other, by simp [member], same⟩
          · rcases List.mem_cons.mp member with rfl | member
            · exact Option.isSome_iff_exists.mpr ⟨_, rest.kept _ _ (Function.update_self ..)⟩
            · exact rest.complete other member

/-- A batch is accepted exactly when its rows fit and their snapshots exist. -/
theorem insertEntries_isSome (database : Database) (rows : List EntryValues)
    (before : Nat × Int → Option MarketOrderSnapshotEntry) :
    (insertEntries database before rows).isSome = true ↔ ∀ values ∈ rows,
      bigint values.orderId = true ∧ bigint values.regionId = true ∧
        ∃ row ∈ database.timeseries, row.id = values.snapshotId := by
  induction rows generalizing before with
  | nil => simp [insertEntries]
  | cons values rows ih =>
      unfold insertEntries
      split_ifs with fits
      · rw [ih, List.forall_mem_cons]
        simp only [Bool.and_eq_true, List.any_eq_true, decide_eq_true_eq] at fits
        exact ⟨fun rest => ⟨⟨fits.1.1, fits.1.2, fits.2⟩, rest⟩, fun all => all.2⟩
      · rw [List.forall_mem_cons]
        simp only [Bool.and_eq_true, List.any_eq_true, decide_eq_true_eq, not_and] at fits
        simp only [Option.isSome_none, Bool.false_eq_true, false_iff, not_and]
        exact fun all => absurd all.2.2 (fits ⟨all.1, all.2.1⟩)

/-- An entry stays one when the snapshots and the versions stay. -/
theorem EntryOf.mono {before after : Database} {snapshotId : Nat} {orderId : Int} {hash : PyStr}
    (rows : ∀ row ∈ before.timeseries, ∃ kept ∈ after.timeseries, Relabelled row kept)
    (versions : ∀ key, (before.versions key).isSome = true → (after.versions key).isSome = true)
    (entry : EntryOf libraries before snapshotId orderId hash) :
    EntryOf libraries after snapshotId orderId hash := by
  obtain ⟨row, member, identified, listed, version⟩ := entry
  obtain ⟨_, kept, _, _, rfl⟩ := rows row member
  exact ⟨_, kept, identified, listed, versions _ version⟩

theorem relabelled_ids {before after : List TimeSeriesSnapshot}
    (rows : List.Forall₂ Relabelled before after) : after.map (·.id) = before.map (·.id) := by
  induction rows with
  | nil => rfl
  | cons label _ ih =>
      obtain ⟨_, _, rfl⟩ := label
      rw [List.map_cons, List.map_cons, ih]

theorem relabelled_refl (rows : List TimeSeriesSnapshot) : List.Forall₂ Relabelled rows rows := by
  induction rows with
  | nil => exact .nil
  | cons row rows ih => exact .cons (.refl row) ih

theorem relabelled_forward {before after : List TimeSeriesSnapshot}
    (rows : List.Forall₂ Relabelled before after) :
    ∀ row ∈ before, ∃ kept ∈ after, Relabelled row kept := by
  intro row member
  obtain ⟨index, bound, rfl⟩ := List.mem_iff_getElem.mp member
  have inside : index < after.length := rows.length_eq ▸ bound
  exact ⟨_, List.getElem_mem inside, List.Forall₂.get rows bound inside⟩

theorem relabelled_backward {before after : List TimeSeriesSnapshot}
    (rows : List.Forall₂ Relabelled before after) :
    ∀ row ∈ after, ∃ old ∈ before, Relabelled old row := by
  intro row member
  obtain ⟨index, bound, rfl⟩ := List.mem_iff_getElem.mp member
  have inside : index < before.length := rows.length_eq.symm ▸ bound
  exact ⟨_, List.getElem_mem inside, List.Forall₂.get rows inside bound⟩

/-- Tables that differ in labels and in other tables are as sound. -/
theorem Sound.of_relabelled {before after : Database} (sound : Sound libraries before)
    (rows : List.Forall₂ Relabelled before.timeseries after.timeseries)
    (versions : after.versions = before.versions) (entries : after.entries = before.entries) :
    Sound libraries after := by
  have backward := relabelled_backward rows
  refine ⟨fun row member => ?_, fun row member => ?_, fun row member => ?_, ?_,
    fun key row stored => ?_, fun snapshotId orderId row stored => ?_⟩
  · obtain ⟨old, present, _, _, rfl⟩ := backward row member
    exact sound.fits old present
  · obtain ⟨old, present, _, _, rfl⟩ := backward row member
    exact sound.keyed old present
  · obtain ⟨old, present, _, _, rfl⟩ := backward row member
    exact sound.compressed old present
  · rw [relabelled_ids rows]
    exact sound.distinct
  · rw [versions] at stored
    exact sound.versions key row stored
  · rw [entries] at stored
    exact (sound.entries snapshotId orderId row stored).mono libraries (relabelled_forward rows)
      fun key present => versions ▸ present

theorem Sound.of_same {before after : Database} (sound : Sound libraries before)
    (timeseries : after.timeseries = before.timeseries) (versions : after.versions = before.versions)
    (entries : after.entries = before.entries) : Sound libraries after :=
  sound.of_relabelled libraries (timeseries ▸ relabelled_refl _) versions entries

/-- A statement that leaves the ids and sequences keeps a session sound with its tables. -/
theorem SoundSession.of_sound {before after : Session} (sound : SoundSession libraries before)
    (working : Sound libraries after.database) (committed : after.committed = before.committed)
    (ids : after.database.timeseries.map (·.id) = before.database.timeseries.map (·.id))
    (sequence : before.database.snapshotSequence ≤ after.database.snapshotSequence) :
    SoundSession libraries after where
  working := working
  committed := committed ▸ sound.committed
  fresh row member := by
    have inside : row.id ∈ before.database.timeseries.map (·.id) := ids ▸ List.mem_map_of_mem member
    obtain ⟨old, present, same⟩ := List.mem_map.mp inside
    have below := sound.fresh old present
    omega
  restored row member := by
    rw [committed] at member
    have below := sound.restored row member
    omega

/-- A new snapshot with the next id keeps the session sound. -/
theorem insertTimeseries_sound {session : Session} {row : TimeSeriesSnapshot}
    (sound : SoundSession libraries session) (fits : row.identity.fits = true)
    (warranted : (Statement.insertTimeseries row).Warranted libraries session.database)
    (attempted : Database) (same : attempted = { session.database with
      snapshotSequence := session.database.snapshotSequence + 1
      timeseries := session.database.timeseries ++
        [{ row with id := session.database.snapshotSequence }] }) :
    SoundSession libraries { session with database := attempted } := by
  subst same
  refine ⟨⟨?_, ?_, ?_, ?_, sound.working.versions, ?_⟩, sound.committed, ?_, ?_⟩
  · intro other member
    rcases List.mem_append.mp member with old | new
    · exact sound.working.fits other old
    · obtain rfl := List.mem_singleton.mp new
      exact fits
  · intro other member
    rcases List.mem_append.mp member with old | new
    · exact sound.working.keyed other old
    · obtain rfl := List.mem_singleton.mp new
      exact warranted.1
  · intro other member
    rcases List.mem_append.mp member with old | new
    · exact sound.working.compressed other old
    · obtain rfl := List.mem_singleton.mp new
      exact warranted.2
  · rw [List.map_append, List.map_singleton]
    refine List.nodup_append'.mpr ⟨sound.working.distinct, List.nodup_singleton _, ?_⟩
    rw [List.disjoint_singleton]
    intro member
    obtain ⟨old, present, clash⟩ := List.mem_map.mp member
    have below := sound.fresh old present
    change old.id = session.database.snapshotSequence at clash
    omega
  · intro snapshotId orderId entry stored
    exact (sound.working.entries snapshotId orderId entry stored).mono libraries
      (fun old present => ⟨old, List.mem_append_left _ present, .refl old⟩) fun _ present => present
  · intro other member
    rcases List.mem_append.mp member with old | new
    · exact Nat.lt_succ_of_lt (sound.fresh other old)
    · obtain rfl := List.mem_singleton.mp new
      exact Nat.lt_succ_self _
  · exact fun other member => Nat.lt_succ_of_lt (sound.restored other member)

/-- A warranted statement keeps a session sound. -/
theorem execute_sound (statement : Statement) (session : Session)
    (result : statement.Reply × Session) (sound : SoundSession libraries session)
    (warranted : statement.Warranted libraries session.database)
    (moved : execute libraries statement session = some result) :
    SoundSession libraries result.2 := by
  have same (after : Session) (timeseries : after.database.timeseries = session.database.timeseries)
      (versions : after.database.versions = session.database.versions)
      (entries : after.database.entries = session.database.entries)
      (committed : after.committed = session.committed)
      (sequence : session.database.snapshotSequence ≤ after.database.snapshotSequence) :
      SoundSession libraries after :=
    sound.of_sound libraries (sound.working.of_same libraries timeseries versions entries) committed
      (timeseries ▸ rfl) sequence
  cases statement with
  | insertTimeseries row =>
      simp only [execute] at moved
      split_ifs at moved with fits
      · cases moved
        exact same _ rfl rfl rfl rfl (Nat.le_succ _)
      · cases moved
        refine insertTimeseries_sound libraries sound ?_ warranted _ rfl
        have inside : row.fits = true := by simpa using fits
        simp only [TimeSeriesSnapshot.fits, Bool.and_eq_true] at inside
        exact inside.1.1
  | upsertVersions rows =>
      simp only [execute] at moved
      split_ifs at moved
      obtain ⟨after, accepted, rfl⟩ := Option.map_eq_some_iff.mp moved
      have upserted := upsertVersions_upserted libraries rows _ _ accepted
      refine sound.of_sound libraries { sound.working with
        versions := fun key row stored => ?_
        entries := fun snapshotId orderId row stored => ?_ } rfl rfl le_rfl
      · rcases upserted.brought key row stored with ⟨first, known, equal⟩ | ⟨values, member, rfl, payload⟩
        · exact equal ▸ sound.working.versions key first known
        · exact ⟨values.payload, (warranted values member).symm, payload⟩
      · have entry := sound.working.entries snapshotId orderId row stored
        refine EntryOf.mono libraries (fun old (present : old ∈ session.database.timeseries) =>
          ⟨old, present, .refl old⟩) (fun key present => ?_) entry
        obtain ⟨first, known⟩ := Option.isSome_iff_exists.mp present
        obtain ⟨last, reached, _⟩ := upserted.kept key first known
        exact Option.isSome_iff_exists.mpr ⟨last, reached⟩
  | insertEntries rows =>
      obtain ⟨after, accepted, rfl⟩ := Option.map_eq_some_iff.mp moved
      have inserted := insertEntries_inserted _ rows _ _ accepted
      refine sound.of_sound libraries { sound.working with
        entries := fun snapshotId orderId row stored => ?_ } rfl rfl le_rfl
      rcases inserted.brought _ row stored with known | ⟨values, member, key, hash⟩
      · exact sound.working.entries snapshotId orderId row known
      · obtain ⟨rfl, rfl⟩ := Prod.mk.inj key
        exact hash ▸ warranted values member
  | labelParquet snapshotId manifestId =>
      simp only [execute] at moved
      split_ifs at moved
      cases moved
      have rows : List.Forall₂ Relabelled session.database.timeseries
          (session.database.timeseries.map fun row =>
            if row.id = snapshotId then
              { row with
                parquetManifestId := some manifestId
                payloadStorage := .marketParquetDelta }
            else row) := by
        rw [List.forall₂_map_right_iff, List.forall₂_same]
        intro row _
        split_ifs
        · exact ⟨_, _, rfl⟩
        · exact .refl row
      exact sound.of_sound libraries (sound.working.of_relabelled libraries rows rfl rfl) rfl
        (relabelled_ids rows) le_rfl
  | insertObjectFile row =>
      simp only [execute] at moved
      split_ifs at moved <;> cases moved <;> exact same _ rfl rfl rfl rfl le_rfl
  | upsertReference identity row =>
      simp only [execute] at moved
      split_ifs at moved
      obtain ⟨_, _, rfl⟩ := Option.map_eq_some_iff.mp moved
      exact same _ rfl rfl rfl rfl le_rfl
  | insertEvent identity row =>
      simp only [execute] at moved
      split_ifs at moved
      obtain ⟨_, _, rfl⟩ := Option.map_eq_some_iff.mp moved
      exact same _ rfl rfl rfl rfl le_rfl
  | upsertNames rows =>
      simp only [execute] at moved
      split_ifs at moved
      obtain ⟨_, _, rfl⟩ := Option.map_eq_some_iff.mp moved
      exact same _ rfl rfl rfl rfl le_rfl
  | insertBlob hash row =>
      cases moved
      exact same _ rfl rfl rfl rfl le_rfl
  | selectTimeseriesId key =>
      cases moved
      exact sound
  | selectObjectFileId hash =>
      cases moved
      exact sound
  | writeParquet path content =>
      cases moved
      exact same _ rfl rfl rfl rfl le_rfl
  | setNames datasource items =>
      cases moved
      exact same _ rfl rfl rfl rfl le_rfl
  | commit =>
      cases moved
      exact ⟨sound.working, sound.working, sound.fresh, sound.fresh⟩

end EveApiCache
