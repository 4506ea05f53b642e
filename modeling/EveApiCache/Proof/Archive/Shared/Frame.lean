import EveApiCache.Construction.Archive.Shared
import EveApiCache.Proof.Archive.Idempotent

/-!
This file shows what one statement of the archive leaves as it is.
-/

namespace EveApiCache
open Effects

variable (libraries : Libraries)

/-- A version keeps its payload and its first time, and a batch brings only its own times. -/
structure VersionsUpserted (rows : List VersionValues)
    (before after : VersionKey → Option MarketOrderVersion) : Prop where
  unchanged : ∀ key, (∀ row ∈ rows, row.key ≠ key) → after key = before key
  kept : ∀ key old, before key = some old → ∃ last, after key = some last ∧
    last.payload = old.payload ∧ last.firstSeenAt = old.firstSeenAt ∧
      (last = old ∨ ∃ row ∈ rows, row.key = key ∧ last.lastSeenAt = row.seenAt)
  brought : ∀ key last, before key = none → after key = some last → ∃ row ∈ rows, row.key = key ∧
    last.firstSeenAt = row.seenAt ∧ last.lastSeenAt = row.seenAt
  present : ∀ row ∈ rows, (after row.key).isSome = true

/-- An accepted batch of distinct versions upserts each of them once. -/
theorem versionsUpserted (rows : List VersionValues)
    (before after : VersionKey → Option MarketOrderVersion) (distinct : (rows.map (·.key)).Nodup)
    (moved : upsertVersions libraries before rows = some after) :
    VersionsUpserted rows before after := by
  induction rows generalizing before with
  | nil =>
      cases moved
      refine ⟨fun _ _ => rfl, fun _ old present => ⟨old, present, rfl, rfl, .inl rfl⟩,
        fun key last absent present => ?_, List.forall_mem_nil _⟩
      rw [absent] at present
      cases present
  | cons values rows ih =>
      unfold upsertVersions at moved
      split_ifs at moved
      obtain ⟨payload, stored, moved⟩ := Option.bind_eq_some_iff.mp moved
      obtain ⟨fresh, distinct⟩ := List.nodup_cons.mp distinct
      have rest := ih _ distinct moved
      have alone : ∀ row ∈ rows, row.key ≠ values.key := fun row member same =>
        fresh (List.mem_map.mpr ⟨row, member, same⟩)
      have here : after values.key = upsertVersion before values payload values.key :=
        rest.unchanged values.key alone
      have other (key : VersionKey) (differs : key ≠ values.key) :
          upsertVersion before values payload key = before key := Function.update_of_ne differs _ _
      refine ⟨fun key untouched => ?_, fun key old present => ?_, fun key last absent present => ?_,
        fun row member => ?_⟩
      · rw [rest.unchanged key fun row member => untouched row (by simp [member]),
          other key (untouched values (by simp)).symm]
      · by_cases same : key = values.key
        · subst same
          refine ⟨{ old with lastSeenAt := values.seenAt }, ?_, rfl, rfl, .inr ⟨values, by simp, rfl, rfl⟩⟩
          rw [here, upsertVersion, Function.update_self, present]
        · obtain ⟨last, found, content, first, times⟩ := rest.kept key old (by rw [other key same, present])
          refine ⟨last, found, content, first, times.imp_right fun changed => ?_⟩
          obtain ⟨row, member, rest⟩ := changed
          exact ⟨row, by simp [member], rest⟩
      · by_cases same : key = values.key
        · subst same
          rw [here, upsertVersion, Function.update_self, absent] at present
          cases present
          exact ⟨values, by simp, rfl, rfl, rfl⟩
        · obtain ⟨row, member, rest⟩ := rest.brought key last (by rw [other key same, absent]) present
          exact ⟨row, by simp [member], rest⟩
      · rcases List.mem_cons.mp member with rfl | inside
        · rw [here, upsertVersion, Function.update_self]
          cases before row.key <;> rfl
        · exact rest.present row inside

/-- A name keeps its first time, and a batch brings only its own times. -/
structure NamesUpserted (rows : List NameValues) (before after : PyStr × Int → Option IdName) :
    Prop where
  unchanged : ∀ key : PyStr × Int, (∀ row ∈ rows, row.key libraries ≠ (key.1, some key.2)) →
    after key = before key
  kept : ∀ key old, before key = some old → ∃ last, after key = some last ∧
    last.firstSeenAt = old.firstSeenAt ∧
      (last = old ∨ ∃ row ∈ rows, row.key libraries = (key.1, some key.2) ∧
        last.lastUpdatedAt = row.seenAt)
  brought : ∀ key last, before key = none → after key = some last → ∃ row ∈ rows,
    row.key libraries = (key.1, some key.2) ∧ last.firstSeenAt = row.seenAt ∧
      last.lastUpdatedAt = row.seenAt
  present : ∀ row ∈ rows, ∃ entityId, row.key libraries = (row.datasource, some entityId) ∧
    (after (row.datasource, entityId)).isSome = true

/-- An accepted batch of distinct names upserts each of them once. -/
theorem namesUpserted (rows : List NameValues) (before after : PyStr × Int → Option IdName)
    (distinct : (rows.map (NameValues.key libraries)).Nodup)
    (moved : upsertNames libraries before rows = some after) :
    NamesUpserted libraries rows before after := by
  induction rows generalizing before with
  | nil =>
      cases moved
      refine ⟨fun _ _ => rfl, fun _ old present => ⟨old, present, rfl, .inl rfl⟩,
        fun key last absent present => ?_, List.forall_mem_nil _⟩
      rw [absent] at present
      cases present
  | cons values rows ih =>
      unfold upsertNames at moved
      split at moved
      · rename_i entityId name category identified _ _
        split_ifs at moved
        obtain ⟨fresh, distinct⟩ := List.nodup_cons.mp distinct
        have rest := ih _ distinct moved
        have keyed : values.key libraries = (values.datasource, some entityId) := by
          rw [NameValues.key, identified]
        have alone : ∀ row ∈ rows, row.key libraries ≠ (values.datasource, some entityId) :=
          fun row member same => fresh (List.mem_map.mpr ⟨row, member, same.trans keyed.symm⟩)
        have here := rest.unchanged (values.datasource, entityId) alone
        have other (key : PyStr × Int) (differs : key ≠ (values.datasource, entityId)) :
            upsertName before (values.datasource, entityId) name category values.seenAt key =
              before key := Function.update_of_ne differs _ _
        refine ⟨fun key untouched => ?_, fun key old present => ?_, fun key last absent present => ?_,
          fun row member => ?_⟩
        · rw [rest.unchanged key fun row member => untouched row (by simp [member]), other key]
          rintro rfl
          exact untouched values (by simp) keyed
        · by_cases same : key = (values.datasource, entityId)
          · subst same
            rw [upsertName, Function.update_self, present] at here
            exact ⟨_, here, rfl, .inr ⟨values, by simp, keyed, rfl⟩⟩
          · obtain ⟨last, found, first, times⟩ := rest.kept key old (by rw [other key same, present])
            refine ⟨last, found, first, times.imp_right fun changed => ?_⟩
            obtain ⟨row, member, rest⟩ := changed
            exact ⟨row, by simp [member], rest⟩
        · by_cases same : key = (values.datasource, entityId)
          · subst same
            rw [here, upsertName, Function.update_self, absent] at present
            cases present
            exact ⟨values, by simp, keyed, rfl, rfl⟩
          · obtain ⟨row, member, rest⟩ := rest.brought key last (by rw [other key same, absent]) present
            exact ⟨row, by simp [member], rest⟩
        · rcases List.mem_cons.mp member with rfl | inside
          · refine ⟨entityId, keyed, ?_⟩
            rw [here, upsertName, Function.update_self]
            cases before (row.datasource, entityId) <;> rfl
          · exact rest.present row inside
      · cases moved

/-- An accepted batch of entries leaves the keys of other entries. -/
theorem insertEntries_unchanged (database : Database) (rows : List EntryValues)
    (before after : Nat × Int → Option MarketOrderSnapshotEntry)
    (moved : insertEntries database before rows = some after) (key : Nat × Int)
    (untouched : ∀ row ∈ rows, (row.snapshotId, row.orderId) ≠ key) : after key = before key := by
  induction rows generalizing before with
  | nil =>
      cases moved
      rfl
  | cons values rows ih =>
      unfold insertEntries at moved
      split_ifs at moved
      rw [ih _ moved fun row member => untouched row (by simp [member])]
      cases before (values.snapshotId, values.orderId) with
      | some _ => rfl
      | none => exact Function.update_of_ne (untouched values (by simp)).symm _ _

/-- A statement changes only the rows whose keys it locks, and it numbers a new row. -/
structure Framed (statement : Statement) (before after : Database) : Prop where
  blobs : ∀ hash, .blob hash ∉ statement.locks libraries → after.blobs hash = before.blobs hash
  reference : ∀ identity, .reference identity ∉ statement.locks libraries →
    after.reference identity = before.reference identity
  events : ∀ identity, .event identity ∉ statement.locks libraries →
    after.events identity = before.events identity
  names : ∀ key, .name key ∉ statement.locks libraries → after.names key = before.names key
  versions : ∀ key, .version key ∉ statement.locks libraries → after.versions key = before.versions key
  entries : ∀ key, .entry key ∉ statement.locks libraries → after.entries key = before.entries key
  timeseries : ∀ row ∈ after.timeseries, row ∈ before.timeseries ∨
    (.snapshot row.id ∈ statement.locks libraries ∧ ∃ old ∈ before.timeseries, Relabelled old row) ∨
      before.snapshotSequence ≤ row.id ∧
        ∀ key, row.idempotencyKey = some key → .snapshotKey key ∈ statement.locks libraries
  objectFiles : ∃ more, after.objectFiles = before.objectFiles ++ more ∧ (more.map (·.id)).Nodup ∧
    ∀ row ∈ more, before.objectFileSequence ≤ row.id ∧ row.id < after.objectFileSequence ∧
      .manifest row.contentHash ∈ statement.locks libraries
  objectFileSequence : before.objectFileSequence ≤ after.objectFileSequence

/-- A statement that changes no table is framed. -/
theorem Framed.refl (statement : Statement) (database : Database) :
    Framed libraries statement database database where
  blobs _ _ := rfl
  reference _ _ := rfl
  events _ _ := rfl
  names _ _ := rfl
  versions _ _ := rfl
  entries _ _ := rfl
  timeseries _ member := .inl member
  objectFiles := ⟨[], (List.append_nil _).symm, .nil, fun _ absent => by cases absent⟩
  objectFileSequence := Nat.le_refl _

theorem execute_framed (statement : Statement) (session : Session)
    (result : statement.Reply × Session)
    (moved : execute libraries statement session = some result) :
    Framed libraries statement session.database result.2.database := by
  have same := Framed.refl libraries statement session.database
  cases statement with
  | insertBlob hash row =>
      cases moved
      refine { same with blobs := fun other untouched => ?_ }
      have differs : other ≠ hash := fun equal => untouched (by simp [Statement.locks, equal])
      simp only
      cases session.database.blobs hash with
      | some _ => rfl
      | none => exact Function.update_of_ne differs _ _
  | insertTimeseries row =>
      simp only [execute] at moved
      split_ifs at moved
      · cases moved
        exact { same with }
      · cases moved
        refine { same with timeseries := fun other member => ?_ }
        rcases List.mem_append.mp member with old | new
        · exact .inl old
        · obtain rfl := List.mem_singleton.mp new
          refine .inr (.inr ⟨Nat.le_refl _, fun key keyed => ?_⟩)
          have keyed : row.idempotencyKey = some key := keyed
          simp [Statement.locks, keyed]
  | insertObjectFile row =>
      simp only [execute] at moved
      split_ifs at moved
      · cases moved
        refine { same with
          objectFiles := ⟨[], (List.append_nil _).symm, .nil, fun _ absent => by cases absent⟩
          objectFileSequence := Nat.le_succ _ }
      · cases moved
        refine { same with
          objectFiles := ⟨_, rfl, List.nodup_singleton _, fun other member => ?_⟩
          objectFileSequence := Nat.le_succ _ }
        obtain rfl := List.mem_singleton.mp member
        exact ⟨Nat.le_refl _, Nat.lt_succ_self _, List.mem_singleton_self _⟩
  | upsertVersions rows =>
      simp only [execute] at moved
      split_ifs at moved with distinct
      obtain ⟨after, accepted, rfl⟩ := Option.map_eq_some_iff.mp moved
      refine { same with versions := fun key untouched => ?_ }
      refine (versionsUpserted libraries rows _ _ distinct accepted).unchanged key fun row member equal => ?_
      exact untouched (List.mem_map.mpr ⟨row, member, by rw [equal]⟩)
  | insertEntries rows =>
      obtain ⟨after, accepted, rfl⟩ := Option.map_eq_some_iff.mp moved
      refine { same with entries := fun key untouched => ?_ }
      refine insertEntries_unchanged _ rows _ _ accepted key fun row member equal => ?_
      exact untouched (List.mem_map.mpr ⟨row, member, by rw [equal]⟩)
  | labelParquet snapshotId manifestId =>
      simp only [execute] at moved
      split_ifs at moved
      cases moved
      refine { same with timeseries := fun row member => ?_ }
      obtain ⟨old, present, rfl⟩ := List.mem_map.mp member
      split_ifs with chosen
      · exact .inr (.inl ⟨by simp [Statement.locks, chosen], old, present, _, _, rfl⟩)
      · exact .inl present
  | upsertReference identity row =>
      simp only [execute] at moved
      split_ifs at moved
      obtain ⟨_, _, rfl⟩ := Option.map_eq_some_iff.mp moved
      refine { same with reference := fun other untouched => ?_ }
      exact Function.update_of_ne (fun equal => untouched (by simp [Statement.locks, equal])) _ _
  | insertEvent identity row =>
      simp only [execute] at moved
      split_ifs at moved
      obtain ⟨_, _, rfl⟩ := Option.map_eq_some_iff.mp moved
      refine { same with events := fun other untouched => ?_ }
      have differs : other ≠ identity := fun equal => untouched (by simp [Statement.locks, equal])
      simp only
      cases session.database.events identity with
      | some _ => rfl
      | none => exact Function.update_of_ne differs _ _
  | upsertNames rows =>
      simp only [execute] at moved
      split_ifs at moved with distinct
      obtain ⟨after, accepted, rfl⟩ := Option.map_eq_some_iff.mp moved
      refine { same with names := fun key untouched => ?_ }
      refine (namesUpserted libraries rows _ _ distinct accepted).unchanged key fun row member equal => ?_
      obtain ⟨source, identified⟩ := Prod.mk.inj equal
      exact untouched (List.mem_filterMap.mpr ⟨row, member, by rw [identified, source]; rfl⟩)
  | selectTimeseriesId | selectObjectFileId | writeParquet | setNames | commit =>
      cases moved
      exact same

/-- The rows that an upsert locks are there afterwards. -/
theorem execute_present (statement : Statement) (session : Session)
    (result : statement.Reply × Session)
    (moved : execute libraries statement session = some result) :
    (∀ identity, .reference identity ∈ statement.locks libraries →
        (result.2.database.reference identity).isSome = true) ∧
      (∀ key, .version key ∈ statement.locks libraries →
        (result.2.database.versions key).isSome = true) ∧
      ∀ key, .name key ∈ statement.locks libraries → (result.2.database.names key).isSome = true := by
  cases statement with
  | upsertReference identity row =>
      simp only [execute] at moved
      split_ifs at moved
      obtain ⟨_, _, rfl⟩ := Option.map_eq_some_iff.mp moved
      refine ⟨fun other locked => ?_, fun key locked => by simp [Statement.locks] at locked,
        fun key locked => by simp [Statement.locks] at locked⟩
      obtain rfl : other = identity := by simpa [Statement.locks] using locked
      simp
  | upsertVersions rows =>
      simp only [execute] at moved
      split_ifs at moved with distinct
      obtain ⟨after, accepted, rfl⟩ := Option.map_eq_some_iff.mp moved
      refine ⟨fun other locked => by simp [Statement.locks] at locked, fun key locked => ?_,
        fun key locked => by simp [Statement.locks] at locked⟩
      obtain ⟨row, member, equal⟩ := List.mem_map.mp locked
      obtain rfl := RowKey.version.inj equal
      exact (versionsUpserted libraries rows _ _ distinct accepted).present row member
  | upsertNames rows =>
      simp only [execute] at moved
      split_ifs at moved with distinct
      obtain ⟨after, accepted, rfl⟩ := Option.map_eq_some_iff.mp moved
      refine ⟨fun other locked => by simp [Statement.locks] at locked,
        fun key locked => by simp [Statement.locks] at locked, fun key locked => ?_⟩
      obtain ⟨row, member, equal⟩ := List.mem_filterMap.mp locked
      obtain ⟨entityId, identified, equal⟩ := Option.map_eq_some_iff.mp equal
      obtain rfl := RowKey.name.inj equal
      obtain ⟨other, keyed, present⟩ :=
        (namesUpserted libraries rows _ _ distinct accepted).present row member
      rw [NameValues.key, identified] at keyed
      obtain rfl : entityId = other := by simpa using keyed
      exact present
  | _ =>
      refine ⟨fun other locked => ?_, fun key locked => ?_, fun key locked => ?_⟩ <;>
        simp [Statement.locks] at locked

end EveApiCache
