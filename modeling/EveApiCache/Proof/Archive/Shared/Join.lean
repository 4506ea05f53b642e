import EveApiCache.Proof.Archive.Shared.Whole

/-!
This file shows what a view of a transaction becomes when it executes a statement and when another
transaction commits.
-/

namespace EveApiCache
open Effects

/-- Two transactions hold no common key. -/
def Apart (first second : Database) : Prop := ∀ key, first.holds key = true → second.holds key = false

theorem Apart.symm {first second : Database} (apart : Apart first second) : Apart second first := by
  intro key held
  cases other : first.holds key with
  | false => rfl
  | true => exact absurd held (by rw [apart key other]; exact Bool.false_ne_true)

theorem apart_empty (written : Database) : Apart written .empty := by
  intro key _
  cases key <;> rfl

theorem Apart.none {Row : Type} {first second : Database} (apart : Apart first second) (key : RowKey)
    {one two : Option Row} (heldOne : first.holds key = one.isSome) (heldTwo : second.holds key = two.isSome)
    {row : Row} (stored : one = some row) : two = none := by
  have free := apart key (by rw [heldOne, stored]; rfl)
  rw [heldTwo] at free
  simpa using free

@[simp] theorem holds_snapshot (written : Database) (id : Nat) :
    written.holds (.snapshot id) = true ↔ ∃ row ∈ written.timeseries, row.id = id := by
  simp [Database.holds]

@[simp] theorem holds_snapshotKey (written : Database) (key : PyStr) :
    written.holds (.snapshotKey key) = true ↔
      ∃ row ∈ written.timeseries, row.idempotencyKey = some key := by
  simp [Database.holds]

@[simp] theorem holds_manifestId (written : Database) (id : Nat) :
    written.holds (.manifestId id) = true ↔ ∃ row ∈ written.objectFiles, row.id = id := by
  simp [Database.holds]

@[simp] theorem holds_manifest (written : Database) (hash : PyStr) :
    written.holds (.manifest hash) = true ↔ ∃ row ∈ written.objectFiles, row.contentHash = hash := by
  simp [Database.holds]

/-- The written rows of a transaction have distinct ids, and its view extends the committed tables. -/
structure Fragment (committed written : Database) : Prop where
  snapshotIds : (written.timeseries.map (·.id)).Nodup
  manifestIds : (written.objectFiles.map (·.id)).Nodup
  extended : Extends committed (written.onto committed)

theorem onto_empty (committed : Database) : Database.onto .empty committed = committed := by
  simp [Database.onto, Database.empty]

theorem fragment_empty (committed : Database) : Fragment committed .empty :=
  ⟨.nil, .nil, (onto_empty committed).symm ▸ Extends.refl committed⟩

theorem Fragment.snapshot {committed written : Database} (fragment : Fragment committed written)
    (base : Database) {row : TimeSeriesSnapshot} : row ∈ (written.onto base).timeseries ↔
      row ∈ written.timeseries ∨ row ∈ base.timeseries ∧ written.holds (.snapshot row.id) = false := by
  have apart : (∀ other ∈ written.timeseries, other.id ≠ row.id) ↔
      written.holds (.snapshot row.id) = false := by
    simp [Database.holds]
  rw [← apart]
  exact Overlay.mem_rows TimeSeriesSnapshot.id fragment.snapshotIds

theorem Fragment.manifest {committed written : Database} (fragment : Fragment committed written)
    (base : Database) {row : ArchiveObjectFile} : row ∈ (written.onto base).objectFiles ↔
      row ∈ written.objectFiles ∨ row ∈ base.objectFiles ∧ written.holds (.manifestId row.id) = false := by
  have apart : (∀ other ∈ written.objectFiles, other.id ≠ row.id) ↔
      written.holds (.manifestId row.id) = false := by
    simp [Database.holds]
  rw [← apart]
  exact Overlay.mem_rows ArchiveObjectFile.id fragment.manifestIds

/-- A related row of a table is visible above any related base. -/
theorem table_mono {Key Row : Type} (related : Row → Row → Prop) (reflexive : ∀ row, related row row)
    {written base later : Key → Option Row}
    (extended : ∀ key row, base key = some row → ∃ last, later key = some last ∧ related row last)
    (key : Key) (row : Row) (seen : Overlay.table written base key = some row) :
    ∃ last, Overlay.table written later key = some last ∧ related row last := by
  rcases Overlay.table_cases seen with own | ⟨free, below⟩
  · exact ⟨row, Overlay.table_of_written own, reflexive row⟩
  · obtain ⟨last, found, holds⟩ := extended key row below
    exact ⟨last, Overlay.table_of_base free found, holds⟩

/-- A view grows with the committed tables below it. -/
theorem Fragment.mono {committed written later : Database} (fragment : Fragment committed written)
    (extended : Extends committed later) : Extends (written.onto committed) (written.onto later) where
  timeseries row member := by
    rcases (fragment.snapshot committed).mp member with own | ⟨below, free⟩
    · exact ⟨row, (fragment.snapshot later).mpr (.inl own), .refl row⟩
    · obtain ⟨kept, inside, label⟩ := extended.timeseries row below
      refine ⟨kept, (fragment.snapshot later).mpr (.inr ⟨inside, ?_⟩), label⟩
      obtain ⟨_, _, rfl⟩ := label
      exact free
  objectFiles row member := by
    rcases (fragment.manifest committed).mp member with own | ⟨below, free⟩
    · exact (fragment.manifest later).mpr (.inl own)
    · exact (fragment.manifest later).mpr (.inr ⟨extended.objectFiles row below, free⟩)
  blobs hash blob seen := by
    obtain ⟨_, found, rfl⟩ := table_mono (· = ·) (fun _ => rfl)
      (fun key row stored => ⟨row, extended.blobs key row stored, rfl⟩) hash blob seen
    exact found
  events identity row seen := by
    obtain ⟨_, found, rfl⟩ := table_mono (· = ·) (fun _ => rfl)
      (fun key row stored => ⟨row, extended.events key row stored, rfl⟩) identity row seen
    exact found
  entries key row seen := by
    obtain ⟨_, found, rfl⟩ := table_mono (· = ·) (fun _ => rfl)
      (fun key row stored => ⟨row, extended.entries key row stored, rfl⟩) key row seen
    exact found
  reference := table_mono (fun old last : ReferenceSnapshot => last.firstSeenAt = old.firstSeenAt)
    (fun _ => rfl) extended.reference
  versions := table_mono (fun old last : MarketOrderVersion => last.payload = old.payload ∧
    last.firstSeenAt = old.firstSeenAt) (fun _ => ⟨rfl, rfl⟩) extended.versions
  names := table_mono (fun old last : IdName => last.firstSeenAt = old.firstSeenAt) (fun _ => rfl)
    extended.names

/-- A row that one transaction sees is visible above its view to a transaction that holds no key of it. -/
theorem table_join {Key Row : Type} (related : Row → Row → Prop) (reflexive : ∀ row, related row row)
    {first second base : Key → Option Row} (apart : ∀ key row, second key = some row → first key = none)
    (extended : ∀ key row, base key = some row →
      ∃ last, Overlay.table second base key = some last ∧ related row last)
    (key : Key) (row : Row) (seen : Overlay.table first base key = some row) :
    ∃ last, Overlay.table second (Overlay.table first base) key = some last ∧ related row last := by
  cases own : second key with
  | none => exact ⟨row, Overlay.table_of_base own seen, reflexive row⟩
  | some other =>
      rcases Overlay.table_cases seen with held | ⟨_, below⟩
      · rw [apart key other own] at held
        cases held
      · obtain ⟨last, found, holds⟩ := extended key row below
        rw [Overlay.table_of_written own] at found
        cases found
        exact ⟨other, Overlay.table_of_written own, holds⟩

section Joined
variable {committed first second : Database} (one : Fragment committed first)
  (two : Fragment committed second)
include one two

/-- A row of the joined view is a row of one of the two views. -/
theorem joined_snapshot {row : TimeSeriesSnapshot}
    (member : row ∈ (second.onto (first.onto committed)).timeseries) :
    row ∈ second.timeseries ∨ row ∈ (first.onto committed).timeseries ∧
      (row ∈ first.timeseries ∨ row ∈ (second.onto committed).timeseries) := by
  rcases (two.snapshot _).mp member with own | ⟨below, free⟩
  · exact .inl own
  · refine .inr ⟨below, ?_⟩
    rcases (one.snapshot _).mp below with held | ⟨inside, _⟩
    · exact .inl held
    · exact .inr ((two.snapshot _).mpr (.inr ⟨inside, free⟩))

theorem joined_manifest {row : ArchiveObjectFile}
    (member : row ∈ (second.onto (first.onto committed)).objectFiles) :
    row ∈ second.objectFiles ∨ row ∈ (first.onto committed).objectFiles ∧
      (row ∈ first.objectFiles ∨ row ∈ (second.onto committed).objectFiles) := by
  rcases (two.manifest _).mp member with own | ⟨below, free⟩
  · exact .inl own
  · refine .inr ⟨below, ?_⟩
    rcases (one.manifest _).mp below with held | ⟨inside, _⟩
    · exact .inl held
    · exact .inr ((two.manifest _).mpr (.inr ⟨inside, free⟩))

variable (apart : Apart first second)
  (snapshotIds : ((second.onto committed).timeseries.map (·.id)).Nodup)
  (manifestIds : ((second.onto committed).objectFiles.map (·.id)).Nodup)
include apart snapshotIds manifestIds

/-- The joined view extends the view that was committed below it. -/
theorem joined_extends : Extends (first.onto committed) (second.onto (first.onto committed)) where
  timeseries row member := by
    cases held : second.holds (.snapshot row.id) with
    | false => exact ⟨row, (two.snapshot _).mpr (.inr ⟨member, held⟩), .refl row⟩
    | true =>
        obtain ⟨other, own, same⟩ := (holds_snapshot second row.id).mp held
        rcases (one.snapshot _).mp member with clash | ⟨below, _⟩
        · have taken := apart _ ((holds_snapshot first row.id).mpr ⟨row, clash, rfl⟩)
          rw [held] at taken
          cases taken
        · obtain ⟨kept, inside, label⟩ := two.extended.timeseries row below
          have equal : kept.id = other.id := by
            obtain ⟨_, _, rfl⟩ := label
            exact same.symm
          obtain rfl := List.inj_on_of_nodup_map snapshotIds inside
            ((two.snapshot committed).mpr (.inl own)) equal
          exact ⟨kept, (two.snapshot _).mpr (.inl own), label⟩
  objectFiles row member := by
    cases held : second.holds (.manifestId row.id) with
    | false => exact (two.manifest _).mpr (.inr ⟨member, held⟩)
    | true =>
        obtain ⟨other, own, same⟩ := (holds_manifestId second row.id).mp held
        rcases (one.manifest _).mp member with clash | ⟨below, _⟩
        · have taken := apart _ ((holds_manifestId first row.id).mpr ⟨row, clash, rfl⟩)
          rw [held] at taken
          cases taken
        · obtain rfl := List.inj_on_of_nodup_map manifestIds (two.extended.objectFiles row below)
            ((two.manifest committed).mpr (.inl own)) same.symm
          exact (two.manifest _).mpr (.inl own)
  blobs hash blob seen := by
    obtain ⟨_, found, rfl⟩ := table_join (· = ·) (fun _ => rfl)
      (fun key row => apart.symm.none (.blob key) rfl rfl)
      (fun key row stored => ⟨row, two.extended.blobs key row stored, rfl⟩) hash blob seen
    exact found
  events identity row seen := by
    obtain ⟨_, found, rfl⟩ := table_join (· = ·) (fun _ => rfl)
      (fun key row => apart.symm.none (.event key) rfl rfl)
      (fun key row stored => ⟨row, two.extended.events key row stored, rfl⟩) identity row seen
    exact found
  entries key row seen := by
    obtain ⟨_, found, rfl⟩ := table_join (· = ·) (fun _ => rfl)
      (fun key row => apart.symm.none (.entry key) rfl rfl)
      (fun key row stored => ⟨row, two.extended.entries key row stored, rfl⟩) key row seen
    exact found
  reference := table_join (fun old last : ReferenceSnapshot => last.firstSeenAt = old.firstSeenAt) (fun _ => rfl)
    (fun key row => apart.symm.none (.reference key) rfl rfl) two.extended.reference
  versions := table_join (fun old last : MarketOrderVersion => last.payload = old.payload ∧
    last.firstSeenAt = old.firstSeenAt) (fun _ => ⟨rfl, rfl⟩)
    (fun key row => apart.symm.none (.version key) rfl rfl) two.extended.versions
  names := table_join (fun old last : IdName => last.firstSeenAt = old.firstSeenAt) (fun _ => rfl)
    (fun key row => apart.symm.none (.name key) rfl rfl) two.extended.names

/-- The joined view is whole when both views are. -/
theorem joined_whole {libraries : Libraries} {files : PyStr → Option Bytes}
    (below : Whole libraries files (first.onto committed))
    (above : Whole libraries files (second.onto committed)) :
    Whole libraries files (second.onto (first.onto committed)) := by
  have lower := joined_extends one two apart snapshotIds manifestIds
  have upper := two.mono one.extended
  have own {row : TimeSeriesSnapshot} (member : row ∈ second.timeseries) :
      row ∈ (second.onto committed).timeseries := (two.snapshot _).mpr (.inl member)
  have ownFile {row : ArchiveObjectFile} (member : row ∈ second.objectFiles) :
      row ∈ (second.onto committed).objectFiles := (two.manifest _).mpr (.inl member)
  refine ⟨fun row member => ?_, fun row member => ?_, fun row member label => ?_,
    fun row member plain => ?_, ?_, fun row member other inside same => ?_, ?_,
    fun row member other inside same => ?_, fun row member => ?_,
    fun snapshotId orderId entry seen => ?_⟩
  · rcases joined_snapshot one two member with inSecond | ⟨inFirst, _⟩
    · exact above.fits row (own inSecond)
    · exact below.fits row inFirst
  · rcases joined_snapshot one two member with inSecond | ⟨inFirst, _⟩
    · exact above.keyed row (own inSecond)
    · exact below.keyed row inFirst
  · rcases joined_snapshot one two member with inSecond | ⟨inFirst, _⟩
    · exact (above.labelled row (own inSecond) label).mono upper
    · exact (below.labelled row inFirst label).mono lower
  · rcases joined_snapshot one two member with inSecond | ⟨inFirst, _⟩
    · exact above.unlabelled row (own inSecond) plain
    · exact below.unlabelled row inFirst plain
  · exact Overlay.nodup_rows TimeSeriesSnapshot.id two.snapshotIds below.snapshotIds
  · -- Two rows with one key are both in one view, or two transactions would hold the key.
    have mixed {row other : TimeSeriesSnapshot} (inSecond : row ∈ second.timeseries)
        (held : other ∈ first.timeseries) (same : row.idempotencyKey = other.idempotencyKey) : False := by
      obtain ⟨key, keyed⟩ : ∃ key, row.idempotencyKey = some key := ⟨_, above.keyed row (own inSecond)⟩
      have taken := apart (.snapshotKey key)
        ((holds_snapshotKey first key).mpr ⟨other, held, same.symm.trans keyed⟩)
      rw [(holds_snapshotKey second key).mpr ⟨row, inSecond, keyed⟩] at taken
      cases taken
    rcases joined_snapshot one two member with inSecond | ⟨inFirst, _⟩
    · rcases joined_snapshot one two inside with also | ⟨_, held | seen⟩
      · exact above.snapshotKeys row (own inSecond) other (own also) same
      · exact (mixed inSecond held same).elim
      · exact above.snapshotKeys row (own inSecond) other seen same
    · rcases joined_snapshot one two inside with also | ⟨seen, _⟩
      · rcases joined_snapshot one two member with inSecond | ⟨_, held | seen⟩
        · exact above.snapshotKeys row (own inSecond) other (own also) same
        · exact (mixed also held same.symm).elim
        · exact above.snapshotKeys row seen other (own also) same
      · exact below.snapshotKeys row inFirst other seen same
  · exact Overlay.nodup_rows ArchiveObjectFile.id two.manifestIds below.manifestIds
  · have mixed {row other : ArchiveObjectFile} (inSecond : row ∈ second.objectFiles)
        (held : other ∈ first.objectFiles) (same : row.contentHash = other.contentHash) : False := by
      have taken := apart (.manifest row.contentHash)
        ((holds_manifest first _).mpr ⟨other, held, same.symm⟩)
      rw [(holds_manifest second _).mpr ⟨row, inSecond, rfl⟩] at taken
      cases taken
    rcases joined_manifest one two member with inSecond | ⟨inFirst, _⟩
    · rcases joined_manifest one two inside with also | ⟨_, held | seen⟩
      · exact above.manifests row (ownFile inSecond) other (ownFile also) same
      · exact (mixed inSecond held same).elim
      · exact above.manifests row (ownFile inSecond) other seen same
    · rcases joined_manifest one two inside with also | ⟨seen, _⟩
      · rcases joined_manifest one two member with inSecond | ⟨_, held | seen⟩
        · exact above.manifests row (ownFile inSecond) other (ownFile also) same
        · exact (mixed also held same.symm).elim
        · exact above.manifests row seen other (ownFile also) same
      · exact below.manifests row inFirst other seen same
  · rcases joined_manifest one two member with inSecond | ⟨inFirst, _⟩
    · exact above.filed row (ownFile inSecond)
    · exact below.filed row inFirst
  · rcases Overlay.table_cases seen with inSecond | ⟨_, inFirst⟩
    · exact (above.entries snapshotId orderId entry (Overlay.table_of_written inSecond)).mono upper
    · exact (below.entries snapshotId orderId entry inFirst).mono lower

end Joined

end EveApiCache
