import EveApiCache.Proof.Archive.Shared.Join

/-!
This file shows that a transaction sees what a statement of it has written.
-/

namespace EveApiCache
open Effects

variable {libraries : Libraries}

@[simp] theorem touches_iff (statement : Statement) (key : RowKey) :
    statement.touches libraries key = true ↔ key ∈ statement.locks libraries := by
  simp [Statement.touches]

theorem touches_false (statement : Statement) (key : RowKey) :
    statement.touches libraries key = false ↔ key ∉ statement.locks libraries := by
  simp [Statement.touches]

/-- The written rows of the upserted tables restore the tables of the view. -/
theorem written_upserts {statement : Statement} {committed held : Database} {session : Session}
    {result : statement.Reply × Session} (view : session.database = held.onto committed)
    (plain : statement.commits = false)
    (moved : execute libraries statement session = some result) :
    Overlay.table (statement.written libraries committed held result.2.database).reference
        committed.reference = result.2.database.reference ∧
      Overlay.table (statement.written libraries committed held result.2.database).versions
        committed.versions = result.2.database.versions ∧
      Overlay.table (statement.written libraries committed held result.2.database).names
        committed.names = result.2.database.names := by
  have framed := execute_framed libraries statement session result moved
  have extended := execute_extends libraries statement session result moved
  obtain ⟨references, versions, names⟩ := execute_present libraries statement session result moved
  rw [view] at framed extended
  have upserted {Key Row : Type} {keys : Key → Bool} {written base after : Key → Option Row}
      (kept : ∀ key, keys key = false → after key = Overlay.table written base key)
      (locked : ∀ key, keys key = true → (after key).isSome = true)
      (remains : ∀ key row, Overlay.table written base key = some row →
        ∃ last, after key = some last) :
      Overlay.table (Overlay.updated keys written after) base = after := by
    refine Overlay.table_updated kept fun key chosen => chosen.elim (locked key) fun own => ?_
    obtain ⟨row, stored⟩ := Option.isSome_iff_exists.mp own
    exact Option.isSome_iff_exists.mpr (remains key row (Overlay.table_of_written stored))
  unfold Statement.written
  rw [if_neg (by rw [plain]; exact Bool.false_ne_true)]
  refine ⟨?_, ?_, ?_⟩
  · exact upserted (fun identity free => framed.reference identity ((touches_false _ _).mp free))
      (fun identity locked => references identity ((touches_iff _ _).mp locked))
      fun identity row stored => (extended.reference identity row stored).imp fun _ found => found.1
  · exact upserted (fun key free => framed.versions key ((touches_false _ _).mp free))
      (fun key locked => versions key ((touches_iff _ _).mp locked))
      fun key row stored => (extended.versions key row stored).imp fun _ found => found.1
  · exact upserted (fun key free => framed.names key ((touches_false _ _).mp free))
      (fun key locked => names key ((touches_iff _ _).mp locked))
      fun key row stored => (extended.names key row stored).imp fun _ found => found.1

/-- The written rows above the committed ones are the view after the statement. -/
theorem written_onto {statement : Statement} {committed held : Database} {session : Session}
    {result : statement.Reply × Session} (view : session.database = held.onto committed)
    (plain : statement.commits = false) (fragment : Fragment committed held)
    (numbered : IdsBelow committed committed.snapshotSequence committed.objectFileSequence)
    (moved : execute libraries statement session = some result)
    (snapshotIds : (result.2.database.timeseries.map (·.id)).Nodup)
    (manifestIds : (result.2.database.objectFiles.map (·.id)).Nodup) :
    (statement.written libraries committed held result.2.database).onto { committed with
      snapshotSequence := result.2.database.snapshotSequence
      objectFileSequence := result.2.database.objectFileSequence } = result.2.database := by
  have framed := execute_framed libraries statement session result moved
  have grown := execute_grown libraries statement session result moved
  have extended := fragment.extended.trans (view ▸ execute_extends libraries statement session result moved)
  obtain ⟨reference, versions, names⟩ := written_upserts view plain moved
  rw [view] at framed grown
  have timeseries : Overlay.rows (·.id) (Overlay.addedRows (·.id)
      (fun row => held.holds (.snapshot row.id) || statement.touches libraries (.snapshot row.id))
      committed.timeseries result.2.database.timeseries) committed.timeseries =
        result.2.database.timeseries := by
    obtain ⟨more, rows, _, _⟩ := grown.rows
    refine Overlay.rows_addedRows TimeSeriesSnapshot.id ?_ snapshotIds fun row member other inside => ?_
    · have order : (held.onto committed).timeseries.map (·.id) <+: result.2.database.timeseries.map (·.id) := by
        rw [relabelled_ids rows, List.map_append]
        exact List.prefix_append _ _
      exact List.IsPrefix.trans ⟨_, (Overlay.map_rows TimeSeriesSnapshot.id _ _).symm⟩ order
    · obtain ⟨free, untouched⟩ := Bool.or_eq_false_iff.mp other
      rcases framed.timeseries row member with old | ⟨locked, _⟩ | ⟨fresh, _⟩
      · rcases (fragment.snapshot _).mp old with own | ⟨below, _⟩
        · rw [(holds_snapshot held row.id).mpr ⟨row, own, rfl⟩] at free
          cases free
        · exact below
      · exact absurd locked ((touches_false _ _).mp untouched)
      · obtain ⟨base, present, same⟩ := List.mem_map.mp inside
        have small := numbered.snapshots base present
        change committed.snapshotSequence ≤ row.id at fresh
        omega
  have objectFiles : Overlay.rows (·.id) (Overlay.addedRows (·.id) (fun _ => false)
      committed.objectFiles result.2.database.objectFiles) committed.objectFiles =
        result.2.database.objectFiles := by
    obtain ⟨more, rows, _, _⟩ := framed.objectFiles
    refine Overlay.rows_addedRows ArchiveObjectFile.id ?_ manifestIds fun row member _ inside => ?_
    · have order : (held.onto committed).objectFiles.map (·.id) <+:
          result.2.database.objectFiles.map (·.id) := by
        rw [rows, List.map_append]
        exact List.prefix_append _ _
      exact List.IsPrefix.trans ⟨_, (Overlay.map_rows ArchiveObjectFile.id _ _).symm⟩ order
    · obtain ⟨base, present, same⟩ := List.mem_map.mp inside
      obtain rfl := List.inj_on_of_nodup_map manifestIds (extended.objectFiles base present) member same
      exact present
  have blobs := Overlay.table_added extended.blobs
  have events := Overlay.table_added extended.events
  have entries := Overlay.table_added extended.entries
  unfold Statement.written at reference versions names ⊢
  rw [if_neg (by rw [plain]; exact Bool.false_ne_true)] at reference versions names ⊢
  unfold Database.onto
  simp only [timeseries, objectFiles, blobs, events, entries]
  simp only [reference, versions, names]

/-- The rows of a transaction keep distinct ids when it executes a statement. -/
theorem written_fragment {statement : Statement} {committed held : Database} {session : Session}
    {result : statement.Reply × Session} (view : session.database = held.onto committed)
    (plain : statement.commits = false) (fragment : Fragment committed held)
    (numbered : IdsBelow committed committed.snapshotSequence committed.objectFileSequence)
    (moved : execute libraries statement session = some result)
    (snapshotIds : (result.2.database.timeseries.map (·.id)).Nodup)
    (manifestIds : (result.2.database.objectFiles.map (·.id)).Nodup) :
    Fragment { committed with
      snapshotSequence := result.2.database.snapshotSequence
      objectFileSequence := result.2.database.objectFileSequence }
        (statement.written libraries committed held result.2.database) := by
  refine ⟨?_, ?_, ?_⟩
  · unfold Statement.written
    rw [if_neg (by rw [plain]; exact Bool.false_ne_true)]
    exact snapshotIds.sublist (List.filter_sublist.map _)
  · unfold Statement.written
    rw [if_neg (by rw [plain]; exact Bool.false_ne_true)]
    exact manifestIds.sublist (List.filter_sublist.map _)
  · rw [written_onto view plain fragment numbered moved snapshotIds manifestIds]
    have extended := fragment.extended.trans
      (view ▸ execute_extends libraries statement session result moved)
    exact { extended with toKept := { extended.toKept with } }

/-- A written row is a row of the view. -/
theorem written_snapshot {statement : Statement} {committed held after : Database}
    {row : TimeSeriesSnapshot}
    (own : row ∈ (statement.written libraries committed held after).timeseries) :
    row ∈ after.timeseries ∧ (held.holds (.snapshot row.id) = true ∨
      .snapshot row.id ∈ statement.locks libraries ∨ ∀ old ∈ committed.timeseries, old.id ≠ row.id) := by
  unfold Statement.written at own
  split_ifs at own
  · cases own
  · obtain ⟨member, chosen⟩ := List.mem_filter.mp own
    refine ⟨member, ?_⟩
    simpa [or_assoc] using chosen

theorem written_manifest {statement : Statement} {committed held after : Database}
    {row : ArchiveObjectFile}
    (own : row ∈ (statement.written libraries committed held after).objectFiles) :
    row ∈ after.objectFiles ∧ ∀ old ∈ committed.objectFiles, old.id ≠ row.id := by
  unfold Statement.written at own
  split_ifs at own
  · cases own
  · obtain ⟨member, chosen⟩ := List.mem_filter.mp own
    refine ⟨member, ?_⟩
    simpa using chosen

/-- A key of a plain table is held after a statement when it was held before or the statement locks it. -/
theorem written_holds {statement : Statement} {committed held after : Database} {key : RowKey}
    (framed : Framed libraries statement (held.onto committed) after)
    (own : (statement.written libraries committed held after).holds key = true) :
    held.holds key = true ∨ key ∈ statement.locks libraries ∨ (∃ id, key = .snapshot id) ∨
      (∃ hash, key = .snapshotKey hash) ∨ (∃ id, key = .manifestId id) ∨ ∃ hash, key = .manifest hash := by
  unfold Statement.written at own
  split_ifs at own
  · cases key <;> simp [Database.holds, Database.empty] at own
  · cases key with
    | snapshot id => exact .inr (.inr (.inl ⟨id, rfl⟩))
    | snapshotKey hash => exact .inr (.inr (.inr (.inl ⟨hash, rfl⟩)))
    | manifestId id => exact .inr (.inr (.inr (.inr (.inl ⟨id, rfl⟩))))
    | manifest hash => exact .inr (.inr (.inr (.inr (.inr ⟨hash, rfl⟩))))
    | blob hash =>
        exact (Overlay.added_cases own).imp_right fun changed =>
          .inl (not_not.mp fun untouched => changed (framed.blobs hash untouched))
    | event identity =>
        exact (Overlay.added_cases own).imp_right fun changed =>
          .inl (not_not.mp fun untouched => changed (framed.events identity untouched))
    | entry key =>
        exact (Overlay.added_cases own).imp_right fun changed =>
          .inl (not_not.mp fun untouched => changed (framed.entries key untouched))
    | reference identity =>
        have own : (Overlay.updated (fun other => statement.touches libraries (.reference other)) held.reference
          after.reference identity).isSome = true := own
        exact (Overlay.updated_cases own).symm.imp_right fun locked => .inl ((touches_iff _ _).mp locked)
    | version key =>
        have own : (Overlay.updated (fun other => statement.touches libraries (.version other)) held.versions
          after.versions key).isSome = true := own
        exact (Overlay.updated_cases own).symm.imp_right fun locked => .inl ((touches_iff _ _).mp locked)
    | name key =>
        have own : (Overlay.updated (fun other => statement.touches libraries (.name other)) held.names
          after.names key).isSome = true := own
        exact (Overlay.updated_cases own).symm.imp_right fun locked => .inl ((touches_iff _ _).mp locked)

/-- A statement that waits for no other transaction keeps its own transaction apart from it. -/
theorem written_apart {statement : Statement} {committed held other : Database} {session : Session}
    {result : statement.Reply × Session} {files : PyStr → Option Bytes}
    (view : session.database = held.onto committed)
    (fragment : Fragment committed held) (others : Fragment committed other)
    (whole : Whole libraries files (other.onto committed))
    (numbered : IdsBelow other committed.snapshotSequence committed.objectFileSequence)
    (moved : execute libraries statement session = some result)
    (free : ∀ key ∈ statement.locks libraries, other.holds key = false)
    (apart : Apart held other) :
    Apart (statement.written libraries committed held result.2.database) other := by
  have framed := view ▸ execute_framed libraries statement session result moved
  intro key own
  refine Bool.eq_false_of_not_eq_true fun taken => ?_
  have unheld : held.holds key ≠ true := fun held => by
    rw [apart key held] at taken
    cases taken
  have unlocked : key ∉ statement.locks libraries := fun locked => by
    rw [free key locked] at taken
    cases taken
  rcases written_holds framed own with held | locked | ⟨id, rfl⟩ | ⟨hash, rfl⟩ | ⟨id, rfl⟩ | ⟨hash, rfl⟩
  · exact unheld held
  · exact unlocked locked
  · obtain ⟨row, written, rfl⟩ := (holds_snapshot _ _).mp own
    obtain ⟨member, held | locked | fresh⟩ := written_snapshot written
    · exact unheld held
    · exact unlocked locked
    · rcases framed.timeseries row member with old | ⟨locked, _⟩ | ⟨new, _⟩
      · rcases (fragment.snapshot _).mp old with inside | ⟨below, _⟩
        · exact unheld ((holds_snapshot _ _).mpr ⟨row, inside, rfl⟩)
        · exact fresh row below rfl
      · exact unlocked locked
      · obtain ⟨row', present, same⟩ := (holds_snapshot _ _).mp taken
        have small := numbered.snapshots row' present
        change committed.snapshotSequence ≤ row.id at new
        omega
  · obtain ⟨row, written, keyed⟩ := (holds_snapshotKey _ _).mp own
    obtain ⟨row', present, again⟩ := (holds_snapshotKey _ _).mp taken
    -- A committed row with this key belongs to the view of the other transaction as well.
    have committedRow (old : TimeSeriesSnapshot) (below : old ∈ committed.timeseries)
        (same : old.idempotencyKey = some hash) (untaken : other.holds (.snapshot old.id) = false) :
        False := by
      have equal := whole.snapshotKeys old ((others.snapshot _).mpr (.inr ⟨below, untaken⟩)) row'
        ((others.snapshot _).mpr (.inl present)) (same.trans again.symm)
      rw [equal, (holds_snapshot _ _).mpr ⟨row', present, rfl⟩] at untaken
      cases untaken
    obtain ⟨member, reason⟩ := written_snapshot written
    have visible (old : TimeSeriesSnapshot) (seen : old ∈ (held.onto committed).timeseries)
        (label : Relabelled old row) (locked : .snapshot row.id ∈ statement.locks libraries) : False := by
      obtain ⟨_, _, rfl⟩ := label
      rcases (fragment.snapshot _).mp seen with inside | ⟨below, _⟩
      · exact unheld ((holds_snapshotKey _ _).mpr ⟨old, inside, keyed⟩)
      · exact committedRow old below keyed (free _ locked)
    rcases framed.timeseries row member with old | ⟨locked, old, seen, label⟩ | ⟨_, locked⟩
    · rcases reason with holding | locked | fresh
      · rcases (fragment.snapshot _).mp old with inside | ⟨_, released⟩
        · exact unheld ((holds_snapshotKey _ _).mpr ⟨row, inside, keyed⟩)
        · rw [holding] at released
          cases released
      · exact visible row old (.refl row) locked
      · rcases (fragment.snapshot _).mp old with inside | ⟨below, _⟩
        · exact unheld ((holds_snapshotKey _ _).mpr ⟨row, inside, keyed⟩)
        · exact fresh row below rfl
    · exact visible old seen label locked
    · exact unlocked (locked hash keyed)
  · obtain ⟨row, written, rfl⟩ := (holds_manifestId _ _).mp own
    obtain ⟨member, fresh⟩ := written_manifest written
    obtain ⟨more, rows, _, new⟩ := framed.objectFiles
    rw [rows] at member
    rcases List.mem_append.mp member with old | inMore
    · rcases (fragment.manifest _).mp old with inside | ⟨below, _⟩
      · exact unheld ((holds_manifestId _ _).mpr ⟨row, inside, rfl⟩)
      · exact fresh row below rfl
    · obtain ⟨row', present, same⟩ := (holds_manifestId _ _).mp taken
      have small := numbered.manifests row' present
      have large := (new row inMore).1
      change committed.objectFileSequence ≤ row.id at large
      omega
  · obtain ⟨row, written, rfl⟩ := (holds_manifest _ _).mp own
    obtain ⟨member, fresh⟩ := written_manifest written
    obtain ⟨more, rows, _, new⟩ := framed.objectFiles
    rw [rows] at member
    rcases List.mem_append.mp member with old | inMore
    · rcases (fragment.manifest _).mp old with inside | ⟨below, _⟩
      · exact unheld ((holds_manifest _ _).mpr ⟨row, inside, rfl⟩)
      · exact fresh row below rfl
    · exact unlocked (new row inMore).2.2

/-- The ids of the written rows lie below the sequences. -/
theorem written_numbered {statement : Statement} {committed held : Database} {session : Session}
    {result : statement.Reply × Session} (view : session.database = held.onto committed)
    (distinct : (session.database.timeseries.map (·.id)).Nodup)
    (numbered : IdsBelow session.database committed.snapshotSequence committed.objectFileSequence)
    (moved : execute libraries statement session = some result) :
    IdsBelow result.2.database result.2.database.snapshotSequence
      result.2.database.objectFileSequence := by
  have framed := execute_framed libraries statement session result moved
  have grown := execute_grown libraries statement session result moved
  have sequences : session.database.snapshotSequence = committed.snapshotSequence ∧
      session.database.objectFileSequence = committed.objectFileSequence := by
    rw [view]
    exact ⟨rfl, rfl⟩
  refine ⟨?_, fun row member => ?_⟩
  · exact (Database.Serial.grown ⟨distinct, sequences.1 ▸ numbered.snapshots⟩ grown).fresh
  · obtain ⟨more, rows, _, new⟩ := framed.objectFiles
    rw [rows] at member
    rcases List.mem_append.mp member with old | inMore
    · have small := numbered.manifests row old
      have next := framed.objectFileSequence
      omega
    · exact (new row inMore).2.1

end EveApiCache
