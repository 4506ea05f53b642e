import EveApiCache.Proof.Archive.Idempotent

/-!
This file shows that a retry of `write_snapshot` within its minute is idempotent.
-/

namespace EveApiCache
open Effects StepMachine

/-- The later database has grown without a new label. -/
structure Unlabelled (before after : Database) : Prop extends Grown before after where
  old : ∀ row ∈ after.timeseries, row ∈ before.timeseries ∨ before.snapshotSequence ≤ row.id

theorem Unlabelled.refl (database : Database) : Unlabelled database database where
  toGrown := .refl database
  old _ member := .inl member

theorem Unlabelled.trans {first second third : Database} (one : Unlabelled first second)
    (two : Unlabelled second third) : Unlabelled first third where
  toGrown := one.toGrown.trans two.toGrown
  old row member := by
    rcases two.old row member with inside | new
    · exact one.old row inside
    · exact .inr (one.sequence.trans new)

/-- These statements set no label. -/
def Statement.Unlabelling : Statement → Prop
  | .labelParquet _ _ => False
  | _ => True

theorem Statement.Prepares.unlabelling {identity : Identity} {contentHash : PyStr}
    {statement : Statement} (prepared : statement.Prepares identity contentHash) :
    statement.Unlabelling := by
  cases statement <;> first | exact prepared.elim | trivial

variable (libraries : Libraries)

theorem execute_unlabelled (statement : Statement) (session : Session)
    (result : statement.Reply × Session) (unlabelling : statement.Unlabelling)
    (moved : execute libraries statement session = some result) :
    Unlabelled session.database result.2.database := by
  refine ⟨execute_grown libraries statement session result moved, ?_⟩
  cases statement with
  | labelParquet => exact unlabelling.elim
  | insertTimeseries row =>
      simp only [execute] at moved
      split_ifs at moved
      all_goals
        cases moved
        intro other member
      · exact .inl member
      · rcases List.mem_append.mp member with old | new
        · exact .inl old
        · rw [List.mem_singleton.mp new]
          exact .inr (Nat.le_refl _)
  | _ =>
      rw [execute_timeseries libraries _ session result trivial moved]
      exact fun _ member => .inl member

/-- A completed program without a label sets none. -/
theorem eval_unlabelled {A : Type} {program : Transaction A} {start final : Session} {value : A}
    (only : program.Only Statement.Unlabelling)
    (completed : program.eval (execute libraries) start = some (value, final)) :
    Unlabelled start.database final.database :=
  (Program.ensures_of_only (execute libraries)
    (fun state => Unlabelled start.database state.database)
    (fun statement state result unlabelling grown moved =>
      grown.trans (execute_unlabelled libraries statement state result unlabelling moved))
    only (.refl start.database)).eval completed

/-- These statements record a snapshot. -/
def Statement.Records : Statement → Prop
  | .insertBlob _ _ => True
  | .insertTimeseries _ => True
  | .selectTimeseriesId _ => True
  | _ => False

theorem recordSnapshot_records (now : Datetime) (observed : Observation) :
    (recordSnapshot libraries now observed).Only Statement.Records := by
  refine (call_only _ _ trivial).bind fun _ => Program.Only.bind ?_ fun region =>
    (call_only _ _ trivial).bind fun inserted => Program.Only.bind ?_ fun id => trivial
  · unfold marketOrdersRegionId
    split
    · trivial
    · exact orFail_only _ _
  · cases inserted with
    | some id => trivial
    | none => exact call_only _ _ trivial

/-- The snapshot of a key carries the label of the manifest of a content hash, and both are there. -/
structure Attached (key contentHash : PyStr) (snapshotId manifestId : Nat) (database : Database) :
    Prop where
  serial : database.Serial
  snapshot : database.snapshotOf key = some snapshotId
  manifest : database.manifestOf contentHash = some manifestId
  label : ∀ row ∈ database.timeseries, row.id = snapshotId →
    row.parquetManifestId = some manifestId ∧ row.payloadStorage = .marketParquetDelta

theorem Attached.labelled {key contentHash : PyStr} {id manifest : Nat} {database : Database}
    (attached : Attached key contentHash id manifest database) : database.Labelled key contentHash := by
  intro other found snapshot known
  obtain rfl := Option.some.inj (attached.snapshot.symm.trans snapshot)
  obtain rfl := Option.some.inj (attached.manifest.symm.trans known)
  exact attached.label

theorem Database.Serial.snapshotOf_lt {database : Database} (serial : database.Serial) {key : PyStr}
    {id : Nat} (found : database.snapshotOf key = some id) : id < database.snapshotSequence := by
  obtain ⟨row, search, rfl⟩ := Option.map_eq_some_iff.mp found
  exact serial.fresh row (List.mem_of_find?_eq_some search)

/-- Two keys of one snapshot are the same. -/
theorem Database.Serial.key_eq {database : Database} (serial : database.Serial) {key other : PyStr}
    {id : Nat} (found : database.snapshotOf key = some id)
    (also : database.snapshotOf other = some id) : key = other := by
  obtain ⟨row, search, rfl⟩ := Option.map_eq_some_iff.mp found
  obtain ⟨second, again, same⟩ := Option.map_eq_some_iff.mp also
  obtain rfl := List.inj_on_of_nodup_map serial.distinct (List.mem_of_find?_eq_some again)
    (List.mem_of_find?_eq_some search) same
  have one : second.idempotencyKey = some key := by simpa using List.find?_some search
  have two : second.idempotencyKey = some other := by simpa using List.find?_some again
  exact Option.some.inj (one.symm.trans two)

/-- A label is only changed by another label. -/
theorem Unlabelled.attached {before after : Database} {key contentHash : PyStr} {id manifest : Nat}
    (unlabelled : Unlabelled before after) (attached : Attached key contentHash id manifest before) :
    Attached key contentHash id manifest after where
  serial := attached.serial.grown unlabelled.toGrown
  snapshot := unlabelled.toGrown.snapshotOf attached.snapshot
  manifest := unlabelled.toGrown.manifestOf attached.manifest
  label row member same := by
    rcases unlabelled.old row member with inside | new
    · exact attached.label row inside same
    · have known := attached.serial.snapshotOf_lt attached.snapshot
      omega

/-- A label marks its snapshot and leaves the others. -/
theorem labelParquet_rows {snapshotId manifestId : Nat} {session final : Session}
    (moved : execute libraries (.labelParquet snapshotId manifestId) session = some ((), final)) :
    ∀ row ∈ final.database.timeseries,
      (row.id = snapshotId ∧ row.parquetManifestId = some manifestId ∧
        row.payloadStorage = .marketParquetDelta) ∨
      row.id ≠ snapshotId ∧ row ∈ session.database.timeseries := by
  simp only [execute] at moved
  split_ifs at moved
  cases moved
  intro row member
  obtain ⟨old, inside, rfl⟩ := List.mem_map.mp member
  split_ifs with same
  · exact .inl ⟨same, rfl, rfl⟩
  · exact .inr ⟨same, inside⟩

variable (settings : Settings)

/-- A completed time-series call records its snapshot, and it sets at most the label of its own. -/
theorem writeTimeSeries_labels {now : Datetime} {observed : Observation} {start final : Session}
    (completed : (writeTimeSeries libraries settings now observed).eval (execute libraries) start =
      some ((), final)) :
    ∃ (id : Nat) (middle : Session), Unlabelled start.database middle.database ∧
      middle.database.snapshotOf (timeseriesIdempotencyKey libraries observed.identity
        observed.contentHash now) = some id ∧
      (¬ Labels libraries settings observed.identity.path ∧ final = middle ∨
        ∃ manifest, middle.database.manifestOf observed.contentHash = some manifest ∧
          execute libraries (.labelParquet id manifest) middle = some ((), final)) := by
  obtain ⟨⟨recorded, first⟩, recording, exports⟩ :=
    Option.bind_eq_some_iff.mp ((Program.eval_bind _ _ _).symm.trans completed)
  have early := eval_unlabelled libraries (Only.weaken (recordSnapshot_records libraries now observed)
    fun statement records => by cases statement <;> first | exact records.elim | trivial) recording
  have records := @recordSnapshot_repeats libraries False _ observed.contentHash now now rfl observed rfl
  obtain ⟨⟨present, found⟩, path⟩ := records.promised trivial recording fun impossible => impossible.elim
  obtain ⟨id, same⟩ := Option.isSome_iff_exists.mp present
  rw [same] at found
  change (storeParquet libraries settings now observed recorded.1 recorded.2).eval (execute libraries)
    first = some ((), final) at exports
  rw [same] at exports
  unfold storeParquet at exports
  split at exports
  · rename_i other region pyarrow chosen parsed available
    cases chosen
    split_ifs at exports with enabled
    · obtain ⟨⟨manifestId, middle⟩, exporting, labelling⟩ :=
        Option.bind_eq_some_iff.mp ((Program.eval_bind _ _ _).symm.trans exports)
      have late := eval_unlabelled libraries (Only.weaken (writeMarketOrdersParquet_prepares libraries
        settings pyarrow _ region observed.identity observed.contentHash observed.payload now)
          fun _ prepared => prepared.unlabelling) exporting
      have stores := @writeMarketOrdersParquet_repeats libraries False [] observed.contentHash settings
        pyarrow id region observed.identity observed.payload now now
      obtain ⟨manifest, rfl, known⟩ := stores.promised trivial exporting fun impossible =>
        impossible.elim
      exact ⟨_, middle, early.trans late, late.toGrown.snapshotOf found, .inr ⟨manifest, known,
        (Program.eval_call _ _).symm.trans labelling⟩⟩
    · cases exports
      exact ⟨_, final, early, found, .inl ⟨fun labels => enabled labels.2.2, rfl⟩⟩
  · rename_i missing
    cases exports
    refine ⟨id, final, early, found, .inl ⟨fun labels => ?_, rfl⟩⟩
    obtain ⟨region, parsed⟩ := Option.isSome_iff_exists.mp (path.trans labels.1)
    obtain ⟨pyarrow, available⟩ := Option.isSome_iff_exists.mp labels.2.1
    exact missing id region pyarrow rfl parsed available

/-- A completed call for such a path attaches its snapshot to the manifest of its content hash. -/
theorem writeTimeSeries_attaches {now : Datetime} {observed : Observation} {start final : Session}
    (serial : start.database.Serial) (labels : Labels libraries settings observed.identity.path)
    (completed : (writeTimeSeries libraries settings now observed).eval (execute libraries) start =
      some ((), final)) :
    ∃ snapshotId manifestId, Attached (timeseriesIdempotencyKey libraries observed.identity
      observed.contentHash now) observed.contentHash snapshotId manifestId final.database := by
  obtain ⟨snapshotId, middle, unlabelled, found, ⟨without, _⟩ | ⟨manifestId, known, labelling⟩⟩ :=
    writeTimeSeries_labels libraries settings completed
  · exact absurd labels without
  · have grown := execute_grown libraries _ _ _ labelling
    refine ⟨snapshotId, manifestId, (serial.grown unlabelled.toGrown).grown grown,
      grown.snapshotOf found, grown.manifestOf known, fun row member same => ?_⟩
    rcases labelParquet_rows libraries labelling row member with ⟨_, label⟩ | ⟨other, _⟩
    · exact label
    · exact absurd same other

/-- Another completed call leaves the label, because it has another key or the same manifest. -/
theorem writeTimeSeries_attached (injective : Function.Injective libraries.sha256)
    {now next : Datetime} {observed other : Observation} {snapshotId manifestId : Nat}
    {start final : Session} (fits : observed.identity.fits = true)
    (attached : Attached (timeseriesIdempotencyKey libraries observed.identity observed.contentHash now)
      observed.contentHash snapshotId manifestId start.database)
    (completed : (writeTimeSeries libraries settings next other).eval (execute libraries) start =
      some ((), final)) :
    Attached (timeseriesIdempotencyKey libraries observed.identity observed.contentHash now)
      observed.contentHash snapshotId manifestId final.database := by
  have fitsOther := ((writeTimeSeries_added libraries settings next other start).eval completed).1
  obtain ⟨otherId, middle, unlabelled, found, ⟨_, rfl⟩ | ⟨other, known, labelling⟩⟩ :=
    writeTimeSeries_labels libraries settings completed
  · exact unlabelled.attached attached
  · have kept := unlabelled.attached attached
    have grown := execute_grown libraries _ _ _ labelling
    refine ⟨kept.serial.grown grown, grown.snapshotOf kept.snapshot, grown.manifestOf kept.manifest,
      fun row member same => ?_⟩
    rcases labelParquet_rows libraries labelling row member with ⟨equal, label⟩ | ⟨_, inside⟩
    · obtain rfl : otherId = snapshotId := equal.symm.trans same
      obtain ⟨_, _, hash⟩ := timeseriesIdempotencyKey_injective libraries injective fits fitsOther
        (kept.serial.key_eq kept.snapshot found)
      rw [← hash, kept.manifest] at known
      obtain rfl := Option.some.inj known
      exact label
    · exact kept.label row inside same

/-- This is `write_snapshot` up to its commit. -/
def snapshotBody (now : Datetime) (observed : Observation) : Transaction Unit :=
  match observed.archiveType with
  | .none => .done ()
  | .timeSeries => writeTimeSeries libraries settings now observed
  | .reference => do
      let payload ← orFail (Json.loads libraries.floatRepr observed.payload)
      Program.call (I := archiveInterface) (.upsertReference observed.identity
        { contentHash := observed.contentHash
          payload := payload
          firstSeenAt := now
          lastUpdatedAt := now
          esiExpiresAt := observed.expiresAt
          etag := observed.etag
          httpStatus := observed.httpStatus })
  | .event => do
      let payload ← orFail (Json.loads libraries.floatRepr observed.payload)
      Program.call (I := archiveInterface) (.insertEvent observed.identity
        { contentHash := observed.contentHash
          payload := payload
          fetchedAt := now
          etag := observed.etag
          httpStatus := observed.httpStatus })

theorem writeSnapshot_body (now : Datetime) {observed : Observation}
    (stored : observed.archiveType ≠ .none) : writeSnapshot libraries settings now observed =
      snapshotBody libraries settings now observed >>= fun _ =>
        Program.call (I := archiveInterface) .commit := by
  unfold writeSnapshot snapshotBody
  cases archiveType : observed.archiveType with
  | none => exact absurd archiveType stored
  | timeSeries => rfl
  | reference => exact (Program.bind_assoc _ _ _).symm
  | event => exact (Program.bind_assoc _ _ _).symm

/-- These statements commit nothing. -/
def Statement.Working : Statement → Prop
  | .commit => False
  | _ => True

theorem snapshotBody_working (now : Datetime) (observed : Observation) :
    (snapshotBody libraries settings now observed).Only Statement.Working := by
  unfold snapshotBody
  cases observed.archiveType with
  | none => trivial
  | timeSeries =>
      refine Program.Only.bind (Only.weaken (recordSnapshot_records libraries now observed)
        fun statement records => ?_) fun recorded => Only.weaken (storeParquet_exports libraries settings
          now observed recorded.1 recorded.2) fun statement exported => ?_
      · cases statement <;> first | exact records.elim | trivial
      · cases statement <;> first | exact exported.elim | trivial
  | reference | event => exact (orFail_only _ _).bind fun _ => call_only _ _ trivial

/-- A body that breaks off has committed nothing. -/
theorem ensures_uncommitted {A : Type} {program : Transaction A} {session : Session}
    (working : program.Only Statement.Working) :
    program.Ensures (execute libraries) (fun _ final => final.committed = session.committed)
      (fun final => final.committed = session.committed) session := by
  refine Program.ensures_of_only (execute libraries) (fun state => state.committed = session.committed)
    (fun statement state result working same moved => ?_) working rfl
  rcases execute_committed libraries statement state result moved with kept | ⟨rfl, _⟩
  · exact kept.trans same
  · exact working.elim

/-- A call that fails leaves the rows of the archive. -/
theorem transact_failed {now : Datetime} {observed : Observation} {fault : Option Nat}
    {session next : Session} (idle : session.Idle)
    (failed : transact libraries fault (writeSnapshot libraries settings now observed) session =
      (false, next)) : Untouched session.committed next.committed := by
  have uncommitted : (writeSnapshot libraries settings now observed).Ensures (execute libraries)
      (fun _ _ => True) (fun final => final.committed = session.committed) session := by
    by_cases stored : observed.archiveType = .none
    · unfold writeSnapshot
      rw [stored]
      trivial
    · rw [writeSnapshot_body libraries settings now stored]
      exact (Program.ensures_bind _ _ _).mpr (Program.Ensures.mono (ensures_uncommitted libraries
        (snapshotBody_working libraries settings now observed))
        (fun _ final same => ⟨same, fun _ _ => trivial⟩) fun _ same => same)
  have ended := Program.run_of_ensures fault _ session
    (uncommitted.and (ensures_grown libraries _ session idle.grown))
  unfold transact at failed
  split at failed
  · cases failed
  · rename_i final same
    cases failed
    rw [same] at ended
    obtain ⟨kept, grown⟩ := ended
    have restored : final.rollback.committed = { session.committed with
        snapshotSequence := final.database.snapshotSequence
        objectFileSequence := final.database.objectFileSequence } := by
      rw [← kept]
      rfl
    rw [restored]
    exact ⟨rfl, rfl, rfl, rfl, rfl, rfl, rfl, fun _ => rfl, grown.working.sequence⟩

/-- A call that succeeds commits what its body has made. -/
theorem transact_completed {now : Datetime} {observed : Observation} {fault : Option Nat}
    {session next : Session} (idle : session.Idle)
    (succeeded : transact libraries fault (writeSnapshot libraries settings now observed) session =
      (true, next)) :
    ∃ final, (snapshotBody libraries settings now observed).eval (execute libraries) session =
      some ((), final) ∧ next.committed = final.database := by
  obtain ⟨value, ended, completed, rfl⟩ := transact_succeeded libraries succeeded
  by_cases stored : observed.archiveType = .none
  · unfold writeSnapshot at completed
    rw [stored] at completed
    cases completed
    refine ⟨session, ?_, ?_⟩
    · unfold snapshotBody
      rw [stored]
      rfl
    · unfold Session.rollback
      rw [show session.database = session.committed from idle]
  · rw [writeSnapshot_body libraries settings now stored] at completed
    obtain ⟨⟨_, final⟩, body, committed⟩ :=
      Option.bind_eq_some_iff.mp ((Program.eval_bind _ _ _).symm.trans completed)
    cases committed
    exact ⟨final, body, rfl⟩

/-- A body that completes makes its call succeed. -/
theorem transact_body {now : Datetime} {observed : Observation} {session final : Session}
    (completed : (snapshotBody libraries settings now observed).eval (execute libraries) session =
      some ((), final)) :
    (transact libraries none (writeSnapshot libraries settings now observed) session).1 = true := by
  have evaluated : ∃ last, (writeSnapshot libraries settings now observed).eval (execute libraries)
      session = some ((), last) := by
    by_cases stored : observed.archiveType = .none
    · unfold writeSnapshot
      rw [stored]
      exact ⟨session, rfl⟩
    · rw [writeSnapshot_body libraries settings now stored]
      refine ⟨{ final with committed := final.database }, (Program.eval_bind _ _ _).trans ?_⟩
      rw [completed]
      rfl
  obtain ⟨last, evaluated⟩ := evaluated
  rw [transact_of_eval libraries evaluated]

/-- A call leaves the label of a snapshot, because it fails, sets none or sets it again. -/
theorem transact_attached (injective : Function.Injective libraries.sha256) {now : Datetime}
    {observed : Observation} {snapshotId manifestId : Nat} {session : Session} (idle : session.Idle)
    (fits : observed.identity.fits = true)
    (attached : Attached (timeseriesIdempotencyKey libraries observed.identity observed.contentHash now)
      observed.contentHash snapshotId manifestId session.committed) (call : SnapshotCall) :
    Attached (timeseriesIdempotencyKey libraries observed.identity observed.contentHash now)
      observed.contentHash snapshotId manifestId
      (call.transact libraries settings session).2.committed := by
  cases ended : call.transact libraries settings session with
  | mk succeeded next =>
      cases succeeded with
      | false =>
          have touched := transact_failed libraries settings idle ended
          refine Unlabelled.attached ⟨touched.grown, fun row member => .inl ?_⟩ attached
          exact touched.timeseries ▸ member
      | true =>
          obtain ⟨final, completed, same⟩ := transact_completed libraries settings idle ended
          rw [← show session.database = session.committed from idle] at attached
          rw [same]
          unfold snapshotBody at completed
          cases archiveType : call.observed.archiveType with
          | none =>
              rw [archiveType] at completed
              cases completed
              exact attached
          | timeSeries =>
              rw [archiveType] at completed
              exact writeTimeSeries_attached libraries settings injective fits attached completed
          | reference | event =>
              rw [archiveType] at completed
              refine Unlabelled.attached (eval_unlabelled libraries ?_ completed) attached
              exact (orFail_only _ _).bind fun _ => call_only _ _ trivial

/-- Some calls let the archive grow and leave the session idle. -/
theorem transactAll_grown (calls : List SnapshotCall) (session : Session) (idle : session.Idle) :
    (transactAll libraries settings session calls).Idle ∧
      Grown session.committed (transactAll libraries settings session calls).committed := by
  induction calls generalizing session with
  | nil => exact ⟨idle, .refl _⟩
  | cons call calls ih =>
      obtain ⟨rests, grown⟩ := ih (call.transact libraries settings session).2
        (transact_idle libraries call.fault _ session)
      exact ⟨rests, (transact_grown libraries call.fault _ session idle).trans grown⟩

theorem transactAll_attached (injective : Function.Injective libraries.sha256) {now : Datetime}
    {observed : Observation} {snapshotId manifestId : Nat} (fits : observed.identity.fits = true)
    (calls : List SnapshotCall) (session : Session) (idle : session.Idle)
    (attached : Attached (timeseriesIdempotencyKey libraries observed.identity observed.contentHash now)
      observed.contentHash snapshotId manifestId session.committed) :
    Attached (timeseriesIdempotencyKey libraries observed.identity observed.contentHash now)
      observed.contentHash snapshotId manifestId
      (transactAll libraries settings session calls).committed := by
  induction calls generalizing session with
  | nil => exact attached
  | cons call calls ih =>
      exact ih (call.transact libraries settings session).2 (transact_idle libraries call.fault _ session)
        (transact_attached libraries settings injective idle fits attached call)

/-- A repeated time-series or event body completes, and it only sees versions again. -/
theorem snapshotBody_again {now again : Datetime} (minute : again.minuteStart = now.minuteStart)
    {observed : Observation} (other : observed.archiveType ≠ .reference) {start middle later : Session}
    (completed : (snapshotBody libraries settings now observed).eval (execute libraries) start =
      some ((), middle)) (grown : Grown middle.database later.database)
    (labelled : observed.archiveType = .timeSeries → Labels libraries settings observed.identity.path →
      later.database.Labelled (timeseriesIdempotencyKey libraries observed.identity observed.contentHash
        now) observed.contentHash) :
    ∃ final, (snapshotBody libraries settings again observed).eval (execute libraries) later =
      some ((), final) ∧ Untouched later.database final.database := by
  unfold snapshotBody at completed ⊢
  cases archiveType : observed.archiveType with
  | none => exact ⟨later, rfl, .refl _⟩
  | timeSeries =>
      rw [archiveType] at completed
      exact (writeTimeSeries_repeats minute rfl rfl start () middle later trivial completed grown
        (labelled archiveType)).2
  | reference => exact absurd archiveType other
  | event =>
      rw [archiveType] at completed
      have repeats (payload : Json) := @insertEvent_repeats libraries False [] [] observed.identity
        { contentHash := observed.contentHash
          payload := payload
          fetchedAt := now
          etag := observed.etag
          httpStatus := observed.httpStatus }
        { contentHash := observed.contentHash
          payload := payload
          fetchedAt := again
          etag := observed.etag
          httpStatus := observed.httpStatus } rfl rfl
      have whole : Program.Repeats (labelRepetition libraries False [] []) anySession _ _ _ :=
        (orFail_repeats (Json.loads libraries.floatRepr observed.payload) fun _ _ _ _ => trivial).bind
          repeats
      exact (whole start () middle later trivial completed grown fun impossible => impossible.elim).2

/-- An accepted upsert stores its row, and a row that is there only keeps the time of its first. -/
theorem upsertReference_row {identity : Identity} {row : ReferenceSnapshot} {session final : Session}
    (moved : execute libraries (.upsertReference identity row) session = some ((), final)) :
    (identity.fits && row.fits) = true ∧ ∃ stored first, storedJson libraries row.payload = some stored ∧
      final.database.reference identity = some { row with payload := stored, firstSeenAt := first } := by
  simp only [execute] at moved
  split_ifs at moved with accepted
  obtain ⟨stored, kept, same⟩ := Option.map_eq_some_iff.mp moved
  cases same
  exact ⟨accepted, stored, _, kept, Function.update_self ..⟩

theorem upsertReference_known {identity : Identity} {row last : ReferenceSnapshot} {stored : Json}
    {session : Session} (accepted : (identity.fits && row.fits) = true)
    (kept : storedJson libraries row.payload = some stored)
    (known : session.database.reference identity = some last) :
    execute libraries (.upsertReference identity row) session =
      some ((), { session with database := { session.database with
        reference := Function.update session.database.reference identity
          (some { row with
            payload := stored
            firstSeenAt := last.firstSeenAt }) } }) := by
  simp only [execute]
  rw [if_pos accepted, kept]
  simp only [known, Option.map_some]
  rfl

/-- A repeated reference body renews the time of update of the row. -/
theorem reference_again {now again : Datetime} {observed : Observation}
    (archiveType : observed.archiveType = .reference) {start middle later : Session}
    (completed : (snapshotBody libraries settings now observed).eval (execute libraries) start =
      some ((), middle)) (grown : Grown middle.database later.database) :
    ∃ row, middle.database.reference observed.identity = some row ∧
      (later.database.reference observed.identity).isSome = true ∧
      (snapshotBody libraries settings again observed).eval (execute libraries) later =
        some ((), { later with database := { later.database with
          reference := Function.update later.database.reference observed.identity
            (some { row with lastUpdatedAt := again }) } }) := by
  unfold snapshotBody at completed ⊢
  rw [archiveType] at completed ⊢
  obtain ⟨payload, parsed, upserts⟩ := eval_orFail libraries completed
  obtain ⟨accepted, stored, first, kept, written⟩ :=
    upsertReference_row libraries ((Program.eval_call _ _).symm.trans upserts)
  obtain ⟨last, known, same⟩ := grown.reference observed.identity _ written
  refine ⟨_, written, Option.isSome_iff_exists.mpr ⟨last, known⟩, ?_⟩
  have upserted := @upsertReference_known libraries observed.identity
    { contentHash := observed.contentHash
      payload := payload
      firstSeenAt := again
      lastUpdatedAt := again
      esiExpiresAt := observed.expiresAt
      etag := observed.etag
      httpStatus := observed.httpStatus } last stored later accepted kept known
  rw [same] at upserted
  rw [parsed]
  exact (Program.eval_call _ _).trans upserted

/-- A retry leaves the rows of the archive. It may renew the time when a version was last seen, and it
leaves a reference as it was archived but for the time of its update. -/
def Retried (observed : Observation) (again : Datetime) (archived before after : Database) : Prop :=
  match observed.archiveType with
  | .reference => ∃ row, archived.reference observed.identity = some row ∧
      (before.reference observed.identity).isSome = true ∧
      after = { before with
        reference := Function.update before.reference observed.identity
          (some { row with lastUpdatedAt := again }) }
  | _ => Untouched before after

/-- A call is retried after some other calls. -/
def RetryKeeps (start : Session) (first again : SnapshotCall) (between : List SnapshotCall) : Prop :=
  let archived := (first.transact libraries settings start).2
  let later := transactAll libraries settings archived between
  let ended := again.transact libraries settings later
  (again.fault = none → ended.1 = true) ∧
    (ended.1 = true →
      Retried first.observed again.now archived.committed later.committed ended.2.committed) ∧
    (ended.1 = false → Untouched later.committed ended.2.committed)

/-- The body of a retry completes without a new row. -/
theorem snapshotBody_retried (injective : Function.Injective libraries.sha256) {now again : Datetime}
    {observed : Observation} (minute : again.minuteStart = now.minuteStart) {start middle : Session}
    (idle : start.Idle) (serial : start.committed.Serial) {fault : Option Nat}
    (succeeded : transact libraries fault (writeSnapshot libraries settings now observed) start =
      (true, middle)) (between : List SnapshotCall) :
    ∃ final, (snapshotBody libraries settings again observed).eval (execute libraries)
        (transactAll libraries settings middle between) = some ((), final) ∧
      Retried observed again middle.committed (transactAll libraries settings middle between).committed
        final.database := by
  have rests : middle.Idle := by
    have idles := transact_idle libraries fault (writeSnapshot libraries settings now observed) start
    rw [succeeded] at idles
    exact idles
  obtain ⟨ended, completed, archived⟩ := transact_completed libraries settings idle succeeded
  obtain ⟨laterIdle, grown⟩ := transactAll_grown libraries settings between middle rests
  have same : (transactAll libraries settings middle between).database =
      (transactAll libraries settings middle between).committed := laterIdle
  rw [archived, ← same] at grown
  unfold Retried
  cases archiveType : observed.archiveType with
  | reference =>
      obtain ⟨row, known, present, repeated⟩ := reference_again libraries settings archiveType completed
        grown
      rw [same] at present repeated
      exact ⟨_, repeated, row, archived ▸ known, present, rfl⟩
  | none | event =>
      rw [← same]
      exact snapshotBody_again libraries settings minute (by rw [archiveType]; exact nofun) completed grown
        fun other => absurd (archiveType.symm.trans other) nofun
  | timeSeries =>
      rw [← same]
      refine snapshotBody_again libraries settings minute (by rw [archiveType]; exact nofun) completed grown
        fun _ labels => ?_
      unfold snapshotBody at completed
      rw [archiveType] at completed
      rw [← show start.database = start.committed from idle] at serial
      obtain ⟨snapshotId, manifestId, attached⟩ :=
        writeTimeSeries_attaches libraries settings serial labels completed
      have fits := ((writeTimeSeries_added libraries settings now observed start).eval completed).1
      rw [← archived] at attached
      exact same ▸ (transactAll_attached libraries settings injective fits between middle rests
        attached).labelled

/-- A retry ends well when it meets no fault, and then as well as otherwise it adds no row. -/
theorem retry_keeps (injective : Function.Injective libraries.sha256) {first again : SnapshotCall}
    {start : Session} {between : List SnapshotCall} (idle : start.Idle)
    (serial : start.committed.Serial) (same : again.observed = first.observed)
    (minute : again.now.minuteStart = first.now.minuteStart)
    (succeeded : (first.transact libraries settings start).1 = true) :
    RetryKeeps libraries settings start first again between := by
  have outcome (call : SnapshotCall) (session : Session) (succeeded : Bool)
      (ends : (call.transact libraries settings session).1 = succeeded) :
      transact libraries call.fault (writeSnapshot libraries settings call.now call.observed) session =
        (succeeded, (call.transact libraries settings session).2) :=
    Prod.ext ends rfl
  have rests := transact_idle libraries first.fault (writeSnapshot libraries settings first.now
    first.observed) start
  have laterIdle := (transactAll_grown libraries settings between _ rests).1
  obtain ⟨final, completed, retried⟩ :=
    snapshotBody_retried libraries settings injective minute idle serial
      (outcome first start true succeeded) between
  rw [← same] at completed retried
  refine ⟨fun noFault => ?_, fun ends => ?_, fun ends => ?_⟩
  · unfold SnapshotCall.transact
    rw [noFault]
    exact transact_body libraries settings completed
  · obtain ⟨other, repeated, committed⟩ :=
      transact_completed libraries settings laterIdle (outcome again _ true ends)
    cases completed.symm.trans repeated
    rw [← same]
    exact committed ▸ retried
  · exact transact_failed libraries settings laterIdle (outcome again _ false ends)

/-- This says whether the insert of a call brings its row, is suppressed or is refused. -/
def insertOutcome (session : Session) (now : Datetime) (observed : Observation) : Option Bool :=
  ((insertTimeseries (snapshotRow libraries now observed)).eval (execute libraries) session).map
    fun result => result.1.isSome

theorem insertOutcome_eq (session : Session) (now : Datetime) (observed : Observation) :
    insertOutcome libraries session now observed =
      if (snapshotRow libraries now observed).fits = true then
        if (session.database.timeseries.any fun old => old.idempotencyKey =
            some (timeseriesIdempotencyKey libraries observed.identity observed.contentHash now)) = true then
          some false
        else if session.database.timeseries.any (snapshotRow libraries now observed).sameSnapshot = true then
          none
        else some true
      else none := by
  have evaluated : (insertTimeseries (snapshotRow libraries now observed)).eval (execute libraries)
      session = execute libraries (.insertTimeseries (snapshotRow libraries now observed)) session :=
    Program.eval_call _ _
  unfold insertOutcome
  rw [evaluated]
  simp only [execute, snapshotRow_keyed rfl, Option.isSome_some, Bool.true_and]
  cases (snapshotRow libraries now observed).fits with
  | false => rfl
  | true =>
      simp only [Bool.not_true, Bool.false_eq_true, if_false, if_true]
      split_ifs <;> rfl

theorem relabelled_any {before after : List TimeSeriesSnapshot}
    (rows : List.Forall₂ Relabelled before after) (test : TimeSeriesSnapshot → Bool)
    (respects : ∀ row kept, Relabelled row kept → test kept = test row) :
    after.any test = before.any test := by
  induction rows with
  | nil => rfl
  | cons label _ ih => rw [List.any_cons, List.any_cons, respects _ _ label, ih]

/-- Two calls of one bucket have one idempotency key. -/
def SnapshotCall.bucket (call : SnapshotCall) : Identity × PyStr × Datetime :=
  (call.observed.identity, call.observed.contentHash, call.now.minuteStart)

/-- A row stands in the way of a call when it has its key or repeats its snapshot. -/
def TimeSeriesSnapshot.Blocks (call : SnapshotCall) (row : TimeSeriesSnapshot) : Prop :=
  row.idempotencyKey = some (timeseriesIdempotencyKey libraries call.observed.identity
    call.observed.contentHash call.now) ∨
      (snapshotRow libraries call.now call.observed).sameSnapshot row = true

/-- The row of a call does not stand in the way of a call of another bucket. -/
theorem snapshotRow_apart (injective : Function.Injective libraries.sha256) {call other : SnapshotCall}
    (apart : call.bucket ≠ other.bucket) (fits : call.observed.identity.fits = true)
    (fitsOther : other.observed.identity.fits = true) (id : Nat) :
    ¬ TimeSeriesSnapshot.Blocks libraries other
      { snapshotRow libraries call.now call.observed with id := id } := by
  rintro (keys | same)
  · obtain ⟨identity, minute, hash⟩ := timeseriesIdempotencyKey_injective libraries injective fits
      fitsOther (Option.some.inj keys)
    exact apart (Prod.ext identity (Prod.ext hash minute))
  · simp only [TimeSeriesSnapshot.sameSnapshot, snapshotRow, Bool.and_eq_true] at same
    obtain ⟨⟨identity, time⟩, hash⟩ := same
    exact apart (Prod.ext (of_decide_eq_true identity).symm (Prod.ext (of_decide_eq_true hash).symm
      (congrArg Datetime.minuteStart (of_decide_eq_true time).symm)))

theorem eval_timeseries {A : Type} {program : Transaction A} {start final : Session} {value : A}
    (only : program.Only Statement.LeavesSnapshots)
    (completed : program.eval (execute libraries) start = some (value, final)) :
    final.database.timeseries = start.database.timeseries :=
  (Program.ensures_of_only (execute libraries)
    (fun state => state.database.timeseries = start.database.timeseries)
    (fun statement state result leaves same moved =>
      (execute_timeseries libraries statement state result leaves moved).trans same)
    only rfl).eval completed

/-- A body of another bucket brings no row that stands in the way. -/
theorem snapshotBody_apart (injective : Function.Injective libraries.sha256) {call other : SnapshotCall}
    (apart : call.bucket ≠ other.bucket) (fitsOther : other.observed.identity.fits = true)
    {session final : Session}
    (completed : (snapshotBody libraries settings call.now call.observed).eval (execute libraries) session =
      some ((), final)) :
    ∃ more, List.Forall₂ Relabelled (session.database.timeseries ++ more) final.database.timeseries ∧
      ∀ row ∈ more, ¬ row.Blocks libraries other := by
  have unchanged (same : final.database.timeseries = session.database.timeseries) :
      ∃ more, List.Forall₂ Relabelled (session.database.timeseries ++ more) final.database.timeseries ∧
        ∀ row ∈ more, ¬ row.Blocks libraries other := by
    refine ⟨[], ?_, fun _ absent => by cases absent⟩
    rw [List.append_nil, same]
    exact relabelled_refl _
  unfold snapshotBody at completed
  cases archiveType : call.observed.archiveType with
  | none =>
      rw [archiveType] at completed
      cases completed
      exact unchanged rfl
  | timeSeries =>
      rw [archiveType] at completed
      obtain ⟨fits, added⟩ :=
        (writeTimeSeries_added libraries settings call.now call.observed session).eval completed
      rcases added with ⟨_, labels⟩ | ⟨_, id, labels⟩
      · exact ⟨[], by rwa [List.append_nil], fun _ absent => by cases absent⟩
      · refine ⟨_, labels, fun row member => ?_⟩
        obtain rfl := List.mem_singleton.mp member
        exact snapshotRow_apart libraries injective apart fits fitsOther id
  | reference | event =>
      rw [archiveType] at completed
      refine unchanged (eval_timeseries libraries ?_ completed)
      exact (orFail_only _ _).bind fun _ => call_only _ _ trivial

/-- Neither does the call itself, whether it succeeds or not. -/
theorem transact_apart (injective : Function.Injective libraries.sha256) {call other : SnapshotCall}
    (apart : call.bucket ≠ other.bucket) (fitsOther : other.observed.identity.fits = true)
    {session : Session} (idle : session.Idle) :
    ∃ more, List.Forall₂ Relabelled (session.database.timeseries ++ more)
        (call.transact libraries settings session).2.database.timeseries ∧
      ∀ row ∈ more, ¬ row.Blocks libraries other := by
  have rests : (call.transact libraries settings session).2.Idle := transact_idle libraries call.fault _ _
  rw [show (call.transact libraries settings session).2.database =
    (call.transact libraries settings session).2.committed from rests]
  cases ended : call.transact libraries settings session with
  | mk succeeded next =>
      cases succeeded with
      | false =>
          have touched := transact_failed libraries settings idle ended
          refine ⟨[], ?_, fun _ absent => by cases absent⟩
          rw [List.append_nil, touched.timeseries, show session.database = session.committed from idle]
          exact relabelled_refl _
      | true =>
          obtain ⟨final, completed, same⟩ := transact_completed libraries settings idle ended
          rw [same]
          exact snapshotBody_apart libraries settings injective apart fitsOther completed

/-- A call of another bucket does not change what becomes of the row of a call. -/
theorem insertOutcome_apart (injective : Function.Injective libraries.sha256) {call other : SnapshotCall}
    (apart : call.bucket ≠ other.bucket) {session : Session} (idle : session.Idle) :
    insertOutcome libraries (call.transact libraries settings session).2 other.now other.observed =
      insertOutcome libraries session other.now other.observed := by
  rw [insertOutcome_eq, insertOutcome_eq]
  by_cases fits : (snapshotRow libraries other.now other.observed).fits = true
  · obtain ⟨more, rows, free⟩ :=
      transact_apart libraries settings injective apart (TimeSeriesSnapshot.fits_identity fits) idle
    have keys : (more.any fun old => old.idempotencyKey = some (timeseriesIdempotencyKey libraries
        other.observed.identity other.observed.contentHash other.now)) = false := by
      rw [List.any_eq_false]
      exact fun row member same => free row member (.inl (of_decide_eq_true same))
    have snapshots : more.any (snapshotRow libraries other.now other.observed).sameSnapshot = false := by
      rw [List.any_eq_false]
      exact fun row member same => free row member (.inr same)
    rw [relabelled_any rows _ fun row kept label => by obtain ⟨_, _, rfl⟩ := label; rfl,
      relabelled_any rows _ fun row kept label => by obtain ⟨_, _, rfl⟩ := label; rfl,
      List.any_append, List.any_append, keys, snapshots, Bool.or_false, Bool.or_false]
  · rw [if_neg fits, if_neg fits]

/-- The tables of every reachable archive are numbered in sequence. -/
theorem reachable_serial {session : Session}
    (reached : (archiveMachine libraries settings).Reachable session) :
    session.Idle ∧ session.committed.Serial := by
  refine Machine.Guarded.invariant (fun session => session.Idle ∧ session.committed.Serial) ?_ ?_ reached
  · rintro session ⟨empty, idle⟩
    exact ⟨idle, empty ▸ serial_empty⟩
  · rintro session call next ⟨idle, serial⟩ _ moved
    cases moved
    refine ⟨call_idle libraries settings call session, ?_⟩
    cases call <;> exact serial.grown (transact_grown libraries _ _ session idle)

/-- A successful call of `write_snapshot` may be retried within its minute, whatever other calls stand
between, and no row is added. Calls of different buckets do not suppress each other, because the joined
text of an idempotency key determines the bucket. -/
theorem writeSnapshot_idempotent (injective : Function.Injective libraries.sha256) :
    (∀ (start : Session) (first again : SnapshotCall) (between : List SnapshotCall), start.Idle →
      start.committed.Serial → again.observed = first.observed →
        again.now.minuteStart = first.now.minuteStart →
          (first.transact libraries settings start).1 = true →
            RetryKeeps libraries settings start first again between) ∧
    (∀ (session : Session) (call other : SnapshotCall), session.Idle → call.bucket ≠ other.bucket →
      insertOutcome libraries (call.transact libraries settings session).2 other.now other.observed =
        insertOutcome libraries session other.now other.observed) ∧
    ∀ (one two : Identity) (hash other : PyStr) (first second : Datetime), one.Plain → two.Plain →
      idempotencyText one hash first = idempotencyText two other second →
        one = two ∧ first.minuteStart = second.minuteStart ∧ hash = other :=
  ⟨fun _ _ _ _ idle serial same minute succeeded =>
      retry_keeps libraries settings injective idle serial same minute succeeded,
    fun _ _ _ idle apart => insertOutcome_apart libraries settings injective apart idle,
    fun _ _ _ _ _ _ => idempotencyText_injective⟩

/-- This call observes incursions at a second of the first minute of the year. -/
def incursionsAt (second : Fin 60) (payload : Bytes) : SnapshotCall where
  now := { newYear with second := second }
  observed := { incursions with payload := payload }.hashed alternatingLibraries
  fault := none

/-- A payload is archived again after another one, and the archive keeps its two snapshots. -/
theorem writeSnapshot_idempotent_incursions :
    RetryKeeps alternatingLibraries {} emptySession (incursionsAt 0 (bytes "[]"))
        (incursionsAt 40 (bytes "[]")) [incursionsAt 20 (bytes "[1]")] ∧
      (transactAll alternatingLibraries {} emptySession [incursionsAt 0 (bytes "[]"),
        incursionsAt 20 (bytes "[1]"), incursionsAt 40 (bytes "[]")]).committed.timeseries.length = 2 ∧
      insertOutcome alternatingLibraries ((incursionsAt 0 (bytes "[]")).transact alternatingLibraries {}
          emptySession).2 (incursionsAt 20 (bytes "[1]")).now (incursionsAt 20 (bytes "[1]")).observed =
        insertOutcome alternatingLibraries emptySession (incursionsAt 20 (bytes "[1]")).now
          (incursionsAt 20 (bytes "[1]")).observed ∧
      (incursions.identity = incursions.identity ∧
        newYear.minuteStart = (incursionsAt 20 (bytes "[]")).now.minuteStart ∧ text "hash" = text "hash") := by
  have holds := writeSnapshot_idempotent alternatingLibraries {}
    (pinnedDigest_injective incursionDigests_pinnable)
  have plain : incursions.identity.Plain := by
    unfold Identity.Plain
    decide +kernel
  exact ⟨holds.1 _ _ _ _ rfl serial_empty rfl rfl (by decide +kernel), by decide +kernel,
    holds.2.1 _ _ _ rfl (by decide +kernel),
    holds.2.2 _ _ _ _ newYear (incursionsAt 20 (bytes "[]")).now plain plain rfl⟩

end EveApiCache
