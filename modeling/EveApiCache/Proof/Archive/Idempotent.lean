import EveApiCache.Library.Repetition
import EveApiCache.Proof.Archive.Latest
import EveApiCache.Proof.Archive.Names

/-!
This file shows that a repeated call of `write_snapshot` changes almost nothing.
-/

namespace EveApiCache
open Effects StepMachine

/-- The later database has grown from the earlier one. New snapshots take fresh ids. -/
structure Grown (before after : Database) : Prop extends Kept before after where
  rows : ∃ more, List.Forall₂ Relabelled (before.timeseries ++ more) after.timeseries ∧
    (more.map (·.id)).Nodup ∧
      ∀ row ∈ more, before.snapshotSequence ≤ row.id ∧ row.id < after.snapshotSequence
  sequence : before.snapshotSequence ≤ after.snapshotSequence
  objectFiles : before.objectFiles <+: after.objectFiles
  versions : ∀ key, (before.versions key).isSome = true → (after.versions key).isSome = true
  entries : ∀ key row, before.entries key = some row → after.entries key = some row

theorem Grown.refl (database : Database) : Grown database database where
  toKept := .refl database
  rows := ⟨[], by rw [List.append_nil]; exact relabelled_refl _, .nil, fun _ absent => by cases absent⟩
  sequence := Nat.le_refl _
  objectFiles := List.prefix_refl _
  versions _ present := present
  entries _ _ stored := stored

theorem Grown.trans {first second third : Database} (one : Grown first second)
    (two : Grown second third) : Grown first third where
  toKept := one.toKept.trans two.toKept
  rows := by
    obtain ⟨early, oneRows, oneIds, oneFresh⟩ := one.rows
    obtain ⟨late, twoRows, twoIds, twoFresh⟩ := two.rows
    refine ⟨early ++ late, ?_, ?_, fun row member => ?_⟩
    · rw [← List.append_assoc]
      exact relabelled_trans (List.rel_append oneRows (relabelled_refl late)) twoRows
    · rw [List.map_append]
      refine List.nodup_append.mpr ⟨oneIds, twoIds, fun id inEarly other inLate same => ?_⟩
      obtain ⟨row, member, rfl⟩ := List.mem_map.mp inEarly
      obtain ⟨next, inside, rfl⟩ := List.mem_map.mp inLate
      have below := (oneFresh row member).2
      have above := (twoFresh next inside).1
      omega
    · have first := one.sequence
      have second := two.sequence
      rcases List.mem_append.mp member with inEarly | inLate
      · have bounds := oneFresh row inEarly
        omega
      · have bounds := twoFresh row inLate
        omega
  sequence := one.sequence.trans two.sequence
  objectFiles := one.objectFiles.trans two.objectFiles
  versions key present := two.versions key (one.versions key present)
  entries key row stored := two.entries key row (one.entries key row stored)

/-- A statement that leaves the snapshots, the manifests and the deltas lets the database grow. -/
theorem Grown.of_same {before after : Database} (kept : Kept before after)
    (timeseries : after.timeseries = before.timeseries)
    (sequence : after.snapshotSequence = before.snapshotSequence)
    (objectFiles : before.objectFiles <+: after.objectFiles)
    (versions : ∀ key, (before.versions key).isSome = true → (after.versions key).isSome = true)
    (entries : ∀ key row, before.entries key = some row → after.entries key = some row) :
    Grown before after where
  toKept := kept
  rows := by
    refine ⟨[], ?_, .nil, fun _ absent => by cases absent⟩
    rw [List.append_nil, timeseries]
    exact relabelled_refl _
  sequence := Nat.le_of_eq sequence.symm
  objectFiles := objectFiles
  versions := versions
  entries := entries

/-- These are the ids that the lookups of the archive find. -/
def Database.snapshotOf (database : Database) (key : PyStr) : Option Nat :=
  (database.timeseries.find? fun row => row.idempotencyKey = some key).map (·.id)

def Database.manifestOf (database : Database) (contentHash : PyStr) : Option Nat :=
  (database.objectFiles.find? fun row => row.contentHash = contentHash).map (·.id)

theorem relabelled_find {before after : List TimeSeriesSnapshot}
    (rows : List.Forall₂ Relabelled before after) (key : PyStr) :
    (after.find? fun row => row.idempotencyKey = some key).map (·.id) =
      (before.find? fun row => row.idempotencyKey = some key).map (·.id) := by
  induction rows with
  | nil => rfl
  | @cons row _ _ _ label _ ih =>
      obtain ⟨_, _, rfl⟩ := label
      by_cases taken : row.idempotencyKey = some key
      · simp [taken]
      · simpa [taken] using ih

/-- A snapshot that was found once is found again. -/
theorem Grown.snapshotOf {before after : Database} (grown : Grown before after) {key : PyStr} {id : Nat}
    (found : before.snapshotOf key = some id) : after.snapshotOf key = some id := by
  obtain ⟨more, rows, _⟩ := grown.rows
  obtain ⟨row, search, rfl⟩ := Option.map_eq_some_iff.mp found
  unfold Database.snapshotOf
  rw [relabelled_find rows, List.find?_append, search]
  rfl

theorem Grown.manifestOf {before after : Database} (grown : Grown before after) {contentHash : PyStr}
    {id : Nat} (found : before.manifestOf contentHash = some id) :
    after.manifestOf contentHash = some id := by
  obtain ⟨more, same⟩ := grown.objectFiles
  obtain ⟨row, search, rfl⟩ := Option.map_eq_some_iff.mp found
  unfold Database.manifestOf
  rw [← same, List.find?_append, search]
  rfl

/-- The ids of the snapshots are distinct, and the next id is new. -/
structure Database.Serial (database : Database) : Prop where
  distinct : (database.timeseries.map (·.id)).Nodup
  fresh : ∀ row ∈ database.timeseries, row.id < database.snapshotSequence

theorem Database.Serial.grown {before after : Database} (serial : before.Serial)
    (grown : Grown before after) : after.Serial := by
  obtain ⟨more, rows, ids, fresh⟩ := grown.rows
  refine ⟨?_, fun row member => ?_⟩
  · rw [relabelled_ids rows, List.map_append]
    refine List.nodup_append.mpr ⟨serial.distinct, ids, fun id inBefore other inMore same => ?_⟩
    obtain ⟨row, member, rfl⟩ := List.mem_map.mp inBefore
    obtain ⟨next, inside, rfl⟩ := List.mem_map.mp inMore
    have below := serial.fresh row member
    have above := (fresh next inside).1
    omega
  · obtain ⟨old, present, _, _, rfl⟩ := relabelled_backward rows row member
    rcases List.mem_append.mp present with inBefore | inMore
    · exact (serial.fresh old inBefore).trans_le grown.sequence
    · exact (fresh old inMore).2

theorem serial_empty : Database.empty.Serial := ⟨.nil, fun _ absent => by cases absent⟩

variable (libraries : Libraries)

/-- Every statement lets the database grow. -/
theorem execute_grown (statement : Statement) (session : Session)
    (result : statement.Reply × Session)
    (moved : execute libraries statement session = some result) :
    Grown session.database result.2.database := by
  have kept := execute_kept libraries statement session result moved
  cases statement with
  | insertTimeseries row =>
      simp only [execute] at moved
      split_ifs at moved
      · cases moved
        refine ⟨kept, ⟨[], ?_, .nil, fun _ absent => by cases absent⟩, Nat.le_succ _,
          List.prefix_refl _, fun _ present => present, fun _ _ stored => stored⟩
        rw [List.append_nil]
        exact relabelled_refl _
      · cases moved
        refine ⟨kept, ⟨_, relabelled_refl _, List.nodup_singleton _, fun fresh member => ?_⟩,
          Nat.le_succ _, List.prefix_refl _, fun _ present => present, fun _ _ stored => stored⟩
        obtain rfl := List.mem_singleton.mp member
        exact ⟨Nat.le_refl _, Nat.lt_succ_self _⟩
  | labelParquet snapshotId manifestId =>
      simp only [execute] at moved
      split_ifs at moved
      cases moved
      refine ⟨kept, ⟨[], ?_, .nil, fun _ absent => by cases absent⟩, Nat.le_refl _,
        List.prefix_refl _, fun _ present => present, fun _ _ stored => stored⟩
      rw [List.append_nil]
      change List.Forall₂ Relabelled _ (session.database.timeseries.map _)
      rw [List.forall₂_map_right_iff, List.forall₂_same]
      intro row _
      split_ifs
      · exact ⟨_, _, rfl⟩
      · exact .refl row
  | insertObjectFile row =>
      simp only [execute] at moved
      split_ifs at moved
      · cases moved
        exact .of_same kept rfl rfl (List.prefix_refl _) (fun _ present => present)
          fun _ _ stored => stored
      · cases moved
        exact .of_same kept rfl rfl (List.prefix_append _ _) (fun _ present => present)
          fun _ _ stored => stored
  | upsertVersions rows =>
      simp only [execute] at moved
      split_ifs at moved
      obtain ⟨after, accepted, rfl⟩ := Option.map_eq_some_iff.mp moved
      refine .of_same kept rfl rfl (List.prefix_refl _) (fun key present => ?_)
        fun _ _ stored => stored
      obtain ⟨first, known⟩ := Option.isSome_iff_exists.mp present
      obtain ⟨last, reached, _⟩ := (upsertVersions_upserted libraries rows _ _ accepted).kept key first known
      exact Option.isSome_iff_exists.mpr ⟨last, reached⟩
  | insertEntries rows =>
      obtain ⟨after, accepted, rfl⟩ := Option.map_eq_some_iff.mp moved
      exact .of_same kept rfl rfl (List.prefix_refl _) (fun _ present => present)
        (insertEntries_inserted _ rows _ _ accepted).kept
  | upsertReference identity row | insertEvent identity row =>
      simp only [execute] at moved
      split_ifs at moved
      obtain ⟨_, _, rfl⟩ := Option.map_eq_some_iff.mp moved
      exact .of_same kept rfl rfl (List.prefix_refl _) (fun _ present => present)
        fun _ _ stored => stored
  | upsertNames rows =>
      simp only [execute] at moved
      split_ifs at moved
      obtain ⟨_, _, rfl⟩ := Option.map_eq_some_iff.mp moved
      exact .of_same kept rfl rfl (List.prefix_refl _) (fun _ present => present)
        fun _ _ stored => stored
  | insertBlob | selectTimeseriesId | selectObjectFileId | writeParquet | setNames | commit =>
      cases moved
      exact .of_same kept rfl rfl (List.prefix_refl _) (fun _ present => present)
        fun _ _ stored => stored

/-- A program lets the database grow wherever it stops, and what it has committed has grown as well. -/
structure GrownSession (start : Database) (session : Session) : Prop where
  working : Grown start session.database
  committed : Grown start session.committed
  ahead : session.committed.snapshotSequence ≤ session.database.snapshotSequence

theorem execute_grownSession {start : Database} (statement : Statement) (session : Session)
    (result : statement.Reply × Session) (grown : GrownSession start session)
    (moved : execute libraries statement session = some result) : GrownSession start result.2 := by
  have step := execute_grown libraries statement session result moved
  refine ⟨grown.working.trans step, ?_, ?_⟩
  · rcases execute_committed libraries statement session result moved with same | ⟨_, same⟩
    · exact same ▸ grown.committed
    · exact same ▸ grown.working
  · rcases execute_committed libraries statement session result moved with same | ⟨_, same⟩
    · exact same ▸ grown.ahead.trans step.sequence
    · exact same ▸ step.sequence

theorem ensures_grown {A : Type} {start : Database} (program : Transaction A) (session : Session)
    (grown : GrownSession start session) :
    program.Ensures (execute libraries) (fun _ final => GrownSession start final)
      (GrownSession start) session := by
  induction program generalizing session with
  | done value => exact grown
  | fail => exact grown
  | perform statement next ih =>
      exact ⟨grown, fun result moved => ih result.1 result.2
        (execute_grownSession libraries statement session result grown moved)⟩

theorem Session.Idle.grown {session : Session} (idle : session.Idle) :
    GrownSession session.committed session :=
  ⟨idle ▸ .refl _, .refl _, by rw [show session.database = session.committed from idle]⟩

theorem GrownSession.rollback {start : Database} {session : Session}
    (grown : GrownSession start session) : Grown start session.rollback.committed := by
  have ahead := grown.ahead
  obtain ⟨more, rows, ids, fresh⟩ := grown.committed.rows
  refine { grown.committed with
    toKept := { grown.committed.toKept with }
    rows := ⟨more, rows, ids, fun row member => ?_⟩
    sequence := grown.committed.sequence.trans ahead }
  have bounds := fresh row member
  exact ⟨bounds.1, bounds.2.trans_le ahead⟩

/-- A call lets the archive grow whether it succeeds or not. -/
theorem transact_grown {A : Type} (fault : Option Nat) (program : Transaction A) (session : Session)
    (idle : session.Idle) :
    Grown session.committed (transact libraries fault program session).2.committed := by
  have ended := Program.run_of_ensures fault program session
    (ensures_grown libraries program session idle.grown)
  unfold transact
  split at ended
  · rename_i same
    rw [same]
    exact ended.rollback
  · rename_i same
    rw [same]
    exact ended.rollback

/-- A version without the time when it was last seen. -/
def MarketOrderVersion.unseen (row : MarketOrderVersion) : Json × Datetime :=
  (row.payload, row.firstSeenAt)

/-- The later database has the rows of the earlier one, and it may only know of a later time when a
version was last seen. -/
structure Untouched (before after : Database) : Prop where
  timeseries : after.timeseries = before.timeseries
  blobs : after.blobs = before.blobs
  objectFiles : after.objectFiles = before.objectFiles
  reference : after.reference = before.reference
  events : after.events = before.events
  names : after.names = before.names
  entries : after.entries = before.entries
  versions : ∀ key, (after.versions key).map (·.unseen) = (before.versions key).map (·.unseen)
  sequence : before.snapshotSequence ≤ after.snapshotSequence

theorem Untouched.refl (database : Database) : Untouched database database :=
  ⟨rfl, rfl, rfl, rfl, rfl, rfl, rfl, fun _ => rfl, Nat.le_refl _⟩

theorem Untouched.trans {first second third : Database} (one : Untouched first second)
    (two : Untouched second third) : Untouched first third where
  timeseries := two.timeseries.trans one.timeseries
  blobs := two.blobs.trans one.blobs
  objectFiles := two.objectFiles.trans one.objectFiles
  reference := two.reference.trans one.reference
  events := two.events.trans one.events
  names := two.names.trans one.names
  entries := two.entries.trans one.entries
  versions key := (two.versions key).trans (one.versions key)
  sequence := one.sequence.trans two.sequence

theorem Untouched.grown {before after : Database} (touched : Untouched before after) :
    Grown before after where
  timeseries row member := ⟨row, touched.timeseries ▸ member, .refl row⟩
  blobs _ _ stored := touched.blobs ▸ stored
  events _ _ stored := touched.events ▸ stored
  reference _ row stored := ⟨row, touched.reference ▸ stored, rfl⟩
  rows := by
    refine ⟨[], ?_, .nil, fun _ absent => by cases absent⟩
    rw [List.append_nil, touched.timeseries]
    exact relabelled_refl _
  sequence := touched.sequence
  objectFiles := touched.objectFiles ▸ List.prefix_refl _
  versions key present := by
    have same := congrArg Option.isSome (touched.versions key)
    rw [Option.isSome_map, Option.isSome_map] at same
    exact same.trans present
  entries _ _ stored := touched.entries ▸ stored

/-- The snapshot of a key carries the label of the manifest of a content hash. -/
def Database.Labelled (database : Database) (key contentHash : PyStr) : Prop :=
  ∀ id manifest, database.snapshotOf key = some id →
    database.manifestOf contentHash = some manifest → ∀ row ∈ database.timeseries, row.id = id →
      row.parquetManifestId = some manifest ∧ row.payloadStorage = .marketParquetDelta

theorem Database.Labelled.untouched {before after : Database} {key contentHash : PyStr}
    (labelled : before.Labelled key contentHash) (touched : Untouched before after) :
    after.Labelled key contentHash := by
  unfold Database.Labelled Database.snapshotOf Database.manifestOf
  rw [touched.timeseries, touched.objectFiles]
  exact labelled

/-- A call is repeated on an archive that has grown since, in which the label of its snapshot still
stands where the call sets one. -/
def labelRepetition (labels : Prop) (key contentHash : PyStr) : Repetition archiveInterface Session where
  handler := execute libraries
  grows first second := Grown first.database second.database
  touches first second := Untouched first.database second.database
  steady session := labels → session.database.Labelled key contentHash
  grows_refl session := .refl session.database
  grows_trans := Grown.trans
  grows_step := execute_grown libraries
  touches_refl session := .refl session.database
  touches_trans := Untouched.trans
  touches_grows := Untouched.grown
  steady_touched steady touched labels := (steady labels).untouched touched

/-- An insert leaves a snapshot with its idempotency key, and it answers with the new id. -/
theorem insertTimeseries_snapshotOf {session final : Session} {row : TimeSeriesSnapshot} {key : PyStr}
    {reply : Option Nat} (keyed : row.idempotencyKey = some key)
    (moved : execute libraries (.insertTimeseries row) session = some (reply, final)) :
    row.fits = true ∧ ∃ id, final.database.snapshotOf key = some id ∧ reply.getD id = id := by
  simp only [execute, keyed, Option.isSome_some, Bool.true_and] at moved
  split_ifs at moved with misfit taken
  all_goals
    cases moved
    refine ⟨by simpa using misfit, ?_⟩
  · have found : (session.database.timeseries.find? fun old => old.idempotencyKey = some key).isSome :=
      List.find?_isSome.mpr (by simpa using taken)
    obtain ⟨first, search⟩ := Option.isSome_iff_exists.mp found
    refine ⟨first.id, ?_, rfl⟩
    rw [Database.snapshotOf, search]
    rfl
  · have absent : session.database.timeseries.find? (fun old => old.idempotencyKey = some key) = none := by
      rw [List.find?_eq_none]
      simpa using taken
    refine ⟨_, ?_, rfl⟩
    rw [Database.snapshotOf, List.find?_append, absent, Option.none_or, List.find?_singleton]
    simp

/-- An insert under a taken idempotency key only uses up an id. -/
theorem insertTimeseries_taken {session : Session} {row : TimeSeriesSnapshot} {key : PyStr} {id : Nat}
    (keyed : row.idempotencyKey = some key) (fits : row.fits = true)
    (found : session.database.snapshotOf key = some id) :
    execute libraries (.insertTimeseries row) session = some (none, { session with
      database := { session.database with
        snapshotSequence := session.database.snapshotSequence + 1 } }) := by
  obtain ⟨old, search, _⟩ := Option.map_eq_some_iff.mp found
  have same : decide (old.idempotencyKey = some key) = true := by simpa using List.find?_some search
  have taken : (session.database.timeseries.any fun old => old.idempotencyKey = some key) = true :=
    List.any_eq_true.mpr ⟨old, List.mem_of_find?_eq_some search, same⟩
  simp only [execute, keyed, fits, taken, Option.isSome_some, Bool.true_and, Bool.not_true]
  rfl

/-- A call for such a path labels its snapshot. -/
def Labels (settings : Settings) (path : PyStr) : Prop :=
  (marketOrdersRegion path).isSome = true ∧ libraries.pyarrow.isSome = true ∧
    settings.enableMarketOrderParquet = true

section Statements
variable {libraries} {labels : Prop} {key contentHash : PyStr}

/-- Nothing is asked of the archive. -/
abbrev anySession : Session → Prop := fun _ => True

theorem orFail_repeats {A : Type} {before : Session → Prop} {after : A → Session → Prop}
    (value : Option A) (promised : ∀ found session, value = some found → before session → after found session) :
    Program.Repeats (labelRepetition libraries labels key contentHash) before after (orFail value)
      (orFail value) := by
  cases value with
  | none => exact Program.repeats_fail
  | some found => exact Program.repeats_done fun session holds => promised found session rfl holds

/-- A blob that is there is not stored again. -/
theorem insertBlob_repeats (hash : PyStr) (row again : ArchivePayloadBlob) :
    Program.Repeats (labelRepetition libraries labels key contentHash) anySession (fun _ => anySession)
      (Program.call (I := archiveInterface) (.insertBlob hash row) : Transaction Unit)
      (Program.call (I := archiveInterface) (.insertBlob hash again) : Transaction Unit) := by
  intro start value middle later _ completed grown _
  have stored : (middle.database.blobs hash).isSome = true := by
    cases completed
    cases old : start.database.blobs hash <;> simp [old]
  obtain ⟨blob, known⟩ := Option.isSome_iff_exists.mp stored
  have present := grown.blobs hash blob known
  refine ⟨trivial, later, ?_, .refl _⟩
  refine (Program.eval_call _ _).trans ?_
  change execute libraries (.insertBlob hash again) later = some ((), later)
  simp only [execute, present]
  rfl

/-- The repeated insert finds the snapshot of the first one. -/
theorem insertSnapshot_repeats (row again : TimeSeriesSnapshot) (keyed : row.idempotencyKey = some key)
    (same : again.idempotencyKey = some key) (fits : row.fits = true → again.fits = true) :
    Program.Repeats (labelRepetition libraries labels key contentHash) anySession
      (fun id session => id.isSome = true ∧ session.database.snapshotOf key = id)
      (insertTimeseries row >>= insertedSnapshot key)
      (insertTimeseries again >>= insertedSnapshot key) := by
  intro start value middle later _ completed grown _
  rw [Program.eval_bind] at completed
  obtain ⟨⟨reply, inserted⟩, evaluated, rest⟩ := Option.bind_eq_some_iff.mp completed
  have moved := (Program.eval_call _ _).symm.trans evaluated
  obtain ⟨fitted, id, found, answered⟩ := insertTimeseries_snapshotOf libraries keyed moved
  obtain ⟨rfl, rfl⟩ : value = some id ∧ middle = inserted := by
    cases reply with
    | some other =>
        cases rest
        exact ⟨congrArg some answered, rfl⟩
    | none =>
        cases rest
        exact ⟨found, rfl⟩
  have present := grown.snapshotOf found
  have suppressed := insertTimeseries_taken libraries same (fits fitted) present
  refine ⟨⟨rfl, found⟩, { later with database := { later.database with
    snapshotSequence := later.database.snapshotSequence + 1 } }, ?_,
    ⟨rfl, rfl, rfl, rfl, rfl, rfl, rfl, fun _ => rfl, Nat.le_succ _⟩⟩
  rw [Program.eval_bind]
  have evaluated : (insertTimeseries again).eval (execute libraries) later = _ :=
    (Program.eval_call _ _).trans suppressed
  rw [show (labelRepetition libraries labels key contentHash).handler = execute libraries from rfl,
    evaluated]
  change some (later.database.snapshotOf key, _) = _
  rw [present]

theorem marketOrdersRegionId_repeats (path : PyStr) :
    Program.Repeats (labelRepetition libraries labels key contentHash) anySession
      (fun region _ => region.isSome = (marketOrdersRegion path).isSome)
      (marketOrdersRegionId path) (marketOrdersRegionId path) := by
  unfold marketOrdersRegionId
  cases marketOrdersRegion path with
  | none => exact Program.repeats_done fun _ _ => rfl
  | some digits =>
      refine orFail_repeats _ fun region _ parsed _ => ?_
      obtain ⟨value, _, rfl⟩ := Option.map_eq_some_iff.mp parsed
      rfl

theorem snapshotRow_keyed {now : Datetime} {observed : Observation}
    (keyed : key = timeseriesIdempotencyKey libraries observed.identity observed.contentHash now) :
    (snapshotRow libraries now observed).idempotencyKey = some key := by
  rw [keyed, snapshotRow]

theorem snapshotRow_fits (now again : Datetime) (observed : Observation) :
    (snapshotRow libraries now observed).fits = true ↔
      (snapshotRow libraries again observed).fits = true := by
  unfold TimeSeriesSnapshot.fits snapshotRow
  exact Iff.rfl

/-- The repeated call finds the snapshot of the first one. -/
theorem recordSnapshot_repeats {now again : Datetime} (minute : again.minuteStart = now.minuteStart)
    (observed : Observation)
    (keyed : key = timeseriesIdempotencyKey libraries observed.identity observed.contentHash now) :
    Program.Repeats (labelRepetition libraries labels key contentHash) anySession
      (fun recorded session => (recorded.1.isSome = true ∧ session.database.snapshotOf key = recorded.1) ∧
        recorded.2.isSome = (marketOrdersRegion observed.identity.path).isSome)
      (recordSnapshot libraries now observed) (recordSnapshot libraries again observed) := by
  have same : key = timeseriesIdempotencyKey libraries observed.identity observed.contentHash again :=
    keyed.trans (timeseriesIdempotencyKey_minute libraries _ _ minute.symm)
  have inserting : Program.Repeats (labelRepetition libraries labels key contentHash) anySession _ _ _ :=
    insertSnapshot_repeats (snapshotRow libraries now observed) (snapshotRow libraries again observed)
      (snapshotRow_keyed keyed) (snapshotRow_keyed same) (snapshotRow_fits now again observed).mp
  unfold recordSnapshot
  rw [← keyed, ← same]
  refine Program.Repeats.bind (insertBlob_repeats observed.contentHash
    (payloadBlob libraries observed.payload now) (payloadBlob libraries observed.payload again))
    fun _ => (marketOrdersRegionId_repeats observed.identity.path).bind fun region => ?_
  rw [← Program.bind_assoc, ← Program.bind_assoc]
  refine ((inserting.keep (fun _ => region.isSome =
    (marketOrdersRegion observed.identity.path).isSome) fun _ _ _ path => path).bind fun id =>
      Program.repeats_done fun _ recorded => recorded).weaken (fun _ path => ⟨trivial, path⟩)
        fun _ _ recorded => recorded

/-- Rows that are there are at most seen again. -/
theorem upsertVersions_again {datasource : PyStr} {fetchedAt : Datetime} (again : Datetime)
    (batch : List (Int × Json)) {before after later : VersionKey → Option MarketOrderVersion}
    (accepted : upsertVersions libraries before
      (batch.map (versionValues libraries datasource fetchedAt)) = some after)
    (present : ∀ key, (after key).isSome = true → (later key).isSome = true) :
    ∃ final, upsertVersions libraries later (batch.map (versionValues libraries datasource again)) =
        some final ∧ ∀ key, (final key).map (·.unseen) = (later key).map (·.unseen) := by
  induction batch generalizing before later with
  | nil => exact ⟨later, rfl, fun _ => rfl⟩
  | cons row batch ih =>
      have complete := (upsertVersions_upserted libraries _ _ _ accepted).complete
        (versionValues libraries datasource fetchedAt row) (by simp)
      obtain ⟨old, known⟩ := Option.isSome_iff_exists.mp (present _ complete)
      rw [List.map_cons, upsertVersions] at accepted
      split_ifs at accepted with fits
      obtain ⟨payload, stored, rest⟩ := Option.bind_eq_some_iff.mp accepted
      have touched (key : VersionKey) :
          (upsertVersion later (versionValues libraries datasource again row) payload key).map (·.unseen) =
            (later key).map (·.unseen) := by
        unfold upsertVersion
        by_cases same : key = (versionValues libraries datasource again row).key
        · subst same
          have found : later (versionValues libraries datasource again row).key = some old := known
          rw [Function.update_self, found]
          rfl
        · rw [Function.update_of_ne same]
      have kept (key : VersionKey) (there : (after key).isSome = true) : (upsertVersion later
          (versionValues libraries datasource again row) payload key).isSome = true := by
        rw [← Option.isSome_map (f := MarketOrderVersion.unseen), touched, Option.isSome_map]
        exact present key there
      obtain ⟨final, repeated, unseen⟩ := ih rest kept
      refine ⟨final, ?_, fun key => (unseen key).trans (touched key)⟩
      rw [List.map_cons, upsertVersions]
      rw [show (isVarchar 20 (versionValues libraries datasource again row).key.datasource &&
        bigint (versionValues libraries datasource again row).key.orderId) = true from fits, if_pos rfl,
        show storedJson libraries (versionValues libraries datasource again row).payload = some payload
          from stored]
      exact repeated

/-- Entries that are there are not inserted again. -/
theorem insertEntries_again {database : Database} {entries : Nat × Int → Option MarketOrderSnapshotEntry}
    (rows : List EntryValues)
    (fits : ∀ values ∈ rows, bigint values.orderId = true ∧ bigint values.regionId = true ∧
      ∃ row ∈ database.timeseries, row.id = values.snapshotId)
    (present : ∀ values ∈ rows, (entries (values.snapshotId, values.orderId)).isSome = true) :
    insertEntries database entries rows = some entries := by
  induction rows with
  | nil => rfl
  | cons values rows ih =>
      obtain ⟨order, region, snapshot⟩ := fits values (by simp)
      obtain ⟨entry, known⟩ := Option.isSome_iff_exists.mp (present values (by simp))
      have listed : (database.timeseries.any fun row => row.id = values.snapshotId) = true := by
        simpa using snapshot
      rw [insertEntries, order, region, listed, known]
      exact ih (fun other member => fits other (by simp [member])) fun other member =>
        present other (by simp [member])

theorem upsertVersionBatch_repeats (datasource : PyStr) (now again : Datetime)
    (batch : List (Int × Json)) :
    Program.Repeats (labelRepetition libraries labels key contentHash) anySession (fun _ => anySession)
      (upsertVersionBatch (batch.map (versionValues libraries datasource now)))
      (upsertVersionBatch (batch.map (versionValues libraries datasource again))) := by
  intro start value middle later _ completed grown _
  have moved := (eval_upsertVersionBatch libraries _ _).symm.trans completed
  split_ifs at moved with distinct
  obtain ⟨after, accepted, same⟩ := Option.map_eq_some_iff.mp moved
  cases same
  obtain ⟨final, repeated, unseen⟩ := upsertVersions_again again batch accepted grown.versions
  have keys : ((batch.map (versionValues libraries datasource again)).map (·.key)).Nodup := by
    rw [List.map_map] at distinct ⊢
    exact distinct
  refine ⟨trivial, { later with database := { later.database with versions := final } }, ?_,
    ⟨rfl, rfl, rfl, rfl, rfl, rfl, rfl, unseen, Nat.le_refl _⟩⟩
  refine (eval_upsertVersionBatch libraries _ _).trans ?_
  rw [if_pos keys, repeated]
  rfl

theorem insertEntryBatch_repeats (rows : List EntryValues) :
    Program.Repeats (labelRepetition libraries labels key contentHash) anySession (fun _ => anySession)
      (insertEntryBatch rows) (insertEntryBatch rows) := by
  intro start value middle later _ completed grown _
  have moved := (eval_insertEntryBatch libraries _ _).symm.trans completed
  obtain ⟨after, accepted, same⟩ := Option.map_eq_some_iff.mp moved
  cases same
  have fits := (insertEntries_isSome _ _ _).mp (Option.isSome_iff_exists.mpr ⟨after, accepted⟩)
  have complete := (insertEntries_inserted _ _ _ _ accepted).complete
  have repeated : insertEntries later.database later.database.entries rows =
      some later.database.entries := by
    refine insertEntries_again rows (fun values member => ?_) fun values member => ?_
    · obtain ⟨order, region, row, inside, same⟩ := fits values member
      obtain ⟨_, kept, _, _, rfl⟩ := grown.timeseries row inside
      exact ⟨order, region, _, kept, same⟩
    · obtain ⟨entry, known⟩ := Option.isSome_iff_exists.mp (complete values member)
      exact Option.isSome_iff_exists.mpr ⟨entry, grown.entries _ _ known⟩
  refine ⟨trivial, later, ?_, .refl _⟩
  refine (eval_insertEntryBatch libraries _ _).trans ?_
  rw [repeated]
  rfl

/-- Batches are repeated one by one. -/
theorem forBatches_repeats {Row Made : Type} (effect : List Made → Transaction Unit)
    (make remake : Row → Made)
    (each : ∀ batch : List Row, Program.Repeats (labelRepetition libraries labels key contentHash) anySession
      (fun _ => anySession) (effect (batch.map make)) (effect (batch.map remake)))
    (batches : List (List Row)) :
    Program.Repeats (labelRepetition libraries labels key contentHash) anySession (fun _ => anySession)
      (forBatches effect (batches.map (·.map make))) (forBatches effect (batches.map (·.map remake))) := by
  induction batches with
  | nil => exact Program.repeats_done fun _ _ => trivial
  | cons batch batches ih => exact (each batch).bind fun _ => ih

/-- The deltas of a snapshot are at most seen again. -/
theorem writeMarketOrderDeltas_repeats (snapshotId : Nat) (datasource : PyStr) (regionId : Int)
    (orders : List Json) (now again : Datetime) :
    Program.Repeats (labelRepetition libraries labels key contentHash) anySession (fun _ => anySession)
      (writeMarketOrderDeltas libraries snapshotId datasource regionId orders now)
      (writeMarketOrderDeltas libraries snapshotId datasource regionId orders again) := by
  refine (orFail_repeats _ fun _ _ _ _ => trivial).bind fun rows => ?_
  have versions : Program.Repeats (labelRepetition libraries labels key contentHash) anySession _ _ _ :=
    forBatches_repeats upsertVersionBatch _ _
      (fun batch => upsertVersionBatch_repeats datasource now again batch)
      (chunks deltaInsertBatchSize rows)
  have entries : Program.Repeats (labelRepetition libraries labels key contentHash) anySession _ _ _ :=
    forBatches_repeats insertEntryBatch (entryValues libraries snapshotId regionId) _
      (fun batch => insertEntryBatch_repeats _) (chunks deltaInsertBatchSize rows)
  rw [← chunks_map, ← chunks_map] at versions
  rw [← chunks_map] at entries
  exact versions.bind fun _ => entries

/-- An insert leaves a manifest of its content hash, and it answers with the new id. -/
theorem insertObjectFile_manifestOf {session final : Session} {row : ArchiveObjectFile}
    {reply : Option Nat}
    (moved : execute libraries (.insertObjectFile row) session = some (reply, final)) :
    ∃ id, final.database.manifestOf row.contentHash = some id ∧ reply.getD id = id := by
  simp only [execute] at moved
  split_ifs at moved with misfit taken
  all_goals cases moved
  · have found : (session.database.objectFiles.find? fun old =>
        old.contentHash = row.contentHash).isSome := List.find?_isSome.mpr (by simpa using taken)
    obtain ⟨first, search⟩ := Option.isSome_iff_exists.mp found
    refine ⟨first.id, ?_, rfl⟩
    rw [Database.manifestOf, search]
    rfl
  · have absent : (session.database.objectFiles.find? fun old =>
        old.contentHash = row.contentHash) = none := by
      rw [List.find?_eq_none]
      simpa using taken
    refine ⟨_, ?_, rfl⟩
    rw [Database.manifestOf, List.find?_append, absent, Option.none_or, List.find?_singleton]
    simp

/-- A completed search for the manifest finds it or makes it. -/
theorem parquetManifest_manifestOf {pyarrow : Pyarrow} {snapshotId : Nat} {regionId : Int}
    {identity : Identity} {payload : Bytes} {orders : List Json} {fetchedAt : Datetime}
    {start final : Session} {value : Option Nat}
    (completed : (selectObjectFileId contentHash >>= parquetManifest pyarrow snapshotId regionId identity
      contentHash payload orders fetchedAt).eval (execute libraries) start = some (value, final)) :
    ∃ id, value = some id ∧ final.database.manifestOf contentHash = some id := by
  change (parquetManifest pyarrow snapshotId regionId identity contentHash payload orders fetchedAt
    (start.database.manifestOf contentHash)).eval (execute libraries) start = some (value, final)
    at completed
  cases existing : start.database.manifestOf contentHash with
  | some id =>
      rw [existing] at completed
      cases completed
      exact ⟨id, rfl, existing⟩
  | none =>
      rw [existing] at completed
      obtain ⟨content, _, writes⟩ := eval_orFail libraries completed
      obtain ⟨⟨_, written⟩, _, inserts⟩ := Option.bind_eq_some_iff.mp writes
      obtain ⟨⟨reply, inserted⟩, moved, rest⟩ := Option.bind_eq_some_iff.mp inserts
      obtain ⟨id, found, answered⟩ := insertObjectFile_manifestOf moved
      cases reply with
      | some other =>
          cases rest
          exact ⟨id, congrArg some answered, found⟩
      | none =>
          cases rest
          exact ⟨id, found, found⟩

/-- The repeated search finds the manifest of the first one. -/
theorem parquetManifest_repeats (pyarrow : Pyarrow) (snapshotId : Nat) (regionId : Int)
    (identity : Identity) (payload : Bytes) (orders : List Json) (now again : Datetime) :
    Program.Repeats (labelRepetition libraries labels key contentHash) anySession
      (fun manifestId session => ∃ id, manifestId = some id ∧
        session.database.manifestOf contentHash = some id)
      (selectObjectFileId contentHash >>= parquetManifest pyarrow snapshotId regionId identity
        contentHash payload orders now)
      (selectObjectFileId contentHash >>= parquetManifest pyarrow snapshotId regionId identity
        contentHash payload orders again) := by
  intro start value middle later _ completed grown _
  obtain ⟨id, rfl, found⟩ := parquetManifest_manifestOf completed
  have present := grown.manifestOf found
  refine ⟨⟨id, rfl, found⟩, later, ?_, .refl _⟩
  change (parquetManifest pyarrow snapshotId regionId identity contentHash payload orders again
    (later.database.manifestOf contentHash)).eval (execute libraries) later = some (some id, later)
  rw [present]
  rfl

variable {settings : Settings}

/-- The repeated export answers with the manifest of the first one. -/
theorem writeMarketOrdersParquet_repeats (pyarrow : Pyarrow) (snapshotId : Nat) (regionId : Int)
    (identity : Identity) (payload : Bytes) (now again : Datetime) :
    Program.Repeats (labelRepetition libraries labels key contentHash) anySession
      (fun manifestId session => ∃ id, manifestId = some id ∧
        session.database.manifestOf contentHash = some id)
      (writeMarketOrdersParquet libraries settings pyarrow snapshotId regionId identity contentHash payload
        now)
      (writeMarketOrdersParquet libraries settings pyarrow snapshotId regionId identity contentHash payload
        again) := by
  refine (orFail_repeats _ fun _ _ _ _ => trivial).bind fun parsed =>
    (orFail_repeats _ fun _ _ _ _ => trivial).bind fun orders => ?_
  rw [← Program.bind_assoc, ← Program.bind_assoc]
  refine (parquetManifest_repeats pyarrow snapshotId regionId identity payload orders now again).bind
    fun manifestId => ?_
  split_ifs
  · exact (((writeMarketOrderDeltas_repeats snapshotId identity.datasource regionId orders now again).keep
      (fun session => ∃ id, manifestId = some id ∧ session.database.manifestOf contentHash = some id)
      fun _ _ grown known => known.imp fun _ found => ⟨found.1, grown.manifestOf found.2⟩).bind fun _ =>
        Program.repeats_done fun _ known => known.2).weaken (fun _ known => ⟨trivial, known⟩)
          fun _ _ known => known
  · exact Program.repeats_done fun _ known => known

/-- A snapshot that carries its label is not relabelled. -/
theorem labelSnapshot_repeats (labelled : labels) (snapshotId manifestId : Nat) :
    Program.Repeats (labelRepetition libraries labels key contentHash)
      (fun session => session.database.manifestOf contentHash = some manifestId ∧
        session.database.snapshotOf key = some snapshotId) (fun _ => anySession)
      (labelSnapshot snapshotId (some manifestId)) (labelSnapshot snapshotId (some manifestId)) := by
  intro start value middle later known completed grown steady
  have moved : execute libraries (.labelParquet snapshotId manifestId) start = some (value, middle) :=
    (Program.eval_call _ _).symm.trans completed
  have grows := execute_grown libraries _ _ _ moved
  have found := grown.snapshotOf (grows.snapshotOf known.2)
  have manifest := grown.manifestOf (grows.manifestOf known.1)
  have kept : (later.database.timeseries.map fun row =>
      if row.id = snapshotId then
        { row with
          parquetManifestId := some manifestId
          payloadStorage := .marketParquetDelta }
      else row) = later.database.timeseries := by
    refine (List.map_congr_left fun row member => ?_).trans (List.map_id _)
    split_ifs with same
    · obtain ⟨label, storage⟩ := steady labelled _ _ found manifest row member same
      rw [← label, ← storage]
      rfl
    · rfl
  have present : (later.database.objectFiles.any fun row => row.id = manifestId) = true := by
    obtain ⟨row, search, same⟩ := Option.map_eq_some_iff.mp manifest
    exact List.any_eq_true.mpr ⟨row, List.mem_of_find?_eq_some search, by simpa using same⟩
  refine ⟨trivial, later, ?_, .refl _⟩
  refine (Program.eval_call _ _).trans ?_
  change (if later.database.objectFiles.any (fun row => row.id = manifestId) then
    some ((), { later with database := { later.database with timeseries := _ } }) else none) = _
  rw [if_pos present, kept]

/-- The export of a snapshot is repeated without a change. -/
theorem storeParquet_repeats {now again : Datetime} {observed : Observation}
    (hash : contentHash = observed.contentHash) (snapshotId : Option Nat) (regionId : Option Int) :
    Program.Repeats (labelRepetition libraries (Labels libraries settings observed.identity.path) key
        contentHash)
      (fun session => (snapshotId.isSome = true ∧ session.database.snapshotOf key = snapshotId) ∧
        regionId.isSome = (marketOrdersRegion observed.identity.path).isSome)
      (fun _ => anySession) (storeParquet libraries settings now observed snapshotId regionId)
      (storeParquet libraries settings again observed snapshotId regionId) := by
  subst hash
  unfold storeParquet
  split
  · rename_i id region pyarrow present
    split_ifs with enabled
    · by_cases path : (marketOrdersRegion observed.identity.path).isSome = true
      · have labels : Labels libraries settings observed.identity.path :=
          ⟨path, Option.isSome_iff_exists.mpr ⟨pyarrow, present⟩, enabled⟩
        refine (((writeMarketOrdersParquet_repeats pyarrow id region observed.identity observed.payload
          now again).keep (fun session => session.database.snapshotOf key = some id)
          fun _ _ grown found => grown.snapshotOf found).bind fun manifestId => ?_).weaken
            (fun _ known => ⟨trivial, known.1.2⟩) fun _ _ known => known
        cases manifestId with
        | none => exact fun _ _ _ _ known => by obtain ⟨⟨_, none, _⟩, _⟩ := known; cases none
        | some manifestId =>
            refine (labelSnapshot_repeats labels id manifestId).weaken (fun session known => ?_)
              fun _ _ known => known
            obtain ⟨⟨other, same, found⟩, snapshot⟩ := known
            cases same
            exact ⟨found, snapshot⟩
      · exact fun _ _ _ _ known => absurd known.2.symm path
    · exact Program.repeats_done fun _ _ => trivial
  · exact Program.repeats_done fun _ _ => trivial

/-- A time-series call is repeated without a change. -/
theorem writeTimeSeries_repeats {now again : Datetime} (minute : again.minuteStart = now.minuteStart)
    {observed : Observation} (hash : contentHash = observed.contentHash)
    (keyed : key = timeseriesIdempotencyKey libraries observed.identity observed.contentHash now) :
    Program.Repeats (labelRepetition libraries (Labels libraries settings observed.identity.path) key
        contentHash) anySession (fun _ => anySession) (writeTimeSeries libraries settings now observed)
      (writeTimeSeries libraries settings again observed) :=
  (recordSnapshot_repeats minute observed keyed).bind fun recorded =>
    storeParquet_repeats hash recorded.1 recorded.2

/-- An event that is there is not stored again. -/
theorem insertEvent_repeats (identity : Identity) {row other : EventSnapshot}
    (payload : other.payload = row.payload) (fits : other.fits = row.fits) :
    Program.Repeats (labelRepetition libraries labels key contentHash) anySession (fun _ => anySession)
      (Program.call (I := archiveInterface) (.insertEvent identity row) : Transaction Unit)
      (Program.call (I := archiveInterface) (.insertEvent identity other) : Transaction Unit) := by
  intro start value middle later _ completed grown _
  have moved : execute libraries (.insertEvent identity row) start = some (value, middle) :=
    (Program.eval_call _ _).symm.trans completed
  simp only [execute] at moved
  split_ifs at moved with accepted
  obtain ⟨stored, kept, same⟩ := Option.map_eq_some_iff.mp moved
  cases same
  have filled : ∃ event, later.database.events identity = some event := by
    cases old : start.database.events identity with
    | some event => exact ⟨event, grown.events _ _ (by simp [old])⟩
    | none => exact ⟨_, grown.events _ { row with payload := stored } (by simp [old])⟩
  obtain ⟨event, present⟩ := filled
  refine ⟨trivial, later, ?_, .refl _⟩
  refine (Program.eval_call _ _).trans ?_
  change (if (identity.fits && other.fits) = true then _ else none) = _
  rw [fits, if_pos accepted, payload, kept, Option.map_some]
  simp only [present]
  rfl

end Statements

end EveApiCache
