import EveApiCache.Proof.Archive.Keys
import EveApiCache.Proof.Archive.Sound

/-!
This file shows when the delta tables describe a market-order snapshot.
-/

namespace EveApiCache
open Effects StepMachine

section Batches
variable {Row : Type} (handler : Program.Handler archiveInterface Session)

/-- What every batch makes for its rows and keeps is made for all rows. -/
theorem forBatches_ensures (effect : List Row → Transaction Unit) (holds : Session → Prop)
    (made : Row → Session → Prop) (broken : Session → Prop) (batches : List (List Row))
    (each : ∀ batch ∈ batches, ∀ session, holds session → (effect batch).Ensures handler
      (fun _ final => holds final ∧ (∀ row ∈ batch, made row final) ∧
        ∀ row, made row session → made row final) broken session)
    (session : Session) (start : holds session) :
    (forBatches effect batches).Ensures handler
      (fun _ final => holds final ∧ (∀ row ∈ batches.flatten, made row final) ∧
        ∀ row, made row session → made row final) broken session := by
  induction batches generalizing session with
  | nil => exact ⟨start, nofun, fun _ before => before⟩
  | cons batch batches ih =>
      refine (Program.ensures_bind _ _ _).mpr (Program.Ensures.mono
        (each batch (by simp) session start) (fun _ middle first => ?_) fun _ stopped => stopped)
      refine Program.Ensures.mono (ih (fun other member => each other (by simp [member])) middle first.1)
        (fun _ final rest => ⟨rest.1, fun row member => ?_, fun row before => ?_⟩)
        fun _ stopped => stopped
      · rcases List.mem_append.mp member with early | late
        · exact rest.2.2 row (first.2.1 row early)
        · exact rest.2.1 row late
      · exact rest.2.2 row (first.2.2 row before)

/-- The batches all complete exactly when each of them is accepted. -/
theorem forBatches_isSome (effect : List Row → Transaction Unit) (holds : Session → Prop)
    (accepted : List Row → Prop) (batches : List (List Row))
    (each : ∀ batch ∈ batches, ∀ session, holds session →
      (((effect batch).eval handler session).isSome = true ↔ accepted batch) ∧
        ∀ result, (effect batch).eval handler session = some result → holds result.2)
    (session : Session) (start : holds session) :
    ((forBatches effect batches).eval handler session).isSome = true ↔
      ∀ batch ∈ batches, accepted batch := by
  induction batches generalizing session with
  | nil => simp [forBatches, Program.eval]
  | cons batch batches ih =>
      obtain ⟨first, keeps⟩ := each batch (by simp) session start
      rw [List.forall_mem_cons, ← first]
      change ((effect batch >>= fun _ => forBatches effect batches).eval handler session).isSome = true ↔ _
      rw [Program.eval_bind]
      cases moved : (effect batch).eval handler session with
      | none => simp
      | some result =>
          simpa using ih (fun other member => each other (by simp [member])) result.2 (keeps result moved)

theorem chunkRounds_flatten (size rounds : Nat) (rows : List Row) (positive : 0 < size)
    (enough : rows.length ≤ rounds) : (chunkRounds size rounds rows).flatten = rows := by
  induction rounds generalizing rows with
  | zero =>
      obtain rfl := List.eq_nil_of_length_eq_zero (Nat.le_zero.mp enough)
      rfl
  | succ rounds ih =>
      cases rows with
      | nil => rfl
      | cons row rows =>
          have shorter : ((row :: rows).drop size).length ≤ rounds := by
            rw [List.length_drop]
            omega
          change ((row :: rows).take size ::
            chunkRounds size rounds ((row :: rows).drop size)).flatten = row :: rows
          rw [List.flatten_cons, ih _ shorter, List.take_append_drop]

/-- The chunks hold the rows in their order. -/
theorem chunks_flatten (size : Nat) (rows : List Row) (positive : 0 < size) :
    (chunks size rows).flatten = rows :=
  chunkRounds_flatten size _ rows positive le_rfl

theorem chunkRounds_map {Other : Type} (size rounds : Nat) (rows : List Row) (change : Row → Other) :
    chunkRounds size rounds (rows.map change) = (chunkRounds size rounds rows).map (·.map change) := by
  induction rounds generalizing rows with
  | zero => rfl
  | succ rounds ih =>
      cases rows with
      | nil => rfl
      | cons row rows =>
          have rest := ih ((row :: rows).drop size)
          simp only [List.map_cons, chunkRounds, List.map_take, List.map_drop] at rest ⊢
          rw [rest]

theorem chunks_map {Other : Type} (size : Nat) (rows : List Row) (change : Row → Other) :
    chunks size (rows.map change) = (chunks size rows).map (·.map change) := by
  unfold chunks
  rw [List.length_map, chunkRounds_map]

end Batches

variable (libraries : Libraries)

/-- A call has recorded its snapshot under an id. -/
def Recorded (database : Database) (snapshotId : Nat) (identity : Identity) (contentHash : PyStr) :
    Prop :=
  ∃ row ∈ database.timeseries, row.id = snapshotId ∧ row.identity = identity ∧
    row.contentHash = contentHash

theorem Recorded.mono {before after : Database} {snapshotId : Nat} {identity : Identity}
    {contentHash : PyStr} (recorded : Recorded before snapshotId identity contentHash)
    (kept : Kept before after) : Recorded after snapshotId identity contentHash := by
  obtain ⟨row, member, identified, same, hashed⟩ := recorded
  obtain ⟨_, present, _, _, rfl⟩ := kept.timeseries row member
  exact ⟨_, present, identified, same, hashed⟩

/-- An accepted insert of a snapshot appends its row, or finds its idempotency key taken. -/
theorem insertTimeseries_reply {session final : Session} {row : TimeSeriesSnapshot}
    {reply : Option Nat} (moved : execute libraries (.insertTimeseries row) session = some (reply, final)) :
    row.fits = true ∧
      ((∃ id, reply = some id ∧
          final.database.timeseries = session.database.timeseries ++ [{ row with id := id }]) ∨
        reply = none ∧ final.database.timeseries = session.database.timeseries) := by
  simp only [execute] at moved
  split_ifs at moved with misfit
  all_goals
    cases moved
    refine ⟨by simpa using misfit, ?_⟩
  · exact .inr ⟨rfl, rfl⟩
  · exact .inl ⟨_, rfl, rfl⟩

theorem TimeSeriesSnapshot.fits_identity {row : TimeSeriesSnapshot} (fits : row.fits = true) :
    row.identity.fits = true := by
  simp only [TimeSeriesSnapshot.fits, Bool.and_eq_true] at fits
  exact fits.1.1

/-- The row under an idempotency key has the identity and the hash of the key. -/
theorem Sound.find_recorded {session : Session} (injective : Function.Injective libraries.sha256)
    (sound : Sound libraries session.database) {observed : Observation} {now : Datetime}
    (fits : observed.identity.fits = true) {id : Nat}
    (found : (session.database.timeseries.find? fun row => row.idempotencyKey =
      some (timeseriesIdempotencyKey libraries observed.identity observed.contentHash now)).map (·.id) =
        some id) :
    Recorded session.database id observed.identity observed.contentHash := by
  obtain ⟨row, search, rfl⟩ := Option.map_eq_some_iff.mp found
  have member := List.mem_of_find?_eq_some search
  have keys := (sound.keyed row member).symm.trans (by simpa using List.find?_some search)
  obtain ⟨identity, _, hash⟩ := timeseriesIdempotencyKey_injective libraries injective
    (sound.fits row member) fits (Option.some.inj keys)
  exact ⟨row, member, rfl, identity, hash⟩

/-- A statement that is warranted in every archive ensures soundness by itself. -/
theorem call_sound (statement : Statement) (session : Session) (sound : SoundSession libraries session)
    (warranted : statement.Warranted libraries session.database) :
    (Program.call (I := archiveInterface) statement).Ensures (execute libraries)
      (fun _ final => SoundSession libraries final ∧ Kept session.database final.database)
      (SoundSession libraries) session :=
  ⟨sound, fun result moved => ⟨execute_sound libraries statement session result sound warranted moved,
    execute_kept libraries statement session result moved⟩⟩

theorem orFail_ensures {A : Type} {ok : A → Session → Prop} {broken : Session → Prop}
    {session : Session} (value : Option A) (absent : value = none → broken session)
    (present : ∀ found, value = some found → ok found session) :
    (orFail value).Ensures (execute libraries) ok broken session := by
  cases value with
  | none => exact absent rfl
  | some found => exact present found rfl

/-- The first part of a time-series call keeps the archive sound and records its snapshot. -/
theorem recordSnapshot_ensures (injective : Function.Injective libraries.sha256) (now : Datetime)
    (observed : Observation) (session : Session) (sound : SoundSession libraries session) :
    (recordSnapshot libraries now observed).Ensures (execute libraries)
      (fun recorded final => SoundSession libraries final ∧ ∀ id, recorded.1 = some id →
        Recorded final.database id observed.identity observed.contentHash)
      (SoundSession libraries) session := by
  refine (Program.ensures_bind _ _ _).mpr (Program.Ensures.mono
    (call_sound libraries _ session sound trivial) (fun _ stored holds => ?_) fun _ stopped => stopped)
  have region : (marketOrdersRegionId observed.identity.path).Ensures (execute libraries)
      (fun _ final => final = stored) (fun final => final = stored) stored := by
    unfold marketOrdersRegionId
    split
    · rfl
    · exact orFail_ensures libraries _ (fun _ => rfl) fun _ _ => rfl
  refine (Program.ensures_bind _ _ _).mpr (Program.Ensures.mono region (fun regionId same equal => ?_)
    fun same equal => equal ▸ holds.1)
  subst equal
  refine ⟨holds.1, fun result moved => ?_⟩
  obtain ⟨reply, inserted⟩ := result
  have next := execute_sound libraries _ _ _ holds.1
    (show (Statement.insertTimeseries (snapshotRow libraries now observed)).Warranted libraries _
      from ⟨rfl, rfl⟩) moved
  obtain ⟨fits, ⟨id, rfl, rows⟩ | ⟨rfl, _⟩⟩ := insertTimeseries_reply libraries moved
  · refine ⟨next, fun other equal => ?_⟩
    obtain rfl := Option.some.inj equal
    exact ⟨_, rows ▸ List.mem_append_right _ (List.mem_singleton_self _), rfl, rfl, rfl⟩
  · refine ⟨next, fun result looked => ?_⟩
    cases looked
    exact ⟨next, fun id found => next.working.find_recorded libraries injective
      (TimeSeriesSnapshot.fits_identity fits) found⟩

/-- These are the version rows and the entry rows of the loop in `_write_market_order_deltas`. -/
def versionValues (datasource : PyStr) (fetchedAt : Datetime) (row : Int × Json) : VersionValues where
  key := ⟨datasource, row.1, versionHash libraries row.2⟩
  payload := row.2
  seenAt := fetchedAt

def entryValues (snapshotId : Nat) (regionId : Int) (row : Int × Json) : EntryValues where
  snapshotId := snapshotId
  orderId := row.1
  versionHash := versionHash libraries row.2
  regionId := regionId

/-- A program that upserts one batch makes its versions present. -/
theorem upsertVersions_ensures (batch : List VersionValues) (session : Session)
    (sound : SoundSession libraries session)
    (warranted : (Statement.upsertVersions batch).Warranted libraries session.database) :
    (upsertVersionBatch batch).Ensures (execute libraries)
      (fun _ final => (SoundSession libraries final ∧ Kept session.database final.database) ∧
        (∀ values ∈ batch, (final.database.versions values.key).isSome = true) ∧
        ∀ key, (session.database.versions key).isSome = true →
          (final.database.versions key).isSome = true) (SoundSession libraries) session := by
  refine ⟨sound, fun result moved => ⟨⟨execute_sound libraries _ session result sound warranted moved,
    execute_kept libraries (.upsertVersions batch) session result moved⟩, ?_⟩⟩
  simp only [execute] at moved
  split_ifs at moved
  obtain ⟨after, accepted, rfl⟩ := Option.map_eq_some_iff.mp moved
  have upserted := upsertVersions_upserted libraries batch _ _ accepted
  refine ⟨upserted.complete, fun key present => ?_⟩
  obtain ⟨row, known⟩ := Option.isSome_iff_exists.mp present
  obtain ⟨last, reached, _⟩ := upserted.kept key row known
  exact Option.isSome_iff_exists.mpr ⟨last, reached⟩

/-- A program that inserts one batch makes its entries present and leaves the versions. -/
theorem insertEntries_ensures (batch : List EntryValues) (session : Session)
    (sound : SoundSession libraries session)
    (warranted : (Statement.insertEntries batch).Warranted libraries session.database) :
    (insertEntryBatch batch).Ensures (execute libraries)
      (fun _ final => ((SoundSession libraries final ∧ Kept session.database final.database) ∧
          final.database.versions = session.database.versions) ∧
        (∀ values ∈ batch,
          (final.database.entries (values.snapshotId, values.orderId)).isSome = true) ∧
        ∀ key, (session.database.entries key).isSome = true →
          (final.database.entries key).isSome = true) (SoundSession libraries) session := by
  refine ⟨sound, fun result moved => ⟨⟨⟨execute_sound libraries _ session result sound warranted moved,
    execute_kept libraries (.insertEntries batch) session result moved⟩, ?_⟩, ?_⟩⟩
  all_goals
    obtain ⟨after, accepted, rfl⟩ := Option.map_eq_some_iff.mp moved
  · rfl
  · have inserted := insertEntries_inserted _ batch _ _ accepted
    refine ⟨inserted.complete, fun key present => ?_⟩
    obtain ⟨row, known⟩ := Option.isSome_iff_exists.mp present
    exact Option.isSome_iff_exists.mpr ⟨row, inserted.kept key row known⟩

theorem mem_chunks {Row : Type} {rows batch : List Row} {row : Row}
    (chosen : batch ∈ chunks deltaInsertBatchSize rows) (member : row ∈ batch) : row ∈ rows := by
  rw [← chunks_flatten deltaInsertBatchSize rows (by decide)]
  exact List.mem_flatten.mpr ⟨batch, chosen, member⟩

/-- The delta statements of a recorded snapshot keep the archive sound and enter every order. -/
theorem writeMarketOrderDeltas_ensures (session : Session) (snapshotId : Nat) (identity : Identity)
    (payload : Bytes) (orders : List Json) (regionId : Int) (fetchedAt : Datetime)
    (sound : SoundSession libraries session)
    (recorded : Recorded session.database snapshotId identity (libraries.sha256 payload))
    (parsed : Json.loads libraries.floatRepr payload = some (.arr orders)) :
    (writeMarketOrderDeltas libraries snapshotId identity.datasource regionId orders
        fetchedAt).Ensures (execute libraries)
      (fun _ final => SoundSession libraries final ∧
        Recorded final.database snapshotId identity (libraries.sha256 payload) ∧
        ∀ rows, orderRows libraries orders = some rows →
          ∀ row ∈ rows, (final.database.entries (snapshotId, row.1)).isSome = true)
      (SoundSession libraries) session := by
  refine (Program.ensures_bind _ _ _).mpr (orFail_ensures libraries _ (fun _ => sound) ?_)
  intro rows listed
  have first := forBatches_ensures (execute libraries)
    upsertVersionBatch (fun state => SoundSession libraries state ∧
      Recorded state.database snapshotId identity (libraries.sha256 payload))
    (fun values state => (state.database.versions values.key).isSome = true) (SoundSession libraries)
    (chunks deltaInsertBatchSize (rows.map (versionValues libraries identity.datasource fetchedAt)))
    (fun batch chosen state holds => by
      refine Program.Ensures.mono (upsertVersions_ensures libraries batch state holds.1 ?_)
        (fun _ final after => ⟨⟨after.1.1, holds.2.mono after.1.2⟩, after.2.1, fun values =>
          after.2.2 values.key⟩) fun _ stopped => stopped
      intro values member
      obtain ⟨row, _, rfl⟩ := List.mem_map.mp (mem_chunks chosen member)
      rfl)
    session ⟨sound, recorded⟩
  refine (Program.ensures_bind _ _ _).mpr (Program.Ensures.mono first (fun _ middle versions => ?_)
    fun _ stopped => stopped)
  rw [chunks_flatten _ _ (by decide)] at versions
  obtain ⟨⟨sound, recorded⟩, present, _⟩ := versions
  have second := forBatches_ensures (execute libraries)
    insertEntryBatch (fun state => (SoundSession libraries state ∧
      Recorded state.database snapshotId identity (libraries.sha256 payload)) ∧
        ∀ row ∈ rows, (state.database.versions
          ⟨identity.datasource, row.1, versionHash libraries row.2⟩).isSome = true)
    (fun values state =>
      (state.database.entries (values.snapshotId, values.orderId)).isSome = true)
    (SoundSession libraries)
    (chunks deltaInsertBatchSize (rows.map (entryValues libraries snapshotId regionId)))
    (fun batch chosen state holds => by
      refine Program.Ensures.mono (insertEntries_ensures libraries batch state holds.1.1 ?_)
        (fun _ final after => ⟨⟨⟨after.1.1.1, holds.1.2.mono after.1.1.2⟩, after.1.2 ▸ holds.2⟩,
          after.2.1, fun values => after.2.2 (values.snapshotId, values.orderId)⟩)
        fun _ stopped => stopped
      intro values member
      obtain ⟨row, inside, rfl⟩ := List.mem_map.mp (mem_chunks chosen member)
      obtain ⟨snapshot, stored, identified, same, hashed⟩ := holds.1.2
      exact ⟨snapshot, stored, identified,
        ⟨row.2, ⟨payload, orders, rows, hashed.symm, parsed, listed, inside⟩, rfl⟩,
        same ▸ holds.2 row inside⟩)
    middle ⟨⟨sound, recorded⟩, fun row inside =>
      present (versionValues libraries identity.datasource fetchedAt row) (List.mem_map_of_mem inside)⟩
  refine Program.Ensures.mono second (fun _ final after => ?_) fun _ stopped => stopped
  rw [chunks_flatten _ _ (by decide)] at after
  refine ⟨after.1.1.1, after.1.1.2, fun others again row inside => ?_⟩
  obtain rfl := Option.some.inj (listed.symm.trans again)
  exact after.2.1 (entryValues libraries snapshotId regionId row) (List.mem_map_of_mem inside)

/-- These statements look up or store a Parquet file and its manifest. -/
def Statement.Filing : Statement → Prop
  | .selectObjectFileId _ => True
  | .writeParquet _ _ => True
  | .insertObjectFile _ => True
  | _ => False

/-- The later session differs only in the object files. -/
def Filed (before after : Session) : Prop :=
  ∃ objectFiles sequence files, after = { before with
    database := { before.database with
      objectFiles := objectFiles
      objectFileSequence := sequence }
    files := files }

theorem execute_filed (start : Session) (statement : Statement) (session : Session)
    (result : statement.Reply × Session) (filing : statement.Filing) (filed : Filed start session)
    (moved : execute libraries statement session = some result) : Filed start result.2 := by
  obtain ⟨_, _, _, rfl⟩ := filed
  cases statement with
  | selectObjectFileId hash =>
      cases moved
      exact ⟨_, _, _, rfl⟩
  | writeParquet path content =>
      cases moved
      exact ⟨_, _, _, rfl⟩
  | insertObjectFile row =>
      simp only [execute] at moved
      split_ifs at moved <;> cases moved <;> exact ⟨_, _, _, rfl⟩
  | _ => exact filing.elim

theorem parquetManifest_filing (pyarrow : Pyarrow) (snapshotId : Nat) (regionId : Int)
    (identity : Identity) (contentHash : PyStr) (payload : Bytes) (orders : List Json)
    (fetchedAt : Datetime) (existing : Option Nat) :
    (parquetManifest pyarrow snapshotId regionId identity contentHash payload orders fetchedAt
      existing).Only Statement.Filing := by
  cases existing with
  | some id => trivial
  | none =>
      refine (orFail_only _ _).bind fun content => (call_only _ _ trivial).bind fun _ =>
        (call_only _ _ trivial).bind fun inserted => ?_
      cases inserted with
      | some id => trivial
      | none => exact call_only _ _ trivial

/-- Storing the manifest changes only the object files. -/
theorem parquetManifest_filed (pyarrow : Pyarrow) (snapshotId : Nat) (regionId : Int)
    (identity : Identity) (contentHash : PyStr) (payload : Bytes) (orders : List Json)
    (fetchedAt : Datetime) (existing : Option Nat) (session : Session) :
    (parquetManifest pyarrow snapshotId regionId identity contentHash payload orders fetchedAt
      existing).Ensures (execute libraries) (fun _ final => Filed session final) (Filed session)
        session := by
  refine Program.ensures_of_only (execute libraries) (Filed session)
    (fun statement state result filing filed moved => ?_) (parquetManifest_filing _ _ _ _ _ _ _ _ _)
    ⟨session.database.objectFiles, session.database.objectFileSequence, session.files, rfl⟩
  exact execute_filed libraries session statement state result filing filed moved

theorem Filed.sound {before after : Session} (filed : Filed before after)
    (sound : SoundSession libraries before) : SoundSession libraries after := by
  obtain ⟨_, _, _, rfl⟩ := filed
  exact ⟨sound.working.of_same libraries rfl rfl rfl, sound.committed, sound.fresh, sound.restored⟩

theorem Filed.recorded {before after : Session} {snapshotId : Nat} {identity : Identity}
    {contentHash : PyStr} (filed : Filed before after)
    (recorded : Recorded before.database snapshotId identity contentHash) :
    Recorded after.database snapshotId identity contentHash := by
  obtain ⟨_, _, _, rfl⟩ := filed
  exact recorded

variable (settings : Settings)

/-- Every order of a payload has an entry in its snapshot. -/
def Entered (snapshotId : Nat) (payload : Bytes) (database : Database) : Prop :=
  ∀ orders rows, Json.loads libraries.floatRepr payload = some (.arr orders) →
    orderRows libraries orders = some rows →
      ∀ row ∈ rows, (database.entries (snapshotId, row.1)).isSome = true

/-- The Parquet part of a recorded snapshot keeps the archive sound, and it enters the orders when the
deltas are on. -/
theorem writeMarketOrdersParquet_ensures (pyarrow : Pyarrow) (now : Datetime)
    (observed : Observation) (snapshotId : Nat) (regionId : Int) (session : Session)
    (sound : SoundSession libraries session)
    (hashed : observed.contentHash = libraries.sha256 observed.payload)
    (recorded : Recorded session.database snapshotId observed.identity observed.contentHash) :
    (writeMarketOrdersParquet libraries settings pyarrow snapshotId regionId observed.identity
        observed.contentHash observed.payload now).Ensures (execute libraries)
      (fun _ final => SoundSession libraries final ∧ (settings.enableMarketOrderDeltas = true →
        Entered libraries snapshotId observed.payload final.database))
      (SoundSession libraries) session := by
  refine (Program.ensures_bind _ _ _).mpr (orFail_ensures libraries _ (fun _ => sound) ?_)
  intro value parsed
  refine (Program.ensures_bind _ _ _).mpr (orFail_ensures libraries _ (fun _ => sound) ?_)
  intro orders list
  obtain rfl : value = .arr orders := by
    cases value <;> cases list
    rfl
  refine (Program.ensures_bind _ _ _).mpr ⟨sound, fun result looked => ?_⟩
  cases looked
  refine (Program.ensures_done _ _).mpr ?_
  refine (Program.ensures_bind _ _ _).mpr (Program.Ensures.mono
    (parquetManifest_filed libraries _ _ _ _ _ _ _ _ _ _) (fun manifest middle filed => ?_)
    fun middle filed => filed.sound libraries sound)
  split_ifs with deltas
  · refine (Program.ensures_bind _ _ _).mpr (Program.Ensures.mono
      (writeMarketOrderDeltas_ensures libraries middle snapshotId observed.identity observed.payload
        orders regionId now (filed.sound libraries sound) (hashed ▸ filed.recorded recorded) parsed)
      (fun _ final holds => ⟨holds.1, fun _ others rows again listed => ?_⟩) fun _ stopped => stopped)
    obtain rfl : orders = others := by
      rw [parsed] at again
      exact Json.arr.inj (Option.some.inj again)
    exact holds.2.2 rows listed
  · exact ⟨filed.sound libraries sound, fun impossible => absurd impossible deltas⟩

/-- The Parquet part of a call keeps the archive sound once the snapshot is recorded. -/
theorem storeParquet_sound (now : Datetime) (observed : Observation) (snapshotId : Option Nat)
    (regionId : Option Int) (session : Session) (sound : SoundSession libraries session)
    (hashed : observed.contentHash = libraries.sha256 observed.payload)
    (recorded : ∀ id, snapshotId = some id →
      Recorded session.database id observed.identity observed.contentHash) :
    (storeParquet libraries settings now observed snapshotId regionId).Ensures (execute libraries)
      (fun _ final => SoundSession libraries final) (SoundSession libraries) session := by
  unfold storeParquet
  split
  · rename_i id region pyarrow _
    split_ifs
    · refine (Program.ensures_bind _ _ _).mpr (Program.Ensures.mono (writeMarketOrdersParquet_ensures
        libraries settings pyarrow now observed id region session sound hashed (recorded id rfl))
        (fun manifest middle holds => ?_) fun _ stopped => stopped)
      cases manifest with
      | none => exact holds.1
      | some manifest =>
          exact Program.Ensures.mono (call_sound libraries _ middle holds.1 trivial)
            (fun _ _ after => after.1) fun _ stopped => stopped
    · exact sound
  · exact sound

/-- A call of `write_snapshot` keeps the archive sound. -/
theorem writeSnapshot_sound (injective : Function.Injective libraries.sha256) (now : Datetime)
    (observed : Observation) (session : Session) (sound : SoundSession libraries session)
    (hashed : observed.contentHash = libraries.sha256 observed.payload) :
    (writeSnapshot libraries settings now observed).Ensures (execute libraries)
      (fun _ final => SoundSession libraries final) (SoundSession libraries) session := by
  have call (statement : Statement) (state : Session) (holds : SoundSession libraries state)
      (warranted : statement.Warranted libraries state.database) :
      (Program.call (I := archiveInterface) statement).Ensures (execute libraries)
        (fun _ final => SoundSession libraries final) (SoundSession libraries) state :=
    Program.Ensures.mono (call_sound libraries statement state holds warranted)
      (fun _ _ after => after.1) fun _ stopped => stopped
  unfold writeSnapshot
  cases observed.archiveType with
  | none => exact sound
  | timeSeries =>
      refine (Program.ensures_bind _ _ _).mpr (Program.Ensures.mono ?_
        (fun _ middle holds => call .commit middle holds trivial) fun _ stopped => stopped)
      refine (Program.ensures_bind _ _ _).mpr (Program.Ensures.mono
        (recordSnapshot_ensures libraries injective now observed session sound)
        (fun recorded middle holds => storeParquet_sound libraries settings now observed recorded.1
          recorded.2 middle holds.1 hashed holds.2) fun _ stopped => stopped)
  | reference =>
      refine (Program.ensures_bind _ _ _).mpr (orFail_ensures libraries _ (fun _ => sound) ?_)
      intro payload _
      exact (Program.ensures_bind _ _ _).mpr (Program.Ensures.mono (call _ session sound trivial)
        (fun _ middle holds => call .commit middle holds trivial) fun _ stopped => stopped)
  | event =>
      refine (Program.ensures_bind _ _ _).mpr (orFail_ensures libraries _ (fun _ => sound) ?_)
      intro payload _
      exact (Program.ensures_bind _ _ _).mpr (Program.Ensures.mono (call _ session sound trivial)
        (fun _ middle holds => call .commit middle holds trivial) fun _ stopped => stopped)

theorem SoundSession.rollback {session : Session} (sound : SoundSession libraries session) :
    SoundSession libraries session.rollback :=
  ⟨sound.committed.of_same libraries rfl rfl rfl, sound.committed.of_same libraries rfl rfl rfl,
    sound.restored, sound.restored⟩

/-- Every reachable archive is sound. -/
theorem reachable_sound (injective : Function.Injective libraries.sha256) {session : Session}
    (reached : (archiveMachine libraries settings).Reachable session) :
    SoundSession libraries session := by
  refine Machine.Guarded.invariant (SoundSession libraries) ?_ ?_ reached
  · rintro session ⟨empty, idle⟩
    have both : session.database = .empty := idle.trans empty
    refine ⟨both ▸ sound_empty libraries, empty ▸ sound_empty libraries, ?_, ?_⟩
    · rw [both]
      nofun
    · rw [empty]
      nofun
  · intro session call next sound _ moved
    have transacted (fault : Option Nat) (program : Transaction Unit)
        (ensured : program.Ensures (execute libraries) (fun _ final => SoundSession libraries final)
          (SoundSession libraries) session) :
        SoundSession libraries (transact libraries fault program session).2 := by
      have ended := Program.run_of_ensures fault program session ensured
      unfold transact
      split at ended
      · rename_i same
        rw [same]
        exact ended.rollback libraries
      · rename_i same
        rw [same]
        exact ended.rollback libraries
    cases moved
    cases call with
    | snapshot now observed fault =>
        exact transacted fault _
          (writeSnapshot_sound libraries settings injective now _ session sound rfl)
    | names now datasource payload fault =>
        refine transacted fault _ (Program.ensures_of_only (execute libraries) (SoundSession libraries)
          ?_ (writeNames_naming libraries now datasource payload) sound)
        intro statement state result naming holds moved
        exact execute_sound libraries statement state result holds
          (by cases statement <;> first | exact naming.elim | trivial) moved

/-- A call of `write_snapshot` on a reachable archive has recorded its snapshot, and it may have
stored the manifest as well. -/
def Underway (session : Session) (snapshotId : Nat) (datasource : PyStr) (payload : Bytes) : Prop :=
  ∃ before now, ∃ observed : Observation, ∃ regionId opened,
    (archiveMachine libraries settings).Reachable before ∧
      (recordSnapshot libraries now (observed.hashed libraries)).eval (execute libraries) before =
        some ((some snapshotId, regionId), opened) ∧
      observed.identity.datasource = datasource ∧ observed.payload = payload ∧ Filed opened session

theorem Underway.sound {session : Session} {snapshotId : Nat} {datasource : PyStr} {payload : Bytes}
    (injective : Function.Injective libraries.sha256)
    (underway : Underway libraries settings session snapshotId datasource payload) :
    SoundSession libraries session ∧ ∃ identity, identity.datasource = datasource ∧
      Recorded session.database snapshotId identity (libraries.sha256 payload) := by
  obtain ⟨before, now, observed, regionId, opened, reached, evaluated, rfl, rfl, filed⟩ := underway
  have recorded := (recordSnapshot_ensures libraries injective now _ before
    (reachable_sound libraries settings injective reached)).eval evaluated
  exact ⟨filed.sound libraries recorded.1, _, rfl, filed.recorded (recorded.2 _ rfl)⟩

/-- This is the order id of an object that has an integer there. -/
def orderId : Json → Option Int
  | .obj fields =>
      match Json.field (text "order_id") fields with
      | some (.int id) => some id
      | _ => none
  | _ => none

/-- An order has a `BIGINT` order id, and `JSONB` can hold it. -/
def IsOrder (order : Json) : Prop :=
  ∃ id, orderId order = some id ∧ bigint id = true ∧ (storedJson libraries order).isSome = true

/-- The entries of a snapshot are the order ids of a list, and each leads to an order of the list. -/
structure Describes (database : Database) (snapshotId : Nat) (datasource : PyStr)
    (orders : List Json) : Prop where
  complete : ∀ order ∈ orders, ∀ id, orderId order = some id →
    (database.entries (snapshotId, id)).isSome = true
  correct : ∀ id entry, database.entries (snapshotId, id) = some entry →
    ∃ order ∈ orders, orderId order = some id ∧ ∃ version,
      database.versions ⟨datasource, id, entry.versionHash⟩ = some version ∧
        storedJson libraries order = some version.payload

/-- No batch of a list holds two orders with one order id and one canonical text. -/
def DistinctBatches (orders : List Json) : Prop :=
  ∀ batch ∈ chunks deltaInsertBatchSize orders,
    (batch.map fun order => (orderId order, order.canonical)).Nodup

/-- The loop keeps every order of a list of orders. -/
theorem orderRows_orders (orders : List Json) (each : ∀ order ∈ orders, IsOrder libraries order) :
    orderRows libraries orders = some (orders.map fun order => ((orderId order).getD 0, order)) := by
  induction orders with
  | nil => rfl
  | cons order orders ih =>
      obtain ⟨id, identified, _, _⟩ := each order (by simp)
      have rest := ih fun other member => each other (by simp [member])
      cases order with
      | obj fields =>
          have found : Json.field (text "order_id") fields = some (.int id) := by
            simp only [orderId] at identified
            split at identified
            · rename_i found
              rw [found, Option.some.inj identified]
            · cases identified
          simp [orderRows, found, intOf, rest, orderId]
      | _ => simp [orderId] at identified

/-- Sound entries of a recorded snapshot lead to the orders of its payload. -/
theorem Sound.entry_correct {database : Database} (injective : Function.Injective libraries.sha256)
    (sound : Sound libraries database) {snapshotId : Nat} {identity : Identity} {payload : Bytes}
    {orders : List Json}
    (recorded : Recorded database snapshotId identity (libraries.sha256 payload))
    (parsed : Json.loads libraries.floatRepr payload = some (.arr orders))
    (each : ∀ order ∈ orders, IsOrder libraries order) {id : Int} {entry : MarketOrderSnapshotEntry}
    (stored : database.entries (snapshotId, id) = some entry) :
    ∃ order ∈ orders, orderId order = some id ∧ ∃ version,
      database.versions ⟨identity.datasource, id, entry.versionHash⟩ = some version ∧
        storedJson libraries order = some version.payload := by
  obtain ⟨row, member, identified, ⟨order, ⟨other, others, rows, hashed, reads, listed, inside⟩, hash⟩,
    present⟩ := sound.entries snapshotId id entry stored
  obtain ⟨snapshot, inTable, sameId, rfl, content⟩ := recorded
  obtain rfl : row = snapshot :=
    List.inj_on_of_nodup_map sound.distinct member inTable (identified.trans sameId.symm)
  obtain rfl : other = payload := injective (hashed.trans content)
  obtain rfl : orders = others := by
    rw [parsed] at reads
    exact Json.arr.inj (Option.some.inj reads)
  rw [orderRows_orders libraries orders each] at listed
  obtain rfl := Option.some.inj listed
  obtain ⟨found, inList, same⟩ := List.mem_map.mp inside
  obtain ⟨rfl, rfl⟩ := Prod.mk.inj same
  obtain ⟨version, known⟩ := Option.isSome_iff_exists.mp present
  obtain ⟨_, has, _, _⟩ := each found inList
  refine ⟨found, inList, by rw [has]; rfl, version, known, ?_⟩
  obtain ⟨writer, wrote, payload⟩ := sound.versions _ version known
  have texts : writer.canonical = found.canonical :=
    encode_injective (injective (wrote.trans hash))
  unfold storedJson at payload ⊢
  rw [← texts]
  exact payload

theorem eval_upsertVersionBatch (rows : List VersionValues) (session : Session) :
    (upsertVersionBatch rows).eval (execute libraries) session =
      if (rows.map (·.key)).Nodup then
        (upsertVersions libraries session.database.versions rows).map fun versions =>
          ((), { session with database := { session.database with versions := versions } })
      else none :=
  Program.eval_call _ _

theorem eval_insertEntryBatch (rows : List EntryValues) (session : Session) :
    (insertEntryBatch rows).eval (execute libraries) session =
      (insertEntries session.database session.database.entries rows).map fun entries =>
        ((), { session with database := { session.database with entries := entries } }) :=
  Program.eval_call _ _

/-- The upsert of some orders is accepted when no two of them have one key. -/
theorem upsertVersionBatch_isSome (injective : Function.Injective libraries.sha256)
    (datasource : PyStr) (fits : isVarchar 20 datasource = true) (fetchedAt : Datetime)
    (batch : List Json) (each : ∀ order ∈ batch, IsOrder libraries order) (session : Session) :
    ((upsertVersionBatch (batch.map fun order =>
        versionValues libraries datasource fetchedAt ((orderId order).getD 0, order))).eval
      (execute libraries) session).isSome = true ↔
      (batch.map fun order => (orderId order, order.canonical)).Nodup := by
  have keys : ((batch.map fun order => versionValues libraries datasource fetchedAt
      ((orderId order).getD 0, order)).map (·.key)).Nodup ↔
        (batch.map fun order => (orderId order, order.canonical)).Nodup := by
    rw [List.map_map, List.Nodup, List.Nodup, List.pairwise_map, List.pairwise_map]
    refine List.Pairwise.iff_of_mem fun {first second} one two => not_congr ?_
    obtain ⟨left, idLeft, _, _⟩ := each first one
    obtain ⟨right, idRight, _, _⟩ := each second two
    simp only [Function.comp_apply, versionValues, idLeft, idRight, Option.getD_some,
      VersionKey.mk.injEq, true_and, Prod.mk.injEq, Option.some.injEq]
    exact and_congr_right fun _ => ⟨fun hashes => encode_injective (injective hashes),
      fun texts => congrArg (fun text => libraries.sha256 (encode text)) texts⟩
  rw [← keys, eval_upsertVersionBatch]
  split_ifs with distinct
  · rw [Option.isSome_map]
    refine iff_of_true (upsertVersions_isSome libraries _ _ fun values member => ?_) distinct
    obtain ⟨order, inside, rfl⟩ := List.mem_map.mp member
    obtain ⟨id, identified, big, stored⟩ := each order inside
    exact ⟨fits, by simpa [versionValues, identified] using big, stored⟩
  · exact iff_of_false (by simp) distinct

/-- The insert of some entries is accepted when the region fits or there is nothing to insert. -/
theorem insertEntryBatch_isSome (snapshotId : Nat) (identity : Identity) (contentHash : PyStr)
    (regionId : Int) (batch : List Json) (each : ∀ order ∈ batch, IsOrder libraries order)
    (session : Session) (recorded : Recorded session.database snapshotId identity contentHash) :
    ((insertEntryBatch (batch.map fun order =>
        entryValues libraries snapshotId regionId ((orderId order).getD 0, order))).eval
      (execute libraries) session).isSome = true ↔ batch = [] ∨ bigint regionId = true := by
  rw [eval_insertEntryBatch, Option.isSome_map, insertEntries_isSome]
  constructor
  · intro fits
    cases batch with
    | nil => exact .inl rfl
    | cons order batch => exact .inr (fits _ (List.mem_map_of_mem (List.mem_cons_self ..))).2.1
  · rintro (rfl | region) values member
    · cases member
    · obtain ⟨order, inside, rfl⟩ := List.mem_map.mp member
      obtain ⟨id, identified, big, _⟩ := each order inside
      obtain ⟨row, present, same, _⟩ := recorded
      exact ⟨by simpa [entryValues, identified] using big, region, row, present, same⟩

/-- A completed program leaves a snapshot recorded. -/
theorem Recorded.eval {A : Type} {program : Transaction A} {session final : Session} {value : A}
    {snapshotId : Nat} {identity : Identity} {contentHash : PyStr}
    (recorded : Recorded session.database snapshotId identity contentHash)
    (moved : program.eval (execute libraries) session = some (value, final)) :
    Recorded final.database snapshotId identity contentHash :=
  recorded.mono ((ensures_kept libraries program session _ (.refl _)).eval moved)

theorem upsertBatches_isSome (injective : Function.Injective libraries.sha256) (session : Session)
    (datasource : PyStr) (orders : List Json) (fetchedAt : Datetime)
    (fits : isVarchar 20 datasource = true) (each : ∀ order ∈ orders, IsOrder libraries order) :
    ((forBatches upsertVersionBatch (chunks deltaInsertBatchSize (orders.map fun order =>
        versionValues libraries datasource fetchedAt ((orderId order).getD 0, order)))).eval
          (execute libraries) session).isSome = true ↔ DistinctBatches orders := by
  have accepted (part : List Json) (inside : part ∈ chunks deltaInsertBatchSize orders)
      (state : Session) := upsertVersionBatch_isSome libraries injective datasource fits fetchedAt part
        (fun order member => each order (mem_chunks inside member)) state
  rw [chunks_map, forBatches_isSome (execute libraries) upsertVersionBatch (fun _ => True)
    (fun batch => ((upsertVersionBatch batch).eval (execute libraries) session).isSome = true)]
  · rw [List.forall_mem_map]
    exact forall₂_congr fun batch chosen => accepted batch chosen session
  · intro batch chosen state _
    obtain ⟨part, inside, rfl⟩ := List.mem_map.mp chosen
    exact ⟨(accepted part inside state).trans (accepted part inside session).symm, fun _ _ => trivial⟩
  · trivial

theorem insertBatches_isSome (session : Session) (snapshotId : Nat) (identity : Identity)
    (contentHash : PyStr) (orders : List Json) (regionId : Int)
    (recorded : Recorded session.database snapshotId identity contentHash)
    (each : ∀ order ∈ orders, IsOrder libraries order) :
    ((forBatches insertEntryBatch (chunks deltaInsertBatchSize (orders.map fun order =>
        entryValues libraries snapshotId regionId ((orderId order).getD 0, order)))).eval
          (execute libraries) session).isSome = true ↔ orders = [] ∨ bigint regionId = true := by
  rw [chunks_map, forBatches_isSome (execute libraries) insertEntryBatch
    (fun state => Recorded state.database snapshotId identity contentHash)
    (fun batch => batch = [] ∨ bigint regionId = true)]
  · rw [List.forall_mem_map]
    constructor
    · intro all
      cases orders with
      | nil => exact .inl rfl
      | cons order orders =>
          refine (all ((order :: orders).take deltaInsertBatchSize) (List.mem_cons_self ..)).imp
            (fun empty => ?_) id
          simp [deltaInsertBatchSize] at empty
    · rintro (rfl | region) batch chosen
      · cases chosen
      · exact .inr region
  · intro batch chosen state holds
    obtain ⟨part, inside, rfl⟩ := List.mem_map.mp chosen
    refine ⟨?_, fun result moved => holds.eval libraries moved⟩
    rw [insertEntryBatch_isSome libraries snapshotId identity contentHash regionId part
      (fun order member => each order (mem_chunks inside member)) state holds, List.map_eq_nil_iff]
  · exact recorded

/-- The statements of a list of orders all complete when no batch repeats a key and the region fits. -/
theorem writeMarketOrderDeltas_isSome (injective : Function.Injective libraries.sha256)
    (session : Session) (snapshotId : Nat) (identity : Identity) (contentHash : PyStr)
    (orders : List Json) (regionId : Int) (fetchedAt : Datetime)
    (sound : SoundSession libraries session)
    (recorded : Recorded session.database snapshotId identity contentHash)
    (each : ∀ order ∈ orders, IsOrder libraries order) :
    ((writeMarketOrderDeltas libraries snapshotId identity.datasource regionId orders fetchedAt).eval
      (execute libraries) session).isSome = true ↔
        DistinctBatches orders ∧ (orders = [] ∨ bigint regionId = true) := by
  have fits : isVarchar 20 identity.datasource = true := by
    obtain ⟨row, member, _, rfl, _⟩ := recorded
    have columns := sound.working.fits row member
    simp only [Identity.fits, Bool.and_eq_true] at columns
    exact columns.1.1
  have unfolded : writeMarketOrderDeltas libraries snapshotId identity.datasource regionId orders
      fetchedAt =
        forBatches upsertVersionBatch (chunks deltaInsertBatchSize (orders.map fun order =>
          versionValues libraries identity.datasource fetchedAt ((orderId order).getD 0, order))) >>=
        fun _ => forBatches insertEntryBatch (chunks deltaInsertBatchSize (orders.map fun order =>
          entryValues libraries snapshotId regionId ((orderId order).getD 0, order))) := by
    unfold writeMarketOrderDeltas
    rw [orderRows_orders libraries orders each, orFail, Program.done_bind, List.map_map, List.map_map]
    rfl
  rw [unfolded, Program.eval_bind, ← upsertBatches_isSome libraries injective session
    identity.datasource orders fetchedAt fits each]
  cases moved : (forBatches upsertVersionBatch (chunks deltaInsertBatchSize (orders.map fun order =>
      versionValues libraries identity.datasource fetchedAt ((orderId order).getD 0, order)))).eval
        (execute libraries) session with
  | none => simp
  | some result =>
      simpa using insertBatches_isSome libraries result.2 snapshotId identity contentHash orders
        regionId (recorded.eval libraries moved) each

/-- The delta tables of a snapshot under way describe its orders exactly when no batch repeats an
order and the region fits. -/
theorem writeMarketOrderDeltas_describes_iff (injective : Function.Injective libraries.sha256)
    {session : Session} {snapshotId : Nat} {datasource : PyStr} {payload : Bytes} {orders : List Json}
    (underway : Underway libraries settings session snapshotId datasource payload)
    (parsed : Json.loads libraries.floatRepr payload = some (.arr orders))
    (each : ∀ order ∈ orders, IsOrder libraries order) (regionId : Int) (fetchedAt : Datetime) :
    (∃ final, (writeMarketOrderDeltas libraries snapshotId datasource regionId orders fetchedAt).eval
        (execute libraries) session = some ((), final) ∧
      Describes libraries final.database snapshotId datasource orders) ↔
      DistinctBatches orders ∧ (orders = [] ∨ bigint regionId = true) := by
  obtain ⟨sound, identity, rfl, recorded⟩ := underway.sound libraries settings injective
  rw [← writeMarketOrderDeltas_isSome libraries injective session snapshotId identity _ orders regionId
    fetchedAt sound recorded each]
  constructor
  · rintro ⟨final, moved, _⟩
    rw [moved]
    rfl
  · intro completes
    obtain ⟨⟨⟨⟩, final⟩, moved⟩ := Option.isSome_iff_exists.mp completes
    have written := (writeMarketOrderDeltas_ensures libraries session snapshotId identity payload
      orders regionId fetchedAt sound recorded parsed).eval moved
    refine ⟨final, moved, fun order member id identified => ?_, fun id entry stored =>
      written.1.working.entry_correct libraries injective written.2.1 parsed each stored⟩
    have present := written.2.2 _ (orderRows_orders libraries orders each) _
      (List.mem_map_of_mem member)
    rwa [identified] at present

/-- The first payload lists one order in two versions, and the second one lists an order twice. -/
def versionedOrders : Bytes :=
  bytes "[\x7b\"order_id\":1,\"price\":5\x7d,\x7b\"order_id\":2,\"price\":8\x7d," ++
    bytes "\x7b\"order_id\":1,\"price\":7\x7d]"

def repeatedOrder : Bytes := bytes "[\x7b\"order_id\":1\x7d,\x7b\"order_id\":1\x7d]"

/-- This is the order in the second payload. -/
def firstOrder : Json := .obj [(text "order_id", .int 1)]

/-- This is an order of the first payload. -/
def pricedOrder (orderId price : Int) : Json :=
  .obj [(text "order_id", .int orderId), (text "price", .int price)]

def pricedOrders : List Json := [pricedOrder 1 5, pricedOrder 2 8, pricedOrder 1 7]

/-- This digest text begins the idempotency texts of the region. -/
def regionText : Bytes :=
  bytes "tranquility\u0000/v1/markets/10000002/orders/\u0000e9c55fc73bb8045e\u00002024-01-01T00:00:00+00:00" ++
    bytes "\u0000"

/-- These digests are the real ones on the texts of the calls below. -/
def orderDigests : List (Bytes × PyStr) :=
  [(versionedOrders, text "5f4d521e4d9abda6f99107ccf728b265efc36303b97fccd620f88f9e54c4138e"),
    (repeatedOrder, text "a0fe313e0516991d87462f5f760986a516f4c342deb49c53cc64d14c9ea4ca49"),
    (bytes "\x7b\"order_id\":1\x7d",
      text "86c4ba29c6225d18159c2a99c770a3689aef9682cca4cfa30e867165624cfb26"),
    (bytes "\x7b\"order_id\":1,\"price\":5\x7d",
      text "25f88fcf8168b3113a63fcf018993d811afbcf86f1c295f3551ab0cce90f16cd"),
    (bytes "\x7b\"order_id\":2,\"price\":8\x7d",
      text "beea18a305165056f0d03e1b4dd47c318fad4a3551ab1d4abf611387821235b8"),
    (bytes "\x7b\"order_id\":1,\"price\":7\x7d",
      text "0076e94588d55f2c0f5cd19f069c1822a9a02d884e4baffe327f4614cbc1ad2f"),
    (regionText ++ bytes "5f4d521e4d9abda6f99107ccf728b265efc36303b97fccd620f88f9e54c4138e",
      text "428682e21f36f27422faed9fdf3778d301451db5eb5c5a099b53138770617c2f"),
    (regionText ++ bytes "a0fe313e0516991d87462f5f760986a516f4c342deb49c53cc64d14c9ea4ca49",
      text "a58c45c537fae9312980593c81bb0177b990b65916b5480127920733c988de49")]

theorem orderDigests_pinnable : Pinnable orderDigests :=
  pinnable_of_digests (by decide +kernel) (by decide +kernel)

/-- These bytes are the real ones that `zlib` gives for the payloads at level 9. -/
def orderBodies : List ((Nat × Bytes) × Bytes) :=
  [((9, versionedOrders), [120, 218, 139, 174, 86, 202, 47, 74, 73, 45, 138, 207, 76, 81, 178, 50, 212, 81,
      42, 40, 202, 76, 78, 85, 178, 50, 173, 213, 65, 150, 48, 130, 75, 88, 160, 74, 32, 116, 152, 215,
      198, 2, 0, 196, 7, 24, 186]),
    ((9, repeatedOrder), [120, 218, 139, 174, 86, 202, 47, 74, 73, 45, 138, 207, 76, 81, 178, 50, 172,
      213, 65, 229, 198, 2, 0, 175, 118, 10, 195])]

theorem orderBodies_consistent : Consistent orderBodies := by
  unfold Consistent orderBodies
  simp only [List.forall_mem_cons]
  refine ⟨⟨?_, ?_, ?_, nofun⟩, ⟨?_, ?_, ?_, nofun⟩, nofun⟩ <;> decide +kernel

def orderLibraries : Libraries where
  floatRepr := id
  floatInt _ := none
  sha256 := pinnedDigest orderDigests
  queryDigest := pinnedDigest orderDigests
  zstandard := none
  zlib := pinnedCompressor orderBodies orderBodies_consistent
  pyarrow := none
  jsonb canonical := (firstOrder :: pricedOrders).find? fun order => order.canonical = canonical

/-- This observes the orders of a region. -/
def regionOrders (payload : Bytes) : Observation where
  identity := ⟨text "tranquility", text "/v1/markets/10000002/orders/", text "e9c55fc73bb8045e"⟩
  contentHash := []
  payload := payload
  httpStatus := 200
  etag := none
  expiresAt := none
  archiveType := .timeSeries

def newYear : Datetime := ⟨2024, 1, 1, 0, 0, 0, 0⟩

theorem firstOrder_isOrder : IsOrder orderLibraries firstOrder :=
  ⟨1, by decide +kernel, by decide, by decide +kernel⟩

/-- The first snapshot of a region gets the first id. -/
theorem regionOrders_underway (payload : Bytes)
    (recorded : (((recordSnapshot orderLibraries newYear
      ((regionOrders payload).hashed orderLibraries)).eval (execute orderLibraries) emptySession).map
        (·.1.1)) = some (some 1)) :
    ∃ session, Underway orderLibraries {} session 1 (text "tranquility") payload ∧
      ∃ regionId, (recordSnapshot orderLibraries newYear
        ((regionOrders payload).hashed orderLibraries)).eval (execute orderLibraries) emptySession =
          some ((some 1, regionId), session) := by
  obtain ⟨⟨⟨snapshotId, regionId⟩, session⟩, moved, same⟩ := Option.map_eq_some_iff.mp recorded
  obtain rfl : snapshotId = some 1 := same
  exact ⟨session, ⟨emptySession, newYear, regionOrders payload, regionId, session, .start ⟨rfl, rfl⟩,
    moved, rfl, rfl, session.database.objectFiles, session.database.objectFileSequence, session.files,
    rfl⟩, regionId, moved⟩

/-- A snapshot that lists one order twice in a batch is refused. -/
theorem writeMarketOrderDeltas_repeatedOrder :
    ∃ session, Underway orderLibraries {} session 1 (text "tranquility") repeatedOrder ∧
      Json.loads orderLibraries.floatRepr repeatedOrder = some (.arr [firstOrder, firstOrder]) ∧
      (∀ order ∈ [firstOrder, firstOrder], IsOrder orderLibraries order) ∧
      bigint 10000002 = true ∧
      (writeMarketOrderDeltas orderLibraries 1 (text "tranquility") 10000002 [firstOrder, firstOrder]
        newYear).eval (execute orderLibraries) session = none := by
  obtain ⟨session, underway, regionId, moved⟩ := regionOrders_underway repeatedOrder (by decide +kernel)
  have refused : ((recordSnapshot orderLibraries newYear
      ((regionOrders repeatedOrder).hashed orderLibraries) >>= fun _ =>
        writeMarketOrderDeltas orderLibraries 1 (text "tranquility") 10000002 [firstOrder, firstOrder]
          newYear).eval (execute orderLibraries) emptySession).isNone = true := by
    decide +kernel
  rw [Program.eval_bind, moved, Option.bind_some, Option.isNone_iff_eq_none] at refused
  exact ⟨session, underway, by decide +kernel, by simp [firstOrder_isOrder], by decide, refused⟩

theorem pricedOrders_areOrders : ∀ order ∈ pricedOrders, IsOrder orderLibraries order := by
  unfold pricedOrders
  simp only [List.forall_mem_cons]
  refine ⟨⟨1, ?_, ?_, ?_⟩, ⟨2, ?_, ?_, ?_⟩, ⟨1, ?_, ?_, ?_⟩, nofun⟩ <;> decide +kernel

/-- A snapshot with one order in two versions is described. -/
theorem writeMarketOrderDeltas_describes_iff_versions :
    ∃ session, Underway orderLibraries {} session 1 (text "tranquility") versionedOrders ∧
      ((∃ final, (writeMarketOrderDeltas orderLibraries 1 (text "tranquility") 10000002 pricedOrders
          newYear).eval (execute orderLibraries) session = some ((), final) ∧
        Describes orderLibraries final.database 1 (text "tranquility") pricedOrders) ↔
        DistinctBatches pricedOrders ∧ (pricedOrders = [] ∨ bigint 10000002 = true)) := by
  obtain ⟨session, underway, _⟩ := regionOrders_underway versionedOrders (by decide +kernel)
  exact ⟨session, underway, writeMarketOrderDeltas_describes_iff orderLibraries {}
    (pinnedDigest_injective orderDigests_pinnable) underway (by decide +kernel) pricedOrders_areOrders
    10000002 newYear⟩

end EveApiCache
