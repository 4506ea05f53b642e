import EveApiCache.Construction.Discovery
import EveApiCache.Proof.Archive.Retry
import EveApiCache.Proof.JsonValue
import Mathlib.Data.List.Dedup

/-!
This file shows when the discovery of types never forgets a type.
-/

namespace EveApiCache
open Effects StepMachine

/-- This is the region in the path of a snapshot of market orders. -/
def pathRegion (path : PyStr) : Option Int := (marketOrdersRegion path).bind intOfText

/-- The path of a snapshot names this region. -/
def Located (database : Database) (snapshotId : Nat) (regionId : Int) : Prop :=
  ∃ row ∈ database.timeseries, row.id = snapshotId ∧ pathRegion row.identity.path = some regionId

/-- Every entry has the region of its snapshot. -/
def Regional (database : Database) : Prop :=
  ∀ snapshotId orderId entry, database.entries (snapshotId, orderId) = some entry →
    Located database snapshotId entry.regionId

theorem Located.mono {before after : Database} {snapshotId : Nat} {regionId : Int}
    (located : Located before snapshotId regionId) (kept : Kept before after) :
    Located after snapshotId regionId := by
  obtain ⟨row, member, identified, region⟩ := located
  obtain ⟨_, present, _, _, rfl⟩ := kept.timeseries row member
  exact ⟨_, present, identified, region⟩

/-- A statement places its entries when they have the regions of their snapshots. -/
def Statement.Places (database : Database) : Statement → Prop
  | .insertEntries rows => ∀ values ∈ rows, Located database values.snapshotId values.regionId
  | _ => True

/-- An accepted batch of entries brings its own rows only. -/
theorem insertEntries_brought (database : Database) (rows : List EntryValues)
    (before after : Nat × Int → Option MarketOrderSnapshotEntry)
    (moved : insertEntries database before rows = some after) (key : Nat × Int)
    (entry : MarketOrderSnapshotEntry) (present : after key = some entry) :
    before key = some entry ∨ ∃ values ∈ rows, (values.snapshotId, values.orderId) = key ∧
      entry = ⟨values.versionHash, values.regionId⟩ := by
  induction rows generalizing before with
  | nil =>
      cases moved
      exact .inl present
  | cons values rows ih =>
      unfold insertEntries at moved
      split_ifs at moved
      rcases ih _ moved with known | ⟨other, member, same⟩
      · cases old : before (values.snapshotId, values.orderId) with
        | some _ =>
            simp only [old] at known
            exact .inl known
        | none =>
            simp only [old] at known
            by_cases here : key = (values.snapshotId, values.orderId)
            · subst here
              rw [Function.update_self] at known
              exact .inr ⟨values, by simp, rfl, (Option.some.inj known).symm⟩
            · rw [Function.update_of_ne here] at known
              exact .inl known
      · exact .inr ⟨other, by simp [member], same⟩

variable (libraries : Libraries)

/-- A statement other than an insert of entries leaves the entries. -/
theorem execute_entries (statement : Statement) (session : Session)
    (result : statement.Reply × Session) (leaves : ∀ rows, statement ≠ .insertEntries rows)
    (moved : execute libraries statement session = some result) :
    result.2.database.entries = session.database.entries := by
  cases statement with
  | insertEntries rows => exact absurd rfl (leaves rows)
  | insertTimeseries | insertObjectFile =>
      simp only [execute] at moved
      split_ifs at moved <;> cases moved <;> rfl
  | labelParquet =>
      simp only [execute] at moved
      split_ifs at moved
      cases moved
      rfl
  | upsertVersions | upsertReference | insertEvent | upsertNames =>
      simp only [execute] at moved
      split_ifs at moved
      obtain ⟨_, _, rfl⟩ := Option.map_eq_some_iff.mp moved
      rfl
  | insertBlob | selectTimeseriesId | selectObjectFileId | writeParquet | setNames | commit =>
      cases moved
      rfl

/-- A statement that places its entries keeps every entry in its region. -/
theorem execute_regional (statement : Statement) (session : Session)
    (result : statement.Reply × Session) (places : statement.Places session.database)
    (regional : Regional session.database)
    (moved : execute libraries statement session = some result) : Regional result.2.database := by
  have kept := execute_kept libraries statement session result moved
  intro snapshotId orderId entry stored
  by_cases inserts : ∃ rows, statement = .insertEntries rows
  · obtain ⟨rows, rfl⟩ := inserts
    obtain ⟨after, accepted, rfl⟩ := Option.map_eq_some_iff.mp moved
    rcases insertEntries_brought _ rows _ _ accepted _ entry stored with known | ⟨values, member, same, rfl⟩
    · exact (regional snapshotId orderId entry known).mono kept
    · obtain ⟨rfl, rfl⟩ := Prod.mk.inj same
      exact (places values member).mono kept
  · rw [execute_entries libraries statement session result (not_exists.mp inserts) moved] at stored
    exact (regional snapshotId orderId entry stored).mono kept

/-- A program whose statements insert no entries keeps every entry in its region. -/
theorem harmless_regional {A : Type} {kind : Statement → Prop} {program : Transaction A}
    {session : Session} (only : program.Only kind)
    (leaves : ∀ statement, kind statement → ∀ rows, statement ≠ .insertEntries rows)
    (regional : Regional session.database) :
    program.Ensures (execute libraries) (fun _ final => Regional final.database)
      (fun final => Regional final.database) session := by
  refine Program.ensures_of_only (execute libraries) (fun state => Regional state.database) ?_ only
    regional
  intro statement state result chosen holds moved
  refine execute_regional libraries statement state result ?_ holds moved
  cases statement with
  | insertEntries rows => exact absurd rfl (leaves _ chosen rows)
  | _ => trivial

/-- These statements enter orders for one snapshot and one region only. -/
def Statement.Enters (snapshotId : Nat) (regionId : Int) : Statement → Prop
  | .insertEntries rows => ∀ values ∈ rows, values.snapshotId = snapshotId ∧ values.regionId = regionId
  | _ => True

theorem forBatches_onlyOf {Row : Type} (kind : Statement → Prop)
    (effect : List Row → Transaction Unit) (batches : List (List Row))
    (each : ∀ batch ∈ batches, (effect batch).Only kind) : (forBatches effect batches).Only kind := by
  induction batches with
  | nil => trivial
  | cons batch batches ih =>
      exact (each batch (by simp)).bind fun _ => ih fun other member => each other (by simp [member])

theorem writeMarketOrderDeltas_enters (snapshotId : Nat) (datasource : PyStr) (regionId : Int)
    (orders : List Json) (fetchedAt : Datetime) :
    (writeMarketOrderDeltas libraries snapshotId datasource regionId orders fetchedAt).Only
      (Statement.Enters snapshotId regionId) := by
  refine (orFail_only _ _).bind fun rows => Program.Only.bind ?_ fun _ => ?_
  · exact forBatches_only _ _ (fun batch => call_only _ _ trivial) _
  · refine forBatches_onlyOf _ _ _ fun batch chosen => call_only _ _ fun values member => ?_
    obtain ⟨row, _, rfl⟩ := List.mem_map.mp (mem_chunks chosen member)
    exact ⟨rfl, rfl⟩

variable (settings : Settings)

theorem storeParquet_enters (now : Datetime) (observed : Observation) (snapshotId : Nat)
    (regionId : Int) :
    (storeParquet libraries settings now observed (some snapshotId) (some regionId)).Only
      (Statement.Enters snapshotId regionId) := by
  unfold storeParquet
  split
  · rename_i pyarrow chosen place _
    cases chosen
    cases place
    split_ifs
    · refine Program.Only.bind ?_ fun manifestId => ?_
      · refine (orFail_only _ _).bind fun parsed => (orFail_only _ _).bind fun orders =>
          (call_only _ _ trivial).bind fun existing => Program.Only.bind ?_ fun manifestId => ?_
        · refine Only.weaken (parquetManifest_filing _ _ _ _ _ _ _ _ _) fun statement filing => ?_
          cases statement <;> first | exact filing.elim | trivial
        · split_ifs
          · exact (writeMarketOrderDeltas_enters libraries _ _ _ _ _).bind fun _ => trivial
          · trivial
      · cases manifestId with
        | some id => exact call_only _ _ trivial
        | none => trivial
    · trivial
  · trivial

theorem marketOrdersRegionId_region (path : PyStr) (session : Session) :
    (marketOrdersRegionId path).Ensures (execute libraries)
      (fun region _ => region = pathRegion path) (fun _ => True) session := by
  unfold marketOrdersRegionId pathRegion
  cases marketOrdersRegion path with
  | none => rfl
  | some digits =>
      refine orFail_ensures libraries _ (fun _ => trivial) fun region parsed => ?_
      obtain ⟨value, read, rfl⟩ := Option.map_eq_some_iff.mp parsed
      exact read.symm

/-- The first part of a call returns the region of its path. -/
theorem recordSnapshot_region (now : Datetime) (observed : Observation) (session : Session) :
    (recordSnapshot libraries now observed).Ensures (execute libraries)
      (fun recorded _ => recorded.2 = pathRegion observed.identity.path) (fun _ => True) session := by
  refine (Program.ensures_bind _ _ _).mpr ⟨trivial, fun result moved => ?_⟩
  cases moved
  refine (Program.ensures_done _ _).mpr ?_
  refine (Program.ensures_bind _ _ _).mpr (Program.Ensures.mono
    (marketOrdersRegionId_region libraries _ _) (fun region _ same => ?_) fun _ stopped => stopped)
  refine ⟨trivial, fun result moved => ?_⟩
  obtain ⟨reply, inserted⟩ := result
  cases reply with
  | some id => exact same
  | none =>
      refine ⟨trivial, fun result looked => ?_⟩
      cases looked
      exact same

/-- A time-series call keeps every entry in its region. -/
theorem writeTimeSeries_regional (injective : Function.Injective libraries.sha256) (now : Datetime)
    (observed : Observation) (session : Session) (sound : SoundSession libraries session)
    (regional : Regional session.database) :
    (writeTimeSeries libraries settings now observed).Ensures (execute libraries)
      (fun _ final => Regional final.database) (fun final => Regional final.database) session := by
  have recording := ((recordSnapshot_ensures libraries injective now observed session sound).and
    (recordSnapshot_region libraries now observed session)).and
      (harmless_regional libraries (recordSnapshot_records libraries now observed)
        (fun statement records rows same => by subst same; exact records) regional)
  refine (Program.ensures_bind _ _ _).mpr (Program.Ensures.mono recording (fun recorded middle holds => ?_)
    fun _ stopped => stopped.2)
  obtain ⟨⟨⟨_, known⟩, region⟩, regional⟩ := holds
  obtain ⟨snapshotId, regionId⟩ := recorded
  dsimp only at region known
  rcases snapshotId with _ | snapshotId
  · exact regional
  rcases regionId with _ | regionId
  · exact regional
  obtain ⟨row, member, identified, same, _⟩ := known snapshotId rfl
  have located : Located middle.database snapshotId regionId :=
    ⟨row, member, identified, by rw [same, ← region]⟩
  refine Program.Ensures.mono (Program.ensures_of_only (execute libraries)
    (fun state => Regional state.database ∧ Located state.database snapshotId regionId)
    (fun statement state result enters holds moved => ?_)
    (storeParquet_enters libraries settings now observed snapshotId regionId) ⟨regional, located⟩)
    (fun _ _ holds => holds.1) fun _ holds => holds.1
  refine ⟨execute_regional libraries statement state result ?_ holds.1 moved,
    holds.2.mono (execute_kept libraries statement state result moved)⟩
  cases statement with
  | insertEntries rows =>
      intro values member
      obtain ⟨snapshot, place⟩ := enters values member
      rw [snapshot, place]
      exact holds.2
  | _ => trivial

/-- A call of `write_snapshot` keeps every entry in its region. -/
theorem writeSnapshot_regional (injective : Function.Injective libraries.sha256) (now : Datetime)
    (observed : Observation) (session : Session) (sound : SoundSession libraries session)
    (regional : Regional session.database) :
    (writeSnapshot libraries settings now observed).Ensures (execute libraries)
      (fun _ final => Regional final.database) (fun final => Regional final.database) session := by
  unfold writeSnapshot
  cases observed.archiveType with
  | none => exact regional
  | timeSeries =>
      refine (Program.ensures_bind _ _ _).mpr (Program.Ensures.mono
        (writeTimeSeries_regional libraries settings injective now observed session sound regional)
        (fun _ final holds => ⟨holds, fun result moved => ?_⟩) fun _ stopped => stopped)
      exact execute_regional libraries .commit final result trivial holds moved
  | reference | event =>
      refine @harmless_regional libraries _ (fun statement => ∀ rows, statement ≠ .insertEntries rows)
        _ _ ?_ (fun _ leaves => leaves) regional
      exact (orFail_only _ _).bind fun _ => (call_only _ _ nofun).bind fun _ => call_only _ _ nofun

/-- In every reachable archive each entry has the region of its snapshot. -/
theorem reachable_regional (injective : Function.Injective libraries.sha256) {session : Session}
    (reached : (archiveMachine libraries settings).Reachable session) :
    Regional session.committed := by
  induction reached with
  | start initial =>
      rw [initial.1]
      intro snapshotId orderId entry stored
      cases stored
  | @step session _ call before _ moved regional =>
      have idle := (reachable_serial libraries settings before).1
      have sound := reachable_sound libraries settings injective before
      have working : Regional session.database := idle ▸ regional
      have transacted {A : Type} (fault : Option Nat) (program : Transaction A)
          (ensured : program.Ensures (execute libraries) (fun _ final => Regional final.database)
            (fun final => Regional final.database) session) :
          Regional (transact libraries fault program session).2.committed := by
        obtain ⟨final, same, kept⟩ := transact_holds libraries fault program session regional ensured
        rw [same]
        exact kept
      cases moved
      cases call with
      | snapshot now observed fault =>
          exact transacted fault _ (writeSnapshot_regional libraries settings injective now _ session
            sound working)
      | names now datasource payload fault =>
          refine transacted fault _ (harmless_regional libraries
            (writeNames_naming libraries now datasource payload) ?_ working)
          intro statement naming rows same
          subst same
          exact naming

/-- The archive remembers an order of a region when an entry of the region leads to its version. -/
def Remembered (database : Database) (datasource : PyStr) (regionId orderId : Int) (order : Json) :
    Prop :=
  ∃ snapshotId entry, database.entries (snapshotId, orderId) = some entry ∧
    entry.regionId = regionId ∧ entry.versionHash = versionHash libraries order ∧
      (database.versions ⟨datasource, orderId, entry.versionHash⟩).isSome = true

/-- A remembered order stays remembered. -/
theorem Remembered.grown {before after : Database} {datasource : PyStr} {regionId orderId : Int}
    {order : Json} (remembered : Remembered libraries before datasource regionId orderId order)
    (grown : Grown before after) : Remembered libraries after datasource regionId orderId order := by
  obtain ⟨snapshotId, entry, stored, region, hash, version⟩ := remembered
  exact ⟨snapshotId, entry, grown.entries _ _ stored, region, hash, grown.versions _ version⟩

/-- The entry of an order in a payload with distinct order ids is its own. -/
theorem remembered_of_entered (injective : Function.Injective libraries.sha256) {database : Database}
    (sound : Sound libraries database) (regional : Regional database) {snapshotId : Nat}
    {identity : Identity} {payload : Bytes} {regionId orderId : Int} {order : Json}
    {orders : List Json} {rows : List (Int × Json)}
    (recorded : Recorded database snapshotId identity (libraries.sha256 payload))
    (region : pathRegion identity.path = some regionId)
    (parsed : Json.loads libraries.floatRepr payload = some (.arr orders))
    (listed : orderRows libraries orders = some rows) (distinct : (rows.map Prod.fst).Nodup)
    (member : (orderId, order) ∈ rows) (entered : Entered libraries snapshotId payload database) :
    Remembered libraries database identity.datasource regionId orderId order := by
  obtain ⟨entry, stored⟩ := Option.isSome_iff_exists.mp (entered orders rows parsed listed _ member)
  obtain ⟨snapshot, inTable, sameId, rfl, content⟩ := recorded
  have unique (row : TimeSeriesSnapshot) (inside : row ∈ database.timeseries)
      (identified : row.id = snapshotId) : row = snapshot :=
    List.inj_on_of_nodup_map sound.distinct inside inTable (identified.trans sameId.symm)
  obtain ⟨row, inside, identified, ⟨other, lists, hash⟩, version⟩ :=
    sound.entries snapshotId orderId entry stored
  obtain rfl := unique row inside identified
  obtain ⟨place, present, located, found⟩ := regional snapshotId orderId entry stored
  obtain rfl := unique place present located
  obtain ⟨otherPayload, others, otherRows, hashed, reads, again, listsOther⟩ := lists
  obtain rfl : otherPayload = payload := injective (hashed.trans content)
  obtain rfl : orders = others := by
    rw [parsed] at reads
    exact Json.arr.inj (Option.some.inj reads)
  obtain rfl : rows = otherRows := Option.some.inj (listed.symm.trans again)
  have same : (orderId, other) = (orderId, order) :=
    List.inj_on_of_nodup_map distinct listsOther member rfl
  obtain rfl : other = order := (Prod.mk.inj same).2
  exact ⟨snapshotId, entry, stored, Option.some.inj (found.symm.trans region), hash, version⟩

/-- The observation is an orders payload of a region with distinct order ids, and it lists an order. -/
structure ListsOrder (observed : Observation) (datasource : PyStr) (regionId orderId : Int)
    (order : Json) : Prop where
  timeSeries : observed.archiveType = .timeSeries
  datasource : observed.identity.datasource = datasource
  region : pathRegion observed.identity.path = some regionId
  payload : ∃ orders rows, Json.loads libraries.floatRepr observed.payload = some (.arr orders) ∧
    orderRows libraries orders = some rows ∧ (rows.map Prod.fst).Nodup ∧ (orderId, order) ∈ rows

/-- The deltas are only written with the Parquet file. -/
def WritesDeltas : Prop :=
  settings.enableMarketOrderParquet = true ∧ libraries.pyarrow.isSome = true

/-- With the deltas on, a completed call enters the orders of its payload. -/
theorem writeTimeSeries_entered (injective : Function.Injective libraries.sha256) {now : Datetime}
    {observed : Observation} {session final : Session} {regionId : Int}
    (sound : SoundSession libraries session)
    (hashed : observed.contentHash = libraries.sha256 observed.payload)
    (deltas : settings.enableMarketOrderDeltas = true) (writes : WritesDeltas libraries settings)
    (region : pathRegion observed.identity.path = some regionId)
    (completed : (writeTimeSeries libraries settings now observed).eval (execute libraries) session =
      some ((), final)) :
    Sound libraries final.database ∧ ∃ snapshotId,
      Recorded final.database snapshotId observed.identity observed.contentHash ∧
        Entered libraries snapshotId observed.payload final.database := by
  obtain ⟨⟨recorded, middle⟩, recording, exports⟩ :=
    Option.bind_eq_some_iff.mp ((Program.eval_bind _ _ _).symm.trans completed)
  have records := @recordSnapshot_repeats libraries False _ observed.contentHash now now rfl observed rfl
  obtain ⟨⟨present, _⟩, _⟩ := records.promised trivial recording fun impossible => impossible.elim
  obtain ⟨snapshotId, chosen⟩ := Option.isSome_iff_exists.mp present
  obtain ⟨pyarrow, available⟩ := Option.isSome_iff_exists.mp writes.2
  obtain ⟨sound, known⟩ :=
    (recordSnapshot_ensures libraries injective now observed session sound).eval recording
  have place := (recordSnapshot_region libraries now observed session).eval recording
  have row := known snapshotId chosen
  change (storeParquet libraries settings now observed recorded.1 recorded.2).eval (execute libraries)
    middle = some ((), final) at exports
  rw [chosen, place, region] at exports
  have kept := (ensures_kept libraries _ middle _ (.refl _)).eval exports
  simp only [storeParquet, available, writes.1, if_true] at exports
  obtain ⟨⟨manifest, filed⟩, writing, labelling⟩ :=
    Option.bind_eq_some_iff.mp ((Program.eval_bind _ _ _).symm.trans exports)
  obtain ⟨sound, entered⟩ := (writeMarketOrdersParquet_ensures libraries settings pyarrow now observed
    snapshotId regionId middle sound hashed row).eval writing
  cases manifest with
  | none =>
      cases labelling
      exact ⟨sound.working, snapshotId, row.mono kept, entered deltas⟩
  | some manifestId =>
      have labels : execute libraries (.labelParquet snapshotId manifestId) filed = some ((), final) :=
        (Program.eval_call _ _).symm.trans labelling
      have same := execute_entries libraries (.labelParquet snapshotId manifestId) filed ((), final)
        (fun rows same => by cases same) labels
      have labelled := execute_sound libraries (.labelParquet snapshotId manifestId) filed ((), final) sound
        trivial labels
      refine ⟨labelled.working, snapshotId, row.mono kept,
        fun orders rows parsed listed order inside => ?_⟩
      rw [same]
      exact entered deltas orders rows parsed listed order inside

/-- With the deltas on, a successful call remembers every order of its payload. -/
theorem transact_remembers (injective : Function.Injective libraries.sha256) {before after : Session}
    {now : Datetime} {observed : Observation} {fault : Option Nat} {datasource : PyStr}
    {regionId orderId : Int} {order : Json}
    (reached : (archiveMachine libraries settings).Reachable before)
    (deltas : settings.enableMarketOrderDeltas = true) (writes : WritesDeltas libraries settings)
    (lists : ListsOrder libraries observed datasource regionId orderId order)
    (succeeded : (ArchiveCall.snapshot now observed fault).transact libraries settings before =
      (true, after)) :
    Remembered libraries after.committed datasource regionId orderId order := by
  obtain ⟨idle, _⟩ := reachable_serial libraries settings reached
  have sound := reachable_sound libraries settings injective reached
  have regional := reachable_regional libraries settings injective reached
  obtain ⟨final, completed, same⟩ := transact_completed libraries settings idle succeeded
  obtain ⟨orders, rows, parsed, listed, distinct, member⟩ := lists.payload
  have body : snapshotBody libraries settings now (observed.hashed libraries) =
      writeTimeSeries libraries settings now (observed.hashed libraries) := by
    unfold snapshotBody
    rw [show (observed.hashed libraries).archiveType = .timeSeries from lists.timeSeries]
  rw [body] at completed
  obtain ⟨written, snapshotId, recorded, entered⟩ := @writeTimeSeries_entered libraries settings injective
    now (observed.hashed libraries) before final regionId sound rfl deltas writes lists.region completed
  have placed := (writeTimeSeries_regional libraries settings injective now _ before sound
    (idle ▸ regional)).eval completed
  rw [same, ← lists.datasource]
  exact remembered_of_entered libraries injective written placed recorded lists.region parsed listed
    distinct member entered

/-- A run lets the committed tables grow. -/
theorem leads_grown {before after : Session}
    (reached : (archiveMachine libraries settings).Reachable before)
    (leads : (archiveMachine libraries settings).Leads before after) :
    (archiveMachine libraries settings).Reachable after ∧ Grown before.committed after.committed := by
  refine Machine.Leads.keeps (fun state => (archiveMachine libraries settings).Reachable state)
    (fun first last => Grown first.committed last.committed) (fun state => .refl state.committed)
    (fun _ _ _ => Grown.trans) (fun state call next holds moved => ?_) reached leads
  refine ⟨.step holds trivial moved, ?_⟩
  have idle := (reachable_serial libraries settings holds).1
  cases moved
  cases call <;> exact transact_grown libraries _ _ state idle

section Types
variable (textOf : Json → PyStr → Option PyStr)

/-- The operator `->>` gives the integer type id of a stored order in decimal digits. -/
def IntegerText : Prop :=
  ∀ fields typeId stored, (fields.map Prod.fst).Nodup →
    Json.field (text "type_id") fields = some (.int typeId) →
      storedJson libraries (.obj fields) = some stored →
        textOf stored (text "type_id") = some (intStr typeId)

variable {textOf}

/-- The query selects the integer type of a remembered order. -/
theorem Remembered.accumulated (injective : Function.Injective libraries.sha256)
    (integers : IntegerText libraries textOf) {database : Database} (sound : Sound libraries database)
    {datasource : PyStr} {regionId orderId typeId : Int} {fields : List (PyStr × Json)}
    {rows : List (Option PyStr)}
    (remembered : Remembered libraries database datasource regionId orderId (.obj fields))
    (names : (fields.map Prod.fst).Nodup)
    (short : (numeral typeId.natAbs).length ≤ Json.maxIntDigits)
    (typed : Json.field (text "type_id") fields = some (.int typeId))
    (selected : Accumulated textOf database datasource regionId rows) :
    typeId ∈ accumulatedTypeIds (some rows) := by
  obtain ⟨snapshotId, entry, stored, region, hash, present⟩ := remembered
  obtain ⟨version, known⟩ := Option.isSome_iff_exists.mp present
  obtain ⟨writer, wrote, payload⟩ := sound.versions _ version known
  have texts : writer.canonical = (Json.obj fields).canonical :=
    encode_injective (injective (wrote.trans hash))
  have same : storedJson libraries (.obj fields) = some version.payload := by
    unfold storedJson at payload ⊢
    rw [← texts]
    exact payload
  have raw := integers fields typeId version.payload names typed same
  have inside := (selected.selects _).mpr ⟨snapshotId, orderId, entry, version, stored, region, known, raw⟩
  exact List.mem_filterMap.mpr ⟨_, inside, intOfText_intStr typeId short⟩

/-- The rows of the loop are orders of the list. -/
theorem orderRows_mem {orders : List Json} {rows : List (Int × Json)}
    (listed : orderRows libraries orders = some rows) : ∀ row ∈ rows, row.2 ∈ orders := by
  induction orders generalizing rows with
  | nil =>
      cases listed
      exact fun _ absent => by cases absent
  | cons order orders ih =>
      have skipped (rest : orderRows libraries orders = some rows) :
          ∀ row ∈ rows, row.2 ∈ order :: orders := fun row member =>
        List.mem_cons_of_mem _ (ih rest row member)
      cases order with
      | obj fields =>
          cases present : Json.field (text "order_id") fields with
          | none =>
              simp only [orderRows, present] at listed
              exact skipped listed
          | some id =>
              simp only [orderRows, present, Option.bind_eq_bind] at listed
              obtain ⟨orderId, _, listed⟩ := Option.bind_eq_some_iff.mp listed
              obtain ⟨others, rest, same⟩ := Option.bind_eq_some_iff.mp listed
              cases same
              intro row member
              rcases List.mem_cons.mp member with rfl | later
              · exact List.mem_cons_self ..
              · exact List.mem_cons_of_mem _ (ih rest row later)
      | _ => exact skipped listed

theorem loadedItems_mem {floatRepr : PyStr → PyStr} {items : List Json} {item : Json}
    (loaded : Json.LoadedItems floatRepr items) (member : item ∈ items) :
    Json.Loaded floatRepr item := by
  induction items with
  | nil => cases member
  | cons first rest ih =>
      rcases List.mem_cons.mp member with rfl | later
      · exact loaded.1
      · exact ih loaded.2 later

theorem loadedFields_field {floatRepr : PyStr → PyStr} {fields : List (PyStr × Json)} {name : PyStr}
    {value : Json} (loaded : Json.LoadedFields floatRepr fields)
    (found : Json.field name fields = some value) : Json.Loaded floatRepr value := by
  induction fields with
  | nil => cases found
  | cons field fields ih =>
      unfold Json.field at found ih
      rw [List.lookup_cons] at found
      split at found
      · cases found
        exact loaded.1
      · exact ih loaded.2 found

/-- A loop that reaches its end has every type id. -/
theorem orderTypeIds_complete {orders : List Json} {typeIds : List Int}
    (found : orderTypeIds libraries orders = some (typeIds, true)) :
    ∀ fields value, Json.obj fields ∈ orders → Json.field (text "type_id") fields = some value →
      ∃ typeId ∈ typeIds, intOf libraries value = some typeId := by
  induction orders generalizing typeIds with
  | nil => exact fun fields value absent => by cases absent
  | cons order orders ih =>
      intro fields value member typed
      cases order with
      | obj others =>
          cases present : Json.field (text "type_id") others with
          | none =>
              simp only [orderTypeIds, present] at found
              rcases List.mem_cons.mp member with same | later
              · cases same
                rw [typed] at present
                cases present
              · exact ih found fields value later typed
          | some other =>
              cases read : intOf libraries other with
              | none =>
                  simp only [orderTypeIds, present, read] at found
                  split_ifs at found
                  cases found
              | some typeId =>
                  simp only [orderTypeIds, present, read] at found
                  obtain ⟨⟨rest, flag⟩, reached, same⟩ := Option.map_eq_some_iff.mp found
                  cases same
                  rcases List.mem_cons.mp member with same | later
                  · cases same
                    rw [typed] at present
                    cases present
                    exact ⟨typeId, List.mem_cons_self .., read⟩
                  · obtain ⟨inner, inside, equal⟩ := ih reached fields value later typed
                    exact ⟨inner, List.mem_cons_of_mem _ inside, equal⟩
      | _ =>
          rcases List.mem_cons.mp member with same | later
          · cases same
          · exact ih found fields value later typed

/-- The archive returns the payload of the latest snapshot. -/
theorem getLatestPayload_latest (injective : Function.Injective libraries.sha256) {database : Database}
    {files : PyStr → Option Bytes} {identity : Identity} {row : TimeSeriesSnapshot} {payload : Bytes}
    (sound : Sound libraries database) (restorable : Restorable libraries database)
    (latest : latestRow (database.timeseries.filter (·.identity = identity)) = some row)
    (content : libraries.sha256 payload = row.contentHash) :
    getLatestPayload libraries database files identity = some (some payload) := by
  have nonempty : database.timeseries.filter (·.identity = identity) ≠ [] := by
    intro empty
    rw [empty] at latest
    cases latest
  obtain ⟨best, inside, chosen, _⟩ := latestRow_spec _ nonempty
  obtain rfl : best = row := Option.some.inj (chosen.symm.trans latest)
  have member := (List.mem_filter.mp inside).1
  obtain ⟨blob, stored⟩ := Option.isSome_iff_exists.mp (restorable.payloads best member)
  obtain ⟨restored, decompressed, hash⟩ := restorable.blobs _ _ stored
  obtain rfl := injective (hash.trans content.symm)
  unfold getLatestPayload
  rw [latest]
  dsimp only
  rw [sound.compressed best member, columnText, stored]
  dsimp only
  rw [decompressed]
  rfl

variable (textOf)

/-- A discovery without an error gives these types. -/
def Discovers (session : Session) (datasource : PyStr) (regionId : Int) (typeIds : List Int) : Prop :=
  ∃ rows, Accumulated textOf session.committed datasource regionId rows ∧
    discoverTypeIds libraries session.committed session.files regionId datasource (some rows) =
      some ⟨typeIds, true⟩

/-- A discovery without an error unites the types of the latest payload and of the query. -/
theorem Discovers.parts {session : Session} {datasource : PyStr} {regionId : Int} {typeIds : List Int}
    (discovers : Discovers libraries textOf session datasource regionId typeIds) :
    ∃ rows payload latest, Accumulated textOf session.committed datasource regionId rows ∧
      getLatestPayload libraries session.committed session.files
        (ordersIdentity libraries datasource regionId) = some payload ∧
      latestTypeIds libraries payload = some (latest, true) ∧
      typeIds = (latest ++ accumulatedTypeIds (some rows)).dedup := by
  obtain ⟨rows, selected, found⟩ := discovers
  obtain ⟨payload, returned, found⟩ := Option.bind_eq_some_iff.mp found
  obtain ⟨⟨latest, flag⟩, read, same⟩ := Option.bind_eq_some_iff.mp found
  simp only [Option.pure_def, Option.some.injEq, Discovery.mk.injEq, Option.isSome_some,
    Bool.and_true] at same
  obtain ⟨rfl, rfl⟩ := same
  exact ⟨rows, payload, latest, selected, returned, read, rfl⟩

/-- A discovery without an error has the archived types of its region, the types of the latest snapshot
of the collector, and no duplicates. -/
structure NeverForgets : Prop where
  archived : ∀ before after later now observed fault datasource regionId orderId fields typeId typeIds,
    (archiveMachine libraries settings).Reachable before →
      ListsOrder libraries observed datasource regionId orderId (.obj fields) →
        Json.field (text "type_id") fields = some (.int typeId) →
          (ArchiveCall.snapshot now observed fault).transact libraries settings before = (true, after) →
            (archiveMachine libraries settings).Leads after later →
              Discovers libraries textOf later datasource regionId typeIds → typeId ∈ typeIds
  latest : ∀ session datasource regionId typeIds row payload orders fields value,
    (archiveMachine libraries settings).Reachable session →
      Discovers libraries textOf session datasource regionId typeIds →
        latestRow (session.committed.timeseries.filter
          (·.identity = ordersIdentity libraries datasource regionId)) = some row →
            libraries.sha256 payload = row.contentHash →
              Json.loads libraries.floatRepr payload = some (.arr orders) → Json.obj fields ∈ orders →
                Json.field (text "type_id") fields = some value →
                  ∃ typeId ∈ typeIds, intOf libraries value = some typeId
  distinct : ∀ session datasource regionId typeIds,
    (archiveMachine libraries settings).Reachable session →
      Discovers libraries textOf session datasource regionId typeIds → typeIds.Nodup

/-- With the deltas written, no discovery without an error forgets a type. -/
theorem neverForgets_of_writes (injective : Function.Injective libraries.sha256)
    (floats : Json.FloatsReadBack libraries.floatRepr) (integers : IntegerText libraries textOf)
    (deltas : settings.enableMarketOrderDeltas = true) (writes : WritesDeltas libraries settings) :
    NeverForgets libraries settings textOf where
  archived before after later now observed fault datasource regionId orderId fields typeId typeIds reached
      lists typed succeeded leads discovers := by
    have remembered := transact_remembers libraries settings injective reached deltas writes lists
      succeeded
    obtain ⟨reachedLater, grown⟩ := leads_grown libraries settings
      (call_reachable libraries settings reached succeeded) leads
    obtain ⟨orders, rows, parsed, listed, _, member⟩ := lists.payload
    have loaded : Json.Loaded libraries.floatRepr (.obj fields) :=
      loadedItems_mem (Json.loads_loaded floats parsed) (orderRows_mem libraries listed _ member)
    have short : Json.Loaded libraries.floatRepr (.int typeId) := loadedFields_field loaded.1 typed
    obtain ⟨selected, payload, latest, query, _, _, rfl⟩ := discovers.parts
    have sound := (reachable_sound libraries settings injective reachedLater).committed
    rw [List.mem_dedup]
    exact List.mem_append_right _ ((remembered.grown libraries grown).accumulated libraries injective
      integers sound loaded.2 short typed query)
  latest session datasource regionId typeIds row payload orders fields value reached discovers chosen
      content parsed member typed := by
    obtain ⟨selected, returned, latest, _, answer, read, rfl⟩ := discovers.parts
    rw [getLatestPayload_latest libraries injective
      (reachable_sound libraries settings injective reached).committed
      (reachable_restorable libraries settings reached).2 chosen content] at answer
    cases answer
    simp only [latestTypeIds, payloadTypeIds, parsed] at read
    obtain ⟨typeId, inside, same⟩ := orderTypeIds_complete libraries read fields value member typed
    exact ⟨typeId, List.mem_dedup.mpr (List.mem_append_left _ inside), same⟩
  distinct session datasource regionId typeIds _ discovers := by
    obtain ⟨_, _, _, _, _, _, rfl⟩ := discovers.parts
    exact List.nodup_dedup _

/-- This order is the only one of its type. -/
def thinOrder : Json := .obj [(text "order_id", .int 1), (text "type_id", .int 34)]

/-- The orders of a region are also archived for one side of the market. -/
def thinOrders (queryHash : PyStr) : Observation where
  identity := ⟨text "tranquility", text "/v1/markets/10000002/orders/", queryHash⟩
  contentHash := []
  payload := encode (Json.dumps Json.defaultSeparators (.arr [thinOrder]))
  httpStatus := 200
  etag := none
  expiresAt := none
  archiveType := .timeSeries

theorem thinOrders_region (queryHash : PyStr) :
    marketOrdersRegionId (thinOrders queryHash).identity.path = .done (some 10000002) ∧
      pathRegion (thinOrders queryHash).identity.path = some 10000002 := by
  have digits : marketOrdersRegion (text "/v1/markets/10000002/orders/") = some (text "10000002") := by
    decide +kernel
  have value : intOfText (text "10000002") = some 10000002 := by decide +kernel
  change marketOrdersRegionId (text "/v1/markets/10000002/orders/") = _ ∧
    pathRegion (text "/v1/markets/10000002/orders/") = _
  unfold marketOrdersRegionId pathRegion
  rw [digits]
  refine ⟨?_, value⟩
  change orFail ((intOfText (text "10000002")).map some) = _
  rw [value]
  rfl

theorem thinOrders_lists (queryHash : PyStr) :
    ListsOrder libraries (thinOrders queryHash) (text "tranquility") 10000002 1 thinOrder where
  timeSeries := rfl
  datasource := rfl
  region := (thinOrders_region queryHash).2
  payload := by
    refine ⟨[thinOrder], [(1, thinOrder)], ?_, ?_, by simp, by simp⟩
    · have loaded : Json.Loaded libraries.floatRepr (.arr [thinOrder]) := by
        refine ⟨⟨⟨?_, ?_, trivial⟩, ?_⟩, trivial⟩
        · change (numeral 1).length ≤ 4300
          decide
        · change (numeral 34).length ≤ 4300
          decide
        · change [text "order_id", text "type_id"].Nodup
          decide
      have same : Json.backValue (.arr [thinOrder]) = .arr [thinOrder] := by decide +kernel
      exact (Json.loads_written _ _ loaded).trans (congrArg some same)
    · have found : Json.field (text "order_id") [(text "order_id", Json.int 1), (text "type_id", .int 34)] =
          some (.int 1) := by decide
      simp [thinOrder, orderRows, found, intOf]

/-- Without the deltas a call archives the snapshot alone. -/
theorem thinOrders_archived (closed : ¬ WritesDeltas libraries settings) {queryHash : PyStr}
    (fits : isVarchar 16 queryHash = true) :
    ∃ after, (ArchiveCall.snapshot newYear (thinOrders queryHash) none).transact libraries settings
        emptySession = (true, after) ∧
      (∀ row ∈ after.committed.timeseries, row.identity = (thinOrders queryHash).identity) ∧
        after.committed.entries = (fun _ => none) ∧ after.committed.reference = (fun _ => none) ∧
          after.committed.events = fun _ => none := by
  have stops (snapshotId : Option Nat) (regionId : Option Int) :
      storeParquet libraries settings newYear ((thinOrders queryHash).hashed libraries) snapshotId regionId =
        .done () := by
    unfold storeParquet
    split
    · rename_i available
      split_ifs with enabled
      · exact absurd ⟨enabled, by rw [available]; rfl⟩ closed
      · rfl
    · rfl
  have accepted : (snapshotRow libraries newYear ((thinOrders queryHash).hashed libraries)).fits = true := by
    have columns : isVarchar 20 (text "tranquility") = true ∧
        isText (text "/v1/markets/10000002/orders/") = true := by decide
    simp [TimeSeriesSnapshot.fits, Identity.fits, snapshotRow, Observation.hashed, thinOrders, columns,
      fits, optional, smallint]
  have inserted (stored : Session) (empty : stored.database.timeseries = [])
      (first : stored.database.snapshotSequence = 1) :
      ∃ final, execute libraries (.insertTimeseries (snapshotRow libraries newYear
        ((thinOrders queryHash).hashed libraries))) stored = some (some 1, final) ∧
          final.database = { stored.database with
            timeseries := [{ snapshotRow libraries newYear ((thinOrders queryHash).hashed libraries) with
              id := 1 }]
            snapshotSequence := 2 } := by
    simp only [execute, accepted, empty, first]
    exact ⟨_, rfl, rfl⟩
  have region := (thinOrders_region queryHash).1
  obtain ⟨final, moved, same⟩ := inserted { emptySession with
    database := { Database.empty with
      blobs := Function.update (fun _ => none) ((thinOrders queryHash).hashed libraries).contentHash
        (some (payloadBlob libraries (thinOrders queryHash).payload newYear)) } } rfl rfl
  have evaluated : (writeSnapshot libraries settings newYear
      ((thinOrders queryHash).hashed libraries)).eval (execute libraries) emptySession =
        some ((), { final with committed := final.database }) := by
    unfold writeSnapshot
    rw [show ((thinOrders queryHash).hashed libraries).archiveType = .timeSeries from rfl]
    simp only [writeTimeSeries, recordSnapshot, stops]
    rw [show ((thinOrders queryHash).hashed libraries).identity.path =
      (thinOrders queryHash).identity.path from rfl, region]
    change (execute libraries (.insertTimeseries (snapshotRow libraries newYear
        ((thinOrders queryHash).hashed libraries))) { emptySession with
      database := { Database.empty with
        blobs := Function.update (fun _ => none) ((thinOrders queryHash).hashed libraries).contentHash
          (some (payloadBlob libraries (thinOrders queryHash).payload newYear)) } }).bind _ = _
    rw [moved]
    rfl
  refine ⟨_, transact_of_eval libraries evaluated, ?_⟩
  change (∀ row ∈ final.database.timeseries, row.identity = (thinOrders queryHash).identity) ∧
    final.database.entries = (fun _ => none) ∧ final.database.reference = (fun _ => none) ∧
      final.database.events = fun _ => none
  rw [same]
  refine ⟨fun row member => ?_, rfl, rfl, rfl⟩
  rw [List.mem_singleton.mp member]
  rfl

/-- Without the deltas the discovery misses an archived type that the collector did not see. -/
theorem thinOrders_forgotten (closed : ¬ WritesDeltas libraries settings) {queryHash : PyStr}
    (fits : isVarchar 16 queryHash = true)
    (apart : queryHash ≠ computeQueryHash libraries (Job.marketOrders 10000002).params none) :
    ∃ after, (ArchiveCall.snapshot newYear (thinOrders queryHash) none).transact libraries settings
        emptySession = (true, after) ∧
      Discovers libraries textOf after (text "tranquility") 10000002 [] := by
  obtain ⟨after, archived, rows, entries, reference, events⟩ :=
    thinOrders_archived libraries settings closed fits
  refine ⟨after, archived, [], ⟨List.nodup_nil, fun raw => ?_⟩, ?_⟩
  · constructor
    · intro absent
      cases absent
    · rintro ⟨snapshotId, orderId, entry, version, stored, _⟩
      rw [entries] at stored
      cases stored
  · have missing : ∀ row ∈ after.committed.timeseries,
        row.identity ≠ ordersIdentity libraries (text "tranquility") 10000002 := by
      intro row member same
      rw [rows row member] at same
      exact apart (Identity.mk.inj same).2.2
    unfold discoverTypeIds
    rw [getLatestPayload_columns libraries after.files missing]
    simp [referenceOrEvent, reference, events, columnText, latestTypeIds, accumulatedTypeIds]

/-- Without the deltas some type is forgotten. -/
theorem not_neverForgets (closed : ¬ WritesDeltas libraries settings) :
    ¬ NeverForgets libraries settings textOf := by
  intro remembers
  obtain ⟨queryHash, fits, apart⟩ : ∃ queryHash, isVarchar 16 queryHash = true ∧
      queryHash ≠ computeQueryHash libraries (Job.marketOrders 10000002).params none := by
    by_cases same : computeQueryHash libraries (Job.marketOrders 10000002).params none = text "buy"
    · exact ⟨text "sell", by decide, fun equal => absurd (equal.trans same) (by decide)⟩
    · exact ⟨text "buy", by decide, fun equal => same equal.symm⟩
  obtain ⟨after, archived, discovers⟩ := thinOrders_forgotten libraries settings textOf closed fits apart
  have member := remembers.archived emptySession after after newYear (thinOrders queryHash) none
    (text "tranquility") 10000002 1 _ 34 [] (.start ⟨rfl, rfl⟩) (thinOrders_lists libraries queryHash)
    (by decide) archived .refl discovers
  cases member

/-- With the deltas on, no discovery without an error forgets a type exactly when the Parquet store is on
and pyarrow is there. -/
theorem neverForgets_iff (injective : Function.Injective libraries.sha256)
    (floats : Json.FloatsReadBack libraries.floatRepr) (integers : IntegerText libraries textOf)
    (deltas : settings.enableMarketOrderDeltas = true) :
    NeverForgets libraries settings textOf ↔
      settings.enableMarketOrderParquet = true ∧ libraries.pyarrow.isSome = true := by
  constructor
  · intro remembers
    by_contra closed
    exact not_neverForgets libraries settings textOf closed remembers
  · exact neverForgets_of_writes libraries settings textOf injective floats integers deltas

end Types

/-- The text of an object holds each of its fields. -/
theorem dumpsFields_field {fields : List (PyStr × Json)} {name : PyStr} {value : Json}
    (member : (name, value) ∈ fields) :
    ∃ start rest, Json.dumpsFields Json.compactSeparators fields ++ [0x7d] =
      start ++ (Json.quoted name ++ text ":" ++ (Json.dumps Json.compactSeparators value ++ rest)) ∧
        (rest.head? = some 0x2c ∨ rest.head? = some 0x7d) := by
  induction fields with
  | nil => cases member
  | cons field fields ih =>
      obtain ⟨other, inner⟩ := field
      rcases List.mem_cons.mp member with same | later
      · cases same
        refine ⟨text ",", Json.dumpsFields Json.compactSeparators fields ++ [0x7d], ?_, ?_⟩
        · simp only [Json.dumpsFields, List.append_assoc]
          rfl
        · cases fields with
          | nil => exact .inr rfl
          | cons => exact .inl rfl
      · obtain ⟨start, rest, whole, ends⟩ := ih later
        refine ⟨Json.compactSeparators.item ++ Json.quoted other ++ Json.compactSeparators.key ++
          Json.dumps Json.compactSeparators inner ++ start, rest, ?_, ends⟩
        rw [Json.dumpsFields, List.append_assoc, whole]
        simp only [List.append_assoc]

theorem dumps_field {fields : List (PyStr × Json)} {name : PyStr} {value : Json}
    (member : (name, value) ∈ fields) :
    ∃ start rest, Json.dumps Json.compactSeparators (.obj fields) =
      start ++ (Json.quoted name ++ text ":" ++ (Json.dumps Json.compactSeparators value ++ rest)) ∧
        (rest.head? = some 0x2c ∨ rest.head? = some 0x7d) := by
  obtain ⟨start, rest, whole, ends⟩ := dumpsFields_field member
  cases fields with
  | nil => cases member
  | cons field fields =>
      cases start with
      | nil => cases whole
      | cons comma start =>
          refine ⟨0x7b :: start, rest, ?_, ends⟩
          have inner : Json.dumpsFields Json.compactSeparators (field :: fields) ++ [0x7d] =
              0x2c :: (Json.quoted field.1 ++ Json.compactSeparators.key ++
                Json.dumps Json.compactSeparators field.2 ++
                  Json.dumpsFields Json.compactSeparators fields ++ [0x7d]) := by
            simp only [Json.dumpsFields, List.append_assoc]
            rfl
          rw [inner] at whole
          have tail := (List.cons.inj whole).2
          change 0x7b :: (Json.quoted field.1 ++ Json.compactSeparators.key ++
            Json.dumps Json.compactSeparators field.2 ++
              Json.dumpsFields Json.compactSeparators fields ++ [0x7d]) = 0x7b :: _
          exact congrArg (0x7b :: ·) tail

theorem sortFields_mem {fields : List (PyStr × Json)} {name : PyStr} {value : Json}
    (found : Json.field name fields = some value) :
    (name, Json.sortKeys value) ∈ Json.sortFields fields := by
  induction fields with
  | nil => cases found
  | cons field fields ih =>
      unfold Json.field at found ih
      rw [List.lookup_cons] at found
      split at found
      · rename_i same
        cases found
        rw [eq_of_beq same]
        exact List.mem_cons_self ..
      · exact List.mem_cons_of_mem _ (ih found)

/-- Two integers before a comma or a brace are equal when their texts are. -/
theorem takeWhile_intStr (value : Int) {rest : PyStr}
    (ends : rest.head? = some 0x2c ∨ rest.head? = some 0x7d) :
    (intStr value ++ rest).takeWhile (fun symbol => symbol ≠ 0x2c && symbol ≠ 0x7d) = intStr value := by
  rw [List.takeWhile_append_of_pos]
  · cases rest with
    | nil => simp
    | cons first rest =>
        rcases ends with same | same <;> cases same <;> simp
  · intro symbol member
    have comma : symbol ≠ 0x2c := by
      rintro rfl
      exact intStr_free value 0x2c (by decide) (by decide) member
    have brace : symbol ≠ 0x7d := by
      rintro rfl
      exact intStr_free value 0x7d (by decide) (by decide) member
    simp [comma, brace]

/-- Among the objects with the canonical text of the order there is only one type id. -/
theorem thinOrder_typeId {fields : List (PyStr × Json)} {typeId : Int}
    (same : (Json.obj fields).canonical = thinOrder.canonical)
    (typed : Json.field (text "type_id") fields = some (.int typeId)) : typeId = 34 := by
  have member : (text "type_id", Json.int typeId) ∈
      (Json.sortFields fields).insertionSort fun first second => first.1 ≤ second.1 :=
    (List.mem_insertionSort _).mpr (sortFields_mem typed)
  obtain ⟨start, rest, whole, ends⟩ := dumps_field member
  have written : start ++ (text "\"type_id\":" ++ (intStr typeId ++ rest)) = thinOrder.canonical :=
    whole.symm.trans same
  have place : ∀ index ≤ thinOrder.canonical.length,
      (text "\"type_id\":").isPrefixOf (thinOrder.canonical.drop index) = true → index = 14 := by
    decide +kernel
  have length : start.length = 14 := by
    refine place start.length ?_ ?_
    · rw [← written, List.length_append]
      omega
    · rw [← written, List.drop_left]
      exact List.isPrefixOf_iff_prefix.mpr (List.prefix_append _ _)
  have tail : intStr typeId ++ rest = thinOrder.canonical.drop 24 := by
    rw [← written, ← List.append_assoc, ← show (start ++ text "\"type_id\":").length = 24 by
      rw [List.length_append, length]; rfl, List.drop_left]
  have digits := takeWhile_intStr typeId ends
  rw [tail] at digits
  exact intStr_injective (digits.symm.trans (by decide +kernel))

/-- This is the operator `->>` on an object. -/
def fieldText : Json → PyStr → Option PyStr
  | .obj fields, name =>
      match Json.field name fields with
      | none => none
      | some .null => none
      | some (.str value) => some value
      | some value => some (Json.dumps Json.defaultSeparators value)
  | _, _ => none

/-- These digests are the real ones on the texts of the order and of its snapshot. -/
def thinDigests : List (Bytes × PyStr) :=
  [(bytes "[\x7b\"order_id\": 1, \"type_id\": 34\x7d]",
      text "15029a327bffe5ea4e838059f8161096f4a39ed19175dc080da2f32436e7b46e"),
    (bytes "\x7b\"order_id\":1,\"type_id\":34\x7d",
      text "4262fa0ca2f76f460bbef7d3babf3323c6e083eb005ca5941c05ad811ed0f67a"),
    (bytes "tranquility\u0000/v1/markets/10000002/orders/\u0000665d3978ae07d765\u0000" ++
        bytes "2024-01-01T00:00:00+00:00\u0000" ++
        bytes "15029a327bffe5ea4e838059f8161096f4a39ed19175dc080da2f32436e7b46e",
      text "bd9a7b18f7bbfff3eb75bae6e43796e0ed393dfb997360f12d54d9ec9bd54500")]

/-- These digests are the real ones on the parameters of the collector and of another query. -/
def orderTypeDigests : List (Bytes × PyStr) :=
  [(bytes "\x7b\"order_type\": \"all\"\x7d", text "e9c55fc73bb8045e"),
    (bytes "\x7b\"order_type\": \"sell\"\x7d", text "665d3978ae07d765")]

theorem thinDigests_pinnable : Pinnable thinDigests :=
  pinnable_of_digests (by decide +kernel) (by decide +kernel)

/-- These bytes are the real ones that `zlib` gives for the payload at level 9. -/
def thinBodies : List ((Nat × Bytes) × Bytes) :=
  [((9, bytes "[\x7b\"order_id\": 1, \"type_id\": 34\x7d]"), [120, 218, 139, 174, 86, 202, 47, 74, 73,
      45, 138, 207, 76, 81, 178, 82, 48, 212, 81, 80, 42, 169, 44, 72, 133, 240, 140, 77, 106, 99, 1, 172,
      157, 10, 7])]

theorem thinBodies_consistent : Consistent thinBodies := by
  intro pin member
  obtain rfl := List.mem_singleton.mp member
  refine ⟨by decide, fun other inside _ => ?_⟩
  rw [List.mem_singleton.mp inside]

/-- These libraries know the order. -/
def thinLibraries (pyarrow : Option Pyarrow) : Libraries where
  floatRepr := Json.oneNumeral
  floatInt _ := none
  sha256 := pinnedDigest thinDigests
  queryDigest := pinnedDigest orderTypeDigests
  zstandard := none
  zlib := pinnedCompressor thinBodies thinBodies_consistent
  pyarrow := pyarrow
  jsonb canonical := if canonical = thinOrder.canonical then some thinOrder else none

theorem thinLibraries_integers (pyarrow : Option Pyarrow) :
    IntegerText (thinLibraries pyarrow) fieldText := by
  intro fields typeId stored _ typed written
  have known : (if (Json.obj fields).canonical = thinOrder.canonical then some thinOrder else none) =
      some stored := written
  split_ifs at known with same
  cases known
  rw [thinOrder_typeId same typed]
  decide

/-- The Parquet store is off, and the deltas are on. -/
def parquetOff : Settings := { enableMarketOrderParquet := false }

/-- The type of an archived order is forgotten while the Parquet store is off. -/
theorem neverForgets_parquetOff :
    parquetOff.enableMarketOrderDeltas = true ∧
      ListsOrder (thinLibraries none) (thinOrders (text "665d3978ae07d765")) (text "tranquility") 10000002
        1 thinOrder ∧
      (∃ after, (ArchiveCall.snapshot newYear (thinOrders (text "665d3978ae07d765")) none).transact
          (thinLibraries none) parquetOff emptySession = (true, after) ∧
        Discovers (thinLibraries none) fieldText after (text "tranquility") 10000002 []) ∧
      ¬ NeverForgets (thinLibraries none) parquetOff fieldText := by
  have closed : ¬ WritesDeltas (thinLibraries none) parquetOff := by
    rintro ⟨enabled, _⟩
    cases enabled
  exact ⟨rfl, thinOrders_lists _ _, thinOrders_forgotten _ _ _ closed (by decide) (by decide +kernel),
    not_neverForgets _ _ _ closed⟩

/-- With the Parquet store no type is forgotten. -/
theorem neverForgets_iff_thinLibraries :
    NeverForgets (thinLibraries (some ⟨fun _ => some (bytes "PAR1"), fun _ => some (.arr [thinOrder])⟩)) {}
      fieldText :=
  (neverForgets_iff _ {} fieldText (pinnedDigest_injective thinDigests_pinnable) Json.oneNumeral_readBack
    (thinLibraries_integers _) rfl).mpr ⟨rfl, rfl⟩

end EveApiCache
