import EveApiCache.Library.FirstOccurrence
import EveApiCache.Proof.Archive.Deltas
import Mathlib.Data.Rat.Defs

/-!
This file shows which observation the archive returns.
-/

namespace EveApiCache
open Effects StepMachine FirstOccurrence

namespace Datetime

theorem minutes_ordinal (time : Datetime) : time.minutes = time.ordinal / 60000000 := by
  have seconds := time.second.isLt
  have microseconds := time.microsecond.isLt
  unfold ordinal
  omega

theorem minuteStart_of_minutes {first second : Datetime} (same : first.minutes = second.minutes) :
    first.minuteStart = second.minuteStart := by
  obtain ⟨year, month, day, hour, minute, s, m⟩ := first
  obtain ⟨otherYear, otherMonth, otherDay, otherHour, otherMinute, t, n⟩ := second
  unfold minutes at same
  dsimp only at same
  have fields : year = otherYear ∧ month = otherMonth ∧ day = otherDay ∧ hour = otherHour ∧
      minute = otherMinute := by omega
  obtain ⟨rfl, rfl, rfl, rfl, rfl⟩ := fields
  rfl

theorem minutes_of_minuteStart {first second : Datetime}
    (same : first.minuteStart = second.minuteStart) : first.minutes = second.minutes := by
  change first.minuteStart.minutes = second.minuteStart.minutes
  rw [same]

theorem ordinal_injective {first second : Datetime} (same : first.ordinal = second.ordinal) :
    first = second := by
  have minutes : first.minutes = second.minutes := by
    rw [minutes_ordinal, minutes_ordinal, same]
  have starts := minuteStart_of_minutes minutes
  obtain ⟨year, month, day, hour, minute, s, m⟩ := first
  obtain ⟨otherYear, otherMonth, otherDay, otherHour, otherMinute, t, n⟩ := second
  unfold ordinal at same
  rw [minutes] at same
  simp only [minuteStart, mk.injEq] at starts
  dsimp only at same
  have fields : s = t ∧ m = n := by omega
  obtain ⟨rfl, rfl, rfl, rfl, rfl, _, _⟩ := starts
  rw [fields.1, fields.2]

/-- A time between two times of one minute is in that minute. -/
theorem minuteStart_between {first middle last : Datetime} (before : first.ordinal ≤ middle.ordinal)
    (after : middle.ordinal ≤ last.ordinal) (same : first.minuteStart = last.minuteStart) :
    middle.minuteStart = last.minuteStart := by
  have ends := minutes_of_minuteStart same
  refine minuteStart_of_minutes ?_
  have low := Nat.div_le_div_right (c := 60000000) before
  have high := Nat.div_le_div_right (c := 60000000) after
  rw [← minutes_ordinal, ← minutes_ordinal] at low high
  omega

end Datetime

/-- The query takes a row that no other row is later than. -/
theorem latestRow_spec (rows : List TimeSeriesSnapshot) (nonempty : rows ≠ []) :
    ∃ row ∈ rows, latestRow rows = some row ∧
      ∀ other ∈ rows, other.fetchedAt.ordinal ≤ row.fetchedAt.ordinal := by
  induction rows using List.reverseRecOn with
  | nil => exact absurd rfl nonempty
  | append_singleton rows row ih =>
      unfold latestRow at ih ⊢
      rw [List.foldl_append, List.foldl_cons, List.foldl_nil]
      cases rows with
      | nil => exact ⟨row, by simp, rfl, by simp⟩
      | cons first rest =>
          obtain ⟨best, member, found, latest⟩ := ih (List.cons_ne_nil _ _)
          rw [found]
          dsimp only
          split_ifs with later
          · refine ⟨row, by simp, rfl, fun other inside => ?_⟩
            rcases List.mem_append.mp inside with old | new
            · exact (latest other old).trans later
            · rw [List.mem_singleton.mp new]
          · refine ⟨best, List.mem_append_left _ member, rfl, fun other inside => ?_⟩
            rcases List.mem_append.mp inside with old | new
            · exact latest other old
            · rw [List.mem_singleton.mp new]
              omega

variable (libraries : Libraries) (settings : Settings)

/-- A call adds its row to the snapshots unless its idempotency key is taken. -/
def Added (row : TimeSeriesSnapshot) (before after : List TimeSeriesSnapshot) : Prop :=
  ((∃ old ∈ before, old.idempotencyKey = row.idempotencyKey) ∧ List.Forall₂ Relabelled before after) ∨
    (∀ old ∈ before, old.idempotencyKey ≠ row.idempotencyKey) ∧
      ∃ id, List.Forall₂ Relabelled (before ++ [{ row with id := id }]) after

theorem relabelled_trans {first second third : List TimeSeriesSnapshot}
    (one : List.Forall₂ Relabelled first second) (two : List.Forall₂ Relabelled second third) :
    List.Forall₂ Relabelled first third := by
  induction one generalizing third with
  | nil => exact two
  | cons label _ ih =>
      cases two with
      | cons other rest => exact .cons (label.trans other) (ih rest)

theorem insertTimeseries_added {session final : Session} {row : TimeSeriesSnapshot}
    {reply : Option Nat} (keyed : row.idempotencyKey.isSome = true)
    (moved : execute libraries (.insertTimeseries row) session = some (reply, final)) :
    row.fits = true ∧ Added row session.database.timeseries final.database.timeseries := by
  simp only [execute, keyed, Bool.true_and] at moved
  split_ifs at moved with misfit taken
  all_goals
    cases moved
    refine ⟨by simpa using misfit, ?_⟩
  · refine .inl ⟨?_, relabelled_refl _⟩
    simpa using taken
  · refine .inr ⟨?_, _, relabelled_refl _⟩
    simpa using taken

/-- A statement that brings no snapshot at most relabels the snapshots. -/
theorem execute_relabels (start : List TimeSeriesSnapshot) (statement : Statement) (session : Session)
    (result : statement.Reply × Session) (harmless : statement.Harmless)
    (labels : List.Forall₂ Relabelled start session.database.timeseries)
    (moved : execute libraries statement session = some result) :
    List.Forall₂ Relabelled start result.2.database.timeseries := by
  cases statement with
  | insertBlob => exact harmless.elim
  | insertTimeseries => exact harmless.elim
  | labelParquet snapshotId manifestId =>
      simp only [execute] at moved
      split_ifs at moved
      cases moved
      refine relabelled_trans labels ?_
      change List.Forall₂ Relabelled session.database.timeseries (session.database.timeseries.map _)
      rw [List.forall₂_map_right_iff, List.forall₂_same]
      intro row _
      split_ifs
      · exact ⟨_, _, rfl⟩
      · exact .refl row
  | _ =>
      rw [execute_timeseries libraries _ session result trivial moved]
      exact labels

theorem marketOrdersRegionId_ensures (path : PyStr) (holds : Session → Prop) {session : Session}
    (start : holds session) :
    (marketOrdersRegionId path).Ensures (execute libraries) (fun _ final => holds final)
      (fun _ => True) session := by
  unfold marketOrdersRegionId
  split
  · exact start
  · exact orFail_ensures libraries _ (fun _ => trivial) fun _ _ => start

theorem Added.relabels {row : TimeSeriesSnapshot} {before middle after : List TimeSeriesSnapshot}
    (added : Added row before middle) (labels : List.Forall₂ Relabelled middle after) :
    Added row before after :=
  added.imp (fun taken => ⟨taken.1, relabelled_trans taken.2 labels⟩) fun free =>
    ⟨free.1, free.2.imp fun _ rows => relabelled_trans rows labels⟩

/-- A time-series call adds its row and relabels at most. -/
theorem writeTimeSeries_added (now : Datetime) (observed : Observation) (session : Session) :
    (writeTimeSeries libraries settings now observed).Ensures (execute libraries)
      (fun _ final => observed.identity.fits = true ∧
        Added (snapshotRow libraries now observed) session.database.timeseries
          final.database.timeseries) (fun _ => True) session := by
  have recording : (recordSnapshot libraries now observed).Ensures (execute libraries)
      (fun _ final => observed.identity.fits = true ∧
        Added (snapshotRow libraries now observed) session.database.timeseries
          final.database.timeseries) (fun _ => True) session := by
    refine (Program.ensures_bind _ _ _).mpr ⟨trivial, fun result moved => ?_⟩
    cases moved
    refine (Program.ensures_done _ _).mpr ?_
    refine (Program.ensures_bind _ _ _).mpr (Program.Ensures.mono (marketOrdersRegionId_ensures
      libraries _ (fun state => state.database.timeseries = session.database.timeseries) rfl)
      (fun _ state rows => ?_) fun _ stopped => stopped)
    refine ⟨trivial, fun result moved => ?_⟩
    obtain ⟨reply, inserted⟩ := result
    obtain ⟨fits, added⟩ := insertTimeseries_added libraries rfl moved
    rw [rows] at added
    have done := And.intro (TimeSeriesSnapshot.fits_identity fits) added
    cases reply with
    | some id => exact done
    | none =>
        refine ⟨trivial, fun result looked => ?_⟩
        cases looked
        exact done
  refine (Program.ensures_bind _ _ _).mpr (Program.Ensures.mono recording (fun recorded middle added =>
    ?_) fun _ stopped => stopped)
  refine Program.Ensures.mono (Program.ensures_of_only (execute libraries)
    (fun state => List.Forall₂ Relabelled middle.database.timeseries state.database.timeseries)
    (fun statement state result harmless labels moved =>
      execute_relabels libraries _ statement state result harmless labels moved)
    (Only.weaken (storeParquet_exports libraries settings now observed recorded.1 recorded.2)
      fun _ exported => exported.harmless) (relabelled_refl _))
    (fun _ final labels => ⟨added.1, added.2.relabels labels⟩) fun _ _ => trivial

/-- A successful call ran its statements to the end and committed. -/
theorem transact_succeeded {A : Type} {fault : Option Nat} {program : Transaction A}
    {session next : Session} (succeeded : transact libraries fault program session = (true, next)) :
    ∃ value final, program.eval (execute libraries) session = some (value, final) ∧
      next = final.rollback := by
  unfold transact at succeeded
  split at succeeded
  · rename_i value final ended
    cases succeeded
    exact ⟨value, final, Program.eval_of_run fault program session final value ended, rfl⟩
  · cases succeeded

/-- These arguments may differ between the calls for one identity. -/
structure ArchiveWrite where
  now : Datetime
  payload : Bytes
  httpStatus : Int
  etag : Option PyStr
  expiresAt : Option Datetime

namespace ArchiveWrite

/-- The content hash is filled in by the caller. -/
def observation (identity : Identity) (archiveType : ArchiveType) (write : ArchiveWrite) :
    Observation where
  identity := identity
  contentHash := []
  payload := write.payload
  httpStatus := write.httpStatus
  etag := write.etag
  expiresAt := write.expiresAt
  archiveType := archiveType

/-- This is the call of `write_snapshot` without a fault. -/
def call (identity : Identity) (archiveType : ArchiveType) (write : ArchiveWrite) : ArchiveCall :=
  .snapshot write.now (write.observation identity archiveType) none

/-- Two calls of one minute with one payload share a snapshot. -/
def key (write : ArchiveWrite) : Datetime × Bytes := (write.now.minuteStart, write.payload)

end ArchiveWrite

/-- This function makes the calls one after the other and gives nothing when one of them fails. -/
def writeAll (identity : Identity) (archiveType : ArchiveType) :
    List ArchiveWrite → Session → Option Session
  | [], session => some session
  | write :: rest, session =>
      match (write.call identity archiveType).transact libraries settings session with
      | (true, next) => writeAll identity archiveType rest next
      | (false, _) => none

/-- The snapshots of an identity follow a history of calls, whose newest call comes first. -/
structure Tracks (identity : Identity) (history : List ArchiveWrite)
    (rows : List TimeSeriesSnapshot) : Prop where
  written : ∀ row ∈ rows, row.identity = identity → ∃ write ∈ history,
    row.fetchedAt = write.now ∧ row.contentHash = libraries.sha256 write.payload
  covered : ∀ write ∈ history, ∃ row ∈ rows, row.identity = identity ∧
    row.fetchedAt.minuteStart = write.now.minuteStart ∧
      row.contentHash = libraries.sha256 write.payload
  latest : ∀ last, newest ArchiveWrite.key history = some last →
    (∃ row ∈ rows, row.identity = identity ∧ row.fetchedAt = last.now) ∧
      ∀ row ∈ rows, row.identity = identity → row.fetchedAt.ordinal ≤ last.now.ordinal

theorem tracks_nil {identity : Identity} {rows : List TimeSeriesSnapshot}
    (fresh : ∀ row ∈ rows, row.identity ≠ identity) : Tracks libraries identity [] rows :=
  ⟨fun row member same => absurd same (fresh row member), nofun, nofun⟩

/-- Labels do not matter to the history. -/
theorem Tracks.relabels {identity : Identity} {history : List ArchiveWrite}
    {before after : List TimeSeriesSnapshot} (tracks : Tracks libraries identity history before)
    (labels : List.Forall₂ Relabelled before after) : Tracks libraries identity history after where
  written row member same := by
    obtain ⟨old, present, _, _, rfl⟩ := relabelled_backward labels row member
    exact tracks.written old present same
  covered write member := by
    obtain ⟨row, present, facts⟩ := tracks.covered write member
    obtain ⟨_, kept, _, _, rfl⟩ := relabelled_forward labels row present
    exact ⟨_, kept, facts⟩
  latest last found := by
    obtain ⟨⟨row, present, facts⟩, bound⟩ := tracks.latest last found
    obtain ⟨_, kept, _, _, rfl⟩ := relabelled_forward labels row present
    refine ⟨⟨_, kept, facts⟩, fun other member same => ?_⟩
    obtain ⟨old, present, _, _, rfl⟩ := relabelled_backward labels other member
    exact bound old present same

theorem timeseriesIdempotencyKey_minute (identity : Identity) (hash : PyStr) {first second : Datetime}
    (same : first.minuteStart = second.minuteStart) :
    timeseriesIdempotencyKey libraries identity hash first =
      timeseriesIdempotencyKey libraries identity hash second := by
  unfold timeseriesIdempotencyKey
  rw [same]

/-- A later call extends the history. -/
theorem Tracks.add (injective : Function.Injective libraries.sha256) {identity : Identity}
    {history : List ArchiveWrite} {before after : List TimeSeriesSnapshot} {write : ArchiveWrite}
    {archiveType : ArchiveType} (tracks : Tracks libraries identity history before)
    (fitting : ∀ row ∈ before, row.identity.fits = true)
    (keyed : ∀ row ∈ before, row.idempotencyKey =
      some (timeseriesIdempotencyKey libraries row.identity row.contentHash row.fetchedAt))
    (fits : identity.fits = true) (later : ∀ old ∈ history, old.now.ordinal < write.now.ordinal)
    (added : Added (snapshotRow libraries write.now
      ((write.observation identity archiveType).hashed libraries)) before after) :
    Tracks libraries identity (write :: history) after := by
  rcases added with ⟨⟨old, member, taken⟩, labels⟩ | ⟨free, id, labels⟩
  · have keys := Option.some.inj ((keyed old member).symm.trans taken)
    obtain ⟨same, minute, hash⟩ := timeseriesIdempotencyKey_injective libraries injective
      (fitting old member) fits keys
    change old.contentHash = libraries.sha256 write.payload at hash
    obtain ⟨first, inside, time, content⟩ := tracks.written old member same
    have repeated : write.key ∈ history.map ArchiveWrite.key := by
      refine List.mem_map.mpr ⟨first, inside, ?_⟩
      unfold ArchiveWrite.key
      rw [← time, minute, injective (content.symm.trans hash)]
    refine Tracks.relabels libraries ⟨fun row present equal => ?_, fun other present => ?_,
      fun last found => ?_⟩ labels
    · obtain ⟨first, inside, facts⟩ := tracks.written row present equal
      exact ⟨first, List.mem_cons_of_mem _ inside, facts⟩
    · rcases List.mem_cons.mp present with rfl | present
      · exact ⟨old, member, same, minute, hash⟩
      · exact tracks.covered other present
    · rw [newest, if_pos repeated] at found
      exact tracks.latest last found
  · have unseen : write.key ∉ history.map ArchiveWrite.key := by
      intro repeated
      obtain ⟨first, inside, same⟩ := List.mem_map.mp repeated
      obtain ⟨minute, payload⟩ := Prod.mk.inj same
      obtain ⟨row, present, equal, time, hash⟩ := tracks.covered first inside
      refine free row present ?_
      rw [keyed row present, equal, hash, show first.payload = write.payload from payload,
        timeseriesIdempotencyKey_minute libraries identity _ (time.trans minute)]
      rfl
    refine Tracks.relabels libraries ⟨fun row present equal => ?_, fun other present => ?_,
      fun last found => ?_⟩ labels
    · rcases List.mem_append.mp present with old | new
      · obtain ⟨first, inside, facts⟩ := tracks.written row old equal
        exact ⟨first, List.mem_cons_of_mem _ inside, facts⟩
      · obtain rfl := List.mem_singleton.mp new
        exact ⟨write, List.mem_cons_self .., rfl, rfl⟩
    · rcases List.mem_cons.mp present with rfl | present
      · exact ⟨_, List.mem_append_right _ (List.mem_singleton_self _), rfl, rfl, rfl⟩
      · obtain ⟨row, inside, facts⟩ := tracks.covered other present
        exact ⟨row, List.mem_append_left _ inside, facts⟩
    · rw [newest, if_neg unseen] at found
      obtain rfl := Option.some.inj found
      refine ⟨⟨_, List.mem_append_right _ (List.mem_singleton_self _), rfl, rfl⟩,
        fun row present equal => ?_⟩
      rcases List.mem_append.mp present with old | new
      · obtain ⟨first, inside, time, _⟩ := tracks.written row old equal
        rw [time]
        exact (later first inside).le
      · obtain rfl := List.mem_singleton.mp new
        exact le_rfl

/-- The archive returns the payload of the newest first occurrence in the history. -/
theorem getLatestPayload_tracks (injective : Function.Injective libraries.sha256)
    {database : Database} {files : PyStr → Option Bytes} {identity : Identity}
    {history : List ArchiveWrite} {last : ArchiveWrite} (sound : Sound libraries database)
    (restorable : Restorable libraries database)
    (tracks : Tracks libraries identity history database.timeseries)
    (distinct : ∀ first ∈ history, ∀ second ∈ history, first.now = second.now → first = second)
    (found : newest ArchiveWrite.key history = some last) :
    getLatestPayload libraries database files identity = some (some last.payload) := by
  obtain ⟨⟨row, present, same, time⟩, bound⟩ := tracks.latest last found
  have nonempty : database.timeseries.filter (·.identity = identity) ≠ [] := by
    intro empty
    have member : row ∈ database.timeseries.filter (·.identity = identity) :=
      List.mem_filter.mpr ⟨present, by simpa using same⟩
    rw [empty] at member
    cases member
  obtain ⟨best, inside, chosen, latest⟩ := latestRow_spec _ nonempty
  obtain ⟨member, equal⟩ := List.mem_filter.mp inside
  have equal : best.identity = identity := by simpa using equal
  have instant : best.fetchedAt = last.now := by
    have low := latest row (List.mem_filter.mpr ⟨present, by simpa using same⟩)
    have high := bound best member equal
    rw [time] at low
    exact Datetime.ordinal_injective (le_antisymm high low)
  have hash : best.contentHash = libraries.sha256 last.payload := by
    obtain ⟨write, inHistory, time, content⟩ := tracks.written best member equal
    rw [content, distinct write inHistory last (newest_mem _ found) (time.symm.trans instant)]
  obtain ⟨blob, stored⟩ := Option.isSome_iff_exists.mp (restorable.payloads best member)
  obtain ⟨payload, restored, content⟩ := restorable.blobs _ _ stored
  obtain rfl := injective (content.trans hash)
  unfold getLatestPayload
  rw [chosen]
  dsimp only
  rw [sound.compressed best member, columnText, stored]
  dsimp only
  rw [restored]
  rfl

theorem call_reachable {session next : Session} {call : ArchiveCall} {succeeded : Bool}
    (reached : (archiveMachine libraries settings).Reachable session)
    (moved : call.transact libraries settings session = (succeeded, next)) :
    (archiveMachine libraries settings).Reachable next := by
  have step : (archiveMachine libraries settings).step session call = some next := by
    change some (call.transact libraries settings session).2 = some next
    rw [moved]
  exact .step reached trivial step

/-- A sequence of calls leads from one reachable archive to another. -/
theorem writeAll_reachable {identity : Identity} {archiveType : ArchiveType}
    (writes : List ArchiveWrite) {session final : Session}
    (reached : (archiveMachine libraries settings).Reachable session)
    (completed : writeAll libraries settings identity archiveType writes session = some final) :
    (archiveMachine libraries settings).Reachable final := by
  induction writes generalizing session with
  | nil =>
      cases completed
      exact reached
  | cons write rest ih =>
      unfold writeAll at completed
      split at completed
      · rename_i next moved
        exact ih (call_reachable libraries settings reached moved) completed
      · cases completed

theorem snapshot_eval {identity : Identity} {archiveType : ArchiveType} {write : ArchiveWrite}
    {session next : Session}
    (moved : (write.call identity archiveType).transact libraries settings session = (true, next)) :
    ∃ final, (writeSnapshot libraries settings write.now
        ((write.observation identity archiveType).hashed libraries)).eval (execute libraries) session =
          some ((), final) ∧ next = final.rollback := by
  obtain ⟨⟨⟩, final, rest⟩ := transact_succeeded libraries moved
  exact ⟨final, rest⟩

/-- A successful time-series call extends the history. -/
theorem transact_tracks (injective : Function.Injective libraries.sha256) {identity : Identity}
    {history : List ArchiveWrite} {write : ArchiveWrite} {session next : Session}
    (reached : (archiveMachine libraries settings).Reachable session)
    (tracks : Tracks libraries identity history session.committed.timeseries)
    (later : ∀ old ∈ history, old.now.ordinal < write.now.ordinal)
    (moved : (write.call identity .timeSeries).transact libraries settings session = (true, next)) :
    Tracks libraries identity (write :: history) next.committed.timeseries := by
  obtain ⟨final, evaluated, rfl⟩ := snapshot_eval libraries settings moved
  have idle := (reachable_restorable libraries settings reached).1
  have sound := (reachable_sound libraries settings injective reached).committed
  change (writeTimeSeries libraries settings write.now
    ((write.observation identity .timeSeries).hashed libraries) >>= fun _ =>
      Program.call (I := archiveInterface) .commit).eval (execute libraries) session = _ at evaluated
  rw [Program.eval_bind] at evaluated
  obtain ⟨⟨⟨⟩, middle⟩, wrote, committed⟩ := Option.bind_eq_some_iff.mp evaluated
  obtain ⟨fits, added⟩ := (writeTimeSeries_added libraries settings _ _ session).eval wrote
  rw [show session.database = session.committed from idle] at added
  cases committed
  exact tracks.add libraries injective sound.fits sound.keyed fits later added

theorem writeAll_tracks (injective : Function.Injective libraries.sha256) {identity : Identity}
    (writes history : List ArchiveWrite) {session final : Session}
    (reached : (archiveMachine libraries settings).Reachable session)
    (tracks : Tracks libraries identity history session.committed.timeseries)
    (later : ∀ old ∈ history, ∀ write ∈ writes, old.now.ordinal < write.now.ordinal)
    (increasing : writes.Pairwise fun one two => one.now.ordinal < two.now.ordinal)
    (completed : writeAll libraries settings identity .timeSeries writes session = some final) :
    Tracks libraries identity (writes.reverse ++ history) final.committed.timeseries := by
  induction writes generalizing session history with
  | nil =>
      cases completed
      exact tracks
  | cons write rest ih =>
      unfold writeAll at completed
      split at completed
      · rename_i next moved
        have after := call_reachable libraries settings reached moved
        rw [List.pairwise_cons] at increasing
        rw [List.reverse_cons, List.append_assoc]
        refine ih (write :: history) after (transact_tracks libraries settings injective reached tracks
          (fun old member => later old member write (List.mem_cons_self ..)) moved) ?_ increasing.2
          completed
        intro old member new inside
        rcases List.mem_cons.mp member with rfl | member
        · exact increasing.1 new inside
        · exact later old member new (List.mem_cons_of_mem _ inside)
      · cases completed

/-- Once the last payload has been written in the minute of the last call, every further call repeats
a payload that was written in its minute before. -/
def RepeatsAfterLast (writes : List ArchiveWrite) (last : ArchiveWrite) : Prop :=
  ∀ before write after, writes = before ++ write :: after →
    last.key ∈ before.map ArchiveWrite.key → write.key ∈ before.map ArchiveWrite.key

/-- For time series the archive returns the last payload exactly when nothing new follows it within
its minute. -/
theorem timeSeries_latest_iff (injective : Function.Injective libraries.sha256) {identity : Identity}
    {start final : Session} {writes : List ArchiveWrite} {last : ArchiveWrite}
    (reached : (archiveMachine libraries settings).Reachable start)
    (fresh : ∀ row ∈ start.committed.timeseries, row.identity ≠ identity)
    (increasing : writes.Pairwise fun one two => one.now.ordinal < two.now.ordinal)
    (ends : writes.getLast? = some last)
    (completed : writeAll libraries settings identity .timeSeries writes start = some final) :
    getLatestPayload libraries final.committed final.files identity = some (some last.payload) ↔
      RepeatsAfterLast writes last := by
  have after := writeAll_reachable libraries settings writes reached completed
  have tracks := writeAll_tracks libraries settings injective writes [] reached
    (tracks_nil libraries fresh) nofun increasing completed
  rw [List.append_nil] at tracks
  obtain ⟨init, rfl⟩ := List.getLast?_eq_some_iff.mp ends
  have present : last.key ∈ (init ++ [last]).reverse.map ArchiveWrite.key := by simp
  obtain ⟨newestWrite, found⟩ := Option.isSome_iff_exists.mp
    (newest_isSome ArchiveWrite.key (init ++ [last]).reverse (by simp))
  have chosen := newest_mem _ found
  rw [List.mem_reverse] at chosen
  have times : ((init ++ [last]).map (·.now)).Nodup := by
    refine List.pairwise_map.mpr (increasing.imp fun less equal => ?_)
    rw [equal] at less
    exact less.false
  have distinct : ∀ first ∈ (init ++ [last]).reverse, ∀ second ∈ (init ++ [last]).reverse,
      first.now = second.now → first = second := by
    intro first one second two same
    rw [List.mem_reverse] at one two
    exact List.inj_on_of_nodup_map times one two same
  rw [getLatestPayload_tracks libraries injective
    (reachable_sound libraries settings injective after).committed
    (reachable_restorable libraries settings after).2 tracks distinct found]
  have ordered : newestWrite.now.ordinal ≤ last.now.ordinal := by
    rcases List.mem_append.mp chosen with old | new
    · exact ((List.pairwise_append.mp increasing).2.2 newestWrite old last (by simp)).le
    · rw [List.mem_singleton.mp new]
  have minute : newestWrite.now.minuteStart = last.now.minuteStart := by
    obtain ⟨newer, entry, older, split, same, order⟩ := newest_after ArchiveWrite.key present found
    refine Datetime.minuteStart_between ?_ ordered (Prod.mk.inj same).1
    rcases order with rfl | inside
    · exact le_rfl
    · have chronological : init ++ [last] = older.reverse ++ entry :: newer.reverse := by
        rw [← List.reverse_reverse (init ++ [last]), split]
        simp
      rw [chronological] at increasing
      have ahead := (List.pairwise_append.mp increasing).2.1
      exact ((List.pairwise_cons.mp ahead).1 newestWrite (List.mem_reverse.mpr inside)).le
  have keys : newestWrite.payload = last.payload ↔
      ∃ entry, newest ArchiveWrite.key (init ++ [last]).reverse = some entry ∧
        entry.key = last.key := by
    rw [found]
    constructor
    · intro same
      exact ⟨newestWrite, rfl, Prod.ext minute same⟩
    · rintro ⟨entry, equal, same⟩
      obtain rfl := Option.some.inj equal
      exact (Prod.mk.inj same).2
  rw [Option.some.injEq, Option.some.injEq, keys, newest_key_iff ArchiveWrite.key present]
  constructor
  · intro all before write rest split earlier
    have reversed : (init ++ [last]).reverse = rest.reverse ++ write :: before.reverse := by
      rw [split]
      simp
    simpa using all rest.reverse write before.reverse reversed (by simpa using earlier)
  · intro all newer entry older split earlier
    have chronological : init ++ [last] = older.reverse ++ entry :: newer.reverse := by
      rw [← List.reverse_reverse (init ++ [last]), split]
      simp
    simpa using all older.reverse entry newer.reverse chronological (by simpa using earlier)

namespace Json

def exponentValue : PyStr → Int
  | _ :: sign :: digits =>
      if sign = 0x2d then -(digitsValue digits : Int)
      else if sign = 0x2b then digitsValue digits
      else digitsValue (sign :: digits)
  | _ => 0

/-- This is the number that a numeral stands for. -/
def numeralValue (numeral : PyStr) : Option Rat := do
  let (sign, unsigned) := match numeral with
    | first :: rest => if first = 0x2d then ((-1 : Rat), rest) else (1, numeral)
    | [] => (1, [])
  let (digits, rest) ← readInteger unsigned
  let (fraction, rest) := readFraction rest
  let (exponent, rest) := readExponent rest
  let places := fraction.length - 1
  let mantissa : Rat := digitsValue digits + digitsValue (fraction.drop 1) / 10 ^ places
  let shift := exponentValue exponent
  if rest = [] then
    return sign * (if 0 ≤ shift then mantissa * 10 ^ shift.toNat else mantissa / 10 ^ (-shift).toNat)
  else none

def number : Json → Option Rat
  | .int value => some value
  | .float numeral => numeralValue numeral
  | _ => none

def sameNumber (first second : Json) : Bool :=
  match first.number, second.number with
  | some left, some right => left = right
  | _, _ => false

mutual

/-- Two values are equal when their numbers, texts and items are, and their fields in any order. -/
def sameValue : Json → Json → Bool
  | .null, .null => true
  | .bool first, .bool second => first = second
  | .str first, .str second => quoted first = quoted second
  | .arr first, .arr second => sameValues first second
  | .obj first, .obj second => first.length = second.length && sameMembers first second
  | first, second => sameNumber first second

def sameValues : List Json → List Json → Bool
  | [], [] => true
  | first :: items, second :: others => sameValue first second && sameValues items others
  | _, _ => false

def sameMembers : List (PyStr × Json) → List (PyStr × Json) → Bool
  | [], _ => true
  | (name, value) :: fields, others =>
      (match others.find? fun other => quoted other.1 = quoted name with
        | some other => sameValue value other.2
        | none => false) && sameMembers fields others

end

theorem sameValue_null_left (value : Json) (same : sameValue .null value = true) : value = .null := by
  cases value <;> first | rfl | simp [sameValue, sameNumber, number] at same

theorem sameValue_null_right (value : Json) (same : sameValue value .null = true) :
    value = .null := by
  cases value <;> first | rfl | simp [sameValue, sameNumber, number] at same

end Json

/-- A column holds the stored value of a payload. -/
def ColumnOf (payload : Bytes) (column : Option Json) : Prop :=
  ∃ value stored, Json.loads libraries.floatRepr payload = some value ∧
    storedJson libraries value = some stored ∧ column = some stored

/-- An answer is a JSON text that is equal in value to a payload. -/
def ValueText (payload : Bytes) (answer : Option (Option Bytes)) : Prop :=
  ∃ value stored, Json.loads libraries.floatRepr payload = some value ∧
    Json.sameValue value stored = true ∧
    answer = some (some (encode (Json.dumps Json.defaultSeparators stored)))

/-- `JSONB` keeps the value of a payload. -/
def Faithful (payload : Bytes) : Prop :=
  ∀ value stored, Json.loads libraries.floatRepr payload = some value →
    storedJson libraries value = some stored → Json.sameValue value stored = true

/-- The text of a column is equal in value to its payload unless the payload is `null`. -/
theorem columnText_iff {payload : Bytes} {column : Option Json} (faithful : Faithful libraries payload)
    (held : ColumnOf libraries payload column) :
    ValueText libraries payload (some (columnText column)) ↔
      Json.loads libraries.floatRepr payload ≠ some .null := by
  obtain ⟨value, stored, parsed, kept, rfl⟩ := held
  have same := faithful value stored parsed kept
  constructor
  · rintro ⟨_, other, _, _, answer⟩ null
    obtain rfl : value = .null := Option.some.inj (parsed.symm.trans null)
    rw [Json.sameValue_null_left stored same] at answer
    cases answer
  · intro substantial
    refine ⟨value, stored, parsed, same, ?_⟩
    cases stored with
    | null =>
        rw [Json.sameValue_null_right value same] at parsed
        exact absurd parsed substantial
    | _ => rfl

theorem eval_orFail {A B : Type} {value : Option A} {next : A → Transaction B} {session : Session}
    {result : B × Session}
    (evaluated : (orFail value >>= next).eval (execute libraries) session = some result) :
    ∃ found, value = some found ∧ (next found).eval (execute libraries) session = some result := by
  cases value with
  | none => cases evaluated
  | some found => exact ⟨found, rfl, evaluated⟩

/-- An accepted upsert stores the value of its row and leaves the other tables. -/
theorem upsertReference_column {session final : Session} {identity : Identity}
    {row : ReferenceSnapshot} {reply : Unit}
    (moved : execute libraries (.upsertReference identity row) session = some (reply, final)) :
    ∃ stored, storedJson libraries row.payload = some stored ∧
      final.database.timeseries = session.database.timeseries ∧
      final.database.events = session.database.events ∧
      (final.database.reference identity).map (·.payload) = some stored := by
  simp only [execute] at moved
  split_ifs at moved
  obtain ⟨stored, kept, same⟩ := Option.map_eq_some_iff.mp moved
  cases same
  exact ⟨stored, kept, rfl, rfl, by simp⟩

/-- An accepted insert stores the value of its row when the identity has none. -/
theorem insertEvent_column {session final : Session} {identity : Identity} {row : EventSnapshot}
    {reply : Unit}
    (moved : execute libraries (.insertEvent identity row) session = some (reply, final)) :
    ∃ stored, storedJson libraries row.payload = some stored ∧
      final.database.timeseries = session.database.timeseries ∧
      final.database.reference = session.database.reference ∧
      (final.database.events identity).map (·.payload) =
        ((session.database.events identity).map (·.payload)).or (some stored) := by
  simp only [execute] at moved
  split_ifs at moved
  obtain ⟨stored, kept, same⟩ := Option.map_eq_some_iff.mp moved
  cases same
  refine ⟨stored, kept, rfl, rfl, ?_⟩
  cases present : session.database.events identity <;> simp [present]

/-- A successful reference call replaces the column of its identity. -/
theorem transact_reference {identity : Identity} {write : ArchiveWrite} {session next : Session}
    (idle : session.Idle)
    (moved : (write.call identity .reference).transact libraries settings session = (true, next)) :
    next.committed.timeseries = session.committed.timeseries ∧
      next.committed.events = session.committed.events ∧
      ColumnOf libraries write.payload ((next.committed.reference identity).map (·.payload)) := by
  obtain ⟨final, evaluated, rfl⟩ := snapshot_eval libraries settings moved
  obtain ⟨value, parsed, upserts⟩ := eval_orFail libraries evaluated
  obtain ⟨⟨_, middle⟩, wrote, committed⟩ := Option.bind_eq_some_iff.mp upserts
  obtain ⟨stored, kept, timeseries, events, column⟩ := upsertReference_column libraries wrote
  cases committed
  rw [← show session.database = session.committed from idle]
  exact ⟨timeseries, events, value, stored, parsed, kept, column⟩

/-- A successful event call fills the column of its identity once. -/
theorem transact_event {identity : Identity} {write : ArchiveWrite} {session next : Session}
    (idle : session.Idle)
    (moved : (write.call identity .event).transact libraries settings session = (true, next)) :
    next.committed.timeseries = session.committed.timeseries ∧
      next.committed.reference = session.committed.reference ∧
      ∃ value stored, Json.loads libraries.floatRepr write.payload = some value ∧
        storedJson libraries value = some stored ∧
        (next.committed.events identity).map (·.payload) =
          ((session.committed.events identity).map (·.payload)).or (some stored) := by
  obtain ⟨final, evaluated, rfl⟩ := snapshot_eval libraries settings moved
  obtain ⟨value, parsed, inserts⟩ := eval_orFail libraries evaluated
  obtain ⟨⟨_, middle⟩, wrote, committed⟩ := Option.bind_eq_some_iff.mp inserts
  obtain ⟨stored, kept, timeseries, reference, column⟩ := insertEvent_column libraries wrote
  cases committed
  rw [← show session.database = session.committed from idle]
  exact ⟨timeseries, reference, value, stored, parsed, kept, column⟩

/-- After reference calls the column holds the last payload. -/
theorem writeAll_reference {identity : Identity} (writes : List ArchiveWrite) {last : ArchiveWrite}
    {session final : Session} (reached : (archiveMachine libraries settings).Reachable session)
    (ends : writes.getLast? = some last)
    (completed : writeAll libraries settings identity .reference writes session = some final) :
    final.committed.timeseries = session.committed.timeseries ∧
      final.committed.events = session.committed.events ∧
      ColumnOf libraries last.payload ((final.committed.reference identity).map (·.payload)) := by
  induction writes generalizing session with
  | nil => cases ends
  | cons write rest ih =>
      unfold writeAll at completed
      split at completed
      · rename_i next moved
        have idle := (reachable_restorable libraries settings reached).1
        obtain ⟨timeseries, events, column⟩ := transact_reference libraries settings idle moved
        cases rest with
        | nil =>
            cases completed
            cases ends
            exact ⟨timeseries, events, column⟩
        | cons second rest =>
            obtain ⟨rows, others, held⟩ := ih (call_reachable libraries settings reached moved)
              (by simpa using ends) completed
            exact ⟨rows.trans timeseries, others.trans events, held⟩
      · cases completed

/-- A filled event column stays as it is. -/
theorem writeAll_event_filled {identity : Identity} (writes : List ArchiveWrite)
    {session final : Session} {stored : Json}
    (reached : (archiveMachine libraries settings).Reachable session)
    (filled : (session.committed.events identity).map (·.payload) = some stored)
    (completed : writeAll libraries settings identity .event writes session = some final) :
    final.committed.timeseries = session.committed.timeseries ∧
      final.committed.reference = session.committed.reference ∧
      (final.committed.events identity).map (·.payload) = some stored := by
  induction writes generalizing session with
  | nil =>
      cases completed
      exact ⟨rfl, rfl, filled⟩
  | cons write rest ih =>
      unfold writeAll at completed
      split at completed
      · rename_i next moved
        have idle := (reachable_restorable libraries settings reached).1
        obtain ⟨timeseries, reference, _, _, _, _, column⟩ :=
          transact_event libraries settings idle moved
        rw [filled, Option.some_or] at column
        obtain ⟨rows, others, held⟩ := ih (call_reachable libraries settings reached moved) column
          completed
        exact ⟨rows.trans timeseries, others.trans reference, held⟩
      · cases completed

/-- After event calls the column holds the first payload. -/
theorem writeAll_event {identity : Identity} {writes : List ArchiveWrite} {first : ArchiveWrite}
    {session final : Session} (reached : (archiveMachine libraries settings).Reachable session)
    (empty : session.committed.events identity = none) (starts : writes.head? = some first)
    (completed : writeAll libraries settings identity .event writes session = some final) :
    final.committed.timeseries = session.committed.timeseries ∧
      final.committed.reference = session.committed.reference ∧
      ColumnOf libraries first.payload ((final.committed.events identity).map (·.payload)) := by
  obtain ⟨rest, rfl⟩ := List.head?_eq_some_iff.mp starts
  unfold writeAll at completed
  split at completed
  · rename_i next moved
    have idle := (reachable_restorable libraries settings reached).1
    obtain ⟨timeseries, reference, value, stored, parsed, kept, column⟩ :=
      transact_event libraries settings idle moved
    rw [empty] at column
    obtain ⟨rows, others, held⟩ := writeAll_event_filled libraries settings rest
      (call_reachable libraries settings reached moved) column completed
    exact ⟨rows.trans timeseries, others.trans reference, value, stored, parsed, kept, held⟩
  · cases completed

/-- An archive holds nothing for an identity. -/
structure Unobserved (database : Database) (identity : Identity) : Prop where
  timeseries : ∀ row ∈ database.timeseries, row.identity ≠ identity
  reference : database.reference identity = none
  events : database.events identity = none

/-- Without snapshots the archive returns the reference row or the event row. -/
theorem getLatestPayload_columns {database : Database} (files : PyStr → Option Bytes)
    {identity : Identity} (absent : ∀ row ∈ database.timeseries, row.identity ≠ identity) :
    getLatestPayload libraries database files identity = some (referenceOrEvent database identity) := by
  have empty : database.timeseries.filter (·.identity = identity) = [] :=
    List.filter_eq_nil_iff.mpr fun row member => by simpa using absent row member
  unfold getLatestPayload
  rw [empty]
  rfl

/-- The archive returns the observation that its type asks for. -/
def ReturnsLatest (archiveType : ArchiveType) (first last : ArchiveWrite)
    (answer : Option (Option Bytes)) : Prop :=
  match archiveType with
  | .timeSeries => answer = some (some last.payload)
  | .reference => ValueText libraries last.payload answer
  | .event => ValueText libraries first.payload answer
  | .none => True

/-- The last observation is kept, or its payload is more than `null`. -/
def KeepsLatest (archiveType : ArchiveType) (writes : List ArchiveWrite) (first last : ArchiveWrite) :
    Prop :=
  match archiveType with
  | .timeSeries => RepeatsAfterLast writes last
  | .reference => Json.loads libraries.floatRepr last.payload ≠ some .null
  | .event => Json.loads libraries.floatRepr first.payload ≠ some .null
  | .none => True

/-- The archive returns the observation that its type asks for exactly when it keeps it. -/
theorem getLatestPayload_returns_iff (injective : Function.Injective libraries.sha256)
    (archiveType : ArchiveType) {identity : Identity} {start final : Session}
    {writes : List ArchiveWrite} {first last : ArchiveWrite}
    (reached : (archiveMachine libraries settings).Reachable start)
    (unobserved : Unobserved start.committed identity)
    (increasing : writes.Pairwise fun one two => one.now.ordinal < two.now.ordinal)
    (starts : writes.head? = some first) (ends : writes.getLast? = some last)
    (faithful : ∀ write ∈ writes, Faithful libraries write.payload)
    (completed : writeAll libraries settings identity archiveType writes start = some final) :
    ReturnsLatest libraries archiveType first last
        (getLatestPayload libraries final.committed final.files identity) ↔
      KeepsLatest libraries archiveType writes first last := by
  cases archiveType with
  | none => exact Iff.rfl
  | timeSeries =>
      exact timeSeries_latest_iff libraries settings injective reached unobserved.timeseries increasing
        ends completed
  | reference =>
      obtain ⟨timeseries, events, column⟩ := writeAll_reference libraries settings writes reached ends
        completed
      have absent : final.committed.events identity = none := events ▸ unobserved.events
      change ValueText libraries last.payload _ ↔ _
      rw [getLatestPayload_columns libraries final.files (timeseries ▸ unobserved.timeseries),
        referenceOrEvent, absent, Option.map_none, columnText, Option.or_none]
      exact columnText_iff libraries (faithful last (List.mem_of_getLast? ends)) column
  | event =>
      obtain ⟨timeseries, reference, column⟩ := writeAll_event libraries settings reached
        unobserved.events starts completed
      have absent : final.committed.reference identity = none := reference ▸ unobserved.reference
      change ValueText libraries first.payload _ ↔ _
      rw [getLatestPayload_columns libraries final.files (timeseries ▸ unobserved.timeseries),
        referenceOrEvent, absent, Option.map_none, columnText, Option.none_or]
      exact columnText_iff libraries (faithful first (List.mem_of_head? starts)) column

def alternatingLibraries : Libraries :=
  { incursionLibraries with
    jsonb := fun canonical =>
      if canonical = text "[]" then some (.arr [])
      else if canonical = text "[1]" then some (.arr [.int 1])
      else none }

/-- This call observes a payload at a second of the first hour of the year. -/
def writtenAt (minute second : Fin 60) (payload : Bytes) : ArchiveWrite where
  now := { newYear with minute := minute, second := second }
  payload := payload
  httpStatus := 200
  etag := none
  expiresAt := none

/-- A second payload stands between two writes of the first. -/
def alternatingWrites : List ArchiveWrite :=
  [writtenAt 0 0 (bytes "[]"), writtenAt 0 20 (bytes "[1]"), writtenAt 0 40 (bytes "[]")]

/-- A payload that returns within its minute is not returned. -/
theorem getLatestPayload_alternating :
    (alternatingWrites.Pairwise fun one two => one.now.ordinal < two.now.ordinal) ∧
      alternatingWrites.getLast?.map (·.payload) = some (bytes "[]") ∧
      ∃ final, writeAll alternatingLibraries {} incursions.identity .timeSeries alternatingWrites
          emptySession = some final ∧
        getLatestPayload alternatingLibraries final.committed final.files incursions.identity =
          some (some (bytes "[1]")) := by
  refine ⟨by simp [alternatingWrites, writtenAt, Datetime.ordinal, Datetime.minutes, newYear],
    by decide +kernel, ?_⟩
  have answered : (writeAll alternatingLibraries {} incursions.identity .timeSeries alternatingWrites
      emptySession).map (fun final => getLatestPayload alternatingLibraries final.committed final.files
        incursions.identity) = some (some (some (bytes "[1]"))) := by
    decide +kernel
  exact Option.map_eq_some_iff.mp answered

/-- The second payload comes again after five minutes and after ten minutes the first one. -/
def returningWrites : List ArchiveWrite :=
  [writtenAt 0 0 (bytes "[]"), writtenAt 0 20 (bytes "[1]"), writtenAt 5 0 (bytes "[1]"),
    writtenAt 10 0 (bytes "[]")]

theorem faithful_of_loads {payload : Bytes} {value : Json}
    (loads : Json.loads alternatingLibraries.floatRepr payload = some value)
    (column : storedJson alternatingLibraries value = some value)
    (same : Json.sameValue value value = true) : Faithful alternatingLibraries payload := by
  intro found stored parsed kept
  obtain rfl : found = value := Option.some.inj (parsed.symm.trans loads)
  obtain rfl : stored = found := Option.some.inj (kept.symm.trans column)
  exact same

/-- The last of four snapshots is new in its minute. -/
theorem getLatestPayload_returns_iff_returning :
    ∃ final, writeAll alternatingLibraries {} incursions.identity .timeSeries returningWrites
        emptySession = some final ∧
      (ReturnsLatest alternatingLibraries .timeSeries (writtenAt 0 0 (bytes "[]"))
          (writtenAt 10 0 (bytes "[]"))
          (getLatestPayload alternatingLibraries final.committed final.files incursions.identity) ↔
        KeepsLatest alternatingLibraries .timeSeries returningWrites (writtenAt 0 0 (bytes "[]"))
          (writtenAt 10 0 (bytes "[]"))) := by
  have succeeds : (writeAll alternatingLibraries {} incursions.identity .timeSeries returningWrites
      emptySession).isSome = true := by
    decide +kernel
  obtain ⟨final, completed⟩ := Option.isSome_iff_exists.mp succeeds
  have empty : Faithful alternatingLibraries (bytes "[]") :=
    @faithful_of_loads _ (.arr []) (by decide +kernel) (by decide +kernel) (by decide)
  have single : Faithful alternatingLibraries (bytes "[1]") :=
    @faithful_of_loads _ (.arr [.int 1]) (by decide +kernel) (by decide +kernel) (by decide)
  have faithful : ∀ write ∈ returningWrites, Faithful alternatingLibraries write.payload := by
    simp only [returningWrites, List.forall_mem_cons]
    exact ⟨empty, single, single, empty, nofun⟩
  have increasing : returningWrites.Pairwise fun one two => one.now.ordinal < two.now.ordinal := by
    simp [returningWrites, writtenAt, Datetime.ordinal, Datetime.minutes, newYear]
  have reached : (archiveMachine alternatingLibraries {}).Reachable emptySession := .start ⟨rfl, rfl⟩
  have unobserved : Unobserved emptySession.committed incursions.identity := ⟨nofun, rfl, rfl⟩
  exact ⟨final, completed, getLatestPayload_returns_iff alternatingLibraries {}
    (pinnedDigest_injective incursionDigests_pinnable) .timeSeries reached unobserved increasing rfl rfl
    faithful completed⟩

end EveApiCache
