import EveApiCache.Proof.Archive.AppendOnly

/-!
This file shows that the archive keeps only what was observed with status 200.
-/

namespace EveApiCache
open Effects

variable (libraries : Libraries) (observes : Identity → Bytes → Prop)

/-- Some payload with this hash was observed for the identity. -/
def Hashed (identity : Identity) (contentHash : PyStr) : Prop :=
  ∃ payload, observes identity payload ∧ contentHash = libraries.sha256 payload

/-- Some payload with this hash and this stored value was observed for the identity. -/
def Parsed (identity : Identity) (contentHash : PyStr) (value : Json) : Prop :=
  ∃ payload, observes identity payload ∧ contentHash = libraries.sha256 payload ∧
    (Json.loads libraries.floatRepr payload).bind (storedJson libraries) = some value

/-- Every archived payload was observed for its own identity, and with status 200. -/
structure Sourced (database : Database) : Prop where
  timeseries : ∀ row ∈ database.timeseries, row.httpStatus = 200 ∧ row.payload = none ∧
    Hashed libraries observes row.identity row.contentHash
  objectFiles : ∀ row ∈ database.objectFiles, Hashed libraries observes row.identity row.contentHash
  reference : ∀ identity row, database.reference identity = some row → row.httpStatus = 200 ∧
    Parsed libraries observes identity row.contentHash row.payload
  events : ∀ identity row, database.events identity = some row → row.httpStatus = 200 ∧
    Parsed libraries observes identity row.contentHash row.payload

/-- These statements bring only rows of observed payloads. -/
def Statement.Observes : Statement → Prop
  | .insertTimeseries row => row.httpStatus = 200 ∧ row.payload = none ∧
      Hashed libraries observes row.identity row.contentHash
  | .insertObjectFile row => Hashed libraries observes row.identity row.contentHash
  | .upsertReference identity row => row.httpStatus = 200 ∧ ∃ payload, observes identity payload ∧
      row.contentHash = libraries.sha256 payload ∧
      Json.loads libraries.floatRepr payload = some row.payload
  | .insertEvent identity row => row.httpStatus = 200 ∧ ∃ payload, observes identity payload ∧
      row.contentHash = libraries.sha256 payload ∧
      Json.loads libraries.floatRepr payload = some row.payload
  | _ => True

variable {libraries observes}

/-- An empty archive has no rows. -/
theorem Sourced.empty : Sourced libraries observes .empty := ⟨nofun, nofun, nofun, nofun⟩

/-- More observations source the same rows. -/
theorem Sourced.mono {more : Identity → Bytes → Prop} {database : Database}
    (sourced : Sourced libraries observes database)
    (implies : ∀ identity payload, observes identity payload → more identity payload) :
    Sourced libraries more database where
  timeseries row member := by
    obtain ⟨status, empty, payload, observed, hash⟩ := sourced.timeseries row member
    exact ⟨status, empty, payload, implies _ _ observed, hash⟩
  objectFiles row member := by
    obtain ⟨payload, observed, hash⟩ := sourced.objectFiles row member
    exact ⟨payload, implies _ _ observed, hash⟩
  reference identity row stored := by
    obtain ⟨status, payload, observed, value⟩ := sourced.reference identity row stored
    exact ⟨status, payload, implies _ _ observed, value⟩
  events identity row stored := by
    obtain ⟨status, payload, observed, value⟩ := sourced.events identity row stored
    exact ⟨status, payload, implies _ _ observed, value⟩

theorem execute_sourced (statement : Statement) (session : Session)
    (result : statement.Reply × Session) (sourced : Sourced libraries observes session.database)
    (allowed : statement.Observes libraries observes)
    (moved : execute libraries statement session = some result) :
    Sourced libraries observes result.2.database := by
  cases statement with
  | insertBlob | selectTimeseriesId | selectObjectFileId | writeParquet | setNames | commit =>
      cases moved
      exact { sourced with }
  | insertTimeseries row =>
      simp only [execute] at moved
      split_ifs at moved
      · cases moved
        exact { sourced with }
      · cases moved
        refine { sourced with timeseries := fun other member => ?_ }
        rcases List.mem_append.mp member with old | new
        · exact sourced.timeseries other old
        · obtain rfl := List.mem_singleton.mp new
          exact allowed
  | insertObjectFile row =>
      simp only [execute] at moved
      split_ifs at moved
      · cases moved
        exact { sourced with }
      · cases moved
        refine { sourced with objectFiles := fun other member => ?_ }
        rcases List.mem_append.mp member with old | new
        · exact sourced.objectFiles other old
        · obtain rfl := List.mem_singleton.mp new
          exact allowed
  | upsertVersions rows =>
      simp only [execute] at moved
      split_ifs at moved
      obtain ⟨versions, _, rfl⟩ := Option.map_eq_some_iff.mp moved
      exact { sourced with }
  | insertEntries rows =>
      obtain ⟨entries, _, rfl⟩ := Option.map_eq_some_iff.mp moved
      exact { sourced with }
  | labelParquet snapshotId manifestId =>
      simp only [execute] at moved
      split_ifs at moved
      cases moved
      refine { sourced with timeseries := fun other member => ?_ }
      obtain ⟨old, present, rfl⟩ := List.mem_map.mp member
      split_ifs <;> exact sourced.timeseries old present
  | upsertReference identity row =>
      simp only [execute] at moved
      split_ifs at moved
      obtain ⟨value, stored, rfl⟩ := Option.map_eq_some_iff.mp moved
      refine { sourced with reference := fun other found present => ?_ }
      simp only [Function.update_apply] at present
      split_ifs at present with same
      · subst same
        obtain rfl := Option.some.inj present
        obtain ⟨status, payload, observed, hash, parsed⟩ := allowed
        exact ⟨status, payload, observed, hash, by rw [parsed]; exact stored⟩
      · exact sourced.reference other found present
  | insertEvent identity row =>
      simp only [execute] at moved
      split_ifs at moved
      obtain ⟨value, stored, rfl⟩ := Option.map_eq_some_iff.mp moved
      refine { sourced with events := fun other found present => ?_ }
      dsimp only at present
      cases known : session.database.events identity with
      | some old =>
          rw [known] at present
          exact sourced.events other found present
      | none =>
          simp only [known, Function.update_apply] at present
          split_ifs at present with same
          · subst same
            obtain rfl := Option.some.inj present
            obtain ⟨status, payload, observed, hash, parsed⟩ := allowed
            exact ⟨status, payload, observed, hash, by rw [parsed]; exact stored⟩
          · exact sourced.events other found present
  | upsertNames rows =>
      simp only [execute] at moved
      split_ifs at moved
      obtain ⟨names, _, rfl⟩ := Option.map_eq_some_iff.mp moved
      exact { sourced with }

variable (settings : Settings)

theorem orFail_loads {A : Type} {kind : Statement → Prop} {payload : Bytes}
    {next : Json → Transaction A}
    (each : ∀ value, Json.loads libraries.floatRepr payload = some value → (next value).Only kind) :
    (orFail (Json.loads libraries.floatRepr payload) >>= next).Only kind := by
  cases parsed : Json.loads libraries.floatRepr payload with
  | none => trivial
  | some value => exact each value parsed

/-- A snapshot of an observed payload brings only rows of observed payloads. -/
theorem writeSnapshot_observes (now : Datetime) (observed : Observation)
    (ok : observed.httpStatus = 200) (known : observes observed.identity observed.payload)
    (hashed : observed.contentHash = libraries.sha256 observed.payload) :
    (writeSnapshot libraries settings now observed).Only (Statement.Observes libraries observes) := by
  have sourced : Hashed libraries observes observed.identity observed.contentHash :=
    ⟨observed.payload, known, hashed⟩
  unfold writeSnapshot
  cases observed.archiveType with
  | none => trivial
  | timeSeries =>
      have region : (marketOrdersRegionId observed.identity.path).Only
          (Statement.Observes libraries observes) := by
        unfold marketOrdersRegionId
        split
        · trivial
        · exact orFail_only _ _
      have lookup (key : PyStr) (inserted : Option Nat) :
          (insertedSnapshot key inserted).Only (Statement.Observes libraries observes) := by
        cases inserted with
        | some id => trivial
        | none => exact call_only _ _ trivial
      have recorded : (recordSnapshot libraries now observed).Only
          (Statement.Observes libraries observes) := by
        refine (call_only _ _ trivial).bind fun _ => region.bind fun regionId => ?_
        exact (call_only _ _ ⟨ok, rfl, sourced⟩).bind fun inserted => (lookup _ inserted).bind
          fun _ => trivial
      refine Program.Only.bind (recorded.bind fun recorded => ?_) fun _ => call_only _ _ trivial
      refine Only.weaken (storeParquet_exports libraries settings now observed recorded.1 recorded.2)
        fun statement exported => ?_
      cases statement with
      | insertObjectFile row =>
          obtain ⟨identity, hash⟩ := exported
          change Hashed libraries observes row.identity row.contentHash
          rw [identity, hash]
          exact sourced
      | insertTimeseries | upsertReference | insertEvent => exact exported.elim
      | _ => trivial
  | reference =>
      refine orFail_loads fun value parsed => ?_
      exact (call_only _ _ ⟨ok, observed.payload, known, hashed, parsed⟩).bind fun _ =>
        call_only _ _ trivial
  | event =>
      refine orFail_loads fun value parsed => ?_
      exact (call_only _ _ ⟨ok, observed.payload, known, hashed, parsed⟩).bind fun _ =>
        call_only _ _ trivial

theorem writeNames_observes (now : Datetime) (datasource : PyStr) (payload : Bytes) :
    (writeNames libraries now datasource payload).Only (Statement.Observes libraries observes) :=
  Only.weaken (writeNames_naming libraries now datasource payload) fun statement naming => by
    cases statement <;> first | exact naming.elim | trivial

/-- A transaction that brings only rows of observed payloads keeps the archive sourced. -/
theorem transact_sourced {A : Type} (fault : Option Nat) {program : Transaction A}
    {session : Session} (idle : session.Idle)
    (only : program.Only (Statement.Observes libraries observes))
    (sourced : Sourced libraries observes session.committed) :
    Sourced libraries observes (transact libraries fault program session).2.committed := by
  have working := Program.ensures_of_only (execute libraries)
    (fun state : Session => Sourced libraries observes state.database)
    (fun statement state result allowed holds moved =>
      execute_sourced statement state result holds allowed moved) only (idle ▸ sourced)
  obtain ⟨final, same, kept⟩ := transact_holds libraries fault program session sourced working
  rw [same]
  exact { kept with }

end EveApiCache
