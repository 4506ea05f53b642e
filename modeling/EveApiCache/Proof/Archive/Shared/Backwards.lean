import EveApiCache.Proof.Archive.Shared.Integrity

/-!
This file shows when the observation times of the upserted rows never run backwards.
-/

namespace EveApiCache
open Effects StepMachine

/-- No upserted row reverts to an older observation. -/
structure Newer (before after : Database) : Prop where
  reference : ∀ identity old, before.reference identity = some old → ∃ last,
    after.reference identity = some last ∧ old.lastUpdatedAt.ordinal ≤ last.lastUpdatedAt.ordinal
  versions : ∀ key old, before.versions key = some old → ∃ last, after.versions key = some last ∧
    old.lastSeenAt.ordinal ≤ last.lastSeenAt.ordinal
  names : ∀ key old, before.names key = some old → ∃ last, after.names key = some last ∧
    old.lastUpdatedAt.ordinal ≤ last.lastUpdatedAt.ordinal

theorem Newer.refl (database : Database) : Newer database database where
  reference _ old stored := ⟨old, stored, Nat.le_refl _⟩
  versions _ old stored := ⟨old, stored, Nat.le_refl _⟩
  names _ old stored := ⟨old, stored, Nat.le_refl _⟩

theorem Newer.trans {first second third : Database} (one : Newer first second)
    (two : Newer second third) : Newer first third where
  reference identity old stored := by
    obtain ⟨middle, found, early⟩ := one.reference identity old stored
    obtain ⟨last, reached, late⟩ := two.reference identity middle found
    exact ⟨last, reached, early.trans late⟩
  versions key old stored := by
    obtain ⟨middle, found, early⟩ := one.versions key old stored
    obtain ⟨last, reached, late⟩ := two.versions key middle found
    exact ⟨last, reached, early.trans late⟩
  names key old stored := by
    obtain ⟨middle, found, early⟩ := one.names key old stored
    obtain ⟨last, reached, late⟩ := two.names key middle found
    exact ⟨last, reached, early.trans late⟩

/-- Every version was first seen before it was last seen. -/
def Chronological (database : Database) : Prop := ∀ key version, database.versions key = some version →
  version.firstSeenAt.ordinal ≤ version.lastSeenAt.ordinal

variable (libraries : Libraries)

/-- An upsert goes forward when it meets no row of a later observation. -/
def Statement.Forward (database : Database) : Statement → Prop
  | .upsertVersions rows => ∀ row ∈ rows, ∀ old, database.versions row.key = some old →
      old.lastSeenAt.ordinal ≤ row.seenAt.ordinal
  | .upsertReference identity row => ∀ old, database.reference identity = some old →
      old.lastUpdatedAt.ordinal ≤ row.lastUpdatedAt.ordinal
  | .upsertNames rows => ∀ row ∈ rows, ∀ key : PyStr × Int, row.key libraries = (key.1, some key.2) →
      ∀ old, database.names key = some old → old.lastUpdatedAt.ordinal ≤ row.seenAt.ordinal
  | _ => True

/-- A row that a statement leaves is as new as before. -/
theorem Framed.newer {statement : Statement} {before after : Database}
    (framed : Framed libraries statement before after)
    (references : ∀ identity, .reference identity ∈ statement.locks libraries → ∀ old,
      before.reference identity = some old → ∃ last, after.reference identity = some last ∧
        old.lastUpdatedAt.ordinal ≤ last.lastUpdatedAt.ordinal)
    (versions : ∀ key, .version key ∈ statement.locks libraries → ∀ old,
      before.versions key = some old → ∃ last, after.versions key = some last ∧
        old.lastSeenAt.ordinal ≤ last.lastSeenAt.ordinal)
    (names : ∀ key, .name key ∈ statement.locks libraries → ∀ old,
      before.names key = some old → ∃ last, after.names key = some last ∧
        old.lastUpdatedAt.ordinal ≤ last.lastUpdatedAt.ordinal) : Newer before after where
  reference identity old stored := by
    by_cases locked : .reference identity ∈ statement.locks libraries
    · exact references identity locked old stored
    · exact ⟨old, (framed.reference identity locked).trans stored, Nat.le_refl _⟩
  versions key old stored := by
    by_cases locked : .version key ∈ statement.locks libraries
    · exact versions key locked old stored
    · exact ⟨old, (framed.versions key locked).trans stored, Nat.le_refl _⟩
  names key old stored := by
    by_cases locked : .name key ∈ statement.locks libraries
    · exact names key locked old stored
    · exact ⟨old, (framed.names key locked).trans stored, Nat.le_refl _⟩

/-- A statement that goes forward reverts no row. -/
theorem execute_newer (statement : Statement) (session : Session) (result : statement.Reply × Session)
    (forward : statement.Forward libraries session.database)
    (moved : execute libraries statement session = some result) :
    Newer session.database result.2.database := by
  refine (execute_framed libraries statement session result moved).newer libraries
    (fun identity locked old stored => ?_) (fun key locked old stored => ?_)
    fun key locked old stored => ?_
  · cases statement with
    | upsertReference other row =>
        simp only [execute] at moved
        split_ifs at moved
        obtain ⟨payload, _, rfl⟩ := Option.map_eq_some_iff.mp moved
        obtain rfl : identity = other := by simpa [Statement.locks] using locked
        refine ⟨_, Function.update_self _ _ _, ?_⟩
        rw [stored]
        exact forward old stored
    | _ => simp [Statement.locks] at locked
  · cases statement with
    | upsertVersions rows =>
        simp only [execute] at moved
        split_ifs at moved with distinct
        obtain ⟨after, accepted, rfl⟩ := Option.map_eq_some_iff.mp moved
        obtain ⟨last, found, _, _, rfl | ⟨row, member, rfl, time⟩⟩ :=
          (versionsUpserted libraries rows _ _ distinct accepted).kept key old stored
        · exact ⟨last, found, Nat.le_refl _⟩
        · exact ⟨last, found, time ▸ forward row member old stored⟩
    | _ => simp [Statement.locks] at locked
  · cases statement with
    | upsertNames rows =>
        simp only [execute] at moved
        split_ifs at moved with distinct
        obtain ⟨after, accepted, rfl⟩ := Option.map_eq_some_iff.mp moved
        obtain ⟨last, found, _, rfl | ⟨row, member, keyed, time⟩⟩ :=
          (namesUpserted libraries rows _ _ distinct accepted).kept key old stored
        · exact ⟨last, found, Nat.le_refl _⟩
        · exact ⟨last, found, time ▸ forward row member key keyed old stored⟩
    | _ => simp [Statement.locks] at locked

/-- A statement that goes forward keeps the times of the versions in order. -/
theorem execute_chronological (statement : Statement) (session : Session)
    (result : statement.Reply × Session) (forward : statement.Forward libraries session.database)
    (ordered : Chronological session.database)
    (moved : execute libraries statement session = some result) : Chronological result.2.database := by
  have framed := execute_framed libraries statement session result moved
  intro key version stored
  by_cases locked : .version key ∈ statement.locks libraries
  · cases statement with
    | upsertVersions rows =>
        simp only [execute] at moved
        split_ifs at moved with distinct
        obtain ⟨after, accepted, rfl⟩ := Option.map_eq_some_iff.mp moved
        have upserted := versionsUpserted libraries rows _ _ distinct accepted
        cases before : session.database.versions key with
        | none =>
            obtain ⟨row, _, _, first, last⟩ := upserted.brought key version before stored
            rw [first, last]
        | some old =>
            obtain ⟨last, found, _, first, times⟩ := upserted.kept key old before
            obtain rfl := Option.some.inj (stored.symm.trans found)
            rw [first]
            rcases times with rfl | ⟨row, member, rfl, time⟩
            · exact ordered key version before
            · rw [time]
              exact (ordered row.key old before).trans (forward row member old before)
    | _ => simp [Statement.locks] at locked
  · exact ordered key version ((framed.versions key locked).symm.trans stored)

variable {libraries} {settings : Settings}

/-- An upserted row is known by one of these keys. -/
def RowKey.Dated : RowKey → Prop
  | .reference _ => True
  | .version _ => True
  | .name _ => True
  | _ => False

/-- These tables hold the upserted rows. -/
def Database.upserts (database : Database) : (Identity → Option ReferenceSnapshot) ×
    (VersionKey → Option MarketOrderVersion) × (PyStr × Int → Option IdName) :=
  (database.reference, database.versions, database.names)

/-- A view is dated when it reverts no committed row and its versions are in order. -/
structure Dated (committed view : Database) : Prop where
  newer : Newer committed view
  chronological : Chronological view

theorem Chronological.congr {before after : Database} (ordered : Chronological before)
    (same : after.upserts = before.upserts) : Chronological after := by
  obtain ⟨_, rest⟩ := Prod.mk.inj same
  obtain ⟨versions, _⟩ := Prod.mk.inj rest
  intro key version stored
  exact ordered key version (versions ▸ stored)

theorem Newer.congr {before after first second : Database} (newer : Newer before after)
    (same : first.upserts = before.upserts) (also : second.upserts = after.upserts) :
    Newer first second := by
  obtain ⟨reference, rest⟩ := Prod.mk.inj same
  obtain ⟨versions, names⟩ := Prod.mk.inj rest
  obtain ⟨references, others⟩ := Prod.mk.inj also
  obtain ⟨later, last⟩ := Prod.mk.inj others
  refine ⟨?_, ?_, ?_⟩
  · rw [reference, references]
    exact newer.reference
  · rw [versions, later]
    exact newer.versions
  · rw [names, last]
    exact newer.names

/-- The shared archive is dated when every view is, and no two transactions hold one dated key. -/
structure SharedArchive.Dated (archive : SharedArchive) : Prop where
  committed : Chronological archive.committed
  connections : ∀ (index : Nat) (connection : Connection), archive.connections[index]? = some connection →
    EveApiCache.Dated archive.committed (connection.written.onto archive.committed)
  apart : ∀ (first second : Nat) (one two : Connection), first ≠ second → archive.connections[first]? = some one →
    archive.connections[second]? = some two → ∀ key : RowKey, key.Dated → one.written.holds key = true →
      two.written.holds key = false

/-- A view that is committed below another transaction leaves its view dated. -/
theorem dated_join {committed first second : Database} (one : Dated committed (first.onto committed))
    (two : Dated committed (second.onto committed))
    (apart : ∀ key : RowKey, key.Dated → second.holds key = true → first.holds key = false) :
    Dated (first.onto committed) (second.onto (first.onto committed)) := by
  have free {Row : Type} (key : RowKey) (dated : key.Dated) {own other : Option Row}
      (heldOwn : second.holds key = own.isSome) (heldOther : first.holds key = other.isSome) {row : Row}
      (stored : own = some row) : other = none := by
    have released := apart key dated (by rw [heldOwn, stored]; rfl)
    rw [heldOther] at released
    simpa using released
  refine ⟨⟨?_, ?_, ?_⟩, fun key version stored => ?_⟩
  · exact table_join (fun old last : ReferenceSnapshot =>
      old.lastUpdatedAt.ordinal ≤ last.lastUpdatedAt.ordinal) (fun _ => Nat.le_refl _)
      (fun identity row => free (.reference identity) trivial rfl rfl) two.newer.reference
  · exact table_join (fun old last : MarketOrderVersion =>
      old.lastSeenAt.ordinal ≤ last.lastSeenAt.ordinal) (fun _ => Nat.le_refl _)
      (fun key row => free (.version key) trivial rfl rfl) two.newer.versions
  · exact table_join (fun old last : IdName =>
      old.lastUpdatedAt.ordinal ≤ last.lastUpdatedAt.ordinal) (fun _ => Nat.le_refl _)
      (fun key row => free (.name key) trivial rfl rfl) two.newer.names
  · rcases Overlay.table_cases stored with own | ⟨_, below⟩
    · exact two.chronological key version (Overlay.table_of_written own)
    · exact one.chronological key version below

theorem dated_empty {committed : Database} (ordered : Chronological committed) :
    Dated committed (Database.onto .empty committed) := by
  rw [onto_empty]
  exact ⟨.refl committed, ordered⟩

variable (libraries) in
/-- Every statement of the run goes forward in the view of its transaction. -/
def GoesForward (archive : SharedArchive) : SharedAction → Prop
  | .proceed index => ∀ connection statement next, archive.connections[index]? = some connection →
      connection.program = .perform statement next →
        statement.Forward libraries (archive.session connection).database
  | _ => True

section Executed
variable {archive : SharedArchive} {index : Nat} {connection : Connection} {statement : Statement}
  {next : statement.Reply → Transaction Unit} {result : statement.Reply × Session}
  (dated : SharedArchive.Dated archive)
  (executed : SharedArchive.Executed libraries archive index connection statement next result)
include dated executed

/-- The view after the statement is dated. -/
theorem SharedArchive.Dated.view
    (forward : statement.Forward libraries (archive.session connection).database) :
    EveApiCache.Dated archive.committed result.2.database := by
  have own := dated.connections index connection executed.found
  exact ⟨own.newer.trans (execute_newer libraries statement _ result forward executed.moved),
    execute_chronological libraries statement _ result forward own.chronological executed.moved⟩

/-- No dated key of the transaction is held by another one. -/
theorem SharedArchive.Dated.separate {other : Nat} {others : Connection} (differs : other ≠ index)
    (present : archive.connections[other]? = some others) (key : RowKey) (kind : key.Dated)
    (own : (statement.written libraries archive.committed connection.written result.2.database).holds
      key = true) : others.written.holds key = false := by
  rcases written_holds (execute_framed libraries statement _ result executed.moved) own with
    held | locked | ⟨_, rfl⟩ | ⟨_, rfl⟩ | ⟨_, rfl⟩ | ⟨_, rfl⟩
  · exact dated.apart index other connection others differs.symm executed.found present key kind held
  · exact SharedArchive.free_of_blocked libraries executed.free differs present key locked
  all_goals exact kind.elim

/-- Whichever statement is executed, no two transactions hold one dated key. -/
theorem SharedArchive.Dated.apartAfter (first second : Nat) (one two : Connection) (differs : first ≠ second)
    (foundOne : (archive.advance libraries index connection statement result.2
      (next result.1)).connections[first]? = some one)
    (foundTwo : (archive.advance libraries index connection statement result.2
      (next result.1)).connections[second]? = some two) (key : RowKey) (kind : key.Dated)
    (held : one.written.holds key = true) : two.written.holds key = false := by
  rcases set_cases foundOne with ⟨rfl, rfl⟩ | ⟨notFirst, presentOne⟩
  · rcases set_cases foundTwo with ⟨rfl, rfl⟩ | ⟨notSecond, presentTwo⟩
    · exact absurd rfl differs
    · exact dated.separate executed notSecond presentTwo key kind held
  · rcases set_cases foundTwo with ⟨rfl, rfl⟩ | ⟨notSecond, presentTwo⟩
    · refine Bool.eq_false_of_not_eq_true fun taken => ?_
      rw [dated.separate executed notFirst presentOne key kind taken] at held
      cases held
    · exact dated.apart first second one two differs presentOne presentTwo key kind held

/-- A statement that goes forward keeps the shared archive dated. -/
theorem SharedArchive.Dated.advance
    (forward : statement.Forward libraries (archive.session connection).database) :
    SharedArchive.Dated (archive.advance libraries index connection statement result.2 (next result.1)) ∧
      Newer archive.committed
        (archive.advance libraries index connection statement result.2 (next result.1)).committed := by
  have view := dated.view executed forward
  rcases executed.advanced with ⟨plain, committed⟩ | ⟨rfl, committed, seen⟩
  · have same : (archive.advance libraries index connection statement result.2
        (next result.1)).committed.upserts = archive.committed.upserts := by
      rw [committed]
      rfl
    refine ⟨⟨dated.committed.congr same, fun other others found => ?_, dated.apartAfter executed⟩,
      (Newer.refl _).congr rfl same⟩
    rcases set_cases found with ⟨_, rfl⟩ | ⟨_, present⟩
    · obtain ⟨reference, versions, names⟩ := written_upserts rfl plain executed.moved
      have upserts : (Database.onto (statement.written libraries archive.committed connection.written
          result.2.database) (archive.advance libraries index connection statement result.2
            (next result.1)).committed).upserts = result.2.database.upserts := by
        rw [committed]
        exact Prod.ext reference (Prod.ext versions names)
      exact ⟨view.newer.congr same upserts, view.chronological.congr upserts⟩
    · have kept := dated.connections other others present
      have upserts : (others.written.onto (archive.advance libraries index connection statement result.2
          (next result.1)).committed).upserts = (others.written.onto archive.committed).upserts := by
        rw [committed]
        rfl
      exact ⟨kept.newer.congr same upserts, kept.chronological.congr upserts⟩
  · have own := dated.connections index connection executed.found
    rw [committed, seen]
    refine ⟨⟨?_, fun other others found => ?_, dated.apartAfter executed⟩, own.newer⟩
    · rw [committed, seen]
      exact own.chronological
    · rcases set_cases found with ⟨_, rfl⟩ | ⟨differs, present⟩
      · rw [committed, seen]
        exact dated_empty own.chronological
      · rw [committed, seen]
        exact dated_join own (dated.connections other others present) fun key kind held =>
          dated.apart other index others connection differs present executed.found key kind held

end Executed

/-- Every step of a forward run keeps the shared archive dated. -/
theorem SharedArchive.Dated.step {archive later : SharedArchive} {action : SharedAction}
    (dated : SharedArchive.Dated archive) (forward : GoesForward libraries archive action)
    (moved : SharedArchive.Moved libraries settings archive action later) :
    SharedArchive.Dated later ∧ Newer archive.committed later.committed := by
  rcases moved with ⟨time, _⟩ | ⟨submission⟩ | ⟨_, index, connection, _⟩ |
    ⟨index, connection, statement, next, result, found, program, free, executed⟩
  · exact ⟨⟨dated.committed, dated.connections, dated.apart⟩, .refl _⟩
  · refine ⟨⟨dated.committed, fun index connection found => ?_,
      fun first second one two differs foundOne foundTwo key kind held => ?_⟩, .refl _⟩
    · rcases append_cases found with present | ⟨_, rfl⟩
      · exact dated.connections index connection present
      · exact dated_empty dated.committed
    · rcases append_cases foundOne with presentOne | ⟨_, rfl⟩
      · rcases append_cases foundTwo with presentTwo | ⟨_, rfl⟩
        · exact dated.apart first second one two differs presentOne presentTwo key kind held
        · exact apart_empty _ key held
      · cases key <;> cases held
  · refine ⟨⟨dated.committed, fun other others found => ?_,
      fun first second one two differs foundOne foundTwo key kind held => ?_⟩, .refl _⟩
    · rcases set_cases found with ⟨_, rfl⟩ | ⟨_, present⟩
      · exact dated_empty dated.committed
      · exact dated.connections other others present
    · rcases set_cases foundOne with ⟨_, rfl⟩ | ⟨_, presentOne⟩
      · cases key <;> cases held
      · rcases set_cases foundTwo with ⟨_, rfl⟩ | ⟨_, presentTwo⟩
        · exact apart_empty _ key held
        · exact dated.apart first second one two differs presentOne presentTwo key kind held
  · exact dated.advance ⟨found, program, free, executed⟩ (forward connection statement next found program)

/-- Every state of a forward run is dated. -/
theorem shared_dated {archive : SharedArchive}
    (reached : (sharedMachine libraries settings).Guarded (GoesForward libraries) archive) :
    SharedArchive.Dated archive := by
  refine Machine.Guarded.invariant SharedArchive.Dated ?_ ?_ reached
  · rintro archive ⟨empty, unconnected, _⟩
    refine ⟨fun key version stored => ?_, fun index connection found => ?_,
      fun first second one two differs found => ?_⟩
    · rw [empty] at stored
      cases stored
    · rw [unconnected] at found
      cases found
    · rw [unconnected] at found
      cases found
  · intro archive action later dated forward moved
    exact (dated.step forward (SharedArchive.step_moved libraries settings moved)).1

/-- When every upsert meets only rows of observations that are not later, the times of the committed rows
never run backwards. -/
theorem shared_newer (libraries : Libraries) (settings : Settings) {archive final : SharedArchive}
    (reached : (sharedMachine libraries settings).Guarded (GoesForward libraries) archive)
    (later : ((sharedMachine libraries settings).after archive).Guarded (GoesForward libraries) final) :
    Chronological final.committed ∧ Newer archive.committed final.committed := by
  have grown := Machine.Guarded.invariant (fun state => SharedArchive.Dated state ∧
    Newer archive.committed state.committed) ?_ ?_ later
  · exact ⟨grown.1.committed, grown.2⟩
  · rintro _ rfl
    exact ⟨shared_dated reached, .refl _⟩
  · intro before action after holds forward moved
    have step := holds.1.step forward (SharedArchive.step_moved libraries settings moved)
    exact ⟨step.1, holds.2.trans step.2⟩

/-- These libraries store an empty list as JSON. -/
def emptyListLibraries : Libraries :=
  { racingLibraries with jsonb := fun canonical => if canonical = text "[]" then some (.arr []) else none }

/-- This observes the list of regions. -/
def regionList : Observation :=
  { incursions with
    identity := ⟨text "tranquility", text "/v1/universe/regions/", text "44136fa355b3678a"⟩
    archiveType := .reference }

/-- The next statement of a program passes when it upserts nothing, or a reference row going forward. -/
def passesForward (session : Session) : Transaction Unit → Bool
  | .perform (.upsertReference identity row) _ => (session.database.reference identity).all fun old =>
      old.lastUpdatedAt.ordinal ≤ row.lastUpdatedAt.ordinal
  | .perform (.upsertVersions _) _ => false
  | .perform (.upsertNames _) _ => false
  | _ => true

/-- This check admits only actions that go forward. -/
def referencesForward (archive : SharedArchive) : SharedAction → Bool
  | .proceed index => archive.connections[index]?.all fun connection =>
      passesForward (archive.session connection) connection.program
  | _ => true

theorem goesForward_of_check (archive : SharedArchive) (action : SharedAction)
    (checked : referencesForward archive action = true) : GoesForward libraries archive action := by
  cases action with
  | proceed index =>
      intro connection statement next found program
      rw [referencesForward, found, Option.all_some, program] at checked
      cases statement with
      | upsertReference identity row =>
          intro old stored
          rw [passesForward, stored, Option.all_some] at checked
          exact of_decide_eq_true checked
      | upsertVersions rows | upsertNames rows =>
          rw [passesForward] at checked
          cases checked
      | _ => trivial
  | _ => trivial

/-- The second writer starts before the first one commits and goes on afterwards. -/
def followingSchedule : List SharedAction :=
  [.submit (.snapshot regionList), .proceed 0, .tick { newYear with second := 20 },
    .submit (.snapshot regionList), .proceed 0]

/-- The row then moves on to the later observation. -/
theorem shared_newer_following : ∃ archive final : SharedArchive,
    (archive.committed.reference regionList.identity).map (·.lastUpdatedAt) = some newYear ∧
      (final.committed.reference regionList.identity).map (·.lastUpdatedAt) =
        some { newYear with second := 20 } ∧
      Newer archive.committed final.committed := by
  obtain ⟨archive, ran, before⟩ := (Option.any_eq_true ..).mp (show (((sharedMachine emptyListLibraries
    {}).runIf referencesForward sharedEmpty followingSchedule).any fun archive => decide
      ((archive.committed.reference regionList.identity).map (·.lastUpdatedAt) = some newYear)) = true by
        decide +kernel)
  obtain ⟨final, went, after⟩ := (Option.any_eq_true ..).mp (show (((sharedMachine emptyListLibraries
    {}).runIf referencesForward sharedEmpty (followingSchedule ++ [.proceed 1, .proceed 1])).any fun final =>
      decide ((final.committed.reference regionList.identity).map (·.lastUpdatedAt) =
        some { newYear with second := 20 })) = true by decide +kernel)
  rw [Machine.runIf_append, ran] at went
  replace before := of_decide_eq_true before
  replace after := of_decide_eq_true after
  exact ⟨archive, final, before, after, (shared_newer emptyListLibraries {}
    (Machine.Guarded.runIf (.start ⟨rfl, rfl, rfl⟩) followingSchedule
      (fun action _ state => goesForward_of_check state action) ran)
    (Machine.Guarded.runIf (.start rfl) [.proceed 1, .proceed 1]
      (fun action _ state => goesForward_of_check state action) went)).2⟩

/-- The second writer starts later and commits first. -/
def overtakingSchedule : List SharedAction :=
  [.submit (.snapshot regionList), .tick { newYear with second := 20 }, .submit (.snapshot regionList),
    .proceed 1, .proceed 1]

/-- The first writer then brings the row back to its older observation. -/
theorem shared_newer_overtaken : ∃ archive final : SharedArchive,
    (sharedMachine emptyListLibraries {}).Reachable archive ∧
    ((sharedMachine emptyListLibraries {}).after archive).Reachable final ∧
    ¬Newer archive.committed final.committed := by
  obtain ⟨archive, ran, before⟩ := (Option.any_eq_true ..).mp (show (((sharedMachine emptyListLibraries
    {}).run sharedEmpty overtakingSchedule).any fun archive => decide
      ((archive.committed.reference regionList.identity).map (·.lastUpdatedAt) =
        some { newYear with second := 20 })) = true by decide +kernel)
  obtain ⟨final, went, after⟩ := (Option.any_eq_true ..).mp (show (((sharedMachine emptyListLibraries
    {}).run sharedEmpty (overtakingSchedule ++ [.proceed 0, .proceed 0])).any fun final => decide
      ((final.committed.reference regionList.identity).map (·.lastUpdatedAt) = some newYear)) = true by
        decide +kernel)
  rw [Machine.run_append, ran, Option.bind_some] at went
  replace before := of_decide_eq_true before
  replace after := of_decide_eq_true after
  refine ⟨archive, final, Machine.Reachable.run (.start ⟨rfl, rfl, rfl⟩) overtakingSchedule ran,
    Machine.Reachable.run (.start rfl) [.proceed 0, .proceed 0]
      ((Machine.run_after _ archive archive _).trans went), fun newer => ?_⟩
  obtain ⟨old, stored, late⟩ := Option.map_eq_some_iff.mp before
  obtain ⟨last, found, ordered⟩ := newer.reference regionList.identity old stored
  rw [found] at after
  have early : last.lastUpdatedAt = newYear := Option.some.inj after
  rw [show old.lastUpdatedAt = _ from late, early] at ordered
  exact absurd ordered (by decide)

end EveApiCache
