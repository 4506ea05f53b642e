import EveApiCache.Proof.Archive.Shared.Integrity

/-!
This file shows that concurrent writers can do whatever a sequence of archive calls does.
-/

namespace EveApiCache
open Effects StepMachine

variable {libraries : Libraries} {settings : Settings}

/-- The committed tables of a session do not matter to a statement other than a commit. -/
theorem execute_recommitted (statement : Statement) (session : Session) (committed : Database) :
    execute libraries statement { session with committed := committed } =
      (execute libraries statement session).map fun result => (result.1, { result.2 with
        committed := if statement.commits then result.2.committed else committed }) := by
  cases statement with
  | insertTimeseries | insertObjectFile | labelParquet =>
      simp only [execute, Statement.commits, Bool.false_eq_true, if_false]
      split_ifs <;> rfl
  | upsertVersions | upsertReference | insertEvent | upsertNames =>
      simp only [execute, Statement.commits, Bool.false_eq_true, if_false]
      split_ifs
      · rw [Option.map_map]
        rfl
      · rfl
  | insertEntries =>
      simp only [execute, Statement.commits, Bool.false_eq_true, if_false]
      rw [Option.map_map]
      rfl
  | insertBlob | selectTimeseriesId | selectObjectFileId | writeParquet | setNames | commit => rfl

theorem session_ext {first second : Session} (database : first.database = second.database)
    (committed : first.committed = second.committed) (files : first.files = second.files)
    (cache : first.cache = second.cache) : first = second := by
  cases first
  cases second
  cases database
  cases committed
  cases files
  cases cache
  rfl

/-- A connection mirrors a session when it works alone on the same tables. -/
structure Mirrors (archive : SharedArchive) (index : Nat) (connection : Connection) (session : Session) :
    Prop where
  found : archive.connections[index]? = some connection
  view : archive.session connection = { session with committed := session.rollback.committed }
  alone : ∀ (other : Nat) (others : Connection), other ≠ index →
    archive.connections[other]? = some others → others.written = .empty

theorem holds_empty (key : RowKey) : Database.empty.holds key = false := by
  cases key <;> rfl

/-- A connection that works alone waits for nobody. -/
theorem Mirrors.free {archive : SharedArchive} {index : Nat} {connection : Connection} {session : Session}
    (mirrors : Mirrors archive index connection session) (statement : Statement) :
    archive.blocked libraries index statement = false := by
  refine Bool.eq_false_of_not_eq_true fun blocked => ?_
  obtain ⟨others, member, taken⟩ := List.any_eq_true.mp blocked
  obtain ⟨other, differs, present⟩ := List.mem_eraseIdx_iff_getElem?.mp member
  obtain ⟨key, _, held⟩ := List.any_eq_true.mp taken
  rw [mirrors.alone other others differs present, holds_empty] at held
  cases held

/-- The connection executes a statement as the session does. -/
theorem Mirrors.proceed {archive : SharedArchive} {index : Nat} {connection : Connection}
    {session : Session} (sound : SharedArchive.Sound libraries archive)
    (mirrors : Mirrors archive index connection session) {statement : Statement}
    {next : statement.Reply → Transaction Unit} {result : statement.Reply × Session}
    (program : connection.program = .perform statement next)
    (moved : execute libraries statement session = some result) :
    ∃ later changed, archive.step libraries settings (.proceed index) = some later ∧
      SharedArchive.Sound libraries later ∧ Mirrors later index changed result.2 ∧
        changed.program = next result.1 ∧ later.now = archive.now := by
  have executed : execute libraries statement (archive.session connection) = some (result.1,
      { result.2 with committed :=
          if statement.commits then result.2.committed else session.rollback.committed }) := by
    rw [mirrors.view, execute_recommitted, moved]
    rfl
  have fact : SharedArchive.Executed libraries archive index connection statement next _ :=
    ⟨mirrors.found, program, mirrors.free statement, executed⟩
  refine ⟨_, connection.advance libraries statement archive.committed result.2.database (next result.1), ?_,
    sound.advance fact, ⟨?_, ?_, fun other others differs present => ?_⟩, rfl, rfl⟩
  · simp only [SharedArchive.step, mirrors.found, Option.bind_some, SharedArchive.proceed, program,
      mirrors.free statement, executed]
    rfl
  · exact List.getElem?_set_self (List.getElem?_eq_some_iff.mp mirrors.found).1
  · have view := sound.view fact
    have committed : (archive.advance libraries index connection statement { result.2 with committed :=
        if statement.commits then result.2.committed else session.rollback.committed }
          (next result.1)).committed = result.2.rollback.committed := by
      cases plain : statement.commits with
      | false =>
          have kept := execute_plain statement session result plain moved
          simp [SharedArchive.advance, Session.rollback, kept]
      | true => simp [SharedArchive.advance, Session.rollback]
    exact session_ext view committed rfl rfl
  · refine mirrors.alone other others differs ?_
    change (archive.connections.set index _)[other]? = some others at present
    rwa [List.getElem?_set_ne differs.symm] at present

/-- This is the session in which a transaction ends. -/
theorem transact_perform {A : Type} {statement : Statement} {next : statement.Reply → Transaction A}
    {session : Session} {result : statement.Reply × Session}
    (moved : execute libraries statement session = some result) :
    transact libraries none (.perform statement next) session =
      transact libraries none (next result.1) result.2 ∧
    ∀ more, transact libraries (some (more + 1)) (.perform statement next) session =
      transact libraries (some more) (next result.1) result.2 := by
  refine ⟨?_, fun more => ?_⟩ <;>
    rw [transact, Program.run, moved] <;> rfl

/-- The archive stands where a sequential call has left its session. -/
structure Matches (archive : SharedArchive) (session : Session) : Prop where
  committed : archive.committed = session.committed
  files : archive.files = session.files
  cache : archive.cache = session.cache
  idle : ∀ connection ∈ archive.connections, connection.written = .empty

/-- A connection that ends alone leaves the archive as the rolled back session. -/
theorem Mirrors.ends {archive : SharedArchive} {index : Nat} {connection : Connection} {session : Session}
    (mirrors : Mirrors archive index connection session) :
    Matches (archive.abandon index connection) session.rollback := by
  have view := mirrors.view
  unfold SharedArchive.session at view
  obtain ⟨_, committed, files, cache⟩ := Session.mk.inj view
  refine ⟨committed, files, cache, fun others member => ?_⟩
  obtain ⟨other, found⟩ := List.mem_iff_getElem?.mp member
  rcases set_cases found with ⟨_, rfl⟩ | ⟨differs, present⟩
  · rfl
  · exact mirrors.alone other others differs present

/-- A fault ends the connection at any time. -/
theorem Mirrors.stops {archive : SharedArchive} {index : Nat} {connection : Connection} {session : Session}
    (mirrors : Mirrors archive index connection session) :
    ∃ schedule later, (sharedMachine libraries settings).run archive schedule = some later ∧
      later.now = archive.now ∧ Matches later session.rollback := by
  refine ⟨[.fault index], archive.abandon index connection, ?_, rfl, mirrors.ends⟩
  rw [Machine.run_cons]
  change (archive.connections[index]?.map _).bind _ = _
  rw [mirrors.found]
  rfl

/-- A connection that works alone does what the sequential transaction does, with the same fault. -/
theorem Mirrors.runs (fault : Option Nat) (program : Transaction Unit) {archive : SharedArchive}
    {index : Nat} {connection : Connection} {session : Session}
    (sound : SharedArchive.Sound libraries archive)
    (mirrors : Mirrors archive index connection session) (runs : connection.program = program) :
    ∃ schedule later, (sharedMachine libraries settings).run archive schedule = some later ∧
      later.now = archive.now ∧ Matches later (transact libraries fault program session).2 := by
  induction program generalizing archive connection session fault with
  | done value => cases fault <;> exact mirrors.stops
  | fail => cases fault <;> exact mirrors.stops
  | perform statement next ih =>
      cases moved : execute libraries statement session with
      | none =>
          have refused : (transact libraries fault (.perform statement next) session).2 =
              session.rollback := by
            rcases fault with _ | _ | more
            · rw [transact, Program.run, moved]
            · rfl
            · rw [transact, Program.run, moved]
          rw [refused]
          exact mirrors.stops
      | some result =>
          obtain ⟨middle, changed, stepped, still, reached, rest, clock⟩ :=
            @Mirrors.proceed libraries settings _ _ _ _ sound mirrors _ _ _ runs moved
          have goes (less : Option Nat) (ends : (transact libraries fault (.perform statement next)
              session).2 = (transact libraries less (next result.1) result.2).2) :
              ∃ schedule later, (sharedMachine libraries settings).run archive schedule = some later ∧
                later.now = archive.now ∧
                  Matches later (transact libraries fault (.perform statement next) session).2 := by
            obtain ⟨schedule, later, ran, same, matching⟩ :=
              ih result.1 less still reached rest
            refine ⟨.proceed index :: schedule, later, ?_, same.trans clock, ends ▸ matching⟩
            rw [Machine.run_cons]
            exact Option.bind_eq_some_iff.mpr ⟨middle, stepped, ran⟩
          rcases fault with _ | _ | more
          · exact goes none (congrArg Prod.snd (transact_perform moved).1)
          · exact mirrors.stops
          · exact goes (some more) (congrArg Prod.snd ((transact_perform moved).2 more))

def ArchiveCall.now : ArchiveCall → Datetime
  | .snapshot now _ _ => now
  | .names now _ _ _ => now

/-- A call submits this to the archive. -/
def ArchiveCall.submission (libraries : Libraries) : ArchiveCall → Submission
  | .snapshot _ observed _ => .snapshot (observed.hashed libraries)
  | .names _ datasource payload _ => .names datasource payload

def ArchiveCall.fault : ArchiveCall → Option Nat
  | .snapshot _ _ fault => fault
  | .names _ _ _ fault => fault

/-- A call runs the program of its submission. -/
theorem ArchiveCall.transact_program (call : ArchiveCall) (session : Session) :
    call.transact libraries settings session = EveApiCache.transact libraries call.fault
      ((call.submission libraries).program libraries settings call.now) session := by
  cases call <;> rfl

/-- A connection that has just been opened mirrors an idle session. -/
theorem Matches.mirrors {archive : SharedArchive} {session : Session} (standing : Matches archive session)
    (idle : session.Idle) (connection : Connection) (empty : connection.written = .empty) :
    Mirrors { archive with connections := archive.connections ++ [connection] }
      archive.connections.length connection session := by
  refine ⟨by simp, ?_, fun other others differs found => ?_⟩
  · have same : session.rollback.committed = session.database := by
      unfold Session.rollback
      rw [← show session.database = session.committed from idle]
    refine session_ext ?_ ?_ standing.files standing.cache
    · change connection.written.onto archive.committed = session.database
      rw [empty, onto_empty, standing.committed]
      exact idle.symm
    · exact (standing.committed.trans idle.symm).trans same.symm
  · rcases append_cases found with present | ⟨_, rfl⟩
    · exact standing.idle others (List.mem_of_getElem? present)
    · exact empty

/-- One call is a run of the shared archive. -/
theorem Matches.call {archive : SharedArchive} {session : Session} (standing : Matches archive session)
    (injective : Function.Injective libraries.sha256)
    (reached : (sharedMachine libraries settings).Reachable archive) (idle : session.Idle)
    (call : ArchiveCall) (ordered : archive.now.ordinal ≤ call.now.ordinal) :
    ∃ later, (sharedMachine libraries settings).Reachable later ∧ later.now = call.now ∧
      Matches later (call.transact libraries settings session).2 := by
  have ticked : (sharedMachine libraries settings).step archive (.tick call.now) =
      some { archive with now := call.now } := if_pos ordered
  have submitted : (sharedMachine libraries settings).step { archive with now := call.now }
      (.submit (call.submission libraries)) = some _ := rfl
  have opened := Machine.Guarded.step (.step reached trivial ticked) trivial submitted
  have mirrors := @Matches.mirrors { archive with now := call.now } session
    ⟨standing.committed, standing.files, standing.cache, standing.idle⟩ idle
    ⟨call.submission libraries, (call.submission libraries).program libraries settings call.now, .empty, []⟩
    rfl
  obtain ⟨schedule, later, ran, clock, matching⟩ := mirrors.runs call.fault _
    (shared_sound libraries settings injective opened) rfl
  refine ⟨later, Machine.Reachable.run opened schedule ran, clock, ?_⟩
  rw [ArchiveCall.transact_program]
  exact matching

/-- Calls in the order of their times are a run of the shared archive. -/
theorem Matches.calls {archive : SharedArchive} {session final : Session}
    (standing : Matches archive session) (injective : Function.Injective libraries.sha256)
    (reached : (sharedMachine libraries settings).Reachable archive) (idle : session.Idle)
    (calls : List ArchiveCall)
    (ordered : calls.Pairwise fun one two => one.now.ordinal ≤ two.now.ordinal)
    (late : ∀ call ∈ calls, archive.now.ordinal ≤ call.now.ordinal)
    (completed : (archiveMachine libraries settings).run session calls = some final) :
    ∃ later, (sharedMachine libraries settings).Reachable later ∧ Matches later final := by
  induction calls generalizing archive session with
  | nil =>
      cases completed
      exact ⟨archive, reached, standing⟩
  | cons call calls ih =>
      obtain ⟨middle, still, clock, matching⟩ := standing.call injective reached idle call
        (late call (by simp))
      obtain ⟨first, rest⟩ := List.pairwise_cons.mp ordered
      refine ih matching still (call_idle libraries settings call session) rest
        (fun other member => ?_) completed
      rw [clock]
      exact first other member

/-- Whatever the sequential archive does by calls in the order of their times, the shared archive can do. -/
theorem shared_simulates (libraries : Libraries) (settings : Settings)
    (injective : Function.Injective libraries.sha256) (calls : List ArchiveCall)
    (ordered : calls.Pairwise fun one two => one.now.ordinal ≤ two.now.ordinal) {start final : Session}
    (initial : (archiveMachine libraries settings).initial start)
    (completed : (archiveMachine libraries settings).run start calls = some final) :
    ∃ archive, (sharedMachine libraries settings).Reachable archive ∧
      archive.committed = final.committed ∧ archive.files = final.files ∧ archive.cache = final.cache := by
  have zero : Datetime.ordinal ⟨0, 0, 0, 0, 0, 0, 0⟩ = 0 := by decide
  have opened : (sharedMachine libraries settings).Reachable
      ⟨⟨0, 0, 0, 0, 0, 0, 0⟩, start.committed, start.files, start.cache, [], []⟩ :=
    .start ⟨initial.1, rfl, rfl⟩
  have standing : Matches ⟨⟨0, 0, 0, 0, 0, 0, 0⟩, start.committed, start.files, start.cache, [], []⟩ start :=
    ⟨rfl, rfl, rfl, fun connection absent => by cases absent⟩
  have late : ∀ call ∈ calls, Datetime.ordinal ⟨0, 0, 0, 0, 0, 0, 0⟩ ≤ call.now.ordinal := by
    intro call _
    rw [zero]
    exact Nat.zero_le _
  obtain ⟨archive, reached, matching⟩ := standing.calls injective opened initial.2 calls ordered late
    completed
  exact ⟨archive, reached, matching.committed, matching.files, matching.cache⟩

/-- The first call meets a fault, and the second one writes the snapshot. -/
def retriedCalls : List ArchiveCall :=
  [.snapshot newYear incursions (some 2), .snapshot { newYear with second := 20 } incursions none]

/-- Concurrent writers can leave what the two calls leave. -/
theorem shared_simulates_retried :
    ∃ (final : Session) (archive : SharedArchive), (sharedMachine racingLibraries {}).Reachable archive ∧
      final.committed.timeseries.length = 1 ∧ archive.committed = final.committed := by
  have single : (((archiveMachine racingLibraries {}).run emptySession retriedCalls).any
      fun final => decide (final.committed.timeseries.length = 1)) = true := by
    decide +kernel
  obtain ⟨final, ran, count⟩ := (Option.any_eq_true ..).mp single
  have ordered : retriedCalls.Pairwise fun one two => one.now.ordinal ≤ two.now.ordinal := by
    unfold retriedCalls
    rw [List.pairwise_pair]
    decide
  have initial : (archiveMachine racingLibraries {}).initial emptySession := ⟨rfl, rfl⟩
  obtain ⟨archive, reached, same, _⟩ := shared_simulates racingLibraries {}
    (pinnedDigest_injective racingDigests_pinnable) retriedCalls ordered initial ran
  exact ⟨final, archive, reached, of_decide_eq_true count, same⟩

end EveApiCache
