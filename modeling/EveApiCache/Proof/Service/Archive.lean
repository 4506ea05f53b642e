import EveApiCache.Proof.Archive.Deltas
import EveApiCache.Proof.Service.Invariant

/-!
This file shows that the archive of the service runs as the archive alone does, whatever the cache
holds.
-/

namespace EveApiCache
open Effects StepMachine

variable (libraries : Libraries) (settings : Settings)

/-- These statements do not reach the name cache. -/
def Statement.Uncached : Statement → Prop
  | .setNames _ _ => False
  | _ => True

theorem execute_uncached (cache : Redis) (statement : Statement) (session : Session)
    (uncached : statement.Uncached) :
    execute libraries statement { session with cache := cache } =
      (execute libraries statement session).map fun result =>
        (result.1, { result.2 with cache := cache }) := by
  cases statement with
  | insertBlob | selectTimeseriesId | selectObjectFileId | writeParquet | commit => rfl
  | setNames => exact uncached.elim
  | insertTimeseries | insertObjectFile | labelParquet =>
      simp only [execute]
      split_ifs <;> rfl
  | insertEntries =>
      simp only [execute, Option.map_map]
      rfl
  | upsertVersions | upsertReference | insertEvent | upsertNames =>
      simp only [execute]
      split_ifs
      · simp only [Option.map_map]
        rfl
      · rfl

theorem writeSnapshot_uncached (now : Datetime) (observed : Observation) :
    (writeSnapshot libraries settings now observed).Only Statement.Uncached := by
  unfold writeSnapshot
  cases observed.archiveType with
  | none => trivial
  | timeSeries =>
      have region : (marketOrdersRegionId observed.identity.path).Only Statement.Uncached := by
        unfold marketOrdersRegionId
        split
        · trivial
        · exact orFail_only _ _
      have lookup (key : PyStr) (inserted : Option Nat) :
          (insertedSnapshot key inserted).Only Statement.Uncached := by
        cases inserted with
        | some id => trivial
        | none => exact call_only _ _ trivial
      have recorded : (recordSnapshot libraries now observed).Only Statement.Uncached := by
        refine (call_only _ _ trivial).bind fun _ => region.bind fun regionId => ?_
        exact (call_only _ _ trivial).bind fun inserted => (lookup _ inserted).bind fun _ => trivial
      refine Program.Only.bind (recorded.bind fun recorded => ?_) fun _ => call_only _ _ trivial
      refine Only.weaken (storeParquet_exports libraries settings now observed recorded.1 recorded.2)
        fun statement exported => ?_
      cases statement <;> first | exact exported.elim | trivial
  | reference =>
      exact (orFail_only _ _).bind fun value => (call_only _ _ trivial).bind fun _ =>
        call_only _ _ trivial
  | event =>
      exact (orFail_only _ _).bind fun value => (call_only _ _ trivial).bind fun _ =>
        call_only _ _ trivial

/-- A snapshot is archived alike whatever the cache holds. -/
theorem transact_uncached (fault : Option Nat) {program : Transaction Unit}
    (uncached : program.Only Statement.Uncached) (stores : Stores) (cache : Redis) :
    Stores.transact libraries { stores with redis := cache } fault program =
      ((stores.transact libraries fault program).1,
        { (stores.transact libraries fault program).2 with redis := cache }) := by
  have same := Program.run_changed (execute libraries)
    (fun session : Session => { session with cache := cache })
    (fun statement session allowed => execute_uncached libraries cache statement session allowed)
    fault uncached stores.session
  have transacted : EveApiCache.transact libraries fault program
      { stores.session with cache := cache } =
      ((EveApiCache.transact libraries fault program stores.session).1,
        { (EveApiCache.transact libraries fault program stores.session).2 with cache := cache }) := by
    unfold EveApiCache.transact
    rw [same]
    cases Program.run (execute libraries) fault program stores.session <;> rfl
  exact congrArg (fun result : Bool × Session => (some result.1, Stores.ofSession result.2)) transacted

/-- The cache that a transaction finds matters only to the cache that it leaves. -/
theorem run_cache {A : Type} (fault : Option Nat) (program : Transaction A) (session : Session)
    (cache : Redis) : ∃ other,
      program.run (execute libraries) fault { session with cache := cache } =
        (program.run (execute libraries) fault session).map fun final =>
          { final with cache := other } := by
  induction program generalizing session fault cache with
  | done value => exact ⟨cache, by cases fault <;> rfl⟩
  | fail => exact ⟨cache, by cases fault <;> rfl⟩
  | perform statement next ih =>
      have stepped : ∃ later, execute libraries statement { session with cache := cache } =
          (execute libraries statement session).map fun result =>
            (result.1, { result.2 with cache := later }) := by
        cases statement with
        | setNames datasource items => exact ⟨cache.setNames datasource items, rfl⟩
        | _ => exact ⟨cache, execute_uncached libraries cache _ session trivial⟩
      obtain ⟨later, same⟩ := stepped
      rcases fault with _ | _ | more
      · rw [Program.run, Program.run, same]
        cases execute libraries statement session with
        | none => exact ⟨cache, rfl⟩
        | some result => exact ih _ _ _ _
      · exact ⟨cache, rfl⟩
      · rw [Program.run, Program.run, same]
        cases execute libraries statement session with
        | none => exact ⟨cache, rfl⟩
        | some result => exact ih _ _ _ _

/-- A transaction commits alike whatever the cache holds. -/
theorem transact_anyCache {A : Type} (fault : Option Nat) (program : Transaction A) (session : Session)
    (cache : Redis) : ∃ other,
      transact libraries fault program { session with cache := cache } =
        ((transact libraries fault program session).1,
          { (transact libraries fault program session).2 with cache := other }) := by
  obtain ⟨other, same⟩ := run_cache libraries fault program session cache
  refine ⟨other, ?_⟩
  unfold transact
  rw [same]
  cases program.run (execute libraries) fault session <;> rfl

theorem call_anyCache (call : ArchiveCall) (session : Session) (cache : Redis) : ∃ other,
    (call.transact libraries settings { session with cache := cache }).2 =
      { (call.transact libraries settings session).2 with cache := other } := by
  have transacted (fault : Option Nat) (program : Transaction Unit) : ∃ other,
      (transact libraries fault program { session with cache := cache }).2 =
        { (transact libraries fault program session).2 with cache := other } := by
    obtain ⟨other, same⟩ := transact_anyCache libraries fault program session cache
    exact ⟨other, congrArg Prod.snd same⟩
  cases call <;> exact transacted _ _

/-- An idle session is what its stores hold. -/
theorem session_ofSession {session : Session} (idle : session.Idle) :
    (Stores.ofSession session).session = session := by
  cases session
  cases idle
  rfl

variable {libraries settings}

/-- An await leaves the archive alone or runs one transaction, which is a call of the archive when
the caller has hashed the payload. -/
theorem perform_archive {world : World} {circumstance : Circumstance} {await : Await}
    {result : Option await.Reply × World}
    (moved : world.perform libraries settings circumstance await = some result) :
    result.2.stores.session = { world.stores.session with cache := result.2.stores.redis } ∨
      ∃ (fault : Option Nat) (program : Transaction Unit), result.2.stores.session =
          (transact libraries fault program world.stores.session).2 ∧
        ((∀ observed, await = .access (.writeSnapshot observed) →
            observed.contentHash = libraries.sha256 observed.payload) →
          ∃ call : ArchiveCall, call.transact libraries settings world.stores.session =
            transact libraries fault program world.stores.session) := by
  have advanced {key : PyStr} {phase : Flight} {event : Coalesce.Event EsiResponse Unit}
      {start : World} {landed : Option Flight × World} (stores : start.stores = world.stores)
      (moved : start.advance key phase event = some landed) :
      landed.2.stores.session = { world.stores.session with cache := landed.2.stores.redis } := by
    obtain ⟨_, _, rfl⟩ := Option.map_eq_some_iff.mp moved
    change start.stores.session = { world.stores.session with cache := start.stores.redis }
    rw [stores]
    rfl
  have called (fault : Option Nat) (program : Transaction Unit) :
      (world.stores.transact libraries fault program).2.session =
        (transact libraries fault program world.stores.session).2 :=
    session_ofSession (transact_idle libraries fault program world.stores.session)
  cases await with
  | access call =>
      cases circumstance with
      | proceeds now fault =>
          cases moved
          cases call with
          | get | getNegative | getEtag | getStale | getTtl | getLatestPayload | set | setNegative =>
              exact .inl rfl
          | restoreStale key etag =>
              refine .inl ?_
              unfold World.record
              split <;> rfl
          | writeSnapshot observed =>
              refine .inr ⟨fault, _, called fault _, fun hashed => ⟨.snapshot now observed fault, ?_⟩⟩
              have same : observed.hashed libraries = observed := by
                unfold Observation.hashed
                rw [← hashed observed rfl]
              simp only [ArchiveCall.transact, same]
          | writeNames datasource payload =>
              exact .inr ⟨fault, _, called fault _, fun _ =>
                ⟨.names now datasource payload fault, rfl⟩⟩
      | answers upstream => cases moved
      | raises | cancelled =>
          cases moved
          exact .inl rfl
  | coalesce key phase =>
      cases circumstance with
      | proceeds | cancelled => exact .inl (advanced rfl moved)
      | answers | raises => cases moved
  | lead key future call etag =>
      cases circumstance with
      | proceeds => cases moved
      | answers upstream =>
          exact .inl (advanced (show (world.log ⟨call, etag, upstream⟩).stores = _ from rfl) moved)
      | raises | cancelled => exact .inl (advanced rfl moved)
  | fetch call etag =>
      cases circumstance with
      | proceeds => cases moved
      | answers | raises | cancelled =>
          cases moved
          exact .inl rfl

/-- The archive of the service is one that archive calls reach. -/
theorem service_archive (plain : PlainDigest libraries) {state : Service}
    (reached : ((service libraries settings).machine World.Fresh).Guarded
      (Plausible libraries settings) state) :
    ∃ cache, (archiveMachine libraries settings).Reachable
      { state.shared.stores.session with cache := cache } := by
  induction reached with
  | @start state initial =>
      obtain ⟨⟨⟨now, redis⟩, database, _, _, _⟩, _⟩ := initial
      refine ⟨.empty now, .start ⟨database, rfl⟩⟩
  | @step state next action before allowed moved ih =>
      obtain ⟨cache, reachable⟩ := ih
      have guarded : ((service libraries settings).machine World.Fresh).Guarded
          (Allowed libraries settings False) state :=
        before.mono fun _ _ credible => ⟨credible, False.elim⟩
      have safe := ((service_keeps plain).guarded (fun _ => World.Holds.fresh) guarded).2
      cases action with
      | start thread task =>
          obtain ⟨_, rfl⟩ := System.step_start _ moved
          exact ⟨cache, reachable⟩
      | outside event =>
          cases moved
          cases event <;> exact ⟨cache, reachable⟩
      | proceed thread circumstance =>
          obtain ⟨await, rest, result, found, performed, rfl⟩ := System.step_proceed _ moved
          have owed := (safe thread _ found _ (List.Subset.refl _)).1
          rcases perform_archive performed with same | ⟨fault, program, same, called⟩
          · change ∃ cache, (archiveMachine libraries settings).Reachable
              { result.2.stores.session with cache := cache }
            rw [same]
            exact ⟨cache, reachable⟩
          · change ∃ cache, (archiveMachine libraries settings).Reachable
              { result.2.stores.session with cache := cache }
            obtain ⟨call, transacts⟩ := called fun observed same => by
              subst same
              exact owed.2.1
            rw [same, ← transacts]
            obtain ⟨other, run⟩ := call_anyCache libraries settings call state.shared.stores.session cache
            exact ⟨other, run ▸ .step reachable trivial rfl⟩

/-- A step of the service keeps what the archive preserves. -/
theorem step_kept {state next : Service} {action : ServiceAction}
    (moved : (service libraries settings).step state action = some next) :
    Kept state.shared.stores.database next.shared.stores.database := by
  cases action with
  | start thread task =>
      obtain ⟨_, rfl⟩ := System.step_start _ moved
      exact .refl _
  | outside event =>
      cases moved
      cases event <;> exact .refl _
  | proceed thread circumstance =>
      obtain ⟨await, rest, result, found, performed, rfl⟩ := System.step_proceed _ moved
      rcases perform_archive performed with same | ⟨fault, program, same, _⟩
      · have database := congrArg Session.committed same
        exact (show result.2.stores.database = state.shared.stores.database from database) ▸ .refl _
      · have database := congrArg Session.committed same
        change Kept state.shared.stores.session.committed result.2.stores.session.committed
        rw [database]
        exact transact_kept libraries fault program _ rfl

end EveApiCache
