import EveApiCache.Proof.Service.Held

/-!
This file carries the contract of the tasks through every run of the service.
-/

namespace EveApiCache
open Effects StepMachine

variable (libraries : Libraries) (settings : Settings) (paired : Prop)

/-- This is the invariant of the shared state. -/
structure World.Holds (world : World) : Prop where
  unmarked : ∀ fetch ∈ world.fetched, (fetch.response libraries).status = 200 →
    Unmarked settings (fetch.response libraries).body
  redis : Traced libraries settings paired world.fetched world.stores.redis
  flights : ∀ key future response,
    world.table.futures key future = .resolved (.ok response) →
      Flown libraries settings world.fetched key response
  archive : Sourced libraries (Observed libraries settings world.fetched) world.stores.database
  blobs : Restorable libraries world.stores.database
  restored : ∀ copy ∈ world.restored,
    Backed libraries settings paired world.fetched copy.key copy.body copy.etag

/-- ESI sends no short marked body with status 200, and clients send decoded text. -/
def Plausible : Service → ServiceAction → Prop
  | _, .start _ (.proxy request) => request.Decoded
  | _, .proceed _ (.answers upstream) => ∀ method etag,
      (respond libraries method etag upstream).status = 200 →
        Unmarked settings (respond libraries method etag upstream).body
  | _, _ => True

/-- A `cache.set` is whole when Redis takes all its lifetimes, and a 304 restores a copy in time when
`esi:etag` still holds the ETag that the 304 kept. -/
def Timely (world : World) : Await → Prop
  | .access (.set _ _ ttl etag staleTtl) => world.stores.redis.setSucceeds ttl etag staleTtl = true
  | .access (.restoreStale key etag) =>
      etag.getD [] ≠ [] → world.stores.redis.etagAt key = etag
  | _ => True

/-- Every await that proceeds is timely. -/
def Punctual (service : Service) : ServiceAction → Prop
  | .proceed thread (.proceeds _ _) => ∀ await next,
      service.threads thread = some (.perform await next) → Timely service.shared await
  | _ => True

/-- In a paired run every step is also punctual. -/
def Allowed (service : Service) (action : ServiceAction) : Prop :=
  Plausible libraries settings service action ∧ (paired → Punctual service action)

variable {libraries settings paired}

theorem World.Holds.fresh {world : World} (fresh : world.Fresh) :
    world.Holds libraries settings paired := by
  obtain ⟨⟨now, redis⟩, database, table, fetched, restored⟩ := fresh
  exact
    { unmarked := by
        rw [fetched]
        exact nofun
      redis := redis ▸ .empty _ now
      flights := fun key future response resolved => by
        rw [table] at resolved
        cases resolved
      archive := database ▸ .empty
      blobs := by
        rw [database]
        exact ⟨nofun, nofun⟩
      restored := by
        rw [restored]
        exact nofun }

/-- A step of the coalescer resolves only the future that its leader settles. -/
theorem advance_futures {table after : Coalesce.Table PyStr EsiResponse Unit} {key other : PyStr}
    {phase next : Flight} {event : Coalesce.Event EsiResponse Unit} {target : Nat}
    {response : EsiResponse} (moved : Coalesce.advance table key phase event = some (after, next))
    (resolved : after.futures other target = .resolved (.ok response)) :
    table.futures other target = .resolved (.ok response) ∨
      (other = key ∧ event = .settle (.returned response)) := by
  cases Coalesce.advance_move moved with
  | attach | abandon | release | wake | leave => exact .inl resolved
  | register =>
      rw [Coalesce.Table.register_futures] at resolved
      split_ifs at resolved
      exact .inl resolved
  | settle future outcome =>
      cases outcome with
      | cancelled => exact .inl resolved
      | raised failure =>
          change (table.resolve key future (.error failure)).futures other target = _ at resolved
          rw [Coalesce.Table.resolve_futures] at resolved
          split_ifs at resolved
          · cases resolved
          · exact .inl resolved
      | returned value =>
          change (table.resolve key future (.ok value)).futures other target = _ at resolved
          rw [Coalesce.Table.resolve_futures] at resolved
          split_ifs at resolved with same
          · cases resolved
            exact .inr ⟨same.1, rfl⟩
          · exact .inl resolved

/-- A flight brings what it had brought before, or what its future holds. -/
theorem advance_arrival {table after : Coalesce.Table PyStr EsiResponse Unit} {key : PyStr}
    {phase next : Flight} {event : Coalesce.Event EsiResponse Unit} {response : EsiResponse}
    (unsettled : ∀ outcome, event ≠ .settle outcome)
    (moved : Coalesce.advance table key phase event = some (after, next))
    (arrived : arrival next = some response) :
    arrival phase = some response ∨
      ∃ future, table.futures key future = .resolved (.ok response) := by
  cases Coalesce.advance_move moved with
  | attach | register | abandon | leave => cases arrived
  | settle future outcome => exact absurd rfl (unsettled outcome)
  | release future outcome =>
      cases outcome with
      | returned value => exact .inl arrived
      | raised | cancelled => cases arrived
  | @wake future outcome resolved =>
      cases outcome with
      | ok value =>
          cases arrived
          exact .inr ⟨future, resolved⟩
      | error failure => cases arrived

/-- Performing an await keeps the invariant, extends the history and gives what is provided. -/
def Performed (libraries : Libraries) (settings : Settings) (paired : Prop) (before : World)
    (await : Await) (result : Option await.Reply × World) : Prop :=
  result.2.Holds libraries settings paired ∧ before.fetched ⊆ result.2.fetched ∧
    ∀ reply, result.1 = some reply → Provided libraries settings paired result.2.fetched await reply

/-- A statement changes only the names of the cache. -/
theorem execute_cache (statement : Statement) (session : Session)
    (result : statement.Reply × Session)
    (moved : execute libraries statement session = some result) :
    result.2.cache = session.cache ∨
      ∃ datasource items, result.2.cache = session.cache.setNames datasource items := by
  cases statement with
  | insertBlob | selectTimeseriesId | selectObjectFileId | writeParquet | commit =>
      cases moved
      exact .inl rfl
  | setNames datasource items =>
      cases moved
      exact .inr ⟨datasource, items, rfl⟩
  | insertTimeseries | insertObjectFile =>
      simp only [execute] at moved
      split_ifs at moved <;> cases moved <;> exact .inl rfl
  | labelParquet =>
      simp only [execute] at moved
      split_ifs at moved
      cases moved
      exact .inl rfl
  | upsertVersions | upsertReference | insertEvent | upsertNames =>
      simp only [execute] at moved
      split_ifs at moved
      obtain ⟨value, _, rfl⟩ := Option.map_eq_some_iff.mp moved
      exact .inl rfl
  | insertEntries =>
      obtain ⟨value, _, rfl⟩ := Option.map_eq_some_iff.mp moved
      exact .inl rfl

/-- What names do not change holds after a transaction. -/
theorem transact_cache {A : Type} (holds : Redis → Prop)
    (named : ∀ redis datasource items, holds redis → holds (redis.setNames datasource items))
    (fault : Option Nat) (program : Transaction A) (session : Session) (start : holds session.cache) :
    holds (transact libraries fault program session).2.cache := by
  have ensured : program.Ensures (execute libraries) (fun _ final => holds final.cache)
      (fun final => holds final.cache) session := by
    induction program generalizing session with
    | done value => exact start
    | fail => exact start
    | perform statement next ih =>
        refine ⟨start, fun result moved => ih result.1 result.2 ?_⟩
        rcases execute_cache statement session result moved with same | ⟨datasource, items, same⟩
        · exact same ▸ start
        · exact same ▸ named _ datasource items start
  have ended := Program.run_of_ensures fault program session ensured
  unfold transact
  split at ended
  · rename_i final same
    rw [same]
    exact ended
  · rename_i final same
    rw [same]
    exact ended

/-- An archive call changes only the names of Redis. -/
theorem transact_names (fault : Option Nat) (program : Transaction Unit) (stores : Stores) :
    ∃ names, (stores.transact libraries fault program).2.redis = { stores.redis with name := names } := by
  apply transact_cache (fun redis => ∃ names, redis = { stores.redis with name := names })
  · intro redis datasource items same
    unfold Redis.setNames
    induction items generalizing redis with
    | nil => exact same
    | cons item items ih =>
        obtain ⟨names, rfl⟩ := same
        rw [List.foldl_cons]
        exact ih _ ⟨_, rfl⟩
  · exact ⟨_, rfl⟩

theorem setNames_traced {history : List Fetched} {redis : Redis}
    (traced : Traced libraries settings paired history redis) (datasource : PyStr)
    (items : List (PyStr × PyStr × PyStr)) :
    Traced libraries settings paired history (redis.setNames datasource items) := by
  unfold Redis.setNames
  induction items generalizing redis with
  | nil => exact traced
  | cons item items ih =>
      rw [List.foldl_cons]
      exact ih (traced.of_same rfl rfl rfl rfl rfl)

/-- An archive call with rows of observed payloads keeps the invariant. -/
theorem World.Holds.transact {world : World} (held : world.Holds libraries settings paired)
    (call : ArchiveCall) (fault : Option Nat) (program : Transaction Unit)
    (same : call.transact libraries settings world.stores.session =
      EveApiCache.transact libraries fault program world.stores.session)
    (only : program.Only (Statement.Observes libraries (Observed libraries settings world.fetched))) :
    ({ world with stores := (world.stores.transact libraries fault program).2 } : World).Holds
      libraries settings paired := by
  have blobs := call_restorable libraries settings call world.stores.session rfl held.blobs
  rw [same] at blobs
  exact
    { unmarked := held.unmarked
      redis := transact_cache (Traced libraries settings paired world.fetched)
        (fun _ datasource items traced => setNames_traced traced datasource items) fault program
        world.stores.session held.redis
      flights := held.flights
      archive := transact_sourced fault rfl only held.archive
      blobs := blobs
      restored := held.restored }

/-- A call of a store keeps the invariant. -/
theorem access_performed {world : World} (held : world.Holds libraries settings paired)
    (now : Datetime) (fault : Option Nat) (call : Access)
    (owed : Owed libraries settings paired world.fetched (.access call))
    (timely : paired → Timely world (.access call)) :
    Performed libraries settings paired world (.access call)
      ((world.stores.perform libraries settings now fault call).1,
        { world with stores := (world.stores.perform libraries settings now fault call).2 }.record
          call (world.stores.perform libraries settings now fault call).1) := by
  cases call with
  | get | getNegative | getEtag | getStale | getTtl | getLatestPayload =>
      exact ⟨held, List.Subset.refl _, fun _ _ => trivial⟩
  | restoreStale key etag =>
      have backed (body : Bytes)
          (read : world.stores.redis.getStale libraries key = some (some body)) :
          Backed libraries settings paired world.fetched key body etag := by
        have stored := getStale_backed held.redis held.unmarked read
        by_cases pairs : paired
        · by_cases absent : etag.getD [] = []
          · obtain ⟨fetch, member, ok, same, serves, _⟩ := stored
            exact ⟨fetch, member, ok, same, serves, fun _ present => absurd absent present⟩
          · exact timely pairs absent ▸ stored
        · exact stored.free pairs etag
      change Performed libraries settings paired world (.access (.restoreStale key etag))
        (world.stores.redis.getStale libraries key, World.record world (.restoreStale key etag)
          (world.stores.redis.getStale libraries key))
      cases read : world.stores.redis.getStale libraries key with
      | none => exact ⟨held, List.Subset.refl _, nofun⟩
      | some reply =>
          cases reply with
          | none =>
              refine ⟨held, List.Subset.refl _, fun reply same => ?_⟩
              cases same
              exact nofun
          | some body =>
              refine ⟨{ held with restored := fun copy member => ?_ }, List.Subset.refl _,
                fun reply same => ?_⟩
              · rcases List.mem_cons.mp member with rfl | member
                · exact backed body read
                · exact held.restored copy member
              · cases same
                rintro other same
                cases same
                exact backed body read
  | set key body ttl etag staleTtl =>
      exact ⟨{ held with redis := set_traced held.redis key body ttl etag staleTtl owed timely },
        List.Subset.refl _, fun _ _ => trivial⟩
  | setNegative key body status ttl =>
      exact ⟨{ held with redis := setNegative_traced held.redis key body status ttl owed },
        List.Subset.refl _, fun _ _ => trivial⟩
  | writeSnapshot observed =>
      obtain ⟨ok, hashed, known⟩ := owed
      have same : observed.hashed libraries = observed := by
        unfold Observation.hashed
        rw [← hashed]
      refine ⟨held.transact (.snapshot now observed fault) fault _ ?_
        (writeSnapshot_observes settings now observed ok known hashed), List.Subset.refl _,
        fun _ _ => trivial⟩
      simp only [ArchiveCall.transact, same]
  | writeNames datasource payload =>
      exact ⟨held.transact (.names now datasource payload fault) fault _ rfl
        (writeNames_observes now datasource payload), List.Subset.refl _, fun _ _ => trivial⟩

/-- A fetch enters the history. -/
theorem World.Holds.log {world : World} (held : world.Holds libraries settings paired)
    (fetch : Fetched) (unmarked : (fetch.response libraries).status = 200 →
      Unmarked settings (fetch.response libraries).body) :
    (world.log fetch).Holds libraries settings paired := by
  have grown : world.fetched ⊆ fetch :: world.fetched := List.subset_cons_self _ _
  exact
    { unmarked := fun other member ok => by
        rcases List.mem_cons.mp member with rfl | member
        · exact unmarked ok
        · exact held.unmarked other member ok
      redis := held.redis.mono grown
      flights := fun key future response resolved =>
        (held.flights key future response resolved).mono grown
      archive := held.archive.mono fun _ _ observed => observed.mono grown
      blobs := held.blobs
      restored := fun copy member => (held.restored copy member).mono grown }

/-- A step of the coalescer keeps the invariant when its leader settles with a response for the key. -/
theorem advance_performed {world : World} (held : world.Holds libraries settings paired)
    {key : PyStr} {phase : Flight} {event : Coalesce.Event EsiResponse Unit}
    {result : Option Flight × World}
    (settles : ∀ response, event = .settle (.returned response) →
      Flown libraries settings world.fetched key response)
    (moved : world.advance key phase event = some result) :
    result.2.Holds libraries settings paired ∧ result.2.fetched = world.fetched ∧
      ∃ next, result.1 = some next ∧
        Coalesce.advance world.table key phase event = some (result.2.table, next) := by
  obtain ⟨⟨table, next⟩, advanced, rfl⟩ := Option.map_eq_some_iff.mp moved
  refine ⟨{ held with flights := fun other target response resolved => ?_ }, rfl, next, rfl, advanced⟩
  rcases advance_futures advanced resolved with old | ⟨rfl, settled⟩
  · exact held.flights other target response old
  · exact settles response settled

/-- A caller that proceeds or is cancelled brings what the flights of its key brought. -/
theorem coalesce_performed {world : World} (held : world.Holds libraries settings paired)
    {key : PyStr} {phase : Flight} {event : Coalesce.Event EsiResponse Unit}
    {result : Option Flight × World} (unsettled : ∀ outcome, event ≠ .settle outcome)
    (owed : Arrived libraries settings world.fetched key phase)
    (moved : world.advance key phase event = some result) :
    Performed libraries settings paired world (.coalesce key phase) result := by
  obtain ⟨kept, same, next, replied, advanced⟩ := advance_performed held
    (fun response settled => absurd settled (unsettled _)) moved
  refine ⟨kept, same ▸ List.Subset.refl _, fun reply answered => ?_⟩
  obtain rfl := Option.some.inj (replied.symm.trans answered)
  refine ⟨fun response arrived => ?_, ⟨_, _, _, _, advanced⟩⟩
  rw [same]
  rcases advance_arrival unsettled advanced arrived with old | ⟨future, resolved⟩
  · exact owed response old
  · exact held.flights key future response resolved

/-- A leader comes back with the answer to its call, or with nothing. -/
theorem lead_performed {world : World} (held : world.Holds libraries settings paired) {key : PyStr}
    {future : Nat} {call : UpstreamCall} {etag : Option PyStr}
    {outcome : Coalesce.Outcome EsiResponse Unit} {result : Option Flight × World}
    (flies : Flies libraries settings key call)
    (answers : ∀ response, outcome = .returned response → ∃ fetch ∈ world.fetched,
      fetch.call = call ∧ fetch.etag = etag ∧ fetch.response libraries = response)
    (moved : world.advance key (.leading future) (.settle outcome) = some result) :
    Performed libraries settings paired world (.lead key future call etag) result := by
  obtain ⟨kept, same, next, replied, advanced⟩ := advance_performed held
    (fun response settled => by
      cases settled
      obtain ⟨fetch, member, rfl, _, answered⟩ := answers response rfl
      exact ⟨fetch, member, answered, flies⟩) moved
  refine ⟨kept, same ▸ List.Subset.refl _, fun reply answered => ?_⟩
  obtain rfl := Option.some.inj (replied.symm.trans answered)
  have released : Coalesce.Phase.releasing future outcome = next :=
    (Prod.mk.inj (Option.some.inj advanced)).2
  exact ⟨outcome, released.symm, fun response returned => same ▸ answers response returned⟩

/-- Every allowed await keeps the invariant. -/
theorem perform_performed {world : World} (held : world.Holds libraries settings paired)
    (circumstance : Circumstance) (await : Await) (result : Option await.Reply × World)
    (owed : Owed libraries settings paired world.fetched await)
    (credible : ∀ upstream, circumstance = .answers upstream → ∀ method etag,
      (respond libraries method etag upstream).status = 200 →
        Unmarked settings (respond libraries method etag upstream).body)
    (timely : paired → ∀ now fault, circumstance = .proceeds now fault → Timely world await)
    (moved : world.perform libraries settings circumstance await = some result) :
    Performed libraries settings paired world await result := by
  cases await with
  | access call =>
      cases circumstance with
      | proceeds now fault =>
          cases moved
          exact access_performed held now fault call owed fun pairs => timely pairs now fault rfl
      | answers upstream => cases moved
      | raises | cancelled =>
          cases moved
          exact ⟨held, List.Subset.refl _, nofun⟩
  | coalesce key phase =>
      cases circumstance with
      | proceeds | cancelled =>
          exact coalesce_performed held (fun _ settled => by cases settled) owed moved
      | answers | raises => cases moved
  | lead key future call etag =>
      cases circumstance with
      | proceeds => cases moved
      | answers upstream =>
          have logged := held.log ⟨call, etag, upstream⟩ (credible upstream rfl call.method etag)
          obtain ⟨kept, grown, provided⟩ := lead_performed logged owed (fun response returned => by
            cases returned
            exact ⟨_, List.mem_cons_self, rfl, rfl, rfl⟩) moved
          exact ⟨kept, List.Subset.trans (List.subset_cons_self _ _) grown, provided⟩
      | raises | cancelled =>
          exact lead_performed held owed (fun _ returned => by cases returned) moved
  | fetch call etag =>
      cases circumstance with
      | proceeds => cases moved
      | answers upstream =>
          cases moved
          refine ⟨held.log ⟨call, etag, upstream⟩ (credible upstream rfl call.method etag),
            List.subset_cons_self _ _, fun reply same => ?_⟩
          cases same
          exact ⟨_, List.mem_cons_self, rfl, rfl, rfl⟩
      | raises | cancelled =>
          cases moved
          exact ⟨held, List.Subset.refl _, fun _ replied => by cases replied⟩

/-- The service keeps the contract of its tasks. -/
theorem service_keeps (plain : PlainDigest libraries) :
    (service libraries settings).Keeps (serviceContract libraries settings paired) World.fetched
      (fun _ _ => True) (World.Holds libraries settings paired)
      (Allowed libraries settings paired) where
  launched pool thread task _ allowed := by
    refine launch_safe plain task (fun request same => ?_) _
    subst same
    exact allowed.1
  performed pool thread circumstance await next result held allowed found owed moved := by
    obtain ⟨kept, grown, provided⟩ := perform_performed held circumstance await result owed
      (fun upstream same => by
        subst same
        exact allowed.1)
      (fun pairs now fault same => by
        subst same
        exact allowed.2 pairs await next found) moved
    exact ⟨kept, grown, provided, fun _ => trivial⟩
  outside pool event held _ := by
    cases event with
    | pass milliseconds =>
        exact ⟨{ held with redis := held.redis.of_same rfl rfl rfl rfl rfl }, List.Subset.refl _⟩
    | revise call etag => exact ⟨{ held with }, List.Subset.refl _⟩

/-- The invariant holds in every state of an allowed run from empty stores. -/
theorem guarded_holds (plain : PlainDigest libraries) {state : Service}
    (reached : ((service libraries settings).machine World.Fresh).Guarded
      (Allowed libraries settings paired) state) :
    state.shared.Holds libraries settings paired :=
  ((service_keeps plain).guarded (fun _ => World.Holds.fresh) reached).1

end EveApiCache
