import EveApiCache.Proof.Service.Lifetimes
import EveApiCache.Proof.Service.Outage

/-!
This file shows when any number of requests under one key cause a single fetch.
-/

namespace EveApiCache
open Effects StepMachine

variable (libraries : Libraries) (settings : Settings)

/-- No store holds anything under a key, and no call is under way. -/
structure World.Bare (key : PyStr) (world : World) : Prop where
  body : world.stores.redis.body key = none
  negative : world.stores.redis.negBody key = none
  table : world.table = .empty
  fetched : world.fetched = []

/-- A response with status 200 that the cache gives back as it was stored. -/
structure Plentiful (response : EsiResponse) : Prop where
  ok : response.status = 200
  fresh : response.notModified = false
  unmarked : Unmarked settings response.body

/-- A thread stands before the `cache.set` of a key. -/
def AtSet (key : PyStr) (service : Service) (thread : Nat) : Prop :=
  ∃ body ttl etag staleTtl rest,
    service.threads thread = some (.perform (.access (.set key body ttl etag staleTtl)) rest)

/-- A request that finds no flight finds no earlier fetch either: none is stored or about to be. -/
def InTime (key : PyStr) (service : Service) : Prop :=
  service.shared.table.inflight key = none →
    service.shared.stores.redis.body.read service.shared.stores.redis.now key = none ∧
      ∀ thread, ¬AtSet key service thread

/-- Redis takes what a request stores, ESI answers with 200, and nothing fails. -/
def Undisturbed (redis : Redis) (await : Await) : Circumstance → Prop
  | .proceeds _ _ => ∀ call, await = .access call → Taken redis call
  | .answers upstream => ∀ response, await.received libraries upstream = some response →
      response.status = 200 ∧ Unmarked settings response.body
  | .raises => False
  | .cancelled => False

/-- Only requests for the key run, nothing disturbs them, and nothing that they read expires. In a
prompt run every request that finds no flight is in time. -/
def Calm (prompt : Bool) (key : PyStr) (service : Service) : ServiceAction → Prop
  | .start _ (.proxy request) =>
      ∃ prepared, prepare libraries settings request = .ok prepared ∧ prepared.cacheKey = key
  | .start _ (.collect _) => False
  | .proceed thread circumstance => ∀ await rest,
      service.threads thread = some (.perform await rest) →
        Undisturbed libraries settings service.shared.stores.redis await circumstance ∧
          (prompt → await = .coalesce key .joining → InTime key service)
  | .outside (.pass milliseconds) => ∀ body,
      service.shared.stores.redis.body.read service.shared.stores.redis.now key = some body →
        service.shared.stores.redis.body.read
          (service.shared.stores.redis.now + milliseconds) key = some body
  | .outside (.revise _ _) => True

section Points

/-- These are the points of `_dispatch` at which a request can stand while ESI answers with 200. -/
inductive Point where
  | looking
  | joining
  | leading (future : Nat)
  | releasing (future : Nat) (response : EsiResponse)
  | waiting (future : Nat)
  | storing (response : EsiResponse)
  | closing (result : Result)

/-- The rest of a program only archives, and it ends with one result. -/
def Closing (result : Result) : Pipeline Result → Prop
  | .done value => value = result
  | .fail => False
  | .perform (.access (.writeSnapshot _)) rest => ∀ reply, Closing result (rest reply)
  | .perform (.access (.writeNames _ _)) rest => ∀ reply, Closing result (rest reply)
  | .perform _ _ => False

/-- A request goes on after its coalesced fetch. -/
def resumed (prepared : Prepared) (stored : Option PyStr) (flight : Pipeline (EsiResponse × Bool)) :
    Pipeline Result :=
  (flight >>= fun result => fetched libraries settings prepared stored result.1 result.2) >>= finish

/-- A program stands at a point of a request with the key. -/
inductive Standing (key : PyStr) : Point → Pipeline Result → Prop where
  | lookup {prepared : Prepared} (own : prepared.cacheKey = key) :
      Standing key .looking (lookup libraries settings prepared >>= finish)
  | missed {prepared : Prepared} (own : prepared.cacheKey = key) :
      Standing key .looking (missed libraries settings prepared >>= finish)
  | conditional {prepared : Prepared} (own : prepared.cacheKey = key) :
      Standing key .looking (conditionalFetch libraries settings prepared >>= finish)
  | joining {prepared : Prepared} (own : prepared.cacheKey = key) (stored : Option PyStr) :
      Standing key .joining
        (resumed libraries settings prepared stored (coalesce key prepared.call stored))
  | leading {prepared : Prepared} (own : prepared.cacheKey = key) (stored : Option PyStr)
      (future : Nat) :
      Standing key (.leading future)
        (resumed libraries settings prepared stored (joined key prepared.call stored (.leading future)))
  | releasing {prepared : Prepared} (own : prepared.cacheKey = key) (stored : Option PyStr)
      (future : Nat) {response : EsiResponse} (plentiful : Plentiful settings response) :
      Standing key (.releasing future response) (resumed libraries settings prepared stored
        (.perform (.coalesce key (.releasing future (.returned response))) landed))
  | waiting {prepared : Prepared} (own : prepared.cacheKey = key) (stored : Option PyStr)
      (future : Nat) :
      Standing key (.waiting future)
        (resumed libraries settings prepared stored (joined key prepared.call stored (.waiting future)))
  | storing {prepared : Prepared} (own : prepared.cacheKey = key) (stored : Option PyStr)
      {response : EsiResponse} (plentiful : Plentiful settings response) :
      Standing key (.storing response)
        (resumed libraries settings prepared stored (.done (response, true)))
  | closing {result : Result} {program : Pipeline Result} (closes : Closing result program) :
      Standing key (.closing result) program

/-- A step of a request takes it from a point to the next one and changes the shared state. -/
inductive Transition (key : PyStr) (world : World) : Point → World → Point → Prop where
  | look : Transition key world .looking world .looking
  | ask : Transition key world .looking world .joining
  | hit {raw body : Bytes}
      (live : world.stores.redis.body.read world.stores.redis.now key = some raw)
      (decoded : decodeValue libraries raw = some body) :
      Transition key world .looking world
        (.closing (.proxied ⟨200, body, .hit, text "application/json", none⟩))
  | lead (vacant : world.table.inflight key = none) :
      Transition key world .joining { world with table := world.table.register key }
        (.leading world.table.created)
  | wait {future : Nat} (under : world.table.inflight key = some future) :
      Transition key world .joining world (.waiting future)
  | land {future : Nat} {fetch : Fetched}
      (plentiful : Plentiful settings (fetch.response libraries)) :
      Transition key world (.leading future)
        { world.log fetch with
          table := world.table.settle key future (.returned (fetch.response libraries)) }
        (.releasing future (fetch.response libraries))
  | release {future : Nat} {response : EsiResponse} :
      Transition key world (.releasing future response)
        { world with table := world.table.release key } (.storing response)
  | share {future : Nat} {response : EsiResponse}
      (resolved : world.table.futures key future = .resolved (.ok response)) :
      Transition key world (.waiting future) world (.closing (.proxied (freshResult response)))
  | store {response : EsiResponse} {redis : Redis} {deadline : Nat}
      (warm : redis.body key = some ⟨storedForm libraries settings response.body, deadline⟩)
      (live : redis.now ≤ deadline) (clean : redis.negBody key = none)
      (unmarked : Unmarked settings response.body) :
      Transition key world (.storing response)
        { world with stores := { world.stores with redis := redis } }
        (.closing (.proxied (freshResult response)))
  | archive {result : Result} {next : World} (table : next.table = world.table)
      (fetched : next.fetched = world.fetched)
      (clock : next.stores.redis.now = world.stores.redis.now)
      (body : next.stores.redis.body = world.stores.redis.body)
      (negative : next.stores.redis.negBody = world.stores.redis.negBody) :
      Transition key world (.closing result) next (.closing result)

end Points

variable {libraries settings} {key : PyStr} {world : World} {prepared : Prepared}

section Points
variable {response : EsiResponse} {stored : Option PyStr}

/-- A response with status 200 is no 304. -/
theorem plentiful_respond {method : Method} {etag : Option PyStr} {upstream : Upstream}
    (ok : (respond libraries method etag upstream).status = 200)
    (unmarked : Unmarked settings (respond libraries method etag upstream).body) :
    Plentiful settings (respond libraries method etag upstream) := by
  refine ⟨ok, ?_, unmarked⟩
  by_contra marked
  have stale := (respond_notModified libraries _ _ _ (Bool.of_not_eq_false marked)).2
  omega

/-- The archive writes of a response end with the answer. -/
theorem archiveResponse_closing (prepared : Prepared) (response : EsiResponse) (result : ProxyResult) :
    Closing (.proxied result)
      ((archiveResponse libraries prepared response >>= fun _ => .done result) >>= finish) := by
  have names (recorded : Bool) : Closing (.proxied result)
      ((recordNames prepared response recorded >>= fun _ => .done result) >>= finish) := by
    unfold recordNames
    cases recorded with
    | false => rfl
    | true =>
        dsimp only
        split_ifs
        · exact fun _ => rfl
        · rfl
  unfold archiveResponse recordResponse
  split_ifs
  · exact names true
  · exact names

/-- The leader stores the response and archives it. -/
theorem resumed_leader (plentiful : Plentiful settings response) :
    resumed libraries settings prepared stored (.done (response, true)) =
      .perform (.access (.set prepared.cacheKey response.body (lifetimeOr300 response.maxAge)
          response.etag (staleTtlForPayload settings response.body))) fun _ =>
        (archiveResponse libraries prepared response >>= fun _ => .done (freshResult response)) >>=
          finish := by
  unfold resumed
  rw [Program.done_bind]
  unfold fetched answered
  rw [plentiful.fresh, if_neg Bool.false_ne_true, if_pos plentiful.ok]
  unfold storeResponse
  rw [access_bind]
  rfl

/-- A waiter answers at once. -/
theorem resumed_waiter (plentiful : Plentiful settings response) :
    resumed libraries settings prepared stored (.done (response, false)) =
      .done (.proxied (freshResult response)) := by
  unfold resumed
  rw [Program.done_bind]
  unfold fetched answered
  rw [plentiful.fresh, if_neg Bool.false_ne_true, if_pos plentiful.ok]
  rfl

/-- The shared state holds nothing that a request at a point could not expect. -/
structure Quiet (libraries : Libraries) (settings : Settings) (key : PyStr) (world : World)
    (point : Point) : Prop where
  negative : world.stores.redis.negBody key = none
  decoded : ∀ raw, world.stores.redis.body.read world.stores.redis.now key = some raw →
    ∃ body, decodeValue libraries raw = some body
  woken : ∀ future, point = .waiting future → ∀ outcome,
    world.table.futures key future = .resolved outcome →
      ∃ response, outcome = .ok response ∧ Plentiful settings response

/-- An undisturbed call of a store is performed, and Redis takes what it stores. -/
theorem Undisturbed.access {call : Access} {circumstance : Circumstance}
    {result : Option call.Reply × World}
    (undisturbed : Undisturbed libraries settings world.stores.redis (.access call) circumstance)
    (performed : world.perform libraries settings circumstance (.access call) = some result) :
    ∃ now fault, Taken world.stores.redis call ∧
      result = ((world.stores.perform libraries settings now fault call).1,
        { world with stores := (world.stores.perform libraries settings now fault call).2 }.record
          call (world.stores.perform libraries settings now fault call).1) := by
  cases circumstance with
  | proceeds now fault => exact ⟨now, fault, undisturbed call rfl, (Option.some.inj performed).symm⟩
  | answers => cases performed
  | raises => exact undisturbed.elim
  | cancelled => exact undisturbed.elim

/-- An undisturbed step of the coalescer proceeds. -/
theorem Undisturbed.coalesce {phase : Flight} {circumstance : Circumstance}
    {result : Option Flight × World}
    (undisturbed : Undisturbed libraries settings world.stores.redis (.coalesce key phase) circumstance)
    (performed : world.perform libraries settings circumstance (.coalesce key phase) = some result) :
    ∃ table next, Coalesce.advance world.table key phase .proceed = some (table, next) ∧
      result = (some next, { world with table := table }) := by
  cases circumstance with
  | proceeds now fault =>
      obtain ⟨⟨table, next⟩, advanced, rfl⟩ := Option.map_eq_some_iff.mp performed
      exact ⟨table, next, advanced, rfl⟩
  | answers => cases performed
  | raises => exact undisturbed.elim
  | cancelled => exact undisturbed.elim

/-- A `cache.set` that Redis takes leaves a live body and no error. -/
theorem set_warm {redis : Redis} {ttl staleTtl : Int} {etag : Option PyStr}
    (taken : redis.setSucceeds ttl etag staleTtl = true) (key : PyStr) (body : Bytes) :
    ∃ deadline, (redis.set libraries settings key body ttl etag staleTtl).body key =
        some ⟨storedForm libraries settings body, deadline⟩ ∧ redis.now ≤ deadline ∧
      (redis.set libraries settings key body ttl etag staleTtl).negBody key = none := by
  have accepted : redis.accepts ttl = true :=
    List.all_eq_true.mp taken ttl (by simp [Redis.lifetimes])
  exact ⟨redis.deadline ttl, setEx_self _ _ _ accepted, Nat.le_add_right _ _,
    TimedStore.erase_self _ _⟩

/-- An undisturbed step of a request leads to the next point. -/
theorem Standing.step {point : Point} {program : Pipeline Result} {await : Await}
    {rest : await.Reply → Pipeline Result} {circumstance : Circumstance}
    {result : Option await.Reply × World} (standing : Standing libraries settings key point program)
    (form : program = .perform await rest) (quiet : Quiet libraries settings key world point)
    (undisturbed : Undisturbed libraries settings world.stores.redis await circumstance)
    (performed : world.perform libraries settings circumstance await = some result) :
    ∃ reply next, result.1 = some reply ∧ Standing libraries settings key next (rest reply) ∧
      Transition libraries settings key world point result.2 next := by
  cases standing with
  | lookup own =>
      cases form
      obtain ⟨now, fault, _, rfl⟩ := undisturbed.access performed
      change ∃ reply next, world.stores.redis.get libraries _ = some reply ∧ _
      rw [own]
      unfold Redis.get
      cases live : world.stores.redis.body.read world.stores.redis.now key with
      | none => exact ⟨none, .looking, rfl, .missed own, .look⟩
      | some raw =>
          obtain ⟨body, decoded⟩ := quiet.decoded raw live
          dsimp only
          rw [decoded]
          exact ⟨some (body, _), _, rfl, .closing rfl, .hit live decoded⟩
  | missed own =>
      cases form
      obtain ⟨now, fault, _, rfl⟩ := undisturbed.access performed
      have clean : world.stores.redis.getNegative key = none := by
        unfold Redis.getNegative TimedStore.read
        rw [quiet.negative]
        rfl
      refine ⟨none, .looking, ?_, .conditional own, .look⟩
      rw [← own] at clean
      exact congrArg some clean
  | conditional own =>
      cases form
      obtain ⟨now, fault, _, rfl⟩ := undisturbed.access performed
      subst own
      exact ⟨_, .joining, rfl, .joining rfl _, .ask⟩
  | joining own stored =>
      cases form
      obtain ⟨table, next, advanced, rfl⟩ := undisturbed.coalesce performed
      have entered : world.table.join key = (table, next) := Option.some.inj advanced
      unfold Coalesce.Table.join at entered
      cases under : world.table.inflight key with
      | none =>
          rw [under] at entered
          cases entered
          exact ⟨_, _, rfl, .leading own stored _, .lead under⟩
      | some future =>
          rw [under] at entered
          cases entered
          exact ⟨_, _, rfl, .waiting own stored future, .wait under⟩
  | leading own stored future =>
      cases form
      cases circumstance with
      | proceeds => cases performed
      | raises => exact undisturbed.elim
      | cancelled => exact undisturbed.elim
      | answers upstream =>
          obtain ⟨ok, unmarked⟩ := undisturbed _ rfl
          cases performed
          have plentiful := plentiful_respond ok unmarked
          exact ⟨_, _, rfl, .releasing own stored future plentiful, .land plentiful⟩
  | releasing own stored future plentiful =>
      cases form
      obtain ⟨table, next, advanced, rfl⟩ := undisturbed.coalesce performed
      cases advanced
      exact ⟨_, _, rfl, .storing own stored plentiful, .release⟩
  | waiting own stored future =>
      cases form
      obtain ⟨table, next, advanced, rfl⟩ := undisturbed.coalesce performed
      unfold Coalesce.advance at advanced
      dsimp only at advanced
      cases resolved : world.table.futures key future with
      | pending =>
          rw [resolved] at advanced
          cases advanced
      | resolved outcome =>
          obtain ⟨response, rfl, plentiful⟩ := quiet.woken future rfl _ resolved
          rw [resolved] at advanced
          cases advanced
          refine ⟨_, .closing (.proxied (freshResult response)), rfl, .closing ?_, .share resolved⟩
          exact congrArg (Closing _) (resumed_waiter plentiful) ▸ rfl
  | @storing prepared own stored response plentiful =>
      rw [resumed_leader plentiful] at form
      cases form
      obtain ⟨now, fault, taken, rfl⟩ := undisturbed.access performed
      subst own
      obtain ⟨deadline, warm, live, clean⟩ := set_warm taken prepared.cacheKey response.body
      exact ⟨(), _, if_pos taken, .closing (archiveResponse_closing prepared response _),
        .store warm live clean plentiful.unmarked⟩
  | @closing result _ closes =>
      subst form
      cases await with
      | coalesce | lead | fetch => exact closes.elim
      | access call =>
          cases call with
          | writeSnapshot | writeNames =>
              obtain ⟨now, fault, _, rfl⟩ := undisturbed.access performed
              obtain ⟨names, same⟩ := transact_names fault _ world.stores
              have clock := congrArg Redis.now same
              have body := congrArg Redis.body same
              have negative := congrArg Redis.negBody same
              exact ⟨_, _, rfl, .closing (closes _), .archive rfl rfl clock body negative⟩
          | _ => exact closes.elim

end Points

section Phases
variable (libraries settings)

/-- A request was answered with the body of the only fetch. -/
def Answered (history : List Fetched) (result : Result) : Prop :=
  ∃ fetch status contentType, history = [fetch] ∧
    result = .proxied ⟨200, (fetch.response libraries).body, status, contentType, none⟩

/-- The calls for a key go through these phases. The owner leads the flight, which has a future. -/
inductive Phase (key : PyStr) (world : World) : Option (Nat × Point) → Option Nat → Prop where
  | idle (unsent : world.fetched = []) (vacant : world.table.inflight key = none)
      (cold : world.stores.redis.body key = none) : Phase key world none none
  | leading {leader future : Nat} (unsent : world.fetched = [])
      (under : world.table.inflight key = some future)
      (pending : world.table.futures key future = .pending)
      (cold : world.stores.redis.body key = none) :
      Phase key world (some (leader, .leading future)) (some future)
  | releasing {leader future : Nat} {fetch : Fetched} (sent : world.fetched = [fetch])
      (under : world.table.inflight key = some future)
      (resolved : world.table.futures key future = .resolved (.ok (fetch.response libraries)))
      (cold : world.stores.redis.body key = none) :
      Phase key world (some (leader, .releasing future (fetch.response libraries))) (some future)
  | storing {leader future : Nat} {fetch : Fetched} (sent : world.fetched = [fetch])
      (vacant : world.table.inflight key = none)
      (resolved : world.table.futures key future = .resolved (.ok (fetch.response libraries)))
      (cold : world.stores.redis.body key = none) :
      Phase key world (some (leader, .storing (fetch.response libraries))) (some future)
  | stored {future deadline : Nat} {fetch : Fetched} (sent : world.fetched = [fetch])
      (vacant : world.table.inflight key = none)
      (resolved : world.table.futures key future = .resolved (.ok (fetch.response libraries)))
      (warm : world.stores.redis.body key =
        some ⟨storedForm libraries settings (fetch.response libraries).body, deadline⟩)
      (live : world.stores.redis.now ≤ deadline) : Phase key world none (some future)

/-- A request that does not lead the flight waits for it, is answered, or has not come to it. -/
def Bystands (history : List Fetched) (flight : Option Nat) : Point → Prop
  | .looking => True
  | .joining => True
  | .waiting future => flight = some future
  | .closing result => Answered libraries history result
  | _ => False

/-- A request leads the flight or is a bystander. -/
def Plays (world : World) (owner : Option (Nat × Point)) (flight : Option Nat) (thread : Nat)
    (point : Point) : Prop :=
  owner = some (thread, point) ∨
    (∀ other, owner ≠ some (thread, other)) ∧ Bystands libraries world.fetched flight point

/-- The requests of a pool are consistent with a phase. -/
structure Single (key : PyStr) (service : Service) (owner : Option (Nat × Point))
    (flight : Option Nat) : Prop where
  phase : Phase libraries settings key service.shared owner flight
  plentiful : ∀ fetch ∈ service.shared.fetched, Plentiful settings (fetch.response libraries)
  negative : service.shared.stores.redis.negBody key = none
  owned : ∀ leader point, owner = some (leader, point) →
    ∃ program, service.threads leader = some program ∧
      Standing libraries settings key point program
  plays : ∀ thread program, service.threads thread = some program →
    ∃ point, Standing libraries settings key point program ∧
      Plays libraries service.shared owner flight thread point

end Phases

section Steps
variable {owner : Option (Nat × Point)} {flight : Option Nat} {thread : Nat} {point target : Point}
  {next : World}

/-- Only the body of the fetch is read under the key. -/
theorem Phase.read (phase : Phase libraries settings key world owner flight) {raw : Bytes}
    (read : world.stores.redis.body.read world.stores.redis.now key = some raw) :
    ∃ fetch, world.fetched = [fetch] ∧
      raw = storedForm libraries settings (fetch.response libraries).body := by
  obtain ⟨deadline, held, _⟩ := TimedStore.read_eq_some.mp read
  cases phase with
  | idle _ _ cold | leading _ _ _ cold | releasing _ _ _ cold | storing _ _ _ cold =>
      rw [cold] at held
      cases held
  | stored sent _ _ warm _ =>
      rw [warm] at held
      cases held
      exact ⟨_, sent, rfl⟩

/-- Only the response of the fetch resolves the future of the flight. -/
theorem Phase.resolved {future : Nat}
    (phase : Phase libraries settings key world owner (some future)) {outcome : Except Unit EsiResponse}
    (done : world.table.futures key future = .resolved outcome) :
    ∃ fetch, world.fetched = [fetch] ∧ outcome = .ok (fetch.response libraries) := by
  cases phase with
  | leading _ _ pending _ =>
      rw [pending] at done
      cases done
  | releasing sent _ resolved _ | storing sent _ resolved _ | stored sent _ resolved _ _ =>
      rw [resolved] at done
      cases done
      exact ⟨_, sent, rfl⟩

/-- No request meets a surprise in any phase. -/
theorem Phase.quiet (phase : Phase libraries settings key world owner flight)
    (plentiful : ∀ fetch ∈ world.fetched, Plentiful settings (fetch.response libraries))
    (negative : world.stores.redis.negBody key = none)
    (plays : Plays libraries world owner flight thread point) :
    Quiet libraries settings key world point where
  negative := negative
  decoded raw read := by
    obtain ⟨fetch, sent, rfl⟩ := phase.read read
    exact ⟨_, decode_storedForm libraries settings _
      (plentiful fetch (sent ▸ List.mem_singleton_self fetch)).unmarked⟩
  woken future same outcome done := by
    subst same
    rcases plays with leads | ⟨_, waits⟩
    · cases phase <;> cases leads
    · cases (waits : flight = some future)
      obtain ⟨fetch, sent, rfl⟩ := phase.resolved done
      exact ⟨_, rfl, plentiful fetch (sent ▸ List.mem_singleton_self fetch)⟩

/-- A phase depends only on what the requests share under the key. -/
theorem Phase.congr (phase : Phase libraries settings key world owner flight)
    (table : next.table = world.table) (fetched : next.fetched = world.fetched)
    (clock : next.stores.redis.now = world.stores.redis.now)
    (body : next.stores.redis.body = world.stores.redis.body) :
    Phase libraries settings key next owner flight := by
  cases phase with
  | idle unsent vacant cold =>
      exact .idle (fetched.trans unsent) (by rw [table]; exact vacant) (by rw [body]; exact cold)
  | leading unsent under pending cold =>
      exact .leading (fetched.trans unsent) (by rw [table]; exact under) (by rw [table]; exact pending)
        (by rw [body]; exact cold)
  | releasing sent under resolved cold =>
      exact .releasing (fetched.trans sent) (by rw [table]; exact under) (by rw [table]; exact resolved)
        (by rw [body]; exact cold)
  | storing sent vacant resolved cold =>
      exact .storing (fetched.trans sent) (by rw [table]; exact vacant) (by rw [table]; exact resolved)
        (by rw [body]; exact cold)
  | stored sent vacant resolved warm live =>
      exact .stored (fetched.trans sent) (by rw [table]; exact vacant) (by rw [table]; exact resolved)
        (by rw [body]; exact warm) (by rw [clock]; exact live)

/-- A step of one request leads to a phase with which the others are still consistent. -/
def Onward (libraries : Libraries) (settings : Settings) (key : PyStr) (world : World)
    (owner : Option (Nat × Point)) (flight : Option Nat) (thread : Nat) (next : World)
    (target : Point) : Prop :=
  ∃ owner' flight', Phase libraries settings key next owner' flight' ∧
    Plays libraries next owner' flight' thread target ∧
    ∀ other, other ≠ thread →
      (∀ point, Plays libraries world owner flight other point →
        Plays libraries next owner' flight' other point) ∧
      ∀ point, owner' = some (other, point) → owner = some (other, point)

/-- A bystander that changes nothing stays a bystander. -/
theorem Phase.stay (phase : Phase libraries settings key next owner flight)
    (fetched : next.fetched = world.fetched) (others : ∀ point, owner ≠ some (thread, point))
    (bystands : Bystands libraries world.fetched flight target) :
    Onward libraries settings key world owner flight thread next target := by
  refine ⟨owner, flight, phase, .inr ⟨others, by rw [fetched]; exact bystands⟩, fun other _ => ?_⟩
  refine ⟨fun point plays => ?_, fun point owns => owns⟩
  unfold Plays at plays ⊢
  rw [fetched]
  exact plays

/-- A step of the only request that leads, or comes to lead, leaves the bystanders where they are. -/
theorem Phase.move {owner' : Option (Nat × Point)} {flight' : Option Nat}
    (phase : Phase libraries settings key next owner' flight')
    (plays : Plays libraries next owner' flight' thread target)
    (before : ∀ other point, owner = some (other, point) → other = thread)
    (after : ∀ other point, owner' = some (other, point) → other = thread)
    (kept : ∀ point, Bystands libraries world.fetched flight point →
      Bystands libraries next.fetched flight' point) :
    Onward libraries settings key world owner flight thread next target := by
  refine ⟨owner', flight', phase, plays, fun other differs => ⟨fun point plays => ?_, ?_⟩⟩
  · rcases plays with owns | ⟨_, stands⟩
    · exact absurd (before other point owns) differs
    · exact .inr ⟨fun point owns => differs (after other point owns), kept point stands⟩
  · exact fun point owns => absurd (after other point owns) differs

/-- The first component of a present pair is known. -/
theorem owner_self {point : Point} : ∀ other target, some (thread, point) = some (other, target) →
    other = thread := by
  rintro other target owns
  cases owns
  rfl

/-- Nobody owns a flight that is not led. -/
theorem owner_none {claim : Nat → Point → Prop} (other : Nat) (target : Point)
    (owns : none = some (other, target)) : claim other target := by
  cases owns

/-- Every step of a request leads to a phase, provided that nobody joins too late. -/
theorem Phase.step (phase : Phase libraries settings key world owner flight)
    (plentiful : ∀ fetch ∈ world.fetched, Plentiful settings (fetch.response libraries))
    (plays : Plays libraries world owner flight thread point)
    (transition : Transition libraries settings key world point next target)
    (early : point = .joining → world.table.inflight key = none →
      world.stores.redis.body.read world.stores.redis.now key = none ∧
        ∀ leader response, owner ≠ some (leader, .storing response)) :
    Onward libraries settings key world owner flight thread next target := by
  cases transition with
  | look =>
      rcases plays with rfl | ⟨others, _⟩
      · cases phase
      · exact phase.stay rfl others trivial
  | ask =>
      rcases plays with rfl | ⟨others, _⟩
      · cases phase
      · exact phase.stay rfl others trivial
  | hit live decoded =>
      rcases plays with rfl | ⟨others, _⟩
      · cases phase
      · obtain ⟨fetch, sent, rfl⟩ := phase.read live
        have unmarked := (plentiful fetch (sent ▸ List.mem_singleton_self fetch)).unmarked
        rw [decode_storedForm libraries settings _ unmarked] at decoded
        cases decoded
        exact phase.stay rfl others ⟨fetch, _, _, sent, rfl⟩
  | lead vacant =>
      cases phase with
      | idle unsent _ cold =>
          have phase : Phase libraries settings key
              { world with table := world.table.register key }
              (some (thread, .leading world.table.created)) (some world.table.created) :=
            .leading unsent (by simp) (by simp) cold
          refine phase.move (.inl rfl) owner_none owner_self fun point stands => ?_
          cases point with
          | waiting => cases stands
          | _ => exact stands
      | leading _ under _ _ | releasing _ under _ _ =>
          rw [vacant] at under
          cases under
      | storing => exact absurd rfl ((early rfl vacant).2 _ _)
      | stored _ _ _ warm live =>
          have cold := (early rfl vacant).1
          unfold TimedStore.read at cold
          rw [warm] at cold
          simp [live] at cold
  | wait under =>
      rcases plays with rfl | ⟨others, _⟩
      · cases phase
      · refine phase.stay rfl others ?_
        cases phase with
        | leading _ busy _ _ | releasing _ busy _ _ => exact busy.symm.trans under
        | idle _ vacant _ | storing _ vacant _ _ | stored _ vacant _ _ _ =>
            rw [vacant] at under
            cases under
  | @land future fetch landed =>
      rcases plays with rfl | ⟨_, stands⟩
      · cases phase with
        | leading unsent under pending cold =>
            let settled := world.table.settle key future (.returned (fetch.response libraries))
            have phase : Phase libraries settings key { world.log fetch with table := settled }
                (some (thread, .releasing future (fetch.response libraries))) (some future) :=
              .releasing (congrArg (List.cons fetch) unsent)
                ((Coalesce.Table.settle_inflight world.table key future _).symm ▸ under)
                (by simp [settled, Coalesce.Table.settle]) cold
            refine phase.move (.inl rfl) owner_self owner_self fun point stands => ?_
            cases point with
            | closing result =>
                obtain ⟨other, _, _, sent, _⟩ := stands
                rw [unsent] at sent
                cases sent
            | _ => exact stands
      · cases stands
  | @release future response =>
      rcases plays with rfl | ⟨_, stands⟩
      · cases phase with
        | releasing sent under resolved cold =>
            have phase : Phase libraries settings key { world with table := world.table.release key }
                (some (thread, .storing _)) (some future) :=
              .storing sent (by simp) resolved cold
            exact phase.move (.inl rfl) owner_self owner_self fun _ stands => stands
      · cases stands
  | share resolved =>
      rcases plays with rfl | ⟨others, waits⟩
      · cases phase
      · cases (waits : flight = some _)
        obtain ⟨fetch, sent, same⟩ := phase.resolved resolved
        cases same
        exact phase.stay rfl others ⟨fetch, _, _, sent, rfl⟩
  | @store response redis deadline warm live clean unmarked =>
      rcases plays with rfl | ⟨_, stands⟩
      · cases phase with
        | storing sent vacant resolved cold =>
            have phase : Phase libraries settings key
                { world with stores := { world.stores with redis := redis } } none (some _) :=
              .stored sent vacant resolved warm live
            have free (target : Point) : none ≠ some (thread, target) := by
              intro owns
              cases owns
            exact phase.move (.inr ⟨free, _, _, _, sent, rfl⟩) owner_self owner_none
              fun _ stands => stands
      · cases stands
  | archive table fetched clock body negative =>
      rcases plays with rfl | ⟨others, stands⟩
      · cases phase
      · exact (phase.congr table fetched clock body).stay fetched others stands

/-- A step of a request keeps what holds of the fetches and of the errors. -/
theorem Transition.kept (transition : Transition libraries settings key world point next target)
    (plentiful : ∀ fetch ∈ world.fetched, Plentiful settings (fetch.response libraries))
    (negative : world.stores.redis.negBody key = none) :
    (∀ fetch ∈ next.fetched, Plentiful settings (fetch.response libraries)) ∧
      next.stores.redis.negBody key = none := by
  cases transition with
  | look | ask | hit | wait | share | lead | release => exact ⟨plentiful, negative⟩
  | land landed => exact ⟨List.forall_mem_cons.mpr ⟨landed, plentiful⟩, negative⟩
  | store _ _ clean _ => exact ⟨plentiful, clean⟩
  | archive _ fetched _ _ same =>
      rw [fetched, same]
      exact ⟨plentiful, negative⟩

end Steps

section Runs
variable {owner : Option (Nat × Point)} {flight : Option Nat} {state after : Service}

/-- An owner that stores stands before its `cache.set`. -/
theorem Standing.atSet {response : EsiResponse} {program : Pipeline Result} {thread : Nat}
    (standing : Standing libraries settings key (.storing response) program)
    (found : state.threads thread = some program) : AtSet key state thread := by
  cases standing with
  | storing own stored plentiful =>
      rw [resumed_leader plentiful, own] at found
      exact ⟨_, _, _, _, _, found⟩

/-- Only an owner that stores stands before a `cache.set`. -/
theorem Standing.sets {point : Point} {program : Pipeline Result} {body : Bytes} {ttl staleTtl : Int}
    {etag : Option PyStr} {rest : Unit → Pipeline Result}
    (standing : Standing libraries settings key point program)
    (form : program = .perform (.access (.set key body ttl etag staleTtl)) rest) :
    ∃ response, point = .storing response := by
  cases standing with
  | storing => exact ⟨_, rfl⟩
  | lookup | missed | conditional | joining | leading | releasing | waiting => cases form
  | closing closes =>
      subst form
      exact closes.elim

/-- A request that joins stands before the first await of `coalesce`. -/
theorem Standing.joins {await : Await} {rest : await.Reply → Pipeline Result}
    {program : Pipeline Result} (standing : Standing libraries settings key .joining program)
    (form : program = .perform await rest) : await = .coalesce key .joining := by
  cases standing with
  | joining own stored =>
      cases form
      rfl

/-- A new request is a bystander. -/
theorem Single.start (single : Single libraries settings key state owner flight) {thread : Nat}
    {task : Task} (calm : Calm libraries settings true key state (.start thread task))
    (moved : (service libraries settings).step state (.start thread task) = some after) :
    Single libraries settings key after owner flight := by
  obtain ⟨vacant, rfl⟩ := System.step_start _ moved
  have unowned (other : Nat) (point : Point) (owns : owner = some (other, point)) : other ≠ thread := by
    rintro rfl
    obtain ⟨program, found, _⟩ := single.owned other point owns
    rw [vacant] at found
    cases found
  refine ⟨single.phase, single.plentiful, single.negative, fun leader point owns => ?_,
    fun other program found => ?_⟩
  · obtain ⟨program, found, standing⟩ := single.owned leader point owns
    exact ⟨program, (Function.update_of_ne (unowned leader point owns) _ _).trans found, standing⟩
  · by_cases same : other = thread
    · subst same
      obtain rfl : (service libraries settings).launch task = program := by simpa using found
      cases task with
      | collect job => exact calm.elim
      | proxy request =>
          obtain ⟨prepared, accepted, own⟩ := calm
          rw [launch_accepted accepted]
          exact ⟨.looking, .lookup own, .inr ⟨fun point owns => unowned other point owns rfl, trivial⟩⟩
    · exact single.plays other program ((Function.update_of_ne same _ _).symm.trans found)

/-- A step of a request keeps the requests consistent. -/
theorem Single.proceed (single : Single libraries settings key state owner flight) {thread : Nat}
    {circumstance : Circumstance}
    (calm : Calm libraries settings true key state (.proceed thread circumstance))
    (moved : (service libraries settings).step state (.proceed thread circumstance) = some after) :
    ∃ owner flight, Single libraries settings key after owner flight := by
  obtain ⟨await, rest, result, found, performed, rfl⟩ := System.step_proceed _ moved
  obtain ⟨point, standing, plays⟩ := single.plays thread _ found
  obtain ⟨undisturbed, timely⟩ := calm await rest found
  have quiet := single.phase.quiet single.plentiful single.negative plays
  obtain ⟨reply, target, replied, stands, transition⟩ :=
    standing.step rfl quiet undisturbed performed
  have early (joins : point = .joining) (vacant : state.shared.table.inflight key = none) :
      state.shared.stores.redis.body.read state.shared.stores.redis.now key = none ∧
        ∀ leader response, owner ≠ some (leader, .storing response) := by
    subst joins
    obtain ⟨cold, nobody⟩ := timely rfl (standing.joins rfl) vacant
    refine ⟨cold, fun leader response owns => ?_⟩
    obtain ⟨program, present, storing⟩ := single.owned leader _ owns
    exact nobody leader (storing.atSet present)
  obtain ⟨owner', flight', phase, now, others⟩ :=
    single.phase.step single.plentiful plays transition early
  obtain ⟨plentiful, negative⟩ := transition.kept single.plentiful single.negative
  have moves : (System.answer state thread rest result).threads thread = some (rest reply) := by
    rw [System.answer_threads, replied]
    rfl
  have stays (other : Nat) (differs : other ≠ thread) :
      (System.answer state thread rest result).threads other = state.threads other :=
    Function.update_of_ne differs _ _
  refine ⟨owner', flight', phase, plentiful, negative, fun leader point owns => ?_,
    fun other program running => ?_⟩
  · by_cases same : leader = thread
    · subst same
      rcases now with leads | ⟨free, _⟩
      · cases leads.symm.trans owns
        exact ⟨_, moves, stands⟩
      · exact absurd owns (free point)
    · obtain ⟨program, present, standing⟩ := single.owned leader point ((others leader same).2 point owns)
      exact ⟨program, (stays leader same).trans present, standing⟩
  · by_cases same : other = thread
    · subst same
      obtain rfl := Option.some.inj (moves.symm.trans running)
      exact ⟨target, stands, now⟩
    · obtain ⟨point, standing, plays⟩ := single.plays other program ((stays other same).symm.trans running)
      exact ⟨point, standing, (others other same).1 point plays⟩

/-- What happens outside keeps the requests consistent. -/
theorem Single.outside (single : Single libraries settings key state owner flight) {event : Outside}
    (calm : Calm libraries settings true key state (.outside event))
    (moved : (service libraries settings).step state (.outside event) = some after) :
    Single libraries settings key after owner flight := by
  cases moved
  cases event with
  | revise call etag =>
      exact ⟨single.phase.congr rfl rfl rfl rfl, single.plentiful, single.negative, single.owned,
        single.plays⟩
  | pass milliseconds =>
      refine ⟨?_, single.plentiful, single.negative, single.owned, single.plays⟩
      cases single.phase with
      | idle unsent vacant cold => exact .idle unsent vacant cold
      | leading unsent under pending cold => exact .leading unsent under pending cold
      | releasing sent under resolved cold => exact .releasing sent under resolved cold
      | storing sent vacant resolved cold => exact .storing sent vacant resolved cold
      | stored sent vacant resolved warm live =>
          have later := calm _ (TimedStore.read_eq_some.mpr ⟨_, warm, live⟩)
          obtain ⟨deadline, held, lasts⟩ := TimedStore.read_eq_some.mp later
          exact .stored sent vacant resolved held lasts

/-- The requests of every calm run are consistent with some phase. -/
theorem guarded_single
    (reached : ((service libraries settings).machine (World.Bare key)).Guarded
      (Calm libraries settings true key) state) :
    ∃ owner flight, Single libraries settings key state owner flight := by
  refine reached.invariant
    (fun state => ∃ owner flight, Single libraries settings key state owner flight) ?_ ?_
  · rintro state ⟨bare, idle⟩
    refine ⟨none, none, .idle bare.fetched ?_ bare.body, ?_, bare.negative, owner_none, ?_⟩
    · rw [bare.table]
      rfl
    · rw [bare.fetched]
      exact nofun
    · intro thread program found
      rw [idle] at found
      cases found
  · rintro state action next ⟨owner, flight, single⟩ calm moved
    cases action with
    | start thread task => exact ⟨owner, flight, single.start calm moved⟩
    | proceed thread circumstance => exact single.proceed calm moved
    | outside event => exact ⟨owner, flight, single.outside calm moved⟩

/-- An await of this kind waits for ESI. -/
def Await.Fetches : Await → Prop
  | .lead _ _ _ _ => True
  | .fetch _ _ => True
  | _ => False

/-- A thread waits for ESI. -/
def Fetching (service : Service) (thread : Nat) : Prop :=
  ∃ await rest, service.threads thread = some (.perform await rest) ∧ await.Fetches

/-- One fetch serves all requests, and whoever cannot proceed waits for it. -/
structure Protected (libraries : Libraries) (settings : Settings) (service : Service) : Prop where
  once : service.shared.fetched.length ≤ 1
  alone : ∀ thread, Fetching service thread →
    service.shared.fetched = [] ∧ ∀ other, Fetching service other → other = thread
  answered : ∀ thread result, service.threads thread = some (.done result) →
    Answered libraries service.shared.fetched result
  unfailed : ∀ thread, service.threads thread ≠ some .fail
  awaited : ∀ thread await rest, service.threads thread = some (.perform await rest) →
    (∀ now fault, (EveApiCache.service libraries settings).step service
      (.proceed thread (.proceeds now fault)) = none) → ∃ leader, Fetching service leader

section Shapes
variable {point : Point} {program : Pipeline Result} {await : Await}
  {rest : await.Reply → Pipeline Result}

/-- A request that waits for ESI leads a flight. -/
theorem Standing.fetches (standing : Standing libraries settings key point program)
    (form : program = .perform await rest) (fetches : await.Fetches) :
    ∃ future, point = .leading future := by
  cases standing with
  | leading own stored future => exact ⟨future, rfl⟩
  | lookup | missed | conditional | joining | releasing | waiting =>
      cases form
      exact fetches.elim
  | storing own stored plentiful =>
      rw [resumed_leader plentiful] at form
      cases form
      exact fetches.elim
  | closing closes =>
      subst form
      cases await with
      | access => exact fetches.elim
      | coalesce | lead | fetch => exact closes.elim

/-- A leader waits for ESI. -/
theorem Standing.leads {future : Nat} {thread : Nat}
    (standing : Standing libraries settings key (.leading future) program)
    (found : state.threads thread = some program) : Fetching state thread := by
  cases standing with
  | leading own stored future => exact ⟨_, _, found, trivial⟩

/-- A request that cannot proceed leads a flight or waits for one that is pending. -/
theorem Standing.blocked (standing : Standing libraries settings key point program)
    (form : program = .perform await rest)
    (blocked : ∀ now fault, world.perform libraries settings (.proceeds now fault) await = none) :
    (∃ future, point = .leading future) ∨
      ∃ future, point = .waiting future ∧ world.table.futures key future = .pending := by
  have never := blocked ⟨2024, 1, 1, 0, 0, 0, 0⟩ none
  cases standing with
  | leading own stored future => exact .inl ⟨future, rfl⟩
  | lookup | missed | conditional | joining | releasing =>
      cases form
      cases never
  | waiting own stored future =>
      cases form
      refine .inr ⟨future, rfl, ?_⟩
      cases resolved : world.table.futures key future with
      | pending => rfl
      | resolved outcome =>
          have advanced := Option.map_eq_none_iff.mp never
          unfold Coalesce.advance at advanced
          dsimp only at advanced
          rw [resolved] at advanced
          cases advanced
  | storing own stored plentiful =>
      rw [resumed_leader plentiful] at form
      cases form
      cases never
  | closing closes =>
      subst form
      cases await with
      | access => cases never
      | coalesce | lead | fetch => exact closes.elim

/-- A finished request is closed. -/
theorem Standing.finished (standing : Standing libraries settings key point program) {value : Result}
    (form : program = .done value) : point = .closing value := by
  cases standing with
  | lookup | missed | conditional | joining | leading | releasing | waiting => cases form
  | storing own stored plentiful =>
      rw [resumed_leader plentiful] at form
      cases form
  | closing closes =>
      subst form
      exact congrArg Point.closing closes.symm

/-- No request fails. -/
theorem Standing.unfailed (standing : Standing libraries settings key point program) :
    program ≠ .fail := by
  intro form
  cases standing with
  | lookup | missed | conditional | joining | leading | releasing | waiting => cases form
  | storing own stored plentiful =>
      rw [resumed_leader plentiful] at form
      cases form
  | closing closes =>
      subst form
      exact closes

end Shapes

/-- A leader fetches before there is a fetch. -/
theorem Phase.unsent {thread future : Nat}
    (phase : Phase libraries settings key world owner flight)
    (plays : Plays libraries world owner flight thread (.leading future)) :
    world.fetched = [] ∧ owner = some (thread, .leading future) := by
  rcases plays with rfl | ⟨_, stands⟩
  · cases phase with
    | leading unsent _ _ _ => exact ⟨unsent, rfl⟩
  · cases stands

theorem Single.protected (single : Single libraries settings key state owner flight) :
    Protected libraries settings state where
  once := by
    cases single.phase with
    | idle unsent | leading unsent =>
        rw [unsent]
        exact Nat.zero_le 1
    | releasing sent | storing sent | stored sent =>
        rw [sent]
        exact le_refl 1
  alone thread fetching := by
    have leads (other : Nat) (fetching : Fetching state other) :
        state.shared.fetched = [] ∧ ∃ future, owner = some (other, .leading future) := by
      obtain ⟨await, rest, found, fetches⟩ := fetching
      obtain ⟨point, standing, plays⟩ := single.plays other _ found
      obtain ⟨future, rfl⟩ := standing.fetches rfl fetches
      obtain ⟨unsent, owns⟩ := single.phase.unsent plays
      exact ⟨unsent, future, owns⟩
    obtain ⟨unsent, future, owns⟩ := leads thread fetching
    refine ⟨unsent, fun other also => ?_⟩
    obtain ⟨_, _, same⟩ := leads other also
    rw [owns] at same
    cases same
    rfl
  answered thread result found := by
    obtain ⟨point, standing, plays⟩ := single.plays thread _ found
    cases standing.finished rfl
    rcases plays with rfl | ⟨_, answered⟩
    · cases single.phase
    · exact answered
  unfailed thread found := by
    obtain ⟨point, standing, _⟩ := single.plays thread _ found
    exact standing.unfailed rfl
  awaited thread await rest found stuck := by
    obtain ⟨point, standing, plays⟩ := single.plays thread _ found
    have blocked (now : Datetime) (fault : Option Nat) :
        state.shared.perform libraries settings (.proceeds now fault) await = none := by
      have never := stuck now fault
      unfold System.step at never
      dsimp only at never
      rw [found] at never
      exact Option.map_eq_none_iff.mp never
    rcases standing.blocked rfl blocked with ⟨future, rfl⟩ | ⟨future, rfl, pending⟩
    · exact ⟨thread, standing.leads found⟩
    · rcases plays with rfl | ⟨_, waits⟩
      · cases single.phase
      · cases (waits : flight = some future)
        cases single.phase with
        | leading =>
            obtain ⟨program, present, leading⟩ := single.owned _ _ rfl
            exact ⟨_, leading.leads present⟩
        | releasing _ _ resolved _ | storing _ _ resolved _ | stored _ _ resolved _ _ =>
            rw [pending] at resolved
            cases resolved

/-- In every prompt run one fetch serves all requests for a key. -/
theorem service_stampede
    (reached : ((service libraries settings).machine (World.Bare key)).Guarded
      (Calm libraries settings true key) state) : Protected libraries settings state := by
  obtain ⟨owner, flight, single⟩ := guarded_single reached
  exact single.protected

end Runs

section Schedules

/-- Nobody stores anything before the first fetch. -/
theorem inTime_of_unsent {libraries : Libraries} {settings : Settings} {key : PyStr} {state : Service}
    (reached : ((service libraries settings).machine (World.Bare key)).Guarded
      (Calm libraries settings true key) state)
    (unsent : state.shared.fetched = []) : InTime key state := by
  obtain ⟨owner, flight, single⟩ := guarded_single reached
  intro vacant
  have cold : state.shared.stores.redis.body.read state.shared.stores.redis.now key = none := by
    by_contra held
    obtain ⟨raw, read⟩ := Option.ne_none_iff_exists'.mp held
    obtain ⟨fetch, sent, _⟩ := single.phase.read read
    rw [unsent] at sent
    cases sent
  refine ⟨cold, ?_⟩
  rintro thread ⟨body, ttl, etag, staleTtl, rest, found⟩
  obtain ⟨point, standing, plays⟩ := single.plays thread _ found
  obtain ⟨response, rfl⟩ := standing.sets rfl
  rcases plays with rfl | ⟨_, stands⟩
  · cases single.phase with
    | storing sent =>
        rw [unsent] at sent
        cases sent
  · cases stands

/-- The key of a request for the incursions. -/
def incursionsKey : PyStr := text "esi:tranquility:GET:/v1/incursions/:44136fa355b3678a"

/-- This check refuses everything that a calm run of these schedules does not need. -/
def isCalm (prompt : Bool) (state : Service) : ServiceAction → Bool
  | .start _ (.proxy request) =>
      (prepare serviceLibraries {} request).toOption.any (·.cacheKey = incursionsKey)
  | .proceed thread (.proceeds _ _) =>
      match state.threads thread with
      | some (.perform (.access (.set _ _ ttl etag staleTtl)) _) =>
          state.shared.stores.redis.setSucceeds ttl etag staleTtl
      | some (.perform (.access (.setNegative _ _ _ _)) _) => false
      | some (.perform (.coalesce _ .joining) _) =>
          !prompt || (state.shared.table.inflight incursionsKey).isSome
      | _ => true
  | .proceed thread (.answers upstream) =>
      match state.threads thread with
      | some (.perform (.lead _ _ call etag) _) =>
          let response := respond serviceLibraries call.method etag upstream
          response.status = 200 ∧ cacheMagic.isPrefixOf response.body = false
      | _ => false
  | _ => false

theorem calm_of_isCalm {prompt : Bool} {state : Service} {action : ServiceAction}
    (calm : isCalm prompt state action = true) :
    Calm serviceLibraries {} prompt incursionsKey state action := by
  cases action with
  | outside event => cases calm
  | start thread task =>
      cases task with
      | collect job => cases calm
      | proxy request =>
          obtain ⟨prepared, admitted, own⟩ := (Option.any_eq_true _ _).mp calm
          exact ⟨prepared, eq_ok_of_toOption admitted, of_decide_eq_true own⟩
  | proceed thread circumstance =>
      intro await rest found
      cases circumstance with
      | raises => cases calm
      | cancelled => cases calm
      | answers upstream =>
          unfold isCalm at calm
          dsimp only at calm
          rw [found] at calm
          cases await with
          | access | coalesce | fetch => cases calm
          | lead other future call etag =>
              obtain ⟨ok, unmarked⟩ := of_decide_eq_true calm
              refine ⟨fun response received => ?_, fun _ joins => by cases joins⟩
              cases received
              exact ⟨ok, .inr unmarked⟩
      | proceeds now fault =>
          unfold isCalm at calm
          dsimp only at calm
          rw [found] at calm
          refine ⟨fun call same => ?_, fun on joins vacant => ?_⟩
          · subst same
            cases call with
            | set => exact calm
            | setNegative => cases calm
            | _ => trivial
          · subst joins on
            have under : (state.shared.table.inflight incursionsKey).isSome = true := calm
            rw [vacant] at under
            cases under

/-- Both requests miss the caches. -/
def missingPair : List ServiceAction :=
  [.start 0 (.proxy (plainRequest (text "/v1/incursions/"))),
    .start 1 (.proxy (plainRequest (text "/v1/incursions/"))), proceed 0, proceed 0, proceed 0,
    proceed 1, proceed 1, proceed 1]

/-- The second request waits for the first one. -/
def sharedPair : List ServiceAction :=
  [proceed 1, answer 0 (plainAnswer 200 (bytes "[]") (text "A")), proceed 0, proceed 0, proceed 0,
    proceed 1]

/-- The second request joins between the release of the first one and its `cache.set`. -/
def latePair : List ServiceAction := missingPair ++
  [proceed 0, answer 0 (plainAnswer 200 (bytes "[]") (text "A")), proceed 0, proceed 1,
    answer 1 (plainAnswer 200 (bytes "[1]") (text "B"))]

theorem emptyService_bare (libraries : Libraries) (settings : Settings) (key : PyStr) :
    ((service libraries settings).machine (World.Bare key)).initial emptyService :=
  ⟨⟨rfl, rfl, rfl, rfl⟩, rfl⟩

/-- A thread has ended with a body. -/
def endsWith (body : Bytes) (state : Service) (thread : Nat) : Bool :=
  match state.threads thread with
  | some (.done (.proxied result)) => result.status = 200 && result.body = body
  | _ => false

theorem service_stampede_shared :
    ∃ state : Service, endsWith (bytes "[]") state 0 = true ∧ endsWith (bytes "[]") state 1 = true ∧
      Protected serviceLibraries {} state := by
  have checked : (((service serviceLibraries {}).machine (World.Bare incursionsKey)).runIf
      (isCalm true) emptyService missingPair).any (fun missing =>
        (missing.shared.fetched.isEmpty && isCalm false missing (proceed 0)) &&
          (((service serviceLibraries {}).machine (World.Bare incursionsKey)).step missing
            (proceed 0)).any fun led =>
              (((service serviceLibraries {}).machine (World.Bare incursionsKey)).runIf (isCalm true)
                led sharedPair).any fun state =>
                  endsWith (bytes "[]") state 0 && endsWith (bytes "[]") state 1) = true := by
    decide +kernel
  obtain ⟨missing, completed, facts⟩ := (Option.any_eq_true _ _).mp checked
  obtain ⟨ready, facts⟩ := Bool.and_eq_true_iff.mp facts
  obtain ⟨unsent, relaxed⟩ := Bool.and_eq_true_iff.mp ready
  obtain ⟨led, joined, facts⟩ := (Option.any_eq_true _ _).mp facts
  obtain ⟨state, shared, facts⟩ := (Option.any_eq_true _ _).mp facts
  obtain ⟨first, second⟩ := Bool.and_eq_true_iff.mp facts
  have before : ((service serviceLibraries {}).machine (World.Bare incursionsKey)).Guarded
      (Calm serviceLibraries {} true incursionsKey) missing :=
    Machine.Guarded.runIf (.start (emptyService_bare _ _ _)) missingPair
      (fun _ _ _ calm => calm_of_isCalm calm) completed
  have calm : Calm serviceLibraries {} true incursionsKey missing (proceed 0) :=
    fun await rest found => ⟨(calm_of_isCalm relaxed await rest found).1,
      fun _ _ => inTime_of_unsent before (List.isEmpty_iff.mp unsent)⟩
  have after := Machine.Guarded.runIf (before.step calm joined) sharedPair
    (fun _ _ _ calm => calm_of_isCalm calm) shared
  exact ⟨state, first, second, service_stampede after⟩

/-- Two requests that both miss the caches can cause two fetches. -/
theorem service_stampede_late :
    ¬∀ state, ((service serviceLibraries {}).machine (World.Bare incursionsKey)).Guarded
      (Calm serviceLibraries {} false incursionsKey) state →
        Protected serviceLibraries {} state := by
  intro claim
  have checked : (((service serviceLibraries {}).machine (World.Bare incursionsKey)).runIf
      (isCalm false) emptyService latePair).any (fun state => state.shared.fetched.length = 2) =
        true := by
    decide +kernel
  obtain ⟨state, completed, twice⟩ := (Option.any_eq_true _ _).mp checked
  have reached := Machine.Guarded.runIf (.start (emptyService_bare _ _ _)) latePair
    (fun _ _ _ calm => calm_of_isCalm calm) completed
  have once := (claim state reached).once
  rw [of_decide_eq_true twice] at once
  omega

end Schedules

end EveApiCache
