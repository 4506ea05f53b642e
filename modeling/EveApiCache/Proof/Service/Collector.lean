import EveApiCache.Proof.Service.Archive
import EveApiCache.Proof.Service.Provenance

/-!
This file shows that a collector run and a proxy request that leads its flight are one pipeline.
-/

namespace EveApiCache
open Effects

section Jobs

/-- A prefix agrees with what it starts. -/
theorem take_of_isPrefixOf {word start tail : PyStr}
    (fits : word.isPrefixOf (start ++ tail) = true) :
    word.take start.length = start.take word.length := by
  have same := List.prefix_iff_eq_take.mp (List.isPrefixOf_iff_prefix.mp fits)
  have both := congrArg (List.take start.length) same
  rw [List.take_take] at both
  rw [both, List.take_append_of_le_length (Nat.min_le_left _ _), Nat.min_comm]
  apply List.take_eq_take_iff.mpr
  omega

/-- An endpoint below `/markets/` archives a time series without names. -/
def marketTimed (spec : EndpointSpec) : Bool :=
  match spec.pattern with
  | .literal word :: _ =>
      word.take (text "/markets/").length ≠ (text "/markets/").take word.length ||
        (spec.archiveType = .timeSeries && !spec.extractNames)
  | _ => false

/-- The market endpoints all archive a time series. -/
theorem market_spec (tail : PyStr) {method : Method} {spec : EndpointSpec}
    (matched : matchEndpoint (text "/markets/" ++ tail) method = some spec) :
    spec.archiveType = .timeSeries ∧ spec.extractNames = false := by
  have each : endpoints.all marketTimed = true := by decide +kernel
  have listed := List.mem_of_find?_eq_some matched
  have found := List.find?_some matched
  have fits := (Bool.and_eq_true_iff.mp found).1
  have known := List.all_eq_true.mp each spec listed
  unfold marketTimed at known
  split at known
  · rename_i word pieces shape
    have starts : word.isPrefixOf (text "/markets/" ++ tail) = true := by
      unfold EndpointSpec.matches at fits
      rw [shape] at fits
      by_contra differs
      simp [consumeAll, Piece.consume, differs] at fits
    simpa [take_of_isPrefixOf starts] using known
  · cases known

/-- Every endpoint that the collector fetches archives a time series. -/
theorem job_spec (job : Job) {version rest : PyStr} {spec : EndpointSpec}
    (valid : validatePath job.path = some (version, rest))
    (matched : matchEndpoint rest .get = some spec) :
    spec.archiveType = .timeSeries ∧ spec.extractNames = false := by
  simp only [validatePath, Option.ite_none_left_eq_some, Option.ite_none_right_eq_some,
    Option.some.injEq, Prod.mk.injEq] at valid
  obtain ⟨_, _, _, _, rfl⟩ := valid
  have fixed (path : PyStr) (checked : ((matchEndpoint path .get).all fun spec =>
      spec.archiveType = .timeSeries && !spec.extractNames) = true)
      (matched : matchEndpoint path .get = some spec) :
      spec.archiveType = .timeSeries ∧ spec.extractNames = false := by
    rw [matched] at checked
    simpa using checked
  cases job with
  | marketOrders regionId => exact market_spec (intStr regionId ++ text "/orders/") matched
  | marketHistory regionId typeId =>
      exact market_spec (intStr regionId ++ text "/history/") matched
  | _ => exact fixed _ (by decide +kernel) matched

end Jobs

/-- Redis holds under one key what another Redis holds under another one. -/
structure Redis.SameAt (first second : Redis) (one two : PyStr) : Prop where
  body : first.body one = second.body two
  stale : first.stale one = second.stale two
  etag : first.etag one = second.etag two
  ttl : first.ttl one = second.ttl two
  negBody : first.negBody one = second.negBody two
  negStatus : first.negStatus one = second.negStatus two

section Redis
variable (libraries : Libraries) (settings : Settings)

/-- A `cache.set` leaves the other keys as they are. -/
theorem set_sameAt_other (redis : Redis) {key other : PyStr} (body : Bytes) (ttl : Int)
    (etag : Option PyStr) (staleTtl : Int) (differs : other ≠ key) :
    (redis.set libraries settings key body ttl etag staleTtl).SameAt redis other other := by
  have erased {Value : Type} (store : TimedStore PyStr Value) : store.erase key other = store other :=
    TimedStore.erase_other _ differs
  constructor
  · exact setEx_other _ _ _ _ differs
  · change (if 0 < staleTtl then redis.setEx redis.stale key _ _ else redis.stale.erase key) other = _
    split_ifs
    · exact setEx_other _ _ _ _ differs
    · exact erased _
  · change (if etag.getD [] = [] then redis.etag.erase key else redis.setEx redis.etag key _ _) other = _
    split_ifs
    · exact erased _
    · exact setEx_other _ _ _ _ differs
  · change (if etag.getD [] = [] then redis.ttl.erase key else redis.setEx redis.ttl key _ _) other = _
    split_ifs
    · exact erased _
    · exact setEx_other _ _ _ _ differs
  · exact erased _
  · exact erased _

/-- At one time, a `cache.set` whose lifetimes Redis takes leaves the same under every key. -/
theorem set_sameAt_self {first second : Redis} (clock : first.now = second.now) (one two : PyStr)
    (body : Bytes) (ttl : Int) (etag : Option PyStr) (staleTtl : Int)
    (succeeds : first.setSucceeds ttl etag staleTtl = true) :
    (first.set libraries settings one body ttl etag staleTtl).SameAt
      (second.set libraries settings two body ttl etag staleTtl) one two := by
  have accepts (ex : Int) (member : ex ∈ Redis.lifetimes ttl staleTtl etag) {Value : Type}
      (left right : TimedStore PyStr Value) (value : Value) :
      first.setEx left one value ex one = second.setEx right two value ex two := by
    have taken := List.all_eq_true.mp succeeds ex member
    have other : second.accepts ex = true := by
      unfold Redis.accepts at taken ⊢
      rw [← clock]
      exact taken
    rw [setEx_self _ _ _ taken, setEx_self _ _ _ other]
    unfold Redis.deadline
    rw [clock]
  have erased {Value : Type} (left right : TimedStore PyStr Value) :
      left.erase one one = right.erase two two := by
    rw [TimedStore.erase_self, TimedStore.erase_self]
  constructor
  · exact accepts ttl (by simp [Redis.lifetimes]) _ _ _
  · change (if 0 < staleTtl then first.setEx first.stale one _ _ else first.stale.erase one) one =
      (if 0 < staleTtl then second.setEx second.stale two _ _ else second.stale.erase two) two
    split_ifs with copied
    · exact accepts _ (by simp [Redis.lifetimes, copied]) _ _ _
    · exact erased _ _
  · change (if etag.getD [] = [] then first.etag.erase one else first.setEx first.etag one _ _) one =
      (if etag.getD [] = [] then second.etag.erase two else second.setEx second.etag two _ _) two
    split_ifs with absent
    · exact erased _ _
    · exact accepts _ (by simp [Redis.lifetimes, absent]) _ _ _
  · change (if etag.getD [] = [] then first.ttl.erase one else first.setEx first.ttl one _ _) one =
      (if etag.getD [] = [] then second.ttl.erase two else second.setEx second.ttl two _ _) two
    split_ifs with absent
    · exact erased _ _
    · exact accepts _ (by simp [Redis.lifetimes, absent]) _ _ _
  · exact erased _ _
  · exact erased _ _

end Redis

section Alone
variable (libraries : Libraries) (settings : Settings) (now : Datetime) (fault : Option Nat)
  (upstream : Upstream)

/-- ESI answers the fetches of a task that runs alone, and its other awaits proceed at one time. -/
def Await.circumstance : Await → Circumstance
  | .lead _ _ _ _ => .answers upstream
  | .fetch _ _ => .answers upstream
  | _ => .proceeds now fault

/-- A task that runs alone performs its awaits one after the other. -/
def World.alone : Program.Handler awaits World := fun await world =>
  (world.perform libraries settings (await.circumstance now fault upstream) await).bind fun result =>
    result.1.map fun reply => (reply, result.2)

variable {libraries settings now fault upstream} {A : Type}

theorem eval_access {call : Access} {reply : call.Reply} {world : World} {stores : Stores}
    (performed : world.stores.perform libraries settings now fault call = (some reply, stores))
    (next : call.Reply → Pipeline A) :
    Program.eval (World.alone libraries settings now fault upstream) (.perform (.access call) next)
        world =
      Program.eval (World.alone libraries settings now fault upstream) (next reply)
        (World.record { world with stores := stores } call (some reply)) := by
  have same : World.alone libraries settings now fault upstream (.access call) world =
      some (reply, World.record { world with stores := stores } call (some reply)) := by
    change (some ((world.stores.perform libraries settings now fault call).1, _)).bind _ = _
    rw [performed]
    rfl
  rw [Program.eval, same]
  rfl

theorem eval_access_none {call : Access} {world : World}
    (performed : (world.stores.perform libraries settings now fault call).1 = none)
    (next : call.Reply → Pipeline A) :
    Program.eval (World.alone libraries settings now fault upstream) (.perform (.access call) next)
      world = none := by
  have same : World.alone libraries settings now fault upstream (.access call) world = none := by
    change (some ((world.stores.perform libraries settings now fault call).1, _)).bind _ = _
    rw [performed]
    rfl
  rw [Program.eval, same]
  rfl

variable (libraries settings now fault upstream) in
/-- A caller that finds no flight leads one. -/
theorem eval_coalesce {world : World} {key : PyStr} (vacant : world.table.inflight key = none)
    (call : UpstreamCall) (etag : Option PyStr) (next : EsiResponse × Bool → Pipeline A) :
    ∃ table fetched,
      Program.eval (World.alone libraries settings now fault upstream) (coalesce key call etag >>= next)
          world =
        Program.eval (World.alone libraries settings now fault upstream)
          (next (respond libraries call.method etag upstream, true))
          { world with
            table := table
            fetched := fetched } := by
  have led : World.alone libraries settings now fault upstream (.coalesce key .joining) world =
      some (.leading world.table.created, { world with table := world.table.register key }) := by
    simp [World.alone, World.perform, Await.circumstance, World.advance, Coalesce.advance,
      Coalesce.Table.join, vacant]
  have started : Program.eval (World.alone libraries settings now fault upstream)
      (coalesce key call etag >>= next) world =
      Program.eval (World.alone libraries settings now fault upstream)
        (joined key call etag (.leading world.table.created) >>= next)
        { world with table := world.table.register key } := by
    change (World.alone libraries settings now fault upstream (.coalesce key .joining) world).bind _ = _
    rw [led]
    rfl
  exact ⟨_, _, started⟩

end Alone

section Requests
variable {libraries : Libraries} {settings : Settings}

theorem get_normalizeParams (params : Params) (name : PyStr) :
    (normalizeParams params).get name =
      if proxyParams.contains name = true then none else params.get name := by
  apply Option.ext
  intro value
  unfold Params.get
  rw [lookup_eq_some _ (normalizeParams params).nodup, normalizeParams_mem]
  split_ifs with reserved
  · simp only [reserved, reduceCtorEq, and_false]
  · rw [lookup_eq_some _ params.nodup]
    simp only [Bool.not_eq_true] at reserved
    simp only [reserved, and_true]

/-- A request asks for a path in a datasource with the parameters of a job. They stand in any order,
and the parameters of the proxy may stand among them. -/
structure Request.AsksFor (settings : Settings) (request : Request) (datasource : PyStr) (job : Job)
    (path : PyStr) : Prop where
  path : request.fullPath = path
  method : request.method = .get
  params : ∀ name, proxyParams.contains name = false → request.params.get name = job.params.get name
  datasource : (request.params.get (text "datasource")).getD settings.defaultDatasource = datasource

theorem Request.AsksFor.normalized {request : Request} {datasource path : PyStr} {job : Job}
    (asks : request.AsksFor settings datasource job path) :
    normalizeParams request.params = normalizeParams job.params := by
  apply Params.ext
  apply ordered_ext _ _ (normalizeParams_ordered _) (normalizeParams_ordered _)
  intro name
  rw [get_normalizeParams, get_normalizeParams]
  split_ifs with reserved
  · rfl
  · exact asks.params name (Bool.not_eq_true _ ▸ reserved)

/-- An accepted request knows its datasource and its endpoint. -/
theorem prepare_parts {request : Request} {prepared : Prepared}
    (accepted : prepare libraries settings request = .ok prepared) :
    prepared.datasource = (request.params.get (text "datasource")).getD settings.defaultDatasource ∧
      ∃ version rest, validatePath request.fullPath = some (version, rest) ∧
        matchEndpoint rest request.method = some prepared.spec := by
  unfold prepare at accepted
  split at accepted
  · cases accepted
  · rename_i version rest valid
    split at accepted
    · cases accepted
    · rename_i spec matched
      dsimp only at accepted
      split_ifs at accepted
      all_goals
        split at accepted
        · cases accepted
        · split at accepted
          · cases accepted
          · cases accepted
            exact ⟨rfl, version, rest, valid, matched⟩

/-- The proxy computes the key that the collector computes for the same path. -/
theorem Request.AsksFor.key {request : Request} {prepared : Prepared} {datasource path : PyStr}
    {job : Job} (asks : request.AsksFor settings datasource job path)
    (accepted : prepare libraries settings request = .ok prepared) :
    prepared.cacheKey = job.key libraries datasource path := by
  have facts := prepare_accepted libraries settings request prepared accepted
  have bodiless := facts.bodiless.mpr asks.method
  rw [facts.key, bodiless, (prepare_parts accepted).1, asks.datasource, asks.path, asks.method]
  unfold Job.key buildCacheKey
  rw [← computeQueryHash_normalizeParams, asks.normalized, computeQueryHash_normalizeParams]

theorem Request.AsksFor.identity {request : Request} {prepared : Prepared} {datasource path : PyStr}
    {job : Job} (asks : request.AsksFor settings datasource job path)
    (accepted : prepare libraries settings request = .ok prepared) :
    prepared.identity = ⟨datasource, path, computeQueryHash libraries job.params none⟩ := by
  have facts := prepare_accepted libraries settings request prepared accepted
  have bodiless := facts.bodiless.mpr asks.method
  unfold Prepared.identity
  rw [facts.hash, bodiless, asks.normalized, computeQueryHash_normalizeParams,
    (prepare_parts accepted).1, asks.datasource]
  have called : prepared.call.path = request.fullPath := by rw [facts.call]
  rw [called, asks.path]

theorem swapVersion_v1 (rest version : PyStr) :
    swapVersion (text "/v1/" ++ rest) version = text "/" ++ version ++ text "/" ++ rest := rfl

theorem job_v1 (job : Job) : ∃ rest, job.path = text "/v1/" ++ rest := by
  refine ⟨job.path.drop 4, ?_⟩
  cases job <;> rfl

variable (libraries settings)

/-- These are the keys under which the collector stores a body once more. -/
def Job.aliasKeys (datasource : PyStr) (job : Job) : List PyStr :=
  (settings.collectorWarmAliasVersions.filter fun version =>
    swapVersion job.path version ≠ job.path).map fun version =>
      job.key libraries datasource (swapVersion job.path version)

/-- The alias keys are the keys of the same path with another version. -/
theorem aliasKeys_v1 (datasource : PyStr) {job : Job} {rest : PyStr}
    (path : job.path = text "/v1/" ++ rest) :
    job.aliasKeys libraries settings datasource =
      (settings.collectorWarmAliasVersions.filter fun version => version ≠ text "v1").map
        fun version => job.key libraries datasource (text "/" ++ version ++ text "/" ++ rest) := by
  unfold Job.aliasKeys
  rw [path]
  simp only [swapVersion_v1]
  congr 1
  apply List.filter_congr
  intro version _
  have same : text "/" ++ version ++ text "/" ++ rest = text "/v1/" ++ rest ↔ version = text "v1" := by
    change text "/" ++ version ++ text "/" ++ rest = text "/" ++ text "v1" ++ text "/" ++ rest ↔ _
    rw [List.append_cancel_right_eq, List.append_cancel_right_eq, List.append_cancel_left_eq]
  simp only [ne_eq, same]

end Requests

theorem Redis.SameAt.trans {first second third : Redis} {one two three : PyStr}
    (left : first.SameAt second one two) (right : second.SameAt third two three) :
    first.SameAt third one three where
  body := left.body.trans right.body
  stale := left.stale.trans right.stale
  etag := left.etag.trans right.etag
  ttl := left.ttl.trans right.ttl
  negBody := left.negBody.trans right.negBody
  negStatus := left.negStatus.trans right.negStatus

/-- A Redis differs from another one only at alias keys, which hold what the other one holds under
the key itself. -/
structure Redis.Aliased (warm plain : Redis) (key : PyStr) (aliases : List PyStr) : Prop where
  clock : warm.now = plain.now
  names : warm.name = plain.name
  others : ∀ other ∉ aliases, warm.SameAt plain other other
  copies : ∀ other ∈ aliases, warm.SameAt plain other key

/-- Without alias keys both are the same. -/
theorem Redis.Aliased.eq {warm plain : Redis} {key : PyStr} (aliased : warm.Aliased plain key []) :
    warm = plain := by
  obtain ⟨clock, names, others, _⟩ := aliased
  have same (other : PyStr) : warm.SameAt plain other other := others other (List.not_mem_nil)
  have body := funext fun other => (same other).body
  have stale := funext fun other => (same other).stale
  have etag := funext fun other => (same other).etag
  have ttl := funext fun other => (same other).ttl
  have negBody := funext fun other => (same other).negBody
  have negStatus := funext fun other => (same other).negStatus
  cases warm
  cases plain
  congr

section Runs
variable {libraries : Libraries} {settings : Settings} {now : Datetime} {fault : Option Nat}
  {upstream : Upstream} {A : Type}

/-- This is the `cache.set` of a response with status 200. -/
def Redis.store (libraries : Libraries) (settings : Settings) (redis : Redis) (key : PyStr)
    (response : EsiResponse) : Redis :=
  redis.set libraries settings key response.body (lifetimeOr300 response.maxAge) response.etag
    (staleTtlForPayload settings response.body)

/-- Redis takes the lifetimes of a response with status 200. -/
def Redis.stores (settings : Settings) (redis : Redis) (response : EsiResponse) : Bool :=
  redis.setSucceeds (lifetimeOr300 response.maxAge) response.etag
    (staleTtlForPayload settings response.body)

variable (now fault upstream) in
/-- The alias keys become copies of the key, whatever it held. -/
theorem eval_warmAliases (datasource : PyStr) (job : Job) {response : EsiResponse} (key : PyStr)
    (versions : List PyStr) (world : World)
    (taken : world.stores.redis.stores settings response = true) (next : Unit → Pipeline A) :
    ∃ redis : Redis,
      Program.eval (World.alone libraries settings now fault upstream)
          (warmAliases libraries settings datasource job response versions >>= next) world =
        Program.eval (World.alone libraries settings now fault upstream) (next ())
          { world with stores := { world.stores with redis := redis } } ∧
      redis.now = world.stores.redis.now ∧ redis.name = world.stores.redis.name ∧
      (∀ other, (∀ version ∈ versions, swapVersion job.path version ≠ job.path →
          other ≠ job.key libraries datasource (swapVersion job.path version)) →
        redis.SameAt world.stores.redis other other) ∧
      ∀ version ∈ versions, swapVersion job.path version ≠ job.path →
        redis.SameAt (world.stores.redis.store libraries settings key response)
          (job.key libraries datasource (swapVersion job.path version)) key := by
  induction versions generalizing world with
  | nil => exact ⟨world.stores.redis, rfl, rfl, rfl, fun _ _ => ⟨rfl, rfl, rfl, rfl, rfl, rfl⟩, nofun⟩
  | cons version rest ih =>
      by_cases canonical : swapVersion job.path version = job.path
      · obtain ⟨redis, run, clock, names, others, copies⟩ := ih world taken
        have skipped : warmAliases libraries settings datasource job response (version :: rest) =
            warmAliases libraries settings datasource job response rest := by
          rw [warmAliases, if_pos canonical]
        refine ⟨redis, by rw [skipped]; exact run, clock, names, ?_, ?_⟩
        · intro other differs
          exact others other fun version member => differs version (List.mem_cons_of_mem _ member)
        · intro another member differs
          rcases List.mem_cons.mp member with rfl | member
          · exact absurd canonical differs
          · exact copies another member differs
      · let warmed := job.key libraries datasource (swapVersion job.path version)
        let after : World := { world with
          stores := { world.stores with
            redis := world.stores.redis.store libraries settings warmed response } }
        obtain ⟨redis, run, clock, names, others, copies⟩ := ih after taken
        have performed : world.stores.perform libraries settings now fault
            (.set warmed response.body (lifetimeOr300 response.maxAge) response.etag
              (staleTtlForPayload settings response.body)) = (some (), after.stores) := by
          change (if world.stores.redis.stores settings response = true then _ else _, _) = _
          rw [if_pos taken]
          rfl
        have started : warmAliases libraries settings datasource job response (version :: rest) >>= next =
            .perform (.access (.set warmed response.body (lifetimeOr300 response.maxAge) response.etag
              (staleTtlForPayload settings response.body))) fun _ =>
                warmAliases libraries settings datasource job response rest >>= next := by
          rw [warmAliases, if_neg canonical]
          rfl
        refine ⟨redis, ?_, clock, names, ?_, ?_⟩
        · rw [started, eval_access performed]
          exact run
        · intro other differs
          have here := differs version List.mem_cons_self canonical
          exact (others other fun version member =>
            differs version (List.mem_cons_of_mem _ member)).trans
              (set_sameAt_other libraries settings _ _ _ _ _ here)
        · intro another member differs
          have again : (after.stores.redis.store libraries settings key response).SameAt
              (world.stores.redis.store libraries settings key response) key key :=
            set_sameAt_self libraries settings
              (show after.stores.redis.now = world.stores.redis.now from rfl) key key _ _ _ _ taken
          by_cases later : ∃ one ∈ rest, swapVersion job.path one ≠ job.path ∧
              job.key libraries datasource (swapVersion job.path another) =
                job.key libraries datasource (swapVersion job.path one)
          · obtain ⟨one, member, differs, same⟩ := later
            rw [same]
            exact (copies one member differs).trans again
          · have first : another = version := by
              rcases List.mem_cons.mp member with same | member
              · exact same
              · exact absurd ⟨another, member, differs, rfl⟩ later
            subst first
            refine (others _ fun one member differs same => later ⟨one, member, differs, same⟩).trans ?_
            exact set_sameAt_self libraries settings rfl warmed key _ _ _ _ taken

variable (libraries settings now fault) in
/-- A snapshot leaves the cache alone, and does not depend on it. -/
theorem perform_writeSnapshot (stores : Stores) (redis : Redis) (observed : Observation) :
    Stores.perform libraries settings now fault { stores with redis := redis }
        (.writeSnapshot observed) =
      ((stores.transact libraries fault (writeSnapshot libraries settings now observed)).1,
        { (stores.transact libraries fault (writeSnapshot libraries settings now observed)).2 with
          redis := redis }) :=
  transact_uncached libraries fault (writeSnapshot_uncached libraries settings now observed) stores redis

/-- The collector stores a response, copies it to the alias keys and archives it. -/
theorem eval_fetchAndStore {datasource : PyStr} {job : Job} {world after : World} {stored : Bool}
    {response : EsiResponse} (same : respond libraries .get none upstream = response)
    (ok : response.status = 200)
    (finished : (fetchAndStore libraries settings datasource job).eval
      (World.alone libraries settings now fault upstream) world = some (stored, after)) :
    world.stores.redis.stores settings response = true ∧ ∃ redis : Redis,
      redis.Aliased (world.stores.redis.store libraries settings
        (job.key libraries datasource job.path) response)
        (job.key libraries datasource job.path) (job.aliasKeys libraries settings datasource) ∧
      after.stores = { (world.stores.transact libraries fault
        (writeSnapshot libraries settings now (job.observation libraries datasource response))).2 with
          redis := redis } := by
  let key := job.key libraries datasource job.path
  let plain := world.stores.redis.store libraries settings key response
  let versions := settings.collectorWarmAliasVersions
  let observed := job.observation libraries datasource response
  let logged : World := world.log ⟨job.call datasource, none, upstream⟩
  let kept : World := { logged with stores := { world.stores with redis := plain } }
  have fetched : (fetchAndStore libraries settings datasource job).eval
      (World.alone libraries settings now fault upstream) world =
      Program.eval (World.alone libraries settings now fault upstream)
        (.perform (.access (.set key response.body (lifetimeOr300 response.maxAge) response.etag
          (staleTtlForPayload settings response.body))) fun _ =>
            warmAliases libraries settings datasource job response versions >>= fun _ =>
              access (.writeSnapshot observed)) logged := by
    have chosen : collected libraries settings datasource job response =
        .perform (.access (.set key response.body (lifetimeOr300 response.maxAge) response.etag
          (staleTtlForPayload settings response.body))) fun _ =>
            warmAliases libraries settings datasource job response versions >>= fun _ =>
              access (.writeSnapshot observed) := by
      unfold collected
      rw [if_neg (not_not.mpr ok)]
      rfl
    rw [← chosen, ← same]
    rfl
  rw [fetched] at finished
  by_cases taken : world.stores.redis.stores settings response = true
  swap
  · have refused : (logged.stores.perform libraries settings now fault
        (.set key response.body (lifetimeOr300 response.maxAge) response.etag
          (staleTtlForPayload settings response.body))).1 = none := if_neg taken
    rw [eval_access_none refused] at finished
    cases finished
  have performed : logged.stores.perform libraries settings now fault
      (.set key response.body (lifetimeOr300 response.maxAge) response.etag
        (staleTtlForPayload settings response.body)) = (some (), kept.stores) := by
    change (if world.stores.redis.stores settings response = true then _ else _, _) = _
    rw [if_pos taken]
    rfl
  rw [eval_access performed] at finished
  obtain ⟨redis, run, clock, names, others, copies⟩ := eval_warmAliases now fault upstream datasource
    job key versions kept taken fun _ => access (.writeSnapshot observed)
  have again : (kept.stores.redis.store libraries settings key response).SameAt plain key key :=
    set_sameAt_self libraries settings (show kept.stores.redis.now = world.stores.redis.now from rfl)
      key key _ _ _ _ taken
  have archived := perform_writeSnapshot libraries settings now fault world.stores redis observed
  refine ⟨taken, redis, ⟨clock, names, fun other absent => ?_, fun other present => ?_⟩, ?_⟩
  · refine others other fun version member differs same => absent ?_
    rw [same]
    exact List.mem_map.mpr ⟨version, List.mem_filter.mpr ⟨member, decide_eq_true differs⟩, rfl⟩
  · obtain ⟨version, member, rfl⟩ := List.mem_map.mp present
    obtain ⟨member, differs⟩ := List.mem_filter.mp member
    exact (copies version member (of_decide_eq_true differs)).trans again
  · have last := run.symm.trans finished
    have reply : (world.stores.transact libraries fault
        (writeSnapshot libraries settings now observed)).1 =
        some (EveApiCache.transact libraries fault (writeSnapshot libraries settings now observed)
          world.stores.session).1 := rfl
    rw [reply] at archived
    have ended := (eval_access archived Program.done).symm.trans last
    exact (congrArg World.stores (Prod.mk.inj (Option.some.inj ended)).2).symm

/-- No error or body is cached under a key, and no flight is under way for it. -/
structure World.Misses (libraries : Libraries) (world : World) (key : PyStr) : Prop where
  body : world.stores.redis.get libraries key = some none
  negative : world.stores.redis.getNegative key = none
  flight : world.table.inflight key = none

/-- This is the result of a request that brings a response with status 200. -/
def freshResult (response : EsiResponse) : ProxyResult :=
  ⟨200, response.body, .miss, response.contentType, none⟩

variable (now fault) in
/-- A request that misses the cache and leads its flight stores the response and archives it. -/
theorem eval_dispatch {request : Request} {prepared : Prepared} {world : World}
    {response : EsiResponse} (accepted : prepare libraries settings request = .ok prepared)
    (misses : world.Misses libraries prepared.cacheKey)
    (same : ∀ etag, respond libraries prepared.call.method etag upstream = response)
    (ok : response.status = 200) (spec : prepared.spec.archiveType = .timeSeries)
    (nameless : prepared.spec.extractNames = false)
    (taken : world.stores.redis.stores settings response = true) :
    ∃ after : World, (dispatch libraries settings request).eval
        (World.alone libraries settings now fault upstream) world = some (freshResult response, after) ∧
      after.stores = { (world.stores.transact libraries fault (writeSnapshot libraries settings now
        { identity := prepared.identity
          contentHash := libraries.sha256 response.body
          payload := response.body
          httpStatus := 200
          etag := response.etag
          expiresAt := response.expiresAt
          archiveType := .timeSeries })).2 with
        redis := world.stores.redis.store libraries settings prepared.cacheKey response } := by
  let key := prepared.cacheKey
  let plain := world.stores.redis.store libraries settings key response
  let observed : Observation :=
    { identity := prepared.identity
      contentHash := libraries.sha256 response.body
      payload := response.body
      httpStatus := 200
      etag := response.etag
      expiresAt := response.expiresAt
      archiveType := .timeSeries }
  let stored := world.stores.redis.getEtag key
  let handler := World.alone libraries settings now fault upstream
  have cached : world.stores.perform libraries settings now fault (.get key) =
      (some none, world.stores) := congrArg (·, world.stores) misses.body
  have negative : world.stores.perform libraries settings now fault (.getNegative key) =
      (some none, world.stores) := congrArg (fun reply => (some reply, world.stores)) misses.negative
  have missed : (dispatch libraries settings request).eval handler world =
      Program.eval handler (coalesce key prepared.call stored >>= fun result =>
        fetched libraries settings prepared stored result.1 result.2) world := by
    have started : dispatch libraries settings request = lookup libraries settings prepared := by
      unfold dispatch
      rw [accepted]
    rw [started]
    exact (eval_access cached _).trans (eval_access negative _)
  have answers : fetched libraries settings prepared stored response true =
      .perform (.access (.set key response.body (lifetimeOr300 response.maxAge) response.etag
        (staleTtlForPayload settings response.body))) fun _ =>
          .perform (.access (.writeSnapshot observed)) fun _ => .done (freshResult response) := by
    have fresh : response.notModified = false := by
      by_contra stale
      rw [Bool.not_eq_false, ← same none] at stale
      have failed := (respond_notModified libraries _ _ _ stale).2
      rw [same none, ok] at failed
      cases failed
    have names (recorded : Bool) : recordNames prepared response recorded = .done () := by
      cases recorded with
      | false => rfl
      | true =>
          unfold recordNames
          rw [nameless]
          rfl
    have archives : archiveResponse libraries prepared response =
        .perform (.access (.writeSnapshot observed)) fun _ => .done () := by
      have timed : recordResponse libraries prepared response = access (.writeSnapshot observed) := by
        unfold recordResponse
        rw [spec]
        rfl
      unfold archiveResponse
      rw [timed, access_bind]
      exact congrArg (Program.perform _) (funext names)
    unfold fetched answered
    rw [fresh, if_neg Bool.false_ne_true, if_pos ok]
    unfold storeResponse
    rw [access_bind, archives]
    rfl
  obtain ⟨table, fetches, run⟩ := eval_coalesce libraries settings now fault upstream misses.flight
    prepared.call stored fun result => fetched libraries settings prepared stored result.1 result.2
  rw [same stored, answers] at run
  let landed : World := { world with
    table := table
    fetched := fetches }
  let kept : World := { landed with stores := { world.stores with redis := plain } }
  have performed : landed.stores.perform libraries settings now fault
      (.set key response.body (lifetimeOr300 response.maxAge) response.etag
        (staleTtlForPayload settings response.body)) = (some (), kept.stores) := by
    change (if world.stores.redis.stores settings response = true then _ else _, _) = _
    rw [if_pos taken]
    rfl
  have archived : kept.stores.perform libraries settings now fault (.writeSnapshot observed) =
      (some (EveApiCache.transact libraries fault (writeSnapshot libraries settings now observed)
        world.stores.session).1, _) :=
    perform_writeSnapshot libraries settings now fault world.stores plain observed
  have ended := (missed.trans run).trans ((eval_access performed _).trans (eval_access archived _))
  exact ⟨_, ended, rfl⟩

/-- A collector run leaves the stores as a proxy request does that misses the cache, leads its flight
and brings the same response. Only alias keys come on top: they are the keys of the same path with
another version, and each holds a copy. -/
theorem fetchAndStore_eq_dispatch {datasource : PyStr} {job : Job} {world after : World}
    {stored : Bool} (ok : (respond libraries .get none upstream).status = 200)
    (finished : (fetchAndStore libraries settings datasource job).eval
      (World.alone libraries settings now fault upstream) world = some (stored, after)) :
    (∀ request prepared, request.AsksFor settings datasource job job.path →
      prepare libraries settings request = .ok prepared →
      world.Misses libraries prepared.cacheKey →
      ∃ proxied : World, (dispatch libraries settings request).eval
          (World.alone libraries settings now fault upstream) world =
            some (freshResult (respond libraries .get none upstream), proxied) ∧
        after.stores.database = proxied.stores.database ∧
        after.stores.files = proxied.stores.files ∧
        after.stores.redis.Aliased proxied.stores.redis prepared.cacheKey
          (job.aliasKeys libraries settings datasource) ∧
        (settings.collectorWarmAliasVersions = [] → after.stores = proxied.stores)) ∧
    ∃ rest, job.path = text "/v1/" ++ rest ∧
      job.aliasKeys libraries settings datasource =
        (settings.collectorWarmAliasVersions.filter fun version => version ≠ text "v1").map
          (fun version => job.key libraries datasource (text "/" ++ version ++ text "/" ++ rest)) ∧
      ∀ version request prepared,
        request.AsksFor settings datasource job (text "/" ++ version ++ text "/" ++ rest) →
        prepare libraries settings request = .ok prepared →
        prepared.cacheKey = job.key libraries datasource (text "/" ++ version ++ text "/" ++ rest) := by
  constructor
  · intro request prepared asks accepted misses
    obtain ⟨taken, redis, aliased, left⟩ := eval_fetchAndStore rfl ok finished
    have facts := prepare_accepted libraries settings request prepared accepted
    have method : prepared.call.method = .get := by rw [facts.call, asks.method]
    obtain ⟨_, version, rest, valid, matched⟩ := prepare_parts accepted
    rw [asks.path] at valid
    rw [asks.method] at matched
    obtain ⟨spec, nameless⟩ := job_spec job valid matched
    obtain ⟨proxied, run, kept⟩ := eval_dispatch now fault accepted misses
      (fun etag => by rw [method]; exact respond_ok libraries .get none etag upstream ok) ok spec
      nameless taken
    rw [asks.identity accepted] at kept
    rw [asks.key accepted] at kept ⊢
    have redisSame : after.stores.redis.Aliased proxied.stores.redis
        (job.key libraries datasource job.path) (job.aliasKeys libraries settings datasource) := by
      rw [left, kept]
      exact aliased
    refine ⟨proxied, run, ?_, ?_, redisSame, fun none => ?_⟩
    · rw [left, kept]
      rfl
    · rw [left, kept]
      rfl
    · have empty : job.aliasKeys libraries settings datasource = [] := by
        unfold Job.aliasKeys
        rw [none]
        rfl
      rw [empty] at aliased
      rw [left, kept, aliased.eq]
      rfl
  · obtain ⟨rest, path⟩ := job_v1 job
    exact ⟨rest, path, aliasKeys_v1 libraries settings datasource path,
      fun version request prepared asks accepted => asks.key accepted⟩

end Runs

theorem eq_ok_of_toOption {Failure Value : Type} {outcome : Except Failure Value} {value : Value}
    (same : outcome.toOption = some value) : outcome = .ok value := by
  cases outcome with
  | error failure => cases same
  | ok other =>
      cases same
      rfl

theorem fetchAndStore_eq_dispatch_incursions :
    ∃ (after proxied : World) (result : ProxyResult) (stored : Bool) (prepared : Prepared),
      (fetchAndStore serviceLibraries {} (text "tranquility") .incursions).eval
        (World.alone serviceLibraries {} ⟨2024, 1, 1, 0, 0, 0, 0⟩ none
          (plainAnswer 200 (bytes "[]") (text "A"))) emptyWorld = some (stored, after) ∧
      prepare serviceLibraries {} (plainRequest (text "/v1/incursions/")) = .ok prepared ∧
      (dispatch serviceLibraries {} (plainRequest (text "/v1/incursions/"))).eval
        (World.alone serviceLibraries {} ⟨2024, 1, 1, 0, 0, 0, 0⟩ none
          (plainAnswer 200 (bytes "[]") (text "A"))) emptyWorld = some (result, proxied) ∧
      after.stores = proxied.stores := by
  have evaluated : ((fetchAndStore serviceLibraries {} (text "tranquility") .incursions).eval
      (World.alone serviceLibraries {} ⟨2024, 1, 1, 0, 0, 0, 0⟩ none
        (plainAnswer 200 (bytes "[]") (text "A"))) emptyWorld).isSome = true := by
    decide +kernel
  obtain ⟨⟨stored, after⟩, finished⟩ := Option.isSome_iff_exists.mp evaluated
  have admitted : (prepare serviceLibraries {}
      (plainRequest (text "/v1/incursions/"))).toOption.isSome = true := by
    decide +kernel
  obtain ⟨prepared, admitted⟩ := Option.isSome_iff_exists.mp admitted
  have accepted := eq_ok_of_toOption admitted
  have asks : (plainRequest (text "/v1/incursions/")).AsksFor {} (text "tranquility") .incursions
      (Job.path .incursions) := ⟨rfl, rfl, fun _ _ => rfl, rfl⟩
  obtain ⟨proxied, run, _, _, _, same⟩ := (fetchAndStore_eq_dispatch (by decide +kernel)
    finished).1 _ prepared asks accepted ⟨rfl, rfl, rfl⟩
  exact ⟨after, proxied, _, stored, prepared, finished, accepted, run, same rfl⟩

end EveApiCache
