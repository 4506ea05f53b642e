import EveApiCache.Proof.Service.Fetches
import EveApiCache.Proof.Service.Provenance

/-!
This file shows when Redis takes every lifetime that a request or a collector run asks for.
-/

namespace EveApiCache
open Effects StepMachine

/-- These responses are stored, or restore what is stored. -/
def Storable (response : EsiResponse) : Prop :=
  response.status = 200 ∨ response.notModified = true ∨ Negative response.status

/-- A storable response states no lifetime beyond the longest, and a 304 states none of zero. -/
def Lasts (longest : Nat) (response : EsiResponse) : Prop :=
  ∀ maxAge, response.maxAge = some maxAge →
    (Storable response → maxAge ≤ longest) ∧ (response.notModified = true → maxAge ≠ 0)

/-- The await of a fetch receives what the answer of ESI becomes for its call. -/
def Await.received (libraries : Libraries) (upstream : Upstream) : Await → Option EsiResponse
  | .lead _ _ call etag => some (respond libraries call.method etag upstream)
  | .fetch call etag => some (respond libraries call.method etag upstream)
  | _ => none

/-- The clock leaves room for the longest lifetime and for what the cache adds to it. -/
def Roomy (settings : Settings) (longest now : Nat) : Prop :=
  (now : Int) + 1000 * (longest + max 60 settings.staleCacheSeconds) < 2 ^ 63

/-- Every response of ESI lasts and the clock stays roomy. -/
def AnswersLast (libraries : Libraries) (settings : Settings) (longest : Nat) (service : Service) :
    ServiceAction → Prop
  | .proceed thread (.answers upstream) => ∀ await next response,
      service.threads thread = some (.perform await next) →
        await.received libraries upstream = some response → Lasts longest response
  | .outside (.pass milliseconds) =>
      Roomy settings longest (service.shared.stores.redis.now + milliseconds)
  | _ => True

/-- Redis takes every lifetime for which a call asks. -/
def Taken (redis : Redis) : Access → Prop
  | .set _ _ ttl etag staleTtl => redis.setSucceeds ttl etag staleTtl = true
  | .setNegative _ _ _ ttl => redis.accepts ttl = true
  | _ => True

section Contract
variable (settings : Settings) (longest : Nat)

def InBounds (ttl : Int) : Prop := 0 < ttl ∧ ttl ≤ longest

def LifetimeOwed : Await → Prop
  | .access (.set _ _ ttl _ staleTtl) =>
      InBounds longest ttl ∧ (0 < staleTtl → staleTtl ≤ settings.staleCacheSeconds)
  | .access (.setNegative _ _ _ ttl) => InBounds longest ttl
  | .coalesce _ phase => ∀ response, arrival phase = some response → Lasts longest response
  | _ => True

def LifetimeProvided : (await : Await) → await.Reply → Prop
  | .access (.getTtl _), reply => ∀ ttl, reply = some ttl → InBounds longest ttl
  | .access _, _ => True
  | .coalesce _ _, next => ∀ response, arrival next = some response → Lasts longest response
  | .lead _ _ _ _, next => ∀ response, arrival next = some response → Lasts longest response
  | .fetch _ _, response => Lasts longest response

/-- A task asks for lifetimes within the bounds when the responses that it receives last. -/
def lifetimeContract : Contract awaits Unit where
  mayFail := True
  grows _ _ := True
  grows_refl _ := trivial
  grows_trans _ _ := trivial
  requires _ := LifetimeOwed settings longest
  provides _ := LifetimeProvided longest

end Contract

variable {libraries : Libraries} {settings : Settings} {longest : Nat}

/-- Within the bounds Redis takes a `cache.set`. -/
theorem setSucceeds_of_inBounds {redis : Redis} (roomy : Roomy settings longest redis.now) {ttl : Int}
    {staleTtl : Int} (bounds : InBounds longest ttl) (etag : Option PyStr)
    (copied : 0 < staleTtl → staleTtl ≤ settings.staleCacheSeconds) :
    redis.setSucceeds ttl etag staleTtl = true := by
  obtain ⟨positive, bounded⟩ := bounds
  unfold Roomy at roomy
  have taken (ex : Int) (low : 0 < ex) (high : ex ≤ longest + max 60 settings.staleCacheSeconds) :
      redis.accepts ex = true := by
    unfold Redis.accepts acceptsAt
    simp only [Bool.and_eq_true, decide_eq_true_eq]
    omega
  apply List.all_eq_true.mpr
  intro ex member
  unfold Redis.lifetimes at member
  simp only [List.mem_append, List.mem_singleton] at member
  rcases member with (rfl | member) | member
  · exact taken ex positive (by omega)
  · split_ifs at member with kept
    · obtain rfl := List.mem_singleton.mp member
      have := copied kept
      exact taken _ (by omega) (by omega)
    · cases member
  · split_ifs at member
    · cases member
    · obtain rfl := List.mem_singleton.mp member
      exact taken _ (by omega) (by omega)

theorem accepts_of_inBounds {redis : Redis} (roomy : Roomy settings longest redis.now) {ttl : Int}
    (bounds : InBounds longest ttl) : redis.accepts ttl = true := by
  obtain ⟨positive, bounded⟩ := bounds
  unfold Roomy at roomy
  unfold Redis.accepts acceptsAt
  simp only [Bool.and_eq_true, decide_eq_true_eq]
  omega

/-- The stale copy of a payload lasts as long as the settings say. -/
theorem staleTtlForPayload_le (settings : Settings) (body : Bytes)
    (copied : 0 < staleTtlForPayload settings body) :
    staleTtlForPayload settings body ≤ settings.staleCacheSeconds := by
  unfold staleTtlForPayload at copied ⊢
  split_ifs at copied ⊢
  · cases copied
  · exact le_refl _

/-- The lifetime of a 200 is within the bounds. -/
theorem lifetimeOr300_inBounds (default : 300 ≤ longest) {response : EsiResponse}
    (lasts : Lasts longest response) (ok : response.status = 200) :
    InBounds longest (lifetimeOr300 response.maxAge) := by
  cases stated : response.maxAge with
  | none => exact ⟨by decide, Int.ofNat_le.mpr default⟩
  | some maxAge =>
      have bounded := (lasts maxAge stated).1 (.inl ok)
      change InBounds longest (if maxAge = 0 then 300 else (maxAge : Int))
      unfold InBounds
      split_ifs <;> omega

section Tasks
variable (default : 300 ≤ longest) (negative : settings.negativeCacheTtlSeconds ≤ longest)

theorem settled_lasting {leader : Bool} {outcome : Coalesce.Outcome EsiResponse Unit}
    (lasts : ∀ response, outcome = .returned response → Lasts longest response) :
    (settled leader outcome).Safe (lifetimeContract settings longest)
      (fun _ result => Lasts longest result.1) () := by
  cases outcome with
  | returned response => exact Program.safe_done fun _ _ => lasts response rfl
  | raised | cancelled => trivial

theorem landed_lasting {phase : Flight}
    (lasts : ∀ response, arrival phase = some response → Lasts longest response) :
    (landed phase).Safe (lifetimeContract settings longest)
      (fun _ result => Lasts longest result.1) () := by
  cases phase with
  | led future outcome | shared future outcome =>
      apply settled_lasting
      rintro response rfl
      exact lasts response rfl
  | joining | leading | waiting | releasing | abandoned => trivial

theorem coalesce_lasting (key : PyStr) (call : UpstreamCall) (etag : Option PyStr) :
    (coalesce key call etag).Safe (lifetimeContract settings longest)
      (fun _ result => Lasts longest result.1) () := by
  apply Program.safe_perform (fun _ _ response arrived => by cases arrived)
  intro _ phase _ _
  cases phase with
  | leading future =>
      apply Program.safe_perform (fun _ _ => trivial)
      intro _ phase _ led
      exact Program.safe_perform (fun _ _ => led) fun _ next _ learned => landed_lasting learned
  | waiting future =>
      exact Program.safe_perform (fun _ _ response arrived => by cases arrived)
        fun _ next _ learned => landed_lasting learned
  | joining | releasing | led | shared | abandoned => trivial

theorem archiveResponse_lasting (prepared : Prepared) (response : EsiResponse) :
    (archiveResponse libraries prepared response).Safe (lifetimeContract settings longest)
      (fun _ _ => True) () := by
  have names (recorded : Bool) :
      (recordNames prepared response recorded).Safe (lifetimeContract settings longest)
        (fun _ _ => True) () := by
    cases recorded with
    | false => exact Program.safe_done fun _ _ => trivial
    | true =>
        unfold recordNames
        split_ifs
        · exact Program.safe_perform (fun _ _ => trivial) fun _ _ _ _ =>
            Program.safe_done fun _ _ => trivial
        · exact Program.safe_done fun _ _ => trivial
  unfold archiveResponse recordResponse
  split_ifs
  · exact names true
  · rw [access_bind]
    exact Program.safe_perform (fun _ _ => trivial) fun _ recorded _ _ => names recorded

include default negative

theorem answered_lasting (prepared : Prepared) {response : EsiResponse} (leader : Bool)
    (lasts : Lasts longest response) :
    (answered libraries settings prepared response leader).Safe (lifetimeContract settings longest)
      (fun _ _ => True) () := by
  unfold answered
  split_ifs with ok degrades redirects
  · cases leader with
    | false => exact Program.safe_done fun _ _ => trivial
    | true =>
        apply Program.safe_perform
        · exact fun _ _ => ⟨lifetimeOr300_inBounds default lasts ok, staleTtlForPayload_le settings _⟩
        · intro _ _ _ _
          exact (archiveResponse_lasting prepared response).bind fun _ _ _ _ =>
            Program.safe_done fun _ _ => trivial
  · apply Program.safe_perform (fun _ _ => trivial)
    intro _ stale _ _
    cases stale with
    | some body => exact Program.safe_done fun _ _ => trivial
    | none =>
        exact Program.safe_perform (fun _ _ => trivial) fun _ _ _ _ =>
          Program.safe_done fun _ _ => trivial
  · exact Program.safe_done fun _ _ => trivial
  · unfold cacheNegative
    split_ifs with cached
    · obtain ⟨low, high, other, positive⟩ := cached
      refine Program.safe_perform (fun _ _ => ⟨positive, ?_⟩) fun _ _ _ _ =>
        Program.safe_done fun _ _ => trivial
      unfold negativeTtl
      cases stated : response.maxAge with
      | none => exact negative
      | some maxAge =>
          have refused : Negative response.status := ⟨low, high, fun same => degrades (.inl same), other⟩
          exact Int.ofNat_le.mpr ((lasts maxAge stated).1 (.inr (.inr refused)))
    · exact Program.safe_done fun _ _ => trivial

theorem revalidated_lasting (prepared : Prepared) (stored : Option PyStr) {response : EsiResponse}
    (leader : Bool) (restored : Option Bytes) (stale : response.notModified = true)
    (lasts : Lasts longest response) :
    (revalidated libraries settings prepared stored response leader restored).Safe
      (lifetimeContract settings longest) (fun _ _ => True) () := by
  cases restored with
  | none =>
      exact (coalesce_lasting _ _ none).bind fun _ result _ again =>
        answered_lasting default negative prepared result.2 again
  | some body =>
      have written (ttl : Int) (bounds : InBounds longest ttl) :
          (rewrite settings prepared stored response body ttl leader >>= fun _ =>
            (.done ⟨200, body, .miss, text "application/json", none⟩ : Pipeline ProxyResult)).Safe
            (lifetimeContract settings longest) (fun _ _ => True) () := by
        cases leader with
        | false => exact Program.safe_done fun _ _ => trivial
        | true =>
            exact Program.safe_perform (fun _ _ => ⟨bounds, staleTtlForPayload_le settings body⟩)
              fun _ _ _ _ => Program.safe_done fun _ _ => trivial
      have ttlSafe : (restoredTtl prepared response.maxAge).Safe (lifetimeContract settings longest)
          (fun _ ttl => InBounds longest ttl) () := by
        cases stated : response.maxAge with
        | some maxAge =>
            obtain ⟨bounded, nonzero⟩ := lasts maxAge stated
            have bounded := bounded (.inr (.inl stale))
            have nonzero := nonzero stale
            exact Program.safe_done fun _ _ => ⟨by omega, by exact_mod_cast bounded⟩
        | none =>
            apply Program.safe_perform (fun _ _ => trivial)
            intro _ prior _ known
            apply Program.safe_done
            intro _ _
            cases prior with
            | none =>
                change InBounds longest 300
                exact ⟨by decide, Int.ofNat_le.mpr default⟩
            | some ttl =>
                have bounds := known ttl rfl
                have nonzero : ttl ≠ 0 := by
                  rintro rfl
                  exact absurd bounds.1 (by decide)
                simpa only [if_neg nonzero] using bounds
      exact ttlSafe.bind fun _ ttl _ bounds => written ttl bounds

theorem lookup_lasting (prepared : Prepared) :
    (lookup libraries settings prepared).Safe (lifetimeContract settings longest)
      (fun _ _ => True) () := by
  apply Program.safe_perform (fun _ _ => trivial)
  intro _ cached _ _
  cases cached with
  | some body => exact Program.safe_done fun _ _ => trivial
  | none =>
      apply Program.safe_perform (fun _ _ => trivial)
      intro _ refused _ _
      cases refused with
      | some body => exact Program.safe_done fun _ _ => trivial
      | none =>
          apply Program.safe_perform (fun _ _ => trivial)
          intro _ stored _ _
          apply (coalesce_lasting _ _ stored).bind
          intro _ result _ lasts
          unfold fetched
          split_ifs with stale
          · exact Program.safe_perform (fun _ _ => trivial) fun _ restored _ _ =>
              revalidated_lasting default negative prepared stored result.2 restored stale lasts
          · exact answered_lasting default negative prepared result.2 lasts

omit negative in
theorem fetchAndStore_lasting (datasource : PyStr) (job : Job) :
    (fetchAndStore libraries settings datasource job).Safe (lifetimeContract settings longest)
      (fun _ _ => True) () := by
  apply Program.safe_perform (fun _ _ => trivial)
  intro _ response _ lasts
  change (collected libraries settings datasource job response).Safe _ _ ()
  unfold collected
  split_ifs with failed
  · exact Program.safe_done fun _ _ => trivial
  have bounds := lifetimeOr300_inBounds default lasts (not_not.mp failed)
  have aliases (versions : List PyStr) :
      (warmAliases libraries settings datasource job response versions).Safe
        (lifetimeContract settings longest) (fun _ _ => True) () := by
    induction versions with
    | nil => exact Program.safe_done fun _ _ => trivial
    | cons version rest ih =>
        unfold warmAliases
        split_ifs
        · exact ih
        · exact Program.safe_perform (fun _ _ => ⟨bounds, staleTtlForPayload_le settings _⟩)
            fun _ _ _ _ => ih
  apply Program.safe_perform
  · exact fun _ _ => ⟨bounds, staleTtlForPayload_le settings _⟩
  · intro _ _ _ _
    exact (aliases _).bind fun _ _ _ _ => Program.safe_perform (fun _ _ => trivial) fun _ _ _ _ =>
      Program.safe_done fun _ _ => trivial

theorem launch_lasting (task : Task) :
    (task.launch libraries settings).Safe (lifetimeContract settings longest) (fun _ _ => True) () := by
  cases task with
  | collect job =>
      exact (fetchAndStore_lasting default _ job).bind fun _ _ _ _ =>
        Program.safe_done fun _ _ => trivial
  | proxy request =>
      have served : (dispatch libraries settings request).Safe (lifetimeContract settings longest)
          (fun _ _ => True) () := by
        unfold dispatch
        split
        · exact Program.safe_done fun _ _ => trivial
        · exact lookup_lasting default negative _
      exact served.bind fun _ _ _ _ => Program.safe_done fun _ _ => trivial

end Tasks

/-- The clock is roomy, and every lifetime that Redis remembers is within the bounds. -/
structure Redis.Bounded (settings : Settings) (longest : Nat) (redis : Redis) : Prop where
  roomy : Roomy settings longest redis.now
  prior : ∀ key entry, redis.ttl key = some entry → InBounds longest entry.value

/-- This is the invariant of the shared state. -/
structure World.Bounded (settings : Settings) (longest : Nat) (world : World) : Prop where
  redis : world.stores.redis.Bounded settings longest
  flights : ∀ key future response,
    world.table.futures key future = .resolved (.ok response) → Lasts longest response

theorem set_bounded {redis : Redis} (bounded : redis.Bounded settings longest) (key : PyStr)
    (body : Bytes) {ttl : Int} (bounds : InBounds longest ttl) (etag : Option PyStr) (staleTtl : Int) :
    (redis.set libraries settings key body ttl etag staleTtl).Bounded settings longest := by
  refine ⟨bounded.roomy, fun other entry stored => ?_⟩
  change (if etag.getD [] = [] then redis.ttl.erase key
    else redis.setEx redis.ttl key ttl (ttl + 60)) other = some entry at stored
  split_ifs at stored
  · rw [TimedStore.erase_apply] at stored
    split_ifs at stored
    exact bounded.prior other entry stored
  · rcases setEx_some stored with ⟨_, _, rfl⟩ | ⟨stored, _⟩
    · exact bounds
    · exact bounded.prior other entry stored

theorem setNames_bounded {redis : Redis} (bounded : redis.Bounded settings longest)
    (datasource : PyStr) (items : List (PyStr × PyStr × PyStr)) :
    (redis.setNames datasource items).Bounded settings longest := by
  unfold Redis.setNames
  induction items generalizing redis with
  | nil => exact bounded
  | cons item items ih =>
      rw [List.foldl_cons]
      exact ih ⟨bounded.roomy, bounded.prior⟩

theorem access_bounded {world : World} (bounded : world.Bounded settings longest) (now : Datetime)
    (fault : Option Nat) (call : Access) (owed : LifetimeOwed settings longest (.access call)) :
    (World.record { world with
        stores := (world.stores.perform libraries settings now fault call).2 } call
      (world.stores.perform libraries settings now fault call).1).Bounded settings longest ∧
    ∀ reply, (world.stores.perform libraries settings now fault call).1 = some reply →
      LifetimeProvided longest (.access call) reply := by
  have named (program : Transaction Unit) :
      (world.stores.transact libraries fault program).2.redis.Bounded settings longest :=
    transact_cache (Redis.Bounded settings longest)
      (fun _ datasource items kept => setNames_bounded kept datasource items) fault program
      world.stores.session bounded.redis
  cases call with
  | get | getNegative | getEtag | getStale | getLatestPayload =>
      exact ⟨bounded, fun _ _ => trivial⟩
  | restoreStale key etag =>
      refine ⟨?_, fun _ _ => trivial⟩
      unfold World.record
      split
      · exact ⟨bounded.redis, bounded.flights⟩
      · exact bounded
  | getTtl key =>
      refine ⟨bounded, fun reply replied ttl same => ?_⟩
      cases replied
      obtain ⟨deadline, stored, _⟩ := TimedStore.read_eq_some.mp same
      exact bounded.redis.prior key _ stored
  | set key body ttl etag staleTtl =>
      exact ⟨⟨set_bounded bounded.redis key body owed.1 etag staleTtl, bounded.flights⟩,
        fun _ _ => trivial⟩
  | setNegative key body status ttl =>
      exact ⟨⟨⟨bounded.redis.roomy, bounded.redis.prior⟩, bounded.flights⟩, fun _ _ => trivial⟩
  | writeSnapshot observed => exact ⟨⟨named _, bounded.flights⟩, fun _ _ => trivial⟩
  | writeNames datasource payload => exact ⟨⟨named _, bounded.flights⟩, fun _ _ => trivial⟩

/-- A step of the coalescer keeps the bounds when its leader settles with a response that lasts. -/
theorem advance_bounded {world : World} (bounded : world.Bounded settings longest) {key : PyStr}
    {phase : Flight} {event : Coalesce.Event EsiResponse Unit} {result : Option Flight × World}
    (settles : ∀ response, event = .settle (.returned response) → Lasts longest response)
    (owed : ∀ response, arrival phase = some response → Lasts longest response)
    (moved : world.advance key phase event = some result) :
    result.2.Bounded settings longest ∧ ∃ next, result.1 = some next ∧
      ∀ response, arrival next = some response → Lasts longest response := by
  obtain ⟨⟨table, next⟩, advanced, rfl⟩ := Option.map_eq_some_iff.mp moved
  refine ⟨⟨bounded.redis, fun other target response resolved => ?_⟩, next, rfl, fun response arrived => ?_⟩
  · rcases advance_futures advanced resolved with old | ⟨_, settled⟩
    · exact bounded.flights other target response old
    · exact settles response settled
  · by_cases unsettled : ∀ outcome, event ≠ .settle outcome
    · rcases advance_arrival unsettled advanced arrived with old | ⟨future, resolved⟩
      · exact owed response old
      · exact bounded.flights key future response resolved
    · obtain ⟨outcome, rfl⟩ := not_forall_not.mp unsettled
      apply settles
      cases Coalesce.advance_move advanced with
      | settle future outcome =>
          cases outcome with
          | returned value => exact congrArg _ (congrArg _ (Option.some.inj arrived))
          | raised | cancelled => cases arrived

theorem perform_bounded {world : World} (bounded : world.Bounded settings longest)
    (circumstance : Circumstance) (await : Await) (result : Option await.Reply × World)
    (owed : LifetimeOwed settings longest await)
    (lasts : ∀ upstream, circumstance = .answers upstream → ∀ response,
      await.received libraries upstream = some response → Lasts longest response)
    (moved : world.perform libraries settings circumstance await = some result) :
    result.2.Bounded settings longest ∧
      ∀ reply, result.1 = some reply → LifetimeProvided longest await reply := by
  cases await with
  | access call =>
      cases circumstance with
      | proceeds now fault =>
          cases moved
          exact access_bounded bounded now fault call owed
      | answers upstream => cases moved
      | raises | cancelled =>
          cases moved
          exact ⟨bounded, nofun⟩
  | coalesce key phase =>
      cases circumstance with
      | proceeds | cancelled =>
          obtain ⟨kept, next, replied, lasting⟩ := advance_bounded bounded
            (fun _ settled => by cases settled) owed moved
          refine ⟨kept, fun reply answered => ?_⟩
          obtain rfl := Option.some.inj (replied.symm.trans answered)
          exact lasting
      | answers | raises => cases moved
  | lead key future call etag =>
      have led (start : World) (outcome : Coalesce.Outcome EsiResponse Unit)
          (kept : start.Bounded settings longest)
          (settles : ∀ response, outcome = .returned response → Lasts longest response)
          (moved : start.advance key (.leading future) (.settle outcome) = some result) :
          result.2.Bounded settings longest ∧ ∀ reply, result.1 = some reply →
            LifetimeProvided longest (.lead key future call etag) reply := by
        obtain ⟨kept, next, replied, lasting⟩ := advance_bounded kept
          (fun response settled => settles response (by cases settled; rfl))
          (fun _ arrived => by cases arrived) moved
        refine ⟨kept, fun reply answered => ?_⟩
        obtain rfl := Option.some.inj (replied.symm.trans answered)
        exact lasting
      cases circumstance with
      | proceeds => cases moved
      | answers upstream =>
          have logged : (world.log ⟨call, etag, upstream⟩).Bounded settings longest :=
            ⟨bounded.redis, bounded.flights⟩
          refine led _ (.returned _) logged (fun response returned => ?_) moved
          cases returned
          exact lasts upstream rfl _ rfl
      | raises | cancelled => exact led world _ bounded (fun _ returned => by cases returned) moved
  | fetch call etag =>
      cases circumstance with
      | proceeds => cases moved
      | answers upstream =>
          cases moved
          refine ⟨⟨bounded.redis, bounded.flights⟩, fun reply same => ?_⟩
          cases same
          exact lasts upstream rfl _ rfl
      | raises | cancelled =>
          cases moved
          exact ⟨bounded, fun _ replied => by cases replied⟩

theorem service_bounded (default : 300 ≤ longest)
    (negative : settings.negativeCacheTtlSeconds ≤ longest) :
    (service libraries settings).Keeps (lifetimeContract settings longest) (fun _ => ())
      (fun _ _ => True) (World.Bounded settings longest) (AnswersLast libraries settings longest) where
  launched pool thread task _ _ := launch_lasting default negative task
  performed pool thread circumstance await next result bounded allowed found owed moved := by
    obtain ⟨kept, provided⟩ := perform_bounded bounded circumstance await result owed
      (fun upstream same response => by
        subst same
        exact allowed await next response found) moved
    exact ⟨kept, trivial, provided, fun _ => trivial⟩
  outside pool event bounded allowed := by
    cases event with
    | pass milliseconds =>
        exact ⟨⟨⟨allowed, bounded.redis.prior⟩, bounded.flights⟩, trivial⟩
    | revise call etag => exact ⟨⟨bounded.redis, bounded.flights⟩, trivial⟩

/-- The service starts with empty stores at a time with room for the longest lifetime. -/
def World.Young (settings : Settings) (longest : Nat) (world : World) : Prop :=
  world.Fresh ∧ Roomy settings longest world.stores.redis.now

/-- In a run whose responses last Redis takes every lifetime for which a task asks. -/
theorem taken_of_answersLast (default : 300 ≤ longest)
    (negative : settings.negativeCacheTtlSeconds ≤ longest) {state : Service}
    (reached : ((service libraries settings).machine (World.Young settings longest)).Guarded
      (AnswersLast libraries settings longest) state) {thread : Nat} {call : Access}
    {next : call.Reply → Pipeline Result}
    (standing : state.threads thread = some (.perform (.access call) next)) :
    Taken state.shared.stores.redis call := by
  obtain ⟨bounded, safe⟩ := (service_bounded default negative).guarded (fun world young => by
    obtain ⟨⟨⟨now, redis⟩, _, table, _⟩, roomy⟩ := young
    refine ⟨⟨roomy, fun key entry stored => ?_⟩, fun key future response resolved => ?_⟩
    · rw [redis] at stored
      cases stored
    · rw [table] at resolved
      cases resolved) reached
  have owed : LifetimeOwed settings longest (.access call) := (safe thread _ standing () trivial).1
  cases call with
  | set key body ttl etag staleTtl => exact setSucceeds_of_inBounds bounded.redis.roomy owed.1 etag owed.2
  | setNegative key body status ttl => exact accepts_of_inBounds bounded.redis.roomy owed
  | get | getNegative | getEtag | getStale | restoreStale | getTtl | writeSnapshot | writeNames
  | getLatestPayload => trivial

/-- A response states the lifetime of its first page or none. -/
theorem respond_maxAge (libraries : Libraries) (method : Method) (etag : Option PyStr)
    (first : HttpResponse) (pages : Nat → Option HttpResponse) {maxAge : Nat}
    (stated : (respond libraries method etag (.answered first pages)).maxAge = some maxAge) :
    first.maxAge = some maxAge := by
  unfold respond at stated
  dsimp only at stated
  split_ifs at stated
  · exact stated
  · exact stated
  · unfold paginated pagesResponse at stated
    split_ifs at stated
    · split at stated
      · exact stated
      · cases stated
    · exact stated

section Fetches
variable {parsedate : PyStr → Option HttpDate}

/-- The service stores these statuses, or they restore what is stored. -/
def Stored (status : Nat) : Prop := status = 200 ∨ status = 304 ∨ Negative status

/-- The freshness of a 200 or a 304 can be read, a stored response states no lifetime beyond the
longest, and a 304 states none of zero. -/
structure StatesLifetime (parsedate : PyStr → Option HttpDate) (longest : Nat) (received : Datetime)
    (response : RawResponse) : Prop where
  fits : response.status = 200 ∨ response.status = 304 →
    FreshnessFits parsedate received response.headers
  bounded : ∀ maxAge, parseMaxAge parsedate received response.headers = some (some maxAge) →
    Stored response.status → maxAge ≤ longest
  nonzero : response.status = 304 → parseMaxAge parsedate received response.headers ≠ some (some 0)

/-- In a lasting run every response states a lifetime that can be kept, and the clock stays roomy. -/
def Lasting (settings : Settings) (parsedate : PyStr → Option HttpDate) (longest : Nat)
    (service : Service) : EsiAction → Prop
  | .proceed _ (.fetches breaker answers) => breaker.blocked answers.called = false →
      ∀ response, (requestWithRetries settings answers.first).ending = .returned response →
        StatesLifetime parsedate longest answers.received response
  | .outside (.pass milliseconds) =>
      Roomy settings longest (service.shared.stores.redis.now + milliseconds)
  | _ => True

/-- The pages of a fetch begin with the response of its request. -/
theorem upstream_answered {breaker : Breaker} {answers : EsiAnswers} {first : HttpResponse}
    {pages : Nat → Option HttpResponse}
    (found : answers.upstream settings parsedate breaker = some (.answered first pages)) :
    breaker.blocked answers.called = false ∧ ∃ response,
      (requestWithRetries settings answers.first).ending = .returned response ∧
        response.received parsedate answers.received = some first := by
  unfold EsiAnswers.upstream at found
  split_ifs at found with blocked
  · cases found
  · refine ⟨Bool.eq_false_iff.mpr blocked, ?_⟩
    cases ended : (requestWithRetries settings answers.first).ending with
    | unreachable | raised | asserted =>
        rw [ended] at found
        cases found
    | returned response =>
        rw [ended] at found
        obtain ⟨other, received, same⟩ := Option.map_eq_some_iff.mp found
        cases same
        exact ⟨response, rfl, received⟩

/-- A received page has the status of its response and the lifetime that was read. -/
theorem received_lifetime {response : RawResponse} {now : Datetime} {first : HttpResponse}
    (received : response.received parsedate now = some first) :
    first.status = response.status ∧
      parseMaxAge parsedate now response.headers = some first.maxAge := by
  unfold RawResponse.received at received
  split at received
  · rename_i maxAge expiresAt read _
    cases received
    exact ⟨rfl, read⟩
  · cases received

/-- A response that is stored, or restores what is stored, has the status of its first page. -/
theorem respond_storable {method : Method} {etag : Option PyStr} {first : HttpResponse}
    {pages : Nat → Option HttpResponse}
    (storable : Storable (respond libraries method etag (.answered first pages))) :
    Stored first.status := by
  unfold respond at storable
  dsimp only at storable
  split_ifs at storable with stale passed
  · exact .inr (.inl stale)
  · rcases storable with ok | marked | refused
    · exact .inl ok
    · cases marked
    · exact .inr (.inr refused)
  · exact .inl (not_not.mp fun failed => passed (.inl failed))

theorem Lasting.seen {state : Service} {action : EsiAction} {other : ServiceAction}
    (lasting : Lasting settings parsedate longest state action)
    (seen : sees settings parsedate state action = some other) :
    AnswersLast libraries settings longest state other := by
  cases other with
  | start thread task => trivial
  | outside event =>
      obtain rfl := sees_outside seen
      cases event with
      | pass milliseconds => exact lasting
      | revise => trivial
  | proceed thread circumstance =>
      cases circumstance with
      | proceeds | raises | cancelled => trivial
      | answers upstream =>
          obtain ⟨breaker, answers, rfl, found⟩ := sees_answers seen
          intro await next response _ received
          obtain ⟨method, etag, rfl⟩ : ∃ method etag,
              respond libraries method etag upstream = response := by
            cases await with
            | access | coalesce => cases received
            | lead | fetch =>
                cases received
                exact ⟨_, _, rfl⟩
          intro maxAge stated
          cases upstream with
          | blocked | unreachable => cases stated
          | answered first pages =>
              obtain ⟨open_, raw, ended, received⟩ := upstream_answered found
              obtain ⟨same, read⟩ := received_lifetime received
              have lasts := lasting open_ raw ended
              have age := respond_maxAge libraries method etag first pages stated
              rw [age] at read
              constructor
              · intro storable
                exact lasts.bounded maxAge read (same ▸ respond_storable storable)
              · rintro marked rfl
                have stale := (respond_notModified libraries method etag _ marked).2
                have status : first.status = 304 := by
                  unfold respond at stale marked
                  dsimp only at stale marked
                  split_ifs at stale marked with status
                  · exact status
                  · cases marked
                  · unfold paginated pagesResponse at marked
                    split_ifs at marked
                    · split at marked <;> cases marked
                    · cases marked
                exact lasts.nonzero (same.symm.trans status) read

/-- A fetch that returns continues its await with the response. -/
def Await.Continues : (await : Await) → EsiResponse → await.Reply → Prop
  | .lead _ future _ _, response, reply => reply = .releasing future (.returned response)
  | .fetch _ _, response, reply => reply = response
  | _, _, _ => False

/-- These calls write lifetimes to Redis. -/
def Access.Writes : Access → Prop
  | .set _ _ _ _ _ => True
  | .setNegative _ _ _ _ => True
  | _ => False

/-- Redis takes every lifetime for which a task asks, and the write returns. A fetch that the run may
make returns a response for every 200 and 304. -/
structure LifetimesTaken (libraries : Libraries) (settings : Settings)
    (parsedate : PyStr → Option HttpDate) (longest : Nat) (state : Service) : Prop where
  taken : ∀ thread call next, state.threads thread = some (.perform (.access call) next) →
    Taken state.shared.stores.redis call
  written : ∀ thread call next, state.threads thread = some (.perform (.access call) next) →
    call.Writes → ∀ now fault, ∃ after reply,
      (esiService libraries settings parsedate).step state (.proceed thread (.proceeds now fault)) =
          some after ∧ after.threads thread = some (next reply)
  fetched : ∀ thread await next method etag breaker answers response,
    state.threads thread = some (.perform await next) → await.asks = some (method, etag) →
    Lasting settings parsedate longest state (.proceed thread (.fetches breaker answers)) →
    breaker.blocked answers.called = false →
    (requestWithRetries settings answers.first).ending = .returned response →
    response.status = 200 ∨ response.status = 304 → ∃ answer after reply,
      fetch settings libraries parsedate breaker method.upper etag answers = .returned answer ∧
        (esiService libraries settings parsedate).step state
            (.proceed thread (.fetches breaker answers)) = some after ∧
        await.Continues answer reply ∧ after.threads thread = some (next reply)

/-- A task goes on with the response to the pages that its fetch sees. -/
theorem step_fetches {state : Service} {thread : Nat} {await : Await}
    {next : await.Reply → Pipeline Result} {method : Method} {etag : Option PyStr}
    (standing : state.threads thread = some (.perform await next))
    (asks : await.asks = some (method, etag)) {breaker : Breaker} {answers : EsiAnswers}
    {upstream : Upstream} (found : answers.upstream settings parsedate breaker = some upstream) :
    ∃ after reply, (esiService libraries settings parsedate).step state
        (.proceed thread (.fetches breaker answers)) = some after ∧
      await.Continues (respond libraries method etag upstream) reply ∧
      after.threads thread = some (next reply) := by
  cases await with
  | access | coalesce => cases asks
  | lead key future call sent =>
      cases asks
      obtain ⟨after, moved, goes⟩ := step_lead standing breaker answers
      rw [found] at goes
      exact ⟨after, _, moved, rfl, goes⟩
  | fetch call sent =>
      cases asks
      have seen : sees settings parsedate state (.proceed thread (.fetches breaker answers)) =
          some (.proceed thread (.answers upstream)) := by
        rw [sees_fetches standing rfl]
        unfold fetchCircumstance
        rw [found]
      rw [esiService_step, seen, Option.bind_some]
      have performed : state.shared.perform libraries settings (.answers upstream)
          (.fetch call etag) = some (some (respond libraries call.method etag upstream),
            state.shared.log ⟨call, etag, upstream⟩) := rfl
      exact ⟨_, _, System.step_perform (service libraries settings) standing
        (show (service libraries settings).perform (.answers upstream) _ state.shared = _
          from performed), rfl, System.answer_threads ..⟩

/-- A write whose lifetimes Redis takes returns. -/
theorem step_writes {state : Service} {thread : Nat} {call : Access}
    {next : call.Reply → Pipeline Result}
    (standing : state.threads thread = some (.perform (.access call) next)) (writes : call.Writes)
    (taken : Taken state.shared.stores.redis call) (now : Datetime) (fault : Option Nat) :
    ∃ after reply, (esiService libraries settings parsedate).step state
        (.proceed thread (.proceeds now fault)) = some after ∧
      after.threads thread = some (next reply) := by
  rw [esi_proceeds standing]
  obtain ⟨reply, replied⟩ : ∃ reply,
      (state.shared.stores.perform libraries settings now fault call).1 = some reply := by
    cases call with
    | set key body ttl etag staleTtl => exact ⟨(), if_pos taken⟩
    | setNegative key body status ttl => exact ⟨(), if_pos taken⟩
    | get | getNegative | getEtag | getStale | restoreStale | getTtl | writeSnapshot | writeNames
    | getLatestPayload => exact writes.elim
  have performed : state.shared.perform libraries settings (.proceeds now fault) (.access call) =
      some (some reply, World.record { state.shared with
        stores := (state.shared.stores.perform libraries settings now fault call).2 } call
          (some reply)) := by
    rw [← replied]
    rfl
  exact ⟨_, reply, System.step_perform (service libraries settings) standing
    (show (service libraries settings).perform (.proceeds now fault) _ state.shared = _
      from performed), System.answer_threads ..⟩

/-- In every lasting run Redis takes every lifetime for which a task asks, and no 200 or 304 raises by
its freshness. -/
theorem service_lifetimes (default : 300 ≤ longest)
    (negative : settings.negativeCacheTtlSeconds ≤ longest) {state : Service}
    (reached : ((esiService libraries settings parsedate).machine
      (World.Young settings longest)).Guarded (Lasting settings parsedate longest) state) :
    LifetimesTaken libraries settings parsedate longest state := by
  have taken (thread : Nat) (call : Access) (next : call.Reply → Pipeline Result)
      (standing : state.threads thread = some (.perform (.access call) next)) :
      Taken state.shared.stores.redis call :=
    taken_of_answersLast default negative
      (esi_guarded (fun _ _ _ lasting seen => lasting.seen seen) reached) standing
  refine ⟨taken, fun thread call next standing writes now fault =>
    step_writes standing writes (taken thread call next standing) now fault, ?_⟩
  intro thread await next method etag breaker answers response standing asks lasting idle ended status
  have fits := (lasting idle response ended).fits status
  obtain ⟨first, received⟩ :=
    Option.isSome_iff_exists.mp ((received_iff parsedate answers.received response).mpr fits)
  have found : answers.upstream settings parsedate breaker = some (.answered first fun page =>
      pageAnswer settings (answers.pages page)) := by
    unfold EsiAnswers.upstream
    rw [idle, if_neg Bool.false_ne_true, ended]
    dsimp only
    rw [received]
    rfl
  obtain ⟨after, reply, moved, continues, goes⟩ := step_fetches standing asks found
  exact ⟨_, after, reply, (fetch_returned settings libraries parsedate).mpr ⟨_, found, rfl⟩, moved,
    continues, goes⟩

end Fetches

/-- One request stores a body with an ETag. The body expires, and another request revalidates it. -/
def revalidationSchedule (response : RawResponse) : List EsiAction :=
  [.start 0 (.proxy (plainRequest (text "/v1/status/"))), movesOn 0, movesOn 0, movesOn 0, movesOn 0,
    asksEsi 0 (taggedResponse 200 (bytes "[]") (text "max-age=300")), movesOn 0, movesOn 0,
    .outside (.pass 301000), .start 1 (.proxy (plainRequest (text "/v1/status/"))), movesOn 1,
    movesOn 1, movesOn 1, movesOn 1, asksEsi 1 response, movesOn 1, movesOn 1]

/-- This function checks that a step leaves the clock roomy. -/
def staysRoomy (settings : Settings) (longest : Nat) (service : Service) : EsiAction → Bool
  | .outside (.pass milliseconds) =>
      (service.shared.stores.redis.now + milliseconds : Int) +
        1000 * (longest + max 60 settings.staleCacheSeconds) < 2 ^ 63
  | _ => true

theorem lasting_of_staysRoomy {parsedate : PyStr → Option HttpDate} {service : Service}
    {milliseconds : Nat}
    (roomy : staysRoomy settings longest service (.outside (.pass milliseconds)) = true) :
    Lasting settings parsedate longest service (.outside (.pass milliseconds)) := by
  have roomy := of_decide_eq_true roomy
  unfold Lasting Roomy
  push_cast
  exact roomy

/-- The thread stands before a `cache.set` with some lifetime. -/
def setsFor (thread : Nat) (ttl : Int) (state : Service) : Bool :=
  match state.threads thread with
  | some (.perform (.access (.set _ _ asked _ _)) _) => asked = ttl
  | _ => false

theorem standing_of_setsFor {thread : Nat} {ttl : Int} {state : Service}
    (sets : setsFor thread ttl state = true) :
    ∃ key body etag staleTtl next,
      state.threads thread = some (.perform (.access (.set key body ttl etag staleTtl)) next) := by
  unfold setsFor at sets
  split at sets
  · rename_i key body asked etag staleTtl next found
    obtain rfl := of_decide_eq_true sets
    exact ⟨key, body, etag, staleTtl, next, found⟩
  · cases sets

/-- A response with a lifetime of five minutes states one that can be kept. -/
theorem statesLifetime_short (status : Nat) (content : Bytes) :
    StatesLifetime undated 3600 ⟨2026, 6, 1, 12, 0, 0, 0⟩
      (taggedResponse status content (text "max-age=300")) := by
  have read : parseMaxAge undated ⟨2026, 6, 1, 12, 0, 0, 0⟩
      (taggedResponse status content (text "max-age=300")).headers = some (some 300) := by
    have closed : parseMaxAge undated ⟨2026, 6, 1, 12, 0, 0, 0⟩
        (taggedResponse 200 [] (text "max-age=300")).headers = some (some 300) := by
      decide +kernel
    exact closed
  have kept : ((taggedResponse 200 [] (text "max-age=300")).received undated
      ⟨2026, 6, 1, 12, 0, 0, 0⟩).isSome = true := by decide +kernel
  refine ⟨fun _ => (received_iff _ _ (taggedResponse 200 [] (text "max-age=300"))).mp kept, ?_, ?_⟩
  · intro maxAge stated _
    cases Option.some.inj (Option.some.inj (read.symm.trans stated))
    decide
  · intro _ stated
    cases Option.some.inj (Option.some.inj (read.symm.trans stated))

theorem service_lifetimes_revalidation :
    ∃ state : Service, ∃ key body etag staleTtl next,
      state.threads 1 = some (.perform (.access (.set key body 300 etag staleTtl)) next) ∧
        LifetimesTaken serviceLibraries {} undated 3600 state := by
  have checked : (((esiService serviceLibraries {} undated).machine (World.Young {} 3600)).runIf
      (staysRoomy {} 3600) emptyService
      (revalidationSchedule (taggedResponse 304 [] (text "max-age=300")))).any (setsFor 1 300) =
        true := by
    decide +kernel
  obtain ⟨state, completed, sets⟩ := (Option.any_eq_true _ _).mp checked
  obtain ⟨key, body, etag, staleTtl, next, standing⟩ := standing_of_setsFor sets
  refine ⟨state, key, body, etag, staleTtl, next, standing,
    service_lifetimes (by decide) (by decide) (Machine.Guarded.runIf (.start ?_)
      (revalidationSchedule (taggedResponse 304 [] (text "max-age=300"))) ?_ completed)⟩
  · exact ⟨⟨(emptyService_initial serviceLibraries {}).1, by unfold Roomy; decide⟩, rfl⟩
  · have lasts (status : Nat) (content : Bytes) (ends : (requestWithRetries {} (singleAnswer
        (taggedResponse status content (text "max-age=300"))).first).ending =
          .returned (taggedResponse status content (text "max-age=300"))) (thread : Nat)
        (current : Service) : Lasting {} undated 3600 current
          (asksEsi thread (taggedResponse status content (text "max-age=300"))) := by
      intro _ response ended
      cases ends.symm.trans ended
      exact statesLifetime_short status content
    intro action member current roomy
    simp only [revalidationSchedule, List.mem_cons, List.not_mem_nil, or_false] at member
    rcases member with rfl | rfl | rfl | rfl | rfl | rfl | rfl | rfl | rfl | rfl | rfl | rfl | rfl |
      rfl | rfl | rfl | rfl
    case inr.inr.inr.inr.inr.inr.inr.inr.inl => exact lasting_of_staysRoomy roomy
    any_goals first | exact lasts _ _ rfl _ _ | trivial

/-- A 304 with a lifetime of zero makes the service ask Redis for no lifetime at all. -/
theorem service_lifetimes_zero :
    ¬∀ (libraries : Libraries) (settings : Settings) (parsedate : PyStr → Option HttpDate)
      (state : Service), (esiMachine libraries settings parsedate).Reachable state →
        ∀ thread call next, state.threads thread = some (.perform (.access call) next) →
          Taken state.shared.stores.redis call := by
  intro claim
  have checked : ((esiMachine serviceLibraries {} undated).run emptyService
      (revalidationSchedule (taggedResponse 304 [] (text "max-age=0")))).any (setsFor 1 0) = true := by
    decide +kernel
  obtain ⟨state, completed, sets⟩ := (Option.any_eq_true _ _).mp checked
  obtain ⟨key, body, etag, staleTtl, next, standing⟩ := standing_of_setsFor sets
  have taken := claim serviceLibraries {} _ state
    (Machine.Reachable.run (.start (emptyService_initial serviceLibraries {})) _ completed) 1 _ next standing
  have positive := List.all_eq_true.mp taken 0 (by simp [Redis.lifetimes])
  simp [Redis.accepts, acceptsAt] at positive

end EveApiCache
