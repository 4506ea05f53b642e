import EveApiCache.Construction.Coalesce
import EveApiCache.Construction.Upstream

/-!
This file models the awaits of `_dispatch` in `app/proxy.py` and of `app/collector.py`.
-/

namespace EveApiCache
open Effects

/-- These are the calls of the cache and the archive. `restoreStale` is the `get_stale` after a 304,
and its ETag, which the call does not read, is the one that the 304 kept. -/
inductive Access where
  | get (key : PyStr)
  | getNegative (key : PyStr)
  | getEtag (key : PyStr)
  | getStale (key : PyStr)
  | restoreStale (key : PyStr) (etag : Option PyStr)
  | getTtl (key : PyStr)
  | set (key : PyStr) (body : Bytes) (ttl : Int) (etag : Option PyStr) (staleTtl : Int)
  | setNegative (key : PyStr) (body : Bytes) (status : Nat) (ttl : Int)
  | writeSnapshot (observed : Observation)
  | writeNames (datasource : PyStr) (payload : Bytes)
  | getLatestPayload (identity : Identity)

/-- An archive write answers whether it succeeded, since its caller catches the exception. -/
@[reducible] def Access.Reply : Access → Type
  | .get _ => Option (Bytes × Option PyStr)
  | .getNegative _ => Option (Bytes × Nat)
  | .getEtag _ => Option PyStr
  | .getStale _ => Option Bytes
  | .restoreStale _ _ => Option Bytes
  | .getTtl _ => Option Int
  | .set _ _ _ _ _ => Unit
  | .setNegative _ _ _ _ => Unit
  | .writeSnapshot _ => Bool
  | .writeNames _ _ => Bool
  | .getLatestPayload _ => Option Bytes

abbrev Flight := Coalesce.Phase EsiResponse Unit

/-- A task waits for a store, for the coalescer, or for ESI. The leader of a flight fetches within
the coalescer. -/
inductive Await where
  | access (call : Access)
  | coalesce (key : PyStr) (phase : Flight)
  | lead (key : PyStr) (future : Nat) (call : UpstreamCall) (etag : Option PyStr)
  | fetch (call : UpstreamCall) (etag : Option PyStr)

@[reducible] def Await.Reply : Await → Type
  | .access call => call.Reply
  | .coalesce _ _ => Flight
  | .lead _ _ _ _ => Flight
  | .fetch _ _ => EsiResponse

abbrev awaits : Interface := ⟨Await, Await.Reply⟩

abbrev Pipeline := Program awaits

/-- This program performs one call of a store. -/
def access (call : Access) : Pipeline call.Reply := Program.call (I := awaits) (.access call)

section Coalescing

/-- A leader and a waiter both return the result, and an exception stops the caller. -/
def settled (leader : Bool) : Coalesce.Outcome EsiResponse Unit → Pipeline (EsiResponse × Bool)
  | .returned response => .done (response, leader)
  | .raised _ => .fail
  | .cancelled => .fail

def landed : Flight → Pipeline (EsiResponse × Bool)
  | .led _ outcome => settled true outcome
  | .shared _ outcome => settled false outcome
  | _ => .fail

/-- A caller that joined leads its flight or waits for the one of another caller. -/
def joined (key : PyStr) (call : UpstreamCall) (etag : Option PyStr) :
    Flight → Pipeline (EsiResponse × Bool)
  | .leading future => .perform (.lead key future call etag) fun phase =>
      .perform (.coalesce key phase) landed
  | .waiting future => .perform (.coalesce key (.waiting future)) landed
  | _ => .fail

/-- This is `coalesce` with a fetch. -/
def coalesce (key : PyStr) (call : UpstreamCall) (etag : Option PyStr) :
    Pipeline (EsiResponse × Bool) :=
  .perform (.coalesce key .joining) (joined key call etag)

end Coalescing

/-- This is `max_age or 300`. -/
def lifetimeOr300 : Option Nat → Int
  | none => 300
  | some maxAge => if maxAge = 0 then 300 else maxAge

/-- This is `_stale_ttl_for_payload`, which the proxy and the collector both define. -/
def staleTtlForPayload (settings : Settings) (body : Bytes) : Int :=
  if 0 < settings.staleCacheMaxBodyBytes ∧ settings.staleCacheMaxBodyBytes < body.length then 0
  else settings.staleCacheSeconds

/-- This is `esi_resp.etag or stored_etag`. -/
def etagOr (etag stored : Option PyStr) : Option PyStr :=
  if etag.getD [] = [] then stored else etag

/-- This is the key under which the refetch is coalesced. -/
def refetchKey (key : PyStr) : PyStr := key ++ text ":refetch"

/-- This body replaces the body of a degraded upstream. -/
def errorEnvelope (status : Nat) : Bytes :=
  encode (Json.dumps Json.defaultSeparators
    (.obj [(text "error", .str (text "upstream_error")), (text "status", .int status)]))

section Dispatch
variable (libraries : Libraries) (settings : Settings) (prepared : Prepared)

/-- The archive knows the response under the identity of its request. -/
def Prepared.identity : Identity := ⟨prepared.datasource, prepared.call.path, prepared.queryHash⟩

/-- This is the call of `write_snapshot` in `_archive_response`. -/
def recordResponse (response : EsiResponse) : Pipeline Bool :=
  if prepared.spec.archiveType = .none then .done true
  else access (.writeSnapshot {
    identity := prepared.identity
    contentHash := libraries.sha256 response.body
    payload := response.body
    httpStatus := 200
    etag := response.etag
    expiresAt := response.expiresAt
    archiveType := prepared.spec.archiveType })

/-- A failed snapshot keeps the names from being written. -/
def recordNames (response : EsiResponse) : Bool → Pipeline Unit
  | true =>
      if prepared.spec.extractNames then
        .perform (.access (.writeNames prepared.datasource response.body)) fun _ => .done ()
      else .done ()
  | false => .done ()

/-- This is `_archive_response`. -/
def archiveResponse (response : EsiResponse) : Pipeline Unit := do
  let recorded ← recordResponse libraries prepared response
  recordNames prepared response recorded

/-- Only the leader stores a response and archives it. -/
def storeResponse (response : EsiResponse) : Bool → Pipeline Unit
  | true => do
      access (.set prepared.cacheKey response.body (lifetimeOr300 response.maxAge) response.etag
        (staleTtlForPayload settings response.body))
      archiveResponse libraries prepared response
  | false => .done ()

def fallback (status : Nat) : Option Bytes → ProxyResult
  | some archived =>
      if archived = [] then ⟨status, errorEnvelope status, .error, text "application/json", none⟩
      else ⟨200, archived, .archiveFallback, text "application/json", none⟩
  | none => ⟨status, errorEnvelope status, .error, text "application/json", none⟩

/-- The archive answers when no stale copy is left. -/
def degradedAnswer (response : EsiResponse) : Option Bytes → Pipeline ProxyResult
  | some stale => .done ⟨200, stale, .stale, text "application/json", none⟩
  | none => do
      let archived ← access (.getLatestPayload prepared.identity)
      return fallback response.status archived

def degraded (response : EsiResponse) : Pipeline ProxyResult := do
  let stale ← access (.getStale prepared.cacheKey)
  degradedAnswer prepared response stale

def negativeTtl (response : EsiResponse) : Int :=
  match response.maxAge with
  | some maxAge => maxAge
  | none => settings.negativeCacheTtlSeconds

/-- A 4xx is cached for a short time, except a throttle. -/
def cacheNegative (response : EsiResponse) : Pipeline Unit :=
  if 400 ≤ response.status ∧ response.status < 500 ∧ response.status ≠ 429 ∧
      0 < negativeTtl settings response then
    access (.setNegative prepared.cacheKey response.body response.status
      (negativeTtl settings response))
  else .done ()

/-- These are the steps of `_dispatch` after the last fetch. -/
def answered (response : EsiResponse) (leader : Bool) : Pipeline ProxyResult :=
  if response.status = 200 then do
    storeResponse libraries settings prepared response leader
    return ⟨200, response.body, .miss, response.contentType, none⟩
  else if response.status = 420 ∨ 500 ≤ response.status then degraded prepared response
  else if 300 ≤ response.status ∧ response.status < 400 then
    .done ⟨response.status, response.body, .miss, text "application/json", response.location⟩
  else do
    cacheNegative settings prepared response
    return ⟨response.status, response.body, .miss, response.contentType, none⟩

/-- A 304 without a lifetime keeps the prior one. -/
def restoredTtl : Option Nat → Pipeline Int
  | some maxAge => .done maxAge
  | none => do
      let prior ← access (.getTtl prepared.cacheKey)
      return match prior with
        | some ttl => if ttl = 0 then 300 else ttl
        | none => 300

/-- Only the leader extends the lifetime of a restored body. -/
def rewrite (stored : Option PyStr) (response : EsiResponse) (body : Bytes) (ttl : Int) :
    Bool → Pipeline Unit
  | true => access (.set prepared.cacheKey body ttl (etagOr response.etag stored)
      (staleTtlForPayload settings body))
  | false => .done ()

/-- A 304 restores the stale copy, or fetches again without an ETag. -/
def revalidated (stored : Option PyStr) (response : EsiResponse) (leader : Bool) :
    Option Bytes → Pipeline ProxyResult
  | some body => do
      let ttl ← restoredTtl prepared response.maxAge
      rewrite settings prepared stored response body ttl leader
      return ⟨200, body, .miss, text "application/json", none⟩
  | none => do
      let again ← coalesce (refetchKey prepared.cacheKey) prepared.call none
      answered libraries settings prepared again.1 again.2

/-- These are the steps of `_dispatch` after the coalesced fetch. -/
def fetched (stored : Option PyStr) (response : EsiResponse) (leader : Bool) :
    Pipeline ProxyResult :=
  if response.notModified then do
    let body ← access (.restoreStale prepared.cacheKey response.etag)
    revalidated libraries settings prepared stored response leader body
  else answered libraries settings prepared response leader

/-- The stored ETag makes the coalesced fetch conditional. -/
def conditionalFetch : Pipeline ProxyResult := do
  let stored ← access (.getEtag prepared.cacheKey)
  let result ← coalesce prepared.cacheKey prepared.call stored
  fetched libraries settings prepared stored result.1 result.2

def negativeAnswer : Option (Bytes × Nat) → Pipeline ProxyResult
  | some (body, status) => .done ⟨status, body, .hit, text "application/json", none⟩
  | none => conditionalFetch libraries settings prepared

def missed : Pipeline ProxyResult := do
  let negative ← access (.getNegative prepared.cacheKey)
  negativeAnswer libraries settings prepared negative

def hotAnswer : Option (Bytes × Option PyStr) → Pipeline ProxyResult
  | some (body, _) => .done ⟨200, body, .hit, text "application/json", none⟩
  | none => missed libraries settings prepared

/-- These are the steps of `_dispatch` from the first await on. -/
def lookup : Pipeline ProxyResult := do
  let cached ← access (.get prepared.cacheKey)
  hotAnswer libraries settings prepared cached

/-- This is `_dispatch`. -/
def dispatch (request : Request) : Pipeline ProxyResult :=
  match prepare libraries settings request with
  | .error result => .done result
  | .ok prepared => lookup libraries settings prepared

end Dispatch

/-- These are the endpoints of the `collect_` functions. -/
inductive Job where
  | marketOrders (regionId : Int)
  | marketPrices
  | marketHistory (regionId typeId : Int)
  | systemJumps
  | systemKills
  | sovereigntyMap
  | sovereigntyStructures
  | incursions
  | industryFacilities

namespace Job

def path : Job → PyStr
  | .marketOrders regionId => text "/v1/markets/" ++ intStr regionId ++ text "/orders/"
  | .marketPrices => text "/v1/markets/prices/"
  | .marketHistory regionId _ => text "/v1/markets/" ++ intStr regionId ++ text "/history/"
  | .systemJumps => text "/v1/universe/system_jumps/"
  | .systemKills => text "/v1/universe/system_kills/"
  | .sovereigntyMap => text "/v1/sovereignty/map/"
  | .sovereigntyStructures => text "/v1/sovereignty/structures/"
  | .incursions => text "/v1/incursions/"
  | .industryFacilities => text "/v1/industry/facilities/"

def params : Job → Params
  | .marketOrders _ => ⟨[(text "order_type", text "all")], List.nodup_singleton _⟩
  | .marketHistory _ typeId => ⟨[(text "type_id", intStr typeId)], List.nodup_singleton _⟩
  | _ => .empty

end Job

/-- This is `_swap_version`. -/
def swapVersion (path version : PyStr) : PyStr :=
  match path.dropWhile (· ≠ 0x2f) with
  | [] => path
  | _ :: rest =>
      match rest.dropWhile (· ≠ 0x2f) with
      | [] => path
      | _ :: tail => text "/" ++ version ++ text "/" ++ tail

section Collector
variable (libraries : Libraries) (settings : Settings) (datasource : PyStr) (job : Job)

/-- This is the fetch of `_fetch_and_store`. -/
def Job.call : UpstreamCall := ⟨job.path, .get, esiParams datasource job.params, none⟩

/-- This is the cache key of a job under some path. -/
def Job.key (path : PyStr) : PyStr := buildCacheKey libraries datasource .get path job.params none

/-- This is the loop over the alias versions. -/
def warmAliases (response : EsiResponse) : List PyStr → Pipeline Unit
  | [] => .done ()
  | version :: rest =>
      if swapVersion job.path version = job.path then warmAliases response rest
      else do
        access (.set (job.key libraries datasource (swapVersion job.path version)) response.body
          (lifetimeOr300 response.maxAge) response.etag (staleTtlForPayload settings response.body))
        warmAliases response rest

/-- This is the observation of `_fetch_and_store`. -/
def Job.observation (response : EsiResponse) : Observation where
  identity := ⟨datasource, job.path, computeQueryHash libraries job.params none⟩
  contentHash := libraries.sha256 response.body
  payload := response.body
  httpStatus := 200
  etag := response.etag
  expiresAt := response.expiresAt
  archiveType := .timeSeries

/-- The collector skips every response but a 200. -/
def collected (response : EsiResponse) : Pipeline Bool :=
  if response.status ≠ 200 then .done false
  else do
    access (.set (job.key libraries datasource job.path) response.body
      (lifetimeOr300 response.maxAge) response.etag (staleTtlForPayload settings response.body))
    warmAliases libraries settings datasource job response settings.collectorWarmAliasVersions
    access (.writeSnapshot (job.observation libraries datasource response))

/-- This is `_fetch_and_store`. -/
def fetchAndStore : Pipeline Bool := do
  let response ← Program.call (I := awaits) (.fetch (job.call datasource) none)
  collected libraries settings datasource job response

end Collector

end EveApiCache
