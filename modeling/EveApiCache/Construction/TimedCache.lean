import EveApiCache.Construction.KeySpace

/-!
This file states what the cache is for: it remembers the last call for each key, for its lifetime.
-/

namespace EveApiCache

structure StoredBody where
  body : Bytes
  etag : Option PyStr
  ttl : Int
  staleTtl : Int
  since : Nat

/-- An empty ETag is no ETag. -/
def StoredBody.tag (stored : StoredBody) : Option PyStr :=
  if stored.etag.getD [] = [] then none else stored.etag

structure StoredRefusal where
  body : Bytes
  status : Nat
  ttl : Int
  since : Nat

structure StoredName where
  name : PyStr
  category : PyStr
  ttl : Int
  since : Nat

/-- The cache keeps the last `set` of each key, the last `set_negative` after it, and the last name
of each entity. -/
structure TimedCache where
  now : Nat
  stored : PyStr → Option StoredBody
  refused : PyStr → Option StoredRefusal
  named : PyStr × Int → Option StoredName

namespace TimedCache

def empty (now : Nat) : TimedCache := ⟨now, fun _ => none, fun _ => none, fun _ => none⟩

def setName (datasource : PyStr) (ttl : Int) (cache : TimedCache) (item : Int × PyStr × PyStr) :
    TimedCache :=
  { cache with
    named := Function.update cache.named (datasource, item.1)
      (some ⟨item.2.1, item.2.2, ttl, cache.now⟩) }

def step (cache : TimedCache) : CacheEvent → TimedCache
  | .call (.set key body ttl etag staleTtl) =>
      { cache with
        stored := Function.update cache.stored key (some ⟨body, etag, ttl, staleTtl, cache.now⟩)
        refused := Function.update cache.refused key none }
  | .call (.setNegative key body status ttl) =>
      { cache with
        refused := Function.update cache.refused key (some ⟨body, status, ttl, cache.now⟩) }
  | .call (.setName datasource entityId name category ttl) =>
      cache.setName datasource ttl (entityId, name, category)
  | .call (.setNames datasource items ttl) => items.foldl (setName datasource ttl) cache
  | .pass milliseconds => { cache with now := cache.now + milliseconds }

def run (cache : TimedCache) (events : List CacheEvent) : TimedCache := events.foldl step cache

/-- A lifetime of seconds that began at a time has not ended. Its last millisecond belongs to it. -/
def lives (cache : TimedCache) (since : Nat) (ttl : Int) : Bool :=
  cache.now ≤ since + 1000 * ttl.toNat

def get (cache : TimedCache) (key : PyStr) : Option (Bytes × Option PyStr) :=
  (cache.stored key).bind fun stored =>
    if cache.lives stored.since stored.ttl then some (stored.body, stored.tag) else none

def getStale (cache : TimedCache) (key : PyStr) : Option Bytes :=
  (cache.stored key).bind fun stored =>
    if 0 < stored.staleTtl ∧ cache.lives stored.since (stored.ttl + stored.staleTtl) then
      some stored.body
    else none

def getEtag (cache : TimedCache) (key : PyStr) : Option PyStr :=
  (cache.stored key).bind fun stored =>
    if cache.lives stored.since (stored.ttl + 60) then stored.tag else none

def getTtl (cache : TimedCache) (key : PyStr) : Option Int :=
  (cache.stored key).bind fun stored =>
    if cache.lives stored.since (stored.ttl + 60) then stored.tag.map fun _ => stored.ttl else none

def getNegative (cache : TimedCache) (key : PyStr) : Option (Bytes × Int) :=
  (cache.refused key).bind fun refusal =>
    if cache.lives refusal.since refusal.ttl then some (refusal.body, refusal.status) else none

def getName (cache : TimedCache) (datasource : PyStr) (entityId : Int) : Option Bytes :=
  (cache.named (datasource, entityId)).bind fun named =>
    if cache.lives named.since named.ttl then
      some (encode (Redis.nameValue named.name named.category))
    else none

end TimedCache

end EveApiCache
