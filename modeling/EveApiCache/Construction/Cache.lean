import EveApiCache.Construction.Config
import EveApiCache.Library.TimedStore

/-!
This file models `app/cache.py` over a Redis store.
-/

namespace EveApiCache

/-- The fields are the families of Redis keys, each without its prefix. The clock counts
milliseconds, and the integer that `esi:ttl` and `esi:neg:status` hold is kept as a number. -/
structure Redis where
  now : Nat
  body : TimedStore PyStr Bytes
  stale : TimedStore PyStr Bytes
  etag : TimedStore PyStr PyStr
  ttl : TimedStore PyStr Int
  negBody : TimedStore PyStr Bytes
  negStatus : TimedStore PyStr Nat
  name : TimedStore (PyStr × PyStr) PyStr

/-- Redis takes a lifetime of `ex` seconds only when it is positive and its end is an `int64`. -/
def acceptsAt (now : Nat) (ex : Int) : Bool := 0 < ex && (now : Int) + 1000 * ex < 2 ^ 63

namespace Redis

def empty (now : Nat) : Redis := ⟨now, .empty, .empty, .empty, .empty, .empty, .empty, .empty⟩

/-- This is the text of a cache key with its family, as Redis sees it. -/
def keyText (family : String) (key : PyStr) : PyStr := text "esi:" ++ text family ++ text ":" ++ key

def accepts (redis : Redis) (ex : Int) : Bool := acceptsAt redis.now ex

def deadline (redis : Redis) (ex : Int) : Nat := redis.now + 1000 * ex.toNat

/-- A refused `SET` fails alone: the other commands of its transaction still take effect. -/
def setEx {Key Value : Type} [DecidableEq Key] (redis : Redis) (store : TimedStore Key Value)
    (key : Key) (value : Value) (ex : Int) : TimedStore Key Value :=
  if redis.accepts ex then store.write key value (redis.deadline ex) else store

end Redis

/-- This is `_CACHE_MAGIC`. -/
def cacheMagic : Bytes := bytes "\u0000zc\u0000"

section Libraries
variable (libraries : Libraries) (settings : Settings)

/-- This is `_compress_value`. -/
def compressValue (body : Bytes) : Bytes :=
  match libraries.zstandard with
  | some zstandard => cacheMagic ++ bytes "z" ++ zstandard.compress 6 body
  | none => cacheMagic ++ bytes "l" ++ libraries.zlib.compress 6 body

/-- This is `_decode_value`, and an exception is `none`. -/
def decodeValue (value : Bytes) : Option Bytes :=
  if !cacheMagic.isPrefixOf value then some value
  else
    let codec := (value.drop cacheMagic.length).take 1
    let data := value.drop (cacheMagic.length + 1)
    if codec = bytes "z" then libraries.zstandard.bind fun zstandard => zstandard.decompress data
    else if codec = bytes "l" then libraries.zlib.decompress data
    else some value

/-- This is the form in which `set` stores a body. -/
def storedForm (body : Bytes) : Bytes :=
  if settings.cacheCompressMinBytes ≤ body.length then compressValue libraries body else body

end Libraries

namespace Redis
variable (libraries : Libraries) (settings : Settings)

/-- This is `redis.get("esi:etag:..")`, where an empty value is no ETag. -/
def getEtag (redis : Redis) (key : PyStr) : Option PyStr :=
  match redis.etag.read redis.now key with
  | none => none
  | some etag => if etag = [] then none else some etag

/-- This is `CacheClient.get`. The outer `none` is an exception. -/
def get (redis : Redis) (key : PyStr) : Option (Option (Bytes × Option PyStr)) :=
  match redis.body.read redis.now key with
  | none => some none
  | some body =>
      (decodeValue libraries body).map fun body => some (body, redis.getEtag key)

/-- These are the lifetimes that `set` asks for. -/
def lifetimes (ttl staleTtl : Int) (etag : Option PyStr) : List Int :=
  [ttl] ++ (if 0 < staleTtl then [ttl + staleTtl] else []) ++
    (if etag.getD [] = [] then [] else [ttl + 60])

/-- This is the effect of `CacheClient.set`. -/
def set (redis : Redis) (key : PyStr) (body : Bytes) (ttl : Int) (etag : Option PyStr)
    (staleTtl : Int) : Redis :=
  let stored := storedForm libraries settings body
  { redis with
    body := redis.setEx redis.body key stored ttl
    stale := if 0 < staleTtl then redis.setEx redis.stale key stored (ttl + staleTtl)
      else redis.stale.erase key
    etag := if etag.getD [] = [] then redis.etag.erase key
      else redis.setEx redis.etag key (etag.getD []) (ttl + 60)
    ttl := if etag.getD [] = [] then redis.ttl.erase key
      else redis.setEx redis.ttl key ttl (ttl + 60)
    negBody := redis.negBody.erase key
    negStatus := redis.negStatus.erase key }

/-- `set` raises when Redis refuses one of its lifetimes. -/
def setSucceeds (redis : Redis) (ttl : Int) (etag : Option PyStr) (staleTtl : Int) : Bool :=
  (lifetimes ttl staleTtl etag).all redis.accepts

/-- This is `CacheClient.get_ttl`. -/
def getTtl (redis : Redis) (key : PyStr) : Option Int := redis.ttl.read redis.now key

/-- This is the effect of `CacheClient.set_negative`. -/
def setNegative (redis : Redis) (key : PyStr) (body : Bytes) (status : Nat) (ttl : Int) : Redis :=
  { redis with
    negBody := redis.setEx redis.negBody key body ttl
    negStatus := redis.setEx redis.negStatus key status ttl }

/-- This is `CacheClient.get_negative`. -/
def getNegative (redis : Redis) (key : PyStr) : Option (Bytes × Nat) :=
  match redis.negBody.read redis.now key, redis.negStatus.read redis.now key with
  | some body, some status => some (body, status)
  | _, _ => none

/-- This is `CacheClient.get_stale`. The outer `none` is an exception. -/
def getStale (redis : Redis) (key : PyStr) : Option (Option Bytes) :=
  match redis.stale.read redis.now key with
  | none => some none
  | some raw => (decodeValue libraries raw).map some

/-- This is the value that `set_names` caches for one entity. -/
def nameValue (name category : PyStr) : PyStr :=
  Json.dumps Json.defaultSeparators
    (.obj [(text "name", .str name), (text "category", .str category)])

/-- This is `CacheClient.set_names` with its default lifetime of a day. -/
def setNames (redis : Redis) (datasource : PyStr) (items : List (PyStr × PyStr × PyStr)) :
    Redis :=
  items.foldl (fun redis item =>
    { redis with
      name := redis.setEx redis.name (datasource, item.1) (nameValue item.2.1 item.2.2) 86400 }) redis

end Redis

end EveApiCache
