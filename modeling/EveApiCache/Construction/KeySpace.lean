import EveApiCache.Construction.Archive.Write
import EveApiCache.Construction.Cache

/-!
This file models the commands that `CacheClient` sends to one flat Redis key space.
-/

namespace EveApiCache

/-- Redis keeps one byte value for each key text. The clock counts milliseconds. -/
structure KeySpace where
  now : Nat
  entries : TimedStore PyStr Bytes

inductive Command where
  | set (key : PyStr) (value : Bytes) (ex : Int)
  | delete (key : PyStr)

def Command.accepted (now : Nat) : Command → Bool
  | .set _ _ ex => acceptsAt now ex
  | .delete _ => true

/-- A refused command has no effect. -/
def Command.effect (now : Nat) (store : TimedStore PyStr Bytes) : Command → TimedStore PyStr Bytes
  | .set key value ex =>
      if acceptsAt now ex then store.write key value (now + 1000 * ex.toNat) else store
  | .delete key => store.erase key

/-- These are the key layouts of `app/cache.py`. -/
inductive Family where
  | body
  | stale
  | etag
  | ttl
  | negBody
  | negStatus
  | name
  deriving DecidableEq

def Family.word : Family → String
  | .body => "body"
  | .stale => "stale"
  | .etag => "etag"
  | .ttl => "ttl"
  | .negBody => "neg:body"
  | .negStatus => "neg:status"
  | .name => "name"

def entryKey (family : Family) (key : PyStr) : PyStr := Redis.keyText family.word key

/-- This is the part of a name key after `esi:name:`. -/
def nameKey (datasource : PyStr) (entityId : Int) : PyStr :=
  datasource ++ text ":" ++ intStr entityId

/-- These are the writing methods of `CacheClient` with their arguments. -/
inductive CacheCall where
  | set (key : PyStr) (body : Bytes) (ttl : Int) (etag : Option PyStr) (staleTtl : Int)
  | setNegative (key : PyStr) (body : Bytes) (status : Nat) (ttl : Int)
  | setName (datasource : PyStr) (entityId : Int) (name category : PyStr) (ttl : Int)
  | setNames (datasource : PyStr) (items : List (Int × PyStr × PyStr)) (ttl : Int)

def nameCommand (datasource : PyStr) (ttl : Int) (item : Int × PyStr × PyStr) : Command :=
  .set (entryKey .name (nameKey datasource item.1)) (encode (Redis.nameValue item.2.1 item.2.2)) ttl

section Libraries
variable (libraries : Libraries) (settings : Settings)

/-- These are the commands that a call sends in one transaction. -/
def CacheCall.pipeline : CacheCall → List Command
  | .set key body ttl etag staleTtl =>
      let stored := storedForm libraries settings body
      [.set (entryKey .body key) stored ttl,
        if 0 < staleTtl then .set (entryKey .stale key) stored (ttl + staleTtl)
        else .delete (entryKey .stale key)] ++
      (if etag.getD [] = [] then [.delete (entryKey .etag key), .delete (entryKey .ttl key)]
      else [.set (entryKey .etag key) (encode (etag.getD [])) (ttl + 60),
        .set (entryKey .ttl key) (encode (intStr ttl)) (ttl + 60)]) ++
      [.delete (entryKey .negBody key), .delete (entryKey .negStatus key)]
  | .setNegative key body status ttl =>
      [.set (entryKey .negBody key) body ttl,
        .set (entryKey .negStatus key) (encode (numeral status)) ttl]
  | .setName datasource entityId name category ttl =>
      [nameCommand datasource ttl (entityId, name, category)]
  | .setNames datasource items ttl => items.map (nameCommand datasource ttl)

/-- These texts must have a UTF-8 form. A name is sent as ASCII JSON. -/
def CacheCall.texts : CacheCall → List PyStr
  | .set key _ _ etag _ => [key, etag.getD []]
  | .setNegative key _ _ _ => [key]
  | .setName datasource _ _ _ _ => [datasource]
  | .setNames datasource _ _ => [datasource]

/-- Python refuses the decimal text of a longer integer. -/
def CacheCall.numbers : CacheCall → List Int
  | .set _ _ ttl _ _ => [ttl]
  | .setNegative _ _ status ttl => [status, ttl]
  | .setName _ entityId _ _ ttl => [entityId, ttl]
  | .setNames _ items ttl => ttl :: items.map Prod.fst

def isSendableText (value : PyStr) : Bool := value.all fun symbol => !isSurrogate symbol

def isSendableNumber (value : Int) : Bool := (numeral value.natAbs).length ≤ Json.maxIntDigits

def CacheCall.sendable (call : CacheCall) : Bool :=
  call.texts.all isSendableText && call.numbers.all isSendableNumber

/-- A call raises when a text or a number has no form or Redis refuses one of the commands. -/
def CacheCall.raises (call : CacheCall) (space : KeySpace) : Bool :=
  !call.sendable || !(call.pipeline libraries settings).all (Command.accepted space.now)

/-- A refused command fails alone: the others of its transaction still take effect. -/
def KeySpace.perform (space : KeySpace) (call : CacheCall) : KeySpace :=
  if call.sendable then
    { space with
      entries := (call.pipeline libraries settings).foldl (Command.effect space.now) space.entries }
  else space

/-- Time passes between the calls. -/
inductive CacheEvent where
  | call (call : CacheCall)
  | pass (milliseconds : Nat)

def KeySpace.step (space : KeySpace) : CacheEvent → KeySpace
  | .call call => space.perform libraries settings call
  | .pass milliseconds => { space with now := space.now + milliseconds }

def KeySpace.run (space : KeySpace) (events : List CacheEvent) : KeySpace :=
  events.foldl (KeySpace.step libraries settings) space

/-- No call of the sequence raises. -/
def NoneRaises : KeySpace → List CacheEvent → Prop
  | _, [] => True
  | space, .call call :: rest => call.raises libraries settings space = false ∧
      NoneRaises (space.perform libraries settings call) rest
  | space, .pass milliseconds :: rest =>
      NoneRaises { space with now := space.now + milliseconds } rest

namespace KeySpace

def empty (now : Nat) : KeySpace := ⟨now, .empty⟩

def raw (space : KeySpace) (family : Family) (key : PyStr) : Option Bytes :=
  space.entries.read space.now (entryKey family key)

/-- This is `bytes.decode()`, which refuses surrogates. An exception is `none`. -/
def decodeText (input : Bytes) : Option PyStr :=
  (decodeUtf8 input).filter isSendableText

/-- This is `redis.get("esi:etag:..")` followed by `decode`, where an empty value is no ETag. The
outer `none` is an exception. -/
def getEtag (space : KeySpace) (key : PyStr) : Option (Option PyStr) :=
  match space.raw .etag key with
  | none => some none
  | some etag => if etag = [] then some none else (decodeText etag).map some

/-- This is `CacheClient.get`. The outer `none` is an exception. -/
def get (space : KeySpace) (key : PyStr) : Option (Option (Bytes × Option PyStr)) :=
  match space.raw .body key with
  | none => some none
  | some body => do
      let body ← decodeValue libraries body
      let etag ← space.getEtag key
      return some (body, etag)

/-- This is `int` of a value of Redis, where an exception is `none`. -/
def intOfBytes (value : Bytes) : Option Int :=
  if value.all (fun symbol => symbol.val < 0x80) then
    intOfText (value.map fun symbol => point symbol.val)
  else none

/-- This is `CacheClient.get_ttl`. -/
def getTtl (space : KeySpace) (key : PyStr) : Option Int := (space.raw .ttl key).bind intOfBytes

/-- This is `CacheClient.get_negative`. -/
def getNegative (space : KeySpace) (key : PyStr) : Option (Bytes × Int) :=
  match space.raw .negBody key, space.raw .negStatus key with
  | some body, some status => (intOfBytes status).map fun status => (body, status)
  | _, _ => none

/-- This is `CacheClient.get_stale`. The outer `none` is an exception. -/
def getStale (space : KeySpace) (key : PyStr) : Option (Option Bytes) :=
  match space.raw .stale key with
  | none => some none
  | some raw => (decodeValue libraries raw).map some

/-- This is the JSON text that `CacheClient.get_name` loads. -/
def getName (space : KeySpace) (datasource : PyStr) (entityId : Int) : Option Bytes :=
  space.raw .name (nameKey datasource entityId)

end KeySpace

end Libraries

end EveApiCache
