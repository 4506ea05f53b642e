import EveApiCache.Construction.TimedCache
import EveApiCache.Proof.Cache.KeySpace
import EveApiCache.Proof.Pinned

/-!
This file shows that the cache client refines the timed cache.
-/

namespace EveApiCache

/-- Every text comes back from its encoding. -/
theorem decodeUtf8_encode (value : PyStr) : decodeUtf8 (encode value) = some value := by
  have rounds (value : PyStr) (count : Nat) (enough : (encode value).length ≤ count) :
      decodePoints count (encode value) = some value := by
    induction value generalizing count with
    | nil => cases count <;> rfl
    | cons symbol rest ih =>
        have split : encode (symbol :: rest) = encodePoint symbol ++ encode rest := rfl
        have filled := List.length_pos_iff.mpr (encodePoint_ne_nil symbol)
        rw [split, List.length_append] at enough
        obtain ⟨count, rfl⟩ : ∃ more, count = more + 1 := ⟨count - 1, by omega⟩
        obtain ⟨first, tail, form⟩ := List.exists_cons_of_ne_nil (encodePoint_ne_nil symbol)
        have read := decodePoint_encodePoint symbol (encode rest)
        rw [split]
        rw [form, List.cons_append] at read ⊢
        rw [decodePoints, read, Option.bind_eq_bind, Option.bind_some]
        dsimp only
        rw [ih count (by omega)]
        rfl
  exact rounds value _ le_rfl

theorem decodeText_encode (value : PyStr) (sendable : isSendableText value = true) :
    KeySpace.decodeText (encode value) = some value := by
  rw [KeySpace.decodeText, decodeUtf8_encode, Option.filter_some, if_pos sendable]

/-- An integer comes back from the bytes of its decimal text. -/
theorem intOfBytes_encode (value : Int) (sendable : isSendableNumber value = true) :
    KeySpace.intOfBytes (encode (intStr value)) = some value := by
  have printable := Json.intStr_printable value
  have small (symbol : CodePoint) (member : symbol ∈ intStr value) :
      (octet symbol.val).val = symbol.val := octet_val _ (by have := printable symbol member; omega)
  have ascii : (encode (intStr value)).all (fun symbol => symbol.val < 0x80) = true := by
    rw [Json.encode_printable _ printable, List.all_map, List.all_eq_true]
    intro symbol member
    have range := printable symbol member
    simpa [small symbol member] using range.2
  have back : (encode (intStr value)).map (fun symbol => point symbol.val) = intStr value := by
    rw [Json.encode_printable _ printable, List.map_map]
    have each : ∀ symbol ∈ intStr value,
        ((fun symbol => point symbol.val) ∘ fun symbol => octet symbol.val) symbol = id symbol := by
      intro symbol member
      apply Fin.ext
      rw [Function.comp_apply, small symbol member, id]
      exact point_val _ symbol.isLt
    rw [List.map_congr_left each, List.map_id]
  rw [KeySpace.intOfBytes, if_pos ascii, back]
  exact intOfText_intStr value (by simpa [isSendableNumber] using sendable)

/-- The families hold what the timed cache remembers, each for its own lifetime. -/
structure Remembers (libraries : Libraries) (settings : Settings) (cache : TimedCache)
    (redis : Redis) : Prop where
  now : redis.now = cache.now
  body : ∀ key, redis.body key = (cache.stored key).map fun stored =>
    ⟨storedForm libraries settings stored.body, stored.since + 1000 * stored.ttl.toNat⟩
  stale : ∀ key, redis.stale key = (cache.stored key).bind fun stored =>
    if 0 < stored.staleTtl then
      some ⟨storedForm libraries settings stored.body,
        stored.since + 1000 * (stored.ttl + stored.staleTtl).toNat⟩
    else none
  etag : ∀ key, redis.etag key = (cache.stored key).bind fun stored =>
    stored.tag.map fun etag => ⟨etag, stored.since + 1000 * (stored.ttl + 60).toNat⟩
  ttl : ∀ key, redis.ttl key = (cache.stored key).bind fun stored =>
    stored.tag.map fun _ => ⟨stored.ttl, stored.since + 1000 * (stored.ttl + 60).toNat⟩
  negBody : ∀ key, redis.negBody key = (cache.refused key).map fun refusal =>
    ⟨refusal.body, refusal.since + 1000 * refusal.ttl.toNat⟩
  negStatus : ∀ key, redis.negStatus key = (cache.refused key).map fun refusal =>
    ⟨refusal.status, refusal.since + 1000 * refusal.ttl.toNat⟩
  name : ∀ datasource entityId, redis.name (datasource, intStr entityId) =
    (cache.named (datasource, entityId)).map fun named =>
      ⟨Redis.nameValue named.name named.category, named.since + 1000 * named.ttl.toNat⟩

theorem remembers_empty (libraries : Libraries) (settings : Settings) (now : Nat) :
    Remembers libraries settings (.empty now) (.empty now) where
  now := rfl
  body _ := rfl
  stale _ := rfl
  etag _ := rfl
  ttl _ := rfl
  negBody _ := rfl
  negStatus _ := rfl
  name _ _ := rfl

section Steps
variable {libraries : Libraries} {settings : Settings} {cache : TimedCache} {redis : Redis}

theorem Remembers.deadline (remembers : Remembers libraries settings cache redis) (ex : Int) :
    redis.deadline ex = cache.now + 1000 * ex.toNat := by
  rw [← remembers.now]
  rfl

/-- An accepted `set` is remembered with all its lifetimes and forgets the refusal of its key. -/
theorem Remembers.set (remembers : Remembers libraries settings cache redis) (key : PyStr)
    (body : Bytes) (ttl : Int) (etag : Option PyStr) (staleTtl : Int)
    (fits : redis.accepts ttl = true)
    (staleFits : 0 < staleTtl → redis.accepts (ttl + staleTtl) = true)
    (etagFits : etag.getD [] ≠ [] → redis.accepts (ttl + 60) = true) :
    Remembers libraries settings (cache.step (.call (.set key body ttl etag staleTtl)))
      (redis.set libraries settings key body ttl etag staleTtl) := by
  refine ⟨remembers.now, ?_, ?_, ?_, ?_, ?_, ?_, remembers.name⟩ <;> intro other <;>
    by_cases same : other = key
  · subst same
    simp [Redis.set, setEx_apply, fits, TimedCache.step, remembers.deadline]
  · simpa [Redis.set, setEx_apply, same, TimedCache.step] using remembers.body other
  · subst same
    by_cases fresh : 0 < staleTtl
    · simp [Redis.set, setEx_apply, fresh, staleFits fresh, TimedCache.step, remembers.deadline]
    · simp [Redis.set, fresh, TimedCache.step]
  · have before := remembers.stale other
    by_cases fresh : 0 < staleTtl
    · simpa [Redis.set, setEx_apply, fresh, same, TimedCache.step] using before
    · simpa [Redis.set, fresh, same, TimedStore.erase_apply, TimedCache.step] using before
  · subst same
    by_cases untagged : etag.getD [] = []
    · simp [Redis.set, untagged, TimedCache.step, StoredBody.tag]
    · have accepted := etagFits untagged
      cases etag with
      | none => exact absurd rfl untagged
      | some tag =>
          rw [Option.getD_some] at untagged
          simp [Redis.set, setEx_apply, untagged, accepted, TimedCache.step, StoredBody.tag,
            remembers.deadline]
  · have before := remembers.etag other
    by_cases untagged : etag.getD [] = []
    · simpa [Redis.set, untagged, same, TimedStore.erase_apply, TimedCache.step] using before
    · simpa [Redis.set, setEx_apply, untagged, same, TimedCache.step] using before
  · subst same
    by_cases untagged : etag.getD [] = []
    · simp [Redis.set, untagged, TimedCache.step, StoredBody.tag]
    · have accepted := etagFits untagged
      cases etag with
      | none => exact absurd rfl untagged
      | some tag =>
          rw [Option.getD_some] at untagged
          simp [Redis.set, setEx_apply, untagged, accepted, TimedCache.step, StoredBody.tag,
            remembers.deadline]
  · have before := remembers.ttl other
    by_cases untagged : etag.getD [] = []
    · simpa [Redis.set, untagged, same, TimedStore.erase_apply, TimedCache.step] using before
    · simpa [Redis.set, setEx_apply, untagged, same, TimedCache.step] using before
  · subst same
    simp [Redis.set, TimedCache.step]
  · simpa [Redis.set, same, TimedStore.erase_apply, TimedCache.step] using remembers.negBody other
  · subst same
    simp [Redis.set, TimedCache.step]
  · simpa [Redis.set, same, TimedStore.erase_apply, TimedCache.step] using remembers.negStatus other

theorem Remembers.setNegative (remembers : Remembers libraries settings cache redis) (key : PyStr)
    (body : Bytes) (status : Nat) (ttl : Int) (fits : redis.accepts ttl = true) :
    Remembers libraries settings (cache.step (.call (.setNegative key body status ttl)))
      (redis.setNegative key body status ttl) := by
  refine ⟨remembers.now, remembers.body, remembers.stale, remembers.etag, remembers.ttl, ?_, ?_,
    remembers.name⟩ <;> intro other <;> by_cases same : other = key
  · subst same
    simp [Redis.setNegative, setEx_apply, fits, TimedCache.step, remembers.deadline]
  · simpa [Redis.setNegative, setEx_apply, same, TimedCache.step] using remembers.negBody other
  · subst same
    simp [Redis.setNegative, setEx_apply, fits, TimedCache.step, remembers.deadline]
  · simpa [Redis.setNegative, setEx_apply, same, TimedCache.step] using remembers.negStatus other

theorem Remembers.setName (remembers : Remembers libraries settings cache redis)
    (datasource : PyStr) (ttl : Int) (item : Int × PyStr × PyStr)
    (fits : redis.accepts ttl = true) :
    Remembers libraries settings (cache.setName datasource ttl item)
      { redis with
        name := redis.setEx redis.name (datasource, intStr item.1)
          (Redis.nameValue item.2.1 item.2.2) ttl } := by
  refine ⟨remembers.now, remembers.body, remembers.stale, remembers.etag, remembers.ttl,
    remembers.negBody, remembers.negStatus, ?_⟩
  intro other entityId
  have before := remembers.name other entityId
  have entity : (other, intStr entityId) = (datasource, intStr item.1) ↔
      (other, entityId) = (datasource, item.1) := by
    rw [Prod.mk.injEq, Prod.mk.injEq, intStr_injective.eq_iff]
  simp only [setEx_apply, entity, fits, and_true, remembers.deadline, TimedCache.setName,
    Function.update_apply]
  split_ifs
  · rfl
  · exact before

theorem Remembers.setNames (remembers : Remembers libraries settings cache redis)
    (datasource : PyStr) (ttl : Int) (items : List (Int × PyStr × PyStr))
    (fits : items ≠ [] → redis.accepts ttl = true) :
    Remembers libraries settings (items.foldl (TimedCache.setName datasource ttl) cache)
      { redis with
        name := items.foldl (fun names item => redis.setEx names (datasource, intStr item.1)
          (Redis.nameValue item.2.1 item.2.2) ttl) redis.name } := by
  induction items generalizing cache redis with
  | nil => exact remembers
  | cons item items ih =>
      have accepted := fits (by simp)
      exact ih (remembers.setName datasource ttl item accepted) fun _ => accepted

/-- A call that does not raise is remembered. -/
theorem Remembers.perform {space : KeySpace} (remembers : Remembers libraries settings cache redis)
    (represents : Represents space redis) (call : CacheCall)
    (quiet : call.raises libraries settings space = false) :
    Remembers libraries settings (cache.step (.call call))
      (redis.perform libraries settings call) := by
  have accepted : (call.pipeline libraries settings).all (Command.accepted space.now) = true := by
    rw [CacheCall.raises, Bool.or_eq_false_iff] at quiet
    simpa using quiet.2
  rw [List.all_eq_true] at accepted
  have fits (key : PyStr) (value : Bytes) (ex : Int)
      (sent : .set key value ex ∈ call.pipeline libraries settings) : redis.accepts ex = true := by
    rw [← represents.accepts]
    exact accepted _ sent
  cases call with
  | set key body ttl etag staleTtl =>
      apply remembers.set
      · exact fits (entryKey .body key) (storedForm libraries settings body) ttl
          (by simp [CacheCall.pipeline])
      · intro fresh
        exact fits (entryKey .stale key) (storedForm libraries settings body) (ttl + staleTtl)
          (by simp [CacheCall.pipeline, fresh])
      · intro tagged
        exact fits (entryKey .etag key) (encode (etag.getD [])) (ttl + 60)
          (by simp [CacheCall.pipeline, tagged])
  | setNegative key body status ttl =>
      exact remembers.setNegative key body status ttl (fits (entryKey .negBody key) body ttl
        (by simp [CacheCall.pipeline]))
  | setName datasource entityId name category ttl =>
      exact remembers.setName datasource ttl (entityId, name, category)
        (fits _ _ ttl (List.mem_singleton.mpr rfl))
  | setNames datasource items ttl =>
      apply remembers.setNames
      intro filled
      obtain ⟨item, rest, rfl⟩ := List.exists_cons_of_ne_nil filled
      exact fits _ _ ttl (List.mem_cons_self ..)

end Steps

section Run
variable {libraries : Libraries} {settings : Settings}

/-- Every stored body comes back from its stored form, and every stored text can be sent. -/
structure Readable (settings : Settings) (cache : TimedCache) : Prop where
  body : ∀ key stored, cache.stored key = some stored → Unmarked settings stored.body
  etag : ∀ key stored, cache.stored key = some stored →
    isSendableText (stored.etag.getD []) = true ∧ isSendableNumber stored.ttl = true
  status : ∀ key refusal, cache.refused key = some refusal →
    isSendableNumber refusal.status = true

/-- The body of a call to `set` is unmarked. -/
def CacheEvent.Unmarked (settings : Settings) : CacheEvent → Prop
  | .call (.set _ body _ _ _) => EveApiCache.Unmarked settings body
  | _ => True

theorem setNames_kept (datasource : PyStr) (ttl : Int) (items : List (Int × PyStr × PyStr))
    (cache : TimedCache) :
    (items.foldl (TimedCache.setName datasource ttl) cache).stored = cache.stored ∧
      (items.foldl (TimedCache.setName datasource ttl) cache).refused = cache.refused := by
  induction items generalizing cache with
  | nil => exact ⟨rfl, rfl⟩
  | cons item items ih => exact ih (cache.setName datasource ttl item)

theorem readable_empty (now : Nat) : Readable settings (.empty now) where
  body _ _ stored := by cases stored
  etag _ _ stored := by cases stored
  status _ _ refused := by cases refused

theorem Readable.step {cache : TimedCache} (readable : Readable settings cache)
    (event : CacheEvent) (unmarked : event.Unmarked settings)
    (sendable : ∀ call, event = .call call → call.sendable = true) :
    Readable settings (cache.step event) := by
  cases event with
  | pass milliseconds => exact ⟨readable.body, readable.etag, readable.status⟩
  | call call =>
      have ready := sendable call rfl
      rw [CacheCall.sendable, Bool.and_eq_true, List.all_eq_true, List.all_eq_true] at ready
      cases call with
      | set key body ttl etag staleTtl =>
          refine ⟨?_, ?_, ?_⟩ <;> intro other value present <;>
            simp only [TimedCache.step, Function.update_apply] at present <;> split_ifs at present
          · cases present
            exact unmarked
          · exact readable.body other value present
          · cases present
            exact ⟨ready.1 _ (by simp [CacheCall.texts]), ready.2 _ (by simp [CacheCall.numbers])⟩
          · exact readable.etag other value present
          · exact readable.status other value present
      | setNegative key body status ttl =>
          refine ⟨readable.body, readable.etag, ?_⟩
          intro other refusal present
          simp only [TimedCache.step, Function.update_apply] at present
          split_ifs at present
          · cases present
            exact ready.2 _ (by simp [CacheCall.numbers])
          · exact readable.status other refusal present
      | setName datasource entityId name category ttl =>
          exact ⟨readable.body, readable.etag, readable.status⟩
      | setNames datasource items ttl =>
          obtain ⟨stored, refused⟩ := setNames_kept datasource ttl items cache
          refine ⟨?_, ?_, ?_⟩
          · intro key value present
            exact readable.body key value (stored ▸ present)
          · intro key value present
            exact readable.etag key value (stored ▸ present)
          · intro key value present
            exact readable.status key value (refused ▸ present)

/-- The key space holds the memory of the timed cache, and all of it can be read. -/
structure Refines (libraries : Libraries) (settings : Settings) (space : KeySpace)
    (cache : TimedCache) (redis : Redis) : Prop where
  represents : Represents space redis
  remembers : Remembers libraries settings cache redis
  readable : Readable settings cache

/-- The refinement holds after every sequence of calls that do not raise. -/
theorem Refines.run {space : KeySpace} {cache : TimedCache} {redis : Redis}
    (refines : Refines libraries settings space cache redis) (events : List CacheEvent)
    (quiet : NoneRaises libraries settings space events)
    (unmarked : ∀ event ∈ events, event.Unmarked settings) :
    ∃ final, Refines libraries settings (space.run libraries settings events) (cache.run events)
      final := by
  induction events generalizing space cache redis with
  | nil => exact ⟨redis, refines⟩
  | cons event events ih =>
      have rest : ∀ other ∈ events, other.Unmarked settings := fun other member =>
        unmarked other (by simp [member])
      have first := unmarked event (by simp)
      cases event with
      | pass milliseconds =>
          have moved : Refines libraries settings { space with now := space.now + milliseconds }
              (cache.step (.pass milliseconds)) { redis with now := redis.now + milliseconds } := by
            obtain ⟨represents, remembers, readable⟩ := refines
            refine ⟨⟨?_, represents.entry, represents.name⟩,
              ⟨?_, remembers.body, remembers.stale, remembers.etag, remembers.ttl,
                remembers.negBody, remembers.negStatus, remembers.name⟩, readable.step _ first
                fun call same => by cases same⟩
            · exact congrArg (· + milliseconds) represents.now
            · exact congrArg (· + milliseconds) remembers.now
          exact ih moved quiet rest
      | call call =>
          obtain ⟨calm, later⟩ := quiet
          have sendable : call.sendable = true := by
            rw [CacheCall.raises, Bool.or_eq_false_iff] at calm
            simpa using calm.1
          have moved : Refines libraries settings (space.perform libraries settings call)
              (cache.step (.call call)) (redis.perform libraries settings call) :=
            ⟨refines.represents.perform call sendable,
              refines.remembers.perform refines.represents call calm,
              refines.readable.step _ first fun other same => by
                cases same
                exact sendable⟩
          exact ih moved later rest

variable {space : KeySpace} {cache : TimedCache} {redis : Redis}

theorem Refines.now (refines : Refines libraries settings space cache redis) :
    space.now = cache.now :=
  refines.represents.now.trans refines.remembers.now

/-- A present ETag is not empty. -/
theorem StoredBody.tag_filled {stored : StoredBody} {etag : PyStr} (present : stored.tag = some etag) :
    etag ≠ [] ∧ stored.etag = some etag := by
  unfold StoredBody.tag at present
  split_ifs at present with empty
  refine ⟨?_, present⟩
  rintro rfl
  exact empty (by rw [present]; rfl)

theorem Refines.getEtag (refines : Refines libraries settings space cache redis) (key : PyStr) :
    space.getEtag key = some (cache.getEtag key) := by
  have entry := refines.represents.entry key .etag nofun
  have remembered := refines.remembers.etag key
  unfold KeySpace.getEtag KeySpace.raw TimedStore.read TimedCache.getEtag TimedCache.lives
  rw [entry, Redis.entry, remembered, refines.now]
  cases present : cache.stored key with
  | none => rfl
  | some stored =>
      cases tagged : stored.tag with
      | none => simp [tagged]
      | some etag =>
          obtain ⟨filled, same⟩ := StoredBody.tag_filled tagged
          have sendable := (refines.readable.etag key stored present).1
          rw [same, Option.getD_some] at sendable
          have coded : encode etag ≠ [] := fun empty =>
            filled (encode_injective (empty.trans rfl))
          by_cases live : cache.now ≤ stored.since + 1000 * (stored.ttl + 60).toNat
          · simp [tagged, TimedEntry.map, live, coded, decodeText_encode etag sendable]
          · simp [tagged, TimedEntry.map, live]

theorem Refines.getTtl (refines : Refines libraries settings space cache redis) (key : PyStr) :
    space.getTtl key = cache.getTtl key := by
  have entry := refines.represents.entry key .ttl nofun
  have remembered := refines.remembers.ttl key
  unfold KeySpace.getTtl KeySpace.raw TimedStore.read TimedCache.getTtl TimedCache.lives
  rw [entry, Redis.entry, remembered, refines.now]
  cases present : cache.stored key with
  | none => rfl
  | some stored =>
      have sendable := (refines.readable.etag key stored present).2
      cases tagged : stored.tag with
      | none => simp [tagged]
      | some etag =>
          by_cases live : cache.now ≤ stored.since + 1000 * (stored.ttl + 60).toNat
          · simp [tagged, TimedEntry.map, live, intOfBytes_encode stored.ttl sendable]
          · simp [tagged, TimedEntry.map, live]

theorem Refines.getStale (refines : Refines libraries settings space cache redis) (key : PyStr) :
    space.getStale libraries key = some (cache.getStale key) := by
  have entry := refines.represents.entry key .stale nofun
  have remembered := refines.remembers.stale key
  unfold KeySpace.getStale KeySpace.raw TimedStore.read TimedCache.getStale TimedCache.lives
  rw [entry, Redis.entry, remembered, refines.now]
  cases present : cache.stored key with
  | none => rfl
  | some stored =>
      have back := decode_storedForm libraries settings _ (refines.readable.body key stored present)
      by_cases fresh : 0 < stored.staleTtl
      · by_cases live : cache.now ≤ stored.since + 1000 * (stored.ttl + stored.staleTtl).toNat
        · simp [fresh, live, back]
        · simp [fresh, live]
      · simp [fresh]

theorem Refines.get (refines : Refines libraries settings space cache redis) (key : PyStr) :
    space.get libraries key = some (cache.get key) := by
  have entry := refines.represents.entry key .body nofun
  have remembered := refines.remembers.body key
  have tag := refines.getEtag key
  unfold KeySpace.get KeySpace.raw TimedStore.read TimedCache.get TimedCache.lives
  rw [entry, Redis.entry, remembered, refines.now, tag]
  unfold TimedCache.getEtag TimedCache.lives
  cases present : cache.stored key with
  | none => rfl
  | some stored =>
      have back := decode_storedForm libraries settings _ (refines.readable.body key stored present)
      by_cases live : cache.now ≤ stored.since + 1000 * stored.ttl.toNat
      · have later : cache.now ≤ stored.since + 1000 * (stored.ttl + 60).toNat := by omega
        simp [live, later, back]
      · simp [live]

theorem Refines.getNegative (refines : Refines libraries settings space cache redis) (key : PyStr) :
    space.getNegative key = cache.getNegative key := by
  have body := refines.represents.entry key .negBody nofun
  have status := refines.represents.entry key .negStatus nofun
  unfold KeySpace.getNegative KeySpace.raw TimedStore.read TimedCache.getNegative TimedCache.lives
  rw [body, status, Redis.entry, Redis.entry, refines.remembers.negBody,
    refines.remembers.negStatus, refines.now]
  cases present : cache.refused key with
  | none => rfl
  | some refusal =>
      have sendable := refines.readable.status key refusal present
      have back := intOfBytes_encode (refusal.status : Int) sendable
      change KeySpace.intOfBytes (encode (numeral refusal.status)) = _ at back
      by_cases live : cache.now ≤ refusal.since + 1000 * refusal.ttl.toNat
      · simp [TimedEntry.map, live, back]
      · simp [TimedEntry.map, live]

theorem Refines.getName (refines : Refines libraries settings space cache redis)
    (datasource : PyStr) (entityId : Int) :
    space.getName datasource entityId = cache.getName datasource entityId := by
  have entry := refines.represents.name datasource entityId
  unfold KeySpace.getName KeySpace.raw TimedStore.read TimedCache.getName TimedCache.lives
  rw [entry, refines.remembers.name, refines.now]
  cases cache.named (datasource, entityId) with
  | none => rfl
  | some named => simp [TimedEntry.map]

/-- The client answers every read as the timed cache does. -/
theorem cacheClient_refines (libraries : Libraries) (settings : Settings) (start : Nat)
    (events : List CacheEvent) (quiet : NoneRaises libraries settings (.empty start) events)
    (unmarked : ∀ event ∈ events, event.Unmarked settings)
    (key datasource : PyStr) (entityId : Int) :
    let space := (KeySpace.empty start).run libraries settings events
    let cache := (TimedCache.empty start).run events
    space.get libraries key = some (cache.get key) ∧
      space.getStale libraries key = some (cache.getStale key) ∧
      space.getEtag key = some (cache.getEtag key) ∧ space.getTtl key = cache.getTtl key ∧
      space.getNegative key = cache.getNegative key ∧
      space.getName datasource entityId = cache.getName datasource entityId := by
  have initial : Refines libraries settings (.empty start) (.empty start) (.empty start) :=
    ⟨represents_empty start, remembers_empty libraries settings start, readable_empty start⟩
  obtain ⟨final, refines⟩ := initial.run events quiet unmarked
  exact ⟨refines.get key, refines.getStale key, refines.getEtag key, refines.getTtl key,
    refines.getNegative key, refines.getName datasource entityId⟩

end Run

/-- These libraries compress nothing here, because the bodies are short. -/
def cacheLibraries : Libraries where
  floatRepr := id
  floatInt _ := none
  sha256 := pinnedDigest []
  queryDigest := pinnedDigest []
  zstandard := none
  zlib := pinnedCompressor [] fun _ member => absurd member List.not_mem_nil
  pyarrow := none
  jsonb _ := none

/-- A body expires, its stale copy and ETag stay, and a refusal is remembered. -/
def expiringEvents : List CacheEvent :=
  [.call (.set (text "k") (bytes "[]") 300 (some (text "A")) 3600), .pass 301000,
    .call (.setNegative (text "k") (bytes "\x7b\x7d") 404 60)]

theorem cacheClient_refines_expiring :
    let space := (KeySpace.empty 0).run cacheLibraries {} expiringEvents
    space.get cacheLibraries (text "k") = some none ∧
      space.getStale cacheLibraries (text "k") = some (some (bytes "[]")) ∧
      space.getEtag (text "k") = some (some (text "A")) ∧ space.getTtl (text "k") = some 300 ∧
      space.getNegative (text "k") = some (bytes "\x7b\x7d", 404) := by
  have quiet : NoneRaises cacheLibraries {} (.empty 0) expiringEvents := by
    refine ⟨?_, ?_, trivial⟩ <;> decide +kernel
  have unmarked : ∀ event ∈ expiringEvents, event.Unmarked {} := by
    intro event member
    simp only [expiringEvents, List.mem_cons, List.not_mem_nil, or_false] at member
    rcases member with rfl | rfl | rfl
    · exact .inr (by decide)
    · trivial
    · trivial
  obtain ⟨body, stale, etag, ttl, negative, _⟩ :=
    cacheClient_refines cacheLibraries {} 0 expiringEvents quiet unmarked (text "k") [] 0
  dsimp only
  rw [body, stale, etag, ttl, negative]
  decide +kernel

/-- Redis refuses a positive lifetime beyond its clock, and the body is not stored. -/
theorem cacheClient_hugeTtl :
    (0 : Int) < 2 ^ 63 ∧ CacheEvent.Unmarked {} (.call (.set (text "k") (bytes "[]") (2 ^ 63) none 0)) ∧
      ((KeySpace.empty 0).run cacheLibraries {}
          [.call (.set (text "k") (bytes "[]") (2 ^ 63) none 0)]).get cacheLibraries (text "k") ≠
        some (((TimedCache.empty 0).run
          [.call (.set (text "k") (bytes "[]") (2 ^ 63) none 0)]).get (text "k")) := by
  refine ⟨by decide, .inr (by decide), ?_⟩
  decide +kernel

end EveApiCache
