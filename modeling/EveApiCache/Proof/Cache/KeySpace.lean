import EveApiCache.Construction.KeySpace
import EveApiCache.Proof.Archive.Keys
import EveApiCache.Proof.Text

/-!
This file shows that the flat key space holds the families of the cache.
-/

namespace EveApiCache

/-- A body is unmarked when the cache compresses it or it does not begin with the four marker bytes. -/
def Unmarked (settings : Settings) (body : Bytes) : Prop :=
  settings.cacheCompressMinBytes ≤ body.length ∨ cacheMagic.isPrefixOf body = false

/-- The byte after the marker chooses the decompressor. -/
theorem decode_marked (libraries : Libraries) (codec : Byte) (data : Bytes) :
    decodeValue libraries (cacheMagic ++ [codec] ++ data) =
      if [codec] = bytes "z" then libraries.zstandard.bind fun zstandard => zstandard.decompress data
      else if [codec] = bytes "l" then libraries.zlib.decompress data
      else some (cacheMagic ++ [codec] ++ data) := by
  have front : cacheMagic.isPrefixOf (cacheMagic ++ [codec] ++ data) = true :=
    List.isPrefixOf_iff_prefix.mpr ⟨_, (List.append_assoc _ _ _).symm⟩
  have letter : ((cacheMagic ++ [codec] ++ data).drop cacheMagic.length).take 1 = [codec] := by
    rw [List.append_assoc, List.drop_left]
    rfl
  have tail : (cacheMagic ++ [codec] ++ data).drop (cacheMagic.length + 1) = data :=
    List.drop_left' rfl
  unfold decodeValue
  simp only [front, Bool.not_true, Bool.false_eq_true, if_false, letter, tail]

theorem decode_compressValue (libraries : Libraries) (body : Bytes) :
    decodeValue libraries (compressValue libraries body) = some body := by
  have zstd : bytes "z" = [0x7a] := by decide
  have zlib : bytes "l" = [0x6c] := by decide
  unfold compressValue
  cases present : libraries.zstandard with
  | some zstandard =>
      simp only [zstd]
      rw [decode_marked, if_pos zstd.symm, present]
      exact zstandard.inverse 6 body
  | none =>
      simp only [zlib]
      rw [decode_marked, if_neg (by decide), if_pos zlib.symm]
      exact libraries.zlib.inverse 6 body

/-- An unmarked body comes back from the form in which it is stored. -/
theorem decode_storedForm (libraries : Libraries) (settings : Settings) (body : Bytes)
    (unmarked : Unmarked settings body) :
    decodeValue libraries (storedForm libraries settings body) = some body := by
  unfold storedForm
  split_ifs with large
  · exact decode_compressValue libraries body
  · have plain := unmarked.resolve_left large
    unfold decodeValue
    rw [plain]
    rfl

/-- No family begins the keys of another one. -/
theorem family_prefixed (one two : Family)
    (begins : (text one.word ++ text ":") <+: (text two.word ++ text ":")) : one = two := by
  cases one <;> cases two <;> first | rfl | exact absurd begins (by decide)

/-- A key text determines the family and the key. -/
theorem entryKey_eq_iff {one two : Family} {key other : PyStr} :
    entryKey one key = entryKey two other ↔ one = two ∧ key = other := by
  constructor
  · intro same
    simp only [entryKey, Redis.keyText, List.append_assoc] at same
    have rest := List.append_cancel_left same
    rw [← List.append_assoc, ← List.append_assoc] at rest
    have families : one = two := by
      have first : (text one.word ++ text ":") <+: (text one.word ++ text ":" ++ key) :=
        List.prefix_append _ _
      have second : (text two.word ++ text ":") <+: (text one.word ++ text ":" ++ key) :=
        ⟨other, rest.symm⟩
      rcases le_total (text one.word ++ text ":").length (text two.word ++ text ":").length with
        short | short
      · exact family_prefixed one two (List.prefix_of_prefix_length_le first second short)
      · exact (family_prefixed two one (List.prefix_of_prefix_length_le second first short)).symm
    subst families
    exact ⟨rfl, List.append_cancel_left rest⟩
  · rintro ⟨rfl, rfl⟩
    rfl

/-- A name key determines the datasource and the entity. -/
theorem nameKey_eq_iff {datasource other : PyStr} {entityId another : Int} :
    nameKey datasource entityId = nameKey other another ↔
      datasource = other ∧ entityId = another := by
  constructor
  · intro same
    have free (value : Int) : (0x3a : CodePoint) ∉ intStr value :=
      intStr_free value _ (by decide) (by decide)
    obtain ⟨datasources, entities⟩ := last_part (free entityId) (free another) same
    exact ⟨datasources, intStr_injective entities⟩
  · rintro ⟨rfl, rfl⟩
    rfl

/-- An entry of a family is the value that the commands of the client send for it. -/
def Redis.entry (redis : Redis) (key : PyStr) : Family → Option (TimedEntry Bytes)
  | .body => redis.body key
  | .stale => redis.stale key
  | .etag => (redis.etag key).map (·.map encode)
  | .ttl => (redis.ttl key).map (·.map fun ttl => encode (intStr ttl))
  | .negBody => redis.negBody key
  | .negStatus => (redis.negStatus key).map (·.map fun status => encode (numeral status))
  | .name => none

/-- The flat key space holds every entry of every family under its key text. -/
structure Represents (space : KeySpace) (redis : Redis) : Prop where
  now : space.now = redis.now
  entry : ∀ key family, family ≠ .name →
    space.entries (entryKey family key) = redis.entry key family
  name : ∀ datasource entityId, space.entries (entryKey .name (nameKey datasource entityId)) =
    (redis.name (datasource, intStr entityId)).map (·.map encode)

theorem represents_empty (now : Nat) : Represents (.empty now) (.empty now) where
  now := rfl
  entry key family _ := by cases family <;> rfl
  name datasource entityId := rfl

theorem effect_set (now : Nat) (store : TimedStore PyStr Bytes) (key other : PyStr) (value : Bytes)
    (ex : Int) : Command.effect now store (.set key value ex) other =
      if other = key ∧ acceptsAt now ex = true then some ⟨value, now + 1000 * ex.toNat⟩
      else store other := by
  unfold Command.effect
  by_cases accepted : acceptsAt now ex = true
  · simp [accepted, TimedStore.write_apply]
  · simp [accepted]

theorem effect_delete (now : Nat) (store : TimedStore PyStr Bytes) (key other : PyStr) :
    Command.effect now store (.delete key) other = if other = key then none else store other :=
  TimedStore.erase_apply store key other

theorem setEx_apply {Key Value : Type} [DecidableEq Key] (redis : Redis)
    (store : TimedStore Key Value) (key other : Key) (value : Value) (ex : Int) :
    redis.setEx store key value ex other =
      if other = key ∧ redis.accepts ex = true then some ⟨value, redis.deadline ex⟩
      else store other := by
  unfold Redis.setEx
  by_cases accepted : redis.accepts ex = true
  · simp [accepted, TimedStore.write_apply]
  · simp [accepted]

section Libraries
variable (libraries : Libraries) (settings : Settings)

/-- This is the effect of a call on the families. -/
def Redis.perform (redis : Redis) : CacheCall → Redis
  | .set key body ttl etag staleTtl => redis.set libraries settings key body ttl etag staleTtl
  | .setNegative key body status ttl => redis.setNegative key body status ttl
  | .setName datasource entityId name category ttl =>
      { redis with
        name := redis.setEx redis.name (datasource, intStr entityId)
          (Redis.nameValue name category) ttl }
  | .setNames datasource items ttl =>
      { redis with
        name := items.foldl (fun names item => redis.setEx names (datasource, intStr item.1)
          (Redis.nameValue item.2.1 item.2.2) ttl) redis.name }

variable {libraries settings}

/-- Both views accept the same lifetimes. -/
theorem Represents.accepts {space : KeySpace} {redis : Redis} (represents : Represents space redis)
    (ex : Int) : acceptsAt space.now ex = redis.accepts ex := by
  rw [represents.now]
  rfl

theorem Represents.deadline {space : KeySpace} {redis : Redis}
    (represents : Represents space redis) (ex : Int) :
    space.now + 1000 * ex.toNat = redis.deadline ex := by
  rw [represents.now]
  rfl

/-- A transaction of `set` writes the same entries as the families. -/
theorem Represents.set {space : KeySpace} {redis : Redis} (represents : Represents space redis)
    (key : PyStr) (body : Bytes) (ttl : Int) (etag : Option PyStr) (staleTtl : Int) :
    Represents ⟨space.now, (CacheCall.pipeline libraries settings
        (.set key body ttl etag staleTtl)).foldl (Command.effect space.now) space.entries⟩
      (redis.set libraries settings key body ttl etag staleTtl) := by
  refine ⟨represents.now, ?_, ?_⟩
  · intro other family plain
    have before := represents.entry other family plain
    by_cases fresh : 0 < staleTtl <;> by_cases untagged : etag.getD [] = [] <;> cases family <;>
      first
      | exact absurd rfl plain
      | simp only [CacheCall.pipeline, fresh, untagged, if_true, if_false, List.cons_append,
          List.nil_append, List.foldl_cons, List.foldl_nil, effect_set, effect_delete,
          entryKey_eq_iff, Redis.entry, Redis.set, setEx_apply, TimedStore.erase_apply,
          represents.accepts, represents.deadline, reduceCtorEq, true_and, false_and] at before ⊢
        split_ifs <;> first | exact before | rfl
  · intro datasource entityId
    have before := represents.name datasource entityId
    by_cases fresh : 0 < staleTtl <;> by_cases untagged : etag.getD [] = [] <;>
      simpa [CacheCall.pipeline, fresh, untagged, effect_set, effect_delete, entryKey_eq_iff,
        Redis.set] using before

theorem Represents.setNegative {space : KeySpace} {redis : Redis}
    (represents : Represents space redis) (key : PyStr) (body : Bytes) (status : Nat) (ttl : Int) :
    Represents ⟨space.now, (CacheCall.pipeline libraries settings
        (.setNegative key body status ttl)).foldl (Command.effect space.now) space.entries⟩
      (redis.setNegative key body status ttl) := by
  refine ⟨represents.now, ?_, ?_⟩
  · intro other family plain
    have before := represents.entry other family plain
    cases family <;>
      first
      | exact absurd rfl plain
      | simp only [CacheCall.pipeline, List.foldl_cons, List.foldl_nil, effect_set, entryKey_eq_iff,
          Redis.entry, Redis.setNegative, setEx_apply, represents.accepts, represents.deadline,
          reduceCtorEq, true_and, false_and, if_false] at before ⊢
        first | exact before | (split_ifs <;> first | exact before | rfl)
  · intro datasource entityId
    have before := represents.name datasource entityId
    simpa [CacheCall.pipeline, effect_set, entryKey_eq_iff, Redis.setNegative] using before

/-- One name command writes the same entry as the family of names. -/
theorem Represents.setName {space : KeySpace} {redis : Redis} (represents : Represents space redis)
    (datasource : PyStr) (ttl : Int) (item : Int × PyStr × PyStr) :
    Represents ⟨space.now, Command.effect space.now space.entries (nameCommand datasource ttl item)⟩
      { redis with
        name := redis.setEx redis.name (datasource, intStr item.1)
          (Redis.nameValue item.2.1 item.2.2) ttl } := by
  refine ⟨represents.now, ?_, ?_⟩
  · intro other family plain
    have before := represents.entry other family plain
    simpa [nameCommand, effect_set, entryKey_eq_iff, plain, Redis.entry] using before
  · intro other entityId
    have before := represents.name other entityId
    have entity : (other, intStr entityId) = (datasource, intStr item.1) ↔
        other = datasource ∧ entityId = item.1 := by
      rw [Prod.mk.injEq, intStr_injective.eq_iff]
    simp only [nameCommand, effect_set, entryKey_eq_iff, nameKey_eq_iff, true_and, setEx_apply,
      represents.accepts, represents.deadline, entity]
    rw [before]
    split_ifs <;> rfl

theorem Represents.setNames {space : KeySpace} {redis : Redis} (represents : Represents space redis)
    (datasource : PyStr) (items : List (Int × PyStr × PyStr)) (ttl : Int) :
    Represents ⟨space.now, (items.map (nameCommand datasource ttl)).foldl (Command.effect space.now)
        space.entries⟩
      { redis with
        name := items.foldl (fun names item => redis.setEx names (datasource, intStr item.1)
          (Redis.nameValue item.2.1 item.2.2) ttl) redis.name } := by
  induction items generalizing space redis with
  | nil => exact represents
  | cons item items ih => exact ih (represents.setName datasource ttl item)

/-- The flat key space and the families agree after every call that can be sent. -/
theorem Represents.perform {space : KeySpace} {redis : Redis} (represents : Represents space redis)
    (call : CacheCall) (sendable : call.sendable = true) :
    Represents (space.perform libraries settings call) (redis.perform libraries settings call) := by
  unfold KeySpace.perform
  rw [if_pos sendable]
  cases call with
  | set key body ttl etag staleTtl => exact represents.set key body ttl etag staleTtl
  | setNegative key body status ttl => exact represents.setNegative key body status ttl
  | setName datasource entityId name category ttl =>
      exact represents.setName datasource ttl (entityId, name, category)
  | setNames datasource items ttl => exact represents.setNames datasource items ttl

end Libraries

end EveApiCache
