import EveApiCache.Proof.Archive.Sourced
import EveApiCache.Proof.Cache.KeySpace
import EveApiCache.Proof.Service.Contract

/-!
This file shows that the shared stores hold what the contract of the tasks promises.
-/

namespace EveApiCache
open Effects

/-- This is the value of `esi:etag`, which may have expired. -/
def Redis.etagAt (redis : Redis) (key : PyStr) : Option PyStr := (redis.etag key).map (·.value)

theorem setEx_some {Key Value : Type} [DecidableEq Key] {redis : Redis}
    {store : TimedStore Key Value} {key other : Key} {value : Value} {ex : Int}
    {entry : TimedEntry Value} (stored : redis.setEx store key value ex other = some entry) :
    (other = key ∧ redis.accepts ex = true ∧ entry = ⟨value, redis.deadline ex⟩) ∨
      (store other = some entry ∧ (other = key → redis.accepts ex = false)) := by
  unfold Redis.setEx at stored
  split_ifs at stored with accepted
  · rw [TimedStore.write_apply] at stored
    split_ifs at stored with same
    · exact .inl ⟨same, accepted, (Option.some.inj stored).symm⟩
    · exact .inr ⟨stored, fun equal => absurd equal same⟩
  · exact .inr ⟨stored, fun _ => Bool.eq_false_iff.mpr accepted⟩

theorem setEx_other {Key Value : Type} [DecidableEq Key] (redis : Redis)
    (store : TimedStore Key Value) {key other : Key} (value : Value) (ex : Int)
    (differs : other ≠ key) : redis.setEx store key value ex other = store other := by
  unfold Redis.setEx
  split_ifs
  · exact TimedStore.write_other store value _ differs
  · rfl

theorem setEx_self {Key Value : Type} [DecidableEq Key] {redis : Redis}
    (store : TimedStore Key Value) (key : Key) (value : Value) {ex : Int}
    (accepted : redis.accepts ex = true) :
    redis.setEx store key value ex key = some ⟨value, redis.deadline ex⟩ := by
  unfold Redis.setEx
  rw [if_pos accepted, TimedStore.write_self]

variable (libraries : Libraries) (settings : Settings) (paired : Prop)

/-- Every body in Redis is backed, and every error entry holds what ESI refused. -/
structure Traced (history : List Fetched) (redis : Redis) : Prop where
  etag : ∀ key entry, redis.etag key = some entry → entry.value ≠ []
  body : ∀ key entry, redis.body key = some entry → ∃ body,
    entry.value = storedForm libraries settings body ∧
      Backed libraries settings paired history key body (redis.etagAt key)
  stale : ∀ key entry, redis.stale key = some entry → ∃ body,
    entry.value = storedForm libraries settings body ∧
      Backed libraries settings paired history key body (redis.etagAt key)
  negBody : ∀ key entry, redis.negBody key = some entry → ∃ status,
    redis.negStatus key = some ⟨status, entry.deadline⟩ ∧
      Refused libraries settings history key entry.value status
  negStatus : ∀ key entry, redis.negStatus key = some entry → ∃ body,
    redis.negBody key = some ⟨body, entry.deadline⟩

variable {libraries settings paired}

theorem Traced.mono {before after : List Fetched} {redis : Redis}
    (traced : Traced libraries settings paired before redis) (grown : before ⊆ after) :
    Traced libraries settings paired after redis where
  etag := traced.etag
  body key entry stored := by
    obtain ⟨body, form, backed⟩ := traced.body key entry stored
    exact ⟨body, form, backed.mono grown⟩
  stale key entry stored := by
    obtain ⟨body, form, backed⟩ := traced.stale key entry stored
    exact ⟨body, form, backed.mono grown⟩
  negBody key entry stored := by
    obtain ⟨status, same, refused⟩ := traced.negBody key entry stored
    exact ⟨status, same, refused.mono grown⟩
  negStatus := traced.negStatus

theorem Traced.empty (history : List Fetched) (now : Nat) :
    Traced libraries settings paired history (.empty now) := ⟨nofun, nofun, nofun, nofun, nofun⟩

/-- The name cache and the clock do not matter. -/
theorem Traced.of_same {history : List Fetched} {before after : Redis}
    (traced : Traced libraries settings paired history before) (body : after.body = before.body)
    (stale : after.stale = before.stale) (etag : after.etag = before.etag)
    (negBody : after.negBody = before.negBody) (negStatus : after.negStatus = before.negStatus) :
    Traced libraries settings paired history after := by
  have same (key : PyStr) : after.etagAt key = before.etagAt key := by
    unfold Redis.etagAt
    rw [etag]
  exact
    { etag := fun key entry stored => traced.etag key entry (etag ▸ stored)
      body := fun key entry stored => same key ▸ traced.body key entry (body ▸ stored)
      stale := fun key entry stored => same key ▸ traced.stale key entry (stale ▸ stored)
      negBody := fun key entry stored => negStatus ▸ traced.negBody key entry (negBody ▸ stored)
      negStatus := fun key entry stored => negBody ▸ traced.negStatus key entry (negStatus ▸ stored) }

/-- Without pairing the ETag of a backed body does not matter. -/
theorem Backed.free (free : ¬paired) {history : List Fetched} {key : PyStr} {body : Bytes}
    {etag : Option PyStr} (other : Option PyStr)
    (backed : Backed libraries settings paired history key body etag) :
    Backed libraries settings paired history key body other := by
  obtain ⟨fetch, member, ok, same, serves, _⟩ := backed
  exact ⟨fetch, member, ok, same, serves, fun pairs => absurd pairs free⟩

/-- An empty ETag is stored as no ETag. -/
theorem Backed.normal {history : List Fetched} {key : PyStr} {body : Bytes} {etag : Option PyStr}
    (backed : Backed libraries settings paired history key body etag) :
    Backed libraries settings paired history key body
      (if etag.getD [] = [] then none else some (etag.getD [])) := by
  obtain ⟨fetch, member, ok, same, serves, pairs⟩ := backed
  refine ⟨fetch, member, ok, same, serves, fun pair nonempty => ?_⟩
  split_ifs at nonempty ⊢ with absent
  · exact absurd rfl nonempty
  · cases etag with
    | none => exact absurd rfl absent
    | some etag => exact pairs pair absent

theorem set_etagAt (redis : Redis) (key : PyStr) (body : Bytes) (ttl : Int) (etag : Option PyStr)
    (staleTtl : Int) (succeeds : redis.setSucceeds ttl etag staleTtl = true) :
    (redis.set libraries settings key body ttl etag staleTtl).etagAt key =
      if etag.getD [] = [] then none else some (etag.getD []) := by
  unfold Redis.etagAt Redis.set
  dsimp only
  split_ifs with absent
  · rw [TimedStore.erase_self]
    rfl
  · have accepted : redis.accepts (ttl + 60) = true := by
      refine List.all_eq_true.mp succeeds _ ?_
      simp [Redis.lifetimes, absent]
    rw [setEx_self _ _ _ accepted]
    rfl

theorem set_etagAt_other (redis : Redis) {key other : PyStr} (body : Bytes) (ttl : Int)
    (etag : Option PyStr) (staleTtl : Int) (differs : other ≠ key) :
    (redis.set libraries settings key body ttl etag staleTtl).etagAt other = redis.etagAt other := by
  unfold Redis.etagAt Redis.set
  dsimp only
  split_ifs
  · rw [TimedStore.erase_other _ differs]
  · rw [setEx_other _ _ _ _ differs]

/-- Storing a backed body keeps Redis traced. With pairing Redis has to take every lifetime. -/
theorem set_traced {history : List Fetched} {redis : Redis}
    (traced : Traced libraries settings paired history redis) (key : PyStr) (body : Bytes) (ttl : Int)
    (etag : Option PyStr) (staleTtl : Int)
    (backed : Backed libraries settings paired history key body etag)
    (whole : paired → redis.setSucceeds ttl etag staleTtl = true) :
    Traced libraries settings paired history
      (redis.set libraries settings key body ttl etag staleTtl) := by
  have fresh : Backed libraries settings paired history key body
      ((redis.set libraries settings key body ttl etag staleTtl).etagAt key) := by
    by_cases pairs : paired
    · rw [set_etagAt redis key body ttl etag staleTtl (whole pairs)]
      exact backed.normal
    · exact backed.free pairs _
  have kept (store : TimedStore PyStr Bytes) (ex : Int) (member : ex ∈ Redis.lifetimes ttl staleTtl etag)
      (old : ∀ key entry, store key = some entry → ∃ body,
        entry.value = storedForm libraries settings body ∧
          Backed libraries settings paired history key body (redis.etagAt key))
      (other : PyStr) (entry : TimedEntry Bytes)
      (stored : redis.setEx store key (storedForm libraries settings body) ex other = some entry) :
      ∃ content, entry.value = storedForm libraries settings content ∧
        Backed libraries settings paired history other content
          ((redis.set libraries settings key body ttl etag staleTtl).etagAt other) := by
    rcases setEx_some stored with ⟨rfl, _, rfl⟩ | ⟨stored, refused⟩
    · exact ⟨body, rfl, fresh⟩
    · obtain ⟨content, form, backed⟩ := old other entry stored
      refine ⟨content, form, ?_⟩
      by_cases same : other = key
      · refine backed.free (fun pairs => ?_) _
        have accepted := List.all_eq_true.mp (whole pairs) ex member
        rw [refused same] at accepted
        cases accepted
      · rw [set_etagAt_other redis body ttl etag staleTtl same]
        exact backed
  refine
    { etag := fun other entry stored => ?_
      body := kept redis.body ttl (by simp [Redis.lifetimes]) traced.body
      stale := fun other entry stored => ?_
      negBody := fun other entry stored => ?_
      negStatus := fun other entry stored => ?_ }
  · change (if etag.getD [] = [] then redis.etag.erase key
      else redis.setEx redis.etag key (etag.getD []) (ttl + 60)) other = some entry at stored
    split_ifs at stored with absent
    · rw [TimedStore.erase_apply] at stored
      split_ifs at stored
      exact traced.etag other entry stored
    · rcases setEx_some stored with ⟨_, _, rfl⟩ | ⟨stored, _⟩
      · exact absent
      · exact traced.etag other entry stored
  · change (if 0 < staleTtl then redis.setEx redis.stale key _ (ttl + staleTtl)
      else redis.stale.erase key) other = some entry at stored
    split_ifs at stored with copied
    · exact kept redis.stale (ttl + staleTtl) (by simp [Redis.lifetimes, copied]) traced.stale other
        entry stored
    · rw [TimedStore.erase_apply] at stored
      split_ifs at stored with same
      obtain ⟨content, form, backed⟩ := traced.stale other entry stored
      exact ⟨content, form, set_etagAt_other redis body ttl etag staleTtl same ▸ backed⟩
  · change redis.negBody.erase key other = some entry at stored
    rw [TimedStore.erase_apply] at stored
    split_ifs at stored with same
    obtain ⟨status, found, refused⟩ := traced.negBody other entry stored
    exact ⟨status, (TimedStore.erase_other _ same).trans found, refused⟩
  · change redis.negStatus.erase key other = some entry at stored
    rw [TimedStore.erase_apply] at stored
    split_ifs at stored with same
    obtain ⟨content, found⟩ := traced.negStatus other entry stored
    exact ⟨content, (TimedStore.erase_other _ same).trans found⟩

theorem setNegative_traced {history : List Fetched} {redis : Redis}
    (traced : Traced libraries settings paired history redis) (key : PyStr) (body : Bytes)
    (status : Nat) (ttl : Int) (refused : Refused libraries settings history key body status) :
    Traced libraries settings paired history (redis.setNegative key body status ttl) := by
  refine { traced with negBody := ?_, negStatus := ?_ }
  · intro other entry stored
    rcases setEx_some stored with ⟨rfl, accepted, rfl⟩ | ⟨stored, outside⟩
    · exact ⟨status, setEx_self _ _ _ accepted, refused⟩
    · obtain ⟨old, found, former⟩ := traced.negBody other entry stored
      refine ⟨old, ?_, former⟩
      by_cases same : other = key
      · change redis.setEx redis.negStatus key status ttl other = _
        rw [Redis.setEx, outside same]
        exact found
      · exact (setEx_other redis _ _ _ same).trans found
  · intro other entry stored
    rcases setEx_some stored with ⟨rfl, accepted, rfl⟩ | ⟨stored, outside⟩
    · exact ⟨body, setEx_self _ _ _ accepted⟩
    · obtain ⟨content, found⟩ := traced.negStatus other entry stored
      refine ⟨content, ?_⟩
      by_cases same : other = key
      · change redis.setEx redis.negBody key body ttl other = _
        rw [Redis.setEx, outside same]
        exact found
      · exact (setEx_other redis _ _ _ same).trans found

/-- A value that Redis holds is read back as the body that was stored. -/
theorem Traced.decoded {history : List Fetched}
    (unmarked : ∀ fetch ∈ history, (fetch.response libraries).status = 200 →
      Unmarked settings (fetch.response libraries).body) {key : PyStr} {body : Bytes}
    {etag : Option PyStr} (backed : Backed libraries settings paired history key body etag) :
    decodeValue libraries (storedForm libraries settings body) = some body := by
  obtain ⟨fetch, member, ok, rfl, _⟩ := backed
  exact decode_storedForm libraries settings _ (unmarked fetch member ok)

theorem getStale_backed {history : List Fetched} {redis : Redis}
    (traced : Traced libraries settings paired history redis)
    (unmarked : ∀ fetch ∈ history, (fetch.response libraries).status = 200 →
      Unmarked settings (fetch.response libraries).body) {key : PyStr} {body : Bytes}
    (read : redis.getStale libraries key = some (some body)) :
    Backed libraries settings paired history key body (redis.etagAt key) := by
  unfold Redis.getStale at read
  split at read
  · cases read
  · rename_i raw found
    obtain ⟨deadline, stored, _⟩ := TimedStore.read_eq_some.mp found
    obtain ⟨content, form, backed⟩ := traced.stale key _ stored
    have form : raw = storedForm libraries settings content := form
    obtain ⟨value, decoded, same⟩ := Option.map_eq_some_iff.mp read
    cases same
    rw [form, Traced.decoded unmarked backed] at decoded
    cases decoded
    exact backed

end EveApiCache
