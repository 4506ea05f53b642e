import EveApiCache.Construction.RateLimit
import EveApiCache.Library.SlidingWindow

/-!
This file shows that the rate limiter is an exact sliding window.
-/

namespace EveApiCache

open SlidingWindow

namespace RateLimiter

@[simp] theorem assign_self (hits : List (PyStr × List ℚ)) (key : PyStr) (deque : List ℚ) :
    (assign hits key deque).lookup key = some deque := by
  induction hits with
  | nil => simp [assign]
  | cons entry hits ih =>
      obtain ⟨other, times⟩ := entry
      by_cases same : other = key
      · simp [assign, same]
      · have differs : (key == other) = false := by simpa using Ne.symm same
        simp [assign, same, List.lookup_cons, differs, ih]

theorem assign_other (hits : List (PyStr × List ℚ)) {key other : PyStr} (deque : List ℚ)
    (differs : other ≠ key) : (assign hits key deque).lookup other = hits.lookup other := by
  induction hits with
  | nil =>
      have apart : (other == key) = false := by simpa using differs
      simp [assign, List.lookup_cons, apart]
  | cons entry hits ih =>
      obtain ⟨name, times⟩ := entry
      by_cases same : name = key
      · subst same
        have apart : (other == name) = false := by simpa using differs
        simp [assign, List.lookup_cons, apart]
      · simp [assign, same, List.lookup_cons, ih]

theorem assign_keys (hits : List (PyStr × List ℚ)) (key : PyStr) (deque : List ℚ) :
    (assign hits key deque).map Prod.fst =
      if key ∈ hits.map Prod.fst then hits.map Prod.fst else hits.map Prod.fst ++ [key] := by
  induction hits with
  | nil => rfl
  | cons entry hits ih =>
      obtain ⟨other, times⟩ := entry
      by_cases same : other = key
      · simp [assign, same]
      · rw [assign, if_neg same, List.map_cons, ih, List.map_cons]
        by_cases member : key ∈ hits.map Prod.fst
        · simp [member]
        · simp [member, Ne.symm same]

theorem assign_nodup {hits : List (PyStr × List ℚ)} (unique : (hits.map Prod.fst).Nodup)
    (key : PyStr) (deque : List ℚ) : ((assign hits key deque).map Prod.fst).Nodup := by
  rw [assign_keys]
  split
  · exact unique
  · rename_i absent
    exact List.nodup_append.mpr ⟨unique, by simp, by
      intro name member other same equal
      rw [List.mem_singleton] at same
      subst same
      exact absent (equal ▸ member)⟩

/-- A dictionary without the dropped entries reads an entry or nothing. -/
theorem lookup_filter (kept : List ℚ → Bool) {hits : List (PyStr × List ℚ)}
    (unique : (hits.map Prod.fst).Nodup) (key : PyStr) :
    (hits.filter fun entry => kept entry.2).lookup key = (hits.lookup key).filter kept := by
  induction hits with
  | nil => rfl
  | cons entry hits ih =>
      obtain ⟨other, times⟩ := entry
      rw [List.map_cons, List.nodup_cons] at unique
      by_cases same : key = other
      · subst same
        have absent : hits.lookup key = none := by
          rw [List.lookup_eq_none_iff]
          intro pair member
          have fresh : key ≠ pair.1 := fun equal =>
            unique.1 (List.mem_map.mpr ⟨pair, member, equal.symm⟩)
          simpa using fresh
        have rest := ih unique.2
        rw [absent] at rest
        by_cases keep : kept times = true
        · simp [keep, Option.filter]
        · simp [keep, Option.filter, rest]
      · have differs : (key == other) = false := by simpa using same
        by_cases keep : kept times = true
        · simp [keep, List.lookup_cons, differs, ih unique.2]
        · simp [keep, List.lookup_cons, differs, ih unique.2]

/-- The limiter keeps the hits of a history that can still count at the latest time or later. -/
structure Follows (limiter : RateLimiter) (history : List (Hit PyStr ℚ)) (latest : ℚ) : Prop where
  unique : (limiter.hits.map Prod.fst).Nodup
  sorted : ∀ key, (limiter.hitsOf key).Pairwise (· ≤ ·)
  past : ∀ key, ∀ time ∈ limiter.hitsOf key, time ≤ latest
  live : ∀ key cutoff, latest - limiter.windowSeconds ≤ cutoff →
    (limiter.hitsOf key).filter (cutoff < ·) = since history key cutoff

/-- A new limiter has no history. -/
theorem Follows.fresh (limit windowSeconds : Int) (pruneInterval : Nat) (latest : ℚ) :
    Follows { limit, windowSeconds, pruneInterval } [] latest where
  unique := List.nodup_nil
  sorted key := List.Pairwise.nil
  past key time member := by cases member
  live key cutoff _ := by simp [hitsOf, since]

theorem Follows.later {limiter : RateLimiter} {history : List (Hit PyStr ℚ)} {latest now : ℚ}
    (follows : Follows limiter history latest) (order : latest ≤ now) :
    Follows limiter history now where
  unique := follows.unique
  sorted := follows.sorted
  past key time member := (follows.past key time member).trans order
  live key cutoff bound := follows.live key cutoff ((sub_le_sub_right order _).trans bound)

@[simp] theorem pruned_limit (limiter : RateLimiter) (cutoff : ℚ) :
    (limiter.pruned cutoff).limit = limiter.limit := by
  unfold pruned
  split <;> rfl

@[simp] theorem pruned_windowSeconds (limiter : RateLimiter) (cutoff : ℚ) :
    (limiter.pruned cutoff).windowSeconds = limiter.windowSeconds := by
  unfold pruned
  split <;> rfl

/-- Pruning keeps a deque or drops one that has no live time. -/
theorem prune_hitsOf (limiter : RateLimiter) (unique : (limiter.hits.map Prod.fst).Nodup)
    (cutoff : ℚ) (key : PyStr) :
    (limiter.prune cutoff).hitsOf key =
      if idle cutoff (limiter.hitsOf key) then [] else limiter.hitsOf key := by
  have found := lookup_filter (fun deque => !idle cutoff deque) unique key
  unfold hitsOf prune
  rw [found]
  cases limiter.hits.lookup key with
  | none => simp
  | some deque =>
      by_cases quiet : idle cutoff deque = true
      · simp [Option.filter, quiet]
      · simp [Option.filter, quiet]

theorem Follows.prune {limiter : RateLimiter} {history : List (Hit PyStr ℚ)} {now : ℚ}
    (follows : Follows limiter history now) :
    Follows (limiter.prune (now - limiter.windowSeconds)) history now where
  unique := follows.unique.sublist (List.filter_sublist.map Prod.fst)
  sorted key := by
    rw [prune_hitsOf limiter follows.unique]
    split
    · exact List.Pairwise.nil
    · exact follows.sorted key
  past key time member := by
    rw [prune_hitsOf limiter follows.unique] at member
    split at member
    · cases member
    · exact follows.past key time member
  live key cutoff bound := by
    rw [prune_hitsOf limiter follows.unique, ← follows.live key cutoff bound]
    split
    · rename_i quiet
      rw [filter_eq_nil cutoff (limiter.hitsOf key) (follows.sorted key)]
      · rfl
      · intro last final
        have expired : last ≤ now - limiter.windowSeconds := by
          simpa [idle, final] using quiet
        exact expired.trans bound
    · rfl

theorem Follows.pruned {limiter : RateLimiter} {history : List (Hit PyStr ℚ)} {now : ℚ}
    (follows : Follows limiter history now) :
    Follows (limiter.pruned (now - limiter.windowSeconds)) history now := by
  unfold RateLimiter.pruned
  split
  · exact ⟨follows.prune.unique, follows.prune.sorted, follows.prune.past, follows.prune.live⟩
  · exact ⟨follows.unique, follows.sorted, follows.past, follows.live⟩

/-- A deque that agrees with the history of its key may be assigned. -/
theorem Follows.assign {limiter : RateLimiter} {history after : List (Hit PyStr ℚ)} {now : ℚ}
    (follows : Follows limiter history now) (key : PyStr) (deque : List ℚ)
    (sorted : deque.Pairwise (· ≤ ·)) (past : ∀ time ∈ deque, time ≤ now)
    (live : ∀ cutoff, now - limiter.windowSeconds ≤ cutoff →
      deque.filter (cutoff < ·) = since after key cutoff)
    (others : ∀ other ≠ key, ∀ cutoff, since after other cutoff = since history other cutoff) :
    Follows { limiter with hits := RateLimiter.assign limiter.hits key deque } after now where
  unique := assign_nodup follows.unique key deque
  sorted other := by
    by_cases same : other = key
    · subst same
      simpa [hitsOf] using sorted
    · simpa [hitsOf, assign_other _ _ same] using follows.sorted other
  past other := by
    by_cases same : other = key
    · subst same
      simpa [hitsOf] using past
    · simpa [hitsOf, assign_other _ _ same] using follows.past other
  live other cutoff bound := by
    by_cases same : other = key
    · subst same
      simpa [hitsOf] using live cutoff bound
    · rw [others other same cutoff, ← follows.live other cutoff bound]
      simp [hitsOf, assign_other _ _ same]

/-- These are the hits after one answered call. -/
def recorded (history : List (Hit PyStr ℚ)) (now : ℚ) (key : PyStr) (admitted : Bool) :
    List (Hit PyStr ℚ) :=
  if admitted then history ++ [⟨key, now⟩] else history

/-- A call is admitted when the window before it has room, and it reports what remains. -/
theorem admit_follows {limiter : RateLimiter} {history : List (Hit PyStr ℚ)} {now : ℚ}
    (follows : Follows limiter history now) (key : PyStr) :
    let used := (since history key (now - limiter.windowSeconds)).length
    let answer := limiter.hit now (now - limiter.windowSeconds) key
    (answer.1.1 = true ↔ (used : Int) < limiter.limit) ∧
      answer.1.2 = (if answer.1.1 then limiter.limit - (used + 1) else 0) ∧
      answer.2.limit = limiter.limit ∧ answer.2.windowSeconds = limiter.windowSeconds ∧
      Follows answer.2 (recorded history now key answer.1.1) now := by
  have trimmed : (limiter.hitsOf key).dropWhile (· ≤ now - limiter.windowSeconds) =
      since history key (now - limiter.windowSeconds) := by
    rw [dropWhile_eq_filter _ _ (follows.sorted key)]
    exact follows.live key _ le_rfl
  have kept := List.dropWhile_sublist (l := limiter.hitsOf key)
    (fun time => decide (time ≤ now - (limiter.windowSeconds : ℚ)))
  rw [trimmed] at kept
  have sorted := (follows.sorted key).sublist kept
  have past : ∀ time ∈ since history key (now - limiter.windowSeconds), time ≤ now :=
    fun time member => follows.past key time (kept.mem member)
  dsimp only
  unfold hit
  rw [trimmed]
  dsimp only
  by_cases full : limiter.limit ≤ (since history key (now - limiter.windowSeconds)).length
  · rw [if_pos full]
    refine ⟨by simpa using full, rfl, rfl, rfl, ?_⟩
    exact follows.assign key _ sorted past
      (fun cutoff bound => since_filter history key bound) fun _ _ _ => rfl
  · rw [if_neg full]
    refine ⟨by simpa using full, by simp, rfl, rfl, ?_⟩
    apply follows.assign key
    · exact List.pairwise_append.mpr ⟨sorted, by simp, fun time member other same => by
        rw [List.mem_singleton.mp same]
        exact past time member⟩
    · intro time member
      rcases List.mem_append.mp member with earlier | final
      · exact past time earlier
      · exact (List.mem_singleton.mp final).le
    · intro cutoff bound
      rw [List.filter_append, since_filter history key bound, recorded, if_pos rfl, since_append]
      by_cases after : cutoff < now
      · rw [since_self key now cutoff after]
        simp [after]
      · simp [since, after]
    · intro other differs cutoff
      rw [recorded, if_pos rfl, since_append, since_other other key now cutoff differs.symm,
        List.append_nil]

/-- The limiter answers as the exact sliding window does, and pruning is invisible. -/
theorem allow_follows {limiter : RateLimiter} {history : List (Hit PyStr ℚ)} {latest now : ℚ}
    (follows : Follows limiter history latest) (enabled : 0 < limiter.limit)
    (order : latest ≤ now) (key : PyStr) :
    let used := (since history key (now - limiter.windowSeconds)).length
    let answer := limiter.allow now key
    (answer.1.1 = true ↔ (used : Int) < limiter.limit) ∧
      answer.1.2 = (if answer.1.1 then limiter.limit - (used + 1) else 0) ∧
      answer.2.limit = limiter.limit ∧ answer.2.windowSeconds = limiter.windowSeconds ∧
      Follows answer.2 (recorded history now key answer.1.1) now := by
  have answered := admit_follows (follows.later order).pruned key
  rw [pruned_windowSeconds, pruned_limit] at answered
  unfold allow
  rw [if_neg (not_le.mpr enabled)]
  exact answered

end RateLimiter

end EveApiCache
