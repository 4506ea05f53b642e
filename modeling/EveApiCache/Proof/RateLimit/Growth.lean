import EveApiCache.Proof.RateLimit.Exact
import EveApiCache.Library.StepMachine
import Mathlib.Data.List.Dedup

/-!
This file bounds what the rate limiter stores, whatever keys call it.
-/

namespace EveApiCache

open SlidingWindow StepMachine

/-- The next call of an enabled limiter prunes it first. -/
def RateLimiter.prunesNext (limiter : RateLimiter) : Bool :=
  limiter.pruneInterval ≤ limiter.opsSincePrune + 1

/-- A watched limiter remembers the time of its last call, its admitted hits and its last prune. -/
structure WatchedLimiter where
  limiter : RateLimiter
  latest : Option ℚ := none
  admitted : List (Hit PyStr ℚ) := []
  lastPrune : Option ℚ := none

namespace WatchedLimiter

/-- Nothing happened after this time. -/
def Until (state : WatchedLimiter) (now : ℚ) : Prop := ∀ time ∈ state.latest, time ≤ now

instance decidableUntil (state : WatchedLimiter) (now : ℚ) : Decidable (state.Until now) :=
  inferInstanceAs (Decidable (∀ time ∈ state.latest, time ≤ now))

/-- A call is answered at its time, which is never before an earlier one. -/
def allow (state : WatchedLimiter) (call : AllowCall) : Option WatchedLimiter :=
  if state.Until call.now then
    let (answer, limiter) := state.limiter.allow call.now call.key
    some {
      limiter
      latest := some call.now
      admitted := RateLimiter.recorded state.admitted call.now call.key answer.1
      lastPrune := if state.limiter.prunesNext then some call.now else state.lastPrune }
  else none

/-- These keys have an admitted hit in the window that ended at a time. -/
def keysBefore (state : WatchedLimiter) (time : ℚ) : List PyStr :=
  let length : ℚ := state.limiter.windowSeconds
  (state.admitted.map Hit.key).dedup.filter fun key =>
    within length state.admitted key (time - length) ≠ []

/-- These keys have an admitted hit in the window that ended at the last prune. -/
def keptKeys (state : WatchedLimiter) : List PyStr :=
  match state.lastPrune with
  | none => []
  | some time => state.keysBefore time

end WatchedLimiter

/-- The limiter starts empty and answers calls at times that never go back. -/
def limiterMachine (limit windowSeconds : Int) (pruneInterval : Nat) :
    Machine WatchedLimiter AllowCall where
  initial state := state = { limiter := { limit, windowSeconds, pruneInterval } }
  step := WatchedLimiter.allow

namespace RateLimiter

@[simp] theorem pruned_pruneInterval (limiter : RateLimiter) (cutoff : ℚ) :
    (limiter.pruned cutoff).pruneInterval = limiter.pruneInterval := by
  unfold pruned
  split <;> rfl

theorem mem_assign {hits : List (PyStr × List ℚ)} {key : PyStr} {deque : List ℚ}
    {entry : PyStr × List ℚ} (member : entry ∈ assign hits key deque) :
    entry = (key, deque) ∨ entry ∈ hits := by
  induction hits with
  | nil => exact .inl (List.mem_singleton.mp member)
  | cons first rest ih =>
      unfold assign at member
      split at member
      · rcases List.mem_cons.mp member with same | later
        · exact .inl same
        · exact .inr (List.mem_cons_of_mem _ later)
      · rcases List.mem_cons.mp member with same | later
        · exact .inr (same ▸ List.mem_cons_self ..)
        · exact (ih later).imp_right (List.mem_cons_of_mem _)

theorem assign_length (hits : List (PyStr × List ℚ)) (key : PyStr) (deque : List ℚ) :
    (assign hits key deque).length ≤ hits.length + 1 := by
  have lengths := congrArg List.length (assign_keys hits key deque)
  rw [List.length_map] at lengths
  split at lengths
  · rw [lengths, List.length_map]
    omega
  · simp [lengths]

/-- A stored entry is what its key reads. -/
theorem hitsOf_of_mem {limiter : RateLimiter} (unique : (limiter.hits.map Prod.fst).Nodup)
    {key : PyStr} {deque : List ℚ} (member : (key, deque) ∈ limiter.hits) :
    limiter.hitsOf key = deque := by
  obtain ⟨before, after, same⟩ := List.append_of_mem member
  have found : limiter.hits.lookup key = some deque := by
    refine List.lookup_eq_some_iff.mpr ⟨before, after, same, ?_⟩
    intro entry earlier
    rw [same, List.map_append, List.nodup_append] at unique
    have apart := unique.2.2 entry.1 (List.mem_map_of_mem earlier) key (by simp)
    simpa using Ne.symm apart
  rw [hitsOf, found, Option.getD_some]

/-- No stored deque is longer than the limit. -/
def Short (limiter : RateLimiter) : Prop :=
  ∀ entry ∈ limiter.hits, (entry.2.length : Int) ≤ limiter.limit

theorem Short.hitsOf {limiter : RateLimiter} (short : limiter.Short) (enabled : 0 ≤ limiter.limit)
    (key : PyStr) : ((limiter.hitsOf key).length : Int) ≤ limiter.limit := by
  unfold RateLimiter.hitsOf
  cases found : limiter.hits.lookup key with
  | none => simpa using enabled
  | some deque =>
      obtain ⟨before, after, same, _⟩ := List.lookup_eq_some_iff.mp found
      exact short (key, deque) (same ▸ List.mem_append_right before (List.mem_cons_self ..))

theorem pruned_subset (limiter : RateLimiter) (cutoff : ℚ) :
    (limiter.pruned cutoff).hits ⊆ limiter.hits := by
  unfold pruned
  split
  · exact List.filter_subset_self _
  · exact List.Subset.refl _

theorem allow_enabled {limiter : RateLimiter} (enabled : 0 < limiter.limit) (now : ℚ)
    (key : PyStr) : limiter.allow now key =
      (limiter.pruned (now - limiter.windowSeconds)).hit now (now - limiter.windowSeconds) key := by
  rw [allow, if_neg (not_le.mpr enabled)]

/-- A call assigns one deque that is not longer than the limit. -/
theorem hit_assigns {limiter : RateLimiter} (short : limiter.Short) (enabled : 0 ≤ limiter.limit)
    (now cutoff : ℚ) (key : PyStr) :
    ∃ deque : List ℚ, (deque.length : Int) ≤ limiter.limit ∧
      (limiter.hit now cutoff key).2 = { limiter with hits := assign limiter.hits key deque } := by
  have shorter := (List.dropWhile_sublist (l := limiter.hitsOf key) (· ≤ cutoff)).length_le
  have room := short.hitsOf enabled key
  unfold hit
  dsimp only
  split
  · exact ⟨_, by omega, rfl⟩
  · rename_i free
    refine ⟨_, ?_, rfl⟩
    rw [List.length_append, List.length_singleton]
    omega

end RateLimiter

namespace WatchedLimiter

/-- The limiter agrees with what was watched, and it stores one entry for each kept key and at most
one more for each call since the last prune. -/
structure Contained (limit windowSeconds : Int) (pruneInterval : Nat) (state : WatchedLimiter) :
    Prop where
  limit_eq : state.limiter.limit = limit
  window_eq : state.limiter.windowSeconds = windowSeconds
  interval_eq : state.limiter.pruneInterval = pruneInterval
  follows : ∀ now, state.Until now → state.limiter.Follows state.admitted now
  past : ∀ now, state.Until now → ∀ hit ∈ state.admitted, hit.time ≤ now
  short : state.limiter.Short
  recent : state.limiter.opsSincePrune < pruneInterval
  counted : state.limiter.hits.length ≤ state.keptKeys.length + state.limiter.opsSincePrune + 1

theorem Contained.initially (limit windowSeconds : Int) {pruneInterval : Nat}
    (interval : 0 < pruneInterval) :
    Contained limit windowSeconds pruneInterval
      { limiter := { limit, windowSeconds, pruneInterval } } where
  limit_eq := rfl
  window_eq := rfl
  interval_eq := rfl
  follows now _ := .fresh limit windowSeconds pruneInterval now
  past now _ hit member := by cases member
  short entry member := by cases member
  recent := interval
  counted := by simp

/-- More hits only add keys to a window. -/
theorem keysBefore_length (state next : WatchedLimiter) (added : List (Hit PyStr ℚ))
    (sameWindow : next.limiter.windowSeconds = state.limiter.windowSeconds)
    (grown : next.admitted = state.admitted ++ added) (time : ℚ) :
    (state.keysBefore time).length ≤ (next.keysBefore time).length := by
  apply List.Nodup.length_le_of_subset ((List.nodup_dedup _).filter _)
  intro key member
  unfold keysBefore
  rw [List.mem_filter, List.mem_dedup] at member ⊢
  rw [grown, sameWindow]
  refine ⟨?_, ?_⟩
  · rw [List.map_append]
    exact List.mem_append_left _ member.1
  · have filled := of_decide_eq_true member.2
    apply decide_eq_true
    intro empty
    apply filled
    unfold within at empty ⊢
    rw [since_append, List.filter_append] at empty
    exact (List.append_eq_nil_iff.mp empty).1

/-- A key whose last hit is after the cutoff has a hit in the window that ends now. -/
theorem mem_keysBefore {state : WatchedLimiter} {now : ℚ}
    (follows : state.limiter.Follows state.admitted now)
    (past : ∀ hit ∈ state.admitted, hit.time ≤ now) {entry : PyStr × List ℚ}
    (member : entry ∈ state.limiter.hits)
    (busy : RateLimiter.idle (now - state.limiter.windowSeconds) entry.2 = false) :
    entry.1 ∈ state.keysBefore now := by
  obtain ⟨key, deque⟩ := entry
  have stored := RateLimiter.hitsOf_of_mem follows.unique member
  obtain ⟨last, final, after⟩ : ∃ last, deque.getLast? = some last ∧
      now - state.limiter.windowSeconds < last := by
    unfold RateLimiter.idle at busy
    split at busy
    · cases busy
    · rename_i last final
      exact ⟨last, final, by simpa using busy⟩
  have live : last ∈ since state.admitted key (now - state.limiter.windowSeconds) := by
    rw [← follows.live key _ le_rfl, stored]
    exact List.mem_filter.mpr ⟨List.mem_of_getLast? final, by simpa using after⟩
  have named : key ∈ state.admitted.map Hit.key := by
    obtain ⟨hit, inside, _⟩ := List.mem_map.mp (List.mem_of_mem_filter live)
    have same : hit.key = key := by simpa using (List.mem_filter.mp inside).2
    exact List.mem_map.mpr ⟨hit, (List.mem_filter.mp inside).1, same⟩
  unfold keysBefore
  rw [List.mem_filter, List.mem_dedup]
  refine ⟨named, decide_eq_true ?_⟩
  rw [within_eq_since past key]
  exact List.ne_nil_of_mem live

/-- A prune leaves the entries of kept keys only. -/
theorem prune_length {state : WatchedLimiter} {now : ℚ}
    (follows : state.limiter.Follows state.admitted now)
    (past : ∀ hit ∈ state.admitted, hit.time ≤ now) :
    (state.limiter.prune (now - state.limiter.windowSeconds)).hits.length ≤
      (state.keysBefore now).length := by
  rw [← List.length_map Prod.fst]
  apply List.Nodup.length_le_of_subset follows.prune.unique
  intro key member
  obtain ⟨entry, kept, rfl⟩ := List.mem_map.mp member
  obtain ⟨stored, busy⟩ := List.mem_filter.mp kept
  exact mem_keysBefore follows past stored (by simpa using busy)

/-- After pruning, each entry is paid for by a kept key or by a call since the last prune. -/
theorem Contained.pruned {limit windowSeconds : Int} {pruneInterval : Nat}
    {state next : WatchedLimiter} (contained : Contained limit windowSeconds pruneInterval state)
    {call : AllowCall} (order : state.Until call.now) (added : List (Hit PyStr ℚ))
    (grown : next.admitted = state.admitted ++ added)
    (sameWindow : next.limiter.windowSeconds = state.limiter.windowSeconds)
    (marked : next.lastPrune =
      if state.limiter.prunesNext then some call.now else state.lastPrune) :
    let limiter := state.limiter.pruned (call.now - state.limiter.windowSeconds)
    limiter.opsSincePrune < pruneInterval ∧
      limiter.hits.length ≤ next.keptKeys.length + limiter.opsSincePrune := by
  have recent := contained.recent
  have interval := contained.interval_eq
  have follows := contained.follows call.now order
  have past := contained.past call.now order
  have grows := keysBefore_length state next added sameWindow grown
  dsimp only
  unfold RateLimiter.pruned keptKeys
  rw [marked]
  by_cases full : state.limiter.pruneInterval ≤ state.limiter.opsSincePrune + 1
  · have prunes : state.limiter.prunesNext = true := decide_eq_true full
    rw [if_pos full, prunes, if_pos rfl]
    exact ⟨by simp only; omega, (prune_length follows past).trans (grows call.now)⟩
  · have waits : state.limiter.prunesNext = false := decide_eq_false full
    rw [if_neg full, waits, if_neg Bool.false_ne_true]
    refine ⟨by simp only; omega, ?_⟩
    have counted := contained.counted
    unfold keptKeys at counted
    cases pruned : state.lastPrune with
    | none =>
        rw [pruned] at counted
        exact counted
    | some time =>
        rw [pruned] at counted
        have kept := grows time
        simp only at counted ⊢
        omega

/-- A call is made in order, and every part of the next state comes from its answer. -/
theorem allow_some {state next : WatchedLimiter} {call : AllowCall}
    (moved : state.allow call = some next) :
    state.Until call.now ∧ next.latest = some call.now ∧
      next.limiter = (state.limiter.allow call.now call.key).2 ∧
      next.admitted = RateLimiter.recorded state.admitted call.now call.key
        (state.limiter.allow call.now call.key).1.1 ∧
      next.lastPrune = if state.limiter.prunesNext then some call.now else state.lastPrune := by
  unfold WatchedLimiter.allow at moved
  split at moved
  · rename_i order
    cases moved
    exact ⟨order, rfl, rfl, rfl, rfl⟩
  · cases moved

/-- The recorded hits of one call come after the earlier ones. -/
theorem recorded_grown (history : List (Hit PyStr ℚ)) (now : ℚ) (key : PyStr) (admitted : Bool) :
    ∃ added, RateLimiter.recorded history now key admitted = history ++ added ∧
      ∀ hit ∈ added, hit.time = now := by
  unfold RateLimiter.recorded
  split
  · exact ⟨[⟨key, now⟩], rfl, by simp⟩
  · exact ⟨[], by simp, by simp⟩

/-- One call keeps the limiter contained. -/
theorem Contained.allow {limit windowSeconds : Int} {pruneInterval : Nat}
    {state next : WatchedLimiter} (contained : Contained limit windowSeconds pruneInterval state)
    (enabled : 0 < limit) {call : AllowCall} (moved : state.allow call = some next) :
    Contained limit windowSeconds pruneInterval next := by
  obtain ⟨order, latest, answered, admitted, marked⟩ := allow_some moved
  have positive : 0 < state.limiter.limit := contained.limit_eq.symm ▸ enabled
  obtain ⟨_, _, sameLimit, sameWindow, followed⟩ := RateLimiter.allow_follows
    (contained.follows call.now order) positive le_rfl call.key
  have shortened : (state.limiter.pruned (call.now - state.limiter.windowSeconds)).Short := by
    intro entry member
    rw [RateLimiter.pruned_limit]
    exact contained.short entry (RateLimiter.pruned_subset _ _ member)
  obtain ⟨deque, fits, assigned⟩ := RateLimiter.hit_assigns shortened
    (by simpa using positive.le) call.now (call.now - state.limiter.windowSeconds) call.key
  rw [← RateLimiter.allow_enabled positive] at assigned
  obtain ⟨added, grown, present⟩ := recorded_grown state.admitted call.now call.key
    (state.limiter.allow call.now call.key).1.1
  rw [← admitted] at grown followed
  rw [← answered] at assigned followed sameLimit sameWindow
  obtain ⟨recent, counted⟩ := contained.pruned order added grown sameWindow marked
  have later : ∀ now, next.Until now → call.now ≤ now :=
    fun now after => after call.now (by rw [latest]; rfl)
  exact {
    limit_eq := sameLimit.trans contained.limit_eq
    window_eq := sameWindow.trans contained.window_eq
    interval_eq := by
      rw [assigned]
      simpa using contained.interval_eq
    follows := fun now after => followed.later (later now after)
    past := by
      intro now after hit member
      rw [grown] at member
      rcases List.mem_append.mp member with earlier | final
      · exact (contained.past call.now order hit earlier).trans (later now after)
      · exact (present hit final).le.trans (later now after)
    short := by
      intro entry member
      rw [assigned] at member ⊢
      rcases RateLimiter.mem_assign member with rfl | stored
      · exact fits
      · exact shortened entry stored
    recent := by
      rw [assigned]
      exact recent
    counted := by
      have grows := RateLimiter.assign_length
        (state.limiter.pruned (call.now - state.limiter.windowSeconds)).hits call.key deque
      rw [assigned]
      simp only at grows counted ⊢
      omega }

end WatchedLimiter

/-- The keys of the limiter are bounded by the prune interval and the keys that the last prune had to
keep, and each deque is sorted and no longer than the limit. -/
theorem rateLimiter_contained (limit windowSeconds : Int) (pruneInterval : Nat)
    (enabled : 0 < limit) (interval : 0 < pruneInterval) {state : WatchedLimiter}
    (reached : (limiterMachine limit windowSeconds pruneInterval).Reachable state) :
    (state.limiter.hits.map Prod.fst).length ≤ pruneInterval + state.keptKeys.length ∧
      ∀ entry ∈ state.limiter.hits,
        entry.2.Pairwise (· ≤ ·) ∧ (entry.2.length : Int) ≤ limit := by
  have contained : state.Contained limit windowSeconds pruneInterval := by
    apply reached.invariant
    · rintro _ rfl
      exact .initially limit windowSeconds interval
    · exact fun state call next contained _ moved => contained.allow enabled moved
  obtain ⟨now, order⟩ : ∃ now, state.Until now := by
    unfold WatchedLimiter.Until
    cases state.latest with
    | none => exact ⟨0, nofun⟩
    | some time => exact ⟨time, by simp⟩
  have follows := contained.follows now order
  constructor
  · have counted := contained.counted
    have recent := contained.recent
    rw [List.length_map]
    omega
  · rintro ⟨key, deque⟩ member
    rw [← RateLimiter.hitsOf_of_mem follows.unique member]
    refine ⟨follows.sorted key, ?_⟩
    rw [RateLimiter.hitsOf_of_mem follows.unique member]
    exact contained.limit_eq ▸ contained.short _ member

/-- Four keys call once, and the last two calls come two minutes later. -/
def churnCalls : List AllowCall :=
  [⟨0, text "a"⟩, ⟨1, text "b"⟩, ⟨120, text "c"⟩, ⟨121, text "d"⟩]

/-- The prune before the last call drops the first two keys. -/
theorem rateLimiter_contained_churn :
    ∃ state, (limiterMachine 1 60 2).run ⟨{ limit := 1, pruneInterval := 2 }, none, [], none⟩
        churnCalls = some state ∧
      state.limiter.hits.map Prod.fst = [text "c", text "d"] ∧
      (state.limiter.hits.map Prod.fst).length ≤ 2 + state.keptKeys.length := by
  have ran : ((limiterMachine 1 60 2).run ⟨{ limit := 1, pruneInterval := 2 }, none, [], none⟩
      churnCalls).map (fun state => state.limiter.hits.map Prod.fst) =
        some [text "c", text "d"] := by
    decide +kernel
  obtain ⟨state, completed, stored⟩ := Option.map_eq_some_iff.mp ran
  have reached : (limiterMachine 1 60 2).Reachable state :=
    Machine.Reachable.run (.start rfl) churnCalls completed
  exact ⟨state, completed, stored,
    (rateLimiter_contained 1 60 2 (by decide) (by decide) reached).1⟩

end EveApiCache
