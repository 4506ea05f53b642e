import EveApiCache.Proof.RateLimit.Window

/-!
This file shows that the rate limiter answers as one that keeps the whole history.
-/

namespace EveApiCache

open SlidingWindow

/-- A call of `allow` names a key at a time. -/
structure AllowCall where
  now : ℚ
  key : PyStr

/-- This is the hit of an admitted call. -/
def AllowCall.hit (call : AllowCall) : Hit PyStr ℚ := ⟨call.key, call.now⟩

/-- These are the hits of the admitted calls. -/
def admittedHits (calls : List AllowCall) (answers : List (Bool × Int)) : List (Hit PyStr ℚ) :=
  ((calls.zip answers).filter (·.2.1)).map fun answered => answered.1.hit

/-- The limiter answers the calls one after another. -/
def RateLimiter.answers (limiter : RateLimiter) : List AllowCall → List (Bool × Int)
  | [] => []
  | call :: rest =>
      let (answer, limiter) := limiter.allow call.now call.key
      answer :: answers limiter rest

/-- This limiter never prunes and keeps the whole history of its admitted hits. -/
structure HistoryLimiter where
  limit : Int
  windowSeconds : Int
  history : List (Hit PyStr ℚ) := []

namespace HistoryLimiter

/-- These are the hits of a key in the window that ends now. -/
def used (limiter : HistoryLimiter) (call : AllowCall) : Nat :=
  (within (limiter.windowSeconds : ℚ) limiter.history call.key
    (call.now - limiter.windowSeconds)).length

def record (limiter : HistoryLimiter) (hits : List (Hit PyStr ℚ)) : HistoryLimiter :=
  { limiter with history := limiter.history ++ hits }

def allow (limiter : HistoryLimiter) (call : AllowCall) : (Bool × Int) × HistoryLimiter :=
  if limiter.limit ≤ limiter.used call then ((false, 0), limiter)
  else ((true, limiter.limit - (limiter.used call + 1)), limiter.record [call.hit])

def answers (limiter : HistoryLimiter) : List AllowCall → List (Bool × Int)
  | [] => []
  | call :: rest =>
      let (answer, limiter) := limiter.allow call
      answer :: answers limiter rest

@[simp] theorem answers_cons (limiter : HistoryLimiter) (call : AllowCall) (rest : List AllowCall) :
    limiter.answers (call :: rest) =
      (limiter.allow call).1 :: (limiter.allow call).2.answers rest := rfl

theorem answers_length (limiter : HistoryLimiter) (calls : List AllowCall) :
    (limiter.answers calls).length = calls.length := by
  induction calls generalizing limiter with
  | nil => rfl
  | cons call rest ih => simp [ih]

@[simp] theorem record_nil (limiter : HistoryLimiter) : limiter.record [] = limiter := by
  simp [record]

theorem record_append (limiter : HistoryLimiter) (first second : List (Hit PyStr ℚ)) :
    (limiter.record first).record second = limiter.record (first ++ second) := by
  simp [record]

/-- A call leaves its hit when it is admitted. -/
theorem allow_record (limiter : HistoryLimiter) (call : AllowCall) :
    (limiter.allow call).2 = limiter.record (admittedHits [call] [(limiter.allow call).1]) := by
  unfold allow
  split <;> simp [admittedHits]

/-- Later calls are answered after the admitted hits of the earlier ones. -/
theorem answers_append (limiter : HistoryLimiter) (earlier later : List AllowCall) :
    limiter.answers (earlier ++ later) = limiter.answers earlier ++
      (limiter.record (admittedHits earlier (limiter.answers earlier))).answers later := by
  induction earlier generalizing limiter with
  | nil => simp [answers, admittedHits]
  | cons call earlier ih =>
      have recorded : (limiter.allow call).2.record
          (admittedHits earlier ((limiter.allow call).2.answers earlier)) =
            limiter.record (admittedHits (call :: earlier)
              ((limiter.allow call).1 :: (limiter.allow call).2.answers earlier)) := by
        rw [allow_record, record_append, admittedHits, admittedHits, admittedHits, ← List.map_append,
          ← List.filter_append]
        rfl
      rw [List.cons_append, answers_cons, answers_cons, ih, recorded, List.cons_append]

end HistoryLimiter

theorem admittedHits_append (first second : List AllowCall) (answers others : List (Bool × Int))
    (lengths : first.length = answers.length) :
    admittedHits (first ++ second) (answers ++ others) =
      admittedHits first answers ++ admittedHits second others := by
  simp [admittedHits, List.zip_append lengths]

/-- Only hits with an earlier time stand in a window that ends now. -/
theorem within_eq_since {length now : ℚ} {history : List (Hit PyStr ℚ)}
    (past : ∀ hit ∈ history, hit.time ≤ now) (key : PyStr) :
    within length history key (now - length) = since history key (now - length) := by
  apply List.filter_eq_self.mpr
  intro time member
  obtain ⟨hit, inside, rfl⟩ := List.mem_map.mp (List.mem_of_mem_filter member)
  have before := past hit (List.mem_of_mem_filter inside)
  simpa using before

/-- The hit of an admitted call stands in its own window. -/
theorem used_record (whole : HistoryLimiter) (positive : 0 < whole.windowSeconds) (call : AllowCall) :
    (whole.record [call.hit]).used call = whole.used call + 1 := by
  have length : (0 : ℚ) < whole.windowSeconds := by exact_mod_cast positive
  have after : call.now - whole.windowSeconds < call.now := sub_lt_self _ length
  have hit := since_self call.key call.now _ after
  change ((since (whole.history ++ [call.hit]) call.key (call.now - whole.windowSeconds)).filter
      (· ≤ call.now - whole.windowSeconds + whole.windowSeconds)).length =
    (within (whole.windowSeconds : ℚ) whole.history call.key _).length + 1
  rw [since_append, AllowCall.hit, hit, List.filter_append, List.length_append]
  simp [within]

/-- The history decides a call and what it reports. -/
theorem HistoryLimiter.allow_exact (whole : HistoryLimiter) (positive : 0 < whole.windowSeconds)
    (call : AllowCall) :
    ((whole.allow call).1.1 = true ↔ (whole.used call : Int) < whole.limit) ∧
      (whole.allow call).1.2 = if (whole.allow call).1.1 then
        whole.limit - (whole.allow call).2.used call else 0 := by
  unfold allow
  split
  · rename_i full
    exact ⟨by simpa using full, rfl⟩
  · rename_i free
    refine ⟨by simpa using free, ?_⟩
    rw [if_pos rfl, used_record whole positive call]
    push_cast
    rfl

section Run

variable {limiter : RateLimiter} {history : List (Hit PyStr ℚ)} {latest : ℚ} {limit : Nat}

/-- One call is answered from the deque as it is from the whole history. -/
theorem allow_history (follows : limiter.Follows history latest) (enabled : 0 < limiter.limit)
    (past : ∀ hit ∈ history, hit.time ≤ latest) (call : AllowCall) (order : latest ≤ call.now) :
    let whole : HistoryLimiter := ⟨limiter.limit, limiter.windowSeconds, history⟩
    (limiter.allow call.now call.key).1 = (whole.allow call).1 ∧
      (limiter.allow call.now call.key).2.limit = limiter.limit ∧
      (limiter.allow call.now call.key).2.windowSeconds = limiter.windowSeconds ∧
      (limiter.allow call.now call.key).2.Follows (whole.allow call).2.history call.now := by
  have window := @within_eq_since limiter.windowSeconds _ _
    (fun hit member => (past hit member).trans order) call.key
  obtain ⟨room, reported, sameLimit, sameWindow, next⟩ :=
    RateLimiter.allow_follows follows enabled order call.key
  rw [← window] at room reported
  dsimp only
  unfold HistoryLimiter.allow HistoryLimiter.used
  dsimp only
  split
  · rename_i full
    have denied : (limiter.allow call.now call.key).1.1 = false :=
      Bool.eq_false_iff.mpr fun admitted => absurd (room.mp admitted) (not_lt.mpr full)
    rw [denied] at next reported
    exact ⟨Prod.ext denied reported, sameLimit, sameWindow, next⟩
  · rename_i free
    have admitted : (limiter.allow call.now call.key).1.1 = true := room.mpr (not_le.mp free)
    rw [admitted] at next reported
    exact ⟨Prod.ext admitted reported, sameLimit, sameWindow, next⟩

/-- The hits of a history stay in the past. -/
theorem past_allow {whole : HistoryLimiter} (past : ∀ hit ∈ whole.history, hit.time ≤ latest)
    (call : AllowCall) (order : latest ≤ call.now) :
    ∀ hit ∈ (whole.allow call).2.history, hit.time ≤ call.now := by
  intro hit member
  unfold HistoryLimiter.allow at member
  split at member
  · exact (past hit member).trans order
  · rcases List.mem_append.mp member with earlier | final
    · exact (past hit earlier).trans order
    · rw [List.mem_singleton.mp final]
      exact le_rfl

/-- The two limiters give the same answers to all calls. -/
theorem answers_history (calls : List AllowCall) (follows : limiter.Follows history latest)
    (enabled : 0 < limiter.limit) (past : ∀ hit ∈ history, hit.time ≤ latest)
    (ordered : (latest :: calls.map AllowCall.now).Pairwise (· ≤ ·)) :
    limiter.answers calls =
      HistoryLimiter.answers ⟨limiter.limit, limiter.windowSeconds, history⟩ calls := by
  induction calls generalizing limiter history latest with
  | nil => rfl
  | cons call rest ih =>
      rw [List.map_cons, List.pairwise_cons] at ordered
      have order : latest ≤ call.now := ordered.1 _ (List.mem_cons_self ..)
      obtain ⟨same, sameLimit, sameWindow, next⟩ := allow_history follows enabled past call order
      have whole : ((HistoryLimiter.mk limiter.limit limiter.windowSeconds history).allow call).2 =
          ⟨limiter.limit, limiter.windowSeconds, ((HistoryLimiter.mk limiter.limit
            limiter.windowSeconds history).allow call).2.history⟩ := by
        rw [HistoryLimiter.allow_record]
        rfl
      have tail := ih next (sameLimit ▸ enabled) (past_allow past call order) ordered.2
      rw [sameLimit, sameWindow, ← whole] at tail
      rw [RateLimiter.answers, HistoryLimiter.answers]
      exact congrArg₂ List.cons same tail

/-- No window of the history fills over the limit. -/
theorem answers_bounded (calls : List AllowCall) {whole : HistoryLimiter} (cap : whole.limit = limit)
    (past : ∀ hit ∈ whole.history, hit.time ≤ latest)
    (ordered : (latest :: calls.map AllowCall.now).Pairwise (· ≤ ·))
    (bounded : Bounded (whole.windowSeconds : ℚ) limit whole.history) :
    Bounded (whole.windowSeconds : ℚ) limit
      (whole.history ++ admittedHits calls (whole.answers calls)) := by
  induction calls generalizing whole latest with
  | nil => simpa [admittedHits] using bounded
  | cons call rest ih =>
      rw [List.map_cons, List.pairwise_cons] at ordered
      have order : latest ≤ call.now := ordered.1 _ (List.mem_cons_self ..)
      have window := @within_eq_since whole.windowSeconds _ _
        (fun hit member => (past hit member).trans order) call.key
      have later := past_allow past call order
      have split : whole.history ++ admittedHits (call :: rest) (whole.answers (call :: rest)) =
          (whole.allow call).2.history ++
            admittedHits rest ((whole.allow call).2.answers rest) := by
        have first : admittedHits (call :: rest) (whole.answers (call :: rest)) =
            admittedHits [call] [(whole.allow call).1] ++
              admittedHits rest ((whole.allow call).2.answers rest) :=
          admittedHits_append [call] rest [(whole.allow call).1] _ rfl
        have recorded := congrArg HistoryLimiter.history (whole.allow_record call)
        rw [first, recorded, ← List.append_assoc]
        rfl
      rw [split]
      unfold HistoryLimiter.allow HistoryLimiter.used at later ⊢
      split
      · rename_i full
        rw [if_pos full] at later
        exact ih cap later ordered.2 bounded
      · rename_i free
        rw [if_neg free] at later
        have recorded := @ih call.now (whole.record [call.hit]) cap later ordered.2
        apply recorded
        apply Bounded.admitted bounded call.key call.now
        rw [window] at free
        omega

end Run

/-- The first of ordered times comes before all of them. -/
theorem exists_earliest {times : List ℚ} (ordered : times.Pairwise (· ≤ ·)) :
    ∃ latest : ℚ, (latest :: times).Pairwise (· ≤ ·) := by
  cases times with
  | nil => exact ⟨0, List.pairwise_singleton _ _⟩
  | cons first rest =>
      refine ⟨first, List.pairwise_cons.mpr ⟨fun time member => ?_, ordered⟩⟩
      rw [List.pairwise_cons] at ordered
      rcases List.mem_cons.mp member with rfl | later
      · exact le_rfl
      · exact ordered.1 time later

/-- The limiter is an exact sliding window. A call is admitted exactly when fewer hits than the limit
stand in its window, it reports what remains, and no window ever holds more hits than the limit. -/
theorem rateLimiter_exact (limit windowSeconds : Int) (pruneInterval : Nat) (calls : List AllowCall)
    (enabled : 0 < limit) (positive : 0 < windowSeconds)
    (ordered : (calls.map AllowCall.now).Pairwise (· ≤ ·)) :
    let limiter : RateLimiter := { limit, windowSeconds, pruneInterval }
    let answers := limiter.answers calls
    let inWindow (call : AllowCall) (hits : List (Hit PyStr ℚ)) :=
      ((within (windowSeconds : ℚ) hits call.key (call.now - windowSeconds)).length : Int)
    answers = HistoryLimiter.answers { limit, windowSeconds } calls ∧
      (∀ earlier call rest, calls = earlier ++ call :: rest →
        ∃ answer, answers[earlier.length]? = some answer ∧
          (answer.1 = true ↔ inWindow call (admittedHits earlier answers) < limit) ∧
          answer.2 = if answer.1 then
            limit - inWindow call (admittedHits (earlier ++ [call]) answers) else 0) ∧
      ∀ key start, ((within (windowSeconds : ℚ) (admittedHits calls answers) key start).length : Int) ≤
        limit := by
  obtain ⟨latest, past⟩ := exists_earliest ordered
  have same := answers_history calls (.fresh limit windowSeconds pruneInterval latest) enabled nofun past
  obtain ⟨cap, rfl⟩ := Int.eq_ofNat_of_zero_le enabled.le
  have limited : ({ limit := cap, windowSeconds } : HistoryLimiter).limit = cap := rfl
  have bounded := answers_bounded calls limited nofun past (Bounded.nil _ _)
  dsimp only at same bounded ⊢
  rw [same]
  refine ⟨rfl, ?_, fun key start => by simpa using bounded key start⟩
  rintro earlier call rest rfl
  rw [HistoryLimiter.answers_append]
  generalize made : HistoryLimiter.answers ⟨cap, windowSeconds, []⟩ earlier = first
  have lengths : earlier.length = first.length := by
    rw [← made, HistoryLimiter.answers_length]
  generalize final : HistoryLimiter.record ⟨cap, windowSeconds, []⟩ (admittedHits earlier first) = whole
  have known : whole.history = admittedHits earlier first := by
    rw [← final]
    rfl
  have limits : whole.limit = cap ∧ whole.windowSeconds = windowSeconds := by
    rw [← final]
    exact ⟨rfl, rfl⟩
  rw [HistoryLimiter.answers]
  dsimp only
  have before : admittedHits earlier (first ++ (whole.allow call).1 ::
      (whole.allow call).2.answers rest) = whole.history := by
    have cut := admittedHits_append earlier [] first
      ((whole.allow call).1 :: (whole.allow call).2.answers rest) lengths
    rw [List.append_nil] at cut
    rw [cut, known]
    simp [admittedHits]
  have upto : admittedHits (earlier ++ [call]) (first ++ (whole.allow call).1 ::
      (whole.allow call).2.answers rest) = (whole.allow call).2.history := by
    rw [admittedHits_append _ _ _ _ lengths, ← known, HistoryLimiter.allow_record]
    rfl
  have exact := whole.allow_exact (limits.2 ▸ positive) call
  have window : (whole.allow call).2.windowSeconds = windowSeconds := by
    rw [HistoryLimiter.allow_record]
    exact limits.2
  unfold HistoryLimiter.used at exact
  rw [limits.1, limits.2, window] at exact
  rw [before, upto]
  exact ⟨(whole.allow call).1, by simp [lengths], exact⟩

/-- One key calls twice within a minute and once more when the minute is over. -/
def minuteCalls : List AllowCall := [⟨0, text "a"⟩, ⟨30, text "a"⟩, ⟨60, text "a"⟩]

def minuteAnswers : List (Bool × Int) := [(true, 0), (false, 0), (true, 0)]

/-- The first call leaves the window at its end. -/
theorem rateLimiter_exact_minute :
    RateLimiter.answers { limit := 1, windowSeconds := 60, pruneInterval := 2 } minuteCalls =
        minuteAnswers ∧
      HistoryLimiter.answers { limit := 1, windowSeconds := 60 } minuteCalls = minuteAnswers ∧
      ∀ key start, ((within ((60 : Int) : ℚ) (admittedHits minuteCalls minuteAnswers) key
        start).length : Int) ≤ 1 := by
  have answered : RateLimiter.answers { limit := 1, windowSeconds := 60, pruneInterval := 2 }
      minuteCalls = minuteAnswers := by
    decide +kernel
  obtain ⟨same, _, bounded⟩ := rateLimiter_exact 1 60 2 minuteCalls (by decide) (by decide) (by decide +kernel)
  rw [answered] at same bounded
  exact ⟨answered, same.symm, bounded⟩

end EveApiCache
