import Mathlib.Algebra.Order.Field.Basic
import Mathlib.Tactic.Linarith

/-!
This file bounds the events in a window by the level of a token bucket.
-/

namespace TokenBucket

section Windows
variable {K : Type} [LinearOrder K]

/-- This is the number of logged events in a closed window. -/
def eventsWithin (log : List K) (start finish : K) : Nat :=
  log.countP fun time => start ≤ time ∧ time ≤ finish

@[simp] theorem eventsWithin_nil (start finish : K) :
    eventsWithin ([] : List K) start finish = 0 := rfl

/-- A new event stands in the windows that hold its time. -/
theorem eventsWithin_snoc (log : List K) (time start finish : K) :
    eventsWithin (log ++ [time]) start finish =
      eventsWithin log start finish + if start ≤ time ∧ time ≤ finish then 1 else 0 := by
  simp [eventsWithin, List.countP_append, List.countP_singleton]

/-- A window after every event is empty. -/
theorem eventsWithin_eq_zero {log : List K} {now start : K} (past : ∀ time ∈ log, time ≤ now)
    (after : now < start) (finish : K) : eventsWithin log start finish = 0 := by
  apply List.countP_eq_zero.mpr
  intro time member inside
  have early := past time member
  have late : start ≤ time := (of_decide_eq_true inside).1
  exact absurd (after.trans_le late) (not_lt.mpr early)

/-- A window may end later than every event. -/
theorem eventsWithin_now {log : List K} {now : K} (past : ∀ time ∈ log, time ≤ now)
    (start : K) {finish : K} (late : now ≤ finish) :
    eventsWithin log start finish = eventsWithin log start now := by
  apply List.countP_congr
  intro time member
  have early := past time member
  simp [early, early.trans late]

end Windows

variable {K : Type} [Field K] [LinearOrder K] [IsStrictOrderedRing K]

/-- The level of a bucket pays for the events of a log. The level and the events since a start are
at most a full bucket and the refill since then. -/
structure Pays (rate burst : K) (log : List K) (level now : K) : Prop where
  past : ∀ time ∈ log, time ≤ now
  room : level ≤ burst
  balance : ∀ start, start ≤ now → eventsWithin log start now + level ≤ burst + rate * (now - start)
  windows : ∀ start finish, start ≤ finish →
    (eventsWithin log start finish : K) ≤ burst + rate * (finish - start)

variable {rate burst level now : K} {log : List K}

/-- A bucket pays for an empty log. -/
theorem Pays.start (filling : 0 ≤ rate) (positive : 0 ≤ burst) (room : level ≤ burst) :
    Pays rate burst [] level now where
  past := by simp
  room := room
  balance start before := by
    have gained : 0 ≤ rate * (now - start) := mul_nonneg filling (sub_nonneg.mpr before)
    simp only [eventsWithin_nil, Nat.cast_zero]
    linarith
  windows start finish order := by
    have gained : 0 ≤ rate * (finish - start) := mul_nonneg filling (sub_nonneg.mpr order)
    simp only [eventsWithin_nil, Nat.cast_zero]
    linarith

/-- Time refills a bucket at its rate and not over its size. -/
theorem Pays.elapse (pays : Pays rate burst log level now) (filling : 0 ≤ rate) {later next : K}
    (order : now ≤ later) (room : next ≤ burst) (refilled : next ≤ level + rate * (later - now)) :
    Pays rate burst log next later where
  past time member := (pays.past time member).trans order
  room := room
  balance start before := by
    by_cases earlier : start ≤ now
    · have balance := pays.balance start earlier
      rw [eventsWithin_now pays.past start order]
      linarith
    · have gained : 0 ≤ rate * (later - start) := mul_nonneg filling (sub_nonneg.mpr before)
      rw [eventsWithin_eq_zero pays.past (not_le.mp earlier)]
      simp only [Nat.cast_zero]
      linarith
  windows := pays.windows

/-- An event now takes a whole token. -/
theorem Pays.spend (pays : Pays rate burst log level now) (filling : 0 ≤ rate) {next : K}
    (stocked : 0 ≤ next) (spent : next + 1 ≤ level) :
    Pays rate burst (log ++ [now]) next now where
  past time member := by
    rcases List.mem_append.mp member with earlier | last
    · exact pays.past time earlier
    · rw [List.mem_singleton.mp last]
  room := by linarith [pays.room]
  balance start before := by
    have balance := pays.balance start before
    rw [eventsWithin_snoc, if_pos ⟨before, le_refl now⟩]
    push_cast
    linarith
  windows start finish order := by
    rw [eventsWithin_snoc]
    by_cases inside : start ≤ now ∧ now ≤ finish
    · have balance := pays.balance start inside.1
      have gained : rate * (now - start) ≤ rate * (finish - start) :=
        mul_le_mul_of_nonneg_left (sub_le_sub_right inside.2 start) filling
      rw [if_pos inside, eventsWithin_now pays.past start inside.2]
      push_cast
      linarith
    · rw [if_neg inside, Nat.add_zero]
      exact pays.windows start finish order

end TokenBucket
