import EveApiCache.Construction.Esi.Pacer
import EveApiCache.Library.TokenBucket
import Mathlib.Tactic.Ring

/-!
This file shows that the pacer is a token bucket.
-/

namespace EveApiCache

open StepMachine TokenBucket

namespace Pacer

/-- These are the times at which calls returned. -/
def returns (pacer : Pacer) : List ℚ := pacer.passed.map PacerPassage.returned

/-- A pacer is sound when its bucket pays for the calls that returned. -/
structure Sound (rate : ℚ) (pacer : Pacer) : Prop where
  stocked : 0 ≤ pacer.tokens
  room : pacer.tokens ≤ burst rate
  past : pacer.rateUpdated ≤ pacer.now
  sleeping : ∀ sleep, pacer.sleeper = some sleep →
    sleep.found < 1 ∧ sleep.found = pacer.tokens ∧
      sleep.wakes = pacer.rateUpdated + (1 - pacer.tokens) / rate
  pays : Pays rate (burst rate) pacer.returns (pacer.refilled rate) pacer.now
  prompt : ∀ passage ∈ pacer.passed, 1 ≤ passage.found → passage.returned = passage.locked

theorem burst_positive (rate : ℚ) : 0 < burst rate := zero_lt_one.trans_le (le_max_left 1 rate)

/-- A bucket that was refilled now has no further refill. -/
theorem refilled_now (pacer : Pacer) (rate : ℚ) (room : pacer.tokens ≤ burst rate)
    (fresh : pacer.rateUpdated = pacer.now) : pacer.refilled rate = pacer.tokens := by
  unfold refilled
  rw [fresh, sub_self, zero_mul, add_zero, min_eq_right room]

theorem create_sound (rate now : ℚ) (positive : 0 < rate) : (create rate now).Sound rate where
  stocked := (burst_positive rate).le
  room := le_refl _
  past := le_refl _
  sleeping sleep asleep := by cases asleep
  pays := Pays.start positive.le (burst_positive rate).le (min_le_left _ _)
  prompt passage member := by cases member

theorem Sound.refilled_nonneg {rate : ℚ} {pacer : Pacer} (sound : pacer.Sound rate)
    (positive : 0 < rate) : 0 ≤ pacer.refilled rate := by
  have gained : 0 ≤ (pacer.now - pacer.rateUpdated) * rate :=
    mul_nonneg (sub_nonneg.mpr sound.past) positive.le
  exact le_min (burst_positive rate).le (add_nonneg sound.stocked gained)

/-- The clock only refills the bucket. -/
theorem Sound.tick {rate : ℚ} {pacer : Pacer} (sound : pacer.Sound rate) (positive : 0 < rate)
    {now : ℚ} (order : pacer.now ≤ now) : { pacer with now := now }.Sound rate where
  stocked := sound.stocked
  room := sound.room
  past := sound.past.trans order
  sleeping := sound.sleeping
  pays := by
    apply sound.pays.elapse positive.le order
    · exact min_le_left _ _
    · have split : pacer.tokens + (now - pacer.rateUpdated) * rate =
          pacer.tokens + (pacer.now - pacer.rateUpdated) * rate + rate * (now - pacer.now) := by ring
      have gained : 0 ≤ rate * (now - pacer.now) := mul_nonneg positive.le (sub_nonneg.mpr order)
      change min (burst rate) (pacer.tokens + (now - pacer.rateUpdated) * rate) ≤
        min (burst rate) (pacer.tokens + (pacer.now - pacer.rateUpdated) * rate) +
          rate * (now - pacer.now)
      rw [split, ← min_add_add_right]
      exact min_le_min_right _ (le_add_of_nonneg_right gained)
  prompt := sound.prompt

/-- A refill does not change the level. -/
theorem Sound.refill {rate : ℚ} {pacer : Pacer} (sound : pacer.Sound rate) (positive : 0 < rate)
    (free : pacer.sleeper = none) : (pacer.refill rate).Sound rate where
  stocked := sound.refilled_nonneg positive
  room := min_le_left _ _
  past := le_refl _
  sleeping sleep asleep := by
    rw [show pacer.sleeper = some sleep from asleep] at free
    cases free
  pays := by
    have level := refilled_now (pacer.refill rate) rate (min_le_left _ _) rfl
    rw [level]
    exact sound.pays
  prompt := sound.prompt

/-- A sleeping call leaves the bucket as it found it. -/
theorem Sound.sleep {rate : ℚ} {pacer : Pacer} (sound : pacer.Sound rate)
    (fresh : pacer.rateUpdated = pacer.now) (short : pacer.tokens < 1) (call : Nat) :
    (pacer.sleep rate call).Sound rate where
  stocked := sound.stocked
  room := sound.room
  past := sound.past
  sleeping sleep asleep := by
    cases asleep
    exact ⟨short, rfl, by rw [← fresh]; rfl⟩
  pays := sound.pays
  prompt := sound.prompt

/-- A call that returns leaves a bucket that still pays. -/
theorem returns_pass (pacer : Pacer) (call : Nat) (locked found : ℚ) :
    (pacer.pass call locked found).returns = pacer.returns ++ [pacer.now] := by
  simp [returns, pass]

/-- A call that takes a whole token returns at once. -/
theorem Sound.take {rate : ℚ} {pacer : Pacer} (sound : pacer.Sound rate) (positive : 0 < rate)
    (free : pacer.sleeper = none) (fresh : pacer.rateUpdated = pacer.now)
    (whole : 1 ≤ pacer.tokens) (call : Nat) : (pacer.take call).Sound rate where
  stocked := sub_nonneg.mpr whole
  room := (sub_le_self _ zero_le_one).trans sound.room
  past := sound.past
  sleeping sleep asleep := by
    rw [show pacer.sleeper = some sleep from asleep] at free
    cases free
  pays := by
    have before := refilled_now pacer rate sound.room fresh
    have bound : pacer.tokens - 1 ≤ burst rate := (sub_le_self _ zero_le_one).trans sound.room
    have after : (pacer.take call).refilled rate = pacer.tokens - 1 :=
      refilled_now (pacer.take call) rate bound fresh
    have pays := sound.pays
    rw [before] at pays
    rw [after, Pacer.take, returns_pass]
    exact pays.spend positive.le (sub_nonneg.mpr whole) (by rw [sub_add_cancel])
  prompt passage member found := by
    rcases List.mem_append.mp member with earlier | last
    · exact sound.prompt passage earlier found
    · rw [List.mem_singleton.mp last]

/-- A call that takes the free lock keeps the bucket sound. -/
theorem Sound.enter {rate : ℚ} {pacer : Pacer} (sound : pacer.Sound rate) (positive : 0 < rate)
    (free : pacer.sleeper = none) (call : Nat) : (pacer.enter rate call).Sound rate := by
  have refilled := sound.refill positive free
  unfold Pacer.enter
  dsimp only
  split
  next short => exact refilled.sleep rfl short call
  next whole => exact refilled.take positive free rfl (not_lt.mp whole) call

theorem Sound.arrive {rate : ℚ} {pacer : Pacer} (sound : pacer.Sound rate) (positive : 0 < rate) :
    (pacer.arrive rate).Sound rate := by
  have counted : { pacer with calls := pacer.calls + 1 }.Sound rate := { sound with }
  unfold Pacer.arrive
  rw [if_neg (not_le.mpr positive)]
  dsimp only
  split
  next free => exact counted.enter positive (Option.isNone_iff_eq_none.mp free.1) _
  next => exact { counted with }

theorem Sound.resume {rate : ℚ} {pacer next : Pacer} (sound : pacer.Sound rate)
    (positive : 0 < rate) (moved : pacer.resume rate = some next) : next.Sound rate := by
  unfold Pacer.resume at moved
  split at moved
  next call rest free queued =>
    cases moved
    have shorter : { pacer with waiting := rest }.Sound rate := { sound with }
    exact shorter.enter positive free call
  next => cases moved

/-- The refill since the sleep began covers the token of the call that wakes. -/
theorem Sound.wake {rate : ℚ} {pacer next : Pacer} (sound : pacer.Sound rate)
    (positive : 0 < rate) (moved : pacer.wake = some next) : next.Sound rate := by
  unfold Pacer.wake at moved
  split at moved
  next => cases moved
  next sleep asleep =>
    obtain ⟨short, found, wakes⟩ := sound.sleeping sleep asleep
    split_ifs at moved with late
    cases moved
    exact
      { stocked := le_refl _
        room := (burst_positive rate).le
        past := le_refl _
        sleeping := by
          intro other asleep
          cases asleep
        pays := by
          have waited : (1 - pacer.tokens) / rate ≤ pacer.now - pacer.rateUpdated := by
            rw [wakes] at late
            linarith
          have gained : 1 - pacer.tokens ≤ (pacer.now - pacer.rateUpdated) * rate :=
            (div_le_iff₀ positive).mp waited
          have whole : 1 ≤ pacer.refilled rate := le_min (le_max_left 1 rate) (by linarith)
          have after : ({ pacer with tokens := 0, rateUpdated := pacer.now, sleeper := none }.pass
              sleep.call sleep.locked sleep.found).refilled rate = 0 :=
            refilled_now _ rate (burst_positive rate).le rfl
          rw [after, returns_pass]
          exact sound.pays.spend positive.le (le_refl 0) (by rw [zero_add]; exact whole)
        prompt := by
          intro passage member found
          rcases List.mem_append.mp member with earlier | last
          · exact sound.prompt passage earlier found
          · rw [List.mem_singleton.mp last] at found
            exact absurd found (not_le.mpr short) }

theorem Sound.cancel {rate : ℚ} {pacer : Pacer} (sound : pacer.Sound rate) (call : Nat) :
    (pacer.cancel call).Sound rate where
  stocked := sound.stocked
  room := sound.room
  past := sound.past
  sleeping sleep asleep := sound.sleeping sleep (Option.filter_eq_some_iff.mp asleep).1
  pays := sound.pays
  prompt := sound.prompt

/-- Every move keeps the bucket sound. -/
theorem Sound.move {rate : ℚ} {pacer next : Pacer} (sound : pacer.Sound rate) (positive : 0 < rate)
    (move : PacerMove) (moved : pacer.move rate move = some next) : next.Sound rate := by
  cases move with
  | tick now =>
      change (if pacer.now ≤ now then some { pacer with now := now } else none) = some next at moved
      split_ifs at moved with order
      cases moved
      exact sound.tick positive order
  | arrive =>
      cases moved
      exact sound.arrive positive
  | resume => exact sound.resume positive moved
  | wake => exact sound.wake positive moved
  | cancel call =>
      cases moved
      exact sound.cancel call

end Pacer

/-- Every reachable pacer is sound. -/
theorem pacer_sound {rate : ℚ} (positive : 0 < rate) {pacer : Pacer}
    (reached : (pacerMachine rate).Reachable pacer) : pacer.Sound rate := by
  apply reached.invariant (Pacer.Sound rate)
  · rintro state ⟨now, rfl⟩
    exact Pacer.create_sound rate now positive
  · intro state move next sound _ moved
    exact sound.move positive move moved

/-- A call that finds a free lock and a whole token returns at once. -/
theorem Pacer.arrive_free {rate : ℚ} (positive : 0 < rate) (pacer : Pacer)
    (free : pacer.sleeper = none) (alone : pacer.waiting = [])
    (whole : 1 ≤ pacer.refilled rate) :
    (pacer.arrive rate).passed = pacer.passed ++
      [⟨pacer.calls, pacer.now, pacer.refilled rate, pacer.now⟩] := by
  unfold arrive enter
  rw [if_neg (not_le.mpr positive), if_pos (by simp [free, alone]), if_neg]
  · rfl
  · exact not_lt.mpr whole

/-- The bucket keeps its bounds, a call that finds a whole token returns at once, and the calls that
return in a window are paid by a full bucket and the refill of the window. -/
theorem pacer_tokenBucket (rate : ℚ) (positive : 0 < rate) (pacer : Pacer)
    (reached : (pacerMachine rate).Reachable pacer) :
    (0 ≤ pacer.tokens ∧ pacer.tokens ≤ max 1 rate) ∧
      (∀ passage ∈ pacer.passed, 1 ≤ passage.found → passage.returned = passage.locked) ∧
      (pacer.sleeper = none → pacer.waiting = [] → 1 ≤ pacer.refilled rate →
        (pacer.arrive rate).passed = pacer.passed ++
          [⟨pacer.calls, pacer.now, pacer.refilled rate, pacer.now⟩]) ∧
      ∀ start length, 0 ≤ length →
        ((pacer.passed.countP fun passage =>
          start ≤ passage.returned ∧ passage.returned ≤ start + length : Nat) : ℚ) ≤
            max 1 rate + rate * length := by
  have sound := pacer_sound positive reached
  refine ⟨⟨sound.stocked, sound.room⟩, sound.prompt, pacer.arrive_free positive, ?_⟩
  intro start length order
  have bound := sound.pays.windows start (start + length) (le_add_of_nonneg_right order)
  rw [add_sub_cancel_left, eventsWithin, Pacer.returns, List.countP_map] at bound
  exact bound

/-- The second call sleeps for its token and both return within a second. -/
theorem pacer_tokenBucket_two : ∃ pacer : Pacer, (pacerMachine 1).Reachable pacer ∧
    pacer.passed = [⟨0, 0, 1, 0⟩, ⟨1, 0, 0, 1⟩] ∧ 0 ≤ pacer.tokens := by
  have created : (pacerMachine 1).Reachable (Pacer.create 1 0) := .start ⟨0, rfl⟩
  have reached : (pacerMachine 1).Reachable
      ⟨1, 0, 1, 2, none, [], [⟨0, 0, 1, 0⟩, ⟨1, 0, 0, 1⟩]⟩ :=
    created.run [.arrive, .arrive, .tick 1, .wake] (by decide +kernel)
  exact ⟨_, reached, rfl, (pacer_tokenBucket 1 zero_lt_one _ reached).1.1⟩

end EveApiCache
