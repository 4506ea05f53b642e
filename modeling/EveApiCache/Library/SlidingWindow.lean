import Mathlib.Algebra.Order.Group.Defs
import Mathlib.Algebra.Order.Sub.Basic
import Mathlib.Data.List.Induction
import Mathlib.Order.Basic

/-!
This file holds the exact sliding window over a history of admitted hits.
-/

namespace SlidingWindow

/-- A hit is an admitted call of one key. -/
structure Hit (Key Time : Type) where
  key : Key
  time : Time

variable {Key Time : Type} [DecidableEq Key] [LinearOrder Time]

/-- These are the times of one key after a cutoff. -/
def since (history : List (Hit Key Time)) (key : Key) (cutoff : Time) : List Time :=
  ((history.filter fun hit => hit.key = key).map Hit.time).filter (cutoff < ·)

theorem since_append (first second : List (Hit Key Time)) (key : Key) (cutoff : Time) :
    since (first ++ second) key cutoff = since first key cutoff ++ since second key cutoff := by
  simp [since]

theorem since_other (key other : Key) (time cutoff : Time) (differs : other ≠ key) :
    since [⟨other, time⟩] key cutoff = [] := by
  simp [since, differs]

theorem since_self (key : Key) (time cutoff : Time) (after : cutoff < time) :
    since [⟨key, time⟩] key cutoff = [time] := by
  simp [since, after]

/-- A later cutoff only drops times. -/
theorem since_filter (history : List (Hit Key Time)) (key : Key) {early late : Time}
    (order : early ≤ late) :
    (since history key early).filter (late < ·) = since history key late := by
  unfold since
  rw [List.filter_filter]
  apply List.filter_congr
  intro time member
  by_cases after : late < time
  · simp [after, order.trans_lt after]
  · simp [after]

/-- A sorted queue loses exactly the times up to the cutoff at its front. -/
theorem dropWhile_eq_filter (cutoff : Time) (queue : List Time)
    (sorted : queue.Pairwise (· ≤ ·)) :
    queue.dropWhile (· ≤ cutoff) = queue.filter (cutoff < ·) := by
  induction queue with
  | nil => rfl
  | cons time queue ih =>
      rw [List.pairwise_cons] at sorted
      by_cases expired : time ≤ cutoff
      · simp [expired, ih sorted.2]
      · have kept : ∀ other ∈ time :: queue, cutoff < other := by
          intro other member
          rcases List.mem_cons.mp member with rfl | member
          · exact not_le.mp expired
          · exact (not_le.mp expired).trans_le (sorted.1 other member)
        rw [List.filter_eq_self.mpr (by simpa using kept)]
        simp [expired]

/-- A queue whose last time has expired holds no live time. -/
theorem filter_eq_nil (cutoff : Time) (queue : List Time) (sorted : queue.Pairwise (· ≤ ·))
    (expired : ∀ last, queue.getLast? = some last → last ≤ cutoff) :
    queue.filter (cutoff < ·) = [] := by
  rw [List.filter_eq_nil_iff]
  intro time member
  cases queue using List.reverseRecOn with
  | nil => cases member
  | append_singleton earlier last =>
      have bound : last ≤ cutoff := expired last (by simp)
      rw [List.pairwise_append] at sorted
      rcases List.mem_append.mp member with earlierMember | final
      · have before : time ≤ last := sorted.2.2 time earlierMember last (by simp)
        simpa using before.trans bound
      · rw [List.mem_singleton.mp final]
        simpa using bound

section Bound

variable [AddCommGroup Time]

/-- These are the hits of a key in the window of one length after a start. -/
def within (length : Time) (history : List (Hit Key Time)) (key : Key) (start : Time) : List Time :=
  (since history key start).filter (· ≤ start + length)

theorem within_cons (length : Time) (hit : Hit Key Time) (history : List (Hit Key Time)) (key : Key)
    (start : Time) : within length (hit :: history) key start =
      (if hit.key = key ∧ start < hit.time ∧ hit.time ≤ start + length then [hit.time] else []) ++
        within length history key start := by
  unfold within since
  by_cases same : hit.key = key
  · by_cases after : start < hit.time
    · by_cases inside : hit.time ≤ start + length
      · simp [same, after, inside]
      · simp [same, after, inside]
    · simp [same, after]
  · simp [same]

/-- No window holds more hits of a key than the limit. -/
def Bounded (length : Time) (limit : Nat) (history : List (Hit Key Time)) : Prop :=
  ∀ key start, (within length history key start).length ≤ limit

theorem Bounded.nil (length : Time) (limit : Nat) :
    Bounded length limit ([] : List (Hit Key Time)) := by
  intro key start
  simp [within, since]

/-- A hit that finds room in the window before it keeps every window bounded. -/
theorem Bounded.admitted [IsOrderedAddMonoid Time] {length : Time} {limit : Nat} {history : List (Hit Key Time)}
    (bounded : Bounded length limit history) (key : Key) (now : Time)
    (room : (since history key (now - length)).length < limit) :
    Bounded length limit (history ++ [⟨key, now⟩]) := by
  intro other start
  have before := bounded other start
  unfold within at before ⊢
  rw [since_append, List.filter_append, List.length_append]
  by_cases same : key = other
  · subst same
    by_cases inside : start < now ∧ now ≤ start + length
    · have order : now - length ≤ start := sub_le_iff_le_add.mpr inside.2
      have fewer : ((since history key start).filter (· ≤ start + length)).length ≤
          (since history key (now - length)).length := by
        rw [← since_filter history key order]
        exact (List.filter_sublist.trans List.filter_sublist).length_le
      rw [since_self key now start inside.1, List.filter_cons_of_pos (by simpa using inside.2)]
      simp only [List.filter_nil, List.length_singleton]
      omega
    · have outside : (since [⟨key, now⟩] key start).filter (· ≤ start + length) = [] := by
        by_cases after : start < now
        · have late : ¬now ≤ start + length := fun early => inside ⟨after, early⟩
          rw [since_self key now start after]
          simpa using late
        · simp [since, after]
      rw [outside]
      simpa using before
  · rw [since_other other key now start same]
    simpa using before

end Bound

end SlidingWindow
