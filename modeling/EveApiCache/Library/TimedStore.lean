import Mathlib.Logic.Function.Basic
import Mathlib.Tactic.SplitIfs

/-- An entry of a timed store is live up to its deadline and at it. -/
structure TimedEntry (Value : Type) where
  value : Value
  deadline : Nat

def TimedEntry.map {Value Other : Type} (convert : Value → Other) (entry : TimedEntry Value) :
    TimedEntry Other :=
  ⟨convert entry.value, entry.deadline⟩

/-- A timed store keeps an expired entry until the next write, but no reader sees it. -/
abbrev TimedStore (Key Value : Type) := Key → Option (TimedEntry Value)

namespace TimedStore

variable {Key Value : Type}

def empty : TimedStore Key Value := fun _ => none

def read (store : TimedStore Key Value) (now : Nat) (key : Key) : Option Value :=
  (store key).bind fun entry => if now ≤ entry.deadline then some entry.value else none

def write [DecidableEq Key] (store : TimedStore Key Value) (key : Key) (value : Value)
    (deadline : Nat) : TimedStore Key Value :=
  Function.update store key (some ⟨value, deadline⟩)

def erase [DecidableEq Key] (store : TimedStore Key Value) (key : Key) : TimedStore Key Value :=
  Function.update store key none

/-- A value that a reader sees was written. -/
theorem read_eq_some {store : TimedStore Key Value} {now : Nat} {key : Key} {value : Value} :
    store.read now key = some value ↔
      ∃ deadline, store key = some ⟨value, deadline⟩ ∧ now ≤ deadline := by
  unfold read
  constructor
  · intro live
    obtain ⟨entry, stored, live⟩ := Option.bind_eq_some_iff.mp live
    split_ifs at live with before
    obtain rfl := Option.some.inj live
    exact ⟨entry.deadline, stored, before⟩
  · rintro ⟨deadline, stored, before⟩
    simp [stored, before]

theorem write_apply [DecidableEq Key] (store : TimedStore Key Value) (key other : Key)
    (value : Value) (deadline : Nat) :
    store.write key value deadline other =
      if other = key then some ⟨value, deadline⟩ else store other := by
  unfold write
  rw [Function.update_apply]

theorem erase_apply [DecidableEq Key] (store : TimedStore Key Value) (key other : Key) :
    store.erase key other = if other = key then none else store other := by
  unfold erase
  rw [Function.update_apply]

@[simp] theorem write_self [DecidableEq Key] (store : TimedStore Key Value) (key : Key)
    (value : Value) (deadline : Nat) :
    store.write key value deadline key = some ⟨value, deadline⟩ := by
  rw [write_apply, if_pos rfl]

@[simp] theorem erase_self [DecidableEq Key] (store : TimedStore Key Value) (key : Key) :
    store.erase key key = none := by
  rw [erase_apply, if_pos rfl]

theorem write_other [DecidableEq Key] (store : TimedStore Key Value) {key other : Key}
    (value : Value) (deadline : Nat) (differs : other ≠ key) :
    store.write key value deadline other = store other := by
  rw [write_apply, if_neg differs]

theorem erase_other [DecidableEq Key] (store : TimedStore Key Value) {key other : Key}
    (differs : other ≠ key) : store.erase key other = store other := by
  rw [erase_apply, if_neg differs]

end TimedStore
