import Mathlib.Data.List.Nodup
import Mathlib.Data.List.Perm.Basic

/-!
This file folds events into an insertion-ordered dictionary, key by key.
-/

namespace GroupedFold

variable {Key Value Event Item Name : Type} [DecidableEq Key]

/-- This function changes the value of one key, and a new key goes to the end. -/
def adjust (key : Key) (change : Option Value → Value) : List (Key × Value) → List (Key × Value)
  | [] => [(key, change none)]
  | (other, old) :: rest =>
      if other = key then (other, change (some old)) :: rest
      else (other, old) :: adjust key change rest

/-- This is the value of one key. -/
def valueAt (key : Key) (entries : List (Key × Value)) : Option Value :=
  (entries.find? fun entry => entry.1 = key).map Prod.snd

theorem valueAt_adjust (key : Key) (change : Option Value → Value) (entries : List (Key × Value)) :
    valueAt key (adjust key change entries) = some (change (valueAt key entries)) := by
  induction entries with
  | nil => simp [adjust, valueAt]
  | cons entry rest ih =>
      obtain ⟨other, old⟩ := entry
      unfold adjust
      split_ifs with same
      · simp [valueAt, same]
      · simpa [valueAt, same] using ih

theorem valueAt_adjust_of_ne {key other : Key} (apart : other ≠ key)
    (change : Option Value → Value) (entries : List (Key × Value)) :
    valueAt other (adjust key change entries) = valueAt other entries := by
  induction entries with
  | nil => simp [adjust, valueAt, Ne.symm apart]
  | cons entry rest ih =>
      obtain ⟨first, old⟩ := entry
      unfold adjust
      split_ifs with same
      · subst same
        simp [valueAt, Ne.symm apart]
      · by_cases here : first = other
        · simp [valueAt, here]
        · simpa [valueAt, here] using ih

theorem mem_keys_adjust (key : Key) (change : Option Value → Value) (entries : List (Key × Value))
    (other : Key) : other ∈ (adjust key change entries).map Prod.fst ↔
      other = key ∨ other ∈ entries.map Prod.fst := by
  induction entries with
  | nil => simp [adjust]
  | cons entry rest ih =>
      obtain ⟨first, old⟩ := entry
      unfold adjust
      split_ifs with same
      · subst same
        simp
      · rw [List.map_cons, List.mem_cons, ih, List.map_cons, List.mem_cons]
        tauto

/-- A change keeps the keys distinct. -/
theorem nodup_adjust (key : Key) (change : Option Value → Value) (entries : List (Key × Value))
    (distinct : (entries.map Prod.fst).Nodup) : ((adjust key change entries).map Prod.fst).Nodup := by
  induction entries with
  | nil => simp [adjust]
  | cons entry rest ih =>
      obtain ⟨first, old⟩ := entry
      obtain ⟨fresh, others⟩ := List.nodup_cons.mp distinct
      unfold adjust
      split_ifs with same
      · exact List.nodup_cons.mpr ⟨fresh, others⟩
      · refine List.nodup_cons.mpr ⟨fun member => ?_, ih others⟩
        rcases (mem_keys_adjust key change rest first).mp member with equal | inside
        · exact same equal
        · exact fresh inside

/-- With distinct keys an entry is the value of its key. -/
theorem mem_iff_valueAt {entries : List (Key × Value)} (distinct : (entries.map Prod.fst).Nodup)
    (key : Key) (value : Value) : (key, value) ∈ entries ↔ valueAt key entries = some value := by
  induction entries with
  | nil => simp [valueAt]
  | cons entry rest ih =>
      obtain ⟨first, old⟩ := entry
      obtain ⟨fresh, others⟩ := List.nodup_cons.mp distinct
      by_cases same : first = key
      · subst same
        have absent : (first, value) ∉ rest := fun member =>
          fresh (List.mem_map.mpr ⟨_, member, rfl⟩)
        simp [valueAt, absent, eq_comm]
      · have skips : valueAt key ((first, old) :: rest) = valueAt key rest := by
          simp [valueAt, same]
        rw [skips, ← ih others]
        simp [Ne.symm same]

variable (keyOf : Event → Key) (change : Event → Option Value → Value)

/-- The events change the dictionary one after the other. -/
def collect (entries : List (Key × Value)) (events : List Event) : List (Key × Value) :=
  events.foldl (fun entries event => adjust (keyOf event) (change event) entries) entries

/-- This fold takes the events of one key only. -/
def foldAt (key : Key) (start : Option Value) (events : List Event) : Option Value :=
  events.foldl (fun value event => if keyOf event = key then some (change event value) else value) start

/-- The dictionary holds the fold of each key. -/
theorem valueAt_collect (key : Key) (entries : List (Key × Value)) (events : List Event) :
    valueAt key (collect keyOf change entries events) =
      foldAt keyOf change key (valueAt key entries) events := by
  induction events generalizing entries with
  | nil => rfl
  | cons event rest ih =>
      have tail := ih (adjust (keyOf event) (change event) entries)
      unfold collect foldAt at tail ⊢
      rw [List.foldl_cons, List.foldl_cons, tail]
      split_ifs with same
      · rw [← same, valueAt_adjust]
      · rw [valueAt_adjust_of_ne (Ne.symm same)]

theorem nodup_collect (entries : List (Key × Value)) (events : List Event)
    (distinct : (entries.map Prod.fst).Nodup) :
    ((collect keyOf change entries events).map Prod.fst).Nodup := by
  induction events generalizing entries with
  | nil => exact distinct
  | cons event rest ih => exact ih _ (nodup_adjust _ _ _ distinct)

/-- A key without events has no value, and its events alone determine the value of a key. -/
theorem foldAt_filter (key : Key) (start : Option Value) (events : List Event) :
    foldAt keyOf change key start events =
      (events.filter fun event => keyOf event = key).foldl (fun value event => some (change event value))
        start := by
  induction events generalizing start with
  | nil => rfl
  | cons event rest ih =>
      have tail := ih (if keyOf event = key then some (change event start) else start)
      unfold foldAt at tail ⊢
      rw [List.foldl_cons, tail, List.filter_cons]
      by_cases same : keyOf event = key <;> simp [same]

/-- The entries that are collected are the folds of the events of their keys. -/
theorem mem_collect (events : List Event) (key : Key) (value : Value) :
    (key, value) ∈ collect keyOf change [] events ↔
      (events.filter fun event => keyOf event = key).foldl
        (fun value event => some (change event value)) none = some value := by
  rw [mem_iff_valueAt (nodup_collect keyOf change [] events (by simp)), valueAt_collect, foldAt_filter]
  rfl

section Groups
variable [DecidableEq Name] (nameOf : Item → Name) (arrange : List Item → List Item)

/-- The items of one name after the other are the items in some order. -/
theorem groups_perm (arranged : ∀ items, (arrange items).Perm items) {names : List Name}
    (distinct : names.Nodup) {items : List Item} (covered : ∀ item ∈ items, nameOf item ∈ names) :
    (names.flatMap fun name => arrange (items.filter fun item => nameOf item = name)).Perm items := by
  induction names generalizing items with
  | nil =>
      cases items with
      | nil => exact .nil
      | cons item items => cases covered item (List.mem_cons_self ..)
  | cons name names ih =>
      obtain ⟨fresh, others⟩ := List.nodup_cons.mp distinct
      have rest := @ih others (items.filter fun item => ¬ nameOf item = name)
        fun item member => by
          obtain ⟨inside, apart⟩ := List.mem_filter.mp member
          rcases List.mem_cons.mp (covered item inside) with same | later
          · exact absurd same (by simpa using apart)
          · exact later
      have same : (names.flatMap fun other => arrange (items.filter fun item => nameOf item = other)) =
          names.flatMap fun other => arrange ((items.filter fun item => ¬ nameOf item = name).filter
            fun item => nameOf item = other) := by
        refine List.flatMap_congr fun other member => ?_
        rw [List.filter_filter]
        congr 1
        refine List.filter_congr fun item _ => ?_
        by_cases named : nameOf item = other
        · have apart : other ≠ name := fun equal => fresh (equal ▸ member)
          simp [named, apart]
        · simp [named]
      rw [List.flatMap_cons, same]
      refine ((arranged _).append rest).trans ?_
      simpa using List.filter_append_perm (fun item => decide (nameOf item = name)) items

end Groups

end GroupedFold
