import Mathlib.Data.List.Nodup
import Mathlib.Data.List.Forall2
import Mathlib.Tactic.SplitIfs

/-!
This file lays the rows that a transaction has written over the rows of a shared table. A table is a
partial function or a list whose rows have distinct keys.
-/

namespace Overlay

variable {Key Row : Type}

/-- A reader sees a written row in place of the row below it. -/
def table (written base : Key → Option Row) : Key → Option Row :=
  fun key => (written key).or (base key)

/-- These rows are new above the base. -/
def added (base after : Key → Option Row) : Key → Option Row :=
  fun key => if (base key).isSome then none else after key

/-- These rows are written when some keys are updated. -/
def updated (keys : Key → Bool) (written after : Key → Option Row) : Key → Option Row :=
  fun key => if keys key || (written key).isSome then after key else none

@[simp] theorem table_none (base : Key → Option Row) : table (fun _ => none) base = base := rfl

/-- A visible row was written or stands in the base. -/
theorem table_cases {written base : Key → Option Row} {key : Key} {row : Row}
    (seen : table written base key = some row) :
    written key = some row ∨ written key = none ∧ base key = some row := by
  unfold table at seen
  cases own : written key with
  | some other =>
      rw [own] at seen
      exact .inl seen
  | none =>
      rw [own] at seen
      exact .inr ⟨rfl, seen⟩

theorem table_of_written {written base : Key → Option Row} {key : Key} {row : Row}
    (own : written key = some row) : table written base key = some row := by
  unfold table
  rw [own]
  rfl

theorem table_of_base {written base : Key → Option Row} {key : Key} {row : Row}
    (free : written key = none) (below : base key = some row) : table written base key = some row := by
  unfold table
  rw [free]
  exact below

/-- The added rows restore a table that keeps its base. -/
theorem table_added {base after : Key → Option Row}
    (kept : ∀ key row, base key = some row → after key = some row) :
    table (added base after) base = after := by
  funext key
  unfold table added
  cases below : base key with
  | some row => simp [kept key row below]
  | none => simp

/-- The updated rows restore a table that changed under those keys only. -/
theorem table_updated {keys : Key → Bool} {written base after : Key → Option Row}
    (kept : ∀ key, keys key = false → after key = table written base key)
    (present : ∀ key, keys key = true ∨ (written key).isSome = true → (after key).isSome = true) :
    table (updated keys written after) base = after := by
  funext key
  unfold updated
  by_cases chosen : keys key = true ∨ (written key).isSome = true
  · obtain ⟨row, found⟩ := Option.isSome_iff_exists.mp (present key chosen)
    have taken : (keys key || (written key).isSome) = true := by simpa using chosen
    simp [table, taken, found]
  · obtain ⟨untouched, free⟩ := not_or.mp chosen
    have none : written key = none := by simpa using free
    rw [kept key (by simpa using untouched)]
    simp [table, untouched, none]

/-- An added row was added by the last change or before it. -/
theorem added_cases {written base after : Key → Option Row} {key : Key}
    (own : (added base after key).isSome = true) :
    (written key).isSome = true ∨ after key ≠ table written base key := by
  unfold added at own
  split_ifs at own with below
  · simp at own
  · refine (em ((written key).isSome = true)).imp_right fun free same => ?_
    rw [same, table, show written key = none by simpa using free] at own
    exact below own

theorem updated_cases {keys : Key → Bool} {written after : Key → Option Row} {key : Key}
    (own : (updated keys written after key).isSome = true) :
    keys key = true ∨ (written key).isSome = true := by
  unfold updated at own
  split_ifs at own with chosen
  · simpa using chosen
  · simp at own

/-- Rows with the same distinct keys in the same order are the same when the second list has them. -/
theorem eq_of_keys (key : Row → Key) {first second : List Row} (keys : first.map key = second.map key)
    (distinct : (first.map key).Nodup) (inside : ∀ row ∈ first, row ∈ second) : first = second := by
  induction first generalizing second with
  | nil => exact (List.map_eq_nil_iff.mp keys.symm).symm
  | cons row first ih =>
      cases second with
      | nil => cases keys
      | cons other second =>
          rw [List.map_cons, List.map_cons] at keys
          obtain ⟨head, tail⟩ := List.cons.inj keys
          obtain ⟨fresh, distinct⟩ := List.nodup_cons.mp distinct
          have absent (member : row ∈ second) : False :=
            fresh (tail ▸ List.mem_map_of_mem member)
          obtain rfl : row = other := (List.mem_cons.mp (inside row (by simp))).resolve_right absent
          refine congrArg (row :: ·) (ih tail distinct fun next member => ?_)
          refine (List.mem_cons.mp (inside next (by simp [member]))).resolve_left fun same => ?_
          subst same
          exact fresh (List.mem_map_of_mem member)

section Rows
variable [DecidableEq Key] (key : Row → Key)

/-- A reader of a list sees a written row in place of the row with its key. -/
def rows (written base : List Row) : List Row :=
  base.map (fun row => (written.find? fun other => key other = key row).getD row) ++
    written.filter fun row => base.all fun other => key other ≠ key row

/-- These rows are new above the base or are written for another reason. -/
def addedRows (also : Row → Bool) (base after : List Row) : List Row :=
  after.filter fun row => also row || base.all fun other => key other ≠ key row

@[simp] theorem rows_nil (base : List Row) : rows key [] base = base := by
  simp [rows]

/-- The visible rows are the written ones and the rows of the base with other keys. -/
theorem mem_rows {written base : List Row} (distinct : (written.map key).Nodup) {row : Row} :
    row ∈ rows key written base ↔
      row ∈ written ∨ row ∈ base ∧ ∀ other ∈ written, key other ≠ key row := by
  have search (below found : Row) (hit : (written.find? fun other => key other = key below) = some found) :
      found ∈ written ∧ key found = key below :=
    ⟨List.mem_of_find?_eq_some hit, by simpa using List.find?_some hit⟩
  unfold rows
  rw [List.mem_append, List.mem_map, List.mem_filter]
  constructor
  · rintro (⟨below, member, rfl⟩ | ⟨member, _⟩)
    · cases hit : written.find? fun other => key other = key below with
      | some found => exact .inl (search below found hit).1
      | none =>
          refine .inr ⟨member, fun other inside => ?_⟩
          simpa using List.find?_eq_none.mp hit other inside
    · exact .inl member
  · rintro (member | ⟨member, free⟩)
    · by_cases covered : ∃ below ∈ base, key below = key row
      · obtain ⟨below, inside, same⟩ := covered
        refine .inl ⟨below, inside, ?_⟩
        obtain ⟨found, hit⟩ : ∃ found, (written.find? fun other => key other = key below) = some found :=
          Option.isSome_iff_exists.mp (List.find?_isSome.mpr ⟨row, member, by simp [same]⟩)
        rw [hit, Option.getD_some]
        have located := search below found hit
        exact List.inj_on_of_nodup_map distinct located.1 member (located.2.trans same)
      · refine .inr ⟨member, ?_⟩
        simpa using fun other inside => not_exists.mp covered other ∘ And.intro inside
    · refine .inl ⟨row, member, ?_⟩
      rw [List.find?_eq_none.mpr fun other inside => by simpa using free other inside]
      rfl

/-- The keys of the base stay in their places. -/
theorem map_rows (written base : List Row) :
    (rows key written base).map key =
      base.map key ++ (written.filter fun row => base.all fun other => key other ≠ key row).map key := by
  unfold rows
  rw [List.map_append, List.map_map]
  refine congrArg (· ++ _) (List.map_congr_left fun below _ => ?_)
  change key ((written.find? fun other => key other = key below).getD below) = key below
  cases hit : written.find? fun other => key other = key below with
  | some found => simpa using List.find?_some hit
  | none => rfl

theorem nodup_rows {written base : List Row} (distinct : (written.map key).Nodup)
    (below : (base.map key).Nodup) : ((rows key written base).map key).Nodup := by
  rw [map_rows]
  refine List.nodup_append.mpr ⟨below, distinct.sublist (List.filter_sublist.map key), ?_⟩
  intro first inBase second inNew same
  obtain ⟨other, member, rfl⟩ := List.mem_map.mp inBase
  obtain ⟨row, chosen, rfl⟩ := List.mem_map.mp inNew
  have apart := (List.mem_filter.mp chosen).2
  simp only [List.all_eq_true, decide_eq_true_eq] at apart
  exact apart other member same

/-- The added rows restore a list that keeps the keys of its base in their places. -/
theorem rows_addedRows {also : Row → Bool} {base after : List Row}
    (order : base.map key <+: after.map key) (distinct : (after.map key).Nodup)
    (kept : ∀ row ∈ after, also row = false → key row ∈ base.map key → row ∈ base) :
    rows key (addedRows key also base after) base = after := by
  obtain ⟨more, keys⟩ := order
  replace keys := keys.symm
  have covered (row : Row) : base.all (fun other => decide (key other ≠ key row)) = true ↔
      key row ∉ base.map key := by
    simp
  have chosen : ((addedRows key also base after).map key).Nodup :=
    distinct.sublist (List.filter_sublist.map key)
  have below : (base.map key).Nodup := (List.nodup_append.mp (keys ▸ distinct)).1
  have order : (rows key (addedRows key also base after) base).map key = after.map key := by
    rw [map_rows, keys]
    refine congrArg (_ ++ ·) ?_
    unfold addedRows
    have only : (after.filter fun row => also row || base.all fun other => key other ≠ key row).filter
        (fun row => base.all fun other => key other ≠ key row) =
          after.filter fun row => decide (key row ∉ base.map key) := by
      rw [List.filter_filter]
      refine List.filter_congr fun row _ => ?_
      have same : (base.all fun other => decide (key other ≠ key row)) = decide (key row ∉ base.map key) := by
        rw [Bool.eq_iff_iff, covered, decide_eq_true_iff]
      rw [same]
      cases also row <;> cases decide (key row ∉ base.map key) <;> rfl
    rw [only]
    change (after.filter ((fun other => decide (other ∉ base.map key)) ∘ key)).map key = more
    rw [← List.filter_map, keys, List.filter_append, List.filter_eq_nil_iff.mpr (by simp),
      List.nil_append]
    refine List.filter_eq_self.mpr fun other member => ?_
    have apart := (List.nodup_append.mp (keys ▸ distinct)).2.2
    simpa using fun row inside same => apart _ (List.mem_map_of_mem inside) _ member same
  refine eq_of_keys key order (nodup_rows key chosen below) fun row member => ?_
  rcases (mem_rows key chosen).mp member with own | ⟨inBase, free⟩
  · exact (List.mem_filter.mp own).1
  · have inside : key row ∈ after.map key := by
      rw [keys]
      exact List.mem_append_left _ (List.mem_map_of_mem inBase)
    obtain ⟨found, present, same⟩ := List.mem_map.mp inside
    by_cases taken : also found = true
    · refine absurd same (free found (List.mem_filter.mpr ⟨present, ?_⟩))
      simp [taken]
    · have old := kept found present (by simpa using taken) (same ▸ List.mem_map_of_mem inBase)
      exact List.inj_on_of_nodup_map below old inBase same ▸ present

end Rows

end Overlay
