import Mathlib.Data.List.Basic

namespace FirstOccurrence

variable {Entry Key : Type} [DecidableEq Key] (key : Entry → Key)

/-- In a log whose newest entry comes first, this is the newest entry whose key no older entry has. -/
def newest : List Entry → Option Entry
  | [] => none
  | entry :: older => if key entry ∈ older.map key then newest older else some entry

/-- A log with an entry has a newest first occurrence. -/
theorem newest_isSome (log : List Entry) (nonempty : log ≠ []) : (newest key log).isSome = true := by
  induction log with
  | nil => exact absurd rfl nonempty
  | cons entry older ih =>
      unfold newest
      split_ifs with repeated
      · refine ih ?_
        rintro rfl
        cases repeated
      · rfl

theorem newest_mem {log : List Entry} {entry : Entry} (found : newest key log = some entry) :
    entry ∈ log := by
  induction log with
  | nil => cases found
  | cons first older ih =>
      unfold newest at found
      split_ifs at found
      · exact List.mem_cons_of_mem _ (ih found)
      · obtain rfl := Option.some.inj found
        exact List.mem_cons_self ..

/-- Every key of a log first occurs at or before its newest first occurrence. -/
theorem newest_after {log : List Entry} {wanted : Key} (present : wanted ∈ log.map key) {last : Entry}
    (found : newest key log = some last) :
    ∃ newer entry older, log = newer ++ entry :: older ∧ key entry = wanted ∧
      (last = entry ∨ last ∈ newer) := by
  induction log with
  | nil => cases found
  | cons first rest ih =>
      unfold newest at found
      split_ifs at found with repeated
      · have inside : wanted ∈ rest.map key := by
          rcases List.mem_cons.mp present with rfl | inside
          · exact repeated
          · exact inside
        obtain ⟨newer, entry, older, rfl, same, order⟩ := ih inside found
        exact ⟨first :: newer, entry, older, rfl, same, order.imp_right (List.mem_cons_of_mem _)⟩
      · obtain rfl := Option.some.inj found
        rcases List.mem_cons.mp present with rfl | inside
        · exact ⟨[], first, rest, rfl, rfl, .inl rfl⟩
        · obtain ⟨entry, member, same⟩ := List.mem_map.mp inside
          obtain ⟨newer, older, rfl⟩ := List.append_of_mem member
          exact ⟨first :: newer, entry, older, rfl, same, .inr (List.mem_cons_self ..)⟩

/-- The newest first occurrence has a key of the log exactly when every entry after that key repeats
an older key. -/
theorem newest_key_iff {log : List Entry} {wanted : Key} (present : wanted ∈ log.map key) :
    (∃ last, newest key log = some last ∧ key last = wanted) ↔
      ∀ newer entry older, log = newer ++ entry :: older → wanted ∈ older.map key →
        key entry ∈ older.map key := by
  induction log with
  | nil => cases present
  | cons first rest ih =>
      unfold newest
      split_ifs with repeated
      · have inside : wanted ∈ rest.map key := by
          rcases List.mem_cons.mp present with rfl | inside
          · exact repeated
          · exact inside
        rw [ih inside]
        constructor
        · intro all newer entry older same earlier
          cases newer with
          | nil =>
              obtain ⟨rfl, rfl⟩ := List.cons.inj same
              exact repeated
          | cons _ newer => exact all newer entry older (List.cons.inj same).2 earlier
        · intro all newer entry older same earlier
          exact all (first :: newer) entry older (by rw [same]; rfl) earlier
      · constructor
        · rintro ⟨last, found, rfl⟩ newer entry older same earlier
          obtain rfl := Option.some.inj found
          refine absurd ?_ repeated
          cases newer with
          | nil =>
              obtain ⟨_, rfl⟩ := List.cons.inj same
              exact earlier
          | cons _ newer =>
              obtain ⟨_, rest⟩ := List.cons.inj same
              change _ = newer ++ entry :: older at rest
              rw [rest, List.map_append, List.map_cons]
              exact List.mem_append_right _ (List.mem_cons_of_mem _ earlier)
        · intro all
          refine ⟨first, rfl, ?_⟩
          rcases List.mem_cons.mp present with same | inside
          · exact same.symm
          · exact absurd (all [] first rest rfl inside) repeated

end FirstOccurrence
