import EveApiCache.Construction.Config

/-!
This file builds libraries that agree with the real ones on a table of inputs.
-/

namespace EveApiCache

/-- A pinned digest follows its table and writes every other input out. -/
def pinnedDigest (table : List (Bytes × PyStr)) (input : Bytes) : PyStr :=
  (table.lookup input).getD (0x78 :: input.map fun value => point (0x100 + value.val))

/-- The digests of a table are distinct, and none of them is written out. -/
def Pinnable (table : List (Bytes × PyStr)) : Prop :=
  (table.map Prod.snd).Nodup ∧ ∀ pin ∈ table, pin.2.head? ≠ some 0x78 ∧ (0x3a : CodePoint) ∉ pin.2

/-- The digests alone decide whether a table can be pinned. -/
theorem pinnable_of_digests {table : List (Bytes × PyStr)} (distinct : (table.map Prod.snd).Nodup)
    (plain : ∀ digest ∈ table.map Prod.snd, digest.head? ≠ some 0x78 ∧ (0x3a : CodePoint) ∉ digest) :
    Pinnable table :=
  ⟨distinct, fun _ member => plain _ (List.mem_map_of_mem member)⟩

theorem mem_of_lookup {Key Value : Type} [BEq Key] [LawfulBEq Key] {table : List (Key × Value)} {key : Key}
    {value : Value} (found : table.lookup key = some value) : (key, value) ∈ table := by
  obtain ⟨before, after, rfl, _⟩ := List.lookup_eq_some_iff.mp found
  simp

theorem pinnedDigest_injective {table : List (Bytes × PyStr)} (pinnable : Pinnable table) :
    Function.Injective (pinnedDigest table) := by
  intro first second same
  unfold pinnedDigest at same
  cases one : table.lookup first with
  | some left =>
      have memberOne := mem_of_lookup one
      cases two : table.lookup second with
      | some right =>
          rw [one, two] at same
          have memberTwo := mem_of_lookup two
          obtain rfl : left = right := same
          exact congrArg Prod.fst
            (List.inj_on_of_nodup_map pinnable.1 memberOne memberTwo rfl)
      | none =>
          rw [one, two] at same
          obtain rfl : left = _ := same
          exact absurd rfl (pinnable.2 _ memberOne).1
  | none =>
      cases two : table.lookup second with
      | some right =>
          rw [one, two] at same
          have memberTwo := mem_of_lookup two
          obtain rfl : _ = right := same
          exact absurd rfl (pinnable.2 _ memberTwo).1
      | none =>
          rw [one, two] at same
          refine List.map_injective_iff.mpr (fun left right equal => ?_) (List.cons.inj same).2
          have values := congrArg Fin.val equal
          rw [point_val _ (by omega), point_val _ (by omega)] at values
          exact Fin.ext (by omega)

/-- A pinned digest contains no colon. -/
theorem pinnedDigest_plain {table : List (Bytes × PyStr)} (pinnable : Pinnable table)
    (input : Bytes) : (0x3a : CodePoint) ∉ pinnedDigest table input := by
  unfold pinnedDigest
  cases found : table.lookup input with
  | some digest => exact (pinnable.2 _ (mem_of_lookup found)).2
  | none =>
      intro member
      rcases List.mem_cons.mp member with clash | member
      · exact absurd clash (by decide)
      · obtain ⟨value, _, clash⟩ := List.mem_map.mp member
        have values := congrArg Fin.val clash
        rw [point_val _ (by omega)] at values
        have small : (0x3a : CodePoint).val = 0x3a := rfl
        omega

/-- A table of compressed bodies is consistent when equal data stand for equal bodies and no data
begin with the byte zero. -/
def Consistent (table : List ((Nat × Bytes) × Bytes)) : Prop :=
  ∀ pin ∈ table, pin.2.head? ≠ some 0 ∧ ∀ other ∈ table, pin.2 = other.2 → pin.1.2 = other.1.2

/-- A pinned compressor follows its table and stores every other body after a zero. -/
def pinnedCompressor (table : List ((Nat × Bytes) × Bytes)) (consistent : Consistent table) :
    Compressor where
  compress level body := (table.lookup (level, body)).getD (0 :: body)
  decompress data :=
    match table.find? (fun pin => pin.2 = data) with
    | some pin => some pin.1.2
    | none =>
        match data with
        | first :: rest => if first = 0 then some rest else none
        | [] => none
  inverse level body := by
    cases found : table.lookup (level, body) with
    | some data =>
        have member := mem_of_lookup found
        cases search : table.find? (fun pin => pin.2 = data) with
        | some pin =>
            have inside := List.mem_of_find?_eq_some search
            have same : pin.2 = data := by simpa using List.find?_some search
            simp [search, (consistent pin inside).2 _ member same]
        | none =>
            have absent := List.find?_eq_none.mp search _ member
            simp at absent
    | none =>
        cases search : table.find? (fun pin => pin.2 = 0 :: body) with
        | some pin =>
            have inside := List.mem_of_find?_eq_some search
            have same : pin.2 = 0 :: body := by simpa using List.find?_some search
            exact absurd (by rw [same]; rfl) (consistent pin inside).1
        | none => simp [search]

end EveApiCache
