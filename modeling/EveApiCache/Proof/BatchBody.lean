import EveApiCache.Proof.Identity
import EveApiCache.Proof.Esi.Total
import Mathlib.Tactic.Tauto

/-!
This file shows that the normalized body of a batch stands for its set of items.
-/

namespace EveApiCache
open Json

/-- These are the items of a body that is a JSON list. -/
def batchItems (libraries : Libraries) (body : Bytes) : List Json :=
  match loads libraries.floatRepr body with
  | some (.arr items) => items
  | _ => []

/-- `json.loads` gives an item back that `json.dumps` wrote. -/
def Inverts (libraries : Libraries) (item : Json) : Prop :=
  loads libraries.floatRepr (encode item.canonical) = some item

variable (libraries : Libraries)

/-- The two ways to write an item differ only in the separators, which an item does not use. -/
theorem sortedDumps_scalar {item : Json} (scalar : Scalar item) :
    item.sortedDumps = item.canonical := by
  unfold sortedDumps canonical
  rw [sortKeys_scalar item scalar]
  cases item with
  | int value => rfl
  | str value => rfl
  | null => cases scalar
  | bool => cases scalar
  | float => cases scalar
  | arr => cases scalar
  | obj => cases scalar

/-- A written item is read as what a batch gives back. -/
theorem loads_scalarBack {item : Json} (scalar : Scalar item) :
    loads libraries.floatRepr (encode item.canonical) = some (scalarBack item) := by
  have written : item.canonical = dumps compactSeparators item := by
    rw [canonical, sortKeys_scalar item scalar]
  rw [written, loads, decodeDetected_printable _ (scalar_printable compactSeparators item scalar)]
  obtain ⟨head, after, shape, solid, _⟩ := scalar_head compactSeparators item [] scalar
  have read := readValue_scalar libraries.floatRepr compactSeparators
    (2 * (dumps compactSeparators item).length + 1) item [] scalar (fun symbol head => by cases head)
  rw [List.append_nil] at shape read
  rw [Option.bind_some, parse]
  rw [shape] at read ⊢
  rw [skipSpace_cons head after solid, read]
  rfl

theorem scalarBack_of_inverts {item : Json} (scalar : Scalar item)
    (inverts : Inverts libraries item) : scalarBack item = item :=
  Option.some.inj ((loads_scalarBack libraries scalar).symm.trans inverts)

/-- Items that are read back are known by their text. -/
theorem canonical_inj {one two : Json} (first : Inverts libraries one) (second : Inverts libraries two)
    (same : one.canonical = two.canonical) : one = two := by
  unfold Inverts at first second
  rw [same] at first
  exact Option.some.inj (first.symm.trans second)

/-- The loop keeps one item for each marker. -/
theorem dedupe_complete (seen : List PyStr) {items : List Json} {item : Json}
    (member : item ∈ items) :
    item.canonical ∈ seen ∨ ∃ kept ∈ dedupe seen items, kept.canonical = item.canonical := by
  induction items generalizing seen with
  | nil => cases member
  | cons first items ih =>
      rw [dedupe]
      rcases List.mem_cons.mp member with rfl | later
      · split_ifs with known
        · exact .inl known
        · exact .inr ⟨item, List.mem_cons_self .., rfl⟩
      · split_ifs with known
        · exact ih seen later
        · rcases ih (first.canonical :: seen) later with repeated | ⟨kept, inside, same⟩
          · rcases List.mem_cons.mp repeated with same | earlier
            · exact .inr ⟨first, List.mem_cons_self .., same.symm⟩
            · exact .inl earlier
          · exact .inr ⟨kept, List.mem_cons_of_mem _ inside, same⟩

section Batch

variable {items others : List Json}

theorem mem_normalizeItems (inverts : ∀ item ∈ items, Inverts libraries item) (item : Json) :
    item ∈ normalizeItems items ↔ item ∈ items := by
  have sorted := List.perm_insertionSort
    (fun first second : Json => first.sortedDumps ≤ second.sortedDumps) items
  have inside : normalizeItems items ⊆ items := fun kept member =>
    sorted.subset ((dedupe_sublist [] _).subset member)
  constructor
  · exact fun member => inside member
  · intro member
    rcases dedupe_complete [] (sorted.symm.subset member) with repeated | ⟨kept, found, same⟩
    · cases repeated
    · have equal := canonical_inj libraries (inverts kept (inside found)) (inverts item member) same
      exact equal ▸ found

theorem normalizeItems_nodup (items : List Json) : (normalizeItems items).Nodup :=
  List.Nodup.of_map canonical (dedupe_fresh [] _).1

/-- Batches with the same set of items are normalized to the same list. -/
theorem normalizeItems_eq (scalars : ∀ item ∈ items, Scalar item)
    (inverts : ∀ item ∈ items, Inverts libraries item)
    (same : ∀ item, item ∈ items ↔ item ∈ others) :
    normalizeItems items = normalizeItems others := by
  have otherInverts : ∀ item ∈ others, Inverts libraries item := fun item member =>
    inverts item ((same item).mpr member)
  have perm : (normalizeItems items).Perm (normalizeItems others) := by
    apply (List.perm_ext_iff_of_nodup (normalizeItems_nodup items) (normalizeItems_nodup others)).mpr
    intro item
    rw [mem_normalizeItems libraries inverts, mem_normalizeItems libraries otherInverts, same]
  refine List.Perm.eq_of_pairwise ?_ ((sort_ordered items).sublist (dedupe_sublist [] _))
    ((sort_ordered others).sublist (dedupe_sublist [] _)) perm
  intro one two first second before after
  have oneInside := (mem_normalizeItems libraries inverts one).mp first
  have twoInside := (same two).mpr ((mem_normalizeItems libraries otherInverts two).mp second)
  have equal := le_antisymm before after
  rw [sortedDumps_scalar (scalars one oneInside), sortedDumps_scalar (scalars two twoInside)] at equal
  exact canonical_inj libraries (inverts one oneInside) (inverts two twoInside) equal

/-- The normalized body is read as the normalized list. -/
theorem loads_normalizeItems (scalars : ∀ item ∈ items, Scalar item)
    (inverts : ∀ item ∈ items, Inverts libraries item) :
    loads libraries.floatRepr (encode (arr (normalizeItems items)).canonical) =
      some (arr (normalizeItems items)) := by
  have inside := normalizeItems_scalar items scalars
  rw [canonical_arr _ inside, loads_batch libraries.floatRepr _ inside]
  have same : (normalizeItems items).map scalarBack = normalizeItems items := by
    have each : ∀ item ∈ normalizeItems items, scalarBack item = id item := fun item member =>
      scalarBack_of_inverts libraries (inside item member)
        (inverts item ((mem_normalizeItems libraries inverts item).mp member))
    rw [List.map_congr_left each, List.map_id]
  rw [same]

end Batch

/-- A valid body is a list of integers and strings, and its normalized body is written from them. -/
theorem validBatch (settings : Settings) {body : Bytes}
    (valid : validatePostBody libraries settings.maxPostBatchItems (some body) = none) :
    (∀ item ∈ batchItems libraries body, Scalar item) ∧
      normalizeBody libraries (some body) =
        some (encode (arr (normalizeItems (batchItems libraries body))).canonical) := by
  unfold validatePostBody at valid
  dsimp only at valid
  split_ifs at valid with empty
  unfold batchItems normalizeBody
  split at valid
  · cases valid
  · rename_i items decoded
    split_ifs at valid with large batch
    rw [decoded]
    dsimp only
    rw [if_neg empty]
    exact ⟨batch_scalar libraries.floatRepr body items decoded batch, by rw [decoded]⟩
  · cases valid

/-- A normalized body has the hash of the body that it comes from. -/
theorem computeQueryHash_normalized (params : Params) {body normalized : Bytes} (given : body ≠ [])
    (written : normalizeBody libraries (some body) = some normalized) (filled : normalized ≠ [])
    (again : normalizeBody libraries (some normalized) = some normalized) :
    computeQueryHash libraries params (some normalized) =
      computeQueryHash libraries params (some body) := by
  unfold computeQueryHash queryText
  dsimp only
  rw [if_neg given, if_neg filled, written, again]
  dsimp only
  rw [if_neg filled, if_neg filled]

/-- Valid batch bodies are normalized to the same bytes exactly when they hold the same items. The
normalized body holds each item once, and to normalize it again changes neither it nor its hash. -/
theorem normalizeBody_canonical (settings : Settings) (params : Params) {one two : Bytes}
    (validOne : validatePostBody libraries settings.maxPostBatchItems (some one) = none)
    (validTwo : validatePostBody libraries settings.maxPostBatchItems (some two) = none)
    (invertsOne : ∀ item ∈ batchItems libraries one, Inverts libraries item)
    (invertsTwo : ∀ item ∈ batchItems libraries two, Inverts libraries item) :
    (normalizeBody libraries (some one) = normalizeBody libraries (some two) ↔
        ∀ item, item ∈ batchItems libraries one ↔ item ∈ batchItems libraries two) ∧
      (∃ normalized items, normalizeBody libraries (some one) = some normalized ∧
        loads libraries.floatRepr normalized = some (.arr items) ∧ items.Nodup ∧
        ∀ item, item ∈ items ↔ item ∈ batchItems libraries one) ∧
      normalizeBody libraries (normalizeBody libraries (some one)) =
        normalizeBody libraries (some one) ∧
      computeQueryHash libraries params (normalizeBody libraries (some one)) =
        computeQueryHash libraries params (some one) := by
  obtain ⟨scalarsOne, bodyOne⟩ := validBatch libraries settings validOne
  obtain ⟨scalarsTwo, bodyTwo⟩ := validBatch libraries settings validTwo
  have readOne := loads_normalizeItems libraries scalarsOne invertsOne
  have readTwo := loads_normalizeItems libraries scalarsTwo invertsTwo
  obtain ⟨normalized, written, filled, again⟩ :=
    normalizeBody_batch libraries settings (some one) validOne
  refine ⟨?_, ?_, ?_, ?_⟩
  · constructor
    · intro same item
      rw [bodyOne, bodyTwo] at same
      rw [Option.some.inj same, readTwo] at readOne
      have lists : normalizeItems (batchItems libraries two) =
          normalizeItems (batchItems libraries one) := by simpa using readOne
      rw [← mem_normalizeItems libraries invertsOne, ← lists,
        mem_normalizeItems libraries invertsTwo]
    · intro same
      rw [bodyOne, bodyTwo, normalizeItems_eq libraries scalarsOne invertsOne same]
  · exact ⟨_, _, bodyOne, readOne, normalizeItems_nodup _, mem_normalizeItems libraries invertsOne⟩
  · rw [written, again]
  · have given : one ≠ [] := by
      rintro rfl
      cases validOne
    rw [written]
    exact computeQueryHash_normalized libraries params given written filled again

/-- These two bodies hold the integer 1 and the strings 1 and a. -/
def plainBatch : Bytes := bytes "[1,\"1\",\"a\"]"

def mixedBatch : Bytes := bytes "[ \"\\u0061\", 1, \"1\", 1 ]"

theorem batches_valid :
    validatePostBody clientLibraries 1000 (some plainBatch) = none ∧
      validatePostBody clientLibraries 1000 (some mixedBatch) = none ∧
      batchItems clientLibraries plainBatch = [.int 1, .str (text "1"), .str (text "a")] ∧
      batchItems clientLibraries mixedBatch =
        [.str (text "a"), .int 1, .str (text "1"), .int 1] ∧
      ∀ item ∈ [Json.int 1, .str (text "1"), .str (text "a")],
        loads clientLibraries.floatRepr (encode item.canonical) = some item := by
  decide +kernel

theorem mem_mixed {A : Type} (one two three item : A) :
    item ∈ [one, two, three] ↔ item ∈ [three, one, two, one] := by
  simp only [List.mem_cons, List.not_mem_nil, or_false]
  tauto

/-- The order, the escapes and the repeated item leave no trace. -/
theorem normalizeBody_canonical_mixed :
    normalizeBody clientLibraries (some plainBatch) =
      normalizeBody clientLibraries (some mixedBatch) := by
  obtain ⟨validPlain, validMixed, plain, mixed, inverts⟩ := batches_valid
  have invertsPlain : ∀ item ∈ batchItems clientLibraries plainBatch,
      Inverts clientLibraries item := by
    rw [plain]
    exact inverts
  have invertsMixed : ∀ item ∈ batchItems clientLibraries mixedBatch,
      Inverts clientLibraries item := by
    rw [mixed]
    exact fun item member => inverts item ((mem_mixed _ _ _ item).mpr member)
  have canonical := normalizeBody_canonical clientLibraries {} .empty validPlain validMixed
    invertsPlain invertsMixed
  apply canonical.1.mpr
  intro item
  rw [plain, mixed]
  exact mem_mixed _ _ _ item

end EveApiCache
