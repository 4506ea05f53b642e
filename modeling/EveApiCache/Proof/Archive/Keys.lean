import EveApiCache.Construction.Archive.Write
import EveApiCache.Library.PrefixCode
import EveApiCache.Proof.JsonText

/-!
This file shows that the keys of the archive determine what they are made of.
-/

namespace EveApiCache
open PrefixCode

/-- The decoder takes one encoded code point off the front. -/
theorem decodePoint_encodePoint (symbol : CodePoint) (rest : Bytes) :
    decodePoint (encodePoint symbol ++ rest) = some (symbol, rest) := by
  have bound := symbol.isLt
  have same (value : Nat) (equal : value = symbol.val) : point value = symbol := by
    rw [equal]
    exact Fin.ext (point_val _ bound)
  unfold encodePoint
  split_ifs with ascii two three
  · have lead : (octet symbol.val).val = symbol.val := octet_val _ (by omega)
    simp [decodePoint, lead, ascii, same]
  · have lead : (octet (0xc0 + symbol.val / 64)).val = 0xc0 + symbol.val / 64 :=
      octet_val _ (by omega)
    have tail : (octet (0x80 + symbol.val % 64)).val = 0x80 + symbol.val % 64 :=
      octet_val _ (by omega)
    simp only [List.cons_append, List.nil_append, decodePoint, lead, isTail, tail]
    rw [if_neg (by omega), if_pos (by omega), if_pos (by simp; omega), same _ (by omega)]
  · have lead : (octet (0xe0 + symbol.val / 4096)).val = 0xe0 + symbol.val / 4096 :=
      octet_val _ (by omega)
    have second : (octet (0x80 + symbol.val / 64 % 64)).val = 0x80 + symbol.val / 64 % 64 :=
      octet_val _ (by omega)
    have third : (octet (0x80 + symbol.val % 64)).val = 0x80 + symbol.val % 64 :=
      octet_val _ (by omega)
    simp only [List.cons_append, List.nil_append, decodePoint, lead, isTail, second, third]
    rw [if_neg (by omega), if_neg (by omega), if_pos (by omega), if_pos (by simp; omega),
      same _ (by omega)]
  · have lead : (octet (0xf0 + symbol.val / 262144)).val = 0xf0 + symbol.val / 262144 :=
      octet_val _ (by omega)
    have second : (octet (0x80 + symbol.val / 4096 % 64)).val = 0x80 + symbol.val / 4096 % 64 :=
      octet_val _ (by omega)
    have third : (octet (0x80 + symbol.val / 64 % 64)).val = 0x80 + symbol.val / 64 % 64 :=
      octet_val _ (by omega)
    have fourth : (octet (0x80 + symbol.val % 64)).val = 0x80 + symbol.val % 64 :=
      octet_val _ (by omega)
    simp only [List.cons_append, List.nil_append, decodePoint, lead, isTail, second, third, fourth]
    rw [if_neg (by omega), if_neg (by omega), if_neg (by omega), if_pos (by omega),
      if_pos (by simp; omega), same _ (by omega)]

theorem encodePoint_ne_nil (symbol : CodePoint) : encodePoint symbol ≠ [] := by
  unfold encodePoint
  split_ifs <;> exact List.cons_ne_nil _ _

/-- Different texts have different encodings. -/
theorem encode_injective : Function.Injective encode := by
  intro first second same
  have delimited : SelfDelimiting (fun _ => True) encodePoint :=
    .ofReader decodePoint fun symbol rest _ => decodePoint_encodePoint symbol rest
  exact delimited.flatMap_injective encodePoint_ne_nil first second (fun _ _ => trivial)
    (fun _ _ => trivial) same

namespace Datetime

theorem pad_length (width value : Nat) (positive : 0 < width) (fits : value < 10 ^ width) :
    (pad width value).length = width := by
  have short : (numeral value).length ≤ width := by
    unfold numeral
    rw [List.length_map]
    exact (Nat.length_toDigits_le_iff (by decide) positive).mpr fits
  unfold pad
  rw [List.length_append, List.length_replicate]
  omega

theorem digitsValue_pad (width value : Nat) : Json.digitsValue (pad width value) = value := by
  have zeros (count : Nat) : (List.replicate count (0x30 : CodePoint)).foldl
      (fun value digit => 10 * value + (digit.val - 0x30)) 0 = 0 := by
    induction count with
    | zero => rfl
    | succ count ih => simpa [List.replicate_succ] using ih
  have last := Json.digitsValue_numeral value
  unfold Json.digitsValue at last ⊢
  rw [pad, List.foldl_append, zeros, last]

/-- Two fields of one width are told apart by their values. -/
theorem pad_append {width first second : Nat} {rest tail : PyStr} (positive : 0 < width)
    (one : first < 10 ^ width) (two : second < 10 ^ width)
    (same : pad width first ++ rest = pad width second ++ tail) : first = second ∧ rest = tail := by
  obtain ⟨fields, rests⟩ := List.append_inj same (by
    rw [pad_length width first positive one, pad_length width second positive two])
  refine ⟨?_, rests⟩
  rw [← digitsValue_pad width first, fields, digitsValue_pad]

theorem pad_isDigit (width value : Nat) : ∀ symbol ∈ pad width value, Json.isDigit symbol = true := by
  intro symbol member
  rcases List.mem_append.mp member with zero | digit
  · rw [List.eq_of_mem_replicate zero]
    decide
  · exact Json.numeral_isDigit value symbol digit

/-- The text of a whole minute determines the minute. -/
theorem isoformat_minuteStart {first second : Datetime}
    (same : first.minuteStart.isoformat = second.minuteStart.isoformat) :
    first.minuteStart = second.minuteStart := by
  simp only [isoformat, datePart, minuteStart, if_true, List.append_nil, List.append_assoc] at same
  obtain ⟨years, same⟩ := pad_append (by decide) first.year.isLt second.year.isLt same
  obtain ⟨months, same⟩ := pad_append (by decide) (first.month.isLt.trans (by decide))
    (second.month.isLt.trans (by decide)) (List.append_cancel_left same)
  obtain ⟨days, same⟩ := pad_append (by decide) (first.day.isLt.trans (by decide))
    (second.day.isLt.trans (by decide)) (List.append_cancel_left same)
  obtain ⟨hours, same⟩ := pad_append (by decide) (first.hour.isLt.trans (by decide))
    (second.hour.isLt.trans (by decide)) (List.append_cancel_left same)
  obtain ⟨minutes, _⟩ := pad_append (by decide) (first.minute.isLt.trans (by decide))
    (second.minute.isLt.trans (by decide)) (List.append_cancel_left same)
  unfold minuteStart
  rw [Fin.ext years, Fin.ext months, Fin.ext days, Fin.ext hours, Fin.ext minutes]

/-- The text of a time contains no zero. -/
theorem isoformat_plain (time : Datetime) : (0 : CodePoint) ∉ time.isoformat := by
  have digits (width value : Nat) : (0 : CodePoint) ∉ pad width value := fun member =>
    absurd (pad_isDigit width value 0 member) (by decide)
  have marks : ∀ mark ∈ ["-", "T", ":", ".", "+00:00"], (0 : CodePoint) ∉ text mark := by decide
  simp only [isoformat, datePart, List.mem_append, not_or]
  refine ⟨⟨⟨⟨⟨⟨⟨⟨⟨⟨⟨⟨digits _ _, marks _ (by simp)⟩, digits _ _⟩, marks _ (by simp)⟩, digits _ _⟩,
    marks _ (by simp)⟩, digits _ _⟩, marks _ (by simp)⟩, digits _ _⟩, marks _ (by simp)⟩,
    digits _ _⟩, ?_⟩, marks _ (by simp)⟩
  split_ifs
  · exact List.not_mem_nil
  · simp only [List.mem_append, not_or]
    exact ⟨marks _ (by simp), digits _ _⟩

end Datetime

theorem isText_plain {value : PyStr} (fits : isText value = true) : (0 : CodePoint) ∉ value := by
  intro member
  have each := List.all_eq_true.mp fits 0 member
  simp at each

/-- The parts of a text joined by zeros are known when all but the last have no zero. -/
theorem intercalate_zero {first second : PyStr} {rest tail : List PyStr}
    (one : (0 : CodePoint) ∉ first) (two : (0 : CodePoint) ∉ second) (more : rest ≠ []) (others : tail ≠ [])
    (same : List.intercalate [(0 : CodePoint)] (first :: rest) = List.intercalate [0] (second :: tail)) :
    first = second ∧ List.intercalate [(0 : CodePoint)] rest = List.intercalate [0] tail := by
  obtain ⟨head, rest, rfl⟩ := List.exists_cons_of_ne_nil more
  obtain ⟨other, tail, rfl⟩ := List.exists_cons_of_ne_nil others
  rw [List.intercalate_cons_cons, List.intercalate_cons_cons, List.append_assoc, List.append_assoc]
    at same
  obtain ⟨heads, tails⟩ := delimited_ofFree 0 first second _ _ one two rfl rfl same
  exact ⟨heads, List.append_cancel_left tails⟩

/-- The fields of such an identity contain no zero. -/
def Identity.Plain (identity : Identity) : Prop :=
  (0 : CodePoint) ∉ identity.datasource ∧ (0 : CodePoint) ∉ identity.path ∧
    (0 : CodePoint) ∉ identity.queryHash

theorem Identity.plain_of_fits {identity : Identity} (fits : identity.fits = true) : identity.Plain := by
  simp only [Identity.fits, isVarchar, Bool.and_eq_true] at fits
  exact ⟨isText_plain fits.1.1.1, isText_plain fits.1.2, isText_plain fits.2.1⟩

/-- This is the joined text of which an idempotency key is the digest. -/
def idempotencyText (identity : Identity) (contentHash : PyStr) (fetchedAt : Datetime) : PyStr :=
  List.intercalate [0]
    [identity.datasource, identity.path, identity.queryHash, fetchedAt.minuteStart.isoformat, contentHash]

/-- The joined text determines the identity, the minute and the content hash. -/
theorem idempotencyText_injective {one two : Identity} {hash other : PyStr} {first second : Datetime}
    (plainOne : one.Plain) (plainTwo : two.Plain)
    (texts : idempotencyText one hash first = idempotencyText two other second) :
    one = two ∧ first.minuteStart = second.minuteStart ∧ hash = other := by
  obtain ⟨datasourceOne, pathOne, hashOne⟩ := plainOne
  obtain ⟨datasourceTwo, pathTwo, hashTwo⟩ := plainTwo
  obtain ⟨datasources, texts⟩ := intercalate_zero datasourceOne datasourceTwo (by simp) (by simp) texts
  obtain ⟨paths, texts⟩ := intercalate_zero pathOne pathTwo (by simp) (by simp) texts
  obtain ⟨hashes, texts⟩ := intercalate_zero hashOne hashTwo (by simp) (by simp) texts
  obtain ⟨times, texts⟩ := intercalate_zero (Datetime.isoformat_plain first.minuteStart)
    (Datetime.isoformat_plain second.minuteStart) (by simp) (by simp) texts
  rw [List.intercalate_singleton, List.intercalate_singleton] at texts
  refine ⟨?_, Datetime.isoformat_minuteStart times, texts⟩
  cases one
  cases two
  obtain rfl : _ = _ := datasources
  obtain rfl : _ = _ := paths
  obtain rfl : _ = _ := hashes
  rfl

/-- An idempotency key determines the identity, the minute and the content hash. -/
theorem timeseriesIdempotencyKey_injective (libraries : Libraries)
    (injective : Function.Injective libraries.sha256) {one two : Identity} {hash other : PyStr}
    {first second : Datetime} (fitsOne : one.fits = true) (fitsTwo : two.fits = true)
    (same : timeseriesIdempotencyKey libraries one hash first =
      timeseriesIdempotencyKey libraries two other second) :
    one = two ∧ first.minuteStart = second.minuteStart ∧ hash = other :=
  idempotencyText_injective (Identity.plain_of_fits fitsOne) (Identity.plain_of_fits fitsTwo)
    (encode_injective (injective same))

end EveApiCache
