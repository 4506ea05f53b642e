import EveApiCache.Construction.Archive.Write
import EveApiCache.Library.PrefixCode
import EveApiCache.Proof.JsonText

/-!
This file holds facts about texts that several modules use.
-/

namespace EveApiCache

/-- A colon separates a last part without colons from the front. -/
theorem last_part {front other last part : PyStr} (free : (0x3a : CodePoint) ∉ last)
    (freeOther : (0x3a : CodePoint) ∉ part)
    (same : front ++ text ":" ++ last = other ++ text ":" ++ part) : front = other ∧ last = part := by
  have colon : text ":" = [0x3a] := by decide
  have reversed := congrArg List.reverse same
  simp only [colon, List.reverse_append, List.append_assoc, List.reverse_singleton] at reversed
  obtain ⟨lasts, fronts⟩ := PrefixCode.delimited_ofFree (0x3a : CodePoint) _ _ _ _
    (by simpa using free) (by simpa using freeOther) rfl rfl reversed
  exact ⟨by simpa using List.append_cancel_left fronts, by simpa using lasts⟩

theorem intStr_free (value : Int) (symbol : CodePoint) (outside : Json.isDigit symbol = false)
    (minus : symbol ≠ 0x2d) : symbol ∉ intStr value := by
  have digits (value : Nat) : symbol ∉ numeral value := by
    intro member
    rw [Json.numeral_isDigit value symbol member] at outside
    cases outside
  cases value with
  | ofNat value => exact digits value
  | negSucc value =>
      intro member
      rcases List.mem_append.mp member with sign | digit
      · exact minus (List.mem_singleton.mp sign)
      · exact digits _ digit

theorem numeral_injective : Function.Injective numeral := by
  intro one two same
  rw [← Json.digitsValue_numeral one, same, Json.digitsValue_numeral]

/-- A decimal text names one integer. -/
theorem intStr_injective : Function.Injective intStr := by
  intro one two same
  have unsigned (value magnitude : Nat) : intStr value ≠ intStr (Int.negSucc magnitude) := by
    intro equal
    change numeral value = 0x2d :: numeral (magnitude + 1) at equal
    have digit := Json.numeral_isDigit value 0x2d (by simp [equal])
    exact absurd digit (by decide)
  cases one with
  | ofNat one =>
      cases two with
      | ofNat two => exact congrArg _ (numeral_injective same)
      | negSucc two => exact absurd same (unsigned one two)
  | negSucc one =>
      cases two with
      | ofNat two => exact absurd same.symm (unsigned two one)
      | negSucc two =>
          have digits : numeral (one + 1) = numeral (two + 1) := List.cons.inj same |>.2
          have equal := numeral_injective digits
          rw [Nat.succ.inj equal]

/-- Text without white space is stripped already. -/
theorem strip_plain (value : PyStr) (plain : ∀ symbol ∈ value, isWhitespace symbol = false) :
    strip value = value := by
  have kept (content : PyStr) (clear : ∀ symbol ∈ content, isWhitespace symbol = false) :
      content.dropWhile isWhitespace = content := by
    cases content with
    | nil => rfl
    | cons symbol rest => simp [clear symbol (by simp)]
  have back : value.reverse.dropWhile isWhitespace = value.reverse :=
    kept value.reverse (by simpa using plain)
  rw [strip, kept value plain, back, List.reverse_reverse]

/-- The decimal digits of a numeral are read one by one. -/
theorem digitValues_of_digits (digits : PyStr) (filled : digits ≠ [])
    (decimal : ∀ digit ∈ digits, Json.isDigit digit = true) :
    digitValues digits = some (digits.map fun digit => digit.val - 0x30) := by
  have value (digit : CodePoint) (isDigit : Json.isDigit digit = true) :
      decimalValue digit = some (digit.val - 0x30) := by
    simp only [Json.isDigit, Bool.and_eq_true, decide_eq_true_eq] at isDigit
    have inside : 0x30 ≤ digit.val ∧ digit.val < 0x3a := by omega
    simp [decimalValue, decimalZeros, inside]
  induction digits with
  | nil => exact absurd rfl filled
  | cons digit digits ih =>
      have first := value digit (decimal digit (by simp))
      cases digits with
      | nil => simp [digitValues, first]
      | cons next rest =>
          have apart : next ≠ 0x5f := by
            rintro rfl
            exact absurd (decimal 0x5f (by simp)) (by decide)
          have tail := ih (by simp) fun other member => decimal other (by simp [member])
          rw [digitValues, first, Option.bind_eq_bind, Option.bind_some, if_neg apart, tail]
          rfl

theorem digits_solid (digits : PyStr) (decimal : ∀ digit ∈ digits, Json.isDigit digit = true) :
    ∀ symbol ∈ digits, isWhitespace symbol = false := by
  intro symbol member
  have range := decimal symbol member
  simp only [Json.isDigit, Bool.and_eq_true, decide_eq_true_eq] at range
  simp [isWhitespace]
  omega

/-- The values of the digits of a numeral give the number. -/
theorem foldl_numeral (number : Nat) : ((numeral number).map fun digit => digit.val - 0x30).foldl
    (fun (value : Int) (digit : Nat) => 10 * value + digit) 0 = number := by
  have cast (digits : List Nat) (start : Nat) :
      digits.foldl (fun (value : Int) (digit : Nat) => 10 * value + digit) start =
        (digits.foldl (fun value digit => 10 * value + digit) start : Nat) := by
    induction digits generalizing start with
    | nil => rfl
    | cons digit digits ih =>
        rw [List.foldl_cons, List.foldl_cons, ← ih]
        push_cast
        rfl
  have read := Json.digitsValue_numeral number
  rw [Json.digitsValue] at read
  have folded := cast ((numeral number).map fun digit => digit.val - 0x30) 0
  rw [List.foldl_map (l := numeral number) (g := fun value digit => 10 * value + digit), read] at folded
  exact_mod_cast folded

/-- `int` reads the decimal text of an integer back. -/
theorem intOfText_intStr (value : Int)
    (short : (numeral value.natAbs).length ≤ Json.maxIntDigits) :
    intOfText (intStr value) = some value := by
  have digits (number : Nat) : digitValues (numeral number) =
      some ((numeral number).map fun digit => digit.val - 0x30) :=
    digitValues_of_digits _ (Json.numeral_ne_nil number) (Json.numeral_isDigit number)
  have solid (number : Nat) := digits_solid (numeral number) (Json.numeral_isDigit number)
  cases value with
  | ofNat number =>
      obtain ⟨first, rest, split⟩ := List.exists_cons_of_ne_nil (Json.numeral_ne_nil number)
      have decimal := Json.numeral_isDigit number first (by simp [split])
      have unsigned : first ≠ 0x2d ∧ first ≠ 0x2b := by
        constructor <;> rintro rfl <;> exact absurd decimal (by decide)
      have folded := foldl_numeral number
      unfold intOfText
      rw [show intStr (Int.ofNat number) = numeral number from rfl, strip_plain _ (solid number)]
      simp only [split, if_neg unsigned.1, if_neg unsigned.2]
      rw [← split, digits number, Option.bind_eq_bind, Option.bind_some, List.length_map]
      change (if (numeral (Int.ofNat number).natAbs).length ≤ Json.maxIntDigits then _ else _) = _
      rw [if_pos short, folded]
      rfl
  | negSucc number =>
      have folded := foldl_numeral (number + 1)
      have sign : intStr (Int.negSucc number) = 0x2d :: numeral (number + 1) := rfl
      unfold intOfText
      rw [sign, strip_plain _ (by
        intro symbol member
        rcases List.mem_cons.mp member with rfl | member
        · decide
        · exact solid _ symbol member)]
      simp only [if_true]
      rw [digits, Option.bind_eq_bind, Option.bind_some, List.length_map]
      change (if (numeral (Int.negSucc number).natAbs).length ≤ Json.maxIntDigits then _ else _) = _
      rw [if_pos short, folded]
      rfl

end EveApiCache
