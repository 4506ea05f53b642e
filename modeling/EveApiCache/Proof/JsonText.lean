import EveApiCache.Construction.Json
import EveApiCache.Library.PrefixCode
import Mathlib.Data.List.Chain
import Mathlib.Data.List.TakeDrop
import Mathlib.Data.List.TakeWhile

/-!
This file shows that `loads` reads back what `dumps` writes.
-/

namespace EveApiCache.Json

/-- Batch items are strings and integers that `int` accepts. -/
def Scalar : Json → Prop
  | int value => (numeral value.natAbs).length ≤ maxIntDigits
  | str _ => True
  | _ => False

section Scanner
variable (floatRepr : PyStr → PyStr)

/-- These are the values that the scanner can return, with what is known of their parts. -/
inductive Scanned (rounds : Nat) : Json → Prop where
  | constant (value : Json) (simple : value ∈ [null, bool true, bool false]) : Scanned rounds value
  | float (numeral : PyStr) : Scanned rounds (float numeral)
  | int (value : Int) (scalar : Scalar (int value)) : Scanned rounds (int value)
  | str (value : PyStr) : Scanned rounds (str value)
  | empty : Scanned rounds (arr [])
  | items (items : List Json) (input rest : PyStr)
      (read : readItems floatRepr rounds input = some (items, rest)) : Scanned rounds (arr items)
  | obj (fields : List (PyStr × Json)) : Scanned rounds (obj fields)

end Scanner

/-- These code points are written without `\u`. -/
def isShort (symbol : CodePoint) : Bool :=
  symbol = 0x22 || symbol = 0x5c || symbol = 0x0a || symbol = 0x0d || symbol = 0x09 ||
    symbol = 0x0c || symbol = 0x08 || (0x20 ≤ symbol.val && symbol.val ≤ 0x7e)

/-- These are the units that `loads` sees for one code point that `dumps` wrote. -/
def unitsOf (symbol : CodePoint) : List (CodePoint × Bool) :=
  if isShort symbol then [(symbol, false)]
  else if symbol.val < 0x10000 then [(symbol, true)]
  else [(highHalf symbol, true), (lowHalf symbol, true)]

/-- A string comes back with its adjacent surrogates joined. -/
def readBack (string : PyStr) : PyStr := joinEscapes (string.flatMap unitsOf)

/-- No high surrogate stands directly before a low one. -/
def Unpaired (string : PyStr) : Prop :=
  string.IsChain fun high low => ¬(isHighSurrogate high = true ∧ isLowSurrogate low = true)

theorem hexValue_hexDigit : ∀ digit < 16, hexValue (hexDigit digit) = some digit := by
  decide

theorem hexUnit_escape (unit : CodePoint) (basic : unit.val < 0x10000) :
    hexUnit (hexDigit (unit.val / 4096)) (hexDigit (unit.val / 256 % 16))
      (hexDigit (unit.val / 16 % 16)) (hexDigit (unit.val % 16)) = some unit := by
  unfold hexUnit
  rw [hexValue_hexDigit _ (by omega), hexValue_hexDigit _ (by omega), hexValue_hexDigit _ (by omega),
    hexValue_hexDigit _ (by omega)]
  have whole : ((unit.val / 4096 * 16 + unit.val / 256 % 16) * 16 + unit.val / 16 % 16) * 16 +
      unit.val % 16 = unit.val := by omega
  simp only [Option.pure_def, Option.bind_eq_bind, Option.bind_some, whole]
  exact congrArg some (Fin.ext (point_val _ unit.isLt))

theorem readUnits_escapeUnit (unit : CodePoint) (tail : PyStr) (basic : unit.val < 0x10000) :
    readUnits (escapeUnit unit ++ tail) =
      (readUnits tail).map fun result => ((unit, true) :: result.1, result.2) := by
  simp only [escapeUnit, List.cons_append, List.nil_append]
  rw [readUnits]
  simp only [hexUnit_escape unit basic, Option.pure_def, Option.bind_eq_bind, Option.bind_some]
  cases readUnits tail <;> rfl

theorem readUnits_simple (kind symbol : CodePoint) (tail : PyStr) (other : kind ≠ 0x75)
    (escaped : simpleEscape kind = some symbol) :
    readUnits (0x5c :: kind :: tail) =
      (readUnits tail).map fun result => ((symbol, false) :: result.1, result.2) := by
  rw [readUnits.eq_def]
  simp [other, escaped]
  cases readUnits tail <;> rfl

theorem readUnits_plain (symbol : CodePoint) (tail : PyStr) (quote : symbol ≠ 0x22)
    (backslash : symbol ≠ 0x5c) (printable : 0x20 ≤ symbol.val) :
    readUnits (symbol :: tail) =
      (readUnits tail).map fun result => ((symbol, false) :: result.1, result.2) := by
  rw [readUnits.eq_def]
  simp [quote, backslash, Nat.not_lt.mpr printable]
  cases readUnits tail <;> rfl

theorem highHalf_val (symbol : CodePoint) (astral : ¬symbol.val < 0x10000) :
    (highHalf symbol).val = 0xd800 + (symbol.val - 0x10000) / 0x400 := by
  have bound := symbol.isLt
  exact point_val _ (by omega)

theorem lowHalf_val (symbol : CodePoint) :
    (lowHalf symbol).val = 0xdc00 + (symbol.val - 0x10000) % 0x400 :=
  point_val _ (by omega)

/-- The reader takes the escape of one code point off the front of a text. -/
theorem readUnits_escape (symbol : CodePoint) (tail : PyStr) :
    readUnits (escape symbol ++ tail) =
      (readUnits tail).map fun result => (unitsOf symbol ++ result.1, result.2) := by
  have bound := symbol.isLt
  unfold escape
  split_ifs with quote backslash newline carriage tabulator feed back printable basic
  · subst quote
    exact readUnits_simple _ _ tail (by decide) rfl
  · subst backslash
    exact readUnits_simple _ _ tail (by decide) rfl
  · subst newline
    exact readUnits_simple _ _ tail (by decide) rfl
  · subst carriage
    exact readUnits_simple _ _ tail (by decide) rfl
  · subst tabulator
    exact readUnits_simple _ _ tail (by decide) rfl
  · subst feed
    exact readUnits_simple _ _ tail (by decide) rfl
  · subst back
    exact readUnits_simple _ _ tail (by decide) rfl
  · have short : unitsOf symbol = [(symbol, false)] := by simp [unitsOf, isShort, printable]
    rw [short]
    exact readUnits_plain symbol tail quote backslash printable.1
  · have long : unitsOf symbol = [(symbol, true)] := by
      simp [unitsOf, isShort, quote, backslash, newline, carriage, tabulator, feed, back, basic]
      omega
    rw [long]
    exact readUnits_escapeUnit symbol tail basic
  · have long : unitsOf symbol = [(highHalf symbol, true), (lowHalf symbol, true)] := by
      simp [unitsOf, isShort, quote, backslash, newline, carriage, tabulator, feed, back, basic]
      omega
    have high := highHalf_val symbol basic
    have low := lowHalf_val symbol
    rw [long, List.append_assoc, readUnits_escapeUnit _ _ (by omega),
      readUnits_escapeUnit _ _ (by omega)]
    cases readUnits tail <;> rfl

theorem readUnits_quoted (string rest : PyStr) :
    readUnits (string.flatMap escape ++ 0x22 :: rest) = some (string.flatMap unitsOf, rest) := by
  induction string with
  | nil =>
      rw [List.flatMap_nil, List.nil_append, readUnits.eq_def]
      simp
  | cons symbol string ih =>
      rw [List.flatMap_cons, List.append_assoc, readUnits_escape, ih]
      rfl

theorem readString_quoted (string rest : PyStr) :
    readString (string.flatMap escape ++ 0x22 :: rest) = some (readBack string, rest) := by
  unfold readString
  rw [readUnits_quoted]
  rfl

theorem isShort_basic (symbol : CodePoint) (short : isShort symbol = true) :
    symbol.val < 0x7f := by
  simp only [isShort, Bool.or_eq_true, Bool.and_eq_true, decide_eq_true_eq] at short
  rcases short with (((((((rfl | rfl) | rfl) | rfl) | rfl) | rfl) | rfl) | printable)
  all_goals first | decide | omega

theorem escape_basic (symbol : CodePoint) (long : isShort symbol = false)
    (basic : symbol.val < 0x10000) : escape symbol = escapeUnit symbol := by
  simp only [isShort, Bool.or_eq_false_iff, Bool.and_eq_false_iff, decide_eq_false_iff_not] at long
  obtain ⟨⟨⟨⟨⟨⟨⟨quote, backslash⟩, newline⟩, carriage⟩, tabulator⟩, feed⟩, back⟩, printable⟩ := long
  have outside : ¬(0x20 ≤ symbol.val ∧ symbol.val ≤ 0x7e) := by omega
  unfold escape
  rw [if_neg quote, if_neg backslash, if_neg newline, if_neg carriage, if_neg tabulator, if_neg feed,
    if_neg back, if_neg outside, if_pos basic]

theorem escape_astral (symbol : CodePoint) (astral : ¬symbol.val < 0x10000) :
    escape symbol = escapeUnit (highHalf symbol) ++ escapeUnit (lowHalf symbol) := by
  have differs (literal : CodePoint) (small : literal.val < 0x80) : symbol ≠ literal := by
    rintro rfl
    omega
  unfold escape
  rw [if_neg (differs _ (by decide)), if_neg (differs _ (by decide)), if_neg (differs _ (by decide)),
    if_neg (differs _ (by decide)), if_neg (differs _ (by decide)), if_neg (differs _ (by decide)),
    if_neg (differs _ (by decide)), if_neg (by omega), if_neg astral]

theorem isShort_large (symbol : CodePoint) (large : 0x7f ≤ symbol.val) : isShort symbol = false := by
  cases short : isShort symbol with
  | false => rfl
  | true => exact absurd (isShort_basic symbol short) (by omega)

theorem highHalf_isHigh (symbol : CodePoint) (astral : ¬symbol.val < 0x10000) :
    isHighSurrogate (highHalf symbol) = true ∧ isLowSurrogate (highHalf symbol) = false := by
  have bound := symbol.isLt
  have value := highHalf_val symbol astral
  simp only [isHighSurrogate, isLowSurrogate, value, Bool.and_eq_true, Bool.and_eq_false_iff,
    decide_eq_true_eq, decide_eq_false_iff_not]
  omega

theorem lowHalf_isLow (symbol : CodePoint) : isLowSurrogate (lowHalf symbol) = true := by
  have value := lowHalf_val symbol
  simp only [isLowSurrogate, value, Bool.and_eq_true, decide_eq_true_eq]
  omega

theorem joinPair_val (high low : CodePoint) (isHigh : isHighSurrogate high = true)
    (isLow : isLowSurrogate low = true) :
    (joinPair high low).val = 0x10000 + (high.val - 0xd800) * 0x400 + (low.val - 0xdc00) := by
  simp only [isHighSurrogate, isLowSurrogate, Bool.and_eq_true, decide_eq_true_eq] at isHigh isLow
  exact point_val _ (by omega)

theorem joinPair_halves (symbol : CodePoint) (astral : ¬symbol.val < 0x10000) :
    joinPair (highHalf symbol) (lowHalf symbol) = symbol := by
  have bound := symbol.isLt
  apply Fin.ext
  rw [joinPair_val _ _ (highHalf_isHigh symbol astral).1 (lowHalf_isLow symbol),
    highHalf_val symbol astral, lowHalf_val]
  omega

/-- A joined pair is written as its two halves. -/
theorem escape_joinPair (high low : CodePoint) (isHigh : isHighSurrogate high = true)
    (isLow : isLowSurrogate low = true) :
    escape (joinPair high low) = escape high ++ escape low := by
  have value := joinPair_val high low isHigh isLow
  simp only [isHighSurrogate, isLowSurrogate, Bool.and_eq_true, decide_eq_true_eq] at isHigh isLow
  have astral : ¬(joinPair high low).val < 0x10000 := by omega
  have highBack : highHalf (joinPair high low) = high := by
    apply Fin.ext
    rw [highHalf_val _ astral, value]
    omega
  have lowBack : lowHalf (joinPair high low) = low := by
    apply Fin.ext
    rw [lowHalf_val, value]
    omega
  rw [escape_astral _ astral, highBack, lowBack, escape_basic high (isShort_large _ (by omega)) (by omega),
    escape_basic low (isShort_large _ (by omega)) (by omega)]

theorem joinEscapes_escape (units : List (CodePoint × Bool)) :
    (joinEscapes units).flatMap escape = units.flatMap fun unit => escape unit.1 := by
  fun_induction joinEscapes units with
  | case1 high low rest pair ih =>
      obtain ⟨isHigh, isLow⟩ := (Bool.and_eq_true _ _).mp pair
      simp only [List.flatMap_cons, ih, escape_joinPair high low isHigh isLow, List.append_assoc]
  | case2 high low rest single ih => simp only [List.flatMap_cons, ih]
  | case3 symbol flag rest _ ih => simp only [List.flatMap_cons, ih]
  | case4 => rfl

theorem unitsOf_escape (symbol : CodePoint) :
    (unitsOf symbol).flatMap (fun unit => escape unit.1) = escape symbol := by
  unfold unitsOf
  split_ifs with short basic
  · simp
  · simp
  · rw [escape_astral symbol basic]
    have high := highHalf_isHigh symbol basic
    have low := lowHalf_isLow symbol
    simp only [isHighSurrogate, isLowSurrogate, Bool.and_eq_true, decide_eq_true_eq] at high low
    simp [escape_basic _ (isShort_large (highHalf symbol) (by omega)) (by omega),
      escape_basic _ (isShort_large (lowHalf symbol) (by omega)) (by omega)]

/-- Reading a string back does not change the text that is written for it. -/
theorem quoted_readBack (string : PyStr) : quoted (readBack string) = quoted string := by
  have same : (readBack string).flatMap escape = string.flatMap escape := by
    unfold readBack
    rw [joinEscapes_escape, List.flatMap_assoc]
    exact congrArg (string.flatMap ·) (funext unitsOf_escape)
  unfold quoted
  rw [same]

theorem joinEscapes_single (symbol : CodePoint) (flag : Bool) (rest : List (CodePoint × Bool))
    (single : flag = false ∨ ∀ low, rest.head? = some (low, true) →
      ¬(isHighSurrogate symbol = true ∧ isLowSurrogate low = true)) :
    joinEscapes ((symbol, flag) :: rest) = symbol :: joinEscapes rest := by
  rw [joinEscapes.eq_def]
  split
  · rename_i high low tail same
    obtain ⟨⟨rfl, rfl⟩, rfl⟩ : (symbol = high ∧ flag = true) ∧ rest = (low, true) :: tail := by
      simpa using same
    rw [if_neg]
    simpa using single
  · simp_all
  · simp_all

/-- A string without adjacent surrogates comes back unchanged. -/
theorem readBack_of_unpaired (string : PyStr) (unpaired : Unpaired string) :
    readBack string = string := by
  induction string with
  | nil => rfl
  | cons symbol string ih =>
      obtain ⟨apart, rest⟩ := List.isChain_cons.mp unpaired
      have tail := ih rest
      unfold readBack at tail ⊢
      rw [List.flatMap_cons]
      by_cases astral : symbol.val < 0x10000
      · have one : ∃ flag, unitsOf symbol = [(symbol, flag)] := by
          unfold unitsOf
          split_ifs
          · exact ⟨false, rfl⟩
          · exact ⟨true, rfl⟩
        obtain ⟨flag, one⟩ := one
        rw [one, List.singleton_append, joinEscapes_single, tail]
        right
        intro low head
        rintro ⟨isHigh, isLow⟩
        cases string with
        | nil => cases head
        | cons next string =>
            have differ := apart next rfl
            rw [List.flatMap_cons] at head
            unfold unitsOf at head
            split_ifs at head with short basic
            · cases head
            · obtain rfl : next = low := by simpa using head
              exact differ ⟨isHigh, isLow⟩
            · obtain rfl : highHalf next = low := by simpa using head
              simp [highHalf_isHigh next basic] at isLow
      · have two : unitsOf symbol = [(highHalf symbol, true), (lowHalf symbol, true)] := by
          unfold unitsOf
          rw [isShort_large symbol (by omega)]
          simp [astral]
        rw [two]
        change joinEscapes ((highHalf symbol, true) :: (lowHalf symbol, true) :: _) = _
        rw [joinEscapes]
        simp [highHalf_isHigh symbol astral, lowHalf_isLow, joinPair_halves symbol astral, tail]

theorem numeral_isDigit (value : Nat) : ∀ digit ∈ numeral value, isDigit digit = true := by
  intro digit member
  obtain ⟨symbol, inside, rfl⟩ := List.mem_map.mp member
  have decimal := Nat.isDigit_of_mem_toDigits (by decide) (by decide) inside
  have bounds : 0x30 ≤ symbol.toNat ∧ symbol.toNat ≤ 0x39 := Char.isDigit_iff_toNat.mp decimal
  have same : (point symbol.toNat).val = symbol.toNat := point_val _ (by omega)
  simp only [isDigit, same, Bool.and_eq_true, decide_eq_true_eq]
  exact bounds

theorem numeral_ne_nil (value : Nat) : numeral value ≠ [] := by
  simp [numeral]

theorem numeral_of_base_le (value : Nat) (large : 10 ≤ value) :
    numeral value = numeral (value / 10) ++ numeral (value % 10) := by
  unfold numeral
  rw [Nat.toDigits_of_base_le (by decide) large, List.map_append,
    Nat.toDigits_of_lt_base (Nat.mod_lt _ (by decide))]

/-- Only zero has a numeral that begins with the digit zero. -/
theorem numeral_head (value : Nat) (positive : 0 < value) : (numeral value).head? ≠ some 0x30 := by
  induction value using Nat.strongRecOn with
  | ind value ih =>
      rcases Nat.lt_or_ge value 10 with small | large
      · have digits : ∀ digit < 10, 0 < digit → (numeral digit).head? ≠ some 0x30 := by decide
        exact digits value small positive
      · rw [numeral_of_base_le value large, List.head?_append_of_ne_nil _ (numeral_ne_nil _)]
        exact ih (value / 10) (by omega) (by omega)

theorem digitsValue_numeral (value : Nat) : digitsValue (numeral value) = value := by
  induction value using Nat.strongRecOn with
  | ind value ih =>
      rcases Nat.lt_or_ge value 10 with small | large
      · have digits : ∀ digit < 10, digitsValue (numeral digit) = digit := by decide
        exact digits value small
      · have digits : ∀ digit < 10, ∀ start, (numeral digit).foldl
            (fun value digit => 10 * value + (digit.val - 0x30)) start = 10 * start + digit := by
          intro digit small start
          rw [numeral, Nat.toDigits_of_lt_base small]
          have one : ∀ digit < 10, (point digit.digitChar.toNat).val - 0x30 = digit := by decide
          simp [one digit small]
        have front := ih (value / 10) (by omega)
        unfold digitsValue at front ⊢
        rw [numeral_of_base_le value large, List.foldl_append, front,
          digits _ (Nat.mod_lt _ (by decide))]
        omega

/-- A numeral ends where no digit, point or exponent follows. -/
def Ends (rest : PyStr) : Prop :=
  ∀ symbol, rest.head? = some symbol →
    isDigit symbol = false ∧ symbol ≠ 0x2e ∧ symbol ≠ 0x65 ∧ symbol ≠ 0x45

theorem readDigits_append (digits rest : PyStr) (decimal : ∀ digit ∈ digits, isDigit digit = true)
    (ends : ∀ symbol, rest.head? = some symbol → isDigit symbol = false) :
    readDigits (digits ++ rest) = (digits, rest) := by
  unfold readDigits
  rw [List.span_eq_takeWhile_dropWhile, List.takeWhile_append_of_pos decimal,
    List.dropWhile_append_of_pos decimal]
  cases rest with
  | nil => simp
  | cons symbol rest => simp [ends symbol rfl]

theorem readInteger_numeral (value : Nat) (rest : PyStr) (ends : Ends rest) :
    readInteger (numeral value ++ rest) = some (numeral value, rest) := by
  rcases Nat.eq_zero_or_pos value with rfl | positive
  · rfl
  · have head := numeral_head value positive
    have decimal := numeral_isDigit value
    cases shape : numeral value with
    | nil => exact absurd shape (numeral_ne_nil value)
    | cons first digits =>
        rw [shape] at head decimal
        have nonzero : first ≠ 0x30 := by
          rintro rfl
          exact head rfl
        have split := readDigits_append digits rest (fun digit member => decimal digit (by simp [member]))
          fun symbol first => (ends symbol first).1
        simp [readInteger, nonzero, decimal first (by simp), split]

theorem readFraction_of_ends (rest : PyStr) (ends : Ends rest) : readFraction rest = ([], rest) := by
  unfold readFraction
  split
  · rename_i first second tail
    have point := (ends first rfl).2.1
    simp [point]
  · rfl

theorem readExponent_of_ends (rest : PyStr) (ends : Ends rest) : readExponent rest = ([], rest) := by
  unfold readExponent
  split
  · rename_i letter tail
    have letters := (ends letter rfl).2.2
    simp [letters]
  · rfl

variable (floatRepr : PyStr → PyStr)

theorem numeral_head_isDigit (value : Nat) (rest : PyStr) :
    ∃ first digits, numeral value ++ rest = first :: digits ∧ isDigit first = true := by
  cases shape : numeral value with
  | nil => exact absurd shape (numeral_ne_nil value)
  | cons first digits =>
      exact ⟨first, digits ++ rest, rfl, numeral_isDigit value first (by simp [shape])⟩

theorem readNumber_intStr (value : Int) (rest : PyStr) (ends : Ends rest)
    (short : (numeral value.natAbs).length ≤ maxIntDigits) :
    readNumber floatRepr (intStr value ++ rest) = some (int value, rest) := by
  cases value with
  | ofNat value =>
      obtain ⟨first, digits, shape, decimal⟩ := numeral_head_isDigit value rest
      have positive : first ≠ 0x2d := by
        rintro rfl
        exact absurd decimal (by decide)
      have front := readInteger_numeral value rest ends
      simp only [intStr] at short ⊢
      rw [shape] at front ⊢
      have limit : (numeral value).length ≤ maxIntDigits := short
      simp [readNumber, positive, front, readFraction_of_ends rest ends,
        readExponent_of_ends rest ends, limit, digitsValue_numeral]
  | negSucc value =>
      have front := readInteger_numeral (value + 1) rest ends
      have limit : (numeral (value + 1)).length ≤ maxIntDigits := short
      have sign : intStr (Int.negSucc value) ++ rest = 0x2d :: (numeral (value + 1) ++ rest) := rfl
      rw [sign]
      simp [readNumber, front, readFraction_of_ends rest ends, readExponent_of_ends rest ends, limit,
        digitsValue_numeral, Int.negSucc_eq]

/-- Only a string can change when it is written and read. -/
def scalarBack : Json → Json
  | str value => str (readBack value)
  | value => value

theorem intStr_head (value : Int) (rest : PyStr) :
    ∃ first tail, intStr value ++ rest = first :: tail ∧
      (isDigit first = true ∨ first = 0x2d ∧ (tail.head?.map isDigit) = some true) := by
  cases value with
  | ofNat value =>
      obtain ⟨first, tail, shape, decimal⟩ := numeral_head_isDigit value rest
      exact ⟨first, tail, shape, .inl decimal⟩
  | negSucc value =>
      obtain ⟨first, tail, shape, decimal⟩ := numeral_head_isDigit (value + 1) rest
      refine ⟨0x2d, numeral (value + 1) ++ rest, rfl, .inr ⟨rfl, ?_⟩⟩
      rw [shape]
      simpa using decimal

theorem readWord_of_head (word : PyStr) (value : Json) (first : CodePoint) (rest : PyStr)
    (differs : word.head? ≠ some first) (nonempty : word ≠ []) :
    readWord word value (first :: rest) = none := by
  cases word with
  | nil => exact absurd rfl nonempty
  | cons symbol word =>
      have other : ¬symbol = first := fun same => differs (by simp [same])
      simp [readWord, List.isPrefixOf, other]

/-- The scanner reads a number where a sign or a digit begins one. -/
theorem readValue_number (rounds : Nat) (first : CodePoint) (tail : PyStr)
    (head : isDigit first = true ∨ first = 0x2d ∧ (tail.head?.map isDigit) = some true) :
    readValue floatRepr (rounds + 1) (first :: tail) = readNumber floatRepr (first :: tail) := by
  have letters : text "-Infinity" = 0x2d :: 0x49 :: text "nfinity" := by decide
  have word : readWord (text "-Infinity") (float (text "-Infinity")) (first :: tail) = none := by
    rw [letters]
    rcases head with decimal | ⟨rfl, decimal⟩
    · refine readWord_of_head _ _ _ _ ?_ (by simp)
      intro same
      obtain rfl : (0x2d : CodePoint) = first := by simpa using same
      exact absurd decimal (by decide)
    · cases tail with
      | nil => cases decimal
      | cons second tail =>
          have digit : isDigit second = true := by simpa using decimal
          have other : ¬(0x49 : CodePoint) = second := by
            rintro rfl
            exact absurd digit (by decide)
          simp [readWord, List.isPrefixOf, other]
  have differs (literal : CodePoint) (symbol : isDigit literal = false) (sign : literal ≠ 0x2d) :
      first ≠ literal := by
    rintro rfl
    rcases head with decimal | ⟨same, _⟩
    · rw [symbol] at decimal
      cases decimal
    · exact sign same
  simp [readValue, differs, isDigit, word]

theorem readValue_int (rounds : Nat) (value : Int) (rest : PyStr) (ends : Ends rest)
    (short : (numeral value.natAbs).length ≤ maxIntDigits) :
    readValue floatRepr (rounds + 1) (intStr value ++ rest) = some (int value, rest) := by
  have number := readNumber_intStr floatRepr value rest ends short
  obtain ⟨first, tail, shape, head⟩ := intStr_head value rest
  rw [shape] at number ⊢
  rw [readValue_number floatRepr rounds first tail head, number]

/-- The scanner reads one batch item back. -/
theorem readValue_scalar (separators : Separators) (rounds : Nat) (value : Json) (rest : PyStr)
    (scalar : Scalar value) (ends : Ends rest) :
    readValue floatRepr (rounds + 1) (dumps separators value ++ rest) =
      some (scalarBack value, rest) := by
  cases value with
  | int value => exact readValue_int floatRepr rounds value rest ends scalar
  | str value =>
      have read := readString_quoted value rest
      simp only [dumps, quoted, List.append_assoc, List.cons_append, List.nil_append]
      simp [readValue, read, scalarBack]
  | null => cases scalar
  | bool => cases scalar
  | float => cases scalar
  | arr => cases scalar
  | obj => cases scalar

theorem skipSpace_cons (first : CodePoint) (rest : PyStr) (solid : isSpace first = false) :
    skipSpace (first :: rest) = first :: rest := by
  simp [skipSpace, solid]

theorem scalar_head (separators : Separators) (value : Json) (rest : PyStr)
    (scalar : Scalar value) :
    ∃ first tail, dumps separators value ++ rest = first :: tail ∧ isSpace first = false ∧
      first ≠ 0x5d := by
  cases value with
  | int value =>
      obtain ⟨first, tail, shape, head⟩ := intStr_head value rest
      refine ⟨first, tail, shape, ?_⟩
      rcases head with decimal | ⟨rfl, _⟩
      · have range : 0x30 ≤ first.val ∧ first.val ≤ 0x39 := by simpa [isDigit] using decimal
        simp only [isSpace, Bool.or_eq_false_iff, decide_eq_false_iff_not]
        refine ⟨⟨⟨⟨?_, ?_⟩, ?_⟩, ?_⟩, ?_⟩ <;> (rintro rfl; revert range; decide)
      · decide
  | str value => exact ⟨0x22, _, by simp [dumps, quoted]; rfl, by decide, by decide⟩
  | null => cases scalar
  | bool => cases scalar
  | float => cases scalar
  | arr => cases scalar
  | obj => cases scalar

theorem readItems_dumps (items : List Json) (rounds : Nat) (first : Json) (rest : PyStr)
    (scalars : ∀ item ∈ first :: items, Scalar item) (enough : items.length + 2 ≤ rounds) :
    readItems floatRepr rounds (dumps compactSeparators first ++
        (dumpsItems compactSeparators items ++ 0x5d :: rest)) =
      some ((first :: items).map scalarBack, rest) := by
  induction items generalizing rounds first with
  | nil =>
      obtain ⟨rounds, rfl⟩ : ∃ more, rounds = more + 2 := ⟨rounds - 2, by simp at enough; omega⟩
      have value := readValue_scalar floatRepr compactSeparators rounds first (0x5d :: rest)
        (scalars first (by simp)) (by rintro _ ⟨⟩; decide)
      simp [readItems, dumpsItems, value, skipSpace_cons 0x5d rest (by decide)]
  | cons second items ih =>
      obtain ⟨rounds, rfl⟩ : ∃ more, rounds = more + 2 := ⟨rounds - 2, by omega⟩
      have comma : dumpsItems compactSeparators (second :: items) ++ 0x5d :: rest =
          0x2c :: (dumps compactSeparators second ++
            (dumpsItems compactSeparators items ++ 0x5d :: rest)) := by
        simp only [dumpsItems, List.append_assoc]
        rfl
      have value := readValue_scalar floatRepr compactSeparators rounds first
        (0x2c :: (dumps compactSeparators second ++
          (dumpsItems compactSeparators items ++ 0x5d :: rest)))
        (scalars first (by simp)) (by rintro _ ⟨⟩; decide)
      have tail := ih (rounds + 1) second (fun item member => scalars item (by simp_all))
        (by simp at enough; omega)
      obtain ⟨head, after, shape, solid, _⟩ := scalar_head compactSeparators second
        (dumpsItems compactSeparators items ++ 0x5d :: rest) (scalars second (by simp))
      rw [comma, readItems, value]
      rw [shape] at tail ⊢
      simp [skipSpace_cons 0x2c _ (by decide), skipSpace_cons head after solid, tail]

theorem length_dumpsItems (items : List Json) :
    items.length ≤ (dumpsItems compactSeparators items).length := by
  induction items with
  | nil => exact Nat.zero_le _
  | cons item items ih =>
      have comma : compactSeparators.item.length = 1 := rfl
      simp only [dumpsItems, List.length_append, List.length_cons, comma]
      omega

/-- `loads` of a written batch gives its items back. -/
theorem parse_batch (items : List Json) (scalars : ∀ item ∈ items, Scalar item) :
    parse floatRepr (dumps compactSeparators (arr items)) = some (arr (items.map scalarBack)) := by
  cases items with
  | nil => rfl
  | cons first items =>
      have enough : items.length ≤ (dumpsItems compactSeparators items).length :=
        length_dumpsItems items
      have body := readItems_dumps floatRepr items
        (2 * (dumps compactSeparators (arr (first :: items))).length + 1) first [] scalars
        (by
          have opening : (text "[").length = 1 := rfl
          simp only [dumps, List.length_append, opening]
          omega)
      obtain ⟨head, after, shape, solid, bracket⟩ := scalar_head compactSeparators first
        (dumpsItems compactSeparators items ++ [0x5d]) (scalars first (by simp))
      have whole : dumps compactSeparators (arr (first :: items)) = 0x5b :: head :: after := by
        rw [← shape]
        simp only [dumps, List.append_assoc]
        rfl
      rw [shape] at body
      unfold parse
      rw [whole] at body ⊢
      simp only [List.length_cons] at body
      have done : skipSpace [] = [] := rfl
      rw [skipSpace_cons 0x5b _ (by decide), readValue]
      simp [skipSpace_cons head after solid, bracket, body, done]

/-- A printable text is ASCII without control symbols. -/
def Printable (string : PyStr) : Prop := ∀ symbol ∈ string, 0x20 ≤ symbol.val ∧ symbol.val < 0x80

theorem printable_of_all {string : PyStr}
    (all : string.all (fun symbol => 0x20 ≤ symbol.val && symbol.val < 0x80) = true) :
    Printable string := by
  intro symbol member
  simpa using List.all_eq_true.mp all symbol member

theorem printable_append {first second : PyStr} (one : Printable first) (two : Printable second) :
    Printable (first ++ second) := by
  intro symbol member
  rcases List.mem_append.mp member with member | member
  · exact one symbol member
  · exact two symbol member

theorem hexDigit_printable : ∀ digit < 16,
    0x20 ≤ (hexDigit digit).val ∧ (hexDigit digit).val < 0x80 := by
  decide

theorem escapeUnit_printable (unit : CodePoint) (basic : unit.val < 0x10000) :
    Printable (escapeUnit unit) := by
  intro symbol member
  simp only [escapeUnit, List.mem_cons, List.not_mem_nil, or_false] at member
  rcases member with rfl | rfl | rfl | rfl | rfl | rfl
  · decide
  · decide
  · exact hexDigit_printable _ (by omega)
  · exact hexDigit_printable _ (by omega)
  · exact hexDigit_printable _ (by omega)
  · exact hexDigit_printable _ (by omega)

theorem escape_printable (symbol : CodePoint) : Printable (escape symbol) := by
  have bound := symbol.isLt
  cases short : isShort symbol with
  | true =>
      simp only [isShort, Bool.or_eq_true, Bool.and_eq_true, decide_eq_true_eq] at short
      rcases short with (((((((rfl | rfl) | rfl) | rfl) | rfl) | rfl) | rfl) | printable)
      iterate 7 exact printable_of_all (by decide)
      unfold escape
      split_ifs
      iterate 7 exact printable_of_all (by decide)
      · intro other member
        obtain rfl := List.mem_singleton.mp member
        omega
  | false =>
      by_cases basic : symbol.val < 0x10000
      · rw [escape_basic symbol short basic]
        exact escapeUnit_printable symbol basic
      · have high := highHalf_val symbol basic
        have low := lowHalf_val symbol
        rw [escape_astral symbol basic]
        exact printable_append (escapeUnit_printable _ (by omega)) (escapeUnit_printable _ (by omega))

theorem quoted_printable (string : PyStr) : Printable (quoted string) := by
  have quote : Printable [0x22] := printable_of_all (by decide)
  refine printable_append (printable_append quote ?_) quote
  intro symbol member
  obtain ⟨source, _, inside⟩ := List.mem_flatMap.mp member
  exact escape_printable source symbol inside

theorem intStr_printable (value : Int) : Printable (intStr value) := by
  have decimal (value : Nat) : Printable (numeral value) := by
    intro symbol member
    have digit := numeral_isDigit value symbol member
    simp only [isDigit, Bool.and_eq_true, decide_eq_true_eq] at digit
    omega
  cases value with
  | ofNat value => exact decimal value
  | negSucc value => exact printable_append (printable_of_all (by decide)) (decimal (value + 1))

theorem scalar_printable (separators : Separators) (value : Json) (scalar : Scalar value) :
    Printable (dumps separators value) := by
  cases value with
  | int value => exact intStr_printable value
  | str value => exact quoted_printable value
  | null => cases scalar
  | bool => cases scalar
  | float => cases scalar
  | arr => cases scalar
  | obj => cases scalar

theorem batch_printable (items : List Json) (scalars : ∀ item ∈ items, Scalar item) :
    Printable (dumps compactSeparators (arr items)) := by
  have tail (items : List Json) (scalars : ∀ item ∈ items, Scalar item) :
      Printable (dumpsItems compactSeparators items) := by
    induction items with
    | nil => simp [Printable, dumpsItems]
    | cons item items ih =>
        have comma : Printable compactSeparators.item := printable_of_all (by decide)
        exact printable_append (printable_append comma
          (scalar_printable _ item (scalars item (by simp))))
          (ih fun item member => scalars item (by simp [member]))
  cases items with
  | nil => exact printable_of_all (by decide)
  | cons first items =>
      have opening : Printable (text "[") := printable_of_all (by decide)
      have closing : Printable (text "]") := printable_of_all (by decide)
      exact printable_append (printable_append (printable_append opening
        (scalar_printable _ first (scalars first (by simp))))
        (tail items fun item member => scalars item (by simp [member]))) closing

/-- A printable text is encoded symbol by symbol. -/
theorem encode_printable (string : PyStr) (printable : Printable string) :
    encode string = string.map fun symbol => octet symbol.val := by
  induction string with
  | nil => rfl
  | cons symbol string ih =>
      have range := printable symbol (by simp)
      have tail := ih fun other member => printable other (by simp [member])
      unfold encode at tail ⊢
      rw [List.flatMap_cons, tail, encodePoint, if_pos range.2]
      rfl

theorem decodePoints_printable (string : PyStr) (rounds : Nat) (printable : Printable string)
    (enough : string.length ≤ rounds) :
    decodePoints rounds (string.map fun symbol => octet symbol.val) = some string := by
  induction string generalizing rounds with
  | nil => cases rounds <;> rfl
  | cons symbol string ih =>
      have range := printable symbol (by simp)
      obtain ⟨rounds, rfl⟩ : ∃ more, rounds = more + 1 :=
        ⟨rounds - 1, by simp only [List.length_cons] at enough; omega⟩
      have tail := ih rounds (fun other member => printable other (by simp [member]))
        (by simpa using enough)
      have value : (octet symbol.val).val = symbol.val := octet_val _ (by omega)
      have same : point symbol.val = symbol := Fin.ext (point_val _ symbol.isLt)
      simp [decodePoints, decodePoint, value, range.2, tail, same]

/-- The decoder of a printable text is UTF-8. -/
theorem decodeDetected_printable (string : PyStr) (printable : Printable string) :
    decodeDetected (encode string) = some string := by
  have small : ∀ value ∈ encode string, 0x20 ≤ value.val ∧ value.val < 0x80 := by
    rw [encode_printable string printable]
    intro value member
    obtain ⟨symbol, inside, rfl⟩ := List.mem_map.mp member
    have range := printable symbol inside
    rw [octet_val _ (by omega)]
    exact range
  have utf8 : decodeUtf8 (encode string) = some string := by
    unfold decodeUtf8
    rw [encode_printable string printable, List.length_map]
    exact decodePoints_printable string _ printable le_rfl
  rw [← utf8]
  generalize encode string = input at small
  have nonzero (value : Byte) (member : value ∈ input) : value ≠ 0 := by
    rintro rfl
    exact absurd (small 0 member) (by decide)
  have marks (mark : Byte) (rest : Bytes) (outside : ¬(0x20 ≤ mark.val ∧ mark.val < 0x80)) :
      ¬(mark :: rest).isPrefixOf input = true := by
    intro starts
    obtain ⟨tail, rfl⟩ := List.isPrefixOf_iff_prefix.mp starts
    exact outside (small mark (by simp))
  unfold decodeDetected
  rw [if_neg (marks _ _ (by decide)), if_neg (marks _ _ (by decide)), if_neg (marks _ _ (by decide)),
    if_neg (marks _ _ (by decide)), if_neg (marks _ _ (by decide))]
  split
  · rw [if_neg (nonzero _ (by simp)), if_neg (nonzero _ (by simp))]
  · rw [if_neg (nonzero _ (by simp)), if_neg (nonzero _ (by simp))]
  · rfl

/-- `loads` of an encoded batch gives its items back. -/
theorem loads_batch (items : List Json) (scalars : ∀ item ∈ items, Scalar item) :
    loads floatRepr (encode (dumps compactSeparators (arr items))) =
      some (arr (items.map scalarBack)) := by
  unfold loads
  rw [decodeDetected_printable _ (batch_printable items scalars)]
  exact parse_batch floatRepr items scalars

/-- Query parameters form an object whose values are strings. -/
def strFields (pairs : List (PyStr × PyStr)) : List (PyStr × Json) :=
  pairs.map fun pair => (pair.1, str pair.2)

theorem readValue_quoted (rounds : Nat) (value rest : PyStr) :
    readValue floatRepr (rounds + 1) (quoted value ++ rest) = some (str (readBack value), rest) := by
  have read := readString_quoted value rest
  simp only [quoted, List.append_assoc, List.cons_append, List.nil_append]
  simp [readValue, read]

theorem skipSpace_quoted (value rest : PyStr) :
    skipSpace (quoted value ++ rest) = quoted value ++ rest :=
  skipSpace_cons 0x22 _ (by decide)

/-- The scanner takes one field off the front of an object. -/
theorem readFields_field (rounds : Nat) (name written : PyStr) (value : Json) (next : CodePoint)
    (rest : PyStr) (solid : isSpace next = false)
    (front : skipSpace (written ++ next :: rest) = written ++ next :: rest)
    (content : readValue floatRepr rounds (written ++ next :: rest) = some (value, next :: rest)) :
    readFields floatRepr (rounds + 1)
        (quoted name ++ (defaultSeparators.key ++ (written ++ next :: rest))) =
      if next = 0x7d then some ([(readBack name, value)], rest)
      else if next = 0x2c then
        (readFields floatRepr rounds (skipSpace rest)).map fun result =>
          ((readBack name, value) :: result.1, result.2)
      else none := by
  have key := readString_quoted name (0x3a :: 0x20 :: (written ++ next :: rest))
  have colon : skipSpace (0x3a :: 0x20 :: (written ++ next :: rest)) =
    0x3a :: 0x20 :: (written ++ next :: rest) := skipSpace_cons _ _ (by decide)
  have space : skipSpace (0x20 :: (written ++ next :: rest)) = written ++ next :: rest := front
  have start : quoted name ++ (defaultSeparators.key ++ (written ++ next :: rest)) =
      0x22 :: (name.flatMap escape ++ 0x22 :: 0x3a :: 0x20 :: (written ++ next :: rest)) := by
    have point : defaultSeparators.key = [0x3a, 0x20] := rfl
    simp [quoted, point]
  rw [start, readFields]
  simp only [if_true, key, Option.bind_eq_bind, Option.bind_some, colon, space, content,
    skipSpace_cons next rest solid]
  split_ifs
  · rfl
  · cases readFields floatRepr rounds (skipSpace rest) <;> rfl
  · rfl

theorem readFields_dumps (pairs : List (PyStr × PyStr)) (rounds : Nat) (name value rest : PyStr)
    (enough : pairs.length + 2 ≤ rounds) :
    readFields floatRepr rounds (quoted name ++ (defaultSeparators.key ++ (quoted value ++
        (dumpsFields defaultSeparators (strFields pairs) ++ 0x7d :: rest)))) =
      some (strFields (((name, value) :: pairs).map fun pair =>
        (readBack pair.1, readBack pair.2)), rest) := by
  induction pairs generalizing rounds name value with
  | nil =>
      obtain ⟨rounds, rfl⟩ : ∃ more, rounds = more + 2 := ⟨rounds - 2, by simp at enough; omega⟩
      exact readFields_field floatRepr (rounds + 1) name (quoted value) (str (readBack value)) 0x7d rest
        (by decide) (skipSpace_quoted value _) (readValue_quoted floatRepr rounds value _)
  | cons next pairs ih =>
      obtain ⟨rounds, rfl⟩ : ∃ more, rounds = more + 2 := ⟨rounds - 2, by omega⟩
      obtain ⟨other, content⟩ := next
      have comma : dumpsFields defaultSeparators (strFields ((other, content) :: pairs)) ++
          0x7d :: rest = 0x2c :: 0x20 :: (quoted other ++ (defaultSeparators.key ++ (quoted content ++
            (dumpsFields defaultSeparators (strFields pairs) ++ 0x7d :: rest)))) := by
        simp only [strFields, List.map_cons, dumpsFields, dumps, List.append_assoc]
        rfl
      have tail := ih (rounds + 1) other content (by simp only [List.length_cons] at enough; omega)
      rw [comma, readFields_field floatRepr (rounds + 1) name (quoted value) (str (readBack value)) 0x2c
        _ (by decide) (skipSpace_quoted value _) (readValue_quoted floatRepr rounds value _)]
      have space (rest : PyStr) : skipSpace (0x20 :: (quoted other ++ rest)) = quoted other ++ rest :=
        skipSpace_quoted other rest
      rw [if_neg (by decide), if_pos rfl, space, tail]
      rfl

/-- Unequal names leave every pair of a dictionary in its place. -/
theorem dictOf_nodup (pairs : List (PyStr × Json)) (nodup : (pairs.map Prod.fst).Nodup) :
    dictOf pairs = pairs := by
  have fresh (name : PyStr) (value : Json) (fields : List (PyStr × Json))
      (absent : name ∉ fields.map Prod.fst) :
      insertField name value fields = fields ++ [(name, value)] := by
    induction fields with
    | nil => rfl
    | cons field fields ih =>
        simp only [List.map_cons, List.mem_cons, not_or] at absent
        obtain ⟨other, old⟩ := field
        simp only [insertField, if_neg (Ne.symm absent.1), ih absent.2, List.cons_append]
  have general (done pairs : List (PyStr × Json)) (nodup : ((done ++ pairs).map Prod.fst).Nodup) :
      pairs.foldl (fun fields pair => insertField pair.1 pair.2 fields) done = done ++ pairs := by
    induction pairs generalizing done with
    | nil => simp
    | cons pair pairs ih =>
        have absent : pair.1 ∉ done.map Prod.fst := by
          rw [List.map_append, List.nodup_append'] at nodup
          exact fun member => nodup.2.2 member (by simp)
        rw [List.foldl_cons, fresh pair.1 pair.2 done absent, ih _ (by simpa using nodup)]
        simp
  exact general [] pairs nodup

theorem strFields_printable (pairs : List (PyStr × PyStr)) :
    Printable (dumps defaultSeparators (obj (strFields pairs))) := by
  have key : Printable defaultSeparators.key := printable_of_all (by decide)
  have comma : Printable defaultSeparators.item := printable_of_all (by decide)
  have tail (pairs : List (PyStr × PyStr)) :
      Printable (dumpsFields defaultSeparators (strFields pairs)) := by
    induction pairs with
    | nil => exact printable_of_all rfl
    | cons pair pairs ih =>
        exact printable_append (printable_append (printable_append (printable_append comma
          (quoted_printable pair.1)) key) (quoted_printable pair.2)) ih
  cases pairs with
  | nil => exact printable_of_all (by decide)
  | cons pair pairs =>
      have opening : Printable [0x7b] := printable_of_all (by decide)
      have closing : Printable [0x7d] := printable_of_all (by decide)
      exact printable_append (printable_append (printable_append (printable_append
        (printable_append opening (quoted_printable pair.1)) key) (quoted_printable pair.2))
        (tail pairs)) closing

theorem readValue_strFields (pairs : List (PyStr × PyStr)) (rounds : Nat) (rest : PyStr)
    (unpaired : ∀ pair ∈ pairs, Unpaired pair.1 ∧ Unpaired pair.2)
    (nodup : (pairs.map Prod.fst).Nodup) (enough : pairs.length + 2 ≤ rounds) :
    readValue floatRepr (rounds + 1) (dumps defaultSeparators (obj (strFields pairs)) ++ rest) =
      some (obj (strFields pairs), rest) := by
  cases pairs with
  | nil =>
      have closed : skipSpace (0x7d :: rest) = 0x7d :: rest := skipSpace_cons _ _ (by decide)
      simp [strFields, dumps, readValue, closed]
  | cons pair pairs =>
      obtain ⟨name, value⟩ := pair
      have whole : dumps defaultSeparators (obj (strFields ((name, value) :: pairs))) ++ rest =
          0x7b :: (quoted name ++ (defaultSeparators.key ++ (quoted value ++
            (dumpsFields defaultSeparators (strFields pairs) ++ 0x7d :: rest)))) := by
        simp only [strFields, List.map_cons, dumps, List.append_assoc]
        rfl
      have fields := readFields_dumps floatRepr pairs rounds name value rest
        (by simp only [List.length_cons] at enough; omega)
      have back : ((name, value) :: pairs).map (fun pair => (readBack pair.1, readBack pair.2)) =
          (name, value) :: pairs := by
        refine (List.map_congr_left fun pair member => ?_).trans (List.map_id _)
        rw [readBack_of_unpaired _ (unpaired pair member).1,
          readBack_of_unpaired _ (unpaired pair member).2]
        rfl
      have distinct : ((strFields ((name, value) :: pairs)).map Prod.fst).Nodup := by
        simpa [strFields, Function.comp_def] using nodup
      rw [back] at fields
      rw [whole, readValue]
      have quote : ∃ tail, quoted name ++ (defaultSeparators.key ++ (quoted value ++
          (dumpsFields defaultSeparators (strFields pairs) ++ 0x7d :: rest))) = 0x22 :: tail :=
        ⟨_, by simp only [quoted, List.append_assoc]; rfl⟩
      obtain ⟨tail, quote⟩ := quote
      rw [quote] at fields ⊢
      simp [skipSpace_cons 0x22 tail (by decide), fields, dictOf_nodup _ distinct]

/-- A text that begins with written query parameters determines them and what follows. -/
theorem strFields_selfDelimiting :
    PrefixCode.SelfDelimiting
      (fun pairs : List (PyStr × PyStr) =>
        (∀ pair ∈ pairs, Unpaired pair.1 ∧ Unpaired pair.2) ∧ (pairs.map Prod.fst).Nodup)
      fun pairs => dumps defaultSeparators (obj (strFields pairs)) := by
  have fields : Function.Injective fun pairs => obj (strFields pairs) := by
    intro first second same
    refine List.map_injective_iff.mpr (fun one two same => ?_) (obj.inj same)
    obtain ⟨names, values⟩ := Prod.mk.inj same
    exact Prod.ext names (str.inj values)
  rintro first second rest tail ⟨unpairedFirst, nodupFirst⟩ ⟨unpairedSecond, nodupSecond⟩ _ _ same
  have one := readValue_strFields id first (first.length + second.length + 2) rest unpairedFirst
    nodupFirst (by omega)
  have two := readValue_strFields id second (first.length + second.length + 2) tail unpairedSecond
    nodupSecond (by omega)
  rw [same, two] at one
  obtain ⟨values, rests⟩ := Prod.mk.inj (Option.some.inj one)
  exact ⟨(fields values).symm, rests.symm⟩

theorem digitsValue_lt (digits : PyStr) (decimal : ∀ digit ∈ digits, isDigit digit = true) :
    digitsValue digits < 10 ^ digits.length := by
  induction digits using List.reverseRecOn with
  | nil => decide
  | append_singleton digits digit ih =>
      have front := ih fun other member => decimal other (by simp [member])
      have last := decimal digit (by simp)
      simp only [isDigit, Bool.and_eq_true, decide_eq_true_eq] at last
      unfold digitsValue at front ⊢
      rw [List.foldl_append, List.length_append, List.length_singleton, Nat.pow_succ]
      simp only [List.foldl_cons, List.foldl_nil]
      omega

theorem readDigits_isDigit (input : PyStr) : ∀ digit ∈ (readDigits input).1, isDigit digit = true := by
  intro digit member
  unfold readDigits at member
  rw [List.span_eq_takeWhile_dropWhile] at member
  exact List.mem_takeWhile_imp member

theorem readInteger_isDigit (input digits rest : PyStr)
    (read : readInteger input = some (digits, rest)) :
    digits ≠ [] ∧ ∀ digit ∈ digits, isDigit digit = true := by
  unfold readInteger at read
  split at read
  · cases read
  · rename_i first tail
    split_ifs at read with leading decimal
    · cases read
      subst leading
      exact ⟨by simp, by simp [isDigit]⟩
    · cases read
      have others := readDigits_isDigit tail
      refine ⟨by simp, fun digit member => ?_⟩
      rcases List.mem_cons.mp member with rfl | member
      · exact decimal
      · exact others digit member

theorem scalar_of_digits (digits : PyStr) (value : Int) (nonempty : digits ≠ [])
    (decimal : ∀ digit ∈ digits, isDigit digit = true) (short : digits.length ≤ maxIntDigits)
    (size : value.natAbs = digitsValue digits) : Scalar (int value) := by
  have bound : (Nat.toDigits 10 value.natAbs).length ≤ digits.length :=
    (Nat.length_toDigits_le_iff (by decide) (List.length_pos_iff.mpr nonempty)).mpr
      (size ▸ digitsValue_lt digits decimal)
  have length : (numeral value.natAbs).length = (Nat.toDigits 10 value.natAbs).length :=
    List.length_map _
  unfold Scalar
  omega

/-- The scanner gives no integer that `int` would refuse. -/
theorem readNumber_scalar (input rest : PyStr) (value : Int)
    (read : readNumber floatRepr input = some (int value, rest)) : Scalar (int value) := by
  unfold readNumber at read
  simp only [Option.bind_eq_bind, Option.bind_eq_some_iff] at read
  obtain ⟨⟨digits, tail⟩, integer, read⟩ := read
  obtain ⟨nonempty, decimal⟩ := readInteger_isDigit _ _ _ integer
  split_ifs at read with whole short negative
  · cases read
    exact scalar_of_digits digits _ nonempty decimal short (by simp)
  · cases read
    exact scalar_of_digits digits _ nonempty decimal short (by simp)
  all_goals cases read

theorem readWord_value (word input rest : PyStr) (constant value : Json)
    (read : readWord word constant input = some (value, rest)) : value = constant := by
  unfold readWord at read
  split_ifs at read
  exact (Prod.mk.inj (Option.some.inj read)).1.symm

theorem readNumber_shape (input rest : PyStr) (value : Json)
    (read : readNumber floatRepr input = some (value, rest)) :
    (∃ number, value = int number) ∨ ∃ numeral, value = float numeral := by
  unfold readNumber at read
  simp only [Option.bind_eq_bind, Option.bind_eq_some_iff] at read
  obtain ⟨_, _, read⟩ := read
  split_ifs at read <;> cases read
  · exact .inl ⟨_, rfl⟩
  · exact .inl ⟨_, rfl⟩
  · exact .inr ⟨_, rfl⟩
  · exact .inr ⟨_, rfl⟩

theorem readValue_scanned (rounds : Nat) (input rest : PyStr) (value : Json)
    (read : readValue floatRepr (rounds + 1) input = some (value, rest)) :
    Scanned floatRepr rounds value := by
  cases input with
  | nil => simp [readValue] at read
  | cons first tail =>
      rw [readValue] at read
      split_ifs at read
      · obtain ⟨_, _, same⟩ := Option.map_eq_some_iff.mp read
        cases same
        exact .str _
      · split at read
        · cases read
        · split_ifs at read
          · cases read
            exact .empty
          · obtain ⟨result, items, same⟩ := Option.map_eq_some_iff.mp read
            cases same
            exact .items result.1 _ result.2 items
      · split at read
        · cases read
        · split_ifs at read
          · cases read
            exact .obj []
          · obtain ⟨_, _, same⟩ := Option.map_eq_some_iff.mp read
            cases same
            exact .obj _
      · exact readWord_value _ _ _ _ _ read ▸ .constant _ (by simp)
      · exact readWord_value _ _ _ _ _ read ▸ .constant _ (by simp)
      · exact readWord_value _ _ _ _ _ read ▸ .constant _ (by simp)
      · exact readWord_value _ _ _ _ _ read ▸ .float _
      · exact readWord_value _ _ _ _ _ read ▸ .float _
      · rcases Option.or_eq_some_iff.mp read with word | ⟨_, number⟩
        · exact readWord_value _ _ _ _ _ word ▸ .float _
        · rcases readNumber_shape floatRepr _ _ _ number with ⟨value, rfl⟩ | ⟨numeral, rfl⟩
          · exact .int value (readNumber_scalar floatRepr _ _ value number)
          · exact .float numeral

theorem readItems_scalar (rounds : Nat) (input rest : PyStr) (items : List Json)
    (read : readItems floatRepr rounds input = some (items, rest)) :
    ∀ value, int value ∈ items → Scalar (int value) := by
  induction rounds generalizing input items with
  | zero => simp [readItems] at read
  | succ rounds ih =>
      rw [readItems] at read
      obtain ⟨⟨item, tail⟩, first, read⟩ := Option.bind_eq_some_iff.mp read
      have head (value : Int) (same : item = int value) : Scalar (int value) := by
        subst same
        cases rounds with
        | zero => simp [readValue] at first
        | succ rounds =>
            cases readValue_scanned floatRepr rounds _ _ _ first with
            | constant _ simple => simp at simple
            | int _ scalar => exact scalar
      intro value member
      dsimp only at read
      split at read
      · cases read
      · split_ifs at read
        · cases read
          exact head value (List.mem_singleton.mp member).symm
        · obtain ⟨⟨others, after⟩, more, same⟩ := Option.bind_eq_some_iff.mp read
          cases same
          rcases List.mem_cons.mp member with same | member
          · exact head value same.symm
          · exact ih _ others more value member

/-- A decoded batch holds only integers that `int` accepts. -/
theorem loads_scalar (input : Bytes) (items : List Json)
    (decoded : loads floatRepr input = some (arr items)) :
    ∀ value, int value ∈ items → Scalar (int value) := by
  obtain ⟨symbols, _, parsed⟩ := Option.bind_eq_some_iff.mp decoded
  unfold parse at parsed
  split at parsed
  · rename_i value rest read
    split_ifs at parsed
    cases parsed
    cases readValue_scanned floatRepr _ _ _ _ read with
    | constant _ simple => simp at simple
    | empty => simp
    | items _ _ _ read => exact readItems_scalar floatRepr _ _ _ items read
  · cases parsed

end EveApiCache.Json
