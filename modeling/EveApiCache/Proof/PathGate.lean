import EveApiCache.Construction.Allowlist
import Mathlib.Data.List.Infix
import Mathlib.Data.List.TakeWhile

/-!
This file shows which paths the gate of the allowlist accepts.
-/

namespace EveApiCache

/-- This is `match_endpoint` for any text as the method, where `upper` is `str.upper`. -/
def matchEndpointNamed (upper : PyStr → PyStr) (unversionedPath method : PyStr) :
    Option EndpointSpec :=
  endpoints.find? fun spec => spec.matches unversionedPath &&
    (spec.methods.map Method.upper).contains (upper method)

/-- The router passes a method of its own, which is in upper case. -/
theorem matchEndpoint_named (unversionedPath : PyStr) (method : Method) :
    matchEndpointNamed id unversionedPath method.upper = matchEndpoint unversionedPath method := by
  unfold matchEndpointNamed matchEndpoint
  apply congrArg (fun test => endpoints.find? test)
  funext spec
  have same : (spec.methods.map Method.upper).contains method.upper = spec.methods.contains method := by
    have distinct : ∀ one two : Method, one.upper = two.upper → one = two := by
      intro one two
      cases one <;> cases two <;> decide
    rw [Bool.eq_iff_iff, List.contains_iff_mem, List.contains_iff_mem, List.mem_map]
    constructor
    · rintro ⟨other, member, equal⟩
      exact distinct other method equal ▸ member
    · exact fun member => ⟨method, member, rfl⟩
  exact congrArg _ same

/-- A template of literals, numerals over some digits and a hash has these instances. -/
inductive Instance (digit : CodePoint → Bool) : List Piece → PyStr → Prop where
  | nil : Instance digit [] []
  | literal {pieces : List Piece} {rest : PyStr} (word : PyStr) (tail : Instance digit pieces rest) :
      Instance digit (.literal word :: pieces) (word ++ rest)
  | decimals {pieces : List Piece} {digits rest : PyStr} (filled : digits ≠ [])
      (each : ∀ symbol ∈ digits, digit symbol = true) (tail : Instance digit pieces rest) :
      Instance digit (.decimals :: pieces) (digits ++ rest)
  | hash {pieces : List Piece} {hexes rest : PyStr} (length : hexes.length = 40)
      (each : ∀ symbol ∈ hexes, isLowerHex symbol = true) (tail : Instance digit pieces rest) :
      Instance digit (.hash :: pieces) (hexes ++ rest)

/-- The grammar has a version and an instance of a template of the method, and a slash may follow. -/
def InGrammar (digit : CodePoint → Bool) (upper : PyStr → PyStr) (fullPath method : PyStr) : Prop :=
  ∃ version ∈ validVersions, ∃ spec ∈ endpoints,
    (spec.methods.map Method.upper).contains (upper method) = true ∧
      ∃ body slash, Instance digit spec.pattern body ∧ (slash = [] ∨ slash = [0x2f]) ∧
        fullPath = 0x2f :: (version ++ (body ++ slash))

/-- This is an ASCII digit. -/
def isAsciiDigit (symbol : CodePoint) : Bool := 0x30 ≤ symbol.val && symbol.val ≤ 0x39

/-- A path of the documented grammar contains only these symbols. -/
def isPathSymbol (symbol : CodePoint) : Bool :=
  isAsciiDigit symbol || (0x41 ≤ symbol.val && symbol.val ≤ 0x5a) ||
    (0x61 ≤ symbol.val && symbol.val ≤ 0x7a) || symbol = 0x5f || symbol = 0x2f

/-- The gate accepts exactly the documented grammar, its two parts recompose to the path, and the
path contains only the symbols of the grammar. -/
def GateExact (upper : PyStr → PyStr) (fullPath method : PyStr) : Prop :=
  ((∃ version rest spec, validatePath fullPath = some (version, rest) ∧
      matchEndpointNamed upper rest method = some spec) ↔
    InGrammar isAsciiDigit upper fullPath method) ∧
  ∀ version rest spec, validatePath fullPath = some (version, rest) →
    matchEndpointNamed upper rest method = some spec →
      fullPath = 0x2f :: (version ++ rest) ∧ ∀ symbol ∈ fullPath, isPathSymbol symbol = true

section Instances

/-- What the pattern consumes is an instance of it. -/
theorem consumeAll_instance (pieces : List Piece) (input rest : PyStr)
    (consumed : consumeAll pieces input = some rest) :
    ∃ body, Instance isDecimal pieces body ∧ input = body ++ rest := by
  induction pieces generalizing input with
  | nil =>
      cases consumed
      exact ⟨[], .nil, rfl⟩
  | cons piece pieces ih =>
      obtain ⟨middle, first, tail⟩ := Option.bind_eq_some_iff.mp consumed
      obtain ⟨body, matched, rfl⟩ := ih middle tail
      cases piece with
      | literal word =>
          simp only [Piece.consume] at first
          split_ifs at first with front
          obtain ⟨after, rfl⟩ := List.isPrefixOf_iff_prefix.mp front
          rw [List.drop_left, Option.some.injEq] at first
          exact ⟨word ++ body, .literal word matched, by rw [first, List.append_assoc]⟩
      | decimals =>
          simp only [Piece.consume] at first
          split_ifs at first with missing
          rw [Option.some.injEq] at first
          refine ⟨input.takeWhile isDecimal ++ body, .decimals (by simpa using missing)
            (fun symbol member => List.mem_takeWhile_imp member) matched, ?_⟩
          rw [List.append_assoc, ← first, List.takeWhile_append_dropWhile]
      | hash =>
          simp only [Piece.consume] at first
          split_ifs at first with front
          have whole := List.take_append_drop 40 input
          rw [Option.some.injEq] at first
          refine ⟨input.take 40 ++ body, .hash front.1 (List.all_eq_true.mp front.2) matched, ?_⟩
          rw [List.append_assoc, ← first, whole]

/-- The next symbol does not prolong a numeral. -/
def startsPlain : List Piece → Bool
  | [] => true
  | .literal (symbol :: _) :: _ => !isDecimal symbol
  | _ => false

/-- Every numeral of the pattern ends where the next piece starts. -/
def separated : List Piece → Bool
  | [] => true
  | .decimals :: pieces => startsPlain pieces && separated pieces
  | _ :: pieces => separated pieces

/-- The input goes on without a decimal. -/
def StopsDigits (input : PyStr) : Prop := ∀ symbol, input.head? = some symbol → isDecimal symbol = false

theorem stopsDigits_instance {pieces : List Piece} {body rest : PyStr}
    (matched : Instance isDecimal pieces body) (plain : startsPlain pieces = true)
    (bounded : StopsDigits rest) : StopsDigits (body ++ rest) := by
  cases matched with
  | nil => exact bounded
  | literal word tail =>
      cases word with
      | nil => cases plain
      | cons first word =>
          intro symbol found
          obtain rfl : first = symbol := by simpa using found
          simpa [startsPlain] using plain
  | decimals | hash => cases plain

theorem takeWhile_digits {digits rest : PyStr} (each : ∀ symbol ∈ digits, isDecimal symbol = true)
    (bounded : StopsDigits rest) : (digits ++ rest).takeWhile isDecimal = digits ∧
      (digits ++ rest).dropWhile isDecimal = rest := by
  have stop : rest.takeWhile isDecimal = [] ∧ rest.dropWhile isDecimal = rest := by
    cases rest with
    | nil => exact ⟨rfl, rfl⟩
    | cons symbol rest =>
        have plain := bounded symbol rfl
        simp [plain]
  rw [List.takeWhile_append_of_pos each, List.dropWhile_append_of_pos each, stop.1, stop.2]
  exact ⟨List.append_nil _, rfl⟩

/-- A pattern consumes its instances. -/
theorem instance_consumeAll {pieces : List Piece} {body rest : PyStr}
    (matched : Instance isDecimal pieces body) (apart : separated pieces = true)
    (bounded : StopsDigits rest) : consumeAll pieces (body ++ rest) = some rest := by
  induction matched with
  | nil => rfl
  | @literal pieces tail word matched ih =>
      have first : (Piece.literal word).consume (word ++ (tail ++ rest)) = some (tail ++ rest) := by
        rw [Piece.consume, if_pos (List.isPrefixOf_iff_prefix.mpr (List.prefix_append ..)),
          List.drop_left]
      rw [List.append_assoc, consumeAll, first]
      exact ih apart
  | @decimals pieces digits tail filled each matched ih =>
      obtain ⟨plain, apart⟩ := Bool.and_eq_true_iff.mp apart
      obtain ⟨taken, dropped⟩ := takeWhile_digits each (stopsDigits_instance matched plain bounded)
      have first : Piece.decimals.consume (digits ++ (tail ++ rest)) = some (tail ++ rest) := by
        rw [Piece.consume, taken, dropped, if_neg (by simpa using filled)]
      rw [List.append_assoc, consumeAll, first]
      exact ih apart
  | @hash pieces hexes tail length each matched ih =>
      have first : Piece.hash.consume (hexes ++ (tail ++ rest)) = some (tail ++ rest) := by
        rw [Piece.consume, ← length, List.take_left, List.drop_left,
          if_pos ⟨rfl, List.all_eq_true.mpr each⟩]
      rw [List.append_assoc, consumeAll, first]
      exact ih apart

theorem Instance.mono {digit wider : CodePoint → Bool} {pieces : List Piece} {body : PyStr}
    (matched : Instance digit pieces body)
    (implies : ∀ symbol ∈ body, digit symbol = true → wider symbol = true) :
    Instance wider pieces body := by
  induction matched with
  | nil => exact .nil
  | literal word tail ih =>
      exact .literal word (ih fun symbol member => implies symbol (List.mem_append_right _ member))
  | decimals filled each tail ih =>
      exact .decimals filled
        (fun symbol member => implies symbol (List.mem_append_left _ member) (each symbol member))
        (ih fun symbol member => implies symbol (List.mem_append_right _ member))
  | hash length each tail ih =>
      exact .hash length each (ih fun symbol member => implies symbol (List.mem_append_right _ member))

/-- The literals of a pattern contain only path symbols. -/
def literalsPlain (pieces : List Piece) : Bool :=
  pieces.all fun piece =>
    match piece with
    | .literal word => word.all isPathSymbol
    | _ => true

theorem isLowerHex_path {symbol : CodePoint} (hex : isLowerHex symbol = true) :
    isPathSymbol symbol = true := by
  simp only [isLowerHex, isPathSymbol, isAsciiDigit, Bool.or_eq_true, Bool.and_eq_true,
    decide_eq_true_eq] at hex ⊢
  omega

/-- An instance contains only path symbols and digits. -/
theorem Instance.symbols {digit : CodePoint → Bool} {pieces : List Piece} {body : PyStr}
    (matched : Instance digit pieces body) (plain : literalsPlain pieces = true) :
    ∀ symbol ∈ body, isPathSymbol symbol = true ∨ digit symbol = true := by
  induction matched with
  | nil => exact nofun
  | literal word tail ih =>
      obtain ⟨word, plain⟩ := Bool.and_eq_true_iff.mp plain
      intro symbol member
      rcases List.mem_append.mp member with front | back
      · exact .inl (List.all_eq_true.mp word symbol front)
      · exact ih plain symbol back
  | decimals filled each tail ih =>
      intro symbol member
      rcases List.mem_append.mp member with front | back
      · exact .inr (each symbol front)
      · exact ih plain symbol back
  | hash length each tail ih =>
      intro symbol member
      rcases List.mem_append.mp member with front | back
      · exact .inl (isLowerHex_path (each symbol front))
      · exact ih plain symbol back

end Instances

section Slashes

/-- This function reads a text and gives whether it ends in a slash, or nothing after two slashes in
a row. -/
def slashRun : Bool → PyStr → Option Bool
  | ended, [] => some ended
  | ended, symbol :: rest =>
      if symbol = 0x2f then if ended then none else slashRun true rest else slashRun false rest

theorem slashRun_append (ended : Bool) (first second : PyStr) :
    slashRun ended (first ++ second) = (slashRun ended first).bind (slashRun · second) := by
  induction first generalizing ended with
  | nil => rfl
  | cons symbol first ih =>
      rw [List.cons_append, slashRun, slashRun]
      split_ifs
      · rfl
      · exact ih true
      · exact ih false

/-- A text without slashes ends in none. -/
theorem slashRun_plain (ended : Bool) {input : PyStr} (filled : input ≠ [])
    (plain : ∀ symbol ∈ input, symbol ≠ 0x2f) : slashRun ended input = some false := by
  induction input generalizing ended with
  | nil => exact absurd rfl filled
  | cons symbol rest ih =>
      rw [slashRun, if_neg (plain symbol (by simp))]
      cases rest with
      | nil => rfl
      | cons next rest => exact ih false (by simp) fun other member => plain other (by simp [member])

/-- A text with two slashes in a row does not run. -/
theorem slashRun_double {ended last : Bool} {input : PyStr} (runs : slashRun ended input = some last) :
    contains (text "//") input = false := by
  rw [Bool.eq_false_iff]
  intro found
  obtain ⟨tail, member, front⟩ := List.any_eq_true.mp found
  obtain ⟨before, rfl⟩ := (List.mem_tails _ _).mp member
  obtain ⟨after, rfl⟩ := List.isPrefixOf_iff_prefix.mp front
  rw [slashRun_append] at runs
  obtain ⟨middle, _, runs⟩ := Option.bind_eq_some_iff.mp runs
  cases middle <;> cases runs

/-- This is the run of every instance of a pattern. -/
def slashPieces : Bool → List Piece → Option Bool
  | ended, [] => some ended
  | ended, .literal word :: pieces => (slashRun ended word).bind (slashPieces · pieces)
  | _, _ :: pieces => slashPieces false pieces

/-- The digits of every script start here. -/
theorem isDecimal_bounds {symbol : CodePoint} (decimal : isDecimal symbol = true) :
    isAsciiDigit symbol = true ∨ 0x660 ≤ symbol.val := by
  have starts : ∀ start ∈ decimalZeros, start = 0x30 ∨ 0x660 ≤ start := by decide
  obtain ⟨start, member, inside⟩ := List.any_eq_true.mp decimal
  have known := starts start member
  simp only [isAsciiDigit, Bool.and_eq_true, decide_eq_true_eq] at inside ⊢
  omega

theorem isAsciiDigit_decimal {symbol : CodePoint} (digit : isAsciiDigit symbol = true) :
    isDecimal symbol = true := by
  have listed : 0x30 ∈ decimalZeros := by decide
  simp only [isAsciiDigit, Bool.and_eq_true, decide_eq_true_eq] at digit
  refine List.any_eq_true.mpr ⟨0x30, listed, ?_⟩
  simp only [Bool.and_eq_true, decide_eq_true_eq]
  omega

theorem instance_slashRun {pieces : List Piece} {body : PyStr}
    (matched : Instance isDecimal pieces body) (ended : Bool) :
    slashRun ended body = slashPieces ended pieces := by
  induction matched generalizing ended with
  | nil => rfl
  | literal word tail ih =>
      rw [slashRun_append, slashPieces]
      exact Option.bind_congr fun middle _ => ih middle
  | decimals filled each tail ih =>
      have plain := slashRun_plain ended filled fun symbol member same => by
        have decimal := each symbol member
        rw [same] at decimal
        exact absurd decimal (by decide)
      rw [slashRun_append, plain]
      exact ih false
  | @hash pieces hexes rest length each tail ih =>
      have filled : hexes ≠ [] := by
        rintro rfl
        cases length
      have plain := slashRun_plain ended filled fun symbol member same => by
        have hex := each symbol member
        rw [same] at hex
        exact absurd hex (by decide)
      rw [slashRun_append, plain]
      exact ih false

end Slashes

section Gate

/-- A clean symbol can stand in an instance of a template with the digits of any script. -/
def Clean (symbol : CodePoint) : Prop := isPathSymbol symbol = true ∨ isDecimal symbol = true

theorem Clean.bounds {symbol : CodePoint} (clean : Clean symbol) :
    0x2f ≤ symbol.val ∧ symbol.val ≠ 0x5c := by
  have slash : (0x2f : CodePoint).val = 0x2f := rfl
  have underscore : (0x5f : CodePoint).val = 0x5f := rfl
  rcases clean with inside | decimal
  · simp only [isPathSymbol, isAsciiDigit, Bool.or_eq_true, Bool.and_eq_true, decide_eq_true_eq]
      at inside
    rcases inside with (((inside | inside) | inside) | rfl) | rfl <;> omega
  · have bounds := isDecimal_bounds decimal
    simp only [isAsciiDigit, Bool.and_eq_true, decide_eq_true_eq] at bounds
    omega

/-- A decimal among the path symbols is an ASCII digit. -/
theorem asciiDigit_of_path {symbol : CodePoint} (inside : isPathSymbol symbol = true)
    (decimal : isDecimal symbol = true) : isAsciiDigit symbol = true := by
  rcases isDecimal_bounds decimal with digit | far
  · exact digit
  · simp only [isPathSymbol, isAsciiDigit, Bool.or_eq_true, Bool.and_eq_true, decide_eq_true_eq]
      at inside
    have slash : (0x2f : CodePoint).val = 0x2f := rfl
    have underscore : (0x5f : CodePoint).val = 0x5f := rfl
    rcases inside with (((inside | inside) | inside) | rfl) | rfl <;> omega

theorem contains_missing {word input : PyStr} (symbol : CodePoint) (inside : symbol ∈ word)
    (missing : symbol ∉ input) : contains word input = false := by
  rw [Bool.eq_false_iff]
  intro found
  obtain ⟨tail, member, front⟩ := List.any_eq_true.mp found
  have part := (List.isPrefixOf_iff_prefix.mp front).subset inside
  exact missing (((List.mem_tails _ _).mp member).subset part)

/-- A clean path without two slashes in a row is not dangerous. -/
theorem isDangerous_clean {path : PyStr} {ended last : Bool} (clean : ∀ symbol ∈ path, Clean symbol)
    (runs : slashRun ended path = some last) : isDangerous path = false := by
  have low {symbol : CodePoint} (small : symbol.val < 0x2f) : symbol ∉ path := fun member => by
    have bounds := (clean symbol member).bounds
    omega
  have lowered : (0x25 : CodePoint) ∉ path.map lowerAscii := by
    intro member
    obtain ⟨symbol, inside, same⟩ := List.mem_map.mp member
    unfold lowerAscii at same
    split_ifs at same with upper
    · have value := congrArg Fin.val same
      rw [point_val _ (by omega)] at value
      change symbol.val + 0x20 = 0x25 at value
      omega
    · exact low (by rw [same]; decide) inside
  unfold isDangerous
  simp only [Bool.or_eq_false_iff]
  refine ⟨⟨⟨⟨⟨?_, ?_⟩, ?_⟩, ?_⟩, ?_⟩, slashRun_double runs⟩
  · exact contains_missing 0x2e (by decide) (low (by decide))
  · exact contains_missing 0x25 (by decide) lowered
  · exact contains_missing 0x25 (by decide) lowered
  · rw [List.contains_eq_mem, decide_eq_false_iff_not]
    exact fun member => (clean _ member).bounds.2 rfl
  · rw [List.any_eq_false]
    intro symbol member
    have bounds := (clean symbol member).bounds
    simp only [decide_eq_true_eq]
    omega

/-- A valid path is not dangerous and recomposes from its version and the rest. -/
theorem validatePath_recompose {tail version rest : PyStr}
    (valid : validatePath (0x2f :: tail) = some (version, rest)) :
    isDangerous (0x2f :: tail) = false ∧ version ∈ validVersions ∧ tail = version ++ rest := by
  simp only [validatePath, Option.ite_none_left_eq_some, Option.ite_none_right_eq_some,
    Option.some.injEq, Prod.mk.injEq] at valid
  obtain ⟨safe, filled, known, same, rfl⟩ := valid
  rw [Bool.not_eq_true] at safe
  have single : (0x2f :: tail).dropWhile (· = 0x2f) = tail := by
    rw [List.dropWhile_cons_of_pos (by simp)]
    cases tail with
    | nil => rfl
    | cons next tail =>
        rw [List.dropWhile_cons_of_neg]
        intro slash
        obtain rfl : next = 0x2f := by simpa using slash
        have double : contains (text "//") (0x2f :: 0x2f :: tail) = true :=
          List.any_eq_true.mpr ⟨_, (List.mem_tails _ _).mpr (List.suffix_refl _),
            List.isPrefixOf_iff_prefix.mpr (List.prefix_append [0x2f, 0x2f] tail)⟩
        simp only [isDangerous, Bool.or_eq_false_iff] at safe
        rw [double] at safe
        cases safe.2
  rw [single] at known same ⊢
  exact ⟨safe, same ▸ known, by rw [← same, List.takeWhile_append_dropWhile]⟩

/-- Every pattern starts with a slash. -/
def startsSlash : List Piece → Bool
  | .literal (symbol :: _) :: _ => symbol = 0x2f
  | _ => false

/-- These are the facts about the table on which the gate rests. -/
theorem endpoints_formed : ∀ spec ∈ endpoints, separated spec.pattern = true ∧
    literalsPlain spec.pattern = true ∧ slashPieces false spec.pattern = some false ∧
      startsSlash spec.pattern = true := by
  have apart : ∀ spec ∈ endpoints, separated spec.pattern = true := by decide
  have plain : ∀ spec ∈ endpoints, literalsPlain spec.pattern = true := by decide
  have slashes : ∀ spec ∈ endpoints, slashPieces false spec.pattern = some false := by decide
  have starts : ∀ spec ∈ endpoints, startsSlash spec.pattern = true := by decide
  exact fun spec listed =>
    ⟨apart spec listed, plain spec listed, slashes spec listed, starts spec listed⟩

theorem validVersions_formed : ∀ version ∈ validVersions, version ≠ [] ∧
    slashRun false (0x2f :: version) = some false ∧
      ∀ symbol ∈ version, symbol ≠ 0x2f ∧ isPathSymbol symbol = true := by
  have filled : ∀ version ∈ validVersions, version ≠ [] := by decide
  have runs : ∀ version ∈ validVersions, slashRun false (0x2f :: version) = some false := by decide
  have plain : ∀ version ∈ validVersions,
      (version.all fun symbol => symbol ≠ 0x2f && isPathSymbol symbol) = true := by decide
  refine fun version known => ⟨filled version known, runs version known, fun symbol member => ?_⟩
  simpa using List.all_eq_true.mp (plain version known) symbol member

theorem instance_slash {pieces : List Piece} {body : PyStr} (matched : Instance isDecimal pieces body)
    (starts : startsSlash pieces = true) : ∃ more, body = 0x2f :: more := by
  cases matched with
  | nil | decimals | hash => cases starts
  | literal word tail =>
      cases word with
      | nil => cases starts
      | cons first word =>
          obtain rfl : first = 0x2f := by simpa [startsSlash] using starts
          exact ⟨_, rfl⟩

/-- The symbols of a path of the grammar are clean. -/
theorem inGrammar_symbols {digit : CodePoint → Bool} {version body slash : PyStr}
    {pieces : List Piece} (known : version ∈ validVersions) (plain : literalsPlain pieces = true)
    (matched : Instance digit pieces body) (ends : slash = [] ∨ slash = [0x2f]) :
    ∀ symbol ∈ 0x2f :: (version ++ (body ++ slash)),
      isPathSymbol symbol = true ∨ digit symbol = true := by
  intro symbol member
  rcases List.mem_cons.mp member with rfl | member
  · exact .inl (by decide)
  rcases List.mem_append.mp member with front | member
  · exact .inl ((validVersions_formed version known).2.2 symbol front).2
  rcases List.mem_append.mp member with middle | last
  · exact matched.symbols plain symbol middle
  · rcases ends with rfl | rfl
    · cases last
    · rw [List.mem_singleton.mp last]
      exact .inl (by decide)

/-- The gate splits a path after its version. -/
theorem validatePath_split {version more : PyStr} (known : version ∈ validVersions)
    (safe : isDangerous (0x2f :: (version ++ 0x2f :: more)) = false) :
    validatePath (0x2f :: (version ++ 0x2f :: more)) = some (version, 0x2f :: more) := by
  obtain ⟨filled, _, symbols⟩ := validVersions_formed version known
  have plain : ∀ symbol ∈ version, decide (symbol ≠ 0x2f) = true := fun symbol member => by
    simpa using (symbols symbol member).1
  have stripped : (0x2f :: (version ++ 0x2f :: more)).dropWhile (· = 0x2f) = version ++ 0x2f :: more := by
    obtain ⟨first, version, rfl⟩ := List.exists_cons_of_ne_nil filled
    have head := (symbols first (by simp)).1
    rw [List.dropWhile_cons_of_pos (by simp), List.cons_append,
      List.dropWhile_cons_of_neg (by simpa using head)]
  have taken : (version ++ 0x2f :: more).takeWhile (· ≠ 0x2f) = version := by
    rw [List.takeWhile_append_of_pos plain, List.takeWhile_cons_of_neg (by simp), List.append_nil]
  have dropped : (version ++ 0x2f :: more).dropWhile (· ≠ 0x2f) = 0x2f :: more := by
    rw [List.dropWhile_append_of_pos plain, List.dropWhile_cons_of_neg (by simp)]
  unfold validatePath
  rw [safe, stripped]
  dsimp only
  rw [taken, dropped]
  simp [known]

variable (upper : PyStr → PyStr) (tail method : PyStr)

/-- The gate accepts exactly the grammar in which numerals may have the digits of any script. -/
theorem accepts_iff :
    (∃ version rest spec, validatePath (0x2f :: tail) = some (version, rest) ∧
      matchEndpointNamed upper rest method = some spec) ↔
        InGrammar isDecimal upper (0x2f :: tail) method := by
  constructor
  · rintro ⟨version, rest, spec, valid, matched⟩
    obtain ⟨safe, known, rfl⟩ := validatePath_recompose valid
    have passed := List.find?_some matched
    obtain ⟨fits, allowed⟩ := Bool.and_eq_true_iff.mp passed
    refine ⟨version, known, spec, List.mem_of_find?_eq_some matched, allowed, ?_⟩
    unfold EndpointSpec.matches at fits
    split at fits
    · rename_i slash consumed
      obtain ⟨body, reading, rfl⟩ := consumeAll_instance _ _ _ consumed
      refine ⟨body, slash, reading, ?_, rfl⟩
      have visible : (0x0a : CodePoint) ∉ slash := by
        intro member
        simp only [isDangerous, Bool.or_eq_false_iff, List.any_eq_false] at safe
        exact absurd (by decide) (safe.1.2 0x0a (by simp [member]))
      simp only [atEnd, Bool.or_eq_true, decide_eq_true_eq] at fits
      rcases fits with ((rfl | rfl) | rfl) | rfl
      · exact .inl rfl
      · exact absurd (by simp) visible
      · exact .inr rfl
      · exact absurd (by simp) visible
    · cases fits
  · rintro ⟨version, known, spec, listed, allowed, body, slash, matched, ends, same⟩
    obtain ⟨apart, plain, slashes, starts⟩ := endpoints_formed spec listed
    obtain ⟨more, rooted⟩ := instance_slash matched starts
    have runs : ∃ last, slashRun false (0x2f :: (version ++ (body ++ slash))) = some last := by
      rw [← List.cons_append, slashRun_append, (validVersions_formed version known).2.1,
        Option.bind_some, slashRun_append, instance_slashRun matched, slashes, Option.bind_some]
      rcases ends with rfl | rfl
      · exact ⟨_, rfl⟩
      · exact ⟨_, rfl⟩
    obtain ⟨last, runs⟩ := runs
    have safe := isDangerous_clean (inGrammar_symbols known plain matched ends) runs
    have fits : spec.matches (body ++ slash) = true := by
      have bounded : StopsDigits slash := by
        rcases ends with rfl | rfl
        · exact fun _ => nofun
        · intro symbol found
          obtain rfl : 0x2f = symbol := by simpa using found
          decide
      unfold EndpointSpec.matches
      rw [instance_consumeAll matched apart bounded]
      rcases ends with rfl | rfl <;> decide
    have found : (matchEndpointNamed upper (body ++ slash) method).isSome = true :=
      List.find?_isSome.mpr ⟨spec, listed, Bool.and_eq_true_iff.mpr ⟨fits, allowed⟩⟩
    obtain ⟨chosen, found⟩ := Option.isSome_iff_exists.mp found
    rw [same]
    rw [rooted, List.cons_append] at safe found ⊢
    exact ⟨version, _, chosen, validatePath_split known safe, found⟩

/-- The documented grammar is the part of it in which every decimal is an ASCII digit. -/
theorem inGrammar_ascii_iff : InGrammar isAsciiDigit upper (0x2f :: tail) method ↔
    InGrammar isDecimal upper (0x2f :: tail) method ∧
      ∀ symbol ∈ 0x2f :: tail, isDecimal symbol = true → isAsciiDigit symbol = true := by
  constructor
  · rintro ⟨version, known, spec, listed, allowed, body, slash, matched, ends, same⟩
    refine ⟨⟨version, known, spec, listed, allowed, body, slash,
      matched.mono fun _ _ => isAsciiDigit_decimal, ends, same⟩, ?_⟩
    intro symbol member decimal
    rw [same] at member
    rcases inGrammar_symbols known (endpoints_formed spec listed).2.1 matched ends symbol member with
      inside | digit
    · exact asciiDigit_of_path inside decimal
    · exact digit
  · rintro ⟨⟨version, known, spec, listed, allowed, body, slash, matched, ends, same⟩, ascii⟩
    refine ⟨version, known, spec, listed, allowed, body, slash, matched.mono ?_, ends, same⟩
    intro symbol member
    refine ascii symbol ?_
    rw [same]
    simp [member]

/-- The gate is exact for a path unless an id of it has a digit of another script. The path may
be any text with a slash in front, and the method any text. -/
theorem gateExact_iff : GateExact upper (0x2f :: tail) method ↔
    (InGrammar isDecimal upper (0x2f :: tail) method →
      ∀ symbol ∈ 0x2f :: tail, isDecimal symbol = true → isAsciiDigit symbol = true) := by
  unfold GateExact
  rw [accepts_iff, inGrammar_ascii_iff]
  constructor
  · rintro ⟨exact, _⟩ wide
    exact (exact.mp wide).2
  · intro ascii
    refine ⟨⟨fun wide => ⟨wide, ascii wide⟩, And.left⟩, ?_⟩
    intro version rest spec valid matched
    have wide := (accepts_iff upper tail method).mp ⟨version, rest, spec, valid, matched⟩
    refine ⟨congrArg _ (validatePath_recompose valid).2.2, fun symbol member => ?_⟩
    have digits := ascii wide symbol member
    obtain ⟨version, known, spec, listed, _, body, slash, reading, ends, same⟩ := wide
    rw [same] at member
    rcases inGrammar_symbols known (endpoints_formed spec listed).2.1 reading ends symbol member with
      inside | decimal
    · exact inside
    · have digit := digits decimal
      unfold isPathSymbol
      simp [digit]

end Gate

/-- This path names a type by an Arabic digit three. -/
def arabicPath : PyStr := text "/v1/universe/types/" ++ [0x663, 0x2f]

/-- The gate accepts the Arabic spelling, which is not in the documented grammar. -/
theorem gate_arabic : ¬ ∀ (upper : PyStr → PyStr) (tail method : PyStr),
    GateExact upper (0x2f :: tail) method := by
  intro exact
  obtain ⟨_, symbols⟩ := exact id (arabicPath.drop 1) (text "GET")
  have valid : validatePath (0x2f :: arabicPath.drop 1) =
      some (text "v1", text "/universe/types/" ++ [0x663, 0x2f]) := by decide +kernel
  have matched : (matchEndpointNamed id (text "/universe/types/" ++ [0x663, 0x2f])
      (text "GET")).isSome = true := by decide +kernel
  obtain ⟨spec, matched⟩ := Option.isSome_iff_exists.mp matched
  have plain := (symbols _ _ spec valid matched).2 0x663 (by decide)
  exact absurd plain (by decide)

end EveApiCache
