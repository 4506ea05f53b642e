import EveApiCache.Construction.Text
import Mathlib.Data.List.Sort

/-!
This file models the `json` module.
-/

namespace EveApiCache

/-- This is a value that `json.loads` returns. A float is known by the numeral that
`json.dumps` writes for it. -/
inductive Json where
  | null
  | bool (value : Bool)
  | int (value : Int)
  | float (numeral : PyStr)
  | str (value : PyStr)
  | arr (items : List Json)
  | obj (fields : List (PyStr × Json))

namespace Json

mutual

/-- This function compares two values. -/
def same : Json → Json → Bool
  | .null, .null => true
  | .bool first, .bool second => first = second
  | .int first, .int second => first = second
  | .float first, .float second => first = second
  | .str first, .str second => first = second
  | .arr first, .arr second => sameItems first second
  | .obj first, .obj second => sameFields first second
  | _, _ => false

def sameItems : List Json → List Json → Bool
  | [], [] => true
  | first :: items, second :: others => same first second && sameItems items others
  | _, _ => false

def sameFields : List (PyStr × Json) → List (PyStr × Json) → Bool
  | [], [] => true
  | (name, first) :: fields, (other, second) :: others =>
      decide (name = other) && same first second && sameFields fields others
  | _, _ => false

end

mutual

theorem same_iff : ∀ first second : Json, same first second = true ↔ first = second
  | .arr first, second => by
      cases second <;> simp [same, sameItems_iff first]
  | .obj first, second => by
      cases second <;> simp [same, sameFields_iff first]
  | .null, second => by cases second <;> simp [same]
  | .bool _, second => by cases second <;> simp [same]
  | .int _, second => by cases second <;> simp [same]
  | .float _, second => by cases second <;> simp [same]
  | .str _, second => by cases second <;> simp [same]

theorem sameItems_iff : ∀ first second : List Json, sameItems first second = true ↔ first = second
  | [], second => by cases second <;> simp [sameItems]
  | first :: items, second => by
      cases second <;> simp [sameItems, same_iff first, sameItems_iff items]

theorem sameFields_iff : ∀ first second : List (PyStr × Json),
    sameFields first second = true ↔ first = second
  | [], second => by cases second <;> simp [sameFields]
  | (name, first) :: fields, second => by
      rcases second with _ | ⟨⟨other, value⟩, others⟩ <;>
        simp [sameFields, same_iff first, sameFields_iff fields]

end

instance : DecidableEq Json := fun first second => decidable_of_iff _ (same_iff first second)

/-- This is `dict.get` on the fields of an object. -/
def field (name : PyStr) (fields : List (PyStr × Json)) : Option Json := fields.lookup name

/-- These are the separators of `json.dumps`. -/
structure Separators where
  item : PyStr
  key : PyStr

def defaultSeparators : Separators := ⟨text ", ", text ": "⟩

def compactSeparators : Separators := ⟨text ",", text ":"⟩

def hexDigit (digit : Nat) : CodePoint :=
  if digit < 10 then point (0x30 + digit) else point (0x57 + digit)

/-- A unit of the basic plane is written as a backslash, the letter `u` and four digits. -/
def escapeUnit (unit : CodePoint) : PyStr :=
  [0x5c, 0x75, hexDigit (unit.val / 4096), hexDigit (unit.val / 256 % 16),
    hexDigit (unit.val / 16 % 16), hexDigit (unit.val % 16)]

/-- This function is the escape that `ensure_ascii` gives to one code point. -/
def escape (symbol : CodePoint) : PyStr :=
  if symbol = 0x22 then [0x5c, 0x22]
  else if symbol = 0x5c then [0x5c, 0x5c]
  else if symbol = 0x0a then [0x5c, 0x6e]
  else if symbol = 0x0d then [0x5c, 0x72]
  else if symbol = 0x09 then [0x5c, 0x74]
  else if symbol = 0x0c then [0x5c, 0x66]
  else if symbol = 0x08 then [0x5c, 0x62]
  else if 0x20 ≤ symbol.val ∧ symbol.val ≤ 0x7e then [symbol]
  else if symbol.val < 0x10000 then escapeUnit symbol
  else escapeUnit (highHalf symbol) ++ escapeUnit (lowHalf symbol)

def quoted (string : PyStr) : PyStr := [0x22] ++ string.flatMap escape ++ [0x22]

mutual
/-- This is `json.dumps` without `sort_keys`. -/
def dumps (separators : Separators) : Json → PyStr
  | null => text "null"
  | bool true => text "true"
  | bool false => text "false"
  | int value => intStr value
  | float numeral => numeral
  | str value => quoted value
  | arr [] => text "[]"
  | arr (first :: rest) =>
      text "[" ++ dumps separators first ++ dumpsItems separators rest ++ text "]"
  | obj [] => [0x7b, 0x7d]
  | obj ((name, value) :: rest) =>
      [0x7b] ++ quoted name ++ separators.key ++ dumps separators value ++
        dumpsFields separators rest ++ [0x7d]

/-- The separator precedes each item after the first one. -/
def dumpsItems (separators : Separators) : List Json → PyStr
  | [] => []
  | item :: rest => separators.item ++ dumps separators item ++ dumpsItems separators rest

def dumpsFields (separators : Separators) : List (PyStr × Json) → PyStr
  | [] => []
  | (name, value) :: rest =>
      separators.item ++ quoted name ++ separators.key ++ dumps separators value ++
        dumpsFields separators rest
end

mutual
/-- This function applies `sort_keys` to every object of a value. -/
def sortKeys : Json → Json
  | arr items => arr (sortItems items)
  | obj fields => obj ((sortFields fields).insertionSort fun first second => first.1 ≤ second.1)
  | value => value

def sortItems : List Json → List Json
  | [] => []
  | item :: rest => sortKeys item :: sortItems rest

def sortFields : List (PyStr × Json) → List (PyStr × Json)
  | [] => []
  | (name, value) :: rest => (name, sortKeys value) :: sortFields rest
end

/-- This is `json.dumps(value, sort_keys=True)`. -/
def sortedDumps (value : Json) : PyStr := dumps defaultSeparators (sortKeys value)

/-- This is `json.dumps(value, sort_keys=True, separators=(",", ":"))`. -/
def canonical (value : Json) : PyStr := dumps compactSeparators (sortKeys value)

def isSpace (symbol : CodePoint) : Bool :=
  symbol = 0x20 || symbol = 0x09 || symbol = 0x0a || symbol = 0x0d

def skipSpace (input : PyStr) : PyStr := input.dropWhile isSpace

def isDigit (symbol : CodePoint) : Bool := 0x30 ≤ symbol.val && symbol.val ≤ 0x39

def digitsValue (digits : PyStr) : Nat :=
  digits.foldl (fun value digit => 10 * value + (digit.val - 0x30)) 0

def hexValue (symbol : CodePoint) : Option Nat :=
  if 0x30 ≤ symbol.val ∧ symbol.val ≤ 0x39 then some (symbol.val - 0x30)
  else if 0x61 ≤ symbol.val ∧ symbol.val ≤ 0x66 then some (symbol.val - 0x57)
  else if 0x41 ≤ symbol.val ∧ symbol.val ≤ 0x46 then some (symbol.val - 0x37)
  else none

def hexUnit (first second third fourth : CodePoint) : Option CodePoint := do
  let first ← hexValue first
  let second ← hexValue second
  let third ← hexValue third
  let fourth ← hexValue fourth
  return point (((first * 16 + second) * 16 + third) * 16 + fourth)

def simpleEscape (symbol : CodePoint) : Option CodePoint :=
  if symbol = 0x22 ∨ symbol = 0x5c ∨ symbol = 0x2f then some symbol
  else if symbol = 0x62 then some 0x08
  else if symbol = 0x66 then some 0x0c
  else if symbol = 0x6e then some 0x0a
  else if symbol = 0x72 then some 0x0d
  else if symbol = 0x74 then some 0x09
  else none

/-- The flag marks a unit that was written with `\u`. -/
def readUnits : PyStr → Option (List (CodePoint × Bool) × PyStr)
  | [] => none
  | symbol :: rest =>
      if symbol = 0x22 then some ([], rest)
      else if symbol = 0x5c then
        match rest with
        | [] => none
        | kind :: rest =>
            if kind = 0x75 then
              match rest with
              | first :: second :: third :: fourth :: rest => do
                  let unit ← hexUnit first second third fourth
                  let (units, rest) ← readUnits rest
                  return ((unit, true) :: units, rest)
              | _ => none
            else do
              let symbol ← simpleEscape kind
              let (units, rest) ← readUnits rest
              return ((symbol, false) :: units, rest)
      else if symbol.val < 0x20 then none
      else do
        let (units, rest) ← readUnits rest
        return ((symbol, false) :: units, rest)

/-- Only two adjacent escapes form a surrogate pair. -/
def joinEscapes : List (CodePoint × Bool) → PyStr
  | (high, true) :: (low, true) :: rest =>
      if isHighSurrogate high && isLowSurrogate low then joinPair high low :: joinEscapes rest
      else high :: joinEscapes ((low, true) :: rest)
  | (symbol, _) :: rest => symbol :: joinEscapes rest
  | [] => []

/-- This function reads a string after its opening quote. -/
def readString (input : PyStr) : Option (PyStr × PyStr) :=
  (readUnits input).map fun result => (joinEscapes result.1, result.2)

/-- This function splits the digits from the front of a text. -/
def readDigits (input : PyStr) : PyStr × PyStr := input.span isDigit

/-- This function reads the integer digits of a numeral, which have no leading zero. -/
def readInteger : PyStr → Option (PyStr × PyStr)
  | [] => none
  | first :: rest =>
      if first = 0x30 then some ([first], rest)
      else if isDigit first then
        let (digits, rest) := readDigits rest
        some (first :: digits, rest)
      else none

/-- This function reads a fraction, and gives back the point when no digit follows it. -/
def readFraction (input : PyStr) : PyStr × PyStr :=
  match input with
  | first :: second :: rest =>
      if first = 0x2e ∧ isDigit second then
        let (digits, rest) := readDigits rest
        (first :: second :: digits, rest)
      else ([], input)
  | _ => ([], input)

/-- This function reads an exponent, and gives back the letter when no digit follows it. -/
def readExponent (input : PyStr) : PyStr × PyStr :=
  match input with
  | letter :: rest =>
      if letter = 0x65 ∨ letter = 0x45 then
        let (sign, rest) := match rest with
          | sign :: rest => if sign = 0x2b ∨ sign = 0x2d then ([sign], rest) else ([], sign :: rest)
          | [] => ([], [])
        match readDigits rest with
        | ([], _) => ([], input)
        | (digits, rest) => (letter :: sign ++ digits, rest)
      else ([], input)
  | [] => ([], [])

/-- `int` refuses a numeral of more than 4300 digits. -/
def maxIntDigits : Nat := 4300

/-- `floatRepr` is `json.dumps(float(numeral))`. -/
def readNumber (floatRepr : PyStr → PyStr) (input : PyStr) : Option (Json × PyStr) := do
  let (negative, input) := match input with
    | first :: rest => if first = 0x2d then (true, rest) else (false, input)
    | [] => (false, [])
  let (digits, rest) ← readInteger input
  let (fraction, rest) := readFraction rest
  let (exponent, rest) := readExponent rest
  if fraction = [] ∧ exponent = [] then
    if digits.length ≤ maxIntDigits then
      let value : Int := digitsValue digits
      return (int (if negative then -value else value), rest)
    else none
  else
    let sign := if negative then text "-" else []
    return (float (floatRepr (sign ++ digits ++ fraction ++ exponent)), rest)

/-- This function removes a fixed word from the front of a text. -/
def readWord (word : PyStr) (value : Json) (input : PyStr) : Option (Json × PyStr) :=
  if word.isPrefixOf input then some (value, input.drop word.length) else none

/-- A repeated key keeps its first place and takes its last value. -/
def insertField (name : PyStr) (value : Json) : List (PyStr × Json) → List (PyStr × Json)
  | [] => [(name, value)]
  | (other, old) :: rest =>
      if other = name then (name, value) :: rest else (other, old) :: insertField name value rest

def dictOf (pairs : List (PyStr × Json)) : List (PyStr × Json) :=
  pairs.foldl (fun fields pair => insertField pair.1 pair.2 fields) []

section Reader
variable (floatRepr : PyStr → PyStr)

mutual
/-- The scanner reads one value. A nested value costs one round. -/
def readValue : Nat → PyStr → Option (Json × PyStr)
  | 0, _ => none
  | _, [] => none
  | rounds + 1, first :: rest =>
      if first = 0x22 then (readString rest).map fun result => (str result.1, result.2)
      else if first = 0x5b then
        match skipSpace rest with
        | [] => none
        | next :: tail =>
            if next = 0x5d then some (arr [], tail)
            else (readItems rounds (next :: tail)).map fun result => (arr result.1, result.2)
      else if first = 0x7b then
        match skipSpace rest with
        | [] => none
        | next :: tail =>
            if next = 0x7d then some (obj [], tail)
            else (readFields rounds (next :: tail)).map fun result =>
              (obj (dictOf result.1), result.2)
      else if first = 0x6e then readWord (text "null") null (first :: rest)
      else if first = 0x74 then readWord (text "true") (bool true) (first :: rest)
      else if first = 0x66 then readWord (text "false") (bool false) (first :: rest)
      else if first = 0x4e then readWord (text "NaN") (float (text "NaN")) (first :: rest)
      else if first = 0x49 then readWord (text "Infinity") (float (text "Infinity")) (first :: rest)
      else (readWord (text "-Infinity") (float (text "-Infinity")) (first :: rest)).or
        (readNumber floatRepr (first :: rest))

/-- The scanner reads the items of an array from the first item to the bracket. -/
def readItems : Nat → PyStr → Option (List Json × PyStr)
  | 0, _ => none
  | rounds + 1, input => do
      let (item, rest) ← readValue rounds input
      match skipSpace rest with
      | [] => none
      | next :: tail =>
          if next = 0x5d then return ([item], tail)
          else if next = 0x2c then
            let (items, rest) ← readItems rounds (skipSpace tail)
            return (item :: items, rest)
          else none

/-- The scanner reads the fields of an object from the first name to the brace. -/
def readFields : Nat → PyStr → Option (List (PyStr × Json) × PyStr)
  | 0, _ => none
  | _, [] => none
  | rounds + 1, quote :: input =>
      if quote = 0x22 then do
        let (name, rest) ← readString input
        match skipSpace rest with
        | [] => none
        | colon :: rest =>
            if colon = 0x3a then
              let (value, rest) ← readValue rounds (skipSpace rest)
              match skipSpace rest with
              | [] => none
              | next :: tail =>
                  if next = 0x7d then return ([(name, value)], tail)
                  else if next = 0x2c then
                    let (fields, rest) ← readFields rounds (skipSpace tail)
                    return ((name, value) :: fields, rest)
                  else none
            else none
      else none
end

/-- This is `json.loads` of a decoded text. Two rounds for each symbol are always enough. -/
def parse (input : PyStr) : Option Json :=
  match readValue floatRepr (2 * input.length + 2) (skipSpace input) with
  | some (value, rest) => if skipSpace rest = [] then some value else none
  | none => none

/-- This is `json.loads` of bytes, and an exception is `none`. -/
def loads (input : Bytes) : Option Json := (decodeDetected input).bind (parse floatRepr)

end Reader

end Json

end EveApiCache
