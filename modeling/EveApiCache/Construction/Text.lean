import Mathlib.Algebra.Order.Ring.Int
import Mathlib.Algebra.Order.Ring.Rat
import Mathlib.Data.List.Lex
import Mathlib.Order.Fin.Basic

/-!
This file models Python strings and bytes.
-/

namespace EveApiCache

/-- A Python string is a sequence of code points, and a surrogate may stand alone. -/
abbrev CodePoint := Fin 0x110000

instance codePoint_neZero : NeZero 0x110000 := ⟨by decide⟩

abbrev PyStr := List CodePoint

instance pyStr_lawfulBEq : LawfulBEq PyStr := inferInstance

abbrev Byte := Fin 256

instance byte_neZero : NeZero 256 := ⟨by decide⟩

abbrev Bytes := List Byte

def point (value : Nat) : CodePoint := Fin.ofNat 0x110000 value

def octet (value : Nat) : Byte := Fin.ofNat 256 value

@[simp] theorem point_val (value : Nat) (fits : value < 0x110000) : (point value).val = value :=
  Nat.mod_eq_of_lt fits

@[simp] theorem octet_val (value : Nat) (fits : value < 256) : (octet value).val = value :=
  Nat.mod_eq_of_lt fits

/-- This function gives the value of a string literal. -/
def text (literal : String) : PyStr := literal.toList.map fun symbol => point symbol.toNat

/-- This function gives the value of a bytes literal. -/
def bytes (literal : String) : Bytes := literal.toList.map fun symbol => octet symbol.toNat

/-- The flag `re.IGNORECASE` matches an ASCII letter of a pattern in both cases. -/
def lowerAscii (symbol : CodePoint) : CodePoint :=
  if 0x41 ≤ symbol.val ∧ symbol.val ≤ 0x5a then point (symbol.val + 0x20) else symbol

/-- The decimal numeral is `str(n)` of a natural number. -/
def numeral (value : Nat) : PyStr := (Nat.toDigits 10 value).map fun symbol => point symbol.toNat

/-- This is `str(n)` of an integer. -/
def intStr : Int → PyStr
  | .ofNat value => numeral value
  | .negSucc value => text "-" ++ numeral (value + 1)

def isSurrogate (symbol : CodePoint) : Bool := 0xd800 ≤ symbol.val && symbol.val < 0xe000

def isHighSurrogate (symbol : CodePoint) : Bool := 0xd800 ≤ symbol.val && symbol.val < 0xdc00

def isLowSurrogate (symbol : CodePoint) : Bool := 0xdc00 ≤ symbol.val && symbol.val < 0xe000

/-- A surrogate pair stands for one code point above the basic plane. -/
def joinPair (high low : CodePoint) : CodePoint :=
  point (0x10000 + (high.val - 0xd800) * 0x400 + (low.val - 0xdc00))

def highHalf (symbol : CodePoint) : CodePoint := point (0xd800 + (symbol.val - 0x10000) / 0x400)

def lowHalf (symbol : CodePoint) : CodePoint := point (0xdc00 + (symbol.val - 0x10000) % 0x400)

/-- This is the UTF-8 form of one code point. The strict codec refuses a surrogate, and the
`surrogatepass` handler writes it in three bytes. -/
def encodePoint (symbol : CodePoint) : Bytes :=
  if symbol.val < 0x80 then [octet symbol.val]
  else if symbol.val < 0x800 then
    [octet (0xc0 + symbol.val / 64), octet (0x80 + symbol.val % 64)]
  else if symbol.val < 0x10000 then
    [octet (0xe0 + symbol.val / 4096), octet (0x80 + symbol.val / 64 % 64),
      octet (0x80 + symbol.val % 64)]
  else
    [octet (0xf0 + symbol.val / 262144), octet (0x80 + symbol.val / 4096 % 64),
      octet (0x80 + symbol.val / 64 % 64), octet (0x80 + symbol.val % 64)]

/-- This is `str.encode()`. -/
def encode (string : PyStr) : Bytes := string.flatMap encodePoint

def isTail (symbol : Byte) : Bool := 0x80 ≤ symbol.val && symbol.val < 0xc0

/-- This function reads one code point of a UTF-8 text and accepts surrogates. -/
def decodePoint : Bytes → Option (CodePoint × Bytes)
  | [] => none
  | lead :: rest =>
      if lead.val < 0x80 then some (point lead.val, rest)
      else if 0xc2 ≤ lead.val ∧ lead.val < 0xe0 then
        match rest with
        | second :: rest =>
            if isTail second then
              some (point ((lead.val - 0xc0) * 64 + (second.val - 0x80)), rest)
            else none
        | _ => none
      else if 0xe0 ≤ lead.val ∧ lead.val < 0xf0 then
        match rest with
        | second :: third :: rest =>
            let value := (lead.val - 0xe0) * 4096 + (second.val - 0x80) * 64 + (third.val - 0x80)
            if isTail second && isTail third && 0x800 ≤ value then some (point value, rest) else none
        | _ => none
      else if 0xf0 ≤ lead.val ∧ lead.val < 0xf5 then
        match rest with
        | second :: third :: fourth :: rest =>
            let value := (lead.val - 0xf0) * 262144 + (second.val - 0x80) * 4096 +
              (third.val - 0x80) * 64 + (fourth.val - 0x80)
            if isTail second && isTail third && isTail fourth && 0x10000 ≤ value &&
              value < 0x110000 then some (point value, rest) else none
        | _ => none
      else none

/-- Each round of the decoder reads at least one byte, so the length bounds the rounds. -/
def decodePoints : Nat → Bytes → Option PyStr
  | _, [] => some []
  | 0, _ :: _ => none
  | rounds + 1, first :: rest => do
      let (symbol, rest) ← decodePoint (first :: rest)
      let symbols ← decodePoints rounds rest
      return symbol :: symbols

/-- This is `bytes.decode('utf-8', 'surrogatepass')`. -/
def decodeUtf8 (input : Bytes) : Option PyStr := decodePoints input.length input

/-- This function groups bytes into the 16-bit units of one byte order. -/
def units16 (bigEndian : Bool) : Bytes → Option (List CodePoint)
  | [] => some []
  | [_] => none
  | first :: second :: rest => do
      let units ← units16 bigEndian rest
      let value := if bigEndian then first.val * 256 + second.val else second.val * 256 + first.val
      return point value :: units

/-- Adjacent surrogate units form one code point. -/
def joinUnits : List CodePoint → PyStr
  | high :: low :: rest =>
      if isHighSurrogate high && isLowSurrogate low then joinPair high low :: joinUnits rest
      else high :: joinUnits (low :: rest)
  | units => units

/-- This is the decoder `utf-16-be` or `utf-16-le`. -/
def decodeUtf16 (bigEndian : Bool) (input : Bytes) : Option PyStr :=
  (units16 bigEndian input).map joinUnits

/-- This is the decoder `utf-32-be` or `utf-32-le`. -/
def decodeUtf32 (bigEndian : Bool) : Bytes → Option PyStr
  | [] => some []
  | first :: second :: third :: fourth :: rest => do
      let value := if bigEndian then
          ((first.val * 256 + second.val) * 256 + third.val) * 256 + fourth.val
        else ((fourth.val * 256 + third.val) * 256 + second.val) * 256 + first.val
      if value < 0x110000 then
        let symbols ← decodeUtf32 bigEndian rest
        return point value :: symbols
      else none
  | _ => none

/-- This function is `json.detect_encoding` followed by the decoder it names. -/
def decodeDetected (input : Bytes) : Option PyStr :=
  if [0x00, 0x00, 0xfe, 0xff].isPrefixOf input then decodeUtf32 true (input.drop 4)
  else if [0xff, 0xfe, 0x00, 0x00].isPrefixOf input then decodeUtf32 false (input.drop 4)
  else if [0xfe, 0xff].isPrefixOf input then decodeUtf16 true (input.drop 2)
  else if [0xff, 0xfe].isPrefixOf input then decodeUtf16 false (input.drop 2)
  else if [0xef, 0xbb, 0xbf].isPrefixOf input then decodeUtf8 (input.drop 3)
  else
    match input with
    | first :: second :: third :: fourth :: _ =>
        if first = 0 then
          if second = 0 then decodeUtf32 true input else decodeUtf16 true input
        else if second = 0 then
          if third = 0 ∧ fourth = 0 then decodeUtf32 false input else decodeUtf16 false input
        else decodeUtf8 input
    | [first, second] =>
        if first = 0 then decodeUtf16 true input
        else if second = 0 then decodeUtf16 false input
        else decodeUtf8 input
    | _ => decodeUtf8 input

/-- These code points are whitespace for `str.strip`. -/
def isWhitespace (symbol : CodePoint) : Bool :=
  (9 ≤ symbol.val && symbol.val ≤ 13) || (0x1c ≤ symbol.val && symbol.val ≤ 0x20) ||
    [0x85, 0xa0, 0x1680, 0x2028, 0x2029, 0x202f, 0x205f, 0x3000].contains symbol.val ||
    (0x2000 ≤ symbol.val && symbol.val ≤ 0x200a)

def strip (input : PyStr) : PyStr :=
  ((input.dropWhile isWhitespace).reverse.dropWhile isWhitespace).reverse

end EveApiCache
