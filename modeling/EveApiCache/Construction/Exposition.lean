import EveApiCache.Construction.Json
import EveApiCache.Construction.Metrics

/-!
This file states the text format of Prometheus. It is not translated from the source.
-/

namespace EveApiCache

/-- A sample has a metric name, label pairs and a value. -/
structure Sample where
  name : PyStr
  labels : LabelKey
  value : PyFloat

/-- A series is known by its name and labels. -/
def Sample.series (sample : Sample) : PyStr × LabelKey := (sample.name, sample.labels)

/-- A line of the format is a comment, a description, a type or a sample. -/
inductive Entry where
  | blank
  | help (name : PyStr)
  | typed (name : PyStr)
  | sample (sample : Sample)

def isBlank (symbol : CodePoint) : Bool := symbol = 0x20 || symbol = 0x09

def isLetter (symbol : CodePoint) : Bool :=
  (0x41 ≤ symbol.val && symbol.val ≤ 0x5a) || (0x61 ≤ symbol.val && symbol.val ≤ 0x7a) || symbol = 0x5f

/-- Only the name of a metric may hold a colon. -/
def isLabelSymbol (symbol : CodePoint) : Bool := isLetter symbol || Json.isDigit symbol

def isMetricSymbol (symbol : CodePoint) : Bool := isLabelSymbol symbol || symbol = 0x3a

/-- A metric name matches `[a-zA-Z_:][a-zA-Z0-9_:]*`. -/
def isMetricName (name : PyStr) : Bool :=
  (name.head?.any fun first => !Json.isDigit first) && name.all isMetricSymbol

/-- A label name matches `[a-zA-Z_][a-zA-Z0-9_]*`. -/
def isLabelName (name : PyStr) : Bool :=
  (name.head?.any fun first => !Json.isDigit first) && name.all isLabelSymbol

def skipBlanks (input : PyStr) : PyStr := input.dropWhile isBlank

/-- A label value escapes the backslash, the quote and the line feed. -/
def unescape (code : CodePoint) : Option CodePoint :=
  if code = 0x5c then some 0x5c
  else if code = 0x22 then some 0x22
  else if code = 0x6e then some 0x0a
  else none

/-- This function reads a label value after its first quote. -/
def readLabelValue : PyStr → Option (PyStr × PyStr)
  | [] => none
  | [symbol] => if symbol = 0x22 then some ([], []) else none
  | symbol :: next :: rest =>
      if symbol = 0x22 then some ([], next :: rest)
      else if symbol = 0x5c then do
        let original ← unescape next
        let (value, rest) ← readLabelValue rest
        return (original :: value, rest)
      else do
        let (value, rest) ← readLabelValue (next :: rest)
        return (symbol :: value, rest)

/-- This function removes one symbol and the blanks before it. -/
def expect (symbol : CodePoint) (input : PyStr) : Option PyStr :=
  match skipBlanks input with
  | [] => none
  | first :: rest => if first = symbol then some rest else none

/-- This function reads the labels after a brace. A comma may follow the last label. -/
def readLabels : Nat → PyStr → Option (LabelKey × PyStr)
  | 0, _ => none
  | rounds + 1, input =>
      match expect 0x7d input with
      | some rest => some ([], rest)
      | none => do
          let input := skipBlanks input
          let name := input.takeWhile isLabelSymbol
          if isLabelName name then
            let rest ← expect 0x3d (input.drop name.length)
            let rest ← expect 0x22 rest
            let (value, rest) ← readLabelValue rest
            match expect 0x2c rest with
            | some rest =>
                let (labels, rest) ← readLabels rounds rest
                return ((name, value) :: labels, rest)
            | none =>
                let rest ← expect 0x7d rest
                return ([(name, value)], rest)
          else none

/-- The labels of a sample are optional. -/
def readLabelSet (input : PyStr) : Option (LabelKey × PyStr) :=
  match expect 0x7b input with
  | some rest => readLabels (rest.length + 1) rest
  | none => some ([], input)

/-- A timestamp is an integer. -/
def isTimestamp (token : PyStr) : Bool :=
  match token with
  | [] => false
  | first :: rest =>
      if first = 0x2d then !rest.isEmpty && rest.all Json.isDigit else (first :: rest).all Json.isDigit

section Reader
variable (readFloat : PyStr → Option PyFloat)

/-- A sample has a value and perhaps a timestamp. -/
def readSample (line : PyStr) : Option Sample :=
  let name := line.takeWhile isMetricSymbol
  if isMetricName name then do
    let (labels, rest) ← readLabelSet (line.drop name.length)
    let rest := skipBlanks rest
    let token := rest.takeWhile fun symbol => !isBlank symbol
    let value ← readFloat token
    let rest := skipBlanks (rest.drop token.length)
    let stamp := rest.takeWhile fun symbol => !isBlank symbol
    if rest = [] || (isTimestamp stamp && skipBlanks (rest.drop stamp.length) = []) then
      return ⟨name, labels, value⟩
    else none
  else none

/-- These are the types of metrics. -/
def metricTypes : List PyStr :=
  [text "counter", text "gauge", text "histogram", text "summary", text "untyped"]

/-- In a description a backslash escapes another one or stands before an `n`. -/
def isEscaped : PyStr → Bool
  | [] => true
  | [symbol] => symbol ≠ 0x5c
  | symbol :: next :: rest =>
      if symbol = 0x5c then (next = 0x5c || next = 0x6e) && isEscaped rest
      else isEscaped (next :: rest)

/-- A comment that begins with `HELP` or `TYPE` describes a metric. The description runs to the end of
its line. -/
def readComment (input : PyStr) : Option Entry :=
  let input := skipBlanks input
  let word := input.takeWhile fun symbol => !isBlank symbol
  let input := skipBlanks (input.drop word.length)
  let name := input.takeWhile fun symbol => !isBlank symbol
  if word = text "HELP" then
    if isMetricName name && isEscaped (skipBlanks (input.drop name.length)) then some (.help name)
    else none
  else if word = text "TYPE" then
    let kind := skipBlanks (input.drop name.length)
    if isMetricName name && metricTypes.contains kind then some (.typed name) else none
  else some .blank

def readLine (line : PyStr) : Option Entry :=
  match skipBlanks line with
  | [] => some .blank
  | first :: rest =>
      if first = 0x23 then readComment rest else (readSample readFloat (first :: rest)).map .sample

def readLines : List PyStr → Option (List Entry)
  | [] => some []
  | line :: rest => do
      let entry ← readLine readFloat line
      let entries ← readLines rest
      return entry :: entries

def Entry.helpName : Entry → Option PyStr
  | .help name => some name
  | _ => none

def Entry.typedName : Entry → Option PyStr
  | .typed name => some name
  | _ => none

def Entry.recorded : Entry → Option Sample
  | .sample found => some found
  | _ => none

/-- Every line ends with a line feed, and a metric has one description and one type at most. -/
def readExposition (input : PyStr) : Option (List Sample) := do
  let lines := input.splitOn 0x0a
  let entries ← readLines readFloat lines.dropLast
  if lines.getLast? = some [] ∧ (entries.filterMap Entry.helpName).Nodup ∧
      (entries.filterMap Entry.typedName).Nodup then
    return entries.filterMap Entry.recorded
  else none

end Reader

end EveApiCache
