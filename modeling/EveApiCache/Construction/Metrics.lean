import EveApiCache.Construction.Text
import EveApiCache.Library.GroupedFold
import Mathlib.Data.List.Dedup
import Mathlib.Data.List.Sort
import Mathlib.Data.Prod.Lex

/-!
This file models the registry of `app/metrics.py`.
-/

namespace EveApiCache
open GroupedFold

/-- A finite double is an integer of 53 bits times a power of two in range. -/
def IsDouble (value : ℚ) : Prop :=
  ∃ (mantissa : Int) (up down : Nat), mantissa.natAbs < 2 ^ 53 ∧ up ≤ 971 ∧ down ≤ 1074 ∧
    value = mantissa * 2 ^ up / 2 ^ down

structure Double where
  value : ℚ
  double : IsDouble value

/-- This is a Python float. The two zeros are one value. -/
inductive PyFloat where
  | finite (number : Double)
  | infinite (negative : Bool)
  | nan

/-- This is a small integer divided by a power of two. -/
def Double.scaled (mantissa : Int) (down : Nat) (small : mantissa.natAbs < 2 ^ 53 := by decide)
    (fits : down ≤ 1074 := by decide) : Double where
  value := mantissa / 2 ^ down
  double := ⟨mantissa, 0, down, small, Nat.zero_le _, fits, by rw [pow_zero, mul_one]⟩

def Double.zero : Double := .scaled 0 0

/-- `round` gives the float of an exact value, and `repr` is `repr` of a float. -/
structure FloatLibrary where
  round : ℚ → PyFloat
  repr : Double → PyStr

/-- This is a `Number`. Its floats are finite. -/
inductive Number where
  | int (value : Int)
  | float (value : Double)

/-- A comparison takes the exact value of an integer. -/
def Number.exact : Number → ℚ
  | .int value => value
  | .float value => value.value

section Floats
variable (floats : FloatLibrary)

/-- This is the nearest float. -/
def Number.asFloat : Number → PyFloat
  | .int value => floats.round value
  | .float value => .finite value

/-- This is `float(value)`, which raises for an integer beyond every float. -/
def Number.toFloat (value : Number) : Option Double :=
  match value.asFloat floats with
  | .finite number => some number
  | _ => none

/-- This is the sum of a float and a finite one. -/
def PyFloat.add : PyFloat → Double → PyFloat
  | .finite first, second => floats.round (first.value + second.value)
  | .infinite negative, _ => .infinite negative
  | .nan, _ => .nan

/-- This is `total += value`. When it raises the total stays. -/
def PyFloat.plus (total : PyFloat) (value : Number) : PyFloat :=
  match value.toFloat floats with
  | some added => total.add floats added
  | none => total

/-- This is `_num` of a float. -/
def num : PyFloat → PyStr
  | .finite number => if number.value.den = 1 then intStr number.value.num else floats.repr number
  | .infinite negative => if negative then text "-inf" else text "inf"
  | .nan => text "nan"

end Floats

/-- These are the doubles `0.005`, `0.01`, `0.025`, `0.05`, `0.1`, `0.25`, `0.5`, `1.0`, `2.5`, `5.0`
and `10.0`. -/
def latencyBuckets : List Double :=
  [.scaled 5764607523034235 60, .scaled 5764607523034235 59, .scaled 3602879701896397 57,
    .scaled 3602879701896397 56, .scaled 3602879701896397 55, .scaled 1 2, .scaled 1 1, .scaled 1 0,
    .scaled 5 1, .scaled 5 0, .scaled 10 0]

/-- The labels of a metric are keyword arguments, and their names are distinct. -/
structure LabelSet where
  pairs : List (PyStr × PyStr)
  nodup : (pairs.map Prod.fst).Nodup

abbrev LabelKey := List (PyStr × PyStr)

/-- This is `_key`. The names are distinct, so sorting the items sorts the names. -/
def LabelSet.key (labels : LabelSet) : LabelKey :=
  labels.pairs.insertionSort fun first second => first.1 ≤ second.1

/-- This is `value.replace(symbol, by)` for one symbol. -/
def replaceSymbol (symbol : CodePoint) (other value : PyStr) : PyStr :=
  value.flatMap fun found => if found = symbol then other else [found]

/-- This is `_escape`. -/
def escapeLabel (value : PyStr) : PyStr :=
  replaceSymbol 0x0a [0x5c, 0x6e] (replaceSymbol 0x22 [0x5c, 0x22] (replaceSymbol 0x5c [0x5c, 0x5c] value))

/-- This is one item of `_fmt_labels`. -/
def fmtLabel (label : PyStr × PyStr) : PyStr :=
  label.1 ++ text "=\"" ++ escapeLabel label.2 ++ text "\""

/-- This is `_fmt_labels`. -/
def fmtLabels (labels : LabelKey) : PyStr :=
  if labels = [] then []
  else [0x7b] ++ List.intercalate (text ",") (labels.map fmtLabel) ++ [0x7d]

structure Histogram where
  buckets : List Nat
  sum : PyFloat
  count : Nat

/-- The dictionaries of the registry keep the order of their first entries. -/
structure Registry where
  counters : List ((PyStr × LabelKey) × PyFloat)
  gauges : List ((PyStr × LabelKey) × PyFloat)
  histograms : List ((PyStr × LabelKey) × Histogram)
  described : List (PyStr × (PyStr × PyStr))

def Registry.empty : Registry := ⟨[], [], [], []⟩

/-- This is `_register`. The first description of a name stays. -/
def Registry.register (registry : Registry) (name metricType help : PyStr) : Registry :=
  { registry with
    described := adjust name (fun old => old.getD (metricType, help)) registry.described }

inductive Kind where
  | counter
  | gauge
  | histogram
  deriving DecidableEq

def Kind.name : Kind → PyStr
  | .counter => text "counter"
  | .gauge => text "gauge"
  | .histogram => text "histogram"

/-- These are the arguments of `inc_counter`, `set_gauge` and `observe`. -/
structure Update where
  kind : Kind
  name : PyStr
  value : Number
  help : PyStr
  labels : LabelSet

def Update.key (update : Update) : PyStr × LabelKey := (update.name, update.labels.key)

section Registry
variable (floats : FloatLibrary)

/-- A counter begins at zero. -/
def incremented (update : Update) (old : Option PyFloat) : PyFloat :=
  (old.getD (.finite .zero)).plus floats update.value

/-- This is `inc_counter`. -/
def incCounter (registry : Registry) (update : Update) : Registry :=
  let registry := registry.register update.name Kind.counter.name update.help
  { registry with counters := adjust update.key (incremented floats update) registry.counters }

/-- This is `set_gauge`. -/
def setGauge (registry : Registry) (update : Update) : Registry :=
  let registry := registry.register update.name Kind.gauge.name update.help
  match update.value.toFloat floats with
  | some value => { registry with gauges := adjust update.key (fun _ => .finite value) registry.gauges }
  | none => registry

/-- A new histogram has empty buckets. -/
def Histogram.empty : Histogram where
  buckets := List.replicate latencyBuckets.length 0
  sum := .finite .zero
  count := 0

/-- The loop of `observe` counts a value in every bucket that it fits. A value that cannot be summed
raises before it is counted. -/
def Histogram.observed (histogram : Histogram) (value : Number) : Histogram :=
  match value.toFloat floats with
  | some added =>
      { buckets := List.zipWith
          (fun bound count => if value.exact ≤ bound.value then count + 1 else count)
          latencyBuckets histogram.buckets
        sum := histogram.sum.add floats added
        count := histogram.count + 1 }
  | none => histogram

def observedOr (update : Update) (old : Option Histogram) : Histogram :=
  (old.getD .empty).observed floats update.value

/-- This is `observe`. -/
def observe (registry : Registry) (update : Update) : Registry :=
  let registry := registry.register update.name Kind.histogram.name update.help
  { registry with
    histograms := adjust update.key (observedOr floats update) registry.histograms }

def Update.apply (registry : Registry) (update : Update) : Registry :=
  match update.kind with
  | .counter => incCounter floats registry update
  | .gauge => setGauge floats registry update
  | .histogram => observe floats registry update

/-- The updates change the registry one after the other. -/
def updated (updates : List Update) : Registry := updates.foldl (Update.apply floats) .empty

end Registry

section Render
variable {Value : Type}

/-- These are the names of `sorted(_group(flat).items())`. -/
def groupNames (flat : List ((PyStr × LabelKey) × Value)) : List PyStr :=
  (flat.map fun entry => entry.1.1).dedup.insertionSort fun first second => first ≤ second

/-- These are the samples of one name, sorted by their labels, which are distinct. -/
def sortedSamples (samples : List ((PyStr × LabelKey) × Value)) : List ((PyStr × LabelKey) × Value) :=
  samples.insertionSort fun first second => first.1.2.map toLex ≤ second.1.2.map toLex

/-- This is `_header`. -/
def Registry.header (registry : Registry) (name defaultType : PyStr) : List PyStr :=
  let described := (valueAt name registry.described).getD (defaultType, [])
  [text "# HELP " ++ name ++ text " " ++ described.2, text "# TYPE " ++ name ++ text " " ++ described.1]

/-- This part of `render` writes the metrics of one dictionary. -/
def Registry.section (registry : Registry) (kind : Kind) (flat : List ((PyStr × LabelKey) × Value))
    (lines : (PyStr × LabelKey) × Value → List PyStr) : List PyStr :=
  (groupNames flat).flatMap fun name => registry.header name kind.name ++
    (sortedSamples (flat.filter fun entry => entry.1.1 = name)).flatMap lines

variable (floats : FloatLibrary)

/-- This is the line of a counter or of a gauge. -/
def sampleLine (entry : (PyStr × LabelKey) × PyFloat) : List PyStr :=
  [entry.1.1 ++ fmtLabels entry.1.2 ++ text " " ++ num floats entry.2]

/-- These are the lines of a histogram. -/
def histogramLines (entry : (PyStr × LabelKey) × Histogram) : List PyStr :=
  let name := entry.1.1
  let labels := entry.1.2
  List.zipWith (fun bound count => name ++ text "_bucket" ++
      fmtLabels (labels ++ [(text "le", num floats (.finite bound))]) ++ text " " ++ numeral count)
    latencyBuckets entry.2.buckets ++
  [name ++ text "_bucket" ++ fmtLabels (labels ++ [(text "le", text "+Inf")]) ++ text " " ++
      numeral entry.2.count,
    name ++ text "_sum" ++ fmtLabels labels ++ text " " ++ num floats entry.2.sum,
    name ++ text "_count" ++ fmtLabels labels ++ text " " ++ numeral entry.2.count]

/-- This is the list `out` of `render`. -/
def Registry.lines (registry : Registry) : List PyStr :=
  registry.section .counter registry.counters (sampleLine floats) ++
    registry.section .gauge registry.gauges (sampleLine floats) ++
      registry.section .histogram registry.histograms (histogramLines floats)

/-- This is `render`. -/
def Registry.render (registry : Registry) : PyStr :=
  List.intercalate (text "\n") (registry.lines floats) ++ text "\n"

end Render

end EveApiCache
