import EveApiCache.Proof.Metrics.Exposition
import EveApiCache.Proof.Metrics.Registry

/-!
This file shows that the lines of the exposition are read back.
-/

namespace EveApiCache
open GroupedFold

/-- The text of a float is read back, and the text of an integer is read as the nearest float. -/
structure FloatTexts (floats : FloatLibrary) (readFloat : PyStr → Option PyFloat) : Prop where
  token : ∀ number : Double, number.value.den ≠ 1 → IsToken (floats.repr number)
  reprs : ∀ number : Double, number.value.den ≠ 1 →
    readFloat (floats.repr number) = some (.finite number)
  ints : ∀ value : Int, readFloat (intStr value) = some (floats.round value)
  exact : ∀ number : Double, floats.round number.value = .finite number
  positive : readFloat (text "inf") = some (.infinite false)
  negative : readFloat (text "-inf") = some (.infinite true)
  undefined : readFloat (text "nan") = some .nan
  unbounded : readFloat (text "+Inf") = some (.infinite false)

/-- The series of a histogram are its buckets, its sum and its count. -/
inductive Part where
  | bucket (bound : Double)
  | unbounded
  | sum
  | count

def Part.suffix : Part → PyStr
  | .bucket _ | .unbounded => text "_bucket"
  | .sum => text "_sum"
  | .count => text "_count"

/-- The names and labels of the updates are valid, the values are finite, each name is used for one
kind and for no part of a histogram, and the descriptions are single lines. -/
structure WellFormed (floats : FloatLibrary) (updates : List Update) : Prop where
  finite : AllFinite floats updates
  names : ∀ update ∈ updates, isMetricName update.name = true
  labels : ∀ update ∈ updates, ∀ label ∈ update.labels.pairs,
    isLabelName label.1 = true ∧ label.1 ≠ text "le"
  helps : ∀ update ∈ updates, 0x0a ∉ update.help
  kinds : ∀ first ∈ updates, ∀ second ∈ updates, first.name = second.name → first.kind = second.kind
  derived : ∀ first ∈ updates, first.kind = .histogram → ∀ second ∈ updates, ∀ part : Part,
    second.name ≠ first.name ++ part.suffix

section Texts
variable {floats : FloatLibrary} {readFloat : PyStr → Option PyFloat}

/-- The decimal text of an integer is a token. -/
theorem intStr_token (value : Int) : IsToken (intStr value) := by
  have free (symbol : CodePoint) (outside : Json.isDigit symbol = false) (minus : symbol ≠ 0x2d) :=
    intStr_free value symbol outside minus
  have filled : intStr value ≠ [] := by
    cases value with
    | ofNat value => exact Json.numeral_ne_nil value
    | negSucc value => exact List.cons_ne_nil _ _
  refine ⟨filled, ?_, ?_, free 0x0a (by decide) (by decide)⟩
  · rw [List.all_eq_true]
    intro symbol member
    rw [Bool.not_eq_true', isBlank, Bool.or_eq_false_iff, decide_eq_false_iff_not,
      decide_eq_false_iff_not]
    constructor
    · rintro rfl
      exact free 0x20 (by decide) (by decide) member
    · rintro rfl
      exact free 0x09 (by decide) (by decide) member
  · intro opens
    exact free 0x7b (by decide) (by decide) (List.mem_of_head? opens)

theorem constants_token : IsToken (text "inf") ∧ IsToken (text "-inf") ∧ IsToken (text "nan") := by
  unfold IsToken
  decide

/-- The text of a float is a token that is read as the float. -/
theorem num_read (texts : FloatTexts floats readFloat) (value : PyFloat) :
    IsToken (num floats value) ∧ readFloat (num floats value) = some value := by
  cases value with
  | finite number =>
      unfold num
      dsimp only
      split_ifs with whole
      · refine ⟨intStr_token _, ?_⟩
        have same : (number.value.num : ℚ) = number.value := Rat.den_eq_one_iff _ |>.mp whole
        rw [texts.ints, same, texts.exact]
      · exact ⟨texts.token number whole, texts.reprs number whole⟩
  | infinite negative =>
      cases negative with
      | false => exact ⟨constants_token.1, texts.positive⟩
      | true => exact ⟨constants_token.2.1, texts.negative⟩
  | nan => exact ⟨constants_token.2.2, texts.undefined⟩

/-- The text of a count is a token that is read as the nearest float. -/
theorem numeral_read (texts : FloatTexts floats readFloat) (count : Nat) :
    IsToken (numeral count) ∧ readFloat (numeral count) = some (floats.round count) :=
  ⟨intStr_token (Int.ofNat count), texts.ints (Int.ofNat count)⟩

/-- Different floats have different texts. -/
theorem num_injective (texts : FloatTexts floats readFloat) : Function.Injective (num floats) := by
  intro first second same
  have read := (num_read texts first).2
  rw [same, (num_read texts second).2] at read
  exact (Option.some.inj read).symm

/-- No bucket has the label of the last one. -/
theorem num_ne_unbounded (texts : FloatTexts floats readFloat) (number : Double) :
    num floats (.finite number) ≠ text "+Inf" := by
  intro same
  have read := (num_read texts (.finite number)).2
  rw [same, texts.unbounded] at read
  cases read

end Texts

section Lines
variable (readFloat : PyStr → Option PyFloat)

/-- A line is read as an entry or refused, and it is a single line. -/
def ReadsAs (line : PyStr) (entry : Option Entry) : Prop :=
  readLine readFloat line = entry ∧ 0x0a ∉ line

theorem readLines_all {lines : List PyStr} {entries : List (Option Entry)}
    (read : List.Forall₂ (ReadsAs readFloat) lines entries) :
    readLines readFloat lines = entries.mapM id := by
  induction read with
  | nil => rfl
  | cons first rest ih =>
      rw [readLines, first.1, ih, List.mapM_cons]
      rfl

theorem lines_free {lines : List PyStr} {entries : List (Option Entry)}
    (read : List.Forall₂ (ReadsAs readFloat) lines entries) : ∀ line ∈ lines, 0x0a ∉ line := by
  induction read with
  | nil => exact fun _ member => nomatch member
  | cons first rest ih =>
      intro line member
      rcases List.mem_cons.mp member with rfl | later
      · exact first.2
      · exact ih line later

theorem intercalate_concat (mark : PyStr) {lines : List PyStr} (filled : lines ≠ []) :
    List.intercalate mark (lines ++ [[]]) = List.intercalate mark lines ++ mark := by
  induction lines with
  | nil => exact absurd rfl filled
  | cons line lines ih =>
      cases lines with
      | nil => simp
      | cons next lines =>
          have rest := ih (List.cons_ne_nil _ _)
          rw [List.cons_append] at rest
          rw [List.cons_append, List.cons_append, List.intercalate_cons_cons, rest,
            List.intercalate_cons_cons]
          simp

/-- The lines of a text are read together, and no description and no type comes twice. -/
theorem readExposition_lines {lines : List PyStr} {entries : List (Option Entry)}
    (read : List.Forall₂ (ReadsAs readFloat) lines entries) :
    readExposition readFloat (List.intercalate (text "\n") lines ++ text "\n") =
      (entries.mapM id).bind fun entries =>
        if (entries.filterMap Entry.helpName).Nodup ∧ (entries.filterMap Entry.typedName).Nodup then
          some (entries.filterMap Entry.recorded)
        else none := by
  have feed : text "\n" = [0x0a] := by decide
  rw [feed]
  by_cases filled : lines = []
  · subst filled
    cases read
    rfl
  · have split : (List.intercalate [0x0a] lines ++ [0x0a]).splitOn (0x0a : CodePoint) = lines ++ [[]] := by
      rw [← intercalate_concat _ filled]
      refine List.splitOn_intercalate _ (fun line member => ?_) (by simp)
      rcases List.mem_append.mp member with inside | last
      · exact lines_free readFloat read line inside
      · rw [List.mem_singleton.mp last]
        exact List.not_mem_nil
    unfold readExposition
    dsimp only
    rw [split, List.dropLast_concat, readLines_all readFloat read, Option.bind_eq_bind]
    refine Option.bind_congr fun found _ => ?_
    simp

theorem escapeLabel_free (value : PyStr) : 0x0a ∉ escapeLabel value := by
  rw [escapeLabel_eq]
  intro member
  obtain ⟨symbol, _, inside⟩ := List.mem_flatMap.mp member
  unfold escapeSymbol at inside
  split_ifs at inside with backslash quote feed
  · exact absurd inside (by decide)
  · exact absurd inside (by decide)
  · exact absurd inside (by decide)
  · exact feed (List.mem_singleton.mp inside).symm

theorem symbols_free {name : PyStr} (symbols : name.all isMetricSymbol = true) : 0x0a ∉ name := by
  intro member
  exact (metricSymbol_plain (List.all_eq_true.mp symbols _ member)).2.2.2.2 rfl

theorem fmtLabel_free {label : PyStr × PyStr} (valid : isLabelName label.1 = true) :
    0x0a ∉ fmtLabel label := by
  obtain ⟨first, tail, same, _, symbols⟩ := isLabelName_head valid
  have name : 0x0a ∉ label.1 := symbols_free (by
    rw [List.all_eq_true] at symbols ⊢
    exact fun symbol member => labelSymbol_metric (symbols symbol member))
  unfold fmtLabel
  simp only [List.mem_append, not_or]
  exact ⟨⟨⟨name, by decide⟩, escapeLabel_free _⟩, by decide⟩

theorem intercalate_free {mark symbol : CodePoint} (apart : symbol ≠ mark) {words : List PyStr}
    (free : ∀ word ∈ words, symbol ∉ word) : symbol ∉ List.intercalate [mark] words := by
  induction words with
  | nil => exact List.not_mem_nil
  | cons word words ih =>
      have first := free word (List.mem_cons_self ..)
      have rest := ih fun other member => free other (List.mem_cons_of_mem _ member)
      cases words with
      | nil => simpa using first
      | cons next words =>
          rw [List.intercalate_cons_cons]
          simp only [List.mem_append, List.mem_singleton, not_or]
          exact ⟨⟨first, apart⟩, rest⟩

theorem fmtLabels_free {labels : LabelKey} (valid : ∀ label ∈ labels, isLabelName label.1 = true) :
    0x0a ∉ fmtLabels labels := by
  have comma : text "," = [0x2c] := by decide
  unfold fmtLabels
  split_ifs
  · exact List.not_mem_nil
  · rw [comma]
    simp only [List.mem_append, List.mem_singleton, not_or]
    refine ⟨⟨by decide, intercalate_free (by decide) fun word member => ?_⟩, by decide⟩
    obtain ⟨label, inside, rfl⟩ := List.mem_map.mp member
    exact fmtLabel_free (valid label inside)

/-- A sample line is read as its sample. -/
theorem sample_readsAs {name token : PyStr} {labels : LabelKey} {value : PyFloat}
    (named : isMetricName name = true) (valid : ∀ label ∈ labels, isLabelName label.1 = true)
    (read : IsToken token ∧ readFloat token = some value) :
    ReadsAs readFloat (name ++ fmtLabels labels ++ text " " ++ token)
      (some (.sample ⟨name, labels, value⟩)) := by
  refine ⟨readLine_sample readFloat named valid read.1 read.2, ?_⟩
  obtain ⟨_, _, _, _, symbols⟩ := isMetricName_head named
  simp only [List.mem_append, not_or]
  exact ⟨⟨⟨symbols_free symbols, fmtLabels_free valid⟩, by decide⟩, read.1.2.2.2⟩

/-- This is what the reader makes of a description. -/
def helpEntry (name help : PyStr) : Option Entry :=
  if isEscaped help = true then some (.help name) else none

/-- The header of a name is read as its description and its type. -/
theorem header_readsAs {registry : Registry} {name help : PyStr} {kind : Kind} (defaultType : PyStr)
    (named : isMetricName name = true) (single : 0x0a ∉ help)
    (described : valueAt name registry.described = some (kind.name, help)) :
    List.Forall₂ (ReadsAs readFloat) (registry.header name defaultType)
      [helpEntry name help, some (.typed name)] := by
  obtain ⟨_, _, _, _, symbols⟩ := isMetricName_head named
  have free := symbols_free symbols
  have typed : 0x0a ∉ kind.name := by cases kind <;> decide
  unfold Registry.header
  rw [described]
  refine .cons ⟨readLine_help readFloat named help, ?_⟩
    (.cons ⟨readLine_type readFloat named kind, ?_⟩ .nil)
  · simp only [List.mem_append, not_or]
    exact ⟨⟨⟨by decide, free⟩, by decide⟩, single⟩
  · simp only [List.mem_append, not_or]
    exact ⟨⟨⟨by decide, free⟩, by decide⟩, typed⟩

end Lines

section Sections
variable {floats : FloatLibrary} {readFloat : PyStr → Option PyFloat} {Value : Type}

/-- Every series of a dictionary comes from an update of its kind. -/
def FromUpdates (updates : List Update) (kind : Kind) (flat : List ((PyStr × LabelKey) × Value)) : Prop :=
  ∀ entry ∈ flat, ∃ update ∈ updates, update.kind = kind ∧ update.key = entry.1

/-- This is the description of a name, which its first update gives. -/
def helpOf (updates : List Update) (name : PyStr) : PyStr :=
  ((updates.find? fun update => update.name = name).map Update.help).getD []

/-- This is what the reader makes of the lines of one dictionary. -/
def sectionResults (helps : PyStr → PyStr) (flat : List ((PyStr × LabelKey) × Value))
    (samplesOf : (PyStr × LabelKey) × Value → List Sample) : List (Option Entry) :=
  (groupNames flat).flatMap fun name => [helpEntry name (helps name), some (.typed name)] ++
    (sortedSamples (flat.filter fun entry => entry.1.1 = name)).flatMap fun entry =>
      ((samplesOf entry).map .sample).map some

/-- These are the entries of one dictionary when every description is escaped. -/
def sectionEntries (flat : List ((PyStr × LabelKey) × Value))
    (samplesOf : (PyStr × LabelKey) × Value → List Sample) : List Entry :=
  (groupNames flat).flatMap fun name => [.help name, .typed name] ++
    (sortedSamples (flat.filter fun entry => entry.1.1 = name)).flatMap fun entry =>
      (samplesOf entry).map .sample

theorem mem_groupNames {flat : List ((PyStr × LabelKey) × Value)} {name : PyStr} :
    name ∈ groupNames flat ↔ ∃ entry ∈ flat, entry.1.1 = name := by
  unfold groupNames
  rw [(List.perm_insertionSort _ _).mem_iff, List.mem_dedup, List.mem_map]

theorem mem_sortedSamples {flat : List ((PyStr × LabelKey) × Value)} {name : PyStr}
    {entry : (PyStr × LabelKey) × Value}
    (member : entry ∈ sortedSamples (flat.filter fun entry => entry.1.1 = name)) : entry ∈ flat :=
  (List.mem_filter.mp ((List.perm_insertionSort _ _).mem_iff.mp member)).1

theorem forall₂_flatMap {Index Left Right : Type} {relation : Left → Right → Prop}
    {indices : List Index} {left : Index → List Left} {right : Index → List Right}
    (related : ∀ index ∈ indices, List.Forall₂ relation (left index) (right index)) :
    List.Forall₂ relation (indices.flatMap left) (indices.flatMap right) := by
  induction indices with
  | nil => exact .nil
  | cons index indices ih =>
      rw [List.flatMap_cons, List.flatMap_cons]
      exact List.rel_append (related index (List.mem_cons_self ..))
        (ih fun other member => related other (List.mem_cons_of_mem _ member))

/-- The lines of one dictionary are read as its entries. -/
theorem section_readsAs {updates : List Update} (valid : WellFormed floats updates) {kind : Kind}
    {flat : List ((PyStr × LabelKey) × Value)} (sourced : FromUpdates updates kind flat)
    {lines : (PyStr × LabelKey) × Value → List PyStr}
    {samplesOf : (PyStr × LabelKey) × Value → List Sample}
    (each : ∀ entry ∈ flat, List.Forall₂ (ReadsAs readFloat) (lines entry)
      (((samplesOf entry).map .sample).map some)) :
    List.Forall₂ (ReadsAs readFloat) ((updated floats updates).section kind flat lines)
      (sectionResults (helpOf updates) flat samplesOf) := by
  refine forall₂_flatMap fun name member => List.rel_append ?_ (forall₂_flatMap fun entry inside =>
    each entry (mem_sortedSamples inside))
  obtain ⟨entry, inside, rfl⟩ := mem_groupNames.mp member
  obtain ⟨update, present, _, same⟩ := sourced entry inside
  have named : isMetricName entry.1.1 = true := by
    rw [← show update.name = entry.1.1 from congrArg Prod.fst same]
    exact valid.names update present
  have described := valueAt_described valid.finite entry.1.1
  obtain ⟨first, found⟩ : ∃ first, updates.find? (fun update => update.name = entry.1.1) =
      some first := by
    refine Option.isSome_iff_exists.mp (List.find?_isSome.mpr ⟨update, present, ?_⟩)
    exact decide_eq_true (congrArg Prod.fst same)
  have helps : helpOf updates entry.1.1 = first.help := by
    unfold helpOf
    rw [found]
    rfl
  rw [found] at described
  rw [helps]
  exact header_readsAs readFloat _ named (valid.helps first (List.mem_of_find?_eq_some found)) described

/-- Without a refused description a dictionary is read as its entries. -/
theorem sectionResults_escaped {helps : PyStr → PyStr} {flat : List ((PyStr × LabelKey) × Value)}
    (samplesOf : (PyStr × LabelKey) × Value → List Sample)
    (escaped : ∀ name ∈ groupNames flat, isEscaped (helps name) = true) :
    sectionResults helps flat samplesOf = (sectionEntries flat samplesOf).map some := by
  unfold sectionResults sectionEntries
  rw [List.map_flatMap]
  refine List.flatMap_congr fun name member => ?_
  unfold helpEntry
  rw [if_pos (escaped name member), List.map_append, List.map_flatMap]
  rfl

/-- A description that is not escaped is refused. -/
theorem sectionResults_refused {helps : PyStr → PyStr} {flat : List ((PyStr × LabelKey) × Value)}
    (samplesOf : (PyStr × LabelKey) × Value → List Sample) {name : PyStr}
    (member : name ∈ groupNames flat) (refused : isEscaped (helps name) ≠ true) :
    none ∈ sectionResults helps flat samplesOf := by
  refine List.mem_flatMap.mpr ⟨name, member, List.mem_append_left _ ?_⟩
  unfold helpEntry
  rw [if_neg refused]
  exact List.mem_cons_self ..

theorem mapM_some {Item : Type} (items : List Item) : (items.map some).mapM id = some items := by
  induction items with
  | nil => rfl
  | cons item items ih =>
      rw [List.map_cons, List.mapM_cons, ih]
      rfl

theorem mapM_none {Item : Type} {items : List (Option Item)} (member : none ∈ items) :
    items.mapM id = none := by
  induction items with
  | nil => cases member
  | cons item items ih =>
      rw [List.mapM_cons]
      rcases List.mem_cons.mp member with rfl | later
      · rfl
      · rw [ih later]
        cases item <;> rfl

theorem filterMap_flatMap {Index Left Right : Type} (pick : Left → Option Right) (indices : List Index)
    (left : Index → List Left) :
    (indices.flatMap left).filterMap pick = indices.flatMap fun index => (left index).filterMap pick := by
  induction indices with
  | nil => rfl
  | cons index indices ih => rw [List.flatMap_cons, List.filterMap_append, ih, List.flatMap_cons]

/-- The descriptions of one dictionary are those of its names, and so are the types. -/
theorem sectionEntries_names (flat : List ((PyStr × LabelKey) × Value))
    (samplesOf : (PyStr × LabelKey) × Value → List Sample) :
    (sectionEntries flat samplesOf).filterMap Entry.helpName = groupNames flat ∧
      (sectionEntries flat samplesOf).filterMap Entry.typedName = groupNames flat := by
  have helps (samples : List Sample) : (samples.map Entry.sample).filterMap Entry.helpName = [] := by
    simp [List.filterMap_map, Function.comp_def, Entry.helpName]
  have types (samples : List Sample) : (samples.map Entry.sample).filterMap Entry.typedName = [] := by
    simp [List.filterMap_map, Function.comp_def, Entry.typedName]
  have header (name : PyStr) : ([.help name, .typed name] : List Entry).filterMap Entry.helpName = [name] ∧
      ([.help name, .typed name] : List Entry).filterMap Entry.typedName = [name] := ⟨rfl, rfl⟩
  have none (entries : List ((PyStr × LabelKey) × Value)) :
      (entries.flatMap fun _ => ([] : List PyStr)) = [] :=
    List.flatMap_eq_nil_iff.mpr fun _ _ => rfl
  unfold sectionEntries
  constructor
  · simp only [filterMap_flatMap, List.filterMap_append, helps, (header _).1, none, List.append_nil]
    exact List.flatMap_singleton' _
  · simp only [filterMap_flatMap, List.filterMap_append, types, (header _).2, none, List.append_nil]
    exact List.flatMap_singleton' _

theorem groupNames_nodup (flat : List ((PyStr × LabelKey) × Value)) : (groupNames flat).Nodup :=
  (List.perm_insertionSort _ _).nodup_iff.mpr (List.nodup_dedup _)

/-- The samples of one dictionary are those of its items in some order. -/
theorem sectionEntries_samples (flat : List ((PyStr × LabelKey) × Value))
    (samplesOf : (PyStr × LabelKey) × Value → List Sample) :
    ((sectionEntries flat samplesOf).filterMap Entry.recorded).Perm (flat.flatMap samplesOf) := by
  have recorded (samples : List Sample) :
      (samples.map Entry.sample).filterMap Entry.recorded = samples := by
    simp [List.filterMap_map, Function.comp_def, Entry.recorded]
  have grouped := groups_perm (fun entry : (PyStr × LabelKey) × Value => entry.1.1) sortedSamples
    (fun items => List.perm_insertionSort _ items) (groupNames_nodup flat)
    fun entry member => mem_groupNames.mpr ⟨entry, member, rfl⟩
  have same : (sectionEntries flat samplesOf).filterMap Entry.recorded =
      ((groupNames flat).flatMap fun name =>
        sortedSamples (flat.filter fun entry => entry.1.1 = name)).flatMap samplesOf := by
    have header (name : PyStr) :
        ([.help name, .typed name] : List Entry).filterMap Entry.recorded = [] := rfl
    unfold sectionEntries
    rw [List.flatMap_assoc]
    simp only [filterMap_flatMap, List.filterMap_append, recorded, header, List.nil_append]
  rw [same]
  exact grouped.flatMap_right samplesOf

end Sections

end EveApiCache
