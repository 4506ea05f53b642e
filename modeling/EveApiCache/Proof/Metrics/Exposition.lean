import EveApiCache.Construction.Exposition
import EveApiCache.Proof.Text

/-!
This file shows that each line of the exposition is read back.
-/

namespace EveApiCache

/-- The escape of one symbol. -/
def escapeSymbol (symbol : CodePoint) : PyStr :=
  if symbol = 0x5c then [0x5c, 0x5c]
  else if symbol = 0x22 then [0x5c, 0x22]
  else if symbol = 0x0a then [0x5c, 0x6e]
  else [symbol]

/-- The three replacements escape every symbol once, because the backslash comes first. -/
theorem escapeLabel_eq (value : PyStr) : escapeLabel value = value.flatMap escapeSymbol := by
  unfold escapeLabel replaceSymbol
  rw [List.flatMap_assoc, List.flatMap_assoc]
  refine List.flatMap_congr fun symbol _ => ?_
  unfold escapeSymbol
  by_cases backslash : symbol = 0x5c
  · subst backslash
    decide
  · by_cases quote : symbol = 0x22
    · subst quote
      decide
    · by_cases feed : symbol = 0x0a
      · subst feed
        decide
      · simp [backslash, quote, feed]

/-- The reader takes one escaped symbol off the front. -/
theorem readLabelValue_symbol (symbol : CodePoint) (rest : PyStr) (nonempty : rest ≠ []) :
    readLabelValue (escapeSymbol symbol ++ rest) =
      (readLabelValue rest).map fun result => (symbol :: result.1, result.2) := by
  obtain ⟨next, tail, rfl⟩ := List.exists_cons_of_ne_nil nonempty
  unfold escapeSymbol
  split_ifs with backslash quote feed
  · subst backslash
    rw [List.cons_append, List.singleton_append, readLabelValue.eq_3]
    simp [unescape, Option.map_eq_bind]
  · subst quote
    rw [List.cons_append, List.singleton_append, readLabelValue.eq_3]
    simp [unescape, Option.map_eq_bind]
  · subst feed
    rw [List.cons_append, List.singleton_append, readLabelValue.eq_3]
    simp [unescape, Option.map_eq_bind]
  · rw [List.singleton_append, readLabelValue.eq_3]
    simp [backslash, quote, Option.map_eq_bind]

/-- Any label value is read back from its escaped text. -/
theorem readLabelValue_escapeLabel (value rest : PyStr) :
    readLabelValue (escapeLabel value ++ 0x22 :: rest) = some (value, rest) := by
  rw [escapeLabel_eq]
  induction value with
  | nil =>
      rw [List.flatMap_nil, List.nil_append]
      cases rest <;> rfl
  | cons symbol value ih =>
      rw [List.flatMap_cons, List.append_assoc, readLabelValue_symbol _ _ (by simp), ih]
      rfl

theorem takeWhile_stop {keep : CodePoint → Bool} (word rest : PyStr) (kept : word.all keep = true)
    (stops : ∀ first, rest.head? = some first → keep first = false) :
    (word ++ rest).takeWhile keep = word := by
  rw [List.takeWhile_append_of_pos (by simpa using kept)]
  cases rest with
  | nil => simp
  | cons first rest => simp [stops first rfl]

theorem skipBlanks_solid {first : CodePoint} (rest : PyStr) (solid : isBlank first = false) :
    skipBlanks (first :: rest) = first :: rest := by
  unfold skipBlanks
  rw [List.dropWhile_cons_of_neg (by simp [solid])]

theorem expect_self {symbol : CodePoint} (rest : PyStr) (solid : isBlank symbol = false) :
    expect symbol (symbol :: rest) = some rest := by
  unfold expect
  rw [skipBlanks_solid rest solid]
  simp

theorem expect_other {symbol first : CodePoint} (rest : PyStr) (solid : isBlank first = false)
    (apart : first ≠ symbol) : expect symbol (first :: rest) = none := by
  unfold expect
  rw [skipBlanks_solid rest solid]
  simp [apart]

/-- A symbol of a name is no blank and no mark of the format. -/
theorem metricSymbol_plain {symbol : CodePoint} (name : isMetricSymbol symbol = true) :
    isBlank symbol = false ∧ symbol ≠ 0x7d ∧ symbol ≠ 0x7b ∧ symbol ≠ 0x23 ∧ symbol ≠ 0x0a := by
  refine ⟨?_, ?_, ?_, ?_, ?_⟩
  · unfold isBlank
    rw [Bool.or_eq_false_iff]
    constructor
    all_goals
      rw [decide_eq_false_iff_not]
      rintro rfl
      exact absurd name (by decide)
  all_goals
    rintro rfl
    exact absurd name (by decide)

theorem isMetricName_head {name : PyStr} (valid : isMetricName name = true) :
    ∃ first rest, name = first :: rest ∧ isMetricSymbol first = true ∧
      name.all isMetricSymbol = true := by
  cases name with
  | nil => simp [isMetricName] at valid
  | cons first rest =>
      simp only [isMetricName, Bool.and_eq_true] at valid
      have symbols := valid.2
      rw [List.all_cons, Bool.and_eq_true] at symbols
      exact ⟨first, rest, rfl, symbols.1, valid.2⟩

theorem labelSymbol_metric {symbol : CodePoint} (label : isLabelSymbol symbol = true) :
    isMetricSymbol symbol = true := by
  unfold isMetricSymbol
  rw [label, Bool.true_or]

theorem isLabelName_head {name : PyStr} (valid : isLabelName name = true) :
    ∃ first rest, name = first :: rest ∧ isMetricSymbol first = true ∧
      name.all isLabelSymbol = true := by
  cases name with
  | nil => simp [isLabelName] at valid
  | cons first rest =>
      simp only [isLabelName, Bool.and_eq_true] at valid
      have symbols := valid.2
      rw [List.all_cons, Bool.and_eq_true] at symbols
      exact ⟨first, rest, rfl, labelSymbol_metric symbols.1, valid.2⟩

/-- The parts of a written label. -/
theorem fmtLabel_parts {label : PyStr × PyStr} (valid : isLabelName label.1 = true) (rest : PyStr) :
    expect 0x7d (fmtLabel label ++ rest) = none ∧
      (skipBlanks (fmtLabel label ++ rest)).takeWhile isLabelSymbol = label.1 ∧
        (skipBlanks (fmtLabel label ++ rest)).drop label.1.length =
          0x3d :: 0x22 :: (escapeLabel label.2 ++ 0x22 :: rest) := by
  obtain ⟨name, value⟩ := label
  obtain ⟨first, tail, rfl, symbol, symbols⟩ := isLabelName_head valid
  obtain ⟨solid, brace, _⟩ := metricSymbol_plain symbol
  have written : fmtLabel (first :: tail, value) ++ rest =
      (first :: tail) ++ (0x3d :: 0x22 :: (escapeLabel value ++ 0x22 :: rest)) := by
    unfold fmtLabel
    rw [show text "=\"" = [0x3d, 0x22] by decide, show text "\"" = [0x22] by decide]
    simp
  rw [written, List.cons_append, skipBlanks_solid _ solid, ← List.cons_append]
  refine ⟨expect_other _ solid brace, takeWhile_stop _ _ symbols ?_, List.drop_left⟩
  rintro head ⟨⟩
  decide

/-- A label before a comma is read, and the rest follows. -/
theorem readLabels_comma (rounds : Nat) {label : PyStr × PyStr} (valid : isLabelName label.1 = true)
    (rest : PyStr) :
    readLabels (rounds + 1) (fmtLabel label ++ 0x2c :: rest) =
      (readLabels rounds rest).map fun result => (label :: result.1, result.2) := by
  obtain ⟨opens, name, tail⟩ := fmtLabel_parts valid (0x2c :: rest)
  rw [readLabels, opens]
  dsimp only
  rw [name, if_pos valid, tail, expect_self _ (by decide)]
  simp only [Option.bind_eq_bind, Option.bind_some]
  rw [expect_self _ (by decide), Option.bind_some, readLabelValue_escapeLabel, Option.bind_some]
  dsimp only
  rw [expect_self _ (by decide), Option.map_eq_bind]
  rfl

/-- A label before the brace is the last one. -/
theorem readLabels_last (rounds : Nat) {label : PyStr × PyStr} (valid : isLabelName label.1 = true)
    (rest : PyStr) :
    readLabels (rounds + 1) (fmtLabel label ++ 0x7d :: rest) = some ([label], rest) := by
  obtain ⟨opens, name, tail⟩ := fmtLabel_parts valid (0x7d :: rest)
  rw [readLabels, opens]
  dsimp only
  rw [name, if_pos valid, tail, expect_self _ (by decide)]
  simp only [Option.bind_eq_bind, Option.bind_some]
  rw [expect_self _ (by decide), Option.bind_some, readLabelValue_escapeLabel, Option.bind_some]
  dsimp only
  rw [expect_other _ (by decide) (by decide)]
  dsimp only
  rw [expect_self _ (by decide)]
  rfl

/-- The labels between the braces are read back. -/
theorem readLabels_fmtLabels (labels : LabelKey) (nonempty : labels ≠ [])
    (valid : ∀ label ∈ labels, isLabelName label.1 = true) (rounds : Nat)
    (enough : labels.length ≤ rounds) (rest : PyStr) :
    readLabels rounds (List.intercalate (text ",") (labels.map fmtLabel) ++ 0x7d :: rest) =
      some (labels, rest) := by
  induction labels generalizing rounds with
  | nil => exact absurd rfl nonempty
  | cons label labels ih =>
      obtain ⟨more, rfl⟩ : ∃ more, rounds = more + 1 := ⟨rounds - 1, by
        rw [List.length_cons] at enough
        omega⟩
      have first := valid label (List.mem_cons_self ..)
      cases labels with
      | nil => simpa using readLabels_last more first rest
      | cons next others =>
          have tail := ih (List.cons_ne_nil _ _) (fun other member =>
            valid other (List.mem_cons_of_mem _ member)) more (by simpa using enough)
          have split : List.intercalate (text ",") ((label :: next :: others).map fmtLabel) ++ 0x7d :: rest =
              fmtLabel label ++ 0x2c :: (List.intercalate (text ",") ((next :: others).map fmtLabel) ++
                0x7d :: rest) := by
            rw [List.map_cons, List.map_cons, List.intercalate_cons_cons,
              show text "," = [0x2c] by decide]
            simp
          rw [split, readLabels_comma more first, tail]
          rfl

theorem intercalate_length {Symbol : Type} (mark : List Symbol) (words : List (List Symbol))
    (filled : ∀ word ∈ words, word ≠ []) : words.length ≤ (List.intercalate mark words).length := by
  induction words with
  | nil => simp
  | cons word words ih =>
      have one : 0 < word.length := List.length_pos_of_ne_nil (filled word (List.mem_cons_self ..))
      have rest := ih fun other member => filled other (List.mem_cons_of_mem _ member)
      cases words with
      | nil =>
          rw [List.intercalate_singleton]
          exact one
      | cons next others =>
          rw [List.intercalate_cons_cons, List.length_append, List.length_append, List.length_cons]
          omega

/-- The optional labels of a sample are read back before its value. -/
theorem readLabelSet_fmtLabels {labels : LabelKey}
    (valid : ∀ label ∈ labels, isLabelName label.1 = true) (token : PyStr)
    (plain : ∀ first, token.head? = some first → isBlank first = false ∧ first ≠ 0x7b) :
    ∃ rest, readLabelSet (fmtLabels labels ++ text " " ++ token) = some (labels, rest) ∧
      skipBlanks rest = token := by
  have blank : skipBlanks (text " " ++ token) = token := by
    rw [show text " " = [0x20] by decide]
    cases token with
    | nil => rfl
    | cons first token =>
        change skipBlanks (first :: token) = _
        exact skipBlanks_solid _ (plain first rfl).1
  unfold readLabelSet
  by_cases empty : labels = []
  · subst empty
    refine ⟨text " " ++ token, ?_, blank⟩
    rw [show fmtLabels [] = [] from rfl, List.nil_append]
    have closed : expect 0x7b (text " " ++ token) = none := by
      unfold expect
      rw [blank]
      cases token with
      | nil => rfl
      | cons first token => simp [(plain first rfl).2]
    rw [closed]
  · refine ⟨text " " ++ token, ?_, blank⟩
    have written : fmtLabels labels ++ text " " ++ token = 0x7b ::
        (List.intercalate (text ",") (labels.map fmtLabel) ++ 0x7d :: (text " " ++ token)) := by
      unfold fmtLabels
      rw [if_neg empty]
      simp
    rw [written, expect_self _ (by decide)]
    refine readLabels_fmtLabels labels empty valid _ ?_ _
    have words := intercalate_length (text ",") (labels.map fmtLabel) fun word member => by
      obtain ⟨label, _, rfl⟩ := List.mem_map.mp member
      simp [fmtLabel, text]
    rw [List.length_map] at words
    rw [List.length_append]
    omega

/-- A token of a value has no blank and opens no labels. -/
def IsToken (token : PyStr) : Prop :=
  token ≠ [] ∧ (token.all fun symbol => !isBlank symbol) = true ∧ token.head? ≠ some 0x7b ∧ 0x0a ∉ token

section Reader
variable (readFloat : PyStr → Option PyFloat)

/-- A written sample is read back. -/
theorem readLine_sample {name token : PyStr} {labels : LabelKey} {value : PyFloat}
    (named : isMetricName name = true) (valid : ∀ label ∈ labels, isLabelName label.1 = true)
    (plain : IsToken token) (read : readFloat token = some value) :
    readLine readFloat (name ++ fmtLabels labels ++ text " " ++ token) =
      some (.sample ⟨name, labels, value⟩) := by
  obtain ⟨first, tail, rfl, symbol, symbols⟩ := isMetricName_head named
  obtain ⟨solid, _, _, comment, _⟩ := metricSymbol_plain symbol
  obtain ⟨rest, labelled, skipped⟩ := readLabelSet_fmtLabels valid token fun head same => by
    obtain ⟨filled, blanks, brace, _⟩ := plain
    cases token with
    | nil => cases same
    | cons other token =>
        cases same
        rw [List.all_cons, Bool.and_eq_true] at blanks
        exact ⟨by simpa using blanks.1, fun equal => brace (by rw [equal]; rfl)⟩
  have line : first :: tail ++ fmtLabels labels ++ text " " ++ token =
      first :: (tail ++ (fmtLabels labels ++ text " " ++ token)) := by simp
  have word : (first :: (tail ++ (fmtLabels labels ++ text " " ++ token))).takeWhile isMetricSymbol =
      first :: tail := by
    rw [← List.cons_append]
    refine takeWhile_stop _ _ symbols fun head same => ?_
    unfold fmtLabels at same
    split_ifs at same
    · cases same
      decide
    · cases same
      decide
  unfold readLine
  rw [line, skipBlanks_solid _ solid]
  dsimp only
  rw [if_neg comment]
  unfold readSample
  rw [word]
  dsimp only
  have whole : token.takeWhile (fun symbol => !isBlank symbol) = token := by
    simpa using takeWhile_stop token [] plain.2.1 (by rintro head ⟨⟩)
  rw [if_pos named, ← List.cons_append, List.drop_left, labelled]
  simp only [Option.bind_eq_bind, Option.bind_some]
  rw [skipped, whole, read, Option.bind_some, List.drop_length]
  rfl

theorem skipBlanks_word {word : PyStr} (rest : PyStr)
    (solid : (word.all fun symbol => !isBlank symbol) = true) (filled : word ≠ []) :
    skipBlanks (0x20 :: (word ++ rest)) = word ++ rest := by
  obtain ⟨first, tail, rfl⟩ := List.exists_cons_of_ne_nil filled
  rw [List.all_cons, Bool.and_eq_true] at solid
  change skipBlanks (first :: (tail ++ rest)) = _
  exact skipBlanks_solid _ (by simpa using solid.1)

theorem metricName_solid {name : PyStr} (named : isMetricName name = true) :
    (name.all fun symbol => !isBlank symbol) = true ∧ name ≠ [] := by
  obtain ⟨first, tail, rfl, _, symbols⟩ := isMetricName_head named
  refine ⟨?_, List.cons_ne_nil _ _⟩
  rw [List.all_eq_true] at symbols ⊢
  intro symbol member
  rw [(metricSymbol_plain (symbols symbol member)).1]
  rfl

/-- The tokens of a comment are its word, a name and the rest of the line. -/
theorem comment_tokens {word name : PyStr} (solid : (word.all fun symbol => !isBlank symbol) = true)
    (filled : word ≠ []) (named : isMetricName name = true) (rest : PyStr) :
    skipBlanks (0x20 :: (word ++ 0x20 :: (name ++ 0x20 :: rest))) = word ++ 0x20 :: (name ++ 0x20 :: rest) ∧
      (word ++ 0x20 :: (name ++ 0x20 :: rest)).takeWhile (fun symbol => !isBlank symbol) = word ∧
        skipBlanks ((word ++ 0x20 :: (name ++ 0x20 :: rest)).drop word.length) = name ++ 0x20 :: rest ∧
          (name ++ 0x20 :: rest).takeWhile (fun symbol => !isBlank symbol) = name ∧
            (name ++ 0x20 :: rest).drop name.length = 0x20 :: rest := by
  obtain ⟨apart, present⟩ := metricName_solid named
  refine ⟨skipBlanks_word _ solid filled, takeWhile_stop _ _ solid ?_, ?_, takeWhile_stop _ _ apart ?_,
    List.drop_left⟩
  · rintro first ⟨⟩
    decide
  · rw [List.drop_left]
    exact skipBlanks_word _ apart present
  · rintro first ⟨⟩
    decide

theorem readLine_comment (input : PyStr) :
    readLine readFloat (0x23 :: input) = readComment input := by
  unfold readLine
  rw [skipBlanks_solid _ (by decide)]
  rfl

theorem isEscaped_cons {symbol : CodePoint} (plain : symbol ≠ 0x5c) (rest : PyStr) :
    isEscaped (symbol :: rest) = isEscaped rest := by
  cases rest with
  | nil => simp [isEscaped, plain]
  | cons next rest => rw [isEscaped, if_neg plain]

/-- Leading blanks do not matter to the escapes. -/
theorem isEscaped_skipBlanks (help : PyStr) : isEscaped (skipBlanks help) = isEscaped help := by
  unfold skipBlanks
  induction help with
  | nil => rfl
  | cons symbol help ih =>
      by_cases blank : isBlank symbol = true
      · have plain : symbol ≠ 0x5c := by
          rintro rfl
          exact absurd blank (by decide)
        rw [List.dropWhile_cons_of_pos blank, ih, isEscaped_cons plain]
      · rw [List.dropWhile_cons_of_neg blank]

/-- A written description is read as one exactly when its text is escaped. -/
theorem readLine_help {name : PyStr} (named : isMetricName name = true) (help : PyStr) :
    readLine readFloat (text "# HELP " ++ name ++ text " " ++ help) =
      if isEscaped help = true then some (.help name) else none := by
  obtain ⟨start, word, second, token, last⟩ := @comment_tokens (text "HELP") name (by decide)
    (by decide) named help
  have line : text "# HELP " ++ name ++ text " " ++ help =
      0x23 :: (0x20 :: (text "HELP" ++ 0x20 :: (name ++ 0x20 :: help))) := by
    rw [show text "# HELP " = [0x23, 0x20] ++ text "HELP" ++ [0x20] by decide,
      show text " " = [0x20] by decide]
    simp
  rw [line, readLine_comment]
  unfold readComment
  rw [start]
  dsimp only
  rw [word, second, token, last, if_pos rfl, named, Bool.true_and, isEscaped_skipBlanks,
    isEscaped_cons (by decide)]

/-- A written type is read as one. -/
theorem readLine_type {name : PyStr} (named : isMetricName name = true) (kind : Kind) :
    readLine readFloat (text "# TYPE " ++ name ++ text " " ++ kind.name) = some (.typed name) := by
  obtain ⟨start, word, second, token, last⟩ := @comment_tokens (text "TYPE") name (by decide) (by decide)
    named kind.name
  have line : text "# TYPE " ++ name ++ text " " ++ kind.name =
      0x23 :: (0x20 :: (text "TYPE" ++ 0x20 :: (name ++ 0x20 :: kind.name))) := by
    rw [show text "# TYPE " = [0x23, 0x20] ++ text "TYPE" ++ [0x20] by decide,
      show text " " = [0x20] by decide]
    simp
  have known : metricTypes.contains (skipBlanks (0x20 :: kind.name)) = true := by
    cases kind <;> decide
  rw [line, readLine_comment]
  unfold readComment
  rw [start]
  dsimp only
  rw [word, second, token, last, named, known, if_neg (by decide)]
  rfl

end Reader

end EveApiCache
