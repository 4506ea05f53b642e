import EveApiCache.Proof.JsonText

/-!
This file shows that `loads` reads back every value that it gave to `dumps`.
-/

namespace EveApiCache.Json

mutual

/-- A value comes back with the strings that `readBack` gives and with its names as keys again. -/
def backValue : Json → Json
  | .str value => .str (readBack value)
  | .arr items => .arr (backItems items)
  | .obj fields => .obj (dictOf (backFields fields))
  | .null => .null
  | .bool value => .bool value
  | .int value => .int value
  | .float numeral => .float numeral

def backItems : List Json → List Json
  | [] => []
  | item :: rest => backValue item :: backItems rest

def backFields : List (PyStr × Json) → List (PyStr × Json)
  | [] => []
  | (name, value) :: rest => (readBack name, backValue value) :: backFields rest

end

mutual

/-- No string and no name of a value has a high surrogate directly before a low one. -/
def Plain : Json → Prop
  | .str value => Unpaired value
  | .arr items => PlainItems items
  | .obj fields => PlainFields fields
  | .null => True
  | .bool _ => True
  | .int _ => True
  | .float _ => True

def PlainItems : List Json → Prop
  | [] => True
  | item :: rest => Plain item ∧ PlainItems rest

def PlainFields : List (PyStr × Json) → Prop
  | [] => True
  | (name, value) :: rest => Unpaired name ∧ Plain value ∧ PlainFields rest

end

/-- These are the items between the brackets. -/
def writtenItems : List Json → PyStr
  | [] => []
  | item :: rest => dumps defaultSeparators item ++ dumpsItems defaultSeparators rest

/-- These are the fields between the braces. -/
def writtenFields : List (PyStr × Json) → PyStr
  | [] => []
  | (name, value) :: rest => quoted name ++ (defaultSeparators.key ++
      (dumps defaultSeparators value ++ dumpsFields defaultSeparators rest))

theorem dumps_arr (item : Json) (items : List Json) (rest : PyStr) :
    dumps defaultSeparators (.arr (item :: items)) ++ rest =
      0x5b :: (writtenItems (item :: items) ++ 0x5d :: rest) := by
  simp only [dumps, writtenItems, List.append_assoc]
  rfl

theorem dumps_obj (field : PyStr × Json) (fields : List (PyStr × Json)) (rest : PyStr) :
    dumps defaultSeparators (.obj (field :: fields)) ++ rest =
      0x7b :: (writtenFields (field :: fields) ++ 0x7d :: rest) := by
  simp only [dumps, writtenFields, List.append_assoc]
  rfl

theorem dumpsItems_cons (item : Json) (items : List Json) (rest : PyStr) :
    dumpsItems defaultSeparators (item :: items) ++ rest =
      0x2c :: 0x20 :: (writtenItems (item :: items) ++ rest) := by
  simp only [dumpsItems, writtenItems, List.append_assoc]
  rfl

theorem dumpsFields_cons (field : PyStr × Json) (fields : List (PyStr × Json)) (rest : PyStr) :
    dumpsFields defaultSeparators (field :: fields) ++ rest =
      0x2c :: 0x20 :: (writtenFields (field :: fields) ++ rest) := by
  simp only [dumpsFields, writtenFields, List.append_assoc]
  rfl

section Values
variable (floatRepr : PyStr → PyStr)

/-- The text of a float is a constant or a numeral that is read as the same float. -/
def FloatText (numeral : PyStr) : Prop :=
  Printable numeral ∧
    (numeral ∈ [text "NaN", text "Infinity", text "-Infinity"] ∨
      ∀ rest, Ends rest → readNumber floatRepr (numeral ++ rest) = some (float numeral, rest))

mutual

/-- These are the values that `loads` returns. -/
def Loaded : Json → Prop
  | .int value => Scalar (int value)
  | .float numeral => FloatText floatRepr numeral
  | .arr items => LoadedItems items
  | .obj fields => LoadedFields fields ∧ (fields.map Prod.fst).Nodup
  | .null => True
  | .bool _ => True
  | .str _ => True

def LoadedItems : List Json → Prop
  | [] => True
  | item :: rest => Loaded item ∧ LoadedItems rest

def LoadedFields : List (PyStr × Json) → Prop
  | [] => True
  | (_, value) :: rest => Loaded value ∧ LoadedFields rest

end

/-- A number begins with a digit or with a sign before a digit. -/
theorem readNumber_head {input rest : PyStr} {value : Json}
    (read : readNumber floatRepr input = some (value, rest)) :
    ∃ first tail, input = first :: tail ∧
      (isDigit first = true ∨ first = 0x2d ∧ (tail.head?.map isDigit) = some true) := by
  have front : ∀ digits after input, readInteger input = some (digits, after) →
      ∃ first tail, input = first :: tail ∧ isDigit first = true := by
    intro digits after input integer
    cases input with
    | nil => cases integer
    | cons first tail =>
        rw [readInteger] at integer
        split_ifs at integer with zero decimal
        · exact ⟨first, tail, rfl, by rw [zero]; decide⟩
        · exact ⟨first, tail, rfl, decimal⟩
  cases input with
  | nil => cases read
  | cons first tail =>
      unfold readNumber at read
      dsimp only at read
      by_cases sign : first = 0x2d
      · rw [if_pos sign] at read
        obtain ⟨⟨digits, after⟩, integer, _⟩ := Option.bind_eq_some_iff.mp read
        obtain ⟨second, _, shape, decimal⟩ := front digits after _ integer
        have shape : tail = second :: _ := shape
        exact ⟨first, tail, rfl, .inr ⟨sign, by rw [shape]; simpa using decimal⟩⟩
      · rw [if_neg sign] at read
        obtain ⟨⟨digits, after⟩, integer, _⟩ := Option.bind_eq_some_iff.mp read
        obtain ⟨second, _, shape, decimal⟩ := front digits after _ integer
        cases shape
        exact ⟨first, tail, rfl, .inl decimal⟩

/-- A digit or a sign is no space and no closing bracket. -/
theorem number_solid {first : CodePoint} (head : isDigit first = true ∨ first = 0x2d) :
    isSpace first = false ∧ first ≠ 0x5d := by
  rcases head with decimal | rfl
  · have range : 0x30 ≤ first.val ∧ first.val ≤ 0x39 := by simpa [isDigit] using decimal
    constructor
    · simp only [isSpace, Bool.or_eq_false_iff, decide_eq_false_iff_not]
      refine ⟨⟨⟨?_, ?_⟩, ?_⟩, ?_⟩ <;> (rintro rfl; revert range; decide)
    · rintro rfl
      exact absurd range (by decide)
  · decide

/-- A word is read off the front of a text. -/
theorem readWord_append (word rest : PyStr) (value : Json) :
    readWord word value (word ++ rest) = some (value, rest) := by
  simp [readWord, List.isPrefixOf_iff_prefix]

/-- The constants of `json` are read back. -/
theorem readValue_constant (rounds : Nat) (rest : PyStr) (numeral : PyStr)
    (constant : numeral ∈ [text "NaN", text "Infinity", text "-Infinity"]) :
    readValue floatRepr (rounds + 1) (numeral ++ rest) = some (float numeral, rest) := by
  have named := readWord_append numeral rest (float numeral)
  simp only [List.mem_cons, List.not_mem_nil, or_false] at constant
  rcases constant with rfl | rfl | rfl
  · exact named
  · exact named
  · change (readWord (text "-Infinity") (float (text "-Infinity")) (text "-Infinity" ++ rest)).or
      (readNumber floatRepr (text "-Infinity" ++ rest)) = _
    rw [named]
    rfl

/-- The scanner reads a float back. -/
theorem readValue_float (rounds : Nat) (numeral rest : PyStr) (written : FloatText floatRepr numeral)
    (ends : Ends rest) :
    readValue floatRepr (rounds + 1) (numeral ++ rest) = some (float numeral, rest) := by
  rcases written.2 with constant | read
  · exact readValue_constant floatRepr rounds rest numeral constant
  · have number := read rest ends
    obtain ⟨first, tail, shape, head⟩ := readNumber_head floatRepr number
    rw [shape] at number ⊢
    rw [readValue_number floatRepr rounds first tail head, number]

/-- The text of a float begins with no space and no closing bracket. -/
theorem floatText_head {numeral : PyStr} (rest : PyStr) (written : FloatText floatRepr numeral) :
    ∃ first tail, numeral ++ rest = first :: tail ∧ isSpace first = false ∧ first ≠ 0x5d := by
  rcases written.2 with constant | read
  · simp only [List.mem_cons, List.not_mem_nil, or_false] at constant
    rcases constant with rfl | rfl | rfl
    · exact ⟨0x4e, text "aN" ++ rest, rfl, by decide, by decide⟩
    · exact ⟨0x49, text "nfinity" ++ rest, rfl, by decide, by decide⟩
    · exact ⟨0x2d, text "Infinity" ++ rest, rfl, by decide, by decide⟩
  · have whole := read [] (by rintro symbol ⟨⟩)
    rw [List.append_nil] at whole
    obtain ⟨first, tail, rfl, head⟩ := readNumber_head floatRepr whole
    exact ⟨first, tail ++ rest, rfl, number_solid (head.imp_right And.left)⟩

/-- A written value begins with no space and no closing bracket. -/
theorem loaded_head (value : Json) (rest : PyStr) (loaded : Loaded floatRepr value) :
    ∃ first tail, dumps defaultSeparators value ++ rest = first :: tail ∧ isSpace first = false ∧
      first ≠ 0x5d := by
  cases value with
  | null => exact ⟨0x6e, text "ull" ++ rest, rfl, by decide, by decide⟩
  | bool value =>
      cases value with
      | true => exact ⟨0x74, text "rue" ++ rest, rfl, by decide, by decide⟩
      | false => exact ⟨0x66, text "alse" ++ rest, rfl, by decide, by decide⟩
  | int value => exact scalar_head defaultSeparators (.int value) rest loaded
  | float numeral => exact floatText_head floatRepr rest loaded
  | str value => exact scalar_head defaultSeparators (.str value) rest trivial
  | arr items =>
      cases items with
      | nil => exact ⟨0x5b, text "]" ++ rest, rfl, by decide, by decide⟩
      | cons item items => exact ⟨0x5b, _, dumps_arr item items rest, by decide, by decide⟩
  | obj fields =>
      cases fields with
      | nil => exact ⟨0x7b, 0x7d :: rest, rfl, by decide, by decide⟩
      | cons field fields => exact ⟨0x7b, _, dumps_obj field fields rest, by decide, by decide⟩

/-- What follows an item or a field ends a numeral. -/
theorem ends_cons (next : CodePoint) (rest : PyStr)
    (mark : isDigit next = false ∧ next ≠ 0x2e ∧ next ≠ 0x65 ∧ next ≠ 0x45) :
    Ends (next :: rest) := by
  rintro symbol ⟨⟩
  exact mark

/-- A written value costs at least one round. -/
theorem rounds_positive {value : Json} {rounds : Nat} (loaded : Loaded floatRepr value)
    (enough : (dumps defaultSeparators value).length ≤ rounds) : ∃ more, rounds = more + 1 := by
  obtain ⟨first, tail, shape, _⟩ := loaded_head floatRepr value [] loaded
  rw [List.append_nil] at shape
  rw [shape, List.length_cons] at enough
  exact ⟨rounds - 1, by omega⟩

theorem skipSpace_written {value : Json} (rest : PyStr) (loaded : Loaded floatRepr value) :
    skipSpace (dumps defaultSeparators value ++ rest) = dumps defaultSeparators value ++ rest := by
  obtain ⟨first, tail, shape, solid, _⟩ := loaded_head floatRepr value rest loaded
  rw [shape, skipSpace_cons first tail solid]

mutual

/-- The scanner reads a written value back. -/
theorem readValue_written : ∀ (value : Json) (rounds : Nat) (rest : PyStr),
    Loaded floatRepr value → Ends rest → (dumps defaultSeparators value).length ≤ rounds →
      readValue floatRepr rounds (dumps defaultSeparators value ++ rest) =
        some (backValue value, rest)
  | .null, rounds, rest, loaded, ends, enough => by
      obtain ⟨rounds, rfl⟩ := rounds_positive floatRepr loaded enough
      exact readWord_append (text "null") rest .null
  | .bool true, rounds, rest, loaded, ends, enough => by
      obtain ⟨rounds, rfl⟩ := rounds_positive floatRepr loaded enough
      exact readWord_append (text "true") rest (.bool true)
  | .bool false, rounds, rest, loaded, ends, enough => by
      obtain ⟨rounds, rfl⟩ := rounds_positive floatRepr loaded enough
      exact readWord_append (text "false") rest (.bool false)
  | .int value, rounds, rest, loaded, ends, enough => by
      obtain ⟨rounds, rfl⟩ := rounds_positive floatRepr loaded enough
      exact readValue_int floatRepr rounds value rest ends loaded
  | .float numeral, rounds, rest, loaded, ends, enough => by
      obtain ⟨rounds, rfl⟩ := rounds_positive floatRepr loaded enough
      exact readValue_float floatRepr rounds numeral rest loaded ends
  | .str value, rounds, rest, loaded, ends, enough => by
      obtain ⟨rounds, rfl⟩ := rounds_positive floatRepr loaded enough
      exact readValue_quoted floatRepr rounds value rest
  | .arr [], rounds, rest, loaded, ends, enough => by
      obtain ⟨rounds, rfl⟩ := rounds_positive floatRepr loaded enough
      rfl
  | .arr (item :: items), rounds, rest, loaded, ends, enough => by
      obtain ⟨rounds, rfl⟩ := rounds_positive floatRepr loaded enough
      have length := congrArg List.length (dumps_arr item items [])
      simp only [List.append_nil, List.length_cons, List.length_append, List.length_nil] at length
      have read := readItems_written (item :: items) rounds rest loaded (by simp) (by omega)
      obtain ⟨first, tail, shape, solid, bracket⟩ := loaded_head floatRepr item
        (dumpsItems defaultSeparators items ++ 0x5d :: rest) loaded.1
      have whole : writtenItems (item :: items) ++ 0x5d :: rest = first :: tail := by
        rw [← shape, writtenItems, List.append_assoc]
      rw [whole] at read
      rw [dumps_arr, whole, readValue]
      simp [skipSpace_cons first tail solid, bracket, read, backValue]
  | .obj [], rounds, rest, loaded, ends, enough => by
      obtain ⟨rounds, rfl⟩ := rounds_positive floatRepr loaded enough
      rfl
  | .obj ((name, value) :: fields), rounds, rest, loaded, ends, enough => by
      obtain ⟨rounds, rfl⟩ := rounds_positive floatRepr loaded enough
      have length := congrArg List.length (dumps_obj (name, value) fields [])
      simp only [List.append_nil, List.length_cons, List.length_append, List.length_nil] at length
      have read := readFields_written ((name, value) :: fields) rounds rest loaded.1 (by simp)
        (by omega)
      have whole : ∃ tail, writtenFields ((name, value) :: fields) ++ 0x7d :: rest = 0x22 :: tail :=
        ⟨_, by simp only [writtenFields, quoted, List.append_assoc]; rfl⟩
      obtain ⟨tail, whole⟩ := whole
      rw [whole] at read
      rw [dumps_obj, whole, readValue]
      simp [skipSpace_cons 0x22 tail (by decide), read, backValue]

theorem readItems_written : ∀ (items : List Json) (rounds : Nat) (rest : PyStr),
    LoadedItems floatRepr items → items ≠ [] → (writtenItems items).length < rounds →
      readItems floatRepr rounds (writtenItems items ++ 0x5d :: rest) =
        some (backItems items, rest)
  | [], _, _, _, filled, _ => absurd rfl filled
  | [item], rounds, rest, loaded, filled, enough => by
      obtain ⟨rounds, rfl⟩ : ∃ more, rounds = more + 1 := ⟨rounds - 1, by omega⟩
      have value := readValue_written item rounds (0x5d :: rest) loaded.1
        (ends_cons 0x5d rest (by decide))
        (by simp only [writtenItems, dumpsItems, List.append_nil] at enough; omega)
      rw [readItems, writtenItems, dumpsItems, List.append_nil, value]
      simp [skipSpace_cons 0x5d rest (by decide), backItems]
  | item :: next :: items, rounds, rest, loaded, filled, enough => by
      obtain ⟨rounds, rfl⟩ : ∃ more, rounds = more + 1 := ⟨rounds - 1, by omega⟩
      have length := congrArg List.length (dumpsItems_cons next items [])
      simp only [List.append_nil, List.length_cons] at length
      simp only [writtenItems, List.length_append] at enough
      have value := readValue_written item rounds
        (0x2c :: 0x20 :: (writtenItems (next :: items) ++ 0x5d :: rest)) loaded.1
        (ends_cons 0x2c _ (by decide)) (by omega)
      have others := readItems_written (next :: items) rounds rest loaded.2 (by simp) (by omega)
      obtain ⟨first, tail, shape, solid, _⟩ := loaded_head floatRepr next
        (dumpsItems defaultSeparators items ++ 0x5d :: rest) loaded.2.1
      have whole : writtenItems (next :: items) ++ 0x5d :: rest = first :: tail := by
        rw [← shape, writtenItems, List.append_assoc]
      have space : skipSpace (0x20 :: first :: tail) = first :: tail :=
        skipSpace_cons first tail solid
      rw [readItems, writtenItems, List.append_assoc, dumpsItems_cons, value]
      rw [whole] at others ⊢
      simp [skipSpace_cons 0x2c _ (by decide), space, others, backItems]

theorem readFields_written : ∀ (fields : List (PyStr × Json)) (rounds : Nat) (rest : PyStr),
    LoadedFields floatRepr fields → fields ≠ [] → (writtenFields fields).length < rounds →
      readFields floatRepr rounds (writtenFields fields ++ 0x7d :: rest) =
        some (backFields fields, rest)
  | [], _, _, _, filled, _ => absurd rfl filled
  | [(name, value)], rounds, rest, loaded, filled, enough => by
      obtain ⟨rounds, rfl⟩ : ∃ more, rounds = more + 1 := ⟨rounds - 1, by omega⟩
      simp only [writtenFields, dumpsFields, List.append_nil, List.length_append] at enough
      have content := readValue_written value rounds (0x7d :: rest) loaded.1
        (ends_cons 0x7d rest (by decide)) (by omega)
      have front := skipSpace_written floatRepr (0x7d :: rest) loaded.1
      simp only [writtenFields, dumpsFields, List.append_nil, List.append_assoc]
      rw [readFields_field floatRepr rounds name _ _ 0x7d rest (by decide) front content]
      rfl
  | (name, value) :: next :: fields, rounds, rest, loaded, filled, enough => by
      obtain ⟨rounds, rfl⟩ : ∃ more, rounds = more + 1 := ⟨rounds - 1, by omega⟩
      have length := congrArg List.length (dumpsFields_cons next fields [])
      simp only [List.append_nil, List.length_cons] at length
      simp only [writtenFields, List.length_append] at enough
      have content := readValue_written value rounds
        (0x2c :: 0x20 :: (writtenFields (next :: fields) ++ 0x7d :: rest)) loaded.1
        (ends_cons 0x2c _ (by decide)) (by omega)
      have front := skipSpace_written floatRepr
        (0x2c :: 0x20 :: (writtenFields (next :: fields) ++ 0x7d :: rest)) loaded.1
      have others := readFields_written (next :: fields) rounds rest loaded.2 (by simp) (by omega)
      have space : skipSpace (0x20 :: (writtenFields (next :: fields) ++ 0x7d :: rest)) =
          writtenFields (next :: fields) ++ 0x7d :: rest := by
        simp only [writtenFields, List.append_assoc]
        exact skipSpace_quoted next.1 _
      rw [writtenFields]
      simp only [List.append_assoc]
      rw [dumpsFields_cons, readFields_field floatRepr rounds name _ _ 0x2c _ (by decide) front content,
        if_neg (by decide), if_pos rfl, space, others]
      rfl

end

/-- The words between the parts of a value are printable. -/
theorem marks_printable : Printable (text "[") ∧ Printable (text "]") ∧ Printable [0x7b] ∧
    Printable [0x7d] ∧ Printable defaultSeparators.item ∧ Printable defaultSeparators.key :=
  ⟨printable_of_all (by decide), printable_of_all (by decide), printable_of_all (by decide),
    printable_of_all (by decide), printable_of_all (by decide), printable_of_all (by decide)⟩

mutual

/-- A written value is printable. -/
theorem loaded_printable : ∀ value : Json, Loaded floatRepr value →
    Printable (dumps defaultSeparators value)
  | .null, _ => printable_of_all (by decide)
  | .bool true, _ => printable_of_all (by decide)
  | .bool false, _ => printable_of_all (by decide)
  | .int value, _ => intStr_printable value
  | .float _, loaded => loaded.1
  | .str value, _ => quoted_printable value
  | .arr [], _ => printable_of_all (by decide)
  | .arr (item :: items), loaded => by
      obtain ⟨opening, closing, _⟩ := marks_printable
      exact printable_append (printable_append (printable_append opening
        (loaded_printable item loaded.1)) (items_printable items loaded.2)) closing
  | .obj [], _ => printable_of_all (by decide)
  | .obj ((name, value) :: fields), loaded => by
      obtain ⟨_, _, opening, closing, _, key⟩ := marks_printable
      exact printable_append (printable_append (printable_append (printable_append (printable_append
        opening (quoted_printable name)) key) (loaded_printable value loaded.1.1))
        (fields_printable fields loaded.1.2)) closing

theorem items_printable : ∀ items : List Json, LoadedItems floatRepr items →
    Printable (dumpsItems defaultSeparators items)
  | [], _ => printable_of_all rfl
  | item :: items, loaded => by
      obtain ⟨_, _, _, _, comma, _⟩ := marks_printable
      exact printable_append (printable_append comma (loaded_printable item loaded.1))
        (items_printable items loaded.2)

theorem fields_printable : ∀ fields : List (PyStr × Json), LoadedFields floatRepr fields →
    Printable (dumpsFields defaultSeparators fields)
  | [], _ => printable_of_all rfl
  | (name, value) :: fields, loaded => by
      obtain ⟨_, _, _, _, comma, key⟩ := marks_printable
      exact printable_append (printable_append (printable_append (printable_append comma
        (quoted_printable name)) key) (loaded_printable value loaded.1))
        (fields_printable fields loaded.2)

end

/-- `loads` reads a written value back. -/
theorem loads_written (value : Json) (loaded : Loaded floatRepr value) :
    loads floatRepr (encode (dumps defaultSeparators value)) = some (backValue value) := by
  have read := readValue_written floatRepr value (2 * (dumps defaultSeparators value).length + 2) []
    loaded (by rintro symbol ⟨⟩) (by omega)
  obtain ⟨first, tail, shape, solid, _⟩ := loaded_head floatRepr value [] loaded
  rw [List.append_nil] at read shape
  unfold loads parse
  rw [decodeDetected_printable _ (loaded_printable floatRepr value loaded), Option.bind_some]
  have front : skipSpace (dumps defaultSeparators value) = dumps defaultSeparators value := by
    rw [shape, skipSpace_cons first tail solid]
  rw [front, read]
  rfl

/-- `json.dumps` writes every float that `json.loads` reads as a constant or as a numeral that is read
as the same float. -/
def FloatsReadBack : Prop :=
  ∀ input numeral rest, readNumber floatRepr input = some (float numeral, rest) →
    FloatText floatRepr numeral

variable {floatRepr}

/-- An assignment keeps the names of a dictionary apart. -/
theorem insertField_nodup (name : PyStr) (value : Json) (fields : List (PyStr × Json))
    (nodup : (fields.map Prod.fst).Nodup) :
    ((insertField name value fields).map Prod.fst).Nodup ∧
      ∀ other ∈ (insertField name value fields).map Prod.fst,
        other = name ∨ other ∈ fields.map Prod.fst := by
  induction fields with
  | nil => simp [insertField]
  | cons field fields ih =>
      obtain ⟨fresh, rest⟩ := List.nodup_cons.mp nodup
      obtain ⟨apart, names⟩ := ih rest
      unfold insertField
      split_ifs with same
      · subst same
        constructor
        · exact List.nodup_cons.mpr ⟨fresh, rest⟩
        · intro other member
          exact .inr member
      · constructor
        · refine List.nodup_cons.mpr ⟨?_, apart⟩
          intro member
          rcases names _ member with self | earlier
          · exact same self
          · exact fresh earlier
        · intro other member
          rcases List.mem_cons.mp member with self | later
          · exact .inr (by rw [self]; simp)
          · exact (names other later).imp_right (List.mem_cons_of_mem _)

theorem insertField_loaded (name : PyStr) {value : Json} {fields : List (PyStr × Json)}
    (fresh : Loaded floatRepr value) (loaded : LoadedFields floatRepr fields) :
    LoadedFields floatRepr (insertField name value fields) := by
  induction fields with
  | nil => exact ⟨fresh, trivial⟩
  | cons field fields ih =>
      unfold insertField
      split_ifs
      · exact ⟨fresh, loaded.2⟩
      · exact ⟨loaded.1, ih loaded.2⟩

/-- A dictionary has distinct names and the values that it was given. -/
theorem dictOf_loaded {pairs : List (PyStr × Json)} (loaded : LoadedFields floatRepr pairs) :
    LoadedFields floatRepr (dictOf pairs) ∧ ((dictOf pairs).map Prod.fst).Nodup := by
  have general : ∀ (pairs fields : List (PyStr × Json)), LoadedFields floatRepr pairs →
      LoadedFields floatRepr fields → (fields.map Prod.fst).Nodup →
        LoadedFields floatRepr (pairs.foldl (fun fields pair => insertField pair.1 pair.2 fields) fields) ∧
          ((pairs.foldl (fun fields pair => insertField pair.1 pair.2 fields) fields).map
            Prod.fst).Nodup := by
    intro pairs
    induction pairs with
    | nil => exact fun fields _ kept nodup => ⟨kept, nodup⟩
    | cons pair pairs ih =>
        intro fields each kept nodup
        exact ih _ each.2 (insertField_loaded pair.1 each.1 kept)
          (insertField_nodup pair.1 pair.2 fields nodup).1
  exact general pairs [] loaded trivial List.nodup_nil

/-- The constants of the scanner are loaded values. -/
theorem constant_loaded (numeral : PyStr)
    (constant : numeral ∈ [text "NaN", text "Infinity", text "-Infinity"]) :
    Loaded floatRepr (.float numeral) := by
  refine ⟨?_, .inl constant⟩
  simp only [List.mem_cons, List.not_mem_nil, or_false] at constant
  rcases constant with rfl | rfl | rfl <;> exact printable_of_all (by decide)

theorem readNumber_loaded (floats : FloatsReadBack floatRepr) {input rest : PyStr} {value : Json}
    (read : readNumber floatRepr input = some (value, rest)) : Loaded floatRepr value := by
  rcases readNumber_shape floatRepr _ _ _ read with ⟨number, rfl⟩ | ⟨numeral, rfl⟩
  · exact readNumber_scalar floatRepr _ _ number read
  · exact floats _ _ _ read

/-- The scanner returns loaded values. -/
theorem read_loaded (floats : FloatsReadBack floatRepr) (rounds : Nat) :
    (∀ input value rest, readValue floatRepr rounds input = some (value, rest) →
        Loaded floatRepr value) ∧
      (∀ input items rest, readItems floatRepr rounds input = some (items, rest) →
        LoadedItems floatRepr items) ∧
      ∀ input fields rest, readFields floatRepr rounds input = some (fields, rest) →
        LoadedFields floatRepr fields := by
  induction rounds with
  | zero =>
      refine ⟨?_, ?_, ?_⟩
      · intro input value rest read
        simp [readValue] at read
      · intro input items rest read
        simp [readItems] at read
      · intro input fields rest read
        simp [readFields] at read
  | succ rounds ih =>
      obtain ⟨values, items, fields⟩ := ih
      refine ⟨?_, ?_, ?_⟩
      · intro input value rest read
        cases input with
        | nil => simp [readValue] at read
        | cons first tail =>
            rw [readValue] at read
            split_ifs at read
            · obtain ⟨_, _, same⟩ := Option.map_eq_some_iff.mp read
              cases same
              trivial
            · split at read
              · cases read
              · split_ifs at read
                · cases read
                  trivial
                · obtain ⟨result, found, same⟩ := Option.map_eq_some_iff.mp read
                  cases same
                  exact items _ result.1 result.2 found
            · split at read
              · cases read
              · split_ifs at read
                · cases read
                  exact ⟨trivial, List.nodup_nil⟩
                · obtain ⟨result, found, same⟩ := Option.map_eq_some_iff.mp read
                  cases same
                  exact dictOf_loaded (fields _ result.1 result.2 found)
            · rw [readWord_value _ _ _ _ _ read]
              trivial
            · rw [readWord_value _ _ _ _ _ read]
              trivial
            · rw [readWord_value _ _ _ _ _ read]
              trivial
            · rw [readWord_value _ _ _ _ _ read]
              exact constant_loaded _ (by simp)
            · rw [readWord_value _ _ _ _ _ read]
              exact constant_loaded _ (by simp)
            · rcases Option.or_eq_some_iff.mp read with word | ⟨_, number⟩
              · rw [readWord_value _ _ _ _ _ word]
                exact constant_loaded _ (by simp)
              · exact readNumber_loaded floats number
      · intro input list rest read
        rw [readItems] at read
        obtain ⟨⟨item, tail⟩, first, read⟩ := Option.bind_eq_some_iff.mp read
        have head := values _ item tail first
        dsimp only at read
        split at read
        · cases read
        · split_ifs at read
          · cases read
            exact ⟨head, trivial⟩
          · obtain ⟨⟨others, after⟩, more, same⟩ := Option.bind_eq_some_iff.mp read
            cases same
            exact ⟨head, items _ others after more⟩
      · intro input list rest read
        cases input with
        | nil => simp [readFields] at read
        | cons quote input =>
            rw [readFields] at read
            split_ifs at read
            obtain ⟨⟨name, after⟩, _, read⟩ := Option.bind_eq_some_iff.mp read
            dsimp only at read
            split at read
            · cases read
            · split_ifs at read
              obtain ⟨⟨value, tail⟩, first, read⟩ := Option.bind_eq_some_iff.mp read
              have head := values _ value tail first
              dsimp only at read
              split at read
              · cases read
              · split_ifs at read
                · cases read
                  exact ⟨head, trivial⟩
                · obtain ⟨⟨others, after⟩, more, same⟩ := Option.bind_eq_some_iff.mp read
                  cases same
                  exact ⟨head, fields _ others after more⟩

/-- `loads` returns loaded values. -/
theorem loads_loaded (floats : FloatsReadBack floatRepr) {input : Bytes} {value : Json}
    (decoded : loads floatRepr input = some value) : Loaded floatRepr value := by
  obtain ⟨symbols, _, parsed⟩ := Option.bind_eq_some_iff.mp decoded
  unfold parse at parsed
  split at parsed
  next found rest read =>
    split_ifs at parsed
    cases parsed
    exact (read_loaded floats _).1 _ _ rest read
  next => cases parsed

/-- This function knows one float. -/
def oneNumeral (_ : PyStr) : PyStr := text "1.5"

theorem oneNumeral_readBack : FloatsReadBack oneNumeral := by
  intro input numeral rest read
  have written : numeral = text "1.5" := by
    unfold readNumber at read
    simp only [Option.bind_eq_bind, Option.bind_eq_some_iff] at read
    obtain ⟨_, _, read⟩ := read
    split_ifs at read <;> cases read <;> rfl
  rw [written]
  refine ⟨printable_of_all (by decide), .inr ?_⟩
  intro rest ends
  have digits := readDigits_append [] (0x2e :: 0x35 :: rest) (by simp) (by rintro symbol ⟨⟩; decide)
  have tail := readDigits_append [] rest (by simp) fun symbol head => (ends symbol head).1
  rw [List.nil_append] at digits tail
  have integer : readInteger (0x31 :: 0x2e :: 0x35 :: rest) = some ([0x31], 0x2e :: 0x35 :: rest) := by
    simp [readInteger, isDigit, digits]
  have fraction : readFraction (0x2e :: 0x35 :: rest) = ([0x2e, 0x35], rest) := by
    simp [readFraction, isDigit, tail]
  change readNumber oneNumeral (0x31 :: 0x2e :: 0x35 :: rest) = _
  simp [readNumber, integer, fraction, readExponent_of_ends rest ends]
  rfl

mutual

/-- A plain value comes back unchanged. -/
theorem backValue_of_plain : ∀ value : Json, Loaded floatRepr value → Plain value →
    backValue value = value
  | .null, _, _ => rfl
  | .bool _, _, _ => rfl
  | .int _, _, _ => rfl
  | .float _, _, _ => rfl
  | .str value, _, plain => congrArg Json.str (readBack_of_unpaired value plain)
  | .arr items, loaded, plain => congrArg Json.arr (backItems_of_plain items loaded plain)
  | .obj fields, loaded, plain => by
      have same := backFields_of_plain fields loaded.1 plain
      rw [backValue, same, dictOf_nodup fields loaded.2]

theorem backItems_of_plain : ∀ items : List Json, LoadedItems floatRepr items → PlainItems items →
    backItems items = items
  | [], _, _ => rfl
  | item :: items, loaded, plain => by
      rw [backItems, backValue_of_plain item loaded.1 plain.1,
        backItems_of_plain items loaded.2 plain.2]

theorem backFields_of_plain : ∀ fields : List (PyStr × Json), LoadedFields floatRepr fields →
    PlainFields fields → backFields fields = fields
  | [], _, _ => rfl
  | (name, value) :: fields, loaded, plain => by
      rw [backFields, readBack_of_unpaired name plain.1, backValue_of_plain value loaded.1 plain.2.1,
        backFields_of_plain fields loaded.2 plain.2.2]

end

theorem loadedItems_append {first second : List Json} (one : LoadedItems floatRepr first)
    (two : LoadedItems floatRepr second) : LoadedItems floatRepr (first ++ second) := by
  induction first with
  | nil => exact two
  | cons item first ih => exact ⟨one.1, ih one.2⟩

end Values

end EveApiCache.Json
