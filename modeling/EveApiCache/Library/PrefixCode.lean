import Mathlib.Data.List.Basic

namespace PrefixCode

variable {Value Symbol : Type}

/-- A codeword and the text after it determine the value, as long as that text begins with a
permitted stop. -/
def Delimited (valid : Value → Prop) (stop : List Symbol → Prop) (code : Value → List Symbol) :
    Prop :=
  ∀ first second rest tail, valid first → valid second → stop rest → stop tail →
    code first ++ rest = code second ++ tail → first = second ∧ rest = tail

/-- A self-delimiting code needs no stop. -/
abbrev SelfDelimiting (valid : Value → Prop) (code : Value → List Symbol) : Prop :=
  Delimited valid (fun _ => True) code

/-- A reader of single codewords makes a code self-delimiting. -/
theorem SelfDelimiting.ofReader {valid : Value → Prop} {code : Value → List Symbol}
    (read : List Symbol → Option (Value × List Symbol))
    (reads : ∀ value rest, valid value → read (code value ++ rest) = some (value, rest)) :
    SelfDelimiting valid code := by
  intro first second rest tail one two _ _ same
  have both := reads first rest one
  rw [same, reads second tail two] at both
  obtain ⟨rfl, rfl⟩ := Prod.mk.inj (Option.some.inj both)
  exact ⟨rfl, rfl⟩

theorem Delimited.injective {valid : Value → Prop} {stop : List Symbol → Prop}
    {code : Value → List Symbol} (delimited : Delimited valid stop code) (empty : stop [])
    {first second : Value} (one : valid first) (two : valid second)
    (same : code first = code second) : first = second :=
  (delimited first second [] [] one two empty empty (by simpa using same)).1

/-- A pair of codewords is delimited when the second one delimits the first. -/
theorem Delimited.append {Other : Type} {valid : Value → Prop} {validOther : Other → Prop}
    {stop inner : List Symbol → Prop} {code : Value → List Symbol} {other : Other → List Symbol}
    (first : Delimited valid inner code) (second : Delimited validOther stop other)
    (stops : ∀ value rest, validOther value → inner (other value ++ rest)) :
    Delimited (fun pair : Value × Other => valid pair.1 ∧ validOther pair.2) stop
      fun pair => code pair.1 ++ other pair.2 := by
  rintro ⟨a, b⟩ ⟨c, d⟩ rest tail ⟨validA, validB⟩ ⟨validC, validD⟩ stopRest stopTail same
  simp only [List.append_assoc] at same
  obtain ⟨heads, tails⟩ :=
    first a c _ _ validA validC (stops b rest validB) (stops d tail validD) same
  obtain ⟨others, rests⟩ := second b d rest tail validB validD stopRest stopTail tails
  exact ⟨by rw [heads, others], rests⟩

/-- A word without a stop symbol ends where the first stop symbol stands. -/
theorem delimited_ofFree (stop : Symbol) :
    Delimited (fun word : List Symbol => stop ∉ word) (fun rest => rest.head? = some stop) id := by
  intro first
  induction first with
  | nil =>
      intro second rest tail _ free stopRest _ same
      cases second with
      | nil => exact ⟨rfl, same⟩
      | cons symbol second =>
          subst same
          simp_all
  | cons symbol first ih =>
      intro second rest tail freeFirst freeSecond stopRest stopTail same
      cases second with
      | nil =>
          change symbol :: (first ++ rest) = tail at same
          subst same
          simp_all
      | cons other second =>
          obtain ⟨rfl, tails⟩ := List.cons.inj same
          obtain ⟨rfl, rfl⟩ := ih second rest tail (fun member => freeFirst (by simp [member]))
            (fun member => freeSecond (by simp [member])) stopRest stopTail tails
          exact ⟨rfl, rfl⟩

/-- A sequence of nonempty self-delimiting codewords has one reading. -/
theorem SelfDelimiting.flatMap_injective {valid : Value → Prop} {code : Value → List Symbol}
    (delimited : SelfDelimiting valid code) (nonempty : ∀ value, code value ≠ []) :
    ∀ first second : List Value, (∀ value ∈ first, valid value) → (∀ value ∈ second, valid value) →
      first.flatMap code = second.flatMap code → first = second := by
  intro first
  induction first with
  | nil =>
      intro second _ _ same
      cases second with
      | nil => rfl
      | cons value values => simp [nonempty] at same
  | cons value values ih =>
      intro second validFirst validSecond same
      cases second with
      | nil => simp [nonempty] at same
      | cons other others =>
          simp only [List.flatMap_cons] at same
          obtain ⟨rfl, tails⟩ := delimited value other _ _ (validFirst value (by simp))
            (validSecond other (by simp)) trivial trivial same
          rw [ih others (fun x member => validFirst x (by simp [member]))
            (fun x member => validSecond x (by simp [member])) tails]

end PrefixCode
