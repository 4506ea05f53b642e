import EveApiCache.Proof.PathGate

/-!
This file shows that no path matches two patterns of the allowlist.
-/

namespace EveApiCache

/-- A pattern reads one symbol, a run of decimals or a hash at a time. -/
inductive Token where
  | letter (symbol : CodePoint)
  | decimals
  | hash

namespace Token

def tokens : List Piece → List Token
  | [] => []
  | .literal word :: pieces => word.map letter ++ tokens pieces
  | .decimals :: pieces => decimals :: tokens pieces
  | .hash :: pieces => hash :: tokens pieces

/-- A token reads what the piece that it stands for consumes. -/
def read : Token → PyStr → Option PyStr
  | letter symbol, input => Piece.consume (.literal [symbol]) input
  | decimals, input => Piece.decimals.consume input
  | hash, input => Piece.hash.consume input

def accepts : List Token → PyStr → Bool
  | [], input => atEnd input
  | token :: rest, input => (token.read input).any (accepts rest)

/-- These are the texts that match the end of a pattern. -/
def ends : List PyStr := [[], [0x0a], [0x2f], [0x2f, 0x0a]]

/-- The two patterns read the same symbols up to the first place where what they read differs. -/
def apart : List Token → List Token → Bool
  | [], second => ends.all fun tail => !accepts second tail
  | first, [] => ends.all fun tail => !accepts first tail
  | letter one :: first, letter two :: second => one ≠ two || apart first second
  | decimals :: first, decimals :: second => apart first second
  | decimals :: _, letter two :: _ => !isDecimal two
  | letter one :: _, decimals :: _ => !isDecimal one
  | _, _ => false

theorem read_letter {symbol : CodePoint} {input rest : PyStr}
    (read : (letter symbol).read input = some rest) : input = symbol :: rest := by
  unfold Token.read Piece.consume at read
  cases input with
  | nil => simp at read
  | cons first tail =>
      by_cases same : symbol = first
      · simp [same] at read
        rw [same, read]
      · simp [same] at read

/-- A run of decimals starts with one. -/
theorem read_decimals {input rest : PyStr} (read : decimals.read input = some rest) :
    ∃ first tail, input = first :: tail ∧ isDecimal first = true := by
  unfold Token.read Piece.consume at read
  cases input with
  | nil => simp at read
  | cons first tail =>
      by_cases decimal : isDecimal first = true
      · exact ⟨first, tail, rfl, decimal⟩
      · simp [decimal] at read

theorem accepts_cons {token : Token} {rest : List Token} {input : PyStr}
    (accepted : accepts (token :: rest) input = true) :
    ∃ tail, token.read input = some tail ∧ accepts rest tail = true := by
  unfold accepts at accepted
  cases found : token.read input with
  | none =>
      rw [found] at accepted
      cases accepted
  | some tail =>
      rw [found] at accepted
      exact ⟨tail, rfl, accepted⟩

theorem mem_ends {input : PyStr} (final : atEnd input = true) : input ∈ ends := by
  simpa [atEnd, ends, or_assoc] using final

/-- A pattern that rejects every end is apart from the empty pattern. -/
theorem ends_sound {pattern : List Token} {input : PyStr}
    (rejects : ends.all (fun tail => !accepts pattern tail) = true) (final : atEnd input = true) :
    accepts pattern input = false := by
  have rejected := List.all_eq_true.mp rejects input (mem_ends final)
  simpa using rejected

/-- No text is accepted by two patterns that are apart. -/
theorem apart_sound (first second : List Token) (input : PyStr)
    (apart : apart first second = true) (accepted : accepts first input = true) :
    accepts second input = false := by
  apply Bool.eq_false_iff.mpr
  intro other
  induction first, second using Token.apart.induct generalizing input with
  | case1 second => exact Bool.false_ne_true ((ends_sound apart accepted).symm.trans other)
  | case2 first filled =>
      rw [Token.apart.eq_2 _ filled] at apart
      exact Bool.false_ne_true ((ends_sound apart other).symm.trans accepted)
  | case3 one first two second ih =>
      obtain ⟨tail, read, accepted⟩ := accepts_cons accepted
      obtain ⟨rest, again, other⟩ := accepts_cons other
      have same := (read_letter read).symm.trans (read_letter again)
      obtain ⟨rfl, rfl⟩ := List.cons.inj same
      rw [Token.apart, Bool.or_eq_true] at apart
      exact ih tail (apart.resolve_left (by simp)) accepted other
  | case4 first second ih =>
      obtain ⟨tail, read, accepted⟩ := accepts_cons accepted
      obtain ⟨rest, again, other⟩ := accepts_cons other
      obtain rfl := Option.some.inj (read.symm.trans again)
      rw [Token.apart] at apart
      exact ih tail apart accepted other
  | case5 first two second =>
      obtain ⟨tail, read, _⟩ := accepts_cons accepted
      obtain ⟨rest, again, _⟩ := accepts_cons other
      obtain ⟨symbol, more, same, decimal⟩ := read_decimals read
      rw [read_letter again] at same
      obtain ⟨rfl, rfl⟩ := List.cons.inj same
      rw [Token.apart, decimal] at apart
      cases apart
  | case6 one first second =>
      obtain ⟨tail, read, _⟩ := accepts_cons accepted
      obtain ⟨rest, again, _⟩ := accepts_cons other
      obtain ⟨symbol, more, same, decimal⟩ := read_decimals again
      rw [read_letter read] at same
      obtain ⟨rfl, rfl⟩ := List.cons.inj same
      rw [Token.apart, decimal] at apart
      cases apart
  | case7 first second _ _ _ _ _ _ =>
      rw [Token.apart.eq_7] at apart
      · cases apart
      all_goals assumption

/-- A literal is read symbol by symbol. -/
theorem accepts_literal (word : PyStr) (rest : List Token) (input : PyStr) :
    accepts (word.map letter ++ rest) input =
      (Piece.consume (.literal word) input).any (accepts rest) := by
  induction word generalizing input with
  | nil => simp [Piece.consume]
  | cons symbol word ih =>
      rw [List.map_cons, List.cons_append, accepts]
      cases input with
      | nil => simp [read, Piece.consume]
      | cons first tail =>
          by_cases same : symbol = first
          · have here : (letter symbol).read (first :: tail) = some tail := by
              simp [read, Piece.consume, same]
            rw [here, Option.any_some, ih]
            simp [Piece.consume, same]
          · simp [read, Piece.consume, same]

/-- A pattern accepts what its pieces consume up to an end. -/
theorem accepts_tokens (pieces : List Piece) (input : PyStr) :
    accepts (tokens pieces) input = (consumeAll pieces input).any atEnd := by
  induction pieces generalizing input with
  | nil => rfl
  | cons piece pieces ih =>
      unfold consumeAll
      have each : accepts (tokens pieces) = fun input => (consumeAll pieces input).any atEnd :=
        funext ih
      cases piece with
      | literal word =>
          rw [tokens, accepts_literal, each]
          cases Piece.consume (.literal word) input with
          | none => rfl
          | some rest => rfl
      | decimals =>
          rw [tokens, accepts, each, read]
          cases Piece.decimals.consume input with
          | none => rfl
          | some rest => rfl
      | hash =>
          rw [tokens, accepts, each, read]
          cases Piece.hash.consume input with
          | none => rfl
          | some rest => rfl

end Token

theorem EndpointSpec.matches_tokens (spec : EndpointSpec) (path : PyStr) :
    spec.matches path = Token.accepts (Token.tokens spec.pattern) path := by
  rw [Token.accepts_tokens, EndpointSpec.matches]
  cases consumeAll spec.pattern path with
  | none => rfl
  | some rest => rfl

/-- The patterns of the table are pairwise apart. -/
theorem endpoints_apart : endpoints.Pairwise fun one two =>
    Token.apart (Token.tokens one.pattern) (Token.tokens two.pattern) = true := by
  decide +kernel

section Single

variable {A : Type} {items : List A} {matched : A → Bool}

/-- A list whose items exclude each other has at most one match. -/
theorem filter_single
    (single : items.Pairwise fun one two => matched one = true → matched two = false) :
    items.filter matched = [] ∨ ∃ one, items.filter matched = [one] := by
  cases kept : items.filter matched with
  | nil => exact .inl rfl
  | cons one rest =>
      cases rest with
      | nil => exact .inr ⟨one, rfl⟩
      | cons two rest =>
          have pairs := single.filter matched
          rw [kept] at pairs
          have both : ∀ item ∈ one :: two :: rest, matched item = true := fun item member =>
            List.of_mem_filter (kept.symm ▸ member)
          have missed := (List.pairwise_cons.mp pairs).1 two (by simp) (both one (by simp))
          exact absurd (missed.symm.trans (both two (by simp))) Bool.false_ne_true

/-- A list with at most one match finds it in any order. -/
theorem find?_perm (single : items.Pairwise fun one two => matched one = true → matched two = false)
    {reordered : List A} (same : reordered.Perm items) :
    reordered.find? matched = items.find? matched := by
  have found := same.filter matched
  rw [← List.head?_filter, ← List.head?_filter]
  rcases filter_single single with none | ⟨one, kept⟩
  · rw [none] at found ⊢
    rw [found.eq_nil]
  · rw [kept] at found ⊢
    rw [List.perm_singleton.mp found]

end Single

/-- At most one pattern of the table matches a path, so the endpoint of a path and a method does not
depend on the order of the table. -/
theorem endpoints_unambiguous (path : PyStr) :
    (endpoints.filter fun spec => spec.matches path).length ≤ 1 ∧
      ∀ reordered : List EndpointSpec, reordered.Perm endpoints →
        ∀ (upper : PyStr → PyStr) (method : PyStr), reordered.find? (fun spec => spec.matches path &&
          (spec.methods.map Method.upper).contains (upper method)) =
            matchEndpointNamed upper path method := by
  have disjoint : endpoints.Pairwise fun one two =>
      one.matches path = true → two.matches path = false := by
    refine endpoints_apart.imp fun {one two} apart => ?_
    rw [one.matches_tokens, two.matches_tokens]
    exact Token.apart_sound _ _ path apart
  constructor
  · rcases filter_single disjoint with none | ⟨one, kept⟩
    · rw [none]
      exact Nat.zero_le 1
    · rw [kept]
      exact Nat.le_refl 1
  · intro reordered same upper method
    refine find?_perm (disjoint.imp fun {one two} unmatched both => ?_) same
    rw [Bool.and_eq_true] at both
    rw [unmatched both.1, Bool.false_and]

/-- A system is found in the reversed table, where its pattern comes before the one of all systems. -/
theorem endpoints_unambiguous_reverse :
    endpoints.reverse.find? (fun spec => spec.matches (text "/universe/systems/30000142/") &&
        (spec.methods.map Method.upper).contains (text "GET")) =
      matchEndpointNamed id (text "/universe/systems/30000142/") (text "GET") :=
  (endpoints_unambiguous (text "/universe/systems/30000142/")).2 endpoints.reverse
    (List.reverse_perm endpoints) id (text "GET")

end EveApiCache
