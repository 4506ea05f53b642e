import EveApiCache.Library.Program

/-!
This file states what a program promises at each of its operations while an environment changes the
state between them.
-/

namespace Effects.Program

variable {I : Interface} {A B S : Type}

/-- The environment moves the state as the rely allows before each operation. The program then performs
only permitted operations, and it ends as it should. -/
def Guarantees (handler : Handler I S) (rely : S → S → Prop) (permitted : I.Op → S → Prop)
    (ok : A → S → Prop) : Program I A → S → Prop
  | done value, state => ok value state
  | fail, _ => True
  | perform op next, state => ∀ later, rely state later → permitted op later ∧
      ∀ result, handler op later = some result →
        Guarantees handler rely permitted ok (next result.1) result.2

variable {handler : Handler I S} {rely : S → S → Prop} {permitted : I.Op → S → Prop}
  {ok : A → S → Prop}

@[simp] theorem guarantees_done (value : A) (state : S) :
    Guarantees handler rely permitted ok (done value) state ↔ ok value state := Iff.rfl

@[simp] theorem guarantees_fail (state : S) :
    Guarantees handler rely permitted ok (fail : Program I A) state ↔ True := Iff.rfl

@[simp] theorem guarantees_perform (op : I.Op) (next : I.Reply op → Program I A) (state : S) :
    Guarantees handler rely permitted ok (perform op next) state ↔
      ∀ later, rely state later → permitted op later ∧
        ∀ result, handler op later = some result →
          Guarantees handler rely permitted ok (next result.1) result.2 := Iff.rfl

/-- A sequence of programs guarantees what the second guarantees after the first. -/
theorem guarantees_bind {ok : B → S → Prop} (program : Program I A) (next : A → Program I B)
    (state : S) :
    Guarantees handler rely permitted ok (program >>= next) state ↔
      Guarantees handler rely permitted
        (fun value state => Guarantees handler rely permitted ok (next value) state) program state := by
  induction program generalizing state with
  | done value => rfl
  | fail => rfl
  | perform op rest ih =>
      rw [perform_bind, guarantees_perform, guarantees_perform]
      exact forall_congr' fun later => imp_congr_right fun _ => and_congr_right fun _ =>
        forall_congr' fun result => imp_congr_right fun _ => ih result.1 result.2

theorem Guarantees.mono {stronger : A → S → Prop} {program : Program I A} {state : S}
    (promised : Guarantees handler rely permitted stronger program state)
    (implies : ∀ value state, stronger value state → ok value state) :
    Guarantees handler rely permitted ok program state := by
  induction program generalizing state with
  | done value => exact implies value state promised
  | fail => trivial
  | perform op next ih =>
      exact fun later moved => ⟨(promised later moved).1, fun result performed =>
        ih result.1 ((promised later moved).2 result performed)⟩

/-- The environment breaks no promise when a good ending survives it. -/
theorem Guarantees.later (transitive : ∀ first second third, rely first second → rely second third →
      rely first third)
    (stable : ∀ value state later, ok value state → rely state later → ok value later)
    {program : Program I A} {state later : S}
    (promised : Guarantees handler rely permitted ok program state) (moved : rely state later) :
    Guarantees handler rely permitted ok program later := by
  cases program with
  | done value => exact stable value state later promised moved
  | fail => trivial
  | perform op next => exact fun last again => promised last (transitive _ _ _ moved again)

/-- A fact that neither the environment nor an operation destroys may justify the operations. -/
theorem Guarantees.using {weaker : I.Op → S → Prop} (fact : S → Prop)
    (survives : ∀ state later, fact state → rely state later → fact later)
    (kept : ∀ op state result, fact state → handler op state = some result → fact result.2)
    (justified : ∀ op state, fact state → weaker op state → permitted op state)
    {program : Program I A} {state : S}
    (promised : Guarantees handler rely weaker ok program state) (start : fact state) :
    Guarantees handler rely permitted (fun value state => ok value state ∧ fact state) program
      state := by
  induction program generalizing state with
  | done value => exact ⟨promised, start⟩
  | fail => trivial
  | perform op next ih =>
      intro later moved
      have holds := survives state later start moved
      exact ⟨justified op later holds (promised later moved).1, fun result performed =>
        ih result.1 ((promised later moved).2 result performed) (kept op later result holds performed)⟩

/-- A program whose operations are permitted everywhere promises nothing more. -/
theorem guarantees_of_only {kind : I.Op → Prop} (always : ∀ op state, kind op → permitted op state)
    {program : Program I A} (only : Only kind program) (state : S) :
    Guarantees handler rely permitted (fun _ _ => True) program state := by
  induction program generalizing state with
  | done value => trivial
  | fail => trivial
  | perform op next ih =>
      exact fun later _ => ⟨always op later only.1, fun result _ => ih result.1 (only.2 result.1) result.2⟩

/-- One operation guarantees what holds after it. -/
theorem guarantees_call {op : I.Op} {ok : I.Reply op → S → Prop} {state : S}
    (allowed : ∀ later, rely state later → permitted op later)
    (after : ∀ later, rely state later → ∀ result, handler op later = some result →
      ok result.1 result.2) :
    Guarantees handler rely permitted ok (call op) state :=
  fun later moved => ⟨allowed later moved, after later moved⟩

/-- Every value that the program can return satisfies a property. -/
def Returns (ok : A → Prop) : Program I A → Prop
  | done value => ok value
  | fail => True
  | perform _ next => ∀ reply, Returns ok (next reply)

theorem Returns.bind {ok : A → Prop} {good : B → Prop} {program : Program I A}
    {next : A → Program I B} (first : Returns ok program)
    (second : ∀ value, ok value → Returns good (next value)) : Returns good (program >>= next) := by
  induction program with
  | done value => exact second value first
  | fail => trivial
  | perform op rest ih => exact fun reply => ih reply (first reply)

theorem returns_all (program : Program I A) : Returns (fun _ => True) program := by
  induction program with
  | done value => trivial
  | fail => trivial
  | perform op rest ih => exact ih

/-- A shape that operations of one kind always have also holds of what follows them. -/
theorem always_bind {shape : (op : I.Op) → (I.Reply op → Program I B) → Prop} {kind : I.Op → Prop}
    (shaped : ∀ op next, kind op → shape op next) {ok : A → Prop} {program : Program I A}
    {next : A → Program I B} (only : Only kind program) (returned : Returns ok program)
    (second : ∀ value, ok value → Always shape (next value)) : Always shape (program >>= next) := by
  induction program with
  | done value => exact second value returned
  | fail => trivial
  | perform op rest ih => exact ⟨shaped op _ only.1, fun reply => ih reply (only.2 reply) (returned reply)⟩

theorem always_of_only {shape : (op : I.Op) → (I.Reply op → Program I A) → Prop} {kind : I.Op → Prop}
    (shaped : ∀ op next, kind op → shape op next) {program : Program I A} (only : Only kind program) :
    Always shape program := by
  induction program with
  | done value => trivial
  | fail => trivial
  | perform op next ih => exact ⟨shaped op next only.1, fun reply => ih reply (only.2 reply)⟩

end Effects.Program
