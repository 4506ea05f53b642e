import Mathlib.Logic.Basic

namespace Effects

/-- An interface lists the operations of a resource and the type of each reply. -/
structure Interface where
  Op : Type
  Reply : Op → Type

/-- A program performs operations one after the other and may stop with a failure. -/
inductive Program (I : Interface) (A : Type) where
  | done (value : A)
  | fail
  | perform (op : I.Op) (next : I.Reply op → Program I A)

namespace Program

variable {I : Interface} {A B C S : Type}

def bind (program : Program I A) (next : A → Program I B) : Program I B :=
  match program with
  | done value => next value
  | fail => fail
  | perform op rest => perform op fun reply => (rest reply).bind next

instance : Monad (Program I) where
  pure := done
  bind := bind

/-- This program performs one operation and returns its reply. -/
def call (op : I.Op) : Program I (I.Reply op) := perform op done

@[simp] theorem pure_eq (value : A) : (pure value : Program I A) = done value := rfl

@[simp] theorem done_bind (value : A) (next : A → Program I B) : done value >>= next = next value :=
  rfl

@[simp] theorem fail_bind (next : A → Program I B) : (fail : Program I A) >>= next = fail := rfl

@[simp] theorem perform_bind (op : I.Op) (rest : I.Reply op → Program I A) (next : A → Program I B) :
    perform op rest >>= next = perform op fun reply => rest reply >>= next := rfl

@[simp] theorem call_bind (op : I.Op) (next : I.Reply op → Program I B) :
    call op >>= next = perform op next := rfl

theorem bind_assoc (program : Program I A) (next : A → Program I B) (last : B → Program I C) :
    program >>= next >>= last = program >>= fun value => next value >>= last := by
  induction program with
  | done value => rfl
  | fail => rfl
  | perform op rest ih => exact congrArg (perform op) (funext ih)

/-- A run finishes with a value or stops at a failure. -/
inductive Ending (A S : Type) where
  | finished (value : A) (state : S)
  | failed (state : S)

/-- An operation that the resource refuses gives nothing. -/
abbrev Handler (I : Interface) (S : Type) := (op : I.Op) → S → Option (I.Reply op × S)

/-- The fault, if there is one, counts the operations that still succeed before it. -/
def run (handler : Handler I S) : Option Nat → Program I A → S → Ending A S
  | _, done value, state => .finished value state
  | _, fail, state => .failed state
  | some 0, perform _ _, state => .failed state
  | some (more + 1), perform op next, state =>
      match handler op state with
      | none => .failed state
      | some (reply, state) => run handler (some more) (next reply) state
  | none, perform op next, state =>
      match handler op state with
      | none => .failed state
      | some (reply, state) => run handler none (next reply) state

/-- This function runs a program without a fault and gives nothing when it fails. -/
def eval (handler : Handler I S) : Program I A → S → Option (A × S)
  | done value, state => some (value, state)
  | fail, _ => none
  | perform op next, state =>
      (handler op state).bind fun result => eval handler (next result.1) result.2

/-- Every run of the program ends well, or breaks off in a state that is still acceptable. -/
def Ensures (handler : Handler I S) (ok : A → S → Prop) (broken : S → Prop) :
    Program I A → S → Prop
  | done value, state => ok value state
  | fail, state => broken state
  | perform op next, state =>
      broken state ∧ ∀ result, handler op state = some result →
        Ensures handler ok broken (next result.1) result.2

variable {handler : Handler I S} {ok : A → S → Prop} {broken : S → Prop}

@[simp] theorem ensures_done (value : A) (state : S) :
    Ensures handler ok broken (done value) state ↔ ok value state := Iff.rfl

@[simp] theorem ensures_fail (state : S) :
    Ensures handler ok broken (fail : Program I A) state ↔ broken state := Iff.rfl

@[simp] theorem ensures_perform (op : I.Op) (next : I.Reply op → Program I A) (state : S) :
    Ensures handler ok broken (perform op next) state ↔
      broken state ∧ ∀ result, handler op state = some result →
        Ensures handler ok broken (next result.1) result.2 := Iff.rfl

/-- A sequence of programs ensures what the second ensures after the first. -/
theorem ensures_bind {ok : B → S → Prop} (program : Program I A) (next : A → Program I B)
    (state : S) :
    Ensures handler ok broken (program >>= next) state ↔
      Ensures handler (fun value state => Ensures handler ok broken (next value) state) broken
        program state := by
  induction program generalizing state with
  | done value => rfl
  | fail => rfl
  | perform op rest ih =>
      rw [perform_bind, ensures_perform, ensures_perform]
      exact and_congr_right fun _ => forall_congr' fun result => imp_congr_right fun _ =>
        ih result.1 result.2

theorem Ensures.mono {stronger : A → S → Prop} {brokenStronger : S → Prop}
    {program : Program I A} {state : S}
    (ensured : Ensures handler stronger brokenStronger program state)
    (implies : ∀ value state, stronger value state → ok value state)
    (impliesBroken : ∀ state, brokenStronger state → broken state) :
    Ensures handler ok broken program state := by
  induction program generalizing state with
  | done value => exact implies value state ensured
  | fail => exact impliesBroken state ensured
  | perform op next ih =>
      exact ⟨impliesBroken state ensured.1, fun result moved => ih _ (ensured.2 result moved)⟩

/-- A program ensures two things at once. -/
theorem Ensures.and {other : A → S → Prop} {brokenOther : S → Prop} {program : Program I A} {state : S}
    (one : Ensures handler ok broken program state)
    (two : Ensures handler other brokenOther program state) :
    Ensures handler (fun value final => ok value final ∧ other value final)
      (fun final => broken final ∧ brokenOther final) program state := by
  induction program generalizing state with
  | done value => exact ⟨one, two⟩
  | fail => exact ⟨one, two⟩
  | perform op next ih =>
      exact ⟨⟨one.1, two.1⟩, fun result moved => ih _ (one.2 result moved) (two.2 result moved)⟩

/-- A run with any fault ends as the program ensures. -/
theorem run_of_ensures (fault : Option Nat) (program : Program I A) (state : S)
    (ensured : Ensures handler ok broken program state) :
    match run handler fault program state with
    | .finished value final => ok value final
    | .failed final => broken final := by
  induction program generalizing state fault with
  | done value => cases fault <;> exact ensured
  | fail => cases fault <;> exact ensured
  | perform op next ih =>
      obtain ⟨stopped, continues⟩ := ensured
      rcases fault with _ | _ | more
      · rw [run]
        cases moved : handler op state with
        | none => exact stopped
        | some result => exact ih _ _ _ (continues result moved)
      · exact stopped
      · rw [run]
        cases moved : handler op state with
        | none => exact stopped
        | some result => exact ih _ _ _ (continues result moved)

/-- A fault that never strikes leaves the run without a fault. -/
theorem eval_of_run (fault : Option Nat) (program : Program I A) (state final : S) (value : A)
    (finished : run handler fault program state = .finished value final) :
    eval handler program state = some (value, final) := by
  induction program generalizing state fault with
  | done other =>
      rw [run] at finished
      cases finished
      rfl
  | fail =>
      rw [run] at finished
      cases finished
  | perform op next ih =>
      rcases fault with _ | _ | more
      · rw [run] at finished
        cases moved : handler op state with
        | none =>
            rw [moved] at finished
            cases finished
        | some result =>
            rw [moved] at finished
            rw [eval, moved]
            exact ih _ _ _ finished
      · cases finished
      · rw [run] at finished
        cases moved : handler op state with
        | none =>
            rw [moved] at finished
            cases finished
        | some result =>
            rw [moved] at finished
            rw [eval, moved]
            exact ih _ _ _ finished

theorem run_of_eval (program : Program I A) (state final : S) (value : A)
    (evaluated : eval handler program state = some (value, final)) :
    run handler none program state = .finished value final := by
  induction program generalizing state with
  | done other =>
      cases evaluated
      rfl
  | fail => cases evaluated
  | perform op next ih =>
      obtain ⟨result, moved, rest⟩ := Option.bind_eq_some_iff.mp evaluated
      rw [run, moved]
      exact ih _ _ rest

/-- A completed evaluation ends as the program ensures. -/
theorem Ensures.eval {program : Program I A} {state final : S} {value : A}
    (ensured : Ensures handler ok broken program state)
    (evaluated : eval handler program state = some (value, final)) : ok value final := by
  have ended := run_of_ensures none program state ensured
  rw [run_of_eval program state final value evaluated] at ended
  exact ended

@[simp] theorem eval_call (op : I.Op) (state : S) :
    Program.eval handler (call op) state = handler op state := by
  change ((handler op state).bind fun result => some (result.1, result.2)) = handler op state
  cases handler op state <;> rfl

theorem eval_bind (program : Program I A) (next : A → Program I B) (state : S) :
    eval handler (program >>= next) state =
      (eval handler program state).bind fun result => eval handler (next result.1) result.2 := by
  induction program generalizing state with
  | done value => rfl
  | fail => rfl
  | perform op rest ih =>
      rw [perform_bind, eval, eval, Option.bind_assoc]
      exact congrArg _ (funext fun result => ih _ _)

/-- Every operation that the program can reach, whatever the replies, is of one kind. -/
def Only (kind : I.Op → Prop) : Program I A → Prop
  | done _ => True
  | fail => True
  | perform op next => kind op ∧ ∀ reply, Only kind (next reply)

@[simp] theorem only_done (kind : I.Op → Prop) (value : A) : Only kind (done value : Program I A) :=
  trivial

@[simp] theorem only_fail (kind : I.Op → Prop) : Only kind (fail : Program I A) := trivial

@[simp] theorem only_perform (kind : I.Op → Prop) (op : I.Op) (next : I.Reply op → Program I A) :
    Only kind (perform op next) ↔ kind op ∧ ∀ reply, Only kind (next reply) := Iff.rfl

theorem Only.bind {kind : I.Op → Prop} {program : Program I A} {next : A → Program I B}
    (first : Only kind program) (second : ∀ value, Only kind (next value)) :
    Only kind (program >>= next) := by
  induction program with
  | done value => exact second value
  | fail => trivial
  | perform op rest ih => exact ⟨first.1, fun reply => ih reply (first.2 reply)⟩

/-- At every operation that the program can reach, the operation and its continuation have a shape. -/
def Always (shape : (op : I.Op) → (I.Reply op → Program I A) → Prop) : Program I A → Prop
  | done _ => True
  | fail => True
  | perform op next => shape op next ∧ ∀ reply, Always shape (next reply)

/-- Whatever the replies, the program ends after at most so many operations. -/
def Within : Nat → Program I A → Prop
  | _, done _ => True
  | _, fail => True
  | 0, perform _ _ => False
  | more + 1, perform _ next => ∀ reply, Within more (next reply)

@[simp] theorem within_done (limit : Nat) (value : A) : Within limit (done value : Program I A) := by
  cases limit <;> trivial

@[simp] theorem within_fail (limit : Nat) : Within limit (fail : Program I A) := by
  cases limit <;> trivial

@[simp] theorem within_perform (more : Nat) (op : I.Op) (next : I.Reply op → Program I A) :
    Within (more + 1) (perform op next) ↔ ∀ reply, Within more (next reply) := Iff.rfl

/-- A program that performs an operation had one left. -/
theorem Within.reply {limit : Nat} {op : I.Op} {next : I.Reply op → Program I A}
    (bounded : Within limit (perform op next)) (reply : I.Reply op) :
    ∃ more, limit = more + 1 ∧ Within more (next reply) := by
  cases limit with
  | zero => exact bounded.elim
  | succ more => exact ⟨more, rfl, bounded reply⟩

theorem Within.mono {less more : Nat} {program : Program I A} (bounded : Within less program)
    (fewer : less ≤ more) : Within more program := by
  induction program generalizing less more with
  | done value => exact within_done more value
  | fail => exact within_fail more
  | perform op next ih =>
      cases less with
      | zero => exact bounded.elim
      | succ rest =>
          obtain ⟨further, rfl⟩ := Nat.exists_eq_add_of_lt fewer
          exact fun reply => ih reply (bounded reply) (by omega)

/-- A sequence performs the operations of both programs. -/
theorem Within.bind {first second : Nat} {program : Program I A} {next : A → Program I B}
    (bounded : Within first program) (continues : ∀ value, Within second (next value)) :
    Within (first + second) (program >>= next) := by
  induction program generalizing first with
  | done value => exact (continues value).mono (by omega)
  | fail => exact within_fail _
  | perform op rest ih =>
      cases first with
      | zero => exact bounded.elim
      | succ more =>
          rw [perform_bind, Nat.succ_add]
          exact fun reply => ih reply (bounded reply)

/-- A property that each operation of the kind preserves holds wherever the program stops. -/
theorem ensures_of_only (handler : Handler I S) {kind : I.Op → Prop} (holds : S → Prop)
    (preserved : ∀ op state result, kind op → holds state → handler op state = some result →
      holds result.2)
    {program : Program I A} {state : S} (only : Only kind program) (start : holds state) :
    Ensures handler (fun _ final => holds final) holds program state := by
  induction program generalizing state with
  | done value => exact start
  | fail => exact start
  | perform op next ih =>
      exact ⟨start, fun result moved => ih result.1 (only.2 result.1)
        (preserved op state result only.1 start moved)⟩

/-- This function changes the state in which a run ends. -/
def Ending.map (change : S → S) : Ending A S → Ending A S
  | .finished value state => .finished value (change state)
  | .failed state => .failed (change state)

/-- A change of state that every operation of the program respects commutes with its runs. -/
theorem run_changed (handler : Handler I S) {kind : I.Op → Prop} (change : S → S)
    (respects : ∀ op state, kind op → handler op (change state) =
      (handler op state).map fun result => (result.1, change result.2))
    (fault : Option Nat) {program : Program I A} (only : Only kind program) (state : S) :
    run handler fault program (change state) = (run handler fault program state).map change := by
  induction program generalizing state fault with
  | done value => cases fault <;> rfl
  | fail => cases fault <;> rfl
  | perform op next ih =>
      have same := respects op state only.1
      rcases fault with _ | _ | more
      · rw [run, run, same]
        cases handler op state with
        | none => rfl
        | some result => exact ih _ _ (only.2 _) _
      · rfl
      · rw [run, run, same]
        cases handler op state with
        | none => rfl
        | some result => exact ih _ _ (only.2 _) _

end Program

end Effects
