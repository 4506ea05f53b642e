import EveApiCache.Library.Program

/-!
This file relates a program to a later run that repeats it. Between the two runs the state grows, and
the repetition only touches what it finds.
-/

namespace Effects

/-- A repetition says how a state grows between two runs and what a repeated run may touch. The second
run begins in a steady state. -/
structure Repetition (I : Interface) (S : Type) where
  handler : Program.Handler I S
  grows : S → S → Prop
  touches : S → S → Prop
  steady : S → Prop
  grows_refl : ∀ state, grows state state
  grows_trans : ∀ {first second third}, grows first second → grows second third → grows first third
  grows_step : ∀ op state result, handler op state = some result → grows state result.2
  touches_refl : ∀ state, touches state state
  touches_trans : ∀ {first second third}, touches first second → touches second third →
    touches first third
  touches_grows : ∀ {before after}, touches before after → grows before after
  steady_touched : ∀ {before after}, steady before → touches before after → steady after

namespace Program

variable {I : Interface} {A B S : Type} (repetition : Repetition I S)

/-- When the first program has completed, the second one gives the same value in every steady state that
has grown from there, and it touches at most what it finds. -/
def Repeats (before : S → Prop) (after : A → S → Prop) (first again : Program I A) : Prop :=
  ∀ start value middle later, before start →
    first.eval repetition.handler start = some (value, middle) → repetition.grows middle later →
      repetition.steady later → after value middle ∧
        ∃ final, again.eval repetition.handler later = some (value, final) ∧
          repetition.touches later final

variable {repetition}

/-- A completed program has let the state grow. -/
theorem eval_grows {program : Program I A} {start final : S} {value : A}
    (completed : program.eval repetition.handler start = some (value, final)) :
    repetition.grows start final := by
  induction program generalizing start with
  | done other =>
      cases completed
      exact repetition.grows_refl _
  | fail => cases completed
  | perform op next ih =>
      obtain ⟨result, moved, rest⟩ := Option.bind_eq_some_iff.mp completed
      exact repetition.grows_trans (repetition.grows_step op start result moved) (ih result.1 rest)

theorem repeats_done {before : S → Prop} {after : A → S → Prop} {value : A}
    (promised : ∀ state, before state → after value state) :
    Repeats repetition before after (done value : Program I A) (done value) := by
  intro start _ _ later holds completed _ _
  cases completed
  exact ⟨promised _ holds, later, rfl, repetition.touches_refl later⟩

theorem repeats_fail {before : S → Prop} {after : A → S → Prop} {again : Program I A} :
    Repeats repetition before after (fail : Program I A) again := by
  intro _ _ _ _ _ completed _ _
  cases completed

/-- A sequence is repeated part by part. -/
theorem Repeats.bind {before : S → Prop} {between : A → S → Prop} {after : B → S → Prop}
    {first again : Program I A} {next nextAgain : A → Program I B}
    (one : Repeats repetition before between first again)
    (two : ∀ value, Repeats repetition (between value) after (next value) (nextAgain value)) :
    Repeats repetition before after (first >>= next) (again >>= nextAgain) := by
  intro start value final later holds completed grown steady
  rw [eval_bind] at completed
  obtain ⟨⟨found, middle⟩, evaluated, rest⟩ := Option.bind_eq_some_iff.mp completed
  have early := repetition.grows_trans (eval_grows rest) grown
  obtain ⟨known, left, repeated, touched⟩ := one start found middle later holds evaluated early steady
  obtain ⟨promised, last, again, further⟩ := two found middle value final left known rest
    (repetition.grows_trans grown (repetition.touches_grows touched))
    (repetition.steady_touched steady touched)
  refine ⟨promised, last, ?_, repetition.touches_trans touched further⟩
  rw [eval_bind, repeated]
  exact again

/-- A completed program keeps its promise without a repetition. -/
theorem Repeats.promised {before : S → Prop} {after : A → S → Prop} {first again : Program I A}
    (repeats : Repeats repetition before after first again) {start middle : S} {value : A}
    (holds : before start) (completed : first.eval repetition.handler start = some (value, middle))
    (steady : repetition.steady middle) : after value middle :=
  (repeats start value middle middle holds completed (repetition.grows_refl middle) steady).1

/-- A property that survives the growth of the state is kept along the way. -/
theorem Repeats.keep {before : S → Prop} {after : A → S → Prop} {first again : Program I A}
    (repeats : Repeats repetition before after first again) (holds : S → Prop)
    (survives : ∀ state next, repetition.grows state next → holds state → holds next) :
    Repeats repetition (fun state => before state ∧ holds state)
      (fun value state => after value state ∧ holds state) first again := by
  intro start value middle later known completed grown steady
  obtain ⟨promised, rest⟩ := repeats start value middle later known.1 completed grown steady
  exact ⟨⟨promised, survives _ _ (eval_grows completed) known.2⟩, rest⟩

theorem Repeats.weaken {before stronger : S → Prop} {after weaker : A → S → Prop}
    {first again : Program I A} (repeats : Repeats repetition before after first again)
    (implies : ∀ state, stronger state → before state)
    (promises : ∀ value state, after value state → weaker value state) :
    Repeats repetition stronger weaker first again := by
  intro start value middle later holds completed grown steady
  obtain ⟨promised, rest⟩ := repeats start value middle later (implies start holds) completed grown steady
  exact ⟨promises value middle promised, rest⟩

end Program

end Effects
