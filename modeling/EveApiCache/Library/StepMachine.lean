import Mathlib.Logic.Relation
import Mathlib.Tactic.SplitIfs

namespace StepMachine

/-- A machine gives each action a partial step from the current state. -/
structure Machine (State Action : Type) where
  initial : State → Prop
  step : State → Action → Option State

variable {State Action : Type} (machine : Machine State Action)

/-- A guarded state is reached by steps that all satisfy the guard in the state before. -/
inductive Machine.Guarded (guard : State → Action → Prop) : State → Prop where
  | start {state : State} (initial : machine.initial state) : Machine.Guarded guard state
  | step {state next : State} {action : Action} (before : Machine.Guarded guard state)
      (allowed : guard state action) (moved : machine.step state action = some next) :
      Machine.Guarded guard next

/-- A reachable state is reached by any steps of the machine. -/
abbrev Machine.Reachable : State → Prop := machine.Guarded fun _ _ => True

/-- The machine leads from one state to another by some sequence of actions. -/
def Machine.Leads : State → State → Prop :=
  Relation.ReflTransGen fun state next => ∃ action, machine.step state action = some next

/-- This function executes a schedule and stops at the first disabled action. -/
def Machine.run (state : State) : List Action → Option State
  | [] => some state
  | action :: rest => (machine.step state action).bind fun next => Machine.run next rest

@[simp] theorem Machine.run_nil (state : State) : machine.run state [] = some state := rfl

@[simp] theorem Machine.run_cons (state : State) (action : Action) (rest : List Action) :
    machine.run state (action :: rest) =
      (machine.step state action).bind fun next => machine.run next rest := rfl

/-- A machine that completes a schedule first completes its beginning. -/
theorem Machine.run_append (state : State) (first second : List Action) :
    machine.run state (first ++ second) =
      (machine.run state first).bind fun middle => machine.run middle second := by
  induction first generalizing state with
  | nil => rfl
  | cons action rest ih =>
      rw [List.cons_append, run_cons, run_cons, Option.bind_assoc]
      exact Option.bind_congr fun next _ => ih next

/-- A property of the initial states that every allowed step preserves holds in every guarded state. -/
theorem Machine.Guarded.invariant {machine : Machine State Action}
    {guard : State → Action → Prop} (holds : State → Prop)
    (initially : ∀ state, machine.initial state → holds state)
    (preserved : ∀ state action next, holds state → guard state action →
      machine.step state action = some next → holds next)
    {state : State} (reached : machine.Guarded guard state) : holds state := by
  induction reached with
  | start initial => exact initially _ initial
  | step _ allowed moved ih => exact preserved _ _ _ ih allowed moved

/-- A stronger guard reaches fewer states. -/
theorem Machine.Guarded.mono {machine : Machine State Action}
    {strong weak : State → Action → Prop}
    (implies : ∀ state action, strong state action → weak state action)
    {state : State} (reached : machine.Guarded strong state) : machine.Guarded weak state := by
  induction reached with
  | start initial => exact .start initial
  | step _ allowed moved ih => exact .step ih (implies _ _ allowed) moved

/-- Every guarded state is reachable. -/
theorem Machine.Guarded.reachable {machine : Machine State Action}
    {guard : State → Action → Prop} {state : State} (reached : machine.Guarded guard state) :
    machine.Reachable state :=
  reached.mono fun _ _ _ => trivial

/-- This machine goes on from one state. -/
def Machine.after (state : State) : Machine State Action :=
  { machine with initial := fun other => other = state }

/-- A machine runs a schedule in the same way from wherever it starts. -/
theorem Machine.run_after (origin state : State) (schedule : List Action) :
    (machine.after origin).run state schedule = machine.run state schedule := by
  induction schedule generalizing state with
  | nil => rfl
  | cons action rest ih => exact Option.bind_congr fun next _ => ih next

/-- A guarded run that goes on from a guarded state is a guarded run. -/
theorem Machine.Guarded.continue {machine : Machine State Action} {guard : State → Action → Prop}
    {state final : State} (reached : machine.Guarded guard state)
    (later : (machine.after state).Guarded guard final) : machine.Guarded guard final := by
  induction later with
  | start initial =>
      cases initial
      exact reached
  | step _ allowed moved ih => exact .step ih allowed moved

/-- Every step of a schedule satisfies the guard in the state before it. -/
def Machine.Allowed (guard : State → Action → Prop) : State → List Action → Prop
  | _, [] => True
  | state, action :: rest => guard state action ∧
      ∀ next, machine.step state action = some next → Machine.Allowed guard next rest

/-- A completed schedule of allowed steps ends in a guarded state. -/
theorem Machine.Guarded.run {machine : Machine State Action} {guard : State → Action → Prop}
    {state final : State} (reached : machine.Guarded guard state) (schedule : List Action)
    (allowed : machine.Allowed guard state schedule)
    (completed : machine.run state schedule = some final) : machine.Guarded guard final := by
  induction schedule generalizing state with
  | nil =>
      cases completed
      exact reached
  | cons action rest ih =>
      obtain ⟨next, moved, tail⟩ := Option.bind_eq_some_iff.mp completed
      exact ih (.step reached allowed.1 moved) (allowed.2 next moved) tail

/-- This function executes a schedule and stops at the first action that the check refuses. -/
def Machine.runIf (check : State → Action → Bool) (state : State) : List Action → Option State
  | [] => some state
  | action :: rest =>
      if check state action then
        (machine.step state action).bind fun next => Machine.runIf check next rest
      else none

theorem Machine.runIf_append (check : State → Action → Bool) (state : State) (first second : List Action) :
    machine.runIf check state (first ++ second) =
      (machine.runIf check state first).bind fun middle => machine.runIf check middle second := by
  induction first generalizing state with
  | nil => rfl
  | cons action rest ih =>
      rw [List.cons_append, Machine.runIf, Machine.runIf]
      split_ifs
      · rw [Option.bind_assoc]
        exact Option.bind_congr fun next _ => ih next
      · rfl

/-- A completed schedule of checked actions ends in a guarded state. -/
theorem Machine.Guarded.runIf {machine : Machine State Action} {guard : State → Action → Prop}
    {check : State → Action → Bool} {state final : State} (reached : machine.Guarded guard state)
    (schedule : List Action)
    (sound : ∀ action ∈ schedule, ∀ state, check state action = true → guard state action)
    (completed : machine.runIf check state schedule = some final) : machine.Guarded guard final := by
  induction schedule generalizing state with
  | nil =>
      cases completed
      exact reached
  | cons action rest ih =>
      unfold Machine.runIf at completed
      split_ifs at completed with checked
      obtain ⟨next, moved, tail⟩ := Option.bind_eq_some_iff.mp completed
      exact ih (.step reached (sound action (by simp) state checked) moved)
        (fun other member => sound other (by simp [member])) tail

/-- A completed schedule ends in a reachable state. -/
theorem Machine.Reachable.run {machine : Machine State Action} {state final : State}
    (reached : machine.Reachable state) (schedule : List Action)
    (completed : machine.run state schedule = some final) : machine.Reachable final := by
  refine Machine.Guarded.run reached schedule ?_ completed
  clear reached completed
  induction schedule generalizing state with
  | nil => trivial
  | cons action rest ih => exact ⟨trivial, fun _ _ => ih⟩

/-- A relation that every step keeps extends to whole runs. -/
theorem Machine.Leads.keeps {machine : Machine State Action} (holds : State → Prop)
    (relates : State → State → Prop)
    (reflexive : ∀ state, relates state state)
    (transitive : ∀ first middle last, relates first middle → relates middle last →
      relates first last)
    (preserved : ∀ state action next, holds state → machine.step state action = some next →
      holds next ∧ relates state next)
    {state final : State} (start : holds state) (leads : machine.Leads state final) :
    holds final ∧ relates state final := by
  induction leads with
  | refl => exact ⟨start, reflexive state⟩
  | tail _ moved ih =>
      obtain ⟨action, moved⟩ := moved
      obtain ⟨kept, related⟩ := preserved _ action _ ih.1 moved
      exact ⟨kept, transitive _ _ _ ih.2 related⟩

end StepMachine
