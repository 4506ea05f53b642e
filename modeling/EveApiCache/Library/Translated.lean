import EveApiCache.Library.Concurrent

/-!
This file holds systems that meet finer circumstances than another one.
-/

namespace Effects.System
open StepMachine

variable {I : Interface} {A Shared Entry Circumstance Finer Event : Type}
  (system : System I A Shared Entry Circumstance Event)
  (translate : Finer → I.Op → Option Circumstance)

/-- In this system each finer circumstance of an operation is one that the old system knows. -/
def translated : System I A Shared Entry Finer Event where
  launch := system.launch
  perform finer op shared := (translate finer op).bind fun known => system.perform known op shared
  outside := system.outside

/-- This function gives the action that the old system sees. -/
def known (pool : Pool I A Shared) :
    PoolAction Entry Finer Event → Option (PoolAction Entry Circumstance Event)
  | .start thread entry => some (.start thread entry)
  | .proceed thread finer =>
      match pool.threads thread with
      | some (.perform op _) => (translate finer op).map (.proceed thread)
      | _ => none
  | .outside event => some (.outside event)

/-- A step is the step of the old system for the action that it sees. -/
theorem translated_step (pool : Pool I A Shared) (action : PoolAction Entry Finer Event) :
    (system.translated translate).step pool action =
      (known translate pool action).bind (system.step pool) := by
  cases action with
  | start thread entry => rfl
  | outside event => rfl
  | proceed thread finer =>
      unfold step known
      dsimp only
      cases found : pool.threads thread with
      | none => rfl
      | some program =>
          cases program with
          | done value => rfl
          | fail => rfl
          | perform op next =>
              dsimp only [translated]
              cases translate finer op with
              | none => rfl
              | some circumstance => simp [found]

/-- A thread before an operation meets the circumstance that its finer one is for the operation. -/
theorem known_proceed {pool : Pool I A Shared} {thread : Nat} {finer : Finer} {op : I.Op}
    {next : I.Reply op → Program I A} {circumstance : Circumstance}
    (standing : pool.threads thread = some (.perform op next))
    (translates : translate finer op = some circumstance) :
    (known translate pool (.proceed thread finer) : Option (PoolAction Entry Circumstance Event)) =
      some (.proceed thread circumstance) := by
  unfold known
  dsimp only
  rw [standing]
  dsimp only
  rw [translates]
  rfl

variable {system translate}

/-- A guarded run is a run of the old system whose actions meet every guard that the finer one
implies. -/
theorem translated_guarded {finer : Pool I A Shared → PoolAction Entry Finer Event → Prop}
    {guard : Pool I A Shared → PoolAction Entry Circumstance Event → Prop}
    (implies : ∀ pool action other, finer pool action →
      known translate pool action = some other → guard pool other)
    {machine : Machine (Pool I A Shared) (PoolAction Entry Finer Event)}
    {old : Machine (Pool I A Shared) (PoolAction Entry Circumstance Event)}
    (initially : ∀ pool, machine.initial pool → old.initial pool)
    (steps : machine.step = (system.translated translate).step) (before : old.step = system.step)
    {pool : Pool I A Shared} (reached : machine.Guarded finer pool) : old.Guarded guard pool := by
  induction reached with
  | start initial => exact .start (initially _ initial)
  | step _ allowed moved ih =>
      rw [steps, translated_step] at moved
      obtain ⟨other, sees, moved⟩ := Option.bind_eq_some_iff.mp moved
      rw [← before] at moved
      exact .step ih (implies _ _ _ allowed sees) moved

end Effects.System
