import Mathlib.Data.List.Nodup
import Mathlib.Data.List.Perm.Basic

/-!
This file holds a semaphore whose permits go to its waiters in order.
-/

namespace FairSemaphore

/-- A granted waiter holds a permit and has not run since. -/
structure Semaphore (Task : Type) where
  value : Nat
  waiting : List Task := []
  granted : List Task := []
  deriving DecidableEq

variable {Task : Type}

namespace Semaphore

/-- A task that finds a waiter waits behind it. -/
def locked (semaphore : Semaphore Task) : Bool :=
  semaphore.value = 0 || !semaphore.waiting.isEmpty || !semaphore.granted.isEmpty

def take (semaphore : Semaphore Task) : Semaphore Task :=
  { semaphore with value := semaphore.value - 1 }

def enqueue (semaphore : Semaphore Task) (task : Task) : Semaphore Task :=
  { semaphore with waiting := semaphore.waiting ++ [task] }

/-- This function gives the free permits to the first waiters. -/
def handOut : Nat → List Task → List Task → Semaphore Task
  | free + 1, task :: rest, granted => handOut free rest (granted ++ [task])
  | free, waiting, granted => ⟨free, waiting, granted⟩

/-- A released permit goes to the first waiter. -/
def release (semaphore : Semaphore Task) : Semaphore Task :=
  match semaphore.waiting with
  | [] => { semaphore with value := semaphore.value + 1 }
  | task :: rest => { semaphore with waiting := rest, granted := semaphore.granted ++ [task] }

/-- A granted waiter runs and wakes the next ones while permits are free. -/
def resume [DecidableEq Task] (semaphore : Semaphore Task) (task : Task) : Semaphore Task :=
  handOut semaphore.value semaphore.waiting (semaphore.granted.erase task)

/-- These are the tasks that have not run since they began to wait. -/
def queued (semaphore : Semaphore Task) : List Task := semaphore.waiting ++ semaphore.granted

end Semaphore

/-- Free, granted and held permits add up to the capacity, and a task waits only while no permit is
free or a granted one is about to run. -/
structure Fair (capacity held : Nat) (semaphore : Semaphore Task) : Prop where
  balance : semaphore.value + semaphore.granted.length + held = capacity
  served : semaphore.waiting ≠ [] → semaphore.value = 0 ∨ semaphore.granted ≠ []
  distinct : semaphore.queued.Nodup

variable {capacity held : Nat} {semaphore : Semaphore Task}

/-- A waiter joins the line. -/
theorem Semaphore.queued_enqueue (semaphore : Semaphore Task) (task : Task) :
    (semaphore.enqueue task).queued.Perm (task :: semaphore.queued) := by
  unfold queued enqueue
  dsimp only
  rw [List.append_assoc]
  exact List.perm_middle

/-- A released permit moves a waiter within the line. -/
theorem Semaphore.queued_release (semaphore : Semaphore Task) :
    semaphore.release.queued.Perm semaphore.queued := by
  unfold release queued
  split
  next => exact .refl _
  next task rest waiting =>
    rw [waiting, ← List.append_assoc]
    exact List.perm_append_singleton _ _

theorem fair_create (capacity : Nat) : Fair capacity 0 (⟨capacity, [], []⟩ : Semaphore Task) where
  balance := rfl
  served waits := absurd rfl waits
  distinct := List.nodup_nil

/-- No more permits are held than there are. -/
theorem Fair.held_le (fair : Fair capacity held semaphore) : held ≤ capacity := by
  have balance := fair.balance
  omega

/-- An unused semaphore has all its permits. -/
theorem Fair.whole (fair : Fair capacity 0 semaphore) (idle : semaphore.queued = []) :
    semaphore = ⟨capacity, [], []⟩ := by
  obtain ⟨waiting, granted⟩ := List.append_eq_nil_iff.mp idle
  obtain ⟨value, _, _⟩ := semaphore
  subst waiting granted
  have balance := fair.balance
  simp only [List.length_nil, Nat.add_zero] at balance
  rw [balance]

/-- A waiting task is granted its permit, or another task holds one. -/
theorem Fair.progress (fair : Fair capacity held semaphore) (positive : 0 < capacity)
    (waits : semaphore.queued ≠ []) : semaphore.granted ≠ [] ∨ 0 < held := by
  by_cases granted : semaphore.granted = []
  · right
    have waiting : semaphore.waiting ≠ [] := fun empty =>
      waits (List.append_eq_nil_iff.mpr ⟨empty, granted⟩)
    rcases fair.served waiting with spent | given
    · have balance := fair.balance
      rw [spent, granted, List.length_nil] at balance
      omega
    · exact absurd granted given
  · exact .inl granted

theorem Fair.take (fair : Fair capacity held semaphore) (free : semaphore.locked = false) :
    Fair capacity (held + 1) semaphore.take where
  balance := by
    have balance := fair.balance
    have some : semaphore.value ≠ 0 := fun none => by simp [Semaphore.locked, none] at free
    change semaphore.value - 1 + semaphore.granted.length + (held + 1) = capacity
    omega
  served waits := by
    cases empty : semaphore.waiting with
    | nil => exact absurd empty waits
    | cons task rest => simp [Semaphore.locked, empty] at free
  distinct := fair.distinct

theorem Fair.enqueue (fair : Fair capacity held semaphore) (locked : semaphore.locked = true)
    {task : Task} (fresh : task ∉ semaphore.queued) : Fair capacity held (semaphore.enqueue task) where
  balance := fair.balance
  served _ := by
    change semaphore.value = 0 ∨ semaphore.granted ≠ []
    by_cases waiting : semaphore.waiting = []
    · simpa [Semaphore.locked, waiting] using locked
    · exact fair.served waiting
  distinct :=
    (semaphore.queued_enqueue task).nodup_iff.mpr (List.nodup_cons.mpr ⟨fresh, fair.distinct⟩)

theorem mem_enqueue {task other : Task} :
    other ∈ (semaphore.enqueue task).queued ↔ other = task ∨ other ∈ semaphore.queued :=
  (semaphore.queued_enqueue task).mem_iff.trans List.mem_cons

theorem mem_release {other : Task} : other ∈ semaphore.release.queued ↔ other ∈ semaphore.queued :=
  semaphore.queued_release.mem_iff

theorem Fair.release (fair : Fair capacity (held + 1) semaphore) :
    Fair capacity held semaphore.release where
  balance := by
    have balance := fair.balance
    unfold Semaphore.release
    split
    · dsimp only
      omega
    · dsimp only
      rw [List.length_append, List.length_singleton]
      omega
  served := by
    unfold Semaphore.release
    split
    next waiting => exact fun waits => absurd waiting waits
    next => exact fun _ => .inr (List.append_ne_nil_of_right_ne_nil _ (List.cons_ne_nil _ _))
  distinct := semaphore.queued_release.nodup_iff.mpr fair.distinct

/-- Handing out permits keeps the waiters. -/
theorem handOut_perm (free : Nat) (waiting granted : List Task) :
    (Semaphore.handOut free waiting granted).queued.Perm (waiting ++ granted) := by
  induction waiting generalizing free granted with
  | nil => cases free <;> exact .refl _
  | cons task rest ih =>
      cases free with
      | zero => exact .refl _
      | succ free =>
          rw [Semaphore.handOut]
          refine (ih free (granted ++ [task])).trans ?_
          rw [← List.append_assoc]
          exact List.perm_append_singleton _ _

theorem handOut_fair (free : Nat) (waiting granted : List Task)
    (balance : free + granted.length + held = capacity) (distinct : (waiting ++ granted).Nodup) :
    Fair capacity held (Semaphore.handOut free waiting granted) := by
  induction waiting generalizing free granted with
  | nil => cases free <;> exact ⟨balance, fun waits => absurd rfl waits, distinct⟩
  | cons task rest ih =>
      cases free with
      | zero => exact ⟨balance, fun _ => .inl rfl, distinct⟩
      | succ free =>
          rw [Semaphore.handOut]
          apply ih
          · rw [List.length_append, List.length_singleton]
            omega
          · rw [← List.append_assoc]
            exact (List.perm_append_singleton _ _).nodup_iff.mpr distinct

section Resume
variable [DecidableEq Task]

/-- A granted task that runs leaves the line. -/
theorem Semaphore.queued_resume (semaphore : Semaphore Task) {task : Task}
    (given : task ∈ semaphore.granted) :
    (task :: (semaphore.resume task).queued).Perm semaphore.queued := by
  have rest := handOut_perm semaphore.value semaphore.waiting (semaphore.granted.erase task)
  refine (rest.cons task).trans (List.perm_middle.symm.trans ?_)
  exact (List.perm_cons_erase given).symm.append_left _

theorem mem_resume {task other : Task} (fair : Fair capacity held semaphore)
    (given : task ∈ semaphore.granted) :
    other ∈ (semaphore.resume task).queued ↔ other ≠ task ∧ other ∈ semaphore.queued := by
  have moved := semaphore.queued_resume given
  have apart := List.nodup_cons.mp (moved.nodup_iff.mpr fair.distinct)
  rw [← moved.mem_iff, List.mem_cons]
  constructor
  · intro member
    exact ⟨fun same => apart.1 (same ▸ member), .inr member⟩
  · rintro ⟨different, same | member⟩
    · exact absurd same different
    · exact member

/-- A granted task that runs holds its permit. -/
theorem Fair.resume {task : Task} (fair : Fair capacity held semaphore)
    (given : task ∈ semaphore.granted) : Fair capacity (held + 1) (semaphore.resume task) := by
  apply handOut_fair
  · have balance := fair.balance
    have fewer := List.length_erase_of_mem given
    have some := List.length_pos_of_mem given
    omega
  · exact fair.distinct.sublist ((List.Sublist.refl _).append List.erase_sublist)

end Resume

end FairSemaphore
