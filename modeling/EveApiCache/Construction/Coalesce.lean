import EveApiCache.Library.StepMachine
import Mathlib.Logic.Function.Basic

/-!
This file models `app/coalesce.py`. The critical sections under `_lock` contain no await, so each
one is a single step, and the lock is free whenever it is asked for. A task is cancelled before it
starts or where it is suspended.
-/

namespace EveApiCache.Coalesce
open StepMachine

/-- A future is pending until `set_result` or `set_exception` resolves it. -/
inductive Future (Result Failure : Type) where
  | pending
  | resolved (outcome : Except Failure Result)

/-- A resolved future wakes every caller that waits on it. -/
def Future.isResolved {Result Failure : Type} : Future Result Failure → Bool
  | .pending => false
  | .resolved _ => true

@[simp] theorem Future.isResolved_resolved {Result Failure : Type}
    (outcome : Except Failure Result) : (Future.resolved outcome).isResolved = true := rfl

/-- This is how an execution of `coro_fn` ends. A cancellation is not an `Exception`. -/
inductive Outcome (Result Failure : Type) where
  | returned (value : Result)
  | raised (failure : Failure)
  | cancelled

/-- `inflight` is `_inflight`. A future is named by its key and the number of futures created
before it, and `futures` keeps every future that was ever created. -/
structure Table (Key Result Failure : Type) where
  inflight : Key → Option Nat
  futures : Key → Nat → Future Result Failure
  created : Nat

variable {Key Result Failure : Type} [DecidableEq Key]

/-- No future exists before the first call. -/
def Table.empty : Table Key Result Failure := ⟨fun _ => none, fun _ _ => .pending, 0⟩

/-- These are the points at which a call of `coalesce` can be suspended or finished. -/
inductive Phase (Result Failure : Type) where
  | joining
  | leading (future : Nat)
  | releasing (future : Nat) (outcome : Outcome Result Failure)
  | waiting (future : Nat)
  | led (future : Nat) (outcome : Outcome Result Failure)
  | shared (future : Nat) (outcome : Outcome Result Failure)
  | abandoned

/-- A leader registers a new future under its key. -/
def Table.register (table : Table Key Result Failure) (key : Key) : Table Key Result Failure where
  inflight := Function.update table.inflight key (some table.created)
  futures := Function.update table.futures key
    (Function.update (table.futures key) table.created .pending)
  created := table.created + 1

/-- The first critical section attaches the call to a future or registers a new one. -/
def Table.join (table : Table Key Result Failure) (key : Key) :
    Table Key Result Failure × Phase Result Failure :=
  match table.inflight key with
  | some future => (table, .waiting future)
  | none => (table.register key, .leading table.created)

/-- This is `fut.set_result` or `fut.set_exception`. -/
def Table.resolve (table : Table Key Result Failure) (key : Key) (future : Nat)
    (outcome : Except Failure Result) : Table Key Result Failure :=
  { table with
    futures := Function.update table.futures key
      (Function.update (table.futures key) future (.resolved outcome)) }

/-- `except Exception` does not catch a cancellation, which leaves the future pending. -/
def Table.settle (table : Table Key Result Failure) (key : Key) (future : Nat) :
    Outcome Result Failure → Table Key Result Failure
  | .returned value => table.resolve key future (.ok value)
  | .raised failure => table.resolve key future (.error failure)
  | .cancelled => table

/-- The last critical section is `_inflight.pop(key, None)`. -/
def Table.release (table : Table Key Result Failure) (key : Key) : Table Key Result Failure :=
  { table with inflight := Function.update table.inflight key none }

@[simp] theorem Table.register_inflight (table : Table Key Result Failure) (key other : Key) :
    (table.register key).inflight other =
      if other = key then some table.created else table.inflight other := by
  simp [register, Function.update_apply]

@[simp] theorem Table.register_futures (table : Table Key Result Failure) (key other : Key)
    (future : Nat) :
    (table.register key).futures other future =
      if other = key ∧ future = table.created then .pending else table.futures other future := by
  by_cases same : other = key
  · subst same
    simp [register, Function.update_apply]
  · simp [register, same]

@[simp] theorem Table.register_created (table : Table Key Result Failure) (key : Key) :
    (table.register key).created = table.created + 1 := rfl

@[simp] theorem Table.resolve_futures (table : Table Key Result Failure) (key other : Key)
    (future target : Nat) (outcome : Except Failure Result) :
    (table.resolve key future outcome).futures other target =
      if other = key ∧ target = future then .resolved outcome else table.futures other target := by
  by_cases same : other = key
  · subst same
    simp [resolve, Function.update_apply]
  · simp [resolve, same]

@[simp] theorem Table.settle_inflight (table : Table Key Result Failure) (key : Key) (future : Nat)
    (outcome : Outcome Result Failure) :
    (table.settle key future outcome).inflight = table.inflight := by
  cases outcome <;> rfl

@[simp] theorem Table.settle_created (table : Table Key Result Failure) (key : Key) (future : Nat)
    (outcome : Outcome Result Failure) :
    (table.settle key future outcome).created = table.created := by
  cases outcome <;> rfl

@[simp] theorem Table.release_inflight (table : Table Key Result Failure) (key other : Key) :
    (table.release key).inflight other = if other = key then none else table.inflight other := by
  simp [release, Function.update_apply]

@[simp] theorem Table.release_futures (table : Table Key Result Failure) (key : Key) :
    (table.release key).futures = table.futures := rfl

@[simp] theorem Table.release_created (table : Table Key Result Failure) (key : Key) :
    (table.release key).created = table.created := rfl

/-- A waiter sees the outcome that the leader stored in the future. -/
def Outcome.ofResolved : Except Failure Result → Outcome Result Failure
  | .ok value => .returned value
  | .error failure => .raised failure

/-- A suspended call proceeds, sees its `coro_fn` end, or is cancelled. -/
inductive Event (Result Failure : Type) where
  | proceed
  | settle (outcome : Outcome Result Failure)
  | cancel

/-- This function is one step of one call. A waiter on a pending future cannot proceed. -/
def advance (table : Table Key Result Failure) (key : Key) :
    Phase Result Failure → Event Result Failure →
      Option (Table Key Result Failure × Phase Result Failure)
  | .joining, .proceed => some (table.join key)
  | .joining, .cancel => some (table, .abandoned)
  | .leading future, .settle outcome =>
      some (table.settle key future outcome, .releasing future outcome)
  | .releasing future outcome, .proceed => some (table.release key, .led future outcome)
  | .waiting future, .proceed =>
      match table.futures key future with
      | .pending => none
      | .resolved outcome => some (table, .shared future (.ofResolved outcome))
  -- `asyncio.shield` keeps the cancellation of a waiter away from the future.
  | .waiting future, .cancel => some (table, .shared future .cancelled)
  | _, _ => none

/-- The system is the shared table and any number of calls, each with its key. -/
structure State (Key Result Failure : Type) where
  table : Table Key Result Failure
  callers : Nat → Option (Key × Phase Result Failure)

/-- A step starts a new call or advances a running one. -/
inductive Action (Key Result Failure : Type) where
  | call (caller : Nat) (key : Key)
  | event (caller : Nat) (event : Event Result Failure)

/-- No call is in progress at the start. -/
def State.empty : State Key Result Failure := ⟨.empty, fun _ => none⟩

def step (state : State Key Result Failure) :
    Action Key Result Failure → Option (State Key Result Failure)
  | .call caller key =>
      match state.callers caller with
      | some _ => none
      | none =>
          some { state with callers := Function.update state.callers caller (some (key, .joining)) }
  | .event caller event =>
      match state.callers caller with
      | none => none
      | some (key, phase) =>
          (advance state.table key phase event).map fun result =>
            { table := result.1
              callers := Function.update state.callers caller (some (key, result.2)) }

def machine : Machine (State Key Result Failure) (Action Key Result Failure) where
  initial state := state = .empty
  step := step

end EveApiCache.Coalesce
