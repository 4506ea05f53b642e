import EveApiCache.Construction.Text
import EveApiCache.Library.StepMachine
import Mathlib.Logic.Function.Basic

/-!
This file models `_run_singleton_job` in `app/scheduler.py` and the advisory locks of PostgreSQL.
-/

namespace EveApiCache.SingletonJob

open StepMachine

/-- A connection may hold a lock several times, and one that died holds none. -/
structure AdvisoryLocks (Lock : Type) where
  grants : List (Nat × Lock) := []
  dead : List Nat := []

namespace AdvisoryLocks

variable {Lock : Type} [DecidableEq Lock]

/-- This is the answer of `pg_try_advisory_lock`. No other connection holds the lock. -/
def admits (locks : AdvisoryLocks Lock) (connection : Nat) (lock : Lock) : Bool :=
  locks.grants.all fun grant => grant.2 ≠ lock || grant.1 = connection

def acquire (locks : AdvisoryLocks Lock) (connection : Nat) (lock : Lock) : AdvisoryLocks Lock :=
  { locks with grants := (connection, lock) :: locks.grants }

/-- This is `pg_advisory_unlock`. -/
def unlock (locks : AdvisoryLocks Lock) (connection : Nat) (lock : Lock) : AdvisoryLocks Lock :=
  { locks with grants := locks.grants.erase (connection, lock) }

/-- PostgreSQL releases the locks of a connection that dies. -/
def kill (locks : AdvisoryLocks Lock) (connection : Nat) : AdvisoryLocks Lock where
  grants := locks.grants.filter fun grant => grant.1 ≠ connection
  dead := connection :: locks.dead

end AdvisoryLocks

section Call

variable (Error Value : Type)

/-- A call asks for its lock, executes `fn`, unlocks and commits. -/
inductive Phase where
  | asking
  | executing
  | unlocking (outcome : Except Error Value)
  | committing (outcome : Except Error Value)
  | skipped
  | failed (error : Error)
  | ended (outcome : Except Error Value)

/-- The errors of a statement are those that it raises when its connection is dead. -/
inductive Event where
  | ask (error : Error)
  | finish (outcome : Except Error Value)
  | unlock (error : Error)
  | commit (result : Except Error Unit)

end Call

variable {Error Value Lock : Type}

/-- This is `try: return .. finally: ..`. An error of the last block replaces the outcome. -/
def tryFinally (outcome : Except Error Value) (last : Except Error Unit) : Except Error Value :=
  match last with
  | .ok () => outcome
  | .error error => .error error

/-- This is `try: .. except Exception: logger.warning(..)`. -/
def logged (block : Except Error Unit) : Except Error Unit :=
  match block with
  | .ok () => .ok ()
  | .error _ => .ok ()

namespace Phase

def finished : Phase Error Value → Bool
  | skipped | failed _ | ended _ => true
  | asking | executing | unlocking _ | committing _ => false

/-- A call holds its lock from the answer of PostgreSQL to the unlock. -/
def holds : Phase Error Value → Bool
  | executing | unlocking _ => true
  | asking | committing _ | skipped | failed _ | ended _ => false

end Phase

structure Call (Error Value : Type) where
  jobId : PyStr
  connection : Nat
  phase : Phase Error Value

/-- This is one step of a call on its connection. -/
def advance [DecidableEq Lock] (locks : AdvisoryLocks Lock) (connection : Nat) (lock : Lock) :
    Phase Error Value → Event Error Value → Option (AdvisoryLocks Lock × Phase Error Value)
  | .asking, .ask error =>
      if connection ∈ locks.dead then some (locks, .failed error)
      else if locks.admits connection lock then some (locks.acquire connection lock, .executing)
      else some (locks, .skipped)
  | .executing, .finish outcome => some (locks, .unlocking outcome)
  | .unlocking outcome, .unlock error =>
      if connection ∈ locks.dead then
        some (locks, .ended (tryFinally outcome (logged (.error error))))
      else some (locks.unlock connection lock, .committing outcome)
  | .committing outcome, .commit result =>
      some (locks, .ended (tryFinally outcome (logged result)))
  | _, _ => none

/-- The calls of all instances are numbered. The last two fields record which calls began `fn` and
what it returned or raised. -/
structure State (Error Value Lock : Type) where
  begun : Nat := 0
  calls : Nat → Option (Call Error Value) := fun _ => none
  locks : AdvisoryLocks Lock := {}
  executed : List Nat := []
  returned : List (Nat × Except Error Value) := []

namespace State

/-- A call that has not finished uses the connection. -/
def busy (state : State Error Value Lock) (connection : Nat) : Bool :=
  (List.range state.begun).any fun number => (state.calls number).any fun call =>
    !call.phase.finished && call.connection = connection

/-- The record grows when `fn` begins and when it ends. -/
def note (state : State Error Value Lock) (number : Nat) :
    Event Error Value → Phase Error Value → State Error Value Lock
  | .ask _, .executing => { state with executed := number :: state.executed }
  | .finish outcome, _ => { state with returned := (number, outcome) :: state.returned }
  | _, _ => state

def set (state : State Error Value Lock) (number : Nat) (call : Call Error Value) :
    State Error Value Lock :=
  { state with calls := Function.update state.calls number (some call) }

end State

/-- A call begins on a connection of its own, a call moves, or a connection dies. -/
inductive Action (Error Value : Type) where
  | begin (jobId : PyStr) (connection : Nat)
  | move (number : Nat) (event : Event Error Value)
  | die (connection : Nat)

def step [DecidableEq Lock] (lockId : PyStr → Lock) (state : State Error Value Lock) :
    Action Error Value → Option (State Error Value Lock)
  | .begin jobId connection =>
      if state.busy connection then none
      else some { state.set state.begun ⟨jobId, connection, .asking⟩ with begun := state.begun + 1 }
  | .move number event =>
      (state.calls number).bind fun call =>
        (advance state.locks call.connection (lockId call.jobId) call.phase event).map fun moved =>
          { (state.set number { call with phase := moved.2 }).note number event moved.2 with
            locks := moved.1 }
  | .die connection => some { state with locks := state.locks.kill connection }

/-- The service starts without calls and locks. -/
def singletonJobs [DecidableEq Lock] (lockId : PyStr → Lock) :
    Machine (State Error Value Lock) (Action Error Value) where
  initial state := state = {}
  step := step lockId

end EveApiCache.SingletonJob
