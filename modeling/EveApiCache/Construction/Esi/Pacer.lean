import EveApiCache.Library.StepMachine
import Mathlib.Algebra.Order.Field.Rat

/-!
This file models the outbound pacer `ESIClient._pace` in `app/esi_client.py`.
-/

namespace EveApiCache

open StepMachine

/-- A call that found less than a whole token holds the lock and sleeps. -/
structure PacerSleep where
  call : Nat
  locked : ℚ
  found : ℚ
  wakes : ℚ
  deriving DecidableEq

/-- A call took the lock, found some tokens after the refill and returned. -/
structure PacerPassage where
  call : Nat
  locked : ℚ
  found : ℚ
  returned : ℚ
  deriving DecidableEq

/-- This is the pacer state of an `ESIClient`. The calls are numbered, the lock is held across a
sleep only and `waiting` is its queue. The clock counts seconds. -/
structure Pacer where
  now : ℚ
  tokens : ℚ
  rateUpdated : ℚ
  calls : Nat := 0
  sleeper : Option PacerSleep := none
  waiting : List Nat := []
  passed : List PacerPassage := []
  deriving DecidableEq

namespace Pacer

/-- This is `_rate_burst`. -/
def burst (rate : ℚ) : ℚ := max 1 rate

/-- The bucket starts full. -/
def create (rate now : ℚ) : Pacer where
  now := now
  tokens := burst rate
  rateUpdated := now

/-- These are the tokens after a refill now. -/
def refilled (pacer : Pacer) (rate : ℚ) : ℚ :=
  min (burst rate) (pacer.tokens + (pacer.now - pacer.rateUpdated) * rate)

/-- A call returns now. -/
def pass (pacer : Pacer) (call : Nat) (locked found : ℚ) : Pacer :=
  { pacer with passed := pacer.passed ++ [⟨call, locked, found, pacer.now⟩] }

def refill (pacer : Pacer) (rate : ℚ) : Pacer :=
  { pacer with tokens := pacer.refilled rate, rateUpdated := pacer.now }

/-- A call sleeps until the missing part of a token has been refilled. -/
def sleep (pacer : Pacer) (rate : ℚ) (call : Nat) : Pacer :=
  { pacer with
    sleeper := some ⟨call, pacer.now, pacer.tokens, pacer.now + (1 - pacer.tokens) / rate⟩ }

/-- A call takes a token and returns. -/
def take (pacer : Pacer) (call : Nat) : Pacer :=
  { pacer with tokens := pacer.tokens - 1 }.pass call pacer.now pacer.tokens

/-- A call that takes the lock refills the bucket and takes a token or sleeps for one. -/
def enter (pacer : Pacer) (rate : ℚ) (call : Nat) : Pacer :=
  let pacer := pacer.refill rate
  if pacer.tokens < 1 then pacer.sleep rate call else pacer.take call

/-- A call takes the free lock at once and otherwise waits for it. Without a rate it returns. -/
def arrive (pacer : Pacer) (rate : ℚ) : Pacer :=
  let call := pacer.calls
  let pacer := { pacer with calls := call + 1 }
  if rate ≤ 0 then pacer.pass call pacer.now pacer.tokens
  else if pacer.sleeper.isNone ∧ pacer.waiting = [] then pacer.enter rate call
  else { pacer with waiting := pacer.waiting ++ [call] }

/-- The first waiting call takes the lock that was released. -/
def resume (pacer : Pacer) (rate : ℚ) : Option Pacer :=
  match pacer.sleeper, pacer.waiting with
  | none, call :: rest => some ({ pacer with waiting := rest }.enter rate call)
  | _, _ => none

/-- A sleep ends not before its time, and the bucket is left empty. -/
def wake (pacer : Pacer) : Option Pacer :=
  match pacer.sleeper with
  | none => none
  | some sleep =>
      if sleep.wakes ≤ pacer.now then
        some ({ pacer with tokens := 0, rateUpdated := pacer.now, sleeper := none }.pass
          sleep.call sleep.locked sleep.found)
      else none

/-- A cancelled call leaves the queue, or its sleep and the lock. -/
def cancel (pacer : Pacer) (call : Nat) : Pacer :=
  { pacer with
    waiting := pacer.waiting.filter (· ≠ call)
    sleeper := pacer.sleeper.filter (·.call ≠ call) }

end Pacer

/-- The clock never goes back, and calls arrive, wake and are cancelled at any time. -/
inductive PacerMove where
  | tick (now : ℚ)
  | arrive
  | resume
  | wake
  | cancel (call : Nat)

def Pacer.move (rate : ℚ) (pacer : Pacer) : PacerMove → Option Pacer
  | .tick now => if pacer.now ≤ now then some { pacer with now := now } else none
  | .arrive => some (pacer.arrive rate)
  | .resume => pacer.resume rate
  | .wake => pacer.wake
  | .cancel call => some (pacer.cancel call)

/-- The pacer of a client is created at some time and moves. -/
def pacerMachine (rate : ℚ) : Machine Pacer PacerMove where
  initial pacer := ∃ now, pacer = Pacer.create rate now
  step := Pacer.move rate

end EveApiCache
