import EveApiCache.Construction.Upstream
import Mathlib.Algebra.Order.Field.Rat

/-!
This file models the error-budget breaker of `ESIClient` in `app/esi_client.py`.
-/

namespace EveApiCache

/-- This is a response as it arrives. A header is known by its name in lower case. -/
structure RawResponse where
  status : Nat
  content : Bytes
  headers : PyStr → Option PyStr

namespace RawResponse

def remain (response : RawResponse) : Option Int :=
  intHeader response.headers (text "x-esi-error-limit-remain")

def reset (response : RawResponse) : Option Int :=
  intHeader response.headers (text "x-esi-error-limit-reset")

def retryAfter (response : RawResponse) : Option Int :=
  intHeader response.headers (text "retry-after")

/-- This is membership in `_RATE_LIMIT_STATUSES`. -/
def rateLimited (response : RawResponse) : Bool := response.status = 420 || response.status = 429

/-- This is membership in `_RETRIABLE_STATUSES`. -/
def retriable (response : RawResponse) : Bool :=
  response.status = 502 || response.status = 503 || response.status = 504

end RawResponse

/-- `float` of an integer raises `OverflowError` when the integer rounds to at least 2^1024. -/
def FitsFloat (value : Int) : Prop := value.natAbs < 2 ^ 1024 - 2 ^ 970

instance fitsFloat_decidable (value : Int) : Decidable (FitsFloat value) :=
  inferInstanceAs (Decidable (_ < _))

/-- This is `value or otherwise`. -/
def orElse (value : Option Int) (otherwise : Int) : Int :=
  match value with
  | some value => if value = 0 then otherwise else value
  | none => otherwise

/-- This is the breaker state of an `ESIClient`. The clock counts seconds. -/
structure Breaker where
  errorLimitRemain : Option Int := none
  errorLimitReset : Option Int := none
  budgetBlockedUntil : ℚ := 0

namespace Breaker

/-- This is `_budget_blocked`. -/
def blocked (breaker : Breaker) (now : ℚ) : Bool := now < breaker.budgetBlockedUntil

def setRemain (breaker : Breaker) : Option Int → Breaker
  | some remain => { breaker with errorLimitRemain := some remain }
  | none => breaker

def setReset (breaker : Breaker) : Option Int → Breaker
  | some reset => { breaker with errorLimitReset := some reset }
  | none => breaker

/-- A response trips the breaker by its status or by a low remaining budget. -/
def trips (settings : Settings) (response : RawResponse) : Bool :=
  response.rateLimited || response.remain.any (· ≤ settings.esiErrorBudgetThreshold)

/-- This is `retry_after or reset or self._settings.esi_error_budget_block_seconds`. -/
def blockFor (settings : Settings) (response : RawResponse) : Int :=
  orElse response.retryAfter (orElse response.reset settings.esiErrorBudgetBlockSeconds)

/-- The gauge `esi_error_limit_remain` takes a float. -/
def gaugeRaises (response : RawResponse) : Bool := response.remain.any fun remain => !FitsFloat remain

/-- The sum of the clock and the block is a float. -/
def blockRaises (settings : Settings) (response : RawResponse) : Bool :=
  trips settings response && !FitsFloat (blockFor settings response)

/-- This is `_note_response_budget`, and the flag says whether it raises. -/
def noteResponseBudget (settings : Settings) (breaker : Breaker) (now : ℚ) (response : RawResponse) :
    Breaker × Bool :=
  let breaker := breaker.setRemain response.remain
  if gaugeRaises response then (breaker, true)
  else
    let breaker := breaker.setReset response.reset
    if blockRaises settings response then (breaker, true)
    else if trips settings response then
      ({ breaker with
        budgetBlockedUntil := max breaker.budgetBlockedUntil (now + blockFor settings response) },
        false)
    else (breaker, false)

end Breaker

/-- A response is processed at some time. -/
structure NotedResponse where
  time : ℚ
  response : RawResponse

/-- The responses are processed one after another. -/
def Breaker.noteAll (settings : Settings) (breaker : Breaker) (noted : List NotedResponse) : Breaker :=
  noted.foldl (fun breaker arrival =>
    (breaker.noteResponseBudget settings arrival.time arrival.response).1) breaker

end EveApiCache
