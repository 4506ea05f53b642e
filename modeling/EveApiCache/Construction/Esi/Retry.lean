import EveApiCache.Construction.Esi.Breaker

/-!
This file models `ESIClient._request_with_retries` in `app/esi_client.py`.
-/

namespace EveApiCache

/-- An attempt is answered at some time, fails with an `httpx.RequestError`, or raises another
exception. -/
inductive Attempt where
  | answered (time : ℚ) (response : RawResponse)
  | unreachable
  | raised

/-- A request returns a response, raises the last `httpx.RequestError` or another exception, or fails
its assertion. -/
inductive Ending where
  | returned (response : RawResponse)
  | unreachable
  | raised
  | asserted

/-- An attempt ends the request or is followed by a sleep and another attempt. -/
inductive Verdict where
  | finish (ending : Ending)
  | retry (delay : ℚ)

section Settings
variable (settings : Settings)

/-- This is the delay of `_sleep_before_retry`, where the power is converted to a float. -/
def retryDelay (retryAfter : Option Int) (attempt : Nat) : Option ℚ :=
  match retryAfter with
  | some seconds => some (min seconds settings.esiRetryMaxDelay)
  | none =>
      if FitsFloat (2 ^ attempt : Nat) then
        some (min (settings.esiRetryBaseDelay * (2 ^ attempt : Nat)) settings.esiRetryMaxDelay)
      else none

/-- A failed attempt is repeated while attempts are left. -/
def retryOr (ending : Ending) (retryAfter : Option Int) (attempt : Nat) : Verdict :=
  if settings.esiMaxRetries ≤ attempt then .finish ending
  else
    match retryDelay settings retryAfter attempt with
    | some delay => .retry delay
    | none => .finish .raised

/-- `_note_response_budget` raises for integers that do not fit a float. -/
def noteRaises (response : RawResponse) : Bool :=
  Breaker.gaugeRaises response || Breaker.blockRaises settings response

/-- This is the body of the loop in `_request_with_retries`. -/
def judge (attempt : Nat) : Attempt → Verdict
  | .answered _ response =>
      if noteRaises settings response then .finish .raised
      else if response.rateLimited then .finish (.returned response)
      else if !response.retriable then .finish (.returned response)
      else retryOr settings (.returned response) response.retryAfter attempt
  | .unreachable => retryOr settings .unreachable none attempt
  | .raised => .finish .raised

/-- An answered attempt is noted by the breaker. -/
def Attempt.noted : Attempt → List NotedResponse
  | .answered time response => [⟨time, response⟩]
  | _ => []

/-- A request sends its attempts, and the breaker notes their responses. -/
structure RequestRun where
  ending : Ending
  sent : Nat
  noted : List NotedResponse

/-- The loop makes its attempts from one number on. -/
def requestFrom (attempts : Nat → Attempt) : Nat → Nat → RequestRun
  | 0, _ => ⟨.asserted, 0, []⟩
  | rounds + 1, attempt =>
      match judge settings attempt (attempts attempt) with
      | .finish ending => ⟨ending, 1, (attempts attempt).noted⟩
      | .retry _ =>
          let later := requestFrom attempts rounds (attempt + 1)
          ⟨later.ending, later.sent + 1, (attempts attempt).noted ++ later.noted⟩

/-- This is `_request_with_retries`. -/
def requestWithRetries (attempts : Nat → Attempt) : RequestRun :=
  requestFrom settings attempts (settings.esiMaxRetries + 1).toNat 0

end Settings

end EveApiCache
