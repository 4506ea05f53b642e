import EveApiCache.Construction.Text
import Mathlib.Data.List.Induction

/-!
This file models `app/rate_limit.py` and the rate-limit gate of `app/routes.py`.
-/

namespace EveApiCache

/-- This is the state of an `InMemoryRateLimiter`. The dictionary `_hits` keeps its insertion order,
and the clock counts seconds. -/
structure RateLimiter where
  limit : Int
  windowSeconds : Int := 60
  hits : List (PyStr × List ℚ) := []
  opsSincePrune : Nat := 0
  pruneInterval : Nat := 1000

namespace RateLimiter

/-- A missing key reads as an empty deque. -/
def hitsOf (limiter : RateLimiter) (key : PyStr) : List ℚ := (limiter.hits.lookup key).getD []

/-- This function assigns one deque of a dictionary. -/
def assign (hits : List (PyStr × List ℚ)) (key : PyStr) (deque : List ℚ) :
    List (PyStr × List ℚ) :=
  match hits with
  | [] => [(key, deque)]
  | (other, times) :: rest =>
      if other = key then (key, deque) :: rest else (other, times) :: assign rest key deque

/-- A deque is idle when it is empty or its last time is not after the cutoff. -/
def idle (cutoff : ℚ) (deque : List ℚ) : Bool :=
  match deque.getLast? with
  | none => true
  | some last => last ≤ cutoff

def prune (limiter : RateLimiter) (cutoff : ℚ) : RateLimiter :=
  { limiter with hits := limiter.hits.filter fun entry => !idle cutoff entry.2 }

/-- Every `_prune_interval` calls the idle keys are dropped first. -/
def pruned (limiter : RateLimiter) (cutoff : ℚ) : RateLimiter :=
  if limiter.pruneInterval ≤ limiter.opsSincePrune + 1 then
    { limiter.prune cutoff with opsSincePrune := 0 }
  else { limiter with opsSincePrune := limiter.opsSincePrune + 1 }

/-- A call trims the deque of its key and is admitted while the deque has room. -/
def hit (limiter : RateLimiter) (now cutoff : ℚ) (key : PyStr) : (Bool × Int) × RateLimiter :=
  let hits := (limiter.hitsOf key).dropWhile (· ≤ cutoff)
  if limiter.limit ≤ hits.length then
    ((false, 0), { limiter with hits := assign limiter.hits key hits })
  else
    ((true, limiter.limit - (hits.length + 1)),
      { limiter with hits := assign limiter.hits key (hits ++ [now]) })

/-- The lock is never waited for, because no task suspends while it holds it, so a call of `allow`
is one step. -/
def allow (limiter : RateLimiter) (now : ℚ) (key : PyStr) : (Bool × Int) × RateLimiter :=
  if limiter.limit ≤ 0 then ((true, limiter.limit), limiter)
  else
    let cutoff := now - limiter.windowSeconds
    (limiter.pruned cutoff).hit now cutoff key

end RateLimiter

/-- `_client_key` reads the direct peer and the `X-Forwarded-For` header of a request. -/
structure ClientRequest where
  client : Option PyStr
  forwardedFor : Option PyStr

/-- This is `value.split(",")[0].strip()`. -/
def firstHop (value : PyStr) : PyStr := strip (value.takeWhile (· ≠ 0x2c))

def clientKey (request : ClientRequest) (trustedProxies : List PyStr) : PyStr :=
  let peer := request.client.getD (text "unknown")
  if peer ∈ trustedProxies then
    match request.forwardedFor with
    | some forwarded => if forwarded = [] then peer else firstHop forwarded
    | none => peer
  else peer

/-- The gate answers a request over the limit with status 429 and lets every other one pass with
the number of requests that remain. -/
inductive GateReply where
  | rejected (status : Nat) (body : Bytes) (headers : List (PyStr × PyStr))
  | passed (remaining : Int)

def GateReply.isPassed : GateReply → Bool
  | .rejected .. => false
  | .passed _ => true

/-- This is the head of the route `proxy`. -/
def rateLimitGate (limiter : RateLimiter) (trustedProxies : List PyStr) (now : ℚ)
    (request : ClientRequest) : GateReply × RateLimiter :=
  let ((allowed, remaining), limiter) := limiter.allow now (clientKey request trustedProxies)
  if allowed then (.passed remaining, limiter)
  else (.rejected 429 (bytes "\x7b\"error\":\"rate limit exceeded\"\x7d")
    [(text "X-Cache", text "ERROR"), (text "X-RateLimit-Remaining", text "0"),
      (text "Retry-After", text "60")], limiter)

/-- A client address is a non-empty text without commas and white space. -/
structure ClientAddress where
  value : PyStr
  filled : value ≠ []
  plain : ∀ symbol ∈ value, symbol ≠ 0x2c ∧ isWhitespace symbol = false

/-- A reverse proxy appends the address of its client to the header that the client sent. -/
def reverseProxied (peer : PyStr) (address : ClientAddress) (supplied : Option PyStr) :
    ClientRequest where
  client := some peer
  forwardedFor := some (match supplied with
    | none => address.value
    | some value => value ++ text ", " ++ address.value)

/-- A request arrives from one client with a header of its choice, or from anybody else. -/
inductive Caller where
  | client (supplied : Option PyStr)
  | other (request : ClientRequest)

def Caller.request (peer : PyStr) (address : ClientAddress) : Caller → ClientRequest
  | .client supplied => reverseProxied peer address supplied
  | .other request => request

def Caller.isClient : Caller → Bool
  | .client _ => true
  | .other _ => false

structure Arrival where
  now : ℚ
  caller : Caller

/-- The gate answers the arrivals one after another. -/
def serve (trustedProxies : List PyStr) (peer : PyStr) (address : ClientAddress) :
    RateLimiter → List Arrival → List (Arrival × GateReply)
  | _, [] => []
  | limiter, arrival :: rest =>
      let (reply, limiter) := rateLimitGate limiter trustedProxies arrival.now
        (arrival.caller.request peer address)
      (arrival, reply) :: serve trustedProxies peer address limiter rest

end EveApiCache
