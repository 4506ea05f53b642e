import EveApiCache.Construction.Pipeline
import EveApiCache.Construction.RateLimit

/-!
This file models the route `proxy` in `app/routes.py` around `proxy_request`.
-/

namespace EveApiCache

/-- These are the settings that only the route reads. -/
structure RouteSettings where
  trustedProxies : List PyStr := []
  maxPostBodyBytes : Nat := 65536

/-- The route reads these parts of a request, and its body arrives in chunks. -/
structure RouteCall where
  client : ClientRequest
  version : PyStr
  path : PyStr
  method : Method
  params : Params
  contentLength : Option PyStr
  stream : List Bytes

structure RouteReply where
  status : Nat
  body : Bytes
  contentType : PyStr
  headers : List (PyStr × PyStr)
  deriving DecidableEq

/-- This is `_error_response`. -/
def errorResponse (body : Bytes) (status : Nat) : RouteReply :=
  ⟨status, body, text "application/json", [(text "X-Cache", text "ERROR")]⟩

/-- These are the local variables of `_read_body_capped`. -/
structure CappedBody where
  total : Nat := 0
  chunks : List Bytes := []

/-- This is `_read_body_capped`, with the chunks that it leaves unread. -/
def readBodyCapped (limit : Nat) (body : CappedBody) : List Bytes → Option Bytes × List Bytes
  | [] => (some body.chunks.flatten, [])
  | chunk :: rest =>
      let total := body.total + chunk.length
      if limit < total then (none, rest)
      else readBodyCapped limit ⟨total, body.chunks ++ [chunk]⟩ rest

def bodyTooLarge : RouteReply :=
  errorResponse (bytes "\x7b\"error\":\"request body too large\"\x7d") 413

/-- A declared length is checked before the body is read. -/
def checkDeclared (settings : RouteSettings) (contentLength : PyStr) : Option RouteReply :=
  if contentLength = [] then none
  else
    match intOfText contentLength with
    | none => some (errorResponse (bytes "\x7b\"error\":\"invalid content-length\"\x7d") 400)
    | some declaredLength =>
        if settings.maxPostBodyBytes < declaredLength then some bodyTooLarge else none

/-- A request without a body passes `None` on. -/
def readBody (settings : RouteSettings) (call : RouteCall) : Except RouteReply (Option Bytes) :=
  if call.method = .post then
    match call.contentLength.bind (checkDeclared settings) with
    | some reply => .error reply
    | none =>
        match (readBodyCapped settings.maxPostBodyBytes {} call.stream).1 with
        | none => .error bodyTooLarge
        | some body => .ok (some body)
  else .ok none

theorem readBody_get (settings : RouteSettings) {call : RouteCall} (get : call.method = .get) :
    readBody settings call = .ok none := by
  simp [readBody, get]

/-- The route answers a request itself or passes it on to `proxy_request`. -/
inductive Admission where
  | answered (reply : RouteReply)
  | forwarded (request : Request) (remaining : Int)

/-- These are the steps of the route before it awaits `proxy_request`. -/
def admitRequest (settings : RouteSettings) (limiter : RateLimiter) (now : ℚ) (call : RouteCall) :
    Admission × RateLimiter :=
  match rateLimitGate limiter settings.trustedProxies now call.client with
  | (.rejected status body headers, limiter) =>
      (.answered ⟨status, body, text "application/json", headers⟩, limiter)
  | (.passed remaining, limiter) =>
      match read : readBody settings call with
      | .error reply => (.answered reply, limiter)
      | .ok body =>
          (.forwarded {
            fullPath := text "/" ++ call.version ++ text "/" ++ call.path
            method := call.method
            params := call.params
            body := body
            bodiless := fun get => by
              rw [readBody_get settings get] at read
              exact (Except.ok.inj read).symm } remaining, limiter)

/-- A request calls `allow` at this time. -/
structure RouteArrival where
  now : ℚ
  call : RouteCall

/-- The requests are listed in the order of their calls of `allow`. -/
def admitAll (settings : RouteSettings) :
    RateLimiter → List RouteArrival → List (RouteArrival × Admission)
  | _, [] => []
  | limiter, arrival :: rest =>
      let (admission, limiter) := admitRequest settings limiter arrival.now arrival.call
      (arrival, admission) :: admitAll settings limiter rest

def warningStale : PyStr := text "110 - \"Response is Stale\""

/-- This is `_CACHE_STATUS_HEADERS`. -/
def cacheStatusHeaders : CacheStatus → List (PyStr × PyStr)
  | .hit => [(text "X-Cache", text "HIT")]
  | .miss => [(text "X-Cache", text "MISS")]
  | .stale => [(text "X-Cache", text "STALE"), (text "Warning", warningStale)]
  | .archiveFallback =>
      [(text "X-Cache", text "STALE"), (text "X-Archive-Fallback", text "true"),
        (text "Warning", warningStale)]
  | .error => [(text "X-Cache", text "ERROR")]

/-- This is the reply of the route to a result of `proxy_request`. -/
def proxyReply (result : ProxyResult) (remaining : Int) : RouteReply where
  status := result.status
  body := result.body
  contentType := result.contentType
  headers := cacheStatusHeaders result.cacheStatus ++
    [(text "X-RateLimit-Remaining", intStr remaining)] ++
    match result.location with
    | some location => if location = [] then [] else [(text "Location", location)]
    | none => []

/-- This is the route with the calls that it makes to the service. -/
def proxy (libraries : Libraries) (settings : Settings) : Admission → Pipeline RouteReply
  | .answered reply => .done reply
  | .forwarded request remaining =>
      dispatch libraries settings request >>= fun result => .done (proxyReply result remaining)

end EveApiCache
