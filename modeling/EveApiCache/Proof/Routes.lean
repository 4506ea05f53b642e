import EveApiCache.Construction.Routes
import EveApiCache.Proof.RateLimit.ClientKey
import EveApiCache.Proof.RateLimit.Exact
import Mathlib.Algebra.Group.Action.Defs
import Mathlib.Algebra.Order.BigOperators.Group.List
import Mathlib.Algebra.Order.Ring.Nat

/-!
This file bounds what one client can make the route pass on.
-/

namespace EveApiCache
open Effects SlidingWindow

/-- A body is read whole when it is not over the limit. -/
theorem readBodyCapped_body (limit : Nat) (body : CappedBody) (stream : List Bytes)
    (room : body.total ≤ limit) :
    (readBodyCapped limit body stream).1 =
      if body.total + stream.flatten.length ≤ limit then
        some (body.chunks.flatten ++ stream.flatten)
      else none := by
  induction stream generalizing body with
  | nil => simp [readBodyCapped, room]
  | cons chunk rest ih =>
      rw [readBodyCapped, List.flatten_cons, List.length_append]
      by_cases exceeds : limit < body.total + chunk.length
      · rw [if_pos exceeds, if_neg (by omega)]
      · rw [if_neg exceeds, ih _ (Nat.le_of_not_lt exceeds), List.flatten_append, List.flatten_singleton,
          List.append_assoc]
        dsimp only
        rw [Nat.add_assoc]

/-- The chunks before the last one that is read fit under the limit. -/
theorem readBodyCapped_read (limit : Nat) (body : CappedBody) (stream : List Bytes)
    (room : body.total ≤ limit) :
    ∃ kept last, stream = kept ++ last ++ (readBodyCapped limit body stream).2 ∧
      body.total + kept.flatten.length ≤ limit ∧ last.length ≤ 1 := by
  induction stream generalizing body with
  | nil => exact ⟨[], [], rfl, room, Nat.zero_le _⟩
  | cons chunk rest ih =>
      rw [readBodyCapped]
      by_cases exceeds : limit < body.total + chunk.length
      · rw [if_pos exceeds]
        exact ⟨[], [chunk], rfl, room, le_rfl⟩
      · rw [if_neg exceeds]
        obtain ⟨kept, last, same, fits, single⟩ :=
          ih ⟨body.total + chunk.length, body.chunks ++ [chunk]⟩ (Nat.le_of_not_lt exceeds)
        refine ⟨chunk :: kept, last, congrArg (chunk :: ·) same, ?_, single⟩
        rw [List.flatten_cons, List.length_append, ← Nat.add_assoc]
        exact fits

section Admit
variable (settings : RouteSettings)

/-- These are the calls that the route does not answer for their body. -/
def RouteCall.Acceptable (call : RouteCall) : Prop :=
  call.method = .post → call.contentLength.bind (checkDeclared settings) = none ∧
    call.stream.flatten.length ≤ settings.maxPostBodyBytes

/-- This is the body that belongs to a call. -/
def RouteCall.body (call : RouteCall) : Option Bytes :=
  if call.method = .post then some call.stream.flatten else none

theorem readBody_ok_iff (call : RouteCall) (body : Option Bytes) :
    readBody settings call = .ok body ↔ call.Acceptable settings ∧ body = call.body := by
  unfold readBody RouteCall.Acceptable RouteCall.body
  by_cases post : call.method = .post
  · rw [if_pos post, if_pos post]
    cases checked : call.contentLength.bind (checkDeclared settings) with
    | some reply => simp [post]
    | none =>
        have read := readBodyCapped_body settings.maxPostBodyBytes {} call.stream (Nat.zero_le _)
        dsimp only at read ⊢
        rw [Nat.zero_add, List.flatten_nil, List.nil_append] at read
        rw [read]
        by_cases fits : call.stream.flatten.length ≤ settings.maxPostBodyBytes
        · rw [if_pos fits]
          constructor
          · intro same
            cases same
            exact ⟨fun _ => ⟨rfl, fits⟩, rfl⟩
          · rintro ⟨_, rfl⟩
            rfl
        · rw [if_neg fits]
          constructor
          · intro same
            cases same
          · rintro ⟨acceptable, _⟩
            exact absurd (acceptable post).2 fits
  · rw [if_neg post, if_neg post]
    simp [post, eq_comm]

/-- Every answer of the route itself is marked as an error. -/
def RouteReply.Refuses (reply : RouteReply) : Prop :=
  reply.status ∈ [400, 413, 429] ∧ (text "X-Cache", text "ERROR") ∈ reply.headers

theorem checkDeclared_refuses {contentLength : PyStr} {reply : RouteReply}
    (checked : checkDeclared settings contentLength = some reply) : reply.Refuses := by
  unfold checkDeclared at checked
  split_ifs at checked
  split at checked
  · cases checked
    exact ⟨by simp [errorResponse], List.mem_singleton_self _⟩
  · split_ifs at checked
    cases checked
    exact ⟨by simp [bodyTooLarge, errorResponse], List.mem_singleton_self _⟩

theorem readBody_refuses {call : RouteCall} {reply : RouteReply}
    (refused : readBody settings call = .error reply) : reply.Refuses := by
  unfold readBody at refused
  split_ifs at refused
  split at refused
  next other checked =>
    cases refused
    obtain ⟨contentLength, _, checked⟩ := Option.bind_eq_some_iff.mp checked
    exact checkDeclared_refuses settings checked
  next =>
    split at refused
    · cases refused
      exact ⟨by simp [bodyTooLarge, errorResponse], List.mem_singleton_self _⟩
    · cases refused

/-- A call is passed on with its own path, parameters and whole body. -/
structure RouteCall.Forwards (call : RouteCall) (request : Request) : Prop where
  fullPath : request.fullPath = text "/" ++ call.version ++ text "/" ++ call.path
  method : request.method = call.method
  params : request.params = call.params
  body : request.body = call.body
  acceptable : call.Acceptable settings

def RouteCall.Admits (call : RouteCall) : Admission → Prop
  | .answered reply => reply.Refuses
  | .forwarded request _ => call.Forwards settings request

variable (limiter : RateLimiter) (now : ℚ) (call : RouteCall)

/-- The limiter moves as its call of `allow` says. -/
theorem admitRequest_limiter : (admitRequest settings limiter now call).2 =
    (limiter.allow now (clientKey call.client settings.trustedProxies)).2 := by
  rw [← (gate_passed settings.trustedProxies limiter now call.client).2]
  unfold admitRequest
  split
  next replied => rw [replied]
  next replied =>
    rw [replied]
    split
    · rfl
    · rfl

theorem admitRequest_admits : call.Admits settings (admitRequest settings limiter now call).1 := by
  unfold admitRequest
  split
  next status body headers after replied =>
    unfold rateLimitGate at replied
    dsimp only at replied
    split_ifs at replied
    · cases replied
    · cases replied
      exact ⟨by simp, List.mem_cons_self⟩
  next remaining after replied =>
    split
    next reply refused => exact readBody_refuses settings refused
    next body read =>
      obtain ⟨acceptable, same⟩ := (readBody_ok_iff settings call body).mp read
      exact ⟨rfl, rfl, rfl, same, acceptable⟩

/-- A request that is passed on was allowed by the limiter. -/
theorem admitRequest_allowed {request : Request} {remaining : Int}
    (forwarded : (admitRequest settings limiter now call).1 = .forwarded request remaining) :
    (limiter.allow now (clientKey call.client settings.trustedProxies)).1.1 = true := by
  rw [← (gate_passed settings.trustedProxies limiter now call.client).1]
  unfold admitRequest at forwarded
  split at forwarded
  next => cases forwarded
  next replied =>
    rw [replied]
    rfl

end Admit

/-- This is the call of `allow` that a request makes. -/
def RouteArrival.allowCall (settings : RouteSettings) (arrival : RouteArrival) : AllowCall :=
  ⟨arrival.now, clientKey arrival.call.client settings.trustedProxies⟩

/-- This is the size of the body when a request is passed on. -/
def Admission.size : Admission → Option Nat
  | .answered _ => none
  | .forwarded request _ => some (request.body.getD []).length

/-- These are the body sizes of the requests of a key that are passed on in a window. -/
def sizesWithin (settings : RouteSettings) (length : ℚ) (key : PyStr) (start : ℚ)
    (admitted : List (RouteArrival × Admission)) : List Nat :=
  (admitted.filter fun entry => (entry.1.allowCall settings).key = key ∧
    start < entry.1.now ∧ entry.1.now ≤ start + length).filterMap fun entry => entry.2.size

theorem sizesWithin_cons (settings : RouteSettings) (length : ℚ) (key : PyStr) (start : ℚ)
    (entry : RouteArrival × Admission) (admitted : List (RouteArrival × Admission)) :
    sizesWithin settings length key start (entry :: admitted) =
      (if (entry.1.allowCall settings).key = key ∧ start < entry.1.now ∧
          entry.1.now ≤ start + length then entry.2.size.toList else []) ++
        sizesWithin settings length key start admitted := by
  unfold sizesWithin
  rw [List.filter_cons]
  simp only [decide_eq_true_eq]
  split_ifs
  · rw [List.filterMap_cons]
    cases entry.2.size <;> rfl
  · rfl

theorem admittedHits_cons (call : AllowCall) (calls : List AllowCall) (answer : Bool × Int)
    (answers : List (Bool × Int)) : admittedHits (call :: calls) (answer :: answers) =
      (if answer.1 then [call.hit] else []) ++ admittedHits calls answers := by
  cases admitted : answer.1 <;> simp [admittedHits, admitted]

section Run
variable (settings : RouteSettings)

theorem admitAll_admits (limiter : RateLimiter) (arrivals : List RouteArrival) :
    ∀ entry ∈ admitAll settings limiter arrivals, entry.1.call.Admits settings entry.2 := by
  induction arrivals generalizing limiter with
  | nil => exact fun _ member => nomatch member
  | cons arrival rest ih =>
      intro entry member
      rw [admitAll] at member
      rcases List.mem_cons.mp member with rfl | later
      · exact admitRequest_admits settings limiter arrival.now arrival.call
      · exact ih _ entry later

/-- The requests that are passed on are among those that the limiter admits. -/
theorem sizesWithin_length (limiter : RateLimiter) (arrivals : List RouteArrival) (length : ℚ)
    (key : PyStr) (start : ℚ) :
    let calls := arrivals.map (RouteArrival.allowCall settings)
    (sizesWithin settings length key start (admitAll settings limiter arrivals)).length ≤
      (within length (admittedHits calls (limiter.answers calls)) key start).length := by
  dsimp only
  induction arrivals generalizing limiter with
  | nil => exact Nat.zero_le _
  | cons arrival rest ih =>
      have tail := ih (limiter.allow arrival.now (arrival.allowCall settings).key).2
      have moved : (admitRequest settings limiter arrival.now arrival.call).2 =
          (limiter.allow arrival.now (arrival.allowCall settings).key).2 :=
        admitRequest_limiter settings limiter arrival.now arrival.call
      rw [admitAll, List.map_cons, RateLimiter.answers]
      dsimp only
      rw [moved, admittedHits_cons, sizesWithin_cons, List.length_append]
      dsimp only
      by_cases allowed : (limiter.allow arrival.now (arrival.allowCall settings).key).1.1 = true
      · change _ ≤ (within length ((if (limiter.allow arrival.now
          (arrival.allowCall settings).key).1.1 = true then _ else _) ++ _) key start).length
        rw [if_pos allowed, List.singleton_append, within_cons, List.length_append]
        refine Nat.add_le_add ?_ tail
        by_cases inside : (arrival.allowCall settings).key = key ∧ start < arrival.now ∧
            arrival.now ≤ start + length
        · rw [if_pos inside]
          refine le_trans ?_ (Nat.le_of_eq (congrArg List.length (if_pos inside)).symm)
          cases (admitRequest settings limiter arrival.now arrival.call).1.size <;> simp
        · rw [if_neg inside]
          exact Nat.zero_le _
      · have refused : (admitRequest settings limiter arrival.now arrival.call).1.size = none := by
          cases made : (admitRequest settings limiter arrival.now arrival.call).1 with
          | answered reply => rfl
          | forwarded request remaining =>
              exact absurd (admitRequest_allowed settings limiter arrival.now arrival.call made) allowed
        change _ ≤ (within length ((if (limiter.allow arrival.now
          (arrival.allowCall settings).key).1.1 = true then _ else _) ++ _) key start).length
        rw [if_neg allowed, refused, List.nil_append, Option.toList_none, ite_self, List.length_nil,
          Nat.zero_add]
        exact tail

theorem sizesWithin_le {length : ℚ} {key : PyStr} {start : ℚ}
    {admitted : List (RouteArrival × Admission)}
    (admits : ∀ entry ∈ admitted, entry.1.call.Admits settings entry.2) :
    ∀ size ∈ sizesWithin settings length key start admitted, size ≤ settings.maxPostBodyBytes := by
  intro size member
  obtain ⟨⟨arrival, admission⟩, inside, sized⟩ := List.mem_filterMap.mp member
  have admitted := admits _ (List.mem_of_mem_filter inside)
  cases admission with
  | answered reply => cases sized
  | forwarded request remaining =>
      cases sized
      have forwards : arrival.call.Forwards settings request := admitted
      rw [forwards.body, RouteCall.body]
      by_cases post : arrival.call.method = .post
      · rw [if_pos post]
        exact (forwards.acceptable post).2
      · rw [if_neg post]
        exact Nat.zero_le _

end Run

/-- The route passes on whole requests or answers them as errors, and what it passes on for one key
in a window is bounded in number and in bytes. -/
theorem route_bounded (settings : RouteSettings) (limit windowSeconds : Int) (pruneInterval : Nat)
    (arrivals : List RouteArrival) (enabled : 0 < limit)
    (ordered : (arrivals.map RouteArrival.now).Pairwise (· ≤ ·)) :
    let admitted := admitAll settings { limit, windowSeconds, pruneInterval } arrivals
    (∀ entry ∈ admitted, entry.1.call.Admits settings entry.2) ∧
      ∀ key start, let sizes := sizesWithin settings windowSeconds key start admitted
        (sizes.length : Int) ≤ limit ∧ (sizes.sum : Int) ≤ limit * settings.maxPostBodyBytes := by
  have admits := admitAll_admits settings { limit, windowSeconds, pruneInterval } arrivals
  refine ⟨admits, fun key start => ?_⟩
  obtain ⟨cap, rfl⟩ := Int.eq_ofNat_of_zero_le enabled.le
  have number : (sizesWithin settings windowSeconds key start
      (admitAll settings { limit := cap, windowSeconds, pruneInterval } arrivals)).length ≤ cap := by
    refine (sizesWithin_length settings _ arrivals windowSeconds key start).trans ?_
    have times : (arrivals.map (RouteArrival.allowCall settings)).map AllowCall.now =
        arrivals.map RouteArrival.now := by
      rw [List.map_map]
      rfl
    rw [← times] at ordered
    obtain ⟨latest, past⟩ := exists_earliest ordered
    have same := answers_history _ (.fresh cap windowSeconds pruneInterval latest) enabled nofun past
    rw [same]
    have limited : ({ limit := cap, windowSeconds } : HistoryLimiter).limit = cap := rfl
    have bounded := answers_bounded _ limited nofun past (Bounded.nil _ _)
    simpa using bounded key start
  have small : ∀ size ∈ sizesWithin settings windowSeconds key start
      (admitAll settings { limit := cap, windowSeconds, pruneInterval } arrivals),
        size ≤ settings.maxPostBodyBytes :=
    sizesWithin_le settings admits
  have total := List.sum_le_card_nsmul _ _ small
  rw [smul_eq_mul] at total
  have volume := total.trans (Nat.mul_le_mul_right _ number)
  exact ⟨by exact_mod_cast number, by exact_mod_cast volume⟩

/-- This client sends its body in chunks. -/
def chunkedCall (stream : List Bytes) : RouteCall where
  client := ⟨some (text "a"), none⟩
  version := text "v1"
  path := text "universe/names/"
  method := .post
  params := ⟨[], List.nodup_nil⟩
  contentLength := none
  stream := stream

/-- The first body fits, the second one is too large, and the third call is over the limit. -/
def chunkedArrivals : List RouteArrival :=
  [⟨0, chunkedCall [[0x5b], [0x31, 0x5d]]⟩, ⟨30, chunkedCall [[0x5b], [0x31, 0x31, 0x31, 0x5d]]⟩,
    ⟨45, chunkedCall [[0x5b], [0x31, 0x5d]]⟩]

theorem route_bounded_chunked :
    let admitted := admitAll { maxPostBodyBytes := 4 }
      { limit := 2, windowSeconds := 60, pruneInterval := 2 } chunkedArrivals
    sizesWithin { maxPostBodyBytes := 4 } (60 : Int) (text "a") (-1) admitted = [3] ∧
      (∀ entry ∈ admitted, entry.1.call.Admits { maxPostBodyBytes := 4 } entry.2) ∧
      ∀ key start, let sizes := sizesWithin { maxPostBodyBytes := 4 } (60 : Int) key start admitted
        (sizes.length : Int) ≤ 2 ∧ (sizes.sum : Int) ≤ 2 * 4 := by
  have sizes : sizesWithin { maxPostBodyBytes := 4 } (60 : Int) (text "a") (-1)
      (admitAll { maxPostBodyBytes := 4 } { limit := 2, windowSeconds := 60, pruneInterval := 2 }
        chunkedArrivals) = [3] := by
    decide +kernel
  exact ⟨sizes, route_bounded { maxPostBodyBytes := 4 } 2 60 2 chunkedArrivals (by decide)
    (by decide +kernel)⟩

/-- A reply is marked as stale exactly when it warns of it. -/
def RouteReply.Warns (reply : RouteReply) : Prop :=
  (text "X-Cache", text "STALE") ∈ reply.headers ↔ (text "Warning", warningStale) ∈ reply.headers

theorem proxyReply_warns (result : ProxyResult) (remaining : Int) :
    (proxyReply result remaining).Warns := by
  have outside (name value : PyStr) (other : name ≠ text "X-RateLimit-Remaining")
      (another : name ≠ text "Location") : (name, value) ∈ (proxyReply result remaining).headers ↔
        (name, value) ∈ cacheStatusHeaders result.cacheStatus := by
    unfold proxyReply
    cases result.location with
    | none => simp [other]
    | some location => by_cases empty : location = [] <;> simp [empty, other, another]
  unfold RouteReply.Warns
  rw [outside _ _ (by decide) (by decide), outside _ _ (by decide) (by decide)]
  cases result.cacheStatus <;> decide +kernel

/-- The route adds only headers to what `proxy_request` returns. -/
theorem proxy_eval {S : Type} {handler : Program.Handler awaits S} {libraries : Libraries}
    {settings : Settings} {request : Request} {remaining : Int} {state final : S}
    {reply : RouteReply}
    (evaluated : Program.eval handler (proxy libraries settings (.forwarded request remaining))
      state = some (reply, final)) :
    ∃ result, Program.eval handler (dispatch libraries settings request) state =
      some (result, final) ∧ reply = proxyReply result remaining ∧ reply.Warns := by
  rw [proxy, Program.eval_bind] at evaluated
  obtain ⟨⟨result, after⟩, dispatched, same⟩ := Option.bind_eq_some_iff.mp evaluated
  cases same
  exact ⟨result, dispatched, rfl, proxyReply_warns result remaining⟩

end EveApiCache
