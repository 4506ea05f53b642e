import EveApiCache.Proof.RateLimit.Window
import EveApiCache.Proof.Text
import Mathlib.Data.List.TakeWhile

/-!
This file shows when the rate limit of one client holds behind a trusted proxy.
-/

namespace EveApiCache

open SlidingWindow

theorem firstHop_address (address : ClientAddress) : firstHop address.value = address.value := by
  have whole : address.value.takeWhile (· ≠ 0x2c) = address.value := by
    apply List.takeWhile_eq_self_iff.mpr
    intro symbol member
    simpa using (address.plain symbol member).1
  rw [firstHop, whole]
  exact strip_plain _ fun symbol member => (address.plain symbol member).2

/-- What follows a comma does not change the first hop. -/
theorem firstHop_append (value rest : PyStr) :
    firstHop (value ++ text ", " ++ rest) = firstHop value := by
  have comma : (text ", " ++ rest).takeWhile (· ≠ 0x2c) = [] := by
    have head : text ", " = [0x2c, 0x20] := by decide
    simp [head]
  unfold firstHop
  rw [List.append_assoc, List.takeWhile_append, comma, List.append_nil]
  split
  · rename_i full
    rw [(List.takeWhile_prefix _).eq_of_length full]
  · rfl

/-- The trusted proxy is asked for the address of its client. -/
theorem clientKey_absent {trustedProxies : List PyStr} {peer : PyStr}
    (trusted : peer ∈ trustedProxies) (address : ClientAddress) :
    clientKey (reverseProxied peer address none) trustedProxies = address.value := by
  simp [clientKey, reverseProxied, trusted, address.filled, firstHop_address]

/-- The client chooses its key when it sends a header. -/
theorem clientKey_supplied {trustedProxies : List PyStr} {peer : PyStr}
    (trusted : peer ∈ trustedProxies) (address : ClientAddress) (value : PyStr) :
    clientKey (reverseProxied peer address (some value)) trustedProxies = firstHop value := by
  have filled : value ++ text ", " ++ address.value ≠ [] := by simp [address.filled]
  simp only [clientKey, reverseProxied, Option.getD_some, if_pos trusted, if_neg filled]
  exact firstHop_append value address.value

/-- A client that sends a header puts its own address first. -/
def OwnHop (address : ClientAddress) : Option PyStr → Prop
  | none => True
  | some value => firstHop value = address.value

/-- The key does not depend on the supplied header exactly when its first hop is the address. -/
theorem clientKey_independent_iff {trustedProxies : List PyStr} {peer : PyStr}
    (trusted : peer ∈ trustedProxies) (address : ClientAddress) (supplied : Option PyStr) :
    clientKey (reverseProxied peer address supplied) trustedProxies =
        clientKey (reverseProxied peer address none) trustedProxies ↔ OwnHop address supplied := by
  rw [clientKey_absent trusted address]
  cases supplied with
  | none => simp [OwnHop, clientKey_absent trusted address]
  | some value => rw [clientKey_supplied trusted address, OwnHop]

section Serve

variable (trustedProxies : List PyStr) (peer : PyStr) (address : ClientAddress)

/-- This is the key of an arrival. -/
def Arrival.key (arrival : Arrival) : PyStr :=
  clientKey (arrival.caller.request peer address) trustedProxies

/-- These are the hits of the requests that passed. -/
def passedHits (replies : List (Arrival × GateReply)) : List (Hit PyStr ℚ) :=
  (replies.filter (·.2.isPassed)).map fun reply =>
    ⟨reply.1.key trustedProxies peer address, reply.1.now⟩

/-- These are the requests of the client that passed in a window. -/
def clientPassed (replies : List (Arrival × GateReply)) (start length : ℚ) :
    List (Arrival × GateReply) :=
  replies.filter fun reply => reply.2.isPassed && reply.1.caller.isClient &&
    decide (start < reply.1.now ∧ reply.1.now ≤ start + length)

theorem serve_arrivals (limiter : RateLimiter) (arrivals : List Arrival) :
    (serve trustedProxies peer address limiter arrivals).map Prod.fst = arrivals := by
  induction arrivals generalizing limiter with
  | nil => rfl
  | cons arrival rest ih => simp [serve, ih]

/-- The gate lets a request pass when the limiter admits its key. -/
theorem gate_passed (limiter : RateLimiter) (now : ℚ) (request : ClientRequest) :
    (rateLimitGate limiter trustedProxies now request).1.isPassed =
        (limiter.allow now (clientKey request trustedProxies)).1.1 ∧
      (rateLimitGate limiter trustedProxies now request).2 =
        (limiter.allow now (clientKey request trustedProxies)).2 := by
  unfold rateLimitGate
  dsimp only
  split
  · rename_i admitted
    exact ⟨admitted.symm, rfl⟩
  · rename_i denied
    exact ⟨(Bool.eq_false_iff.mpr denied).symm, rfl⟩

/-- No window holds more passed requests of one key than the limit. -/
theorem serve_bounded {limit : Nat} (arrivals : List Arrival) {limiter : RateLimiter}
    {history : List (Hit PyStr ℚ)} {latest : ℚ} (follows : limiter.Follows history latest)
    (cap : limiter.limit = limit) (enabled : 0 < limit)
    (ordered : (latest :: arrivals.map Arrival.now).Pairwise (· ≤ ·))
    (bounded : Bounded (limiter.windowSeconds : ℚ) limit history) :
    Bounded (limiter.windowSeconds : ℚ) limit (history ++
      passedHits trustedProxies peer address
        (serve trustedProxies peer address limiter arrivals)) := by
  induction arrivals generalizing limiter history latest with
  | nil => simpa [serve, passedHits] using bounded
  | cons arrival rest ih =>
      rw [List.map_cons, List.pairwise_cons] at ordered
      have later : latest ≤ arrival.now := ordered.1 _ (List.mem_cons_self ..)
      obtain ⟨room, _, sameLimit, sameWindow, next⟩ := RateLimiter.allow_follows follows
        (by omega) later (arrival.key trustedProxies peer address)
      obtain ⟨passed, moved⟩ := gate_passed trustedProxies limiter arrival.now
        (arrival.caller.request peer address)
      rw [serve]
      dsimp only
      rw [moved]
      change Bounded _ _ (history ++ passedHits trustedProxies peer address
        ((arrival, _) :: serve trustedProxies peer address (limiter.allow arrival.now
          (arrival.key trustedProxies peer address)).2 rest))
      have rule := ih next (sameLimit.trans cap) ordered.2
      rw [sameWindow] at rule
      cases admitted : (limiter.allow arrival.now (arrival.key trustedProxies peer address)).1.1 with
      | false =>
          have skipped := passed.trans admitted
          rw [admitted] at rule
          simpa [passedHits, skipped, RateLimiter.recorded] using rule bounded
      | true =>
          have counted := passed.trans admitted
          rw [admitted] at rule
          have free := Bounded.admitted bounded (arrival.key trustedProxies peer address) arrival.now
            (by simpa [cap] using room.mp admitted)
          simpa [passedHits, counted, RateLimiter.recorded] using rule free

/-- Requests with one key in a window are no more than the hits of that key. -/
theorem clientPassed_length (replies : List (Arrival × GateReply)) (key : PyStr)
    (same : ∀ reply ∈ replies, ∀ supplied, reply.1.caller = .client supplied →
      reply.1.key trustedProxies peer address = key) (start length : ℚ) :
    (clientPassed replies start length).length ≤
      (within length (passedHits trustedProxies peer address replies) key start).length := by
  induction replies with
  | nil => simp [clientPassed]
  | cons reply replies ih =>
      have rest := ih fun other member => same other (List.mem_cons_of_mem _ member)
      have here := same reply (List.mem_cons_self ..)
      unfold clientPassed passedHits at rest ⊢
      cases passed : reply.2.isPassed with
      | false => simpa [passed] using rest
      | true =>
          have head : (reply :: replies).filter (·.2.isPassed) =
              reply :: replies.filter (·.2.isPassed) := List.filter_cons_of_pos passed
          rw [head, List.map_cons, within_cons, List.length_append]
          cases caller : reply.1.caller with
          | other request =>
              rw [List.filter_cons_of_neg (by simp [caller, Caller.isClient])]
              omega
          | client supplied =>
              have equal := here supplied caller
              by_cases inside : start < reply.1.now ∧ reply.1.now ≤ start + length
              · rw [List.filter_cons_of_pos (by simp [passed, caller, inside, Caller.isClient]),
                  if_pos ⟨equal, inside⟩, List.length_cons, List.length_singleton]
                omega
              · rw [List.filter_cons_of_neg (by simp [inside])]
                omega

end Serve

/-- The key of the client does not depend on what it sends, and no window holds more of its passed
requests than the limit. -/
def LimitKept (trustedProxies : List PyStr) (peer : PyStr) (address : ClientAddress)
    (limiter : RateLimiter) (arrivals : List Arrival) : Prop :=
  (∀ arrival ∈ arrivals, ∀ supplied, arrival.caller = .client supplied →
    clientKey (reverseProxied peer address supplied) trustedProxies =
      clientKey (reverseProxied peer address none) trustedProxies) ∧
  ∀ start, ((clientPassed (serve trustedProxies peer address limiter arrivals) start
    limiter.windowSeconds).length : Int) ≤ limiter.limit

/-- A switched-off limiter lets every request pass. -/
theorem serve_unlimited (trustedProxies : List PyStr) (peer : PyStr) (address : ClientAddress)
    (limiter : RateLimiter) (off : limiter.limit ≤ 0) (arrivals : List Arrival) :
    ∀ reply ∈ serve trustedProxies peer address limiter arrivals, reply.2.isPassed = true := by
  induction arrivals with
  | nil => simp [serve]
  | cons arrival rest ih =>
      intro reply member
      rw [serve, rateLimitGate, RateLimiter.allow, if_pos off] at member
      rcases List.mem_cons.mp member with rfl | member
      · rfl
      · exact ih reply member

/-- The limit of a client holds exactly when it is positive and the client names itself first in
every header that it sends. -/
theorem limitKept_iff {trustedProxies : List PyStr} {peer : PyStr}
    (trusted : peer ∈ trustedProxies) (address : ClientAddress)
    (limit windowSeconds : Int) (pruneInterval : Nat) (moving : 0 < windowSeconds)
    (arrivals : List Arrival) (ordered : (arrivals.map Arrival.now).Pairwise (· ≤ ·))
    (sent : ∃ arrival ∈ arrivals, ∃ supplied, arrival.caller = .client supplied) :
    LimitKept trustedProxies peer address { limit, windowSeconds, pruneInterval } arrivals ↔
      0 < limit ∧ ∀ arrival ∈ arrivals, ∀ supplied, arrival.caller = .client supplied →
        OwnHop address supplied := by
  constructor
  · rintro ⟨same, bound⟩
    refine ⟨?_, fun arrival member supplied caller =>
      (clientKey_independent_iff trusted address supplied).mp (same arrival member supplied caller)⟩
    by_contra off
    have disabled : limit ≤ 0 := not_lt.mp off
    obtain ⟨arrival, member, supplied, caller⟩ := sent
    have listed := serve_arrivals trustedProxies peer address
      { limit, windowSeconds, pruneInterval } arrivals
    rw [← listed] at member
    obtain ⟨reply, replied, rfl⟩ := List.mem_map.mp member
    have passed := serve_unlimited trustedProxies peer address
      { limit, windowSeconds, pruneInterval } disabled arrivals reply replied
    have length : (0 : ℚ) < windowSeconds := by exact_mod_cast moving
    have counted : reply ∈ clientPassed (serve trustedProxies peer address
        { limit, windowSeconds, pruneInterval } arrivals) (reply.1.now - windowSeconds)
        windowSeconds := by
      apply List.mem_filter.mpr
      exact ⟨replied, by simp [passed, caller, Caller.isClient, length]⟩
    have few := bound (reply.1.now - windowSeconds)
    have some_passed := List.length_pos_of_mem counted
    dsimp only at few
    omega
  · rintro ⟨enabled, own⟩
    have same : ∀ arrival ∈ arrivals, ∀ supplied, arrival.caller = .client supplied →
        clientKey (reverseProxied peer address supplied) trustedProxies = address.value := by
      intro arrival member supplied caller
      rw [(clientKey_independent_iff trusted address supplied).mpr
        (own arrival member supplied caller), clientKey_absent trusted address]
    refine ⟨fun arrival member supplied caller => ?_, fun start => ?_⟩
    · rw [same arrival member supplied caller, clientKey_absent trusted address]
    · obtain ⟨bound, rfl⟩ := Int.eq_ofNat_of_zero_le enabled.le
      obtain ⟨first, rest, rfl⟩ := List.exists_cons_of_ne_nil
        (fun none : arrivals = [] => by simp [none] at sent)
      have bounded := serve_bounded trustedProxies peer address (first :: rest)
        (RateLimiter.Follows.fresh bound windowSeconds pruneInterval first.now) rfl
        (by exact_mod_cast enabled)
        (List.pairwise_cons.mpr ⟨fun time member => by
          rcases List.mem_cons.mp member with rfl | member
          · exact le_rfl
          · exact (List.pairwise_cons.mp ordered).1 time member, ordered⟩)
        (Bounded.nil (windowSeconds : ℚ) bound)
      have fewer := clientPassed_length trustedProxies peer address
        (serve trustedProxies peer address { limit := bound, windowSeconds, pruneInterval }
          (first :: rest)) address.value (fun reply replied supplied caller => by
            have member := List.mem_map_of_mem (f := Prod.fst) replied
            rw [serve_arrivals] at member
            rw [Arrival.key, caller]
            exact same reply.1 member supplied caller) start windowSeconds
      exact Int.ofNat_le.mpr (fewer.trans (bounded address.value start))

/-- This proxy address is trusted. -/
def frontProxy : PyStr := text "10.0.0.1"

def homeAddress : ClientAddress where
  value := text "9.9.9.9"
  filled := by decide +kernel
  plain := by
    have checked : (text "9.9.9.9").all (fun symbol => symbol ≠ 0x2c && !isWhitespace symbol) := by
      decide +kernel
    intro symbol member
    simpa using List.all_eq_true.mp checked symbol member

/-- Two requests that name themselves first, or not at all, share one bucket. -/
theorem limitKept_iff_ownHop :
    LimitKept [frontProxy] frontProxy homeAddress { limit := 1 }
      [⟨1000, .client none⟩, ⟨1001, .client (some (text "9.9.9.9, 8.8.8.8"))⟩] :=
  (limitKept_iff (by decide) homeAddress 1 60 1000 (by decide) _ (by decide +kernel)
    ⟨_, List.mem_cons_self .., none, rfl⟩).mpr
    ⟨by decide, fun arrival member supplied caller => by
      simp only [List.mem_cons, List.not_mem_nil, or_false] at member
      rcases member with rfl | rfl
      · cases caller
        trivial
      · cases caller
        change firstHop _ = _
        decide +kernel⟩

/-- Two forged headers give two buckets, and both requests pass a limit of one. -/
theorem limitKept_forged :
    ¬LimitKept [frontProxy] frontProxy homeAddress { limit := 1 }
      [⟨1000, .client (some (text "1.1.1.1"))⟩, ⟨1000, .client (some (text "2.2.2.2"))⟩] := by
  rintro ⟨_, bound⟩
  have few : ((clientPassed _ 999 _).length : Int) ≤ 1 := bound 999
  have two : (clientPassed (serve [frontProxy] frontProxy homeAddress { limit := 1 }
      [⟨1000, .client (some (text "1.1.1.1"))⟩, ⟨1000, .client (some (text "2.2.2.2"))⟩]) 999
        (60 : Int)).length = 2 := by
    decide +kernel
  rw [two] at few
  omega

end EveApiCache
