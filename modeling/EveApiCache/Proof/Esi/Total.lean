import EveApiCache.Construction.Esi.Fetch
import EveApiCache.Proof.Esi.Breaker
import Mathlib.Data.List.TakeWhile

/-!
This file shows when a fetch returns a response for every behaviour of ESI.
-/

namespace EveApiCache

/-- A power below another one has a smaller exponent. -/
theorem exponent_lt {bound exponent attempt : Nat} (short : 2 ^ attempt < 2 ^ exponent - bound) :
    attempt < exponent := by
  by_contra large
  have order := Nat.pow_le_pow_right (show 0 < 2 by decide) (not_lt.mp large)
  exact absurd (order.trans_lt short) (not_lt.mpr (Nat.sub_le _ _))

theorem pow_lt {bound top attempt : Nat} (fits : 2 ^ top < bound) (small : attempt ≤ top) :
    2 ^ attempt < bound := (Nat.pow_le_pow_right (by decide) small).trans_lt fits

/-- The powers of two up to 2^1023 fit a float. -/
theorem fitsFloat_pow (attempt : Nat) : FitsFloat (2 ^ attempt : Nat) ↔ attempt < 1024 := by
  unfold FitsFloat
  rw [Int.natAbs_natCast]
  constructor
  · exact exponent_lt
  · intro small
    have top : 2 ^ 1023 < 2 ^ 1024 - 2 ^ 970 := by decide +kernel
    exact pow_lt top (Nat.le_of_lt_succ small)

section Decimals

theorem decimal_cases (holds : CodePoint → Bool)
    (each : ∀ start ∈ decimalZeros, ∀ offset < 10, holds (point (start + offset)) = true)
    {symbol : CodePoint} (decimal : isDecimal symbol = true) : holds symbol = true := by
  obtain ⟨start, member, inside⟩ := List.any_eq_true.mp decimal
  rw [Bool.and_eq_true, decide_eq_true_eq, decide_eq_true_eq] at inside
  have found := each start member (symbol.val - start) (by omega)
  have same : point (start + (symbol.val - start)) = symbol := by
    apply Fin.ext
    rw [point_val _ (by omega)]
    omega
  rwa [same] at found

/-- A decimal digit is no sign, no underscore and no white space. -/
theorem decimal_plain {symbol : CodePoint} (decimal : isDecimal symbol = true) :
    symbol ≠ 0x2d ∧ symbol ≠ 0x2b ∧ symbol ≠ 0x5f ∧ isWhitespace symbol = false := by
  have plain := decimal_cases (fun symbol => decide (symbol ≠ 0x2d ∧ symbol ≠ 0x2b ∧
    symbol ≠ 0x5f ∧ isWhitespace symbol = false)) (by decide +kernel) decimal
  exact of_decide_eq_true plain

theorem decimalValue_isSome {symbol : CodePoint} (decimal : isDecimal symbol = true) :
    (decimalValue symbol).isSome = true := by
  unfold decimalValue
  rw [Option.isSome_map, List.find?_isSome]
  exact List.any_eq_true.mp decimal

/-- Each digit of a numeral without underscores has a value. -/
theorem digitValues_decimals (digits : PyStr) (filled : digits ≠ [])
    (decimals : ∀ digit ∈ digits, isDecimal digit = true) :
    ∃ values, digitValues digits = some values ∧ values.length = digits.length := by
  induction digits with
  | nil => exact absurd rfl filled
  | cons first rest ih =>
      obtain ⟨value, found⟩ := Option.isSome_iff_exists.mp
        (decimalValue_isSome (decimals first (by simp)))
      cases rest with
      | nil => exact ⟨[value], by simp [digitValues, found], rfl⟩
      | cons next rest =>
          obtain ⟨values, later, length⟩ := ih (by simp) fun digit member =>
            decimals digit (List.mem_cons_of_mem first member)
          have plain := decimal_plain (decimals next (by simp))
          refine ⟨value :: values, ?_, by simp [length]⟩
          rw [digitValues, found]
          simp only [Option.bind_eq_bind, Option.bind_some, if_neg plain.2.2.1, later]
          rfl

theorem strip_decimals (digits : PyStr) (decimals : ∀ digit ∈ digits, isDecimal digit = true) :
    strip digits = digits := by
  have kept : ∀ symbols : PyStr, (∀ symbol ∈ symbols, isDecimal symbol = true) →
      symbols.dropWhile isWhitespace = symbols := by
    intro symbols each
    cases symbols with
    | nil => rfl
    | cons first rest =>
        have plain := decimal_plain (each first (by simp))
        simp [plain.2.2.2]
  unfold strip
  rw [kept digits decimals, kept digits.reverse (by simpa using decimals), List.reverse_reverse]

/-- `int` reads decimal digits exactly when they are not too many. -/
theorem intOfText_decimals (digits : PyStr) (filled : digits ≠ [])
    (decimals : ∀ digit ∈ digits, isDecimal digit = true) :
    (intOfText digits).isSome = true ↔ digits.length ≤ Json.maxIntDigits := by
  obtain ⟨values, found, length⟩ := digitValues_decimals digits filled decimals
  cases digits with
  | nil => exact absurd rfl filled
  | cons first rest =>
      have plain := decimal_plain (decimals first (by simp))
      unfold intOfText
      rw [strip_decimals _ decimals]
      simp only [if_neg plain.1, if_neg plain.2.1, found, Option.bind_eq_bind, Option.bind_some,
        length]
      by_cases short : (first :: rest).length ≤ Json.maxIntDigits
      · rw [if_pos short]
        exact iff_of_true rfl short
      · rw [if_neg short]
        exact iff_of_false Bool.false_ne_true short

end Decimals

/-- The digits of `max-age` are not empty. -/
theorem searchMaxAge_decimals {input digits : PyStr} (found : searchMaxAge input = some digits) :
    digits ≠ [] ∧ ∀ digit ∈ digits, isDecimal digit = true := by
  induction input with
  | nil => cases found
  | cons symbol rest ih =>
      unfold searchMaxAge at found
      dsimp only at found
      split_ifs at found with here
      · cases found
        exact ⟨here.2, fun digit member => List.mem_takeWhile_imp member⟩
      · exact ih found

open Breaker

/-- These requests are repeated while attempts are left. -/
def Attempt.repeats : Attempt → Bool
  | .answered _ response => response.retriable
  | .unreachable => true
  | .raised => false

/-- The integers that the breaker takes from a response fit a float. -/
def NumbersFit (settings : Settings) (response : RawResponse) : Prop :=
  Recorded response ∧ (trips settings response = true → FitsFloat (blockFor settings response))

section Dates
variable (parsedate : PyStr → Option HttpDate)

/-- A stated lifetime has at most 4300 digits, and without a date header it ends in the calendar. -/
def FreshnessFits (received : Datetime) (headers : PyStr → Option PyStr) : Prop :=
  ∀ digits, searchMaxAge ((headers (text "cache-control")).getD []) = some digits →
    digits.length ≤ Json.maxIntDigits ∧
      (expiresDate parsedate headers = none → ∀ seconds, intOfText digits = some seconds →
        received.seconds + seconds.toNat < Datetime.endSeconds)

/-- An attempt is harmless when the code after it does not raise. -/
def Harmless (settings : Settings) (received : Datetime) (attempt : Nat) : Attempt → Prop
  | .answered _ response => NumbersFit settings response ∧
      if response.retriable = true ∧ attempt < settings.esiMaxRetries then
        response.retryAfter ≠ none ∨ attempt < 1024
      else FreshnessFits parsedate received response.headers
  | .unreachable => attempt < settings.esiMaxRetries → attempt < 1024
  | .raised => False

/-- Every attempt that is made is harmless. An attempt is made when all earlier ones are repeated. -/
def Answerable (settings : Settings) (answers : EsiAnswers) : Prop :=
  ∀ attempt : Nat, attempt ≤ settings.esiMaxRetries →
    (∀ earlier < attempt, (answers.first earlier).repeats = true) →
      Harmless parsedate settings answers.received attempt (answers.first attempt)

theorem noteRaises_iff (settings : Settings) (response : RawResponse) :
    noteRaises settings response = false ↔ NumbersFit settings response := by
  unfold noteRaises blockRaises NumbersFit
  rw [Bool.or_eq_false_iff, gaugeRaises_iff]
  cases trips settings response with
  | true => simp
  | false => simp

/-- The two statuses of a throttle are not retriable. -/
theorem retriable_not_limited {response : RawResponse} (retriable : response.retriable = true) :
    response.rateLimited = false := by
  unfold RawResponse.retriable at retriable
  unfold RawResponse.rateLimited
  simp only [Bool.or_eq_true, decide_eq_true_eq] at retriable
  simp only [Bool.or_eq_false_iff, decide_eq_false_iff_not]
  omega

/-- The freshness of a response is read exactly when it fits. -/
theorem received_iff (now : Datetime) (response : RawResponse) :
    (response.received parsedate now).isSome = true ↔
      FreshnessFits parsedate now response.headers := by
  unfold RawResponse.received parseExpires parseMaxAge FreshnessFits
  cases found : searchMaxAge ((response.headers (text "cache-control")).getD []) with
  | none =>
      cases dated : expiresDate parsedate response.headers with
      | none => simp
      | some date => simp
  | some digits =>
      obtain ⟨filled, decimals⟩ := searchMaxAge_decimals found
      have short := intOfText_decimals digits filled decimals
      cases read : intOfText digits with
      | none =>
          rw [read] at short
          have long : ¬digits.length ≤ Json.maxIntDigits := fun fits => by simpa using short.mpr fits
          simp [read, long]
      | some seconds =>
          rw [read] at short
          have fits : digits.length ≤ Json.maxIntDigits := short.mp rfl
          cases dated : expiresDate parsedate response.headers with
          | some date => simp [read, fits]
          | none =>
              by_cases inside : now.seconds + seconds.toNat < Datetime.endSeconds
              · simp [read, fits, Datetime.addSeconds, inside]
              · simp [read, fits, Datetime.addSeconds, inside]

/-- The ending of a request is delivered when it gives a response of `fetch`. -/
def Delivers (received : Datetime) : Ending → Prop
  | .returned response => (response.received parsedate received).isSome = true
  | .unreachable => True
  | .raised => False
  | .asserted => False

/-- A sleep raises exactly when its power of two does not fit a float. -/
theorem retryDelay_eq_none (settings : Settings) (retryAfter : Option Int) (attempt : Nat) :
    retryDelay settings retryAfter attempt = none ↔ ¬(retryAfter ≠ none ∨ attempt < 1024) := by
  unfold retryDelay
  cases retryAfter with
  | some seconds => simp
  | none =>
      dsimp only
      rw [← fitsFloat_pow attempt]
      by_cases fits : FitsFloat (2 ^ attempt : Nat)
      · rw [if_pos fits]
        exact iff_of_false (by simp) fun large => large (.inr fits)
      · rw [if_neg fits]
        exact iff_of_true rfl fun small => fits (small.resolve_left fun given => given rfl)

/-- A failed attempt is repeated while attempts are left and its sleep does not raise. -/
theorem retryOr_left {settings : Settings} {attempt : Nat} (left : attempt < settings.esiMaxRetries)
    (ending : Ending) (retryAfter : Option Int) :
    (retryAfter ≠ none ∨ attempt < 1024 →
        ∃ delay, retryOr settings ending retryAfter attempt = .retry delay) ∧
      (¬(retryAfter ≠ none ∨ attempt < 1024) →
        retryOr settings ending retryAfter attempt = .finish .raised) := by
  have raises := retryDelay_eq_none settings retryAfter attempt
  unfold retryOr
  rw [if_neg (not_le.mpr left)]
  cases delayed : retryDelay settings retryAfter attempt with
  | none =>
      constructor
      · intro small
        exact absurd small (raises.mp delayed)
      · intro large
        rfl
  | some delay =>
      constructor
      · intro small
        exact ⟨delay, rfl⟩
      · intro large
        rw [raises.mpr large] at delayed
        cases delayed

/-- The last failed attempt ends the request. -/
theorem retryOr_spent {settings : Settings} {attempt : Nat}
    (spent : ¬attempt < settings.esiMaxRetries) (ending : Ending) (retryAfter : Option Int) :
    retryOr settings ending retryAfter attempt = .finish ending := by
  unfold retryOr
  rw [if_pos (not_lt.mp spent)]

/-- A repeated attempt is followed by another one when it is harmless, and raises otherwise. -/
theorem judge_repeated {settings : Settings} {attempt : Nat} {outcome : Attempt}
    (left : attempt < settings.esiMaxRetries) (repeats : outcome.repeats = true)
    (received : Datetime) :
    (Harmless parsedate settings received attempt outcome →
        ∃ delay, judge settings attempt outcome = .retry delay) ∧
      (¬Harmless parsedate settings received attempt outcome →
        judge settings attempt outcome = .finish .raised) := by
  cases outcome with
  | raised => cases repeats
  | unreachable =>
      obtain ⟨small, large⟩ := retryOr_left left .unreachable none
      constructor
      · intro harmless
        exact small (.inr (harmless left))
      · intro harmful
        apply large
        rintro (given | small)
        · exact given rfl
        · exact harmful fun _ => small
  | answered time response =>
      obtain ⟨small, large⟩ := retryOr_left left (.returned response) response.retryAfter
      have limited := retriable_not_limited repeats
      have retriable : response.retriable = true := repeats
      unfold Harmless judge
      dsimp only
      rw [if_pos ⟨retriable, left⟩, ← noteRaises_iff]
      cases noted : noteRaises settings response with
      | true => simp
      | false =>
          simp only [limited, retriable]
          exact ⟨fun harmless => small harmless.2, fun harmful => large fun fits => harmful ⟨trivial, fits⟩⟩

/-- A last attempt ends the request, and its ending is delivered when it is harmless. -/
theorem judge_final {settings : Settings} {attempt : Nat} {outcome : Attempt}
    (final : ¬(outcome.repeats = true ∧ attempt < settings.esiMaxRetries)) (received : Datetime) :
    ∃ ending, judge settings attempt outcome = .finish ending ∧
      (Delivers parsedate received ending ↔
        Harmless parsedate settings received attempt outcome) := by
  cases outcome with
  | raised => exact ⟨.raised, rfl, Iff.rfl⟩
  | unreachable =>
      have spent : ¬attempt < settings.esiMaxRetries := fun left => final ⟨rfl, left⟩
      refine ⟨.unreachable, retryOr_spent spent .unreachable none, ?_⟩
      apply iff_of_true trivial
      intro left
      exact absurd left spent
  | answered time response =>
      have last : ¬(response.retriable = true ∧ attempt < settings.esiMaxRetries) := final
      unfold Harmless judge
      dsimp only
      rw [if_neg last, ← noteRaises_iff]
      cases noted : noteRaises settings response with
      | true => exact ⟨.raised, rfl, by simp [Delivers]⟩
      | false =>
          have ends : (if response.rateLimited = true then Verdict.finish (.returned response)
              else if (!response.retriable) = true then .finish (.returned response)
              else retryOr settings (.returned response) response.retryAfter attempt) =
                .finish (.returned response) := by
            split_ifs with limited single
            · rfl
            · rfl
            · have retriable : response.retriable = true := by simpa using single
              exact retryOr_spent (fun left => last ⟨retriable, left⟩) _ _
          refine ⟨.returned response, ends, ?_⟩
          rw [Delivers, received_iff]
          simp

/-- The request is delivered from an attempt on when every later attempt that is made is harmless. -/
theorem requestFrom_delivers (settings : Settings) (received : Datetime) (attempts : Nat → Attempt)
    (rounds attempt : Nat) (count : (attempt + rounds : Int) = settings.esiMaxRetries + 1)
    (positive : 0 < rounds) :
    Delivers parsedate received (requestFrom settings attempts rounds attempt).ending ↔
      ∀ later : Nat, attempt ≤ later → later ≤ settings.esiMaxRetries →
        (∀ earlier, attempt ≤ earlier → earlier < later → (attempts earlier).repeats = true) →
          Harmless parsedate settings received later (attempts later) := by
  induction rounds generalizing attempt with
  | zero => cases positive
  | succ rounds ih =>
      unfold requestFrom
      by_cases repeated : (attempts attempt).repeats = true ∧ attempt < settings.esiMaxRetries
      · obtain ⟨small, large⟩ := judge_repeated parsedate repeated.2 repeated.1 received
        by_cases harmless : Harmless parsedate settings received attempt (attempts attempt)
        · obtain ⟨delay, verdict⟩ := small harmless
          rw [verdict]
          dsimp only
          rw [ih (attempt + 1) (by push_cast at count ⊢; omega) (by omega)]
          constructor
          · intro rest later order most before
            rcases Nat.eq_or_lt_of_le order with rfl | after
            · exact harmless
            · exact rest later after most fun earlier from_ => before earlier (by omega)
          · intro all later order most before
            apply all later (by omega) most
            intro earlier from_ until_
            rcases Nat.eq_or_lt_of_le from_ with rfl | after
            · exact repeated.1
            · exact before earlier after until_
        · rw [large harmless]
          apply iff_of_false
          · exact fun delivered => delivered
          · intro all
            exact harmless (all attempt (Nat.le_refl _) (by omega) (by omega))
      · obtain ⟨ending, verdict, delivers⟩ := judge_final parsedate repeated received
        rw [verdict]
        dsimp only
        rw [delivers]
        constructor
        · intro harmless later order most before
          rcases Nat.eq_or_lt_of_le order with rfl | after
          · exact harmless
          · have repeats := before attempt (Nat.le_refl _) after
            exact absurd ⟨repeats, by omega⟩ repeated
        · intro all
          exact all attempt (Nat.le_refl _) (by omega) (by omega)

/-- The pages of a fetch that all complete give a response. -/
theorem fetchPages_returned (settings : Settings) (libraries : Libraries) (first : HttpResponse)
    (answers : EsiAnswers) :
    ∃ response, fetchPages settings libraries first answers = .returned response := by
  have order := answers.complete (laterPages first)
  have gathered := @Gather.gather_complete _ _ _ (laterPages first)
    (fun page =>
      fetchPage libraries (totalPages first) page (pageAnswer settings (answers.pages page)))
    (answers.completions (laterPages first)) (fun page => order.mem_iff.mp)
    (fun page => order.mem_iff.mpr)
  unfold fetchPages gatherPages
  rw [gathered]
  split_ifs
  · cases (laterPages first).mapM fun page =>
        fetchPage libraries (totalPages first) page (pageAnswer settings (answers.pages page)) with
    | none => exact ⟨_, rfl⟩
    | some fetched => exact ⟨_, rfl⟩
  · exact ⟨_, rfl⟩

/-- A received first page gives a response. -/
theorem fetchFirst_returned (settings : Settings) (libraries : Libraries) (method : PyStr)
    (etag : Option PyStr) (first : HttpResponse) (answers : EsiAnswers) :
    ∃ response, fetchFirst settings libraries method etag first answers = .returned response := by
  unfold fetchFirst
  split_ifs
  · exact ⟨_, rfl⟩
  · exact ⟨_, rfl⟩
  · exact fetchPages_returned settings libraries first answers

/-- A fetch of an open breaker returns exactly when its first request is delivered. -/
theorem fetch_delivers (settings : Settings) (libraries : Libraries) (breaker : Breaker)
    (method : PyStr) (etag : Option PyStr) (answers : EsiAnswers)
    (closed : breaker.blocked answers.called = false) :
    (∃ response, fetch settings libraries parsedate breaker method etag answers = .returned response) ↔
      Delivers parsedate answers.received (requestWithRetries settings answers.first).ending := by
  unfold fetch
  rw [closed]
  cases (requestWithRetries settings answers.first).ending with
  | returned response =>
      simp only [Bool.false_eq_true, if_false, Delivers]
      cases response.received parsedate answers.received with
      | none => simp
      | some first => simpa using fetchFirst_returned settings libraries method etag first answers
  | unreachable => simp [Delivers]
  | raised => simp [Delivers]
  | asserted => simp [Delivers]

/-- A fetch returns a response exactly when the breaker is tripped or every attempt of its first page
that is made is harmless. -/
theorem fetch_returns_iff (settings : Settings) (libraries : Libraries) (breaker : Breaker)
    (method : PyStr) (etag : Option PyStr) (answers : EsiAnswers)
    (attempted : 0 ≤ settings.esiMaxRetries) :
    (∃ response, fetch settings libraries parsedate breaker method etag answers = .returned response) ↔
      breaker.blocked answers.called = true ∨ Answerable parsedate settings answers := by
  cases blocked : breaker.blocked answers.called with
  | true =>
      apply iff_of_true
      · exact ⟨blockedResponse breaker.errorLimitRemain breaker.errorLimitReset, if_pos blocked⟩
      · exact .inl rfl
  | false =>
      have count : ((0 : Nat) + (settings.esiMaxRetries + 1).toNat : Int) =
          settings.esiMaxRetries + 1 := by omega
      rw [fetch_delivers parsedate settings libraries breaker method etag answers blocked,
        requestWithRetries, requestFrom_delivers parsedate settings answers.received answers.first
          (settings.esiMaxRetries + 1).toNat 0 count (by omega)]
      simp [Answerable]

end Dates

/-- These libraries neither compress nor write Parquet. -/
def clientLibraries : Libraries where
  floatRepr := id
  floatInt _ := none
  sha256 body := body.map fun symbol => point symbol.val
  queryDigest body := body.map fun symbol => point symbol.val
  zstandard := none
  zlib := ⟨fun _ body => body, some, fun _ _ => rfl⟩
  pyarrow := none
  jsonb _ := none

/-- ESI answers each attempt of a fetch with one response and has no further pages. -/
def singleAnswer (response : RawResponse) : EsiAnswers where
  called := 100
  received := ⟨2026, 6, 1, 12, 0, 0, 0⟩
  first _ := .answered 101 response
  pages _ _ := .unreachable
  completions pages := pages
  complete pages := .refl pages

/-- This response states its lifetime in one header. -/
def cachedFor (maxAge : PyStr) : RawResponse where
  status := 200
  content := bytes "[]"
  headers name := if name = text "cache-control" then some maxAge else none

/-- A lifetime of five minutes is harmless, so the fetch returns. -/
theorem fetch_returns_iff_short : ∃ response,
    fetch {} clientLibraries (fun _ => none) {} (text "GET") none
      (singleAnswer (cachedFor (text "max-age=300"))) = .returned response := by
  apply (fetch_returns_iff (fun _ => none) {} clientLibraries {} (text "GET") none
    (singleAnswer (cachedFor (text "max-age=300"))) (by decide)).mpr
  right
  intro attempt _ repeated
  cases attempt with
  | succ attempt => exact absurd (repeated 0 (Nat.succ_pos attempt)) (by decide)
  | zero =>
      have plain : NumbersFit {} (cachedFor (text "max-age=300")) :=
        (noteRaises_iff {} _).mp (by decide +kernel)
      have found : searchMaxAge (text "max-age=300") = some (text "300") := by decide +kernel
      have seconds : intOfText (text "300") = some 300 := by decide +kernel
      refine ⟨plain, ?_⟩
      intro digits same
      rw [show (((cachedFor (text "max-age=300")).headers (text "cache-control")).getD []) =
        text "max-age=300" from by decide +kernel, found] at same
      cases same
      refine ⟨by decide +kernel, ?_⟩
      intro _ lifetime read
      rw [seconds] at read
      cases read
      decide +kernel

/-- A lifetime of a million years ends after the calendar, so the fetch raises. -/
theorem fetch_raises_long : ¬∃ response,
    fetch {} clientLibraries (fun _ => none) {} (text "GET") none
      (singleAnswer (cachedFor (text "max-age=31536000000000"))) = .returned response := by
  have open_ : ({} : Breaker).blocked 100 = false := by decide +kernel
  have ending : (requestWithRetries {}
      (singleAnswer (cachedFor (text "max-age=31536000000000"))).first).ending =
        .returned (cachedFor (text "max-age=31536000000000")) := rfl
  have lost : ((cachedFor (text "max-age=31536000000000")).received (fun _ => none)
      ⟨2026, 6, 1, 12, 0, 0, 0⟩).isSome = false := by decide +kernel
  rw [fetch_delivers (fun _ => none) {} clientLibraries {} (text "GET") none _ open_, ending]
  intro delivered
  exact absurd (lost.symm.trans delivered) Bool.false_ne_true

end EveApiCache
