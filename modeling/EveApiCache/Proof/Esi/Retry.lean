import EveApiCache.Proof.Esi.Total

/-!
This file shows when the retry loop returns its first final outcome.
-/

namespace EveApiCache

open Breaker

/-- This is the outcome of a request whose last attempt this is. -/
def Attempt.ending : Attempt → Ending
  | .answered _ response => .returned response
  | .unreachable => .unreachable
  | .raised => .raised

theorem ending_raised {outcome : Attempt} (raised : outcome.ending = .raised) :
    outcome = .raised := by
  cases outcome with
  | answered time response => cases raised
  | unreachable => cases raised
  | raised => rfl

theorem ending_not_asserted (outcome : Attempt) : outcome.ending ≠ .asserted := by
  cases outcome with
  | answered time response => exact nofun
  | unreachable => exact nofun
  | raised => exact nofun

/-- An attempt is handled when neither its bookkeeping nor the sleep after it raises. -/
def Handled (settings : Settings) (attempt : Nat) : Attempt → Prop
  | .answered _ response => NumbersFit settings response ∧
      (response.retriable = true → attempt < settings.esiMaxRetries →
        response.retryAfter ≠ none ∨ attempt < 1024)
  | .unreachable => attempt < settings.esiMaxRetries → attempt < 1024
  | .raised => False

/-- These are the numbers of the attempts that are repeated and of the one that is final. -/
structure FirstFinal (settings : Settings) (attempts : Nat → Attempt) (first last : Nat) : Prop where
  order : first ≤ last
  allowed : (last : Int) ≤ settings.esiMaxRetries
  repeated : ∀ earlier, first ≤ earlier → earlier < last → (attempts earlier).repeats = true
  final : (last : Int) < settings.esiMaxRetries → (attempts last).repeats = false

/-- A request sends its attempts up to the first final one and ends with it. It notes each response
once, in order, sends nothing after a throttle and never fails its assertion. -/
def ReturnsFirstFinal (settings : Settings) (attempts : Nat → Attempt) : Prop :=
  ∃ last, FirstFinal settings attempts 0 last ∧
    let run := requestWithRetries settings attempts
    run.sent = last + 1 ∧ run.ending = (attempts last).ending ∧ run.ending ≠ .asserted ∧
      run.noted = (List.range run.sent).flatMap (fun attempt => (attempts attempt).noted) ∧
      ∀ attempt < last, ∀ time response, attempts attempt = .answered time response →
        response.rateLimited = false

/-- Every attempt that is made is handled. -/
def AttemptsHandled (settings : Settings) (attempts : Nat → Attempt) : Prop :=
  ∀ last, FirstFinal settings attempts 0 last →
    ∀ attempt ≤ last, Handled settings attempt (attempts attempt)

section Loop

variable {settings : Settings} {attempts : Nat → Attempt}

/-- The first final attempt is the only one. -/
theorem FirstFinal.unique {first last other : Nat} (one : FirstFinal settings attempts first last)
    (two : FirstFinal settings attempts first other) : last = other := by
  rcases Nat.lt_trichotomy last other with before | same | after
  · have most := two.allowed
    have repeats := two.repeated last one.order before
    rw [one.final (by omega)] at repeats
    cases repeats
  · exact same
  · have most := one.allowed
    have repeats := one.repeated other two.order after
    rw [two.final (by omega)] at repeats
    cases repeats

/-- A repeated attempt is followed by the attempts up to the first final one. -/
theorem FirstFinal.prepend {first last : Nat} (repeats : (attempts first).repeats = true)
    (later : FirstFinal settings attempts (first + 1) last) :
    FirstFinal settings attempts first last where
  order := (Nat.le_succ first).trans later.order
  allowed := later.allowed
  repeated := by
    intro earlier from_ until_
    rcases Nat.eq_or_lt_of_le from_ with rfl | after
    · exact repeats
    · exact later.repeated earlier after until_
  final := later.final

/-- A repeated attempt is followed by another one when it is handled, and raises otherwise. -/
theorem judge_repeats {attempt : Nat} {outcome : Attempt} (left : attempt < settings.esiMaxRetries)
    (repeats : outcome.repeats = true) :
    (Handled settings attempt outcome → ∃ delay, judge settings attempt outcome = .retry delay) ∧
      (¬Handled settings attempt outcome → judge settings attempt outcome = .finish .raised) := by
  cases outcome with
  | raised => cases repeats
  | unreachable =>
      obtain ⟨small, large⟩ := retryOr_left left .unreachable none
      constructor
      · intro handled
        exact small (.inr (handled left))
      · intro unhandled
        apply large
        rintro (given | small)
        · exact given rfl
        · exact unhandled fun _ => small
  | answered time response =>
      obtain ⟨small, large⟩ := retryOr_left left (.returned response) response.retryAfter
      have limited := retriable_not_limited repeats
      have retriable : response.retriable = true := repeats
      unfold Handled judge
      dsimp only
      rw [← noteRaises_iff]
      cases noted : noteRaises settings response with
      | true => simp
      | false =>
          simp only [limited, retriable]
          exact ⟨fun handled => small (handled.2 trivial left),
            fun unhandled => large fun fits => unhandled ⟨trivial, fun _ _ => fits⟩⟩

/-- A final attempt is the outcome when it is handled, and raises otherwise. -/
theorem judge_ends {attempt : Nat} {outcome : Attempt}
    (final : (attempt : Int) < settings.esiMaxRetries → outcome.repeats = false) :
    (Handled settings attempt outcome →
        judge settings attempt outcome = .finish outcome.ending) ∧
      (¬Handled settings attempt outcome → judge settings attempt outcome = .finish .raised) := by
  cases outcome with
  | raised => exact ⟨fun _ => rfl, fun _ => rfl⟩
  | unreachable =>
      have spent : ¬attempt < settings.esiMaxRetries := fun left => by cases final left
      have ends := retryOr_spent spent .unreachable none
      exact ⟨fun _ => ends, fun unhandled => absurd (fun left => absurd left spent) unhandled⟩
  | answered time response =>
      have last : response.retriable = true → ¬attempt < settings.esiMaxRetries :=
        fun retriable left => Bool.false_ne_true ((final left).symm.trans retriable)
      unfold Handled judge
      dsimp only
      rw [← noteRaises_iff]
      cases noted : noteRaises settings response with
      | true => simp
      | false =>
          constructor
          · intro handled
            rw [if_neg Bool.false_ne_true]
            split_ifs with limited single
            · rfl
            · rfl
            · have retriable : response.retriable = true := by simpa using single
              exact retryOr_spent (last retriable) _ _
          · intro unhandled
            exact absurd ⟨rfl, fun retriable left => absurd left (last retriable)⟩ unhandled

/-- The attempts that are left hold a first final one. -/
theorem firstFinal_exists (rounds attempt : Nat)
    (count : (attempt + rounds : Int) = settings.esiMaxRetries + 1) (positive : 0 < rounds) :
    ∃ last, FirstFinal settings attempts attempt last := by
  induction rounds generalizing attempt with
  | zero => cases positive
  | succ rounds ih =>
      by_cases repeated : (attempts attempt).repeats = true ∧ attempt < settings.esiMaxRetries
      · obtain ⟨last, later⟩ := ih (attempt + 1) (by push_cast at count ⊢; omega) (by omega)
        exact ⟨last, later.prepend repeated.1⟩
      · refine ⟨attempt, le_rfl, by omega, by omega, fun left => ?_⟩
        exact Bool.eq_false_iff.mpr fun repeats => repeated ⟨repeats, left⟩

/-- A first final attempt is the first one or comes after a repeated one. -/
theorem FirstFinal.cases {first last : Nat} (firstFinal : FirstFinal settings attempts first last) :
    last = first ∨ (attempts first).repeats = true ∧ first < settings.esiMaxRetries ∧
      FirstFinal settings attempts (first + 1) last := by
  rcases Nat.eq_or_lt_of_le firstFinal.order with same | after
  · exact .inl same.symm
  · have most := firstFinal.allowed
    exact .inr ⟨firstFinal.repeated first le_rfl after, by omega, after, most,
      fun earlier from_ => firstFinal.repeated earlier (by omega), firstFinal.final⟩

/-- The loop makes its attempts up to the first final one when all of them are handled. -/
theorem requestFrom_handled (rounds attempt : Nat) {last : Nat}
    (count : (attempt + rounds : Int) = settings.esiMaxRetries + 1)
    (firstFinal : FirstFinal settings attempts attempt last)
    (handled : ∀ later, attempt ≤ later → later ≤ last →
      Handled settings later (attempts later)) :
    requestFrom settings attempts rounds attempt =
      ⟨(attempts last).ending, last + 1 - attempt,
        (List.range' attempt (last + 1 - attempt)).flatMap fun later => (attempts later).noted⟩ := by
  induction rounds generalizing attempt with
  | zero =>
      have order := firstFinal.order
      have most := firstFinal.allowed
      omega
  | succ rounds ih =>
      have here := handled attempt le_rfl firstFinal.order
      unfold requestFrom
      rcases firstFinal.cases with rfl | ⟨repeats, left, later⟩
      · rw [(judge_ends firstFinal.final).1 here]
        simp
      · obtain ⟨delay, verdict⟩ := (judge_repeats left repeats).1 here
        have tail := ih (attempt + 1) (by push_cast at count ⊢; omega) later
          fun other after => handled other (by omega)
        have order := later.order
        have split : last + 1 - attempt = last + 1 - (attempt + 1) + 1 := by omega
        rw [verdict, tail, split, List.range'_succ, List.flatMap_cons]

/-- The loop raises when one of its attempts is not handled. -/
theorem requestFrom_unhandled (rounds attempt : Nat) {last unhandled : Nat}
    (count : (attempt + rounds : Int) = settings.esiMaxRetries + 1)
    (firstFinal : FirstFinal settings attempts attempt last)
    (from_ : attempt ≤ unhandled) (until_ : unhandled ≤ last)
    (fails : ¬Handled settings unhandled (attempts unhandled)) :
    (requestFrom settings attempts rounds attempt).ending = .raised := by
  induction rounds generalizing attempt with
  | zero =>
      have order := firstFinal.order
      have most := firstFinal.allowed
      omega
  | succ rounds ih =>
      unfold requestFrom
      rcases firstFinal.cases with rfl | ⟨repeats, left, later⟩
      · have same : unhandled = last := by omega
        subst same
        rw [(judge_ends firstFinal.final).2 fails]
      · by_cases here : Handled settings attempt (attempts attempt)
        · obtain ⟨delay, verdict⟩ := (judge_repeats left repeats).1 here
          rw [verdict]
          apply ih (attempt + 1) (by push_cast at count ⊢; omega) later
          have differs : unhandled ≠ attempt := fun same => fails (same ▸ here)
          omega
        · rw [(judge_repeats left repeats).2 here]

end Loop

/-- The retry loop returns its first final outcome exactly when every attempt that it makes is
handled. -/
theorem requestWithRetries_iff (settings : Settings) (attempts : Nat → Attempt)
    (enabled : 0 ≤ settings.esiMaxRetries) (expected : ∀ attempt, attempts attempt ≠ .raised) :
    ReturnsFirstFinal settings attempts ↔ AttemptsHandled settings attempts := by
  have count : ((0 : Nat) + (settings.esiMaxRetries + 1).toNat : Int) =
      settings.esiMaxRetries + 1 := by omega
  constructor
  · rintro ⟨last, firstFinal, _, ending, _⟩ other same attempt until_
    cases firstFinal.unique same
    by_contra fails
    have raises := requestFrom_unhandled _ 0 count firstFinal (Nat.zero_le _) until_ fails
    have same : (attempts last).ending = .raised := ending.symm.trans raises
    exact expected last (ending_raised same)
  · intro handled
    obtain ⟨last, firstFinal⟩ := @firstFinal_exists settings attempts _ 0 count (by omega)
    have run := requestFrom_handled _ 0 count firstFinal fun later _ => handled last firstFinal later
    refine ⟨last, firstFinal, ?_⟩
    unfold requestWithRetries
    rw [run]
    refine ⟨rfl, rfl, ending_not_asserted _, by simp [List.range_eq_range'], ?_⟩
    intro attempt before time response answered
    have repeats := firstFinal.repeated attempt (Nat.zero_le _) before
    rw [answered] at repeats
    exact retriable_not_limited repeats

/-- The first attempt fails and the later ones are answered with this response. -/
def secondAnswered (response : RawResponse) : Nat → Attempt
  | 0 => .unreachable
  | _ => .answered 1 response

/-- This response states how many errors remain. -/
def remaining (errors : PyStr) : RawResponse where
  status := 200
  content := bytes "[]"
  headers name := if name = text "x-esi-error-limit-remain" then some errors else none

/-- A request that fails once is answered by its second attempt. -/
theorem requestWithRetries_iff_second :
    ReturnsFirstFinal {} (secondAnswered (remaining (text "90"))) := by
  have plain : NumbersFit {} (remaining (text "90")) := (noteRaises_iff {} _).mp (by decide +kernel)
  have single : (remaining (text "90")).retriable = false := by decide
  apply (requestWithRetries_iff {} (secondAnswered (remaining (text "90"))) (by decide) ?_).mpr
  · intro last firstFinal attempt until_
    cases attempt with
    | zero => exact fun _ => by decide
    | succ attempt =>
        refine ⟨plain, fun retriable => ?_⟩
        rw [single] at retriable
        cases retriable
  · intro attempt
    cases attempt with
    | zero => exact nofun
    | succ attempt => exact nofun

/-- A remaining budget of four hundred digits raises, and the response is lost. -/
theorem request_loses_response :
    ¬ReturnsFirstFinal {} (fun _ => .answered 1 (remaining (List.replicate 400 0x39))) := by
  have raises : noteRaises {} (remaining (List.replicate 400 0x39)) = true := by decide +kernel
  rintro ⟨last, firstFinal, _, ending, _⟩
  have fails : ¬Handled {} last (.answered 1 (remaining (List.replicate 400 0x39))) := by
    rintro ⟨fits, _⟩
    rw [← noteRaises_iff, raises] at fits
    cases fits
  have count : ((0 : Nat) + (({} : Settings).esiMaxRetries + 1).toNat : Int) =
      ({} : Settings).esiMaxRetries + 1 := by decide
  have lost := requestFrom_unhandled _ 0 count firstFinal (Nat.zero_le last) le_rfl fails
  rw [show (requestWithRetries {} _).ending = _ from lost] at ending
  cases ending

end EveApiCache
