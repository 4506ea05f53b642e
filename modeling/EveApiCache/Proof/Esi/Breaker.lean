import EveApiCache.Construction.Esi.Breaker

/-!
This file shows when the breaker blocks for the window that a response asks for.
-/

namespace EveApiCache

namespace Breaker

/-- A block that ends at some time covers a positive window from now on, which is at least as long as
the reset value when there is one. -/
def Covers (blockedUntil now : ℚ) (reset : Option Int) : Prop :=
  ∃ length : ℚ, 0 < length ∧ (∀ seconds, reset = some seconds → (seconds : ℚ) ≤ length) ∧
    ∀ time, now ≤ time → time < now + length → time < blockedUntil

/-- The longest window of a block is the time that is left. -/
theorem covers_iff (blockedUntil now : ℚ) (reset : Option Int) :
    Covers blockedUntil now reset ↔
      now < blockedUntil ∧ ∀ seconds, reset = some seconds → now + (seconds : ℚ) ≤ blockedUntil := by
  constructor
  · rintro ⟨length, positive, long, inside⟩
    have reaches : now + length ≤ blockedUntil := by
      by_contra short
      have late : now ≤ max now blockedUntil := le_max_left _ _
      have early : max now blockedUntil < now + length :=
        max_lt (lt_add_of_pos_right now positive) (not_le.mp short)
      exact absurd (inside _ late early) (not_lt.mpr (le_max_right _ _))
    constructor
    · exact inside now (le_refl _) (lt_add_of_pos_right now positive)
    · intro seconds given
      exact (add_le_add_right (long seconds given) now).trans reaches
  · rintro ⟨later, long⟩
    refine ⟨blockedUntil - now, sub_pos.mpr later, ?_, ?_⟩
    · intro seconds given
      exact le_sub_iff_add_le'.mpr (long seconds given)
    · intro time _ before
      rwa [add_sub_cancel] at before

/-- The integers that a response states fit a float, and the first header that names a block names
one that is positive and not shorter than the reset. -/
inductive Lasting (settings : Settings) (response : RawResponse) : Prop where
  | retryAfter {seconds : Int} (given : response.retryAfter = some seconds) (positive : 0 < seconds)
      (fits : FitsFloat seconds)
      (covers : ∀ reset, response.reset = some reset → reset ≤ seconds)
  | reset {seconds : Int} (skipped : response.retryAfter = none ∨ response.retryAfter = some 0)
      (given : response.reset = some seconds) (positive : 0 < seconds) (fits : FitsFloat seconds)
  | default (skipped : response.retryAfter = none ∨ response.retryAfter = some 0)
      (absent : response.reset = none ∨ response.reset = some 0)
      (positive : 0 < settings.esiErrorBudgetBlockSeconds)
      (fits : FitsFloat settings.esiErrorBudgetBlockSeconds)

/-- The remaining budget that a response states fits a float. -/
def Recorded (response : RawResponse) : Prop :=
  ∀ remain, response.remain = some remain → FitsFloat remain

theorem orElse_skipped {value : Option Int} (skipped : value = none ∨ value = some 0)
    (otherwise : Int) : orElse value otherwise = otherwise := by
  rcases skipped with rfl | rfl
  · rfl
  · rfl

theorem orElse_given {seconds : Int} (nonzero : seconds ≠ 0) (otherwise : Int) :
    orElse (some seconds) otherwise = seconds := if_neg nonzero

/-- A value is skipped or is the one that is taken. -/
theorem skipped_or_given (value : Option Int) :
    (value = none ∨ value = some 0) ∨ ∃ seconds, value = some seconds ∧ seconds ≠ 0 := by
  cases value with
  | none => exact .inl (.inl rfl)
  | some seconds =>
      by_cases zero : seconds = 0
      · exact .inl (.inr (by rw [zero]))
      · exact .inr ⟨seconds, rfl, zero⟩

/-- The headers last exactly when the block that is chosen from them does. -/
theorem lasting_iff (settings : Settings) (response : RawResponse) :
    Lasting settings response ↔ FitsFloat (blockFor settings response) ∧
      0 < blockFor settings response ∧
        ∀ reset, response.reset = some reset → reset ≤ blockFor settings response := by
  unfold blockFor
  constructor
  · intro lasting
    cases lasting with
    | retryAfter given positive fits covers =>
        rw [given, orElse_given positive.ne']
        exact ⟨fits, positive, covers⟩
    | reset skipped given positive fits =>
        rw [orElse_skipped skipped, given, orElse_given positive.ne']
        refine ⟨fits, positive, ?_⟩
        intro reset same
        cases same
        exact le_refl _
    | default skipped absent positive fits =>
        rw [orElse_skipped skipped, orElse_skipped absent]
        refine ⟨fits, positive, ?_⟩
        intro reset given
        rcases absent with absent | absent
        · rw [absent] at given
          cases given
        · rw [absent] at given
          cases given
          exact positive.le
  · rintro ⟨fits, positive, covers⟩
    rcases skipped_or_given response.retryAfter with skipped | ⟨seconds, given, nonzero⟩
    · rw [orElse_skipped skipped] at fits positive covers
      rcases skipped_or_given response.reset with absent | ⟨seconds, given, nonzero⟩
      · rw [orElse_skipped absent] at fits positive
        exact .default skipped absent positive fits
      · rw [given, orElse_given nonzero] at fits positive
        exact .reset skipped given positive fits
    · rw [given, orElse_given nonzero] at fits positive covers
      exact .retryAfter given positive fits covers

theorem gaugeRaises_iff (response : RawResponse) :
    gaugeRaises response = false ↔ Recorded response := by
  unfold gaugeRaises Recorded
  cases response.remain with
  | none => simp
  | some remain => simp

/-- The headers that state the budget do not move the end of the block. -/
@[simp] theorem setHeaders_blockedUntil (breaker : Breaker) (remain reset : Option Int) :
    ((breaker.setRemain remain).setReset reset).budgetBlockedUntil = breaker.budgetBlockedUntil := by
  cases remain <;> cases reset <;> rfl

@[simp] theorem setRemain_blockedUntil (breaker : Breaker) (remain : Option Int) :
    (breaker.setRemain remain).budgetBlockedUntil = breaker.budgetBlockedUntil := by
  cases remain <;> rfl

/-- A response never moves the end of the block earlier. -/
theorem le_noteResponseBudget (settings : Settings) (breaker : Breaker) (now : ℚ)
    (response : RawResponse) : breaker.budgetBlockedUntil ≤
      (breaker.noteResponseBudget settings now response).1.budgetBlockedUntil := by
  unfold noteResponseBudget
  dsimp only
  split_ifs <;> simp

/-- A response that trips the breaker extends the block unless an integer does not fit a float. -/
theorem noteResponseBudget_trips (settings : Settings) (breaker : Breaker) (now : ℚ)
    (response : RawResponse) (trip : trips settings response = true) :
    (breaker.noteResponseBudget settings now response).1.budgetBlockedUntil =
      if gaugeRaises response = false ∧ FitsFloat (blockFor settings response) then
        max breaker.budgetBlockedUntil (now + blockFor settings response)
      else breaker.budgetBlockedUntil := by
  unfold noteResponseBudget blockRaises
  by_cases gauge : gaugeRaises response = true
  · simp [gauge]
  · by_cases fits : FitsFloat (blockFor settings response)
    · simp [gauge, trip, fits]
    · simp [gauge, trip, fits]

/-- A response finds a block that covers its window. -/
def AlreadyBlocked (breaker : Breaker) (arrival : NotedResponse) : Prop :=
  arrival.time < breaker.budgetBlockedUntil ∧
    ∀ reset, arrival.response.reset = some reset →
      arrival.time + (reset : ℚ) ≤ breaker.budgetBlockedUntil

/-- The window of a tripping response is covered exactly when it was covered before or the response
is recorded and its headers last. -/
theorem covers_noteResponseBudget_iff (settings : Settings) (breaker : Breaker)
    (arrival : NotedResponse) (trip : trips settings arrival.response = true) :
    Covers (breaker.noteResponseBudget settings arrival.time arrival.response).1.budgetBlockedUntil
        arrival.time arrival.response.reset ↔
      breaker.AlreadyBlocked arrival ∨
        Recorded arrival.response ∧ Lasting settings arrival.response := by
  rw [covers_iff, noteResponseBudget_trips settings breaker _ _ trip, ← gaugeRaises_iff, lasting_iff]
  by_cases noted : gaugeRaises arrival.response = false ∧ FitsFloat (blockFor settings arrival.response)
  · rw [if_pos noted]
    constructor
    · rintro ⟨later, long⟩
      by_cases ahead : arrival.time + (blockFor settings arrival.response : ℚ) ≤
          breaker.budgetBlockedUntil
      · rw [max_eq_left ahead] at later long
        exact .inl ⟨later, long⟩
      · rw [max_eq_right (not_le.mp ahead).le] at later long
        refine .inr ⟨noted.1, noted.2, ?_, ?_⟩
        · exact_mod_cast pos_of_lt_add_right later
        · intro reset given
          exact_mod_cast (add_le_add_iff_left arrival.time).mp (long reset given)
    · rintro (⟨later, long⟩ | ⟨_, _, positive, covers⟩)
      · refine ⟨later.trans_le (le_max_left _ _), ?_⟩
        intro reset given
        exact (long reset given).trans (le_max_left _ _)
      · have ahead : (0 : ℚ) < blockFor settings arrival.response := by exact_mod_cast positive
        refine ⟨(lt_add_of_pos_right _ ahead).trans_le (le_max_right _ _), ?_⟩
        intro reset given
        have shorter : (reset : ℚ) ≤ blockFor settings arrival.response := by
          exact_mod_cast covers reset given
        exact (add_le_add_right shorter _).trans (le_max_right _ _)
  · rw [if_neg noted]
    constructor
    · intro covered
      exact .inl covered
    · rintro (covered | ⟨recorded, fits, _⟩)
      · exact covered
      · exact absurd ⟨recorded, fits⟩ noted

@[simp] theorem noteAll_append (settings : Settings) (breaker : Breaker)
    (earlier later : List NotedResponse) :
    breaker.noteAll settings (earlier ++ later) =
      (breaker.noteAll settings earlier).noteAll settings later := List.foldl_append

@[simp] theorem noteAll_cons (settings : Settings) (breaker : Breaker) (arrival : NotedResponse)
    (later : List NotedResponse) : breaker.noteAll settings (arrival :: later) =
      (breaker.noteResponseBudget settings arrival.time arrival.response).1.noteAll settings later :=
  rfl

/-- Later responses never move the end of the block earlier. -/
theorem le_noteAll (settings : Settings) (breaker : Breaker) (later : List NotedResponse) :
    breaker.budgetBlockedUntil ≤ (breaker.noteAll settings later).budgetBlockedUntil := by
  induction later generalizing breaker with
  | nil => exact le_refl _
  | cons arrival later ih =>
      rw [noteAll_cons]
      exact (le_noteResponseBudget settings breaker arrival.time arrival.response).trans (ih _)

/-- A later end of the block covers the same window. -/
theorem Covers.mono {blockedUntil later now : ℚ} {reset : Option Int}
    (covers : Covers blockedUntil now reset) (order : blockedUntil ≤ later) :
    Covers later now reset := by
  obtain ⟨length, positive, long, inside⟩ := covers
  exact ⟨length, positive, long, fun time late early => (inside time late early).trans_le order⟩

/-- The windows of a run are kept when every tripping response is followed by a block that covers its
window, whatever responses come later, and the end of the block never moves earlier. -/
def WindowsKept (settings : Settings) (breaker : Breaker) (noted : List NotedResponse) : Prop :=
  (∀ earlier arrival between later, noted = earlier ++ arrival :: (between ++ later) →
    trips settings arrival.response = true →
      Covers (breaker.noteAll settings (earlier ++ arrival :: between)).budgetBlockedUntil
        arrival.time arrival.response.reset) ∧
    ∀ earlier later, noted = earlier ++ later →
      (breaker.noteAll settings earlier).budgetBlockedUntil ≤
        (breaker.noteAll settings noted).budgetBlockedUntil

/-- The windows are kept exactly when each tripping response finds its window blocked already or
states integers that fit a float and a block that is positive and not shorter than its reset. -/
theorem windowsKept_iff (settings : Settings) (breaker : Breaker) (noted : List NotedResponse) :
    WindowsKept settings breaker noted ↔
      ∀ earlier arrival later, noted = earlier ++ arrival :: later →
        trips settings arrival.response = true →
          (breaker.noteAll settings earlier).AlreadyBlocked arrival ∨
            Recorded arrival.response ∧ Lasting settings arrival.response := by
  constructor
  · rintro ⟨windows, _⟩ earlier arrival later split trip
    have covers := windows earlier arrival [] later split trip
    rw [noteAll_append] at covers
    exact (covers_noteResponseBudget_iff settings _ arrival trip).mp covers
  · intro met
    constructor
    · intro earlier arrival between later split trip
      have covers := (covers_noteResponseBudget_iff settings _ arrival trip).mpr
        (met earlier arrival (between ++ later) split trip)
      rw [noteAll_append, noteAll_cons]
      exact covers.mono (le_noteAll settings _ between)
    · rintro earlier later rfl
      rw [noteAll_append]
      exact le_noteAll settings _ later

/-- This response asks for a retry after 5 seconds while its error window lasts 60 seconds. -/
def earlyRetry : RawResponse where
  status := 420
  content := []
  headers name :=
    if name = text "retry-after" then some (text "5")
    else if name = text "x-esi-error-limit-reset" then some (text "60")
    else none

/-- The breaker of a new client is open again before the error window of the response resets. -/
theorem windowsKept_earlyRetry :
    ¬WindowsKept {} {} [⟨100, earlyRetry⟩] := by
  intro kept
  have covers := kept.1 [] ⟨100, earlyRetry⟩ [] [] rfl (by decide +kernel)
  have long := (covers_iff _ _ _).mp covers
  have reset : earlyRetry.reset = some 60 := by decide +kernel
  have ends : (({} : Breaker).noteAll {} [⟨100, earlyRetry⟩]).budgetBlockedUntil = 105 := by
    decide +kernel
  have short : (100 : ℚ) + ((60 : Int) : ℚ) ≤ 105 := ends ▸ long.2 60 reset
  exact absurd short (by decide +kernel)

end Breaker

end EveApiCache
