import EveApiCache.Construction.EsiService
import EveApiCache.Proof.Esi.Pages
import EveApiCache.Proof.Esi.Retry

/-!
This file shows what a fetch of the service makes of the answers of ESI.
-/

namespace EveApiCache
open Effects StepMachine

section Fetch
variable (settings : Settings) (libraries : Libraries) (parsedate : PyStr → Option HttpDate)

/-- A fetch returns the response to the pages that it sees, or raises when it sees none. -/
theorem fetch_upstream (breaker : Breaker) (method : Method) (etag : Option PyStr)
    (answers : EsiAnswers) :
    fetch settings libraries parsedate breaker method.upper etag answers =
      match answers.upstream settings parsedate breaker with
      | some upstream => .returned (respond libraries method etag upstream)
      | none => .raised := by
  have other : isGet method.upper = false ↔ method ≠ .get := by
    cases method with
    | get => exact iff_of_false (by decide) (by decide)
    | post => exact iff_of_true (by decide) (by decide)
  unfold fetch EsiAnswers.upstream
  split_ifs
  · rfl
  · cases (requestWithRetries settings answers.first).ending with
    | unreachable => rfl
    | raised => rfl
    | asserted => rfl
    | returned response =>
        dsimp only
        cases response.received parsedate answers.received with
        | none => rfl
        | some first =>
            simp only [fetchFirst, Option.map_some, respond, fetchPages_paginated, other]
            split_ifs <;> rfl

/-- A response of a fetch is the response to the pages that the fetch sees. -/
theorem fetch_returned {breaker : Breaker} {method : Method} {etag : Option PyStr}
    {answers : EsiAnswers} {response : EsiResponse} :
    fetch settings libraries parsedate breaker method.upper etag answers = .returned response ↔
      ∃ upstream, answers.upstream settings parsedate breaker = some upstream ∧
        respond libraries method etag upstream = response := by
  rw [fetch_upstream]
  cases answers.upstream settings parsedate breaker with
  | none => simp
  | some upstream => simp

end Fetch

section Attempts
variable {settings : Settings} (parsedate : PyStr → Option HttpDate)

/-- A harmless attempt is handled. -/
theorem Harmless.handled {received : Datetime} {attempt : Nat} {outcome : Attempt}
    (harmless : Harmless parsedate settings received attempt outcome) :
    Handled settings attempt outcome := by
  cases outcome with
  | raised => cases harmless
  | unreachable => exact harmless
  | answered time response =>
      unfold Harmless at harmless
      refine ⟨harmless.1, fun retriable left => ?_⟩
      have fits := harmless.2
      rwa [if_pos ⟨retriable, left⟩] at fits

/-- A request whose attempts are handled ends with its first final one. -/
theorem FirstFinal.ending {attempts : Nat → Attempt} {last : Nat}
    (final : FirstFinal settings attempts 0 last)
    (handled : ∀ attempt ≤ last, Handled settings attempt (attempts attempt)) :
    (requestWithRetries settings attempts).ending = (attempts last).ending := by
  have most := final.allowed
  unfold requestWithRetries
  rw [requestFrom_handled _ 0 (by omega) final fun attempt _ => handled attempt]

/-- The request of an answerable fetch ends with its first final attempt. -/
theorem Answerable.ending {answers : EsiAnswers} (answerable : Answerable parsedate settings answers)
    {last : Nat} (final : FirstFinal settings answers.first 0 last) :
    (requestWithRetries settings answers.first).ending = (answers.first last).ending := by
  have most := final.allowed
  refine final.ending fun attempt before => Harmless.handled parsedate
    (answerable attempt (by omega) fun earlier less => ?_)
  exact final.repeated earlier (Nat.zero_le _) (by omega)

/-- An answerable fetch reads the freshness of its first final response. -/
theorem Answerable.received {answers : EsiAnswers} (answerable : Answerable parsedate settings answers)
    {last : Nat} (final : FirstFinal settings answers.first 0 last) {time : ℚ} {response : RawResponse}
    (answered : answers.first last = .answered time response) :
    ∃ first, response.received parsedate answers.received = some first := by
  have harmless := answerable last final.allowed
    fun earlier before => final.repeated earlier (Nat.zero_le _) before
  have ends : ¬(response.retriable = true ∧ last < settings.esiMaxRetries) := by
    rintro ⟨retriable, left⟩
    have single := final.final left
    rw [answered] at single
    exact Bool.false_ne_true (single.symm.trans retriable)
  rw [answered] at harmless
  unfold Harmless at harmless
  have fits := harmless.2
  rw [if_neg ends] at fits
  exact Option.isSome_iff_exists.mp ((received_iff parsedate _ _).mpr fits)

end Attempts

section Steps
variable {libraries : Libraries} {settings : Settings} {parsedate : PyStr → Option HttpDate}
  {state next : Service}

/-- An action of the service with its fetches is one of the service. -/
def sees (settings : Settings) (parsedate : PyStr → Option HttpDate) (state : Service) :
    EsiAction → Option ServiceAction :=
  System.known (Encounter.circumstance settings parsedate) state

theorem esiService_step (action : EsiAction) :
    (esiService libraries settings parsedate).step state action =
      (sees settings parsedate state action).bind ((service libraries settings).step state) :=
  System.translated_step ..

/-- A run of the service with its fetches is a run of the service. -/
theorem esi_guarded {finer : Service → EsiAction → Prop} {guard : Service → ServiceAction → Prop}
    (implies : ∀ state action other, finer state action →
      sees settings parsedate state action = some other → guard state other) {initial : World → Prop}
    (reached : ((esiService libraries settings parsedate).machine initial).Guarded finer state) :
    ((service libraries settings).machine initial).Guarded guard state :=
  System.translated_guarded implies (fun _ started => started) rfl rfl reached

theorem esi_after {finer : Service → EsiAction → Prop} {guard : Service → ServiceAction → Prop}
    (implies : ∀ state action other, finer state action →
      sees settings parsedate state action = some other → guard state other) {initial : World → Prop}
    {start : Service}
    (reached : (((esiService libraries settings parsedate).machine initial).after start).Guarded finer
      state) :
    (((service libraries settings).machine initial).after start).Guarded guard state :=
  System.translated_guarded implies (fun _ started => started) rfl rfl reached

/-- A call of a store or of the coalescer meets the same circumstance in both. -/
theorem sees_proceeds {thread : Nat} {await : Await} {rest : await.Reply → Pipeline Result}
    (standing : state.threads thread = some (.perform await rest)) (now : Datetime)
    (fault : Option Nat) :
    sees settings parsedate state (.proceed thread (.proceeds now fault)) =
      some (.proceed thread (.proceeds now fault)) :=
  System.known_proceed _ standing rfl

/-- A thread whose await is answered takes the same step in both. -/
theorem esi_proceeds {thread : Nat} {await : Await} {rest : await.Reply → Pipeline Result}
    (standing : state.threads thread = some (.perform await rest)) (now : Datetime)
    (fault : Option Nat) :
    (esiService libraries settings parsedate).step state (.proceed thread (.proceeds now fault)) =
      (service libraries settings).step state (.proceed thread (.proceeds now fault)) := by
  rw [esiService_step, sees_proceeds standing, Option.bind_some]

/-- A task starts in both at once. -/
theorem sees_start {action : EsiAction} {thread : Nat} {task : Task}
    (seen : sees settings parsedate state action = some (.start thread task)) :
    action = .start thread task := by
  unfold sees System.known at seen
  cases action with
  | start other entry =>
      cases seen
      rfl
  | outside => cases seen
  | proceed other encounter =>
      dsimp only at seen
      split at seen
      · obtain ⟨_, _, same⟩ := Option.map_eq_some_iff.mp seen
        cases same
      · cases seen

theorem sees_outside {action : EsiAction} {event : Outside}
    (seen : sees settings parsedate state action = some (.outside event)) :
    action = .outside event := by
  unfold sees System.known at seen
  cases action with
  | start => cases seen
  | outside other =>
      cases seen
      rfl
  | proceed other encounter =>
      dsimp only at seen
      split at seen
      · obtain ⟨_, _, same⟩ := Option.map_eq_some_iff.mp seen
        cases same
      · cases seen

/-- This is the await of a leader or of the collector for a fetch, with its method and its ETag. -/
def Await.asks : Await → Option (Method × Option PyStr)
  | .lead _ _ call etag => some (call.method, etag)
  | .fetch call etag => some (call.method, etag)
  | _ => none

theorem sees_fetches {thread : Nat} {await : Await} {rest : await.Reply → Pipeline Result}
    (standing : state.threads thread = some (.perform await rest)) {method : Method}
    {etag : Option PyStr} (asks : await.asks = some (method, etag)) (breaker : Breaker)
    (answers : EsiAnswers) :
    sees settings parsedate state (.proceed thread (.fetches breaker answers)) =
      some (.proceed thread (fetchCircumstance settings parsedate breaker answers)) := by
  refine System.known_proceed _ standing ?_
  cases await with
  | access | coalesce => cases asks
  | lead | fetch => rfl

/-- Only a fetch sees answers of ESI, and they are the pages that it makes of them. -/
theorem sees_answers {action : EsiAction} {thread : Nat} {upstream : Upstream}
    (seen : sees settings parsedate state action = some (.proceed thread (.answers upstream))) :
    ∃ breaker answers, action = .proceed thread (.fetches breaker answers) ∧
      answers.upstream settings parsedate breaker = some upstream := by
  unfold sees System.known at seen
  cases action with
  | start | outside => cases seen
  | proceed other encounter =>
      dsimp only at seen
      split at seen
      · rename_i await rest found
        obtain ⟨circumstance, means, same⟩ := Option.map_eq_some_iff.mp seen
        cases same
        cases encounter with
        | proceeds | cancelled => cases means
        | unanswered => cases await <;> cases means
        | fetches breaker answers =>
            refine ⟨breaker, answers, rfl, ?_⟩
            have same : fetchCircumstance settings parsedate breaker answers = .answers upstream := by
              cases await with
              | access | coalesce => cases means
              | lead | fetch => exact Option.some.inj means
            unfold fetchCircumstance at same
            split at same
            · rename_i found
              cases same
              exact found
            · cases same
      · cases seen

end Steps

section Leader
variable {libraries : Libraries} {settings : Settings} {parsedate : PyStr → Option HttpDate}
  {state : Service}

/-- The flight of a fetch ends with its response or its exception. -/
def fetchOutcome (libraries : Libraries) (method : Method) (etag : Option PyStr) :
    Option Upstream → Coalesce.Outcome EsiResponse Unit
  | some upstream => .returned (respond libraries method etag upstream)
  | none => .raised ()

/-- A leader goes on with the outcome of its fetch. -/
theorem step_lead {leader : Nat} {key : PyStr} {future : Nat} {call : UpstreamCall}
    {etag : Option PyStr} {rest : Flight → Pipeline Result}
    (leading : state.threads leader = some (.perform (.lead key future call etag) rest))
    (breaker : Breaker) (answers : EsiAnswers) :
    ∃ landed, (esiService libraries settings parsedate).step state
        (.proceed leader (.fetches breaker answers)) = some landed ∧
      landed.threads leader = some (rest (.releasing future (fetchOutcome libraries call.method etag
        (answers.upstream settings parsedate breaker)))) := by
  have seen : sees settings parsedate state (.proceed leader (.fetches breaker answers)) =
      some (.proceed leader (fetchCircumstance settings parsedate breaker answers)) :=
    sees_fetches leading (show Await.asks _ = some (call.method, etag) from rfl) breaker answers
  rw [esiService_step, seen, Option.bind_some]
  unfold fetchCircumstance
  cases answers.upstream settings parsedate breaker with
  | some upstream =>
      have performed : state.shared.perform libraries settings (.answers upstream)
          (.lead key future call etag) =
            some (some (.releasing future (.returned (respond libraries call.method etag upstream))),
              { state.shared.log ⟨call, etag, upstream⟩ with
                table := state.shared.table.settle key future
                  (.returned (respond libraries call.method etag upstream)) }) := rfl
      exact ⟨_, System.step_perform (service libraries settings) leading
        (show (service libraries settings).perform (.answers upstream) _ state.shared = _
          from performed), System.answer_threads ..⟩
  | none =>
      have performed : state.shared.perform libraries settings .raises (.lead key future call etag) =
          some (some (.releasing future (.raised ())),
            { state.shared with table := state.shared.table.settle key future (.raised ()) }) := rfl
      exact ⟨_, System.step_perform (service libraries settings) leading
        (show (service libraries settings).perform .raises _ state.shared = _ from performed),
        System.answer_threads ..⟩

end Leader

/-- No header of these responses gives a date. -/
abbrev undated : PyStr → Option HttpDate := fun _ => none

/-- This response states an ETag and a lifetime. -/
def taggedResponse (status : Nat) (content : Bytes) (lifetime : PyStr) : RawResponse where
  status := status
  content := content
  headers name :=
    if name = text "etag" then some (text "A")
    else if name = text "cache-control" then some lifetime
    else none

/-- A task fetches through an idle breaker and is always answered with one response. -/
def asksEsi (thread : Nat) (response : RawResponse) : EsiAction :=
  .proceed thread (.fetches {} (singleAnswer response))

/-- The awaits of these runs are answered at the start of the year. -/
def movesOn (thread : Nat) : EsiAction := .proceed thread (.proceeds ⟨2024, 1, 1, 0, 0, 0, 0⟩ none)

end EveApiCache
