import EveApiCache.Construction.Esi.Fetch
import EveApiCache.Construction.World
import EveApiCache.Library.Translated

/-!
This file models the tasks of the service with the requests of `ESIClient.fetch` behind each fetch.
-/

namespace EveApiCache
open Effects StepMachine

/-- An await proceeds at some time and may meet a fault, is not answered by a store, or is cancelled.
A fetch finds the breaker in some state and sees the answers of ESI as they arrive. -/
inductive Encounter where
  | proceeds (now : Datetime) (fault : Option Nat)
  | unanswered
  | cancelled
  | fetches (breaker : Breaker) (answers : EsiAnswers)

section Fetch
variable (settings : Settings) (parsedate : PyStr → Option HttpDate)

/-- These are the pages that a fetch sees, or nothing when it raises. -/
def EsiAnswers.upstream (breaker : Breaker) (answers : EsiAnswers) : Option Upstream :=
  if breaker.blocked answers.called then
    some (.blocked breaker.errorLimitRemain breaker.errorLimitReset)
  else
    match (requestWithRetries settings answers.first).ending with
    | .returned response =>
        (response.received parsedate answers.received).map fun first =>
          .answered first fun page => pageAnswer settings (answers.pages page)
    | .unreachable => some .unreachable
    | .raised => none
    | .asserted => none

/-- A fetch that raises does so in the task that awaits it. -/
def fetchCircumstance (breaker : Breaker) (answers : EsiAnswers) : Circumstance :=
  match answers.upstream settings parsedate breaker with
  | some upstream => .answers upstream
  | none => .raises

/-- An encounter is a circumstance of the await that meets it. -/
def Encounter.circumstance : Encounter → Await → Option Circumstance
  | .proceeds now fault, _ => some (.proceeds now fault)
  | .cancelled, _ => some .cancelled
  | .unanswered, .access _ => some .raises
  | .fetches breaker answers, .lead _ _ _ _ => some (fetchCircumstance settings parsedate breaker answers)
  | .fetches breaker answers, .fetch _ _ => some (fetchCircumstance settings parsedate breaker answers)
  | _, _ => none

end Fetch

abbrev EsiAction := PoolAction Task Encounter Outside

/-- Each fetch of the service runs `ESIClient.fetch`. -/
def esiService (libraries : Libraries) (settings : Settings) (parsedate : PyStr → Option HttpDate) :
    System awaits Result World Task Encounter Outside :=
  (service libraries settings).translated (Encounter.circumstance settings parsedate)

/-- The machine starts with empty stores. -/
abbrev esiMachine (libraries : Libraries) (settings : Settings)
    (parsedate : PyStr → Option HttpDate) : Machine Service EsiAction :=
  (esiService libraries settings parsedate).machine World.Fresh

end EveApiCache
