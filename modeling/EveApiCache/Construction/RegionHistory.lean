import EveApiCache.Construction.Discovery
import EveApiCache.Library.FairSemaphore
import EveApiCache.Library.StepMachine

/-!
This file models the fan-out of `collect_market_history_for_region` in `app/collector.py`.
-/

namespace EveApiCache
open FairSemaphore StepMachine

/-- The calls of `fetch_one` are listed by where they stand: before their first step, in the line of
the semaphore, inside `collect_market_history`, or ended. An exception is no outcome, since the
caller gathers it. The field `calls` is not state of the program: it lists the calls of
`collect_market_history` in their order. -/
structure RegionHistory where
  created : List Int
  semaphore : Semaphore Int
  fetching : List Int := []
  ended : List (Int × Option Bool) := []
  calls : List Int := []

/-- A call of `fetch_one` begins, gets its turn at the semaphore, or sees its fetch end. -/
inductive RegionHistoryAction where
  | begin (typeId : Int)
  | turn (typeId : Int)
  | finish (typeId : Int) (outcome : Option Bool)

namespace RegionHistory

def create (concurrency : Nat) (typeIds : List Int) : RegionHistory where
  created := typeIds
  semaphore := ⟨concurrency, [], []⟩

/-- This is the body of `async with sem` up to its await. -/
def enter (run : RegionHistory) (typeId : Int) : RegionHistory :=
  { run with
    fetching := typeId :: run.fetching
    calls := run.calls ++ [typeId] }

def step (run : RegionHistory) : RegionHistoryAction → Option RegionHistory
  | .begin typeId =>
      if typeId ∈ run.created then
        let begun := { run with created := run.created.erase typeId }
        if run.semaphore.locked then some { begun with semaphore := run.semaphore.enqueue typeId }
        else some ({ begun with semaphore := run.semaphore.take }.enter typeId)
      else none
  | .turn typeId =>
      if typeId ∈ run.semaphore.granted then
        some ({ run with semaphore := run.semaphore.resume typeId }.enter typeId)
      else none
  | .finish typeId outcome =>
      if typeId ∈ run.fetching then
        some { run with
          fetching := run.fetching.erase typeId
          semaphore := run.semaphore.release
          ended := run.ended ++ [(typeId, outcome)] }
      else none

/-- This is the result of `asyncio.gather`, in the order of its arguments. -/
def results (run : RegionHistory) (typeIds : List Int) : Option (List (Option Bool)) :=
  typeIds.mapM fun typeId => run.ended.lookup typeId

/-- This is the number that the function returns once all of its calls have ended. -/
def successes (run : RegionHistory) (typeIds : List Int) : Option Nat :=
  (run.results typeIds).map fun outcomes => outcomes.countP fun outcome => outcome = some true

end RegionHistory

/-- A client whose breaker is tripped starts no call. -/
def historyTypeIds (blocked : Bool) (discovery : Discovery) : List Int :=
  if blocked then [] else discovery.typeIds

def regionHistoryMachine (concurrency : Nat) (typeIds : List Int) :
    Machine RegionHistory RegionHistoryAction where
  initial run := run = .create concurrency typeIds
  step := RegionHistory.step

end EveApiCache
