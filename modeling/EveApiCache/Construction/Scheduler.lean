import EveApiCache.Construction.Config
import EveApiCache.Library.StepMachine

/-!
This file models `app/scheduler.py` and the database connections that its jobs hold.
-/

namespace EveApiCache

open StepMachine

/-- This is one `add_job` call. The first run is an offset in seconds from the start. -/
structure ScheduledJob where
  id : PyStr
  seconds : Int
  firstRun : ℚ
  jitter : Int

def startupDelaySeconds : ℚ := 15

def jitterSeconds : Int := 10

def pricesStartSeconds : ℚ := 20

def universeStartSeconds : ℚ := 30

def universeStaggerSeconds : ℚ := 60

def historyStartSeconds : ℚ := 120

def historyStaggerSeconds : ℚ := 600

def marketOrdersId (regionId : Int) : PyStr := text "market_orders_" ++ intStr regionId

def marketHistoryId (regionId : Int) : PyStr := text "market_history_" ++ intStr regionId

def universeIds : List PyStr :=
  [text "system_jumps", text "system_kills", text "sovereignty_map",
    text "sovereignty_structures", text "incursions", text "industry_facilities"]

/-- This function lists the jobs that `create_scheduler` registers. -/
def createScheduler (settings : Settings) : List ScheduledJob :=
  let ordersStep : ℚ := settings.pollMarketOrdersSeconds / max settings.marketRegionIds.length 1
  settings.marketRegionIds.mapIdx (fun index regionId =>
    ⟨marketOrdersId regionId, settings.pollMarketOrdersSeconds,
      startupDelaySeconds + index * ordersStep, jitterSeconds⟩) ++
  [⟨text "market_prices", settings.pollMarketPricesSeconds, pricesStartSeconds, jitterSeconds⟩] ++
  settings.marketRegionIds.mapIdx (fun index regionId =>
    ⟨marketHistoryId regionId, settings.pollMarketHistorySeconds,
      historyStartSeconds + index * historyStaggerSeconds, jitterSeconds⟩) ++
  universeIds.mapIdx fun index id =>
    ⟨id, settings.pollUniverseSeconds,
      universeStartSeconds + index * universeStaggerSeconds, jitterSeconds⟩

/-- The scheduler does not start with a repeated job id, because the job store refuses it. -/
def startedJobs (settings : Settings) : List PyStr :=
  let ids := (createScheduler settings).map ScheduledJob.id
  if ids.Nodup then ids else []

/-- This is the number of connections that the pool of `create_async_engine` opens. A pool size of
zero and a negative overflow set no limit. -/
def poolCapacity (settings : Settings) : Option Nat :=
  if settings.dbPoolSize = 0 ∨ settings.dbMaxOverflow < 0 then none
  else some (settings.dbPoolSize + settings.dbMaxOverflow).toNat

/-- A job opens its lock session and pins a connection for the whole of `fn`, which needs further
connections one at a time. -/
inductive JobPhase where
  | idle
  | opening
  | working
  | waiting
  | using
  deriving DecidableEq

/-- This is the number of connections that a job holds. -/
def JobPhase.held : JobPhase → Nat
  | .idle | .opening => 0
  | .working | .waiting => 1
  | .using => 2

structure ConnectionState where
  phase : PyStr → JobPhase
  requests : Nat

def ConnectionState.moved (state : ConnectionState) (id : PyStr) (phase : JobPhase) : ConnectionState :=
  { state with phase := Function.update state.phase id phase }

/-- This is the number of connections in use, those of proxy requests included. -/
def ConnectionState.used (state : ConnectionState) (jobs : List PyStr) : Nat :=
  state.requests + (jobs.map fun id => (state.phase id).held).sum

/-- The lock is obtained or held by another instance, and a checkout may time out. -/
inductive ConnectionAction where
  | fire (id : PyStr)
  | openLockSession (id : PyStr) (gotLock : Bool)
  | ask (id : PyStr)
  | checkout (id : PyStr)
  | checkin (id : PyStr)
  | timeOut (id : PyStr)
  | finish (id : PyStr)
  | requestCheckout
  | requestCheckin

/-- A connection is free while the pool may open another one. -/
def ConnectionState.hasFree (state : ConnectionState) (jobs : List PyStr) : Option Nat → Bool
  | none => true
  | some capacity => state.used jobs < capacity

/-- This is one step of `_run_singleton_job` or of a proxy request. At most one instance of a job
runs. -/
def ConnectionState.step (capacity : Option Nat) (jobs : List PyStr) (state : ConnectionState) :
    ConnectionAction → Option ConnectionState
  | .fire id =>
      if id ∈ jobs ∧ state.phase id = .idle then some (state.moved id .opening) else none
  | .openLockSession id gotLock =>
      if state.phase id = .opening ∧ state.hasFree jobs capacity then
        some (state.moved id (if gotLock then .working else .idle))
      else none
  | .ask id => if state.phase id = .working then some (state.moved id .waiting) else none
  | .checkout id =>
      if state.phase id = .waiting ∧ state.hasFree jobs capacity then some (state.moved id .using)
      else none
  | .checkin id => if state.phase id = .using then some (state.moved id .working) else none
  | .timeOut id =>
      if state.phase id = .opening then some (state.moved id .idle)
      else if state.phase id = .waiting then some (state.moved id .working)
      else none
  | .finish id => if state.phase id = .working then some (state.moved id .idle) else none
  | .requestCheckout =>
      if state.hasFree jobs capacity then some { state with requests := state.requests + 1 }
      else none
  | .requestCheckin =>
      if 0 < state.requests then some { state with requests := state.requests - 1 } else none

/-- The service starts with every job idle and every connection free. -/
def connectionPool (settings : Settings) : Machine ConnectionState ConnectionAction where
  initial state := state = ⟨fun _ => .idle, 0⟩
  step := ConnectionState.step (poolCapacity settings) (startedJobs settings)

/-- This is the number of lock sessions whose own job waits for another connection. -/
def ConnectionState.stuck (state : ConnectionState) (jobs : List PyStr) : Nat :=
  jobs.countP fun id => state.phase id = .waiting

/-- Every connection of the pool is pinned by a lock session whose own job waits for another one. -/
def ConnectionState.Deadlocked (settings : Settings) (state : ConnectionState) : Prop :=
  ∃ capacity, poolCapacity settings = some capacity ∧ 0 < capacity ∧
    state.stuck (startedJobs settings) = capacity

end EveApiCache
