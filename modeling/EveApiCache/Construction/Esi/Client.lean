import EveApiCache.Construction.Esi.Fetch
import EveApiCache.Construction.Esi.Pacer
import EveApiCache.Library.FairSemaphore

/-!
This file models concurrent calls of `ESIClient.fetch` in `app/esi_client.py`.
-/

namespace EveApiCache

open FairSemaphore StepMachine

/-- A task is a call of `fetch` or one `fetch_page` of a call. -/
inductive ClientRole where
  | call (method : PyStr)
  | page (parent number : Nat) (total : Int)
  deriving DecidableEq

/-- This is the await at which a task stands. A task that runs stands at none. -/
inductive ClientPhase where
  | created
  | pageQueue
  | running
  | pacing
  | upstreamQueue
  | sending
  | retrying
  | gathering
  | ended
  deriving DecidableEq

/-- A task knows the number of its attempt, the end of its sleep and whether it raised. -/
structure ClientTask where
  role : ClientRole
  phase : ClientPhase
  attempt : Nat := 0
  wakes : ℚ := 0
  failed : Bool := false
  deriving DecidableEq

def ClientTask.fresh (role : ClientRole) (phase : ClientPhase) : ClientTask :=
  { role := role, phase := phase }

/-- A request goes to ESI at some time, and the breaker blocks until some time. -/
structure Sending where
  task : Nat
  time : ℚ
  blockedUntil : ℚ
  deriving DecidableEq

/-- This is an `ESIClient` with the tasks of its calls, which are known by their positions. -/
structure Client where
  breaker : Breaker
  pacer : Pacer
  pageSem : Semaphore Nat
  upstreamSem : Semaphore Nat
  tasks : List ClientTask
  sent : List Sending

/-- A task is its own number in the queue of the pacer. -/
def Pacer.arriveAs (pacer : Pacer) (rate : ℚ) (task : Nat) : Pacer :=
  { pacer with calls := task }.arrive rate

/-- A call has left the pacer. -/
def Pacer.hasLeft (before after : Pacer) : Bool := before.passed.length < after.passed.length

def ClientRole.isPage : ClientRole → Bool
  | .page .. => true
  | .call _ => false

namespace Client

/-- This is `ESIClient.__init__`. -/
def create (settings : Settings) (now : ℚ) : Client where
  breaker := {}
  pacer := Pacer.create settings.esiMaxRequestsPerSecond now
  pageSem := ⟨settings.pageConcurrency, [], []⟩
  upstreamSem := ⟨settings.upstreamConcurrency, [], []⟩
  tasks := []
  sent := []

def now (client : Client) : ℚ := client.pacer.now

def change (client : Client) (task : Nat) (next : ClientTask → ClientTask) : Client :=
  { client with tasks := client.tasks.modify task next }

def stand (client : Client) (task : Nat) (phase : ClientPhase) : Client :=
  client.change task fun current => { current with phase := phase }

/-- A task with a permit sends its request. -/
def send (client : Client) (task : Nat) : Client :=
  { client with
    sent := client.sent ++ [Sending.mk task client.now client.breaker.budgetBlockedUntil]
    }.stand task .sending

/-- A paced task takes an upstream permit or waits for one. -/
def acquireUpstream (client : Client) (task : Nat) : Client :=
  if client.upstreamSem.locked then
    { client with upstreamSem := client.upstreamSem.enqueue task }.stand task .upstreamQueue
  else { client with upstreamSem := client.upstreamSem.take }.send task

/-- A task that left the pacer goes on, and another one stays there. -/
def paced (client : Client) (task : Nat) (pacer : Pacer) : Client :=
  if Pacer.hasLeft client.pacer pacer then
    ({ client with pacer := pacer }.stand task .running).acquireUpstream task
  else { client with pacer := pacer }.stand task .pacing

section Settings
variable (settings : Settings)

/-- This is one round of the loop in `_request_with_retries` up to its first await. -/
def attempt (client : Client) (task : Nat) : Client :=
  client.paced task (client.pacer.arriveAs settings.esiMaxRequestsPerSecond task)

/-- A page gives back its permit and ends. -/
def endPage (client : Client) (task : Nat) (failed : Bool) : Client :=
  { client with pageSem := client.pageSem.release }.change task fun current =>
    { current with phase := .ended, failed := failed }

def endCall (client : Client) (task : Nat) (failed : Bool) : Client :=
  client.change task fun current => { current with phase := .ended, failed := failed }

/-- These are the pages of one call. -/
def pageTasks (parent : Nat) (total : Int) : List ClientTask :=
  (List.range' 2 (total.toNat - 1)).map fun number => .fresh (.page parent number total) .created

/-- The call waits for its pages. -/
def fanOut (client : Client) (task : Nat) (total : Int) : Client :=
  let waits := client.stand task .gathering
  { waits with tasks := waits.tasks ++ pageTasks task total }

section Libraries
variable (libraries : Libraries) (parsedate : PyStr → Option HttpDate)

/-- A first page with status 200 announces the pages of a `GET`. -/
def announced (method : PyStr) (first : HttpResponse) : Option Int :=
  if first.status ≠ 200 ∨ isGet method = false then none
  else if 1 < totalPages first then some (totalPages first) else none

/-- This is `fetch` after its first request. -/
def finishCall (client : Client) (task : Nat) (method : PyStr) (received : Datetime) :
    Ending → Client
  | .returned response =>
      match response.received parsedate received with
      | some first =>
          match announced method first with
          | some total => client.fanOut task total
          | none => client.endCall task false
      | none => client.endCall task true
  | .unreachable => client.endCall task false
  | .raised => client.endCall task true
  | .asserted => client.endCall task true

/-- This is `fetch_page` after its request. -/
def finishPage (client : Client) (task : Nat) (number : Nat) (total : Int) : Ending → Client
  | .returned response =>
      client.endPage task (fetchPage libraries total number (some response.page)).isNone
  | _ => client.endPage task true

def finish (client : Client) (task : Nat) (role : ClientRole) (received : Datetime) (ending : Ending) :
    Client :=
  match role with
  | .call method => client.finishCall parsedate task method received ending
  | .page _ number total => client.finishPage libraries task number total ending

/-- This is `_request_with_retries` up to its first await. Without a round its assertion fails. -/
def request (client : Client) (task : Nat) (role : ClientRole) (received : Datetime) : Client :=
  if settings.esiMaxRetries < 0 then client.finish libraries parsedate task role received .asserted
  else client.attempt settings task

/-- The breaker notes a response. -/
def note (client : Client) : Attempt → Client
  | .answered _ response =>
      { client with
        breaker := (client.breaker.noteResponseBudget settings client.now response).1 }
  | _ => client

/-- An attempt gives back its permit, and the request ends or sleeps. -/
def complete (client : Client) (task : Nat) (current : ClientTask) (received : Datetime)
    (answer : Attempt) : Client :=
  let client := { client with upstreamSem := client.upstreamSem.release }.stand task .running
  let client := client.note settings answer
  match judge settings current.attempt answer with
  | .finish ending => client.finish libraries parsedate task current.role received ending
  | .retry delay => client.change task fun task =>
      { task with phase := .retrying, attempt := current.attempt + 1, wakes := client.now + delay }

end Libraries

end Settings

/-- The pages of a call have ended or one of them has raised. -/
def gathered (client : Client) (parent : Nat) : Bool :=
  (client.tasks.any fun task => match task.role with
    | .page owner _ _ => owner = parent && task.failed
    | .call _ => false) ||
  client.tasks.all fun task => match task.role with
    | .page owner _ _ => owner ≠ parent || task.phase = .ended
    | .call _ => true

end Client

/-- The clock goes on, calls arrive, and tasks take their steps. `received` is the date of a step. -/
inductive ClientAction where
  | tick (now : ℚ)
  | call (method : PyStr) (received : Datetime)
  | begin (task : Nat) (received : Datetime)
  | pageTurn (task : Nat) (received : Datetime)
  | pacerTurn (task : Nat)
  | pacerWake (task : Nat)
  | upstreamTurn (task : Nat)
  | complete (task : Nat) (received : Datetime) (answer : Attempt)
  | retry (task : Nat)
  | gather (task : Nat)

section Steps
variable (settings : Settings) (libraries : Libraries) (parsedate : PyStr → Option HttpDate)

namespace Client

/-- This is `fetch` up to its first await. A blocked call ends at once. -/
def arrive (client : Client) (method : PyStr) (received : Datetime) : Client :=
  let task := client.tasks.length
  if client.breaker.blocked client.now then
    { client with tasks := client.tasks ++ [ClientTask.fresh (.call method) .ended] }
  else
    { client with tasks := client.tasks ++ [ClientTask.fresh (.call method) .running] }.request settings
      libraries parsedate task (.call method) received

/-- A new page task takes a page permit or waits for one. -/
def beginPage (client : Client) (task : Nat) (current : ClientTask) (received : Datetime) : Client :=
  if client.pageSem.locked then
    { client with pageSem := client.pageSem.enqueue task }.stand task .pageQueue
  else
    ({ client with pageSem := client.pageSem.take }.stand task .running).request settings libraries
      parsedate task current.role received

/-- A task takes one step from the await at which it stands. -/
def stepTask (client : Client) (task : Nat) (current : ClientTask) : ClientAction → Option Client
  | .begin _ received =>
      if current.phase = .created then
        some (client.beginPage settings libraries parsedate task current received)
      else none
  | .pageTurn _ received =>
      if current.phase = .pageQueue ∧ task ∈ client.pageSem.granted then
        some (({ client with pageSem := client.pageSem.resume task }.stand task .running).request
          settings libraries parsedate task current.role received)
      else none
  | .pacerTurn _ =>
      if current.phase = .pacing ∧ client.pacer.waiting.head? = some task then
        (client.pacer.resume settings.esiMaxRequestsPerSecond).map (client.paced task)
      else none
  | .pacerWake _ =>
      if current.phase = .pacing ∧ client.pacer.sleeper.map PacerSleep.call = some task then
        client.pacer.wake.map (client.paced task)
      else none
  | .upstreamTurn _ =>
      if current.phase = .upstreamQueue ∧ task ∈ client.upstreamSem.granted then
        some ({ client with upstreamSem := client.upstreamSem.resume task }.send task)
      else none
  | .complete _ received answer =>
      if current.phase = .sending then
        some (client.complete settings libraries parsedate task current received answer)
      else none
  | .retry _ =>
      if current.phase = .retrying ∧ current.wakes ≤ client.now then
        some ((client.stand task .running).attempt settings task)
      else none
  | .gather _ =>
      if current.phase = .gathering ∧ client.gathered task then some (client.endCall task false)
      else none
  | _ => none

end Client

/-- This is the task that takes the step. -/
def ClientAction.task : ClientAction → Option Nat
  | .tick _ | .call _ _ => none
  | .begin task _ | .pageTurn task _ | .pacerTurn task | .pacerWake task | .upstreamTurn task
  | .complete task _ _ | .retry task | .gather task => some task

def Client.step (client : Client) : ClientAction → Option Client
  | .tick now =>
      if client.now ≤ now then some { client with pacer := { client.pacer with now := now } } else none
  | .call method received => some (client.arrive settings libraries parsedate method received)
  | action =>
      action.task.bind fun task => client.tasks[task]?.bind fun current =>
        client.stepTask settings libraries parsedate task current action

/-- A client is created at some time, and its tasks take their steps in any order. -/
def clientMachine : Machine Client ClientAction where
  initial client := ∃ now, client = Client.create settings now
  step := Client.step settings libraries parsedate

end Steps

end EveApiCache
