import EveApiCache.Proof.ExactSharing
import EveApiCache.Proof.Service.Provenance

/-!
This file shows that the tasks of the service are the callers of one coalescer.
-/

namespace EveApiCache.Coalesce
open StepMachine

variable {Key Result Failure : Type} [DecidableEq Key]

/-- A call that is under way leads a flight, cleans up after one, or waits for one. -/
def Phase.isUnderWay : Phase Result Failure → Bool
  | .leading _ | .releasing _ _ | .waiting _ => true
  | .joining | .led _ _ | .shared _ _ | .abandoned => false

/-- A call that has moved is under way or over. -/
theorem Move.underWay_or_over {table next : Table Key Result Failure} {key : Key}
    {phase after : Phase Result Failure} {event : Event Result Failure}
    (moved : Move table key phase event next after) :
    after.isUnderWay = true ∨ after.isOver = true := by
  cases moved with
  | attach | register | settle => exact .inl rfl
  | abandon | release | wake | leave => exact .inr rfl

/-- Another call can always be made, because only finitely many were made before. -/
theorem exists_vacant {guard : State Key Result Failure → Action Key Result Failure → Prop}
    {state : State Key Result Failure} (reached : machine.Guarded guard state) :
    ∃ caller, state.callers caller = none := by
  suffices ∃ bound, ∀ caller, bound ≤ caller → state.callers caller = none by
    obtain ⟨bound, vacant⟩ := this
    exact ⟨bound, vacant bound (Nat.le_refl bound)⟩
  refine reached.invariant (fun state => ∃ bound, ∀ caller, bound ≤ caller →
    state.callers caller = none) ?_ ?_
  · rintro state rfl
    exact ⟨0, fun _ _ => rfl⟩
  · rintro state action next ⟨bound, vacant⟩ _ moved
    rcases step_cases moved with ⟨started, key, _, _, rfl⟩ |
      ⟨mover, event, key, phase, table, after, _, found, _, rfl⟩
    · refine ⟨max bound (started + 1), fun caller above => ?_⟩
      have different : caller ≠ started := by omega
      exact (Function.update_of_ne different ..).trans (vacant caller (by omega))
    · refine ⟨bound, fun caller above => ?_⟩
      have different : caller ≠ mover := by
        rintro rfl
        rw [vacant caller above] at found
        cases found
      exact (Function.update_of_ne different ..).trans (vacant caller above)

/-- One step of a call is a run of the coalescer. -/
theorem run_event {state : State Key Result Failure} {caller : Nat} {key : Key}
    {phase after : Phase Result Failure} {event : Event Result Failure}
    {table : Table Key Result Failure}
    (found : state.callers caller = some (key, phase))
    (advanced : advance state.table key phase event = some (table, after)) :
    machine.run state [.event caller event] = some
      { table := table
        callers := Function.update state.callers caller (some (key, after)) } := by
  simp [machine, step, found, advanced]

/-- A new call and its first step are a run of the coalescer. -/
theorem run_call {state : State Key Result Failure} {caller : Nat} {key : Key}
    {after : Phase Result Failure} {event : Event Result Failure} {table : Table Key Result Failure}
    (vacant : state.callers caller = none)
    (advanced : advance state.table key .joining event = some (table, after)) :
    machine.run state [.call caller key, .event caller event] = some
      { table := table
        callers := Function.update state.callers caller (some (key, after)) } := by
  simp [machine, step, vacant, advanced]

/-- No execution of `coro_fn` is cancelled. -/
def Uncancelled : Action Key Result Failure → Prop
  | .event _ (.settle .cancelled) => False
  | _ => True

/-- A call ended with the cancellation of its execution. -/
def Phase.IsSpoiled (phase : Phase Result Failure) : Prop :=
  ∃ future, phase = .releasing future .cancelled ∨ phase = .led future .cancelled

/-- Without cancellations no call is spoiled. -/
theorem not_isSpoiled {state : State Key Result Failure}
    (reached : machine.Guarded (fun _ action => Uncancelled action) state) {caller : Nat} {key : Key}
    {phase : Phase Result Failure} (found : state.callers caller = some (key, phase)) :
    ¬phase.IsSpoiled := by
  suffices ∀ caller key phase, state.callers caller = some (key, phase) → ¬phase.IsSpoiled from
    this caller key phase found
  clear found
  refine reached.invariant
    (fun state => ∀ caller key phase, state.callers caller = some (key, phase) → ¬phase.IsSpoiled) ?_ ?_
  · rintro state rfl caller key phase found
    cases found
  · intro state action next sound allowed moved caller key phase found
    rcases step_cases moved with ⟨started, chosen, _, _, rfl⟩ |
      ⟨mover, event, chosen, before, table, after, rfl, standing, move, rfl⟩
    · rcases caller_update found with ⟨_, _, rfl⟩ | ⟨_, old⟩
      · rintro ⟨future, impossible | impossible⟩ <;> cases impossible
      · exact sound caller key phase old
    · rcases caller_update found with ⟨_, _, rfl⟩ | ⟨_, old⟩
      · rintro ⟨future, rfl | rfl⟩
        · cases move with
          | settle => exact allowed
        · cases move with
          | release => exact sound mover chosen _ standing ⟨future, .inl rfl⟩
      · exact sound caller key phase old

/-- Without cancellations the leader of a pending future is still inside `coro_fn`. -/
theorem leading_of_pending {state : State Key Result Failure}
    (reached : machine.Guarded (fun _ action => Uncancelled action) state) {waiter : Nat} {key : Key}
    {future : Nat} (waits : state.callers waiter = some (key, .waiting future))
    (pending : state.table.futures key future = .pending) :
    ∃ leader, state.callers leader = some (key, .leading future) := by
  have registered := reachable_registered reached.reachable
  obtain ⟨leader, phase, leads, owned⟩ := registered.awaited waiter key future waits
  have held := registered.holds leader key phase future leads owned
  have clean := not_isSpoiled reached leads
  rw [pending] at held
  cases phase with
  | leading other =>
      cases owned
      exact ⟨leader, leads⟩
  | releasing other outcome =>
      cases outcome with
      | returned | raised => cases held
      | cancelled => exact absurd ⟨other, .inl rfl⟩ clean
  | led other outcome =>
      cases outcome with
      | returned | raised => cases held
      | cancelled => exact absurd ⟨other, .inr rfl⟩ clean
  | joining | waiting | shared | abandoned => cases owned

end EveApiCache.Coalesce

namespace EveApiCache
open Effects StepMachine

section Standing
variable {A B : Type}

/-- A call that is under way has a place in the coalescer. -/
def place (key : PyStr) (phase : Flight) : Option (PyStr × Flight) :=
  if phase.isUnderWay then some (key, phase) else none

/-- This is the place of a task in the coalescer, if it has one. -/
def standing : Pipeline A → Option (PyStr × Flight)
  | .perform (.coalesce key phase) _ => place key phase
  | .perform (.lead key future _ _) _ => some (key, .leading future)
  | _ => none

/-- The coalescer moves a call on, and a leader goes on to clean up. -/
def Possible : (await : Await) → await.Reply → Prop
  | .coalesce _ phase, reply => Moves phase reply
  | .lead _ future _ _, reply => ∃ outcome, reply = .releasing future outcome
  | .access _, _ => True
  | .fetch _ _, _ => True

/-- After a step of the coalescer a task stands where the step led it, and nowhere otherwise. -/
def Resumes : (await : Await) → await.Reply → Pipeline A → Prop
  | .coalesce key _, reply, program => standing program = place key reply
  | .lead key _ _ _, reply, program => standing program = place key reply
  | .access _, _, program => standing program = none
  | .fetch _ _, _, program => standing program = none

/-- A task asks the coalescer to join a flight, to clean up or to wait. -/
def Await.Proper : Await → Prop
  | .coalesce _ .joining => True
  | .coalesce _ (.releasing _ _) => True
  | .coalesce _ (.waiting _) => True
  | .coalesce _ _ => False
  | _ => True

/-- An orderly program stands after each possible reply where the reply led it. -/
def Orderly : Pipeline A → Prop
  | .done _ => True
  | .fail => True
  | .perform await next => await.Proper ∧ ∀ reply, Possible await reply →
      Resumes await reply (next reply) ∧ Orderly (next reply)

/-- A detached program has no call of the coalescer under way. -/
structure Detached (program : Pipeline A) : Prop where
  outside : standing program = none
  orderly : Orderly program

theorem standing_bind (await : Await) (rest : await.Reply → Pipeline A) (next : A → Pipeline B) :
    standing (.perform await rest >>= next) = standing (.perform await rest : Pipeline A) := by
  cases await with
  | access | fetch | coalesce | lead => rfl

theorem Resumes.bind {await : Await} {reply : await.Reply} {program : Pipeline A}
    {next : A → Pipeline B} (resumes : Resumes await reply program)
    (continues : ∀ value, standing (next value) = none) :
    Resumes await reply (program >>= next) := by
  have same (place : Option (PyStr × Flight)) (before : standing program = place) :
      standing (program >>= next) = place := by
    cases program with
    | done value => exact (continues value).trans before
    | fail => exact before
    | perform await rest => exact (standing_bind await rest next).trans before
  cases await with
  | access | fetch | coalesce | lead => exact same _ resumes

/-- A detached program can follow any orderly one. -/
theorem Orderly.bind {program : Pipeline A} {next : A → Pipeline B} (orderly : Orderly program)
    (continues : ∀ value, Detached (next value)) : Orderly (program >>= next) := by
  induction program with
  | done value => exact (continues value).orderly
  | fail => trivial
  | perform await rest ih =>
      refine ⟨orderly.1, fun reply possible => ?_⟩
      obtain ⟨resumes, later⟩ := orderly.2 reply possible
      exact ⟨resumes.bind fun value => (continues value).outside, ih reply later⟩

theorem Detached.bind {program : Pipeline A} {next : A → Pipeline B} (first : Detached program)
    (continues : ∀ value, Detached (next value)) : Detached (program >>= next) where
  outside := by
    cases program with
    | done value => exact (continues value).outside
    | fail => rfl
    | perform await rest => exact (standing_bind await rest next).trans first.outside
  orderly := first.orderly.bind continues

theorem detached_done (value : A) : Detached (.done value : Pipeline A) := ⟨rfl, trivial⟩

theorem detached_fail : Detached (.fail : Pipeline A) := ⟨rfl, trivial⟩

/-- A call of a store leaves the coalescer alone. -/
theorem detached_access (call : Access) : Detached (access call) :=
  ⟨rfl, trivial, fun _ _ => ⟨rfl, trivial⟩⟩

theorem detached_settled (leader : Bool) (outcome : Coalesce.Outcome EsiResponse Unit) :
    Detached (settled leader outcome) := by
  cases outcome with
  | returned response => exact detached_done _
  | raised | cancelled => exact detached_fail

/-- A call that is over goes on outside of the coalescer. -/
theorem detached_landed {phase : Flight} : Detached (landed phase) := by
  cases phase with
  | led future outcome => exact detached_settled true outcome
  | shared future outcome => exact detached_settled false outcome
  | joining | leading | releasing | waiting | abandoned => exact detached_fail

theorem moves_joining {phase : Flight} (moves : Moves .joining phase) :
    (∃ future, phase = .leading future ∨ phase = .waiting future) ∨ phase = .abandoned := by
  obtain ⟨table, after, key, event, moved⟩ := moves
  cases Coalesce.advance_move moved with
  | attach => exact .inl ⟨_, .inr rfl⟩
  | register => exact .inl ⟨_, .inl rfl⟩
  | abandon => exact .inr rfl

/-- A whole call of `coalesce` starts and ends outside of the coalescer. -/
theorem detached_coalesce (key : PyStr) (call : UpstreamCall) (etag : Option PyStr) :
    Detached (coalesce key call etag) := by
  refine ⟨rfl, trivial, fun phase moves => ?_⟩
  rcases moves_joining moves with ⟨future, rfl | rfl⟩ | rfl
  · refine ⟨rfl, trivial, ?_⟩
    rintro _ ⟨outcome, rfl⟩
    refine ⟨rfl, trivial, fun last cleans => ?_⟩
    obtain rfl := moves_releasing cleans
    exact ⟨detached_landed.outside, detached_landed.orderly⟩
  · refine ⟨rfl, trivial, fun last wakes => ?_⟩
    obtain ⟨outcome, rfl⟩ := moves_waiting wakes
    exact ⟨detached_landed.outside, detached_landed.orderly⟩
  · exact ⟨rfl, trivial⟩

end Standing

section Tasks
variable (libraries : Libraries) (settings : Settings) (prepared : Prepared)

theorem detached_archiveResponse (response : EsiResponse) :
    Detached (archiveResponse libraries prepared response) := by
  unfold archiveResponse recordResponse
  refine Detached.bind ?_ fun recorded => ?_
  · split_ifs
    · exact detached_done _
    · exact detached_access _
  · unfold recordNames
    cases recorded with
    | false => exact detached_done _
    | true =>
        dsimp only
        split_ifs
        · exact (detached_access _).bind fun _ => detached_done _
        · exact detached_done _

theorem detached_degraded (response : EsiResponse) : Detached (degraded prepared response) := by
  refine (detached_access _).bind fun stale => ?_
  cases stale with
  | some body => exact detached_done _
  | none => exact (detached_access _).bind fun _ => detached_done _

theorem detached_answered (response : EsiResponse) (leader : Bool) :
    Detached (answered libraries settings prepared response leader) := by
  unfold answered
  split_ifs
  · refine Detached.bind ?_ fun _ => detached_done _
    cases leader with
    | false => exact detached_done _
    | true => exact (detached_access _).bind fun _ =>
        detached_archiveResponse libraries prepared response
  · exact detached_degraded prepared response
  · exact detached_done _
  · refine Detached.bind ?_ fun _ => detached_done _
    unfold cacheNegative
    split_ifs
    · exact detached_access _
    · exact detached_done _

theorem detached_revalidated (stored : Option PyStr) (response : EsiResponse) (leader : Bool)
    (body : Option Bytes) :
    Detached (revalidated libraries settings prepared stored response leader body) := by
  cases body with
  | none => exact (detached_coalesce _ _ _).bind fun _ =>
      detached_answered libraries settings prepared _ _
  | some body =>
      refine Detached.bind ?_ fun ttl => Detached.bind ?_ fun _ => detached_done _
      · cases response.maxAge with
        | some maxAge => exact detached_done _
        | none => exact (detached_access _).bind fun _ => detached_done _
      · cases leader with
        | true => exact detached_access _
        | false => exact detached_done _

/-- A request to the proxy starts outside of the coalescer and comes back from each call of it. -/
theorem detached_dispatch (request : Request) : Detached (dispatch libraries settings request) := by
  unfold dispatch
  cases prepare libraries settings request with
  | error result => exact detached_done _
  | ok prepared =>
      refine (detached_access _).bind fun cached => ?_
      cases cached with
      | some hit => exact detached_done _
      | none =>
          refine (detached_access _).bind fun negative => ?_
          cases negative with
          | some error => exact detached_done _
          | none =>
              refine (detached_access _).bind fun stored => ?_
              refine (detached_coalesce _ _ _).bind fun result => ?_
              unfold fetched
              split_ifs
              · exact (detached_access _).bind fun body =>
                  detached_revalidated libraries settings prepared stored result.1 result.2 body
              · exact detached_answered libraries settings prepared result.1 result.2

theorem detached_warmAliases (datasource : PyStr) (job : Job) (response : EsiResponse)
    (versions : List PyStr) :
    Detached (warmAliases libraries settings datasource job response versions) := by
  induction versions with
  | nil => exact detached_done _
  | cons version rest ih =>
      unfold warmAliases
      split_ifs
      · exact ih
      · exact (detached_access _).bind fun _ => ih

/-- A run of the collector never enters the coalescer. -/
theorem detached_fetchAndStore (datasource : PyStr) (job : Job) :
    Detached (fetchAndStore libraries settings datasource job) := by
  have fetch : Detached (Program.call (I := awaits) (.fetch (job.call datasource) none)) :=
    ⟨rfl, trivial, fun _ _ => ⟨rfl, trivial⟩⟩
  refine fetch.bind fun response => ?_
  unfold collected
  split_ifs
  · exact detached_done _
  · exact (detached_access _).bind fun _ =>
      (detached_warmAliases libraries settings datasource job response _).bind fun _ =>
        detached_access _

theorem detached_launch (task : Task) : Detached (task.launch libraries settings) := by
  cases task with
  | proxy request => exact (detached_dispatch libraries settings request).bind fun _ => detached_done _
  | collect job => exact (detached_fetchAndStore libraries settings _ job).bind fun _ => detached_done _

end Tasks

section Coalesces
variable {libraries : Libraries} {settings : Settings}

abbrev Flights := Coalesce.State PyStr EsiResponse Unit

/-- A task is inside the coalescer at a phase of a call for a key. -/
def Inside (state : Service) (thread : Nat) (key : PyStr) (phase : Flight) : Prop :=
  ∃ program, state.threads thread = some program ∧ standing program = some (key, phase)

/-- The tasks inside the coalescer are exactly the callers that are under way over the same table. -/
structure Coalesces (state : Service) (flights : Flights) (seat : Nat → Nat) : Prop where
  table : flights.table = state.shared.table
  seated : ∀ thread key phase, Inside state thread key phase →
    flights.callers (seat thread) = some (key, phase)
  taken : ∀ caller key phase, flights.callers caller = some (key, phase) →
    phase.isOver = true ∨ ∃ thread, seat thread = caller ∧ Inside state thread key phase
  apart : ∀ first second key phase other later, Inside state first key phase →
    Inside state second other later → seat first = seat second → first = second

/-- Every thread runs an orderly program. -/
def AllOrderly (state : Service) : Prop :=
  ∀ thread program, state.threads thread = some program → Orderly program

/-- A step cancels the fetch of a leader. -/
def Cancels (state : Service) (action : ServiceAction) : Prop :=
  ∃ thread key future call etag rest, action = .proceed thread .cancelled ∧
    state.threads thread = some (.perform (.lead key future call etag) rest)

theorem inside_update {state : Service} {shared : World} {thread other : Nat}
    {program : Pipeline Result} {key : PyStr} {phase : Flight} :
    Inside ⟨shared, Function.update state.threads thread (some program)⟩ other key phase ↔
      (other = thread ∧ standing program = some (key, phase)) ∨
        (other ≠ thread ∧ Inside state other key phase) := by
  unfold Inside
  by_cases same : other = thread
  · subst same
    simp
  · simp [same]

theorem place_eq_some {key other : PyStr} {phase later : Flight} :
    place key phase = some (other, later) ↔ phase.isUnderWay = true ∧ key = other ∧ phase = later := by
  unfold place
  split_ifs with under
  · simp [under]
  · simp [under]

variable {state : Service} {flights : Flights} {seat : Nat → Nat} {thread caller : Nat}
  {program : Pipeline Result} {shared : World}

/-- A thread that stays outside of the coalescer changes nothing there. -/
theorem Coalesces.aside (coalesces : Coalesces state flights seat)
    (table : shared.table = state.shared.table)
    (before : ∀ key phase, ¬Inside state thread key phase) (after : standing program = none) :
    Coalesces ⟨shared, Function.update state.threads thread (some program)⟩ flights seat := by
  have same (other : Nat) (key : PyStr) (phase : Flight) :
      Inside ⟨shared, Function.update state.threads thread (some program)⟩ other key phase ↔
        Inside state other key phase := by
    rw [inside_update, after]
    constructor
    · rintro (⟨_, impossible⟩ | ⟨_, inside⟩)
      · cases impossible
      · exact inside
    · intro inside
      exact .inr ⟨fun here => before key phase (here ▸ inside), inside⟩
  constructor
  · exact coalesces.table.trans table.symm
  · exact fun other key phase inside =>
      coalesces.seated other key phase ((same other key phase).mp inside)
  · intro caller key phase found
    refine (coalesces.taken caller key phase found).imp_right ?_
    rintro ⟨other, sits, inside⟩
    exact ⟨other, sits, (same other key phase).mpr inside⟩
  · exact fun first second key phase other later one two =>
      coalesces.apart first second key phase other later ((same _ _ _).mp one) ((same _ _ _).mp two)

/-- A thread moves with its caller, which no other thread has. -/
theorem Coalesces.move (coalesces : Coalesces state flights seat) {key : PyStr} {phase : Flight}
    (own : ∀ key phase, Inside state thread key phase → seat thread = caller)
    (free : ∀ other key phase, other ≠ thread → Inside state other key phase → seat other ≠ caller)
    (moved : phase.isUnderWay = true ∨ phase.isOver = true)
    (stands : standing program = place key phase) :
    Coalesces ⟨shared, Function.update state.threads thread (some program)⟩
      { table := shared.table
        callers := Function.update flights.callers caller (some (key, phase)) }
      (Function.update seat thread caller) := by
  constructor
  · rfl
  · intro other otherKey otherPhase inside
    rcases inside_update.mp inside with ⟨rfl, here⟩ | ⟨different, inside⟩
    · obtain ⟨_, rfl, rfl⟩ := place_eq_some.mp (stands.symm.trans here)
      rw [Function.update_self]
      exact Function.update_self ..
    · rw [Function.update_of_ne different]
      exact (Function.update_of_ne (free other _ _ different inside) ..).trans
        (coalesces.seated other otherKey otherPhase inside)
  · intro other otherKey otherPhase found
    rcases Coalesce.caller_update found with ⟨rfl, rfl, rfl⟩ | ⟨different, old⟩
    · refine moved.symm.imp_right fun under => ?_
      refine ⟨thread, Function.update_self .., inside_update.mpr (.inl ⟨rfl, ?_⟩)⟩
      exact stands.trans (place_eq_some.mpr ⟨under, rfl, rfl⟩)
    · refine (coalesces.taken other otherKey otherPhase old).imp_right ?_
      rintro ⟨sitter, sits, inside⟩
      have elsewhere : sitter ≠ thread := by
        rintro rfl
        exact different (sits.symm.trans (own _ _ inside))
      exact ⟨sitter, (Function.update_of_ne elsewhere ..).trans sits,
        inside_update.mpr (.inr ⟨elsewhere, inside⟩)⟩
  · intro first second firstKey firstPhase secondKey secondPhase one two same
    rcases inside_update.mp one with ⟨rfl, _⟩ | ⟨firstElse, oldOne⟩ <;>
      rcases inside_update.mp two with ⟨rfl, _⟩ | ⟨secondElse, oldTwo⟩
    · rfl
    · rw [Function.update_self, Function.update_of_ne secondElse] at same
      exact absurd same.symm (free second _ _ secondElse oldTwo)
    · rw [Function.update_self, Function.update_of_ne firstElse] at same
      exact absurd same (free first _ _ firstElse oldOne)
    · rw [Function.update_of_ne firstElse, Function.update_of_ne secondElse] at same
      exact coalesces.apart _ _ _ _ _ _ oldOne oldTwo same

/-- A call of a store or a fetch of the collector leaves the table alone. -/
theorem perform_aside {await : Await} {circumstance : Circumstance} {world : World}
    {result : Option await.Reply × World} (aside : (∃ call, await = .access call) ∨
      ∃ call etag, await = .fetch call etag)
    (performed : world.perform libraries settings circumstance await = some result) :
    result.2.table = world.table := by
  rcases aside with ⟨call, rfl⟩ | ⟨call, etag, rfl⟩
  · cases circumstance with
    | proceeds now fault =>
        cases performed
        dsimp only
        unfold World.record
        split <;> rfl
    | raises | cancelled => cases performed; rfl
    | answers => cases performed
  · cases circumstance with
    | answers upstream => cases performed; rfl
    | raises | cancelled => cases performed; rfl
    | proceeds => cases performed

/-- A step inside the coalescer is a step of one call of it. -/
theorem perform_flight {key : PyStr} {phase : Flight} {circumstance : Circumstance} {world : World}
    {result : Option Flight × World}
    (performed : world.perform libraries settings circumstance (.coalesce key phase) = some result) :
    ∃ event next, Coalesce.advance world.table key phase event = some (result.2.table, next) ∧
      result.1 = some next ∧ (event = .proceed ∨ event = .cancel) := by
  cases circumstance with
  | proceeds now fault =>
      obtain ⟨⟨table, next⟩, advanced, rfl⟩ := Option.map_eq_some_iff.mp performed
      exact ⟨.proceed, next, advanced, rfl, .inl rfl⟩
  | cancelled =>
      obtain ⟨⟨table, next⟩, advanced, rfl⟩ := Option.map_eq_some_iff.mp performed
      exact ⟨.cancel, next, advanced, rfl, .inr rfl⟩
  | answers | raises => cases performed

/-- A leader that comes back settles its flight. -/
theorem perform_lead {key : PyStr} {future : Nat} {call : UpstreamCall} {etag : Option PyStr}
    {circumstance : Circumstance} {world : World} {result : Option Flight × World}
    (performed : world.perform libraries settings circumstance (.lead key future call etag) =
      some result) :
    ∃ outcome, Coalesce.advance world.table key (.leading future) (.settle outcome) =
        some (result.2.table, .releasing future outcome) ∧
      result.1 = some (.releasing future outcome) ∧
        (outcome = .cancelled → circumstance = .cancelled) := by
  cases circumstance with
  | answers upstream =>
      cases performed
      exact ⟨_, rfl, rfl, nofun⟩
  | raises =>
      cases performed
      exact ⟨_, rfl, rfl, nofun⟩
  | cancelled =>
      cases performed
      exact ⟨_, rfl, rfl, fun _ => rfl⟩
  | proceeds => cases performed

/-- The service gives only possible replies. -/
theorem perform_possible {await : Await} {circumstance : Circumstance} {world : World}
    {result : Option await.Reply × World} {reply : await.Reply}
    (performed : world.perform libraries settings circumstance await = some result)
    (replied : result.1 = some reply) : Possible await reply := by
  cases await with
  | access call => trivial
  | fetch call etag => trivial
  | coalesce key phase =>
      obtain ⟨event, next, advanced, given, _⟩ := perform_flight performed
      obtain rfl := Option.some.inj (given.symm.trans replied)
      exact ⟨_, _, key, event, advanced⟩
  | lead key future call etag =>
      obtain ⟨outcome, _, given, _⟩ := perform_lead performed
      exact ⟨outcome, Option.some.inj (replied.symm.trans given)⟩

/-- Every step keeps the programs orderly. -/
theorem step_orderly {action : ServiceAction} {next : Service} (orderly : AllOrderly state)
    (moved : (service libraries settings).step state action = some next) : AllOrderly next := by
  intro thread program running
  cases action with
  | start started task =>
      obtain ⟨_, rfl⟩ := (service libraries settings).step_start moved
      by_cases same : thread = started
      · subst same
        have launched : (service libraries settings).launch task = program := by simpa using running
        subst launched
        exact (detached_launch libraries settings task).orderly
      · exact orderly thread program (by simpa [same] using running)
  | proceed mover circumstance =>
      obtain ⟨await, rest, result, found, performed, rfl⟩ :=
        (service libraries settings).step_proceed moved
      by_cases same : thread = mover
      · subst same
        obtain rfl : Program.resume rest result.1 = program := by
          simpa [System.answer] using running
        cases replied : result.1 with
        | none => trivial
        | some reply =>
            exact ((orderly thread _ found).2 reply (perform_possible performed replied)).2
      · exact orderly thread program (by simpa [System.answer, same] using running)
  | outside event =>
      cases moved
      exact orderly thread program running

/-- A step under way is a step of the caller of its task. -/
theorem Coalesces.event (coalesces : Coalesces state flights seat) {key : PyStr} {phase next : Flight}
    {event : Coalesce.Event EsiResponse Unit} (inside : Inside state thread key phase)
    (advanced : Coalesce.advance flights.table key phase event = some (shared.table, next))
    (stands : standing program = place key next) :
    ∃ after seats, Coalesce.machine.run flights [.event (seat thread) event] = some after ∧
      Coalesces ⟨shared, Function.update state.threads thread (some program)⟩ after seats := by
  refine ⟨_, Function.update seat thread (seat thread),
    Coalesce.run_event (coalesces.seated thread key phase inside) advanced, ?_⟩
  refine coalesces.move (fun _ _ _ => rfl) ?_ (Coalesce.advance_move advanced).underWay_or_over stands
  exact fun other _ _ different elsewhere same =>
    different (coalesces.apart _ _ _ _ _ _ elsewhere inside same)

/-- A task that enters the coalescer becomes a new caller. -/
theorem Coalesces.enter (coalesces : Coalesces state flights seat) {key : PyStr} {next : Flight}
    {event : Coalesce.Event EsiResponse Unit} (before : ∀ key phase, ¬Inside state thread key phase)
    (vacant : flights.callers caller = none)
    (advanced : Coalesce.advance flights.table key .joining event = some (shared.table, next))
    (stands : standing program = place key next) :
    ∃ after seats, Coalesce.machine.run flights [.call caller key, .event caller event] = some after ∧
      Coalesces ⟨shared, Function.update state.threads thread (some program)⟩ after seats := by
  refine ⟨_, Function.update seat thread caller, Coalesce.run_call vacant advanced, ?_⟩
  refine coalesces.move (fun key phase inside => absurd inside (before key phase)) ?_
    (Coalesce.advance_move advanced).underWay_or_over stands
  rintro other otherKey phase _ inside rfl
  rw [coalesces.seated other otherKey phase inside] at vacant
  cases vacant

theorem uncancelled_event {caller : Nat} {event : Coalesce.Event EsiResponse Unit}
    (mild : event = .proceed ∨ event = .cancel) :
    Coalesce.Uncancelled (.event caller event : Coalesce.Action PyStr EsiResponse Unit) := by
  rcases mild with rfl | rfl <;> trivial

/-- A thread stands where its program stands. -/
theorem inside_iff {await : Await} {rest : await.Reply → Pipeline Result} {key : PyStr} {phase : Flight}
    (found : state.threads thread = some (.perform await rest)) :
    Inside state thread key phase ↔
      standing (.perform await rest : Pipeline Result) = some (key, phase) := by
  unfold Inside
  rw [found]
  simp

/-- A step of the service is made of steps of the coalescer, and only a cancelled leader cancels an
execution there. -/
theorem Coalesces.step {action : ServiceAction} {next : Service}
    (coalesces : Coalesces state flights seat) (orderly : AllOrderly state)
    (vacant : ∃ caller, flights.callers caller = none)
    (moved : (service libraries settings).step state action = some next) :
    ∃ actions after seats, Coalesce.machine.run flights actions = some after ∧
      Coalesces next after seats ∧
        ∀ move ∈ actions, ¬Coalesce.Uncancelled move → Cancels state action := by
  cases action with
  | start started task =>
      obtain ⟨absent, rfl⟩ := (service libraries settings).step_start moved
      refine ⟨[], flights, seat, rfl, ?_, by simp⟩
      refine coalesces.aside rfl ?_ (detached_launch libraries settings task).outside
      rintro key phase ⟨program, running, _⟩
      rw [absent] at running
      cases running
  | outside event =>
      cases moved
      refine ⟨[], flights, seat, rfl, ?_, by simp⟩
      exact ⟨coalesces.table.trans (by cases event <;> rfl), coalesces.seated, coalesces.taken,
        coalesces.apart⟩
  | proceed mover circumstance =>
      obtain ⟨await, rest, result, found, performed, rfl⟩ :=
        (service libraries settings).step_proceed moved
      have resumes (reply : await.Reply) (replied : result.1 = some reply) :
          Resumes await reply (Program.resume rest result.1) := by
        rw [replied]
        exact ((orderly mover _ found).2 reply (perform_possible performed replied)).1
      have outside (aside : standing (.perform await rest : Pipeline Result) = none)
          (stays : standing (Program.resume rest result.1) = none)
          (table : result.2.table = state.shared.table) :
          Coalesces (System.answer state mover rest result) flights seat :=
        coalesces.aside table (fun key phase inside => by
          rw [inside_iff found, aside] at inside
          cases inside) stays
      cases await with
      | access call =>
          refine ⟨[], flights, seat, rfl, outside rfl ?_ (perform_aside (.inl ⟨call, rfl⟩) performed),
            by simp⟩
          cases replied : result.1 with
          | none => rfl
          | some reply => exact replied ▸ resumes reply replied
      | fetch call etag =>
          refine ⟨[], flights, seat, rfl,
            outside rfl ?_ (perform_aside (.inr ⟨call, etag, rfl⟩) performed), by simp⟩
          cases replied : result.1 with
          | none => rfl
          | some reply => exact replied ▸ resumes reply replied
      | coalesce key phase =>
          obtain ⟨event, reply, advanced, replied, mild⟩ := perform_flight performed
          rw [← coalesces.table] at advanced
          have stands : standing (Program.resume rest result.1) = place key reply :=
            resumes reply replied
          cases under : phase.isUnderWay with
          | true =>
              have inside : Inside state mover key phase :=
                (inside_iff found).mpr (place_eq_some.mpr ⟨under, rfl, rfl⟩)
              obtain ⟨after, seats, ran, kept⟩ := coalesces.event inside advanced stands
              refine ⟨_, after, seats, ran, kept, ?_⟩
              rintro move member spoiled
              obtain rfl := List.mem_singleton.mp member
              exact absurd (uncancelled_event mild) spoiled
          | false =>
              have joins : phase = .joining := by
                have proper := (orderly mover _ found).1
                cases phase with
                | joining => rfl
                | releasing | waiting => cases under
                | leading | led | shared | abandoned => exact proper.elim
              subst joins
              obtain ⟨caller, free⟩ := vacant
              have before (key : PyStr) (phase : Flight) : ¬Inside state mover key phase := by
                rw [inside_iff found]
                exact nofun
              obtain ⟨after, seats, ran, kept⟩ := coalesces.enter before free advanced stands
              refine ⟨_, after, seats, ran, kept, ?_⟩
              rintro move member spoiled
              rcases List.mem_cons.mp member with rfl | member
              · exact absurd trivial spoiled
              · obtain rfl := List.mem_singleton.mp member
                exact absurd (uncancelled_event mild) spoiled
      | lead key future call etag =>
          obtain ⟨outcome, advanced, replied, cancelled⟩ := perform_lead performed
          rw [← coalesces.table] at advanced
          have inside : Inside state mover key (.leading future) := (inside_iff found).mpr rfl
          obtain ⟨after, seats, ran, kept⟩ := coalesces.event inside advanced (resumes _ replied)
          refine ⟨_, after, seats, ran, kept, ?_⟩
          rintro move member spoiled
          obtain rfl := List.mem_singleton.mp member
          cases outcome with
          | returned | raised => exact absurd trivial spoiled
          | cancelled => exact ⟨mover, key, future, call, etag, rest, by rw [cancelled rfl], found⟩

/-- Every run of the service is a run of the coalescer. Without cancelled leaders no execution of
`coro_fn` is cancelled there. -/
theorem service_guarded_coalesces (spared : Prop)
    (reached : ((service libraries settings).machine World.Fresh).Guarded
      (fun state action => spared → ¬Cancels state action) state) :
    AllOrderly state ∧ ∃ flights seat,
      Coalesce.machine.Guarded (fun _ action => spared → Coalesce.Uncancelled action) flights ∧
        Coalesces state flights seat := by
  refine reached.invariant (fun state => AllOrderly state ∧ ∃ flights seat,
    Coalesce.machine.Guarded (fun _ action => spared → Coalesce.Uncancelled action) flights ∧
      Coalesces state flights seat) ?_ ?_
  · rintro state ⟨⟨_, _, table, _⟩, idle⟩
    refine ⟨fun thread program running => ?_, .empty, id, .start rfl, table.symm, ?_, nofun, ?_⟩
    · rw [idle] at running
      cases running
    · rintro thread key phase ⟨program, running, _⟩
      rw [idle] at running
      cases running
    · exact fun first second _ _ _ _ _ _ same => same
  · rintro state action next ⟨orderly, flights, seat, before, coalesces⟩ allowed moved
    obtain ⟨actions, after, seats, ran, kept, spoils⟩ :=
      coalesces.step orderly (Coalesce.exists_vacant before) moved
    refine ⟨step_orderly orderly moved, after, seats, ?_, kept⟩
    refine before.run actions (allowed_of_forall ?_ flights) ran
    intro move member _ on
    by_contra spoiled
    exact allowed on (spoils move member spoiled)

/-- The service refines the coalescer: in every reachable state the tasks inside `coalesce` are the
callers under way in some reachable state of the coalescer. -/
theorem service_coalesces
    (reached : ((service libraries settings).machine World.Fresh).Reachable state) :
    ∃ flights seat, Coalesce.machine.Reachable flights ∧ Coalesces state flights seat := by
  obtain ⟨_, flights, seat, kept, coalesces⟩ :=
    service_guarded_coalesces False (reached.mono fun _ _ _ impossible => impossible.elim)
  exact ⟨flights, seat, kept.reachable, coalesces⟩

/-- The execution of a flight has ended with an outcome in the coalescer of the tasks. -/
def FlightEnded (state : Service) (key : PyStr) (future : Nat)
    (outcome : Coalesce.Outcome EsiResponse Unit) : Prop :=
  AllOrderly state ∧ ∃ flights seat caller, Coalesce.machine.Reachable flights ∧
    Coalesces state flights seat ∧ Coalesce.Ended flights caller key future outcome

/-- A flight that has ended keeps its outcome. -/
theorem FlightEnded.step {key : PyStr} {future : Nat} {outcome : Coalesce.Outcome EsiResponse Unit}
    {action : ServiceAction} {next : Service} (past : FlightEnded state key future outcome)
    (moved : (service libraries settings).step state action = some next) :
    FlightEnded next key future outcome := by
  obtain ⟨orderly, flights, seat, caller, reached, coalesces, ended⟩ := past
  obtain ⟨actions, after, seats, ran, kept, _⟩ :=
    coalesces.step orderly (Coalesce.exists_vacant reached) moved
  refine ⟨step_orderly orderly moved, after, seats, caller, reached.run actions ran, kept, ?_⟩
  have evolved : Coalesce.Evolves flights after := Coalesce.run_evolves actions ran
  rcases ended with releasing | led
  · obtain ⟨later, found, becomes⟩ := evolved caller key _ releasing
    cases becomes with
    | stay => exact .inl found
    | release => exact .inr found
  · obtain ⟨later, found, becomes⟩ := evolved caller key _ led
    cases becomes with
    | stay => exact .inr found

/-- The future of a flight that has ended holds its outcome. -/
theorem FlightEnded.stored {key : PyStr} {future : Nat} {outcome : Coalesce.Outcome EsiResponse Unit}
    (past : FlightEnded state key future outcome) :
    state.shared.table.futures key future = outcome.stored := by
  obtain ⟨_, flights, seat, caller, reached, coalesces, ended⟩ := past
  have registered := Coalesce.reachable_registered reached
  rw [← coalesces.table]
  rcases ended with releasing | led
  · exact registered.holds caller key _ future releasing rfl
  · exact registered.holds caller key _ future led rfl

/-- The second of two equal requests waits while the first one fetches. -/
def joinedPair : List ServiceAction :=
  [.start 0 (.proxy (plainRequest (text "/v1/incursions/"))),
    .start 1 (.proxy (plainRequest (text "/v1/incursions/"))), proceed 0, proceed 0, proceed 0,
    proceed 0, proceed 1, proceed 1, proceed 1, proceed 1]

/-- A thread waits for a flight. -/
def waitsFor (state : Service) (thread future : Nat) : Bool :=
  match state.threads thread with
  | some (.perform (.coalesce _ (.waiting other)) _) => other = future
  | _ => false

theorem service_coalesces_joined :
    ∃ state : Service, waitsFor state 1 0 = true ∧
      ∃ flights seat, Coalesce.machine.Reachable flights ∧ Coalesces state flights seat := by
  have checked : (((service serviceLibraries {}).machine World.Fresh).run emptyService
      joinedPair).any (fun state => waitsFor state 1 0) = true := by
    decide +kernel
  obtain ⟨state, completed, waits⟩ := (Option.any_eq_true _ _).mp checked
  exact ⟨state, waits, service_coalesces
    (Machine.Reachable.run (.start (emptyService_initial _ _)) joinedPair completed)⟩

end Coalesces

end EveApiCache
