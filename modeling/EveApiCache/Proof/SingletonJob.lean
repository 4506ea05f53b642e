import EveApiCache.Construction.SingletonJob
import Mathlib.Data.List.Nodup

/-!
This file shows what the advisory lock keeps apart and that every call ends with its own outcome.
-/

namespace EveApiCache.SingletonJob

open StepMachine

variable {Error Value Lock : Type}

/-- An unlock that fails leaves the outcome of `fn` as it is. -/
theorem tryFinally_logged (outcome : Except Error Value) (block : Except Error Unit) :
    tryFinally outcome (logged block) = outcome := by
  cases block with
  | error error => rfl
  | ok _ => rfl

namespace Phase

/-- These phases come after the begin of `fn`. -/
def ran : Phase Error Value → Bool
  | executing | unlocking _ | committing _ | ended _ => true
  | asking | skipped | failed _ => false

/-- This is what `fn` returned or raised. -/
def outcome : Phase Error Value → Option (Except Error Value)
  | unlocking outcome | committing outcome | ended outcome => some outcome
  | asking | executing | skipped | failed _ => none

end Phase

/-- These are the moves of one call. -/
inductive Move [DecidableEq Lock] (locks : AdvisoryLocks Lock) (connection : Nat) (lock : Lock) :
    Phase Error Value → Event Error Value → AdvisoryLocks Lock → Phase Error Value → Prop where
  | refuse (error : Error) : Move locks connection lock .asking (.ask error) locks (.failed error)
  | skip (error : Error) : Move locks connection lock .asking (.ask error) locks .skipped
  | acquire (error : Error) (alive : connection ∉ locks.dead)
      (free : locks.admits connection lock = true) :
      Move locks connection lock .asking (.ask error) (locks.acquire connection lock) .executing
  | finish (outcome : Except Error Value) :
      Move locks connection lock .executing (.finish outcome) locks (.unlocking outcome)
  | lose (outcome : Except Error Value) (error : Error) (dead : connection ∈ locks.dead) :
      Move locks connection lock (.unlocking outcome) (.unlock error) locks (.ended outcome)
  | unlock (outcome : Except Error Value) (error : Error) (alive : connection ∉ locks.dead) :
      Move locks connection lock (.unlocking outcome) (.unlock error)
        (locks.unlock connection lock) (.committing outcome)
  | commit (outcome : Except Error Value) (result : Except Error Unit) :
      Move locks connection lock (.committing outcome) (.commit result) locks (.ended outcome)

/-- Every step of a call is one of the moves. -/
theorem advance_move [DecidableEq Lock] {locks next : AdvisoryLocks Lock} {connection : Nat}
    {lock : Lock} {phase after : Phase Error Value} {event : Event Error Value}
    (moved : advance locks connection lock phase event = some (next, after)) :
    Move locks connection lock phase event next after := by
  unfold advance at moved
  split at moved
  · split_ifs at moved with dead free
    · obtain ⟨rfl, rfl⟩ := Prod.mk.inj (Option.some.inj moved)
      exact .refuse _
    · obtain ⟨rfl, rfl⟩ := Prod.mk.inj (Option.some.inj moved)
      exact .acquire _ dead free
    · obtain ⟨rfl, rfl⟩ := Prod.mk.inj (Option.some.inj moved)
      exact .skip _
  · obtain ⟨rfl, rfl⟩ := Prod.mk.inj (Option.some.inj moved)
    exact .finish _
  · rw [tryFinally_logged] at moved
    split_ifs at moved with dead
    · obtain ⟨rfl, rfl⟩ := Prod.mk.inj (Option.some.inj moved)
      exact .lose _ _ dead
    · obtain ⟨rfl, rfl⟩ := Prod.mk.inj (Option.some.inj moved)
      exact .unlock _ _ dead
  · rw [tryFinally_logged] at moved
    obtain ⟨rfl, rfl⟩ := Prod.mk.inj (Option.some.inj moved)
    exact .commit _ _
  · cases moved

/-- No two unfinished calls share a connection. -/
structure Separate (state : State Error Value Lock) : Prop where
  fresh : ∀ number, state.begun ≤ number → state.calls number = none
  single : ∀ one two first second, state.calls one = some first → state.calls two = some second →
    first.phase.finished = false → second.phase.finished = false →
      first.connection = second.connection → one = two

/-- The record holds the calls that began `fn` and the outcomes of those that left it. -/
structure Recorded (state : State Error Value Lock) : Prop where
  executed : ∀ number, number ∈ state.executed ↔
    (state.calls number).any (·.phase.ran) = true
  returned : ∀ number outcome, (number, outcome) ∈ state.returned ↔
    (state.calls number).bind (·.phase.outcome) = some outcome

/-- The grants are those of the calls that hold a lock on a live connection, and every lock has one
grant. -/
structure Granted [DecidableEq Lock] (lockId : PyStr → Lock) (state : State Error Value Lock) :
    Prop where
  granted : ∀ grant ∈ state.locks.grants, grant.1 ∉ state.locks.dead ∧
    ∃ number call, state.calls number = some call ∧ call.phase.holds = true ∧
      grant = (call.connection, lockId call.jobId)
  held : ∀ number call, state.calls number = some call → call.phase.holds = true →
    call.connection ∉ state.locks.dead →
      (call.connection, lockId call.jobId) ∈ state.locks.grants
  exclusive : ∀ one ∈ state.locks.grants, ∀ two ∈ state.locks.grants, one.2 = two.2 → one = two
  distinct : state.locks.grants.Nodup

namespace State

@[simp] theorem note_begun (state : State Error Value Lock) (number : Nat)
    (event : Event Error Value) (phase : Phase Error Value) :
    (state.note number event phase).begun = state.begun := by
  unfold note
  split <;> rfl

@[simp] theorem note_calls (state : State Error Value Lock) (number : Nat)
    (event : Event Error Value) (phase : Phase Error Value) :
    (state.note number event phase).calls = state.calls := by
  unfold note
  split <;> rfl

@[simp] theorem set_calls (state : State Error Value Lock) (number : Nat) (call : Call Error Value) :
    (state.set number call).calls = Function.update state.calls number (some call) := rfl

theorem not_busy {state : State Error Value Lock} (separate : Separate state) {connection : Nat}
    (free : state.busy connection = false) {number : Nat} {call : Call Error Value}
    (found : state.calls number = some call) (open_ : call.phase.finished = false) :
    call.connection ≠ connection := by
  have known : number < state.begun := by
    by_contra late
    rw [separate.fresh number (not_lt.mp late)] at found
    cases found
  rintro rfl
  apply Bool.eq_false_iff.mp free
  refine List.any_eq_true.mpr ⟨number, List.mem_range.mpr known, ?_⟩
  rw [found, Option.any_some, open_]
  simp

end State

/-- A step begins a call on a free connection, moves one call, or kills a connection. -/
theorem step_cases [DecidableEq Lock] {lockId : PyStr → Lock} {state next : State Error Value Lock}
    {action : Action Error Value} (moved : step lockId state action = some next) :
    (∃ jobId connection, state.busy connection = false ∧
      next = { state.set state.begun ⟨jobId, connection, .asking⟩ with begun := state.begun + 1 }) ∨
    (∃ number event call locks after, state.calls number = some call ∧
      Move state.locks call.connection (lockId call.jobId) call.phase event locks after ∧
      next = { (state.set number { call with phase := after }).note number event after with
        locks := locks }) ∨
    ∃ connection, next = { state with locks := state.locks.kill connection } := by
  cases action with
  | begin jobId connection =>
      simp only [step] at moved
      split_ifs at moved with busy
      exact .inl ⟨jobId, connection, by simpa using busy, (Option.some.inj moved).symm⟩
  | move number event =>
      obtain ⟨call, found, moved⟩ := Option.bind_eq_some_iff.mp moved
      obtain ⟨⟨locks, after⟩, advanced, rfl⟩ := Option.map_eq_some_iff.mp moved
      exact .inr (.inl ⟨number, event, call, locks, after, found, advance_move advanced, rfl⟩)
  | die connection => exact .inr (.inr ⟨connection, (Option.some.inj moved).symm⟩)

/-- A call of the next state is the one that was set or an earlier one. -/
theorem update_some {calls : Nat → Option (Call Error Value)} {number other : Nat}
    {call found : Call Error Value}
    (read : Function.update calls number (some call) other = some found) :
    other = number ∧ found = call ∨ other ≠ number ∧ calls other = some found := by
  by_cases same : other = number
  · subst same
    rw [Function.update_self] at read
    exact .inl ⟨rfl, (Option.some.inj read).symm⟩
  · rw [Function.update_of_ne same] at read
    exact .inr ⟨same, read⟩

/-- Only an unfinished call moves. -/
theorem Move.unfinished [DecidableEq Lock] {locks next : AdvisoryLocks Lock} {connection : Nat}
    {lock : Lock} {phase after : Phase Error Value} {event : Event Error Value}
    (move : Move locks connection lock phase event next after) : phase.finished = false := by
  cases move <;> rfl

/-- A call that replaces an unfinished call on its connection, or that is new on a free one, shares it
with no other. -/
theorem Separate.replace {state next : State Error Value Lock} (separate : Separate state)
    {number : Nat} {call : Call Error Value}
    (alone : ∀ other found, other ≠ number → state.calls other = some found →
      found.phase.finished = false → found.connection ≠ call.connection)
    (calls : next.calls = Function.update state.calls number (some call))
    (begun : ∀ other, next.begun ≤ other → other ≠ number ∧ state.begun ≤ other) :
    Separate next where
  fresh other late := by
    obtain ⟨differs, earlier⟩ := begun other late
    rw [calls, Function.update_of_ne differs]
    exact separate.fresh other earlier
  single one two first second readFirst readSecond openFirst openSecond same := by
    rw [calls] at readFirst readSecond
    rcases update_some readFirst with ⟨rfl, rfl⟩ | ⟨differs, foundFirst⟩
    · rcases update_some readSecond with ⟨rfl, rfl⟩ | ⟨differs, foundSecond⟩
      · rfl
      · exact absurd same.symm (alone two second differs foundSecond openSecond)
    · rcases update_some readSecond with ⟨rfl, rfl⟩ | ⟨_, foundSecond⟩
      · exact absurd same (alone one first differs foundFirst openFirst)
      · exact separate.single one two first second foundFirst foundSecond openFirst openSecond same

/-- One step keeps the connections of the calls apart. -/
theorem Separate.step [DecidableEq Lock] {lockId : PyStr → Lock}
    {state next : State Error Value Lock} {action : Action Error Value} (separate : Separate state)
    (moved : step lockId state action = some next) : Separate next := by
  rcases step_cases moved with ⟨jobId, connection, free, rfl⟩ |
    ⟨number, event, call, locks, after, found, move, rfl⟩ | ⟨connection, rfl⟩
  · refine separate.replace (fun other found _ read open_ => ?_) (State.set_calls ..) ?_
    · exact State.not_busy separate free read open_
    · intro other late
      have later : state.begun + 1 ≤ other := late
      omega
  · have known : number < state.begun := by
      by_contra late
      rw [separate.fresh number (not_lt.mp late)] at found
      cases found
    refine separate.replace (fun other read differs foundOther open_ same => ?_)
      ((State.note_calls ..).trans (State.set_calls ..)) ?_
    · exact differs (separate.single other number read call foundOther found open_ move.unfinished same)
    · intro other late
      rw [State.note_begun] at late
      have later : state.begun ≤ other := late
      omega
  · exact ⟨separate.fresh, separate.single⟩

section Record

variable {state next : State Error Value Lock} {number : Nat} {call : Call Error Value}

/-- The record stays as it is when `fn` neither begins nor ends. -/
theorem Recorded.same (recorded : Recorded state)
    (calls : next.calls = Function.update state.calls number (some call))
    (executed : next.executed = state.executed) (returned : next.returned = state.returned)
    (ran : call.phase.ran = (state.calls number).any (·.phase.ran))
    (outcome : call.phase.outcome = (state.calls number).bind (·.phase.outcome)) :
    Recorded next where
  executed other := by
    rw [executed, recorded.executed, calls]
    by_cases same : other = number
    · subst same
      rw [Function.update_self, Option.any_some, ran]
    · rw [Function.update_of_ne same]
  returned other result := by
    rw [returned, recorded.returned, calls]
    by_cases same : other = number
    · subst same
      rw [Function.update_self, Option.bind_some, outcome]
    · rw [Function.update_of_ne same]

/-- A call that begins `fn` is recorded. -/
theorem Recorded.begins (recorded : Recorded state)
    (calls : next.calls = Function.update state.calls number (some call))
    (executed : next.executed = number :: state.executed) (returned : next.returned = state.returned)
    (ran : call.phase.ran = true)
    (outcome : call.phase.outcome = (state.calls number).bind (·.phase.outcome)) :
    Recorded next where
  executed other := by
    rw [executed, List.mem_cons, recorded.executed, calls]
    by_cases same : other = number
    · subst same
      rw [Function.update_self, Option.any_some, ran]
      simp
    · rw [Function.update_of_ne same]
      simp [same]
  returned other result := by
    rw [returned, recorded.returned, calls]
    by_cases same : other = number
    · subst same
      rw [Function.update_self, Option.bind_some, outcome]
    · rw [Function.update_of_ne same]

/-- The outcome of a call that leaves `fn` is recorded. -/
theorem Recorded.ends (recorded : Recorded state) {result : Except Error Value}
    (calls : next.calls = Function.update state.calls number (some call))
    (executed : next.executed = state.executed)
    (returned : next.returned = (number, result) :: state.returned)
    (ran : call.phase.ran = (state.calls number).any (·.phase.ran))
    (none : (state.calls number).bind (·.phase.outcome) = none)
    (outcome : call.phase.outcome = some result) : Recorded next where
  executed other := by
    rw [executed, recorded.executed, calls]
    by_cases same : other = number
    · subst same
      rw [Function.update_self, Option.any_some, ran]
    · rw [Function.update_of_ne same]
  returned other another := by
    rw [returned, List.mem_cons, recorded.returned, calls]
    by_cases same : other = number
    · subst same
      rw [Function.update_self, Option.bind_some, outcome, none]
      simp [eq_comm]
    · rw [Function.update_of_ne same]
      simp [same]

end Record

/-- One step keeps the record. -/
theorem Recorded.step [DecidableEq Lock] {lockId : PyStr → Lock}
    {state next : State Error Value Lock} {action : Action Error Value} (separate : Separate state)
    (recorded : Recorded state) (moved : step lockId state action = some next) : Recorded next := by
  rcases step_cases moved with ⟨jobId, connection, free, rfl⟩ |
    ⟨number, event, ⟨jobId, connection, phase⟩, locks, after, found, move, rfl⟩ | ⟨connection, rfl⟩
  · have new := separate.fresh state.begun le_rfl
    exact recorded.same (State.set_calls ..) rfl rfl (by rw [new]; rfl) (by rw [new]; rfl)
  · cases move with
    | refuse => exact recorded.same (State.set_calls ..) rfl rfl (by rw [found]; rfl) (by rw [found]; rfl)
    | skip => exact recorded.same (State.set_calls ..) rfl rfl (by rw [found]; rfl) (by rw [found]; rfl)
    | acquire => exact recorded.begins (State.set_calls ..) rfl rfl rfl (by rw [found]; rfl)
    | finish outcome =>
        exact recorded.ends (State.set_calls ..) rfl rfl (by rw [found]; rfl) (by rw [found]; rfl) rfl
    | lose => exact recorded.same (State.set_calls ..) rfl rfl (by rw [found]; rfl) (by rw [found]; rfl)
    | unlock => exact recorded.same (State.set_calls ..) rfl rfl (by rw [found]; rfl) (by rw [found]; rfl)
    | commit => exact recorded.same (State.set_calls ..) rfl rfl (by rw [found]; rfl) (by rw [found]; rfl)
  · exact ⟨recorded.executed, recorded.returned⟩

theorem Phase.holds_unfinished {phase : Phase Error Value} (holds : phase.holds = true) :
    phase.finished = false := by
  cases phase with
  | asking => rfl
  | executing => rfl
  | unlocking => rfl
  | committing => rfl
  | skipped => cases holds
  | failed => cases holds
  | ended => cases holds

section Grants

variable [DecidableEq Lock] {lockId : PyStr → Lock} {state next : State Error Value Lock}
  {number connection : Nat} {jobId : PyStr} {before after : Phase Error Value}

/-- The grants stay when no call with a live connection gets or loses its lock. -/
theorem Granted.same (granted : Granted lockId state) (before : Phase Error Value)
    (calls : next.calls = Function.update state.calls number (some ⟨jobId, connection, after⟩))
    (locks : next.locks = state.locks)
    (stays : after.holds = true → state.calls number = some ⟨jobId, connection, before⟩ ∧
      before.holds = true)
    (lost : ∀ call, state.calls number = some call → call.phase.holds = true →
      call.connection ∈ state.locks.dead ∨
        after.holds = true ∧ call.connection = connection ∧ call.jobId = jobId) :
    Granted lockId next where
  granted grant member := by
    rw [locks] at member ⊢
    obtain ⟨alive, other, call, found, holds, same⟩ := granted.granted grant member
    refine ⟨alive, other, ?_⟩
    rw [calls]
    by_cases equal : other = number
    · subst equal
      rcases lost call found holds with dead | ⟨still, sameConnection, sameJob⟩
      · exact absurd dead (by rw [same] at alive; exact alive)
      · exact ⟨_, Function.update_self .., still, by rw [same, sameConnection, sameJob]⟩
    · exact ⟨call, by rw [Function.update_of_ne equal, found], holds, same⟩
  held other call found holds alive := by
    rw [locks] at alive ⊢
    rw [calls] at found
    rcases update_some found with ⟨rfl, rfl⟩ | ⟨_, earlier⟩
    · obtain ⟨source, held⟩ := stays holds
      exact granted.held other ⟨jobId, connection, before⟩ source held alive
    · exact granted.held other call earlier holds alive
  exclusive := by
    rw [locks]
    exact granted.exclusive
  distinct := by
    rw [locks]
    exact granted.distinct

/-- A lock that PostgreSQL grants to a call had no grant. -/
theorem Granted.free (granted : Granted lockId state) (separate : Separate state)
    (found : state.calls number = some ⟨jobId, connection, before⟩)
    (open_ : before.finished = false) (idle : before.holds = false)
    (free : state.locks.admits connection (lockId jobId) = true) :
    ∀ grant ∈ state.locks.grants, grant.2 ≠ lockId jobId := by
  intro grant member taken
  have own := List.all_eq_true.mp free grant member
  rw [Bool.or_eq_true, decide_eq_true_eq, decide_eq_true_eq] at own
  obtain ⟨_, other, call, read, holds, same⟩ := granted.granted grant member
  have sameConnection : call.connection = connection := by
    rw [← own.resolve_left fun differs => differs taken, same]
  have equal := separate.single other number call _ read found (Phase.holds_unfinished holds) open_
    sameConnection
  subst equal
  cases Option.some.inj (read.symm.trans found)
  exact Bool.false_ne_true (idle.symm.trans holds)

/-- A granted lock is recorded with its connection. -/
theorem Granted.acquire (granted : Granted lockId state) (separate : Separate state)
    (found : state.calls number = some ⟨jobId, connection, before⟩)
    (open_ : before.finished = false) (idle : before.holds = false)
    (alive : connection ∉ state.locks.dead)
    (free : state.locks.admits connection (lockId jobId) = true) (holds : after.holds = true)
    (calls : next.calls = Function.update state.calls number (some ⟨jobId, connection, after⟩))
    (locks : next.locks = state.locks.acquire connection (lockId jobId)) :
    Granted lockId next := by
  have unused := granted.free separate found open_ idle free
  refine ⟨?_, ?_, ?_, ?_⟩
  · intro grant member
    rw [locks] at member ⊢
    rcases List.mem_cons.mp member with rfl | earlier
    · exact ⟨alive, number, _, by rw [calls, Function.update_self], holds, rfl⟩
    · obtain ⟨live, other, call, read, held, same⟩ := granted.granted grant earlier
      have differs : other ≠ number := by
        rintro rfl
        cases Option.some.inj (read.symm.trans found)
        exact Bool.false_ne_true (idle.symm.trans held)
      exact ⟨live, other, call, by rw [calls, Function.update_of_ne differs, read], held, same⟩
  · intro other call read held live
    rw [calls] at read
    rw [locks] at live ⊢
    rcases update_some read with ⟨rfl, rfl⟩ | ⟨_, earlier⟩
    · exact List.mem_cons_self ..
    · exact List.mem_cons_of_mem _ (granted.held other call earlier held live)
  · intro one memberOne two memberTwo same
    rw [locks] at memberOne memberTwo
    rcases List.mem_cons.mp memberOne with rfl | earlierOne
    · rcases List.mem_cons.mp memberTwo with rfl | earlierTwo
      · rfl
      · exact absurd same.symm (unused two earlierTwo)
    · rcases List.mem_cons.mp memberTwo with rfl | earlierTwo
      · exact absurd same (unused one earlierOne)
      · exact granted.exclusive one earlierOne two earlierTwo same
  · rw [locks]
    exact List.nodup_cons.mpr ⟨fun member => unused _ member rfl, granted.distinct⟩

/-- An unlock removes the grant of its call and no other. -/
theorem Granted.unlock (granted : Granted lockId state) (separate : Separate state)
    (found : state.calls number = some ⟨jobId, connection, before⟩) (open_ : before.finished = false)
    (gone : after.holds = false)
    (calls : next.calls = Function.update state.calls number (some ⟨jobId, connection, after⟩))
    (locks : next.locks = state.locks.unlock connection (lockId jobId)) :
    Granted lockId next := by
  have members : ∀ grant, grant ∈ next.locks.grants ↔
      grant ≠ (connection, lockId jobId) ∧ grant ∈ state.locks.grants := by
    intro grant
    rw [locks]
    exact granted.distinct.mem_erase_iff
  refine ⟨?_, ?_, ?_, ?_⟩
  · intro grant member
    obtain ⟨differs, earlier⟩ := (members grant).mp member
    obtain ⟨live, other, call, read, held, same⟩ := granted.granted grant earlier
    have apart : other ≠ number := by
      rintro rfl
      cases Option.some.inj (read.symm.trans found)
      exact differs same
    rw [locks]
    exact ⟨live, other, call, by rw [calls, Function.update_of_ne apart, read], held, same⟩
  · intro other call read held live
    rw [locks] at live
    rw [calls] at read
    rcases update_some read with ⟨rfl, rfl⟩ | ⟨apart, earlier⟩
    · exact absurd (gone.symm.trans held) Bool.false_ne_true
    · refine (members _).mpr ⟨fun same => apart ?_, granted.held other call earlier held live⟩
      exact separate.single other number call _ earlier found (Phase.holds_unfinished held) open_
        (Prod.mk.inj same).1
  · intro one memberOne two memberTwo same
    exact granted.exclusive one ((members one).mp memberOne).2 two ((members two).mp memberTwo).2 same
  · rw [locks]
    exact granted.distinct.erase _

theorem Granted.kill (granted : Granted lockId state) (connection : Nat) :
    Granted lockId { state with locks := state.locks.kill connection } where
  granted grant member := by
    obtain ⟨earlier, survives⟩ := List.mem_filter.mp member
    obtain ⟨live, other, call, read, held, same⟩ := granted.granted grant earlier
    refine ⟨fun dies => ?_, other, call, read, held, same⟩
    rcases List.mem_cons.mp dies with killed | dead
    · exact of_decide_eq_true survives killed
    · exact live dead
  held other call read holds live := by
    have survives : call.connection ≠ connection := fun same =>
      live (same ▸ List.mem_cons_self ..)
    refine List.mem_filter.mpr ⟨granted.held other call read holds fun dead => ?_, ?_⟩
    · exact live (List.mem_cons_of_mem _ dead)
    · exact decide_eq_true survives
  exclusive one memberOne two memberTwo same :=
    granted.exclusive one (List.mem_of_mem_filter memberOne) two (List.mem_of_mem_filter memberTwo) same
  distinct := granted.distinct.filter _

end Grants

/-- One step keeps the grants. -/
theorem Granted.step [DecidableEq Lock] {lockId : PyStr → Lock}
    {state next : State Error Value Lock} {action : Action Error Value} (separate : Separate state)
    (granted : Granted lockId state) (moved : step lockId state action = some next) :
    Granted lockId next := by
  rcases step_cases moved with ⟨jobId, connection, free, rfl⟩ |
    ⟨number, event, ⟨jobId, connection, phase⟩, locks, after, found, move, rfl⟩ | ⟨connection, rfl⟩
  · have new := separate.fresh state.begun le_rfl
    refine granted.same .asking (State.set_calls ..) rfl ?_ ?_
    · intro holds
      cases holds
    · intro call read
      rw [new] at read
      cases read
  · have own : ∀ call, state.calls number = some call → call = ⟨jobId, connection, phase⟩ :=
      fun call read => Option.some.inj (read.symm.trans found)
    cases move with
    | refuse =>
        refine granted.same .asking (State.set_calls ..) rfl nofun ?_
        intro call read holds
        rw [own call read] at holds
        cases holds
    | skip =>
        refine granted.same .asking (State.set_calls ..) rfl nofun ?_
        intro call read holds
        rw [own call read] at holds
        cases holds
    | acquire error alive free =>
        exact granted.acquire separate found rfl rfl alive free rfl (State.set_calls ..) rfl
    | finish outcome =>
        refine granted.same .executing (State.set_calls ..) rfl (fun _ => ⟨found, rfl⟩) ?_
        intro call read _
        rw [own call read]
        exact .inr ⟨rfl, rfl, rfl⟩
    | lose outcome error dead =>
        refine granted.same (.unlocking outcome) (State.set_calls ..) rfl nofun ?_
        intro call read _
        rw [own call read]
        exact .inl dead
    | unlock => exact granted.unlock separate found rfl rfl (State.set_calls ..) rfl
    | commit outcome =>
        refine granted.same (.committing outcome) (State.set_calls ..) rfl nofun ?_
        intro call read holds
        rw [own call read] at holds
        cases holds
  · exact granted.kill connection

/-- No call has begun in the first state. -/
theorem initial_kept [DecidableEq Lock] (lockId : PyStr → Lock) :
    Separate ({} : State Error Value Lock) ∧ Recorded ({} : State Error Value Lock) ∧
      Granted lockId ({} : State Error Value Lock) := by
  refine ⟨⟨fun _ _ => rfl, nofun⟩, ⟨fun _ => ?_, fun _ _ => ?_⟩, ⟨nofun, nofun, nofun, List.nodup_nil⟩⟩
  · exact iff_of_false nofun nofun
  · exact iff_of_false nofun nofun

/-- Every reachable state keeps the connections apart, the record and the grants. -/
theorem reachable_kept [DecidableEq Lock] {lockId : PyStr → Lock}
    {state : State Error Value Lock} (reached : (singletonJobs lockId).Reachable state) :
    Separate state ∧ Recorded state ∧ Granted lockId state := by
  apply reached.invariant
  · rintro _ rfl
    exact initial_kept lockId
  · rintro state action next ⟨separate, recorded, granted⟩ _ moved
    exact ⟨separate.step moved, recorded.step separate moved, granted.step separate moved⟩

/-- While the connection of a holder is alive, every other call of its job that executes `fn` has lost
its own connection. -/
def OthersLost (state : State Error Value Lock) : Prop :=
  ∀ holder other one two, state.calls holder = some one → state.calls other = some two →
    holder ≠ other → one.jobId = two.jobId → one.phase.holds = true →
      one.connection ∉ state.locks.dead → two.phase = .executing →
        two.connection ∈ state.locks.dead

/-- A call that did not get its lock has executed nothing. -/
def SkippedIdle (state : State Error Value Lock) : Prop :=
  ∀ number call, state.calls number = some call →
    (call.phase = .skipped ∨ ∃ error, call.phase = .failed error) → number ∉ state.executed

/-- No lock is held when every call has finished. -/
def AllReleased (state : State Error Value Lock) : Prop :=
  (∀ number call, state.calls number = some call → call.phase.finished = true) →
    state.locks.grants = []

/-- A finished call that executed `fn` yields what `fn` returned or raised. -/
def OwnOutcome (state : State Error Value Lock) : Prop :=
  ∀ number ∈ state.executed, ∀ call, state.calls number = some call → call.phase.finished = true →
    ∃ outcome, call.phase = .ended outcome ∧
      ∀ result, (number, result) ∈ state.returned ↔ result = outcome

section Properties

variable {state : State Error Value Lock}

theorem Granted.othersLost [DecidableEq Lock] {lockId : PyStr → Lock}
    (granted : Granted lockId state) (separate : Separate state) : OthersLost state := by
  intro holder other one two foundOne foundTwo differs sameJob holds alive executing
  by_contra living
  have twoHolds : two.phase.holds = true := by rw [executing]; rfl
  have grantOne := granted.held holder one foundOne holds alive
  have grantTwo := granted.held other two foundTwo twoHolds living
  have same := granted.exclusive _ grantOne _ grantTwo (congrArg lockId sameJob)
  exact differs (separate.single holder other one two foundOne foundTwo
    (Phase.holds_unfinished holds) (Phase.holds_unfinished twoHolds) (Prod.mk.inj same).1)

theorem Recorded.skippedIdle (recorded : Recorded state) : SkippedIdle state := by
  intro number call found refused began
  have ran := (recorded.executed number).mp began
  rw [found, Option.any_some] at ran
  rcases refused with skipped | ⟨error, failed⟩
  · rw [skipped] at ran
    cases ran
  · rw [failed] at ran
    cases ran

theorem Granted.allReleased [DecidableEq Lock] {lockId : PyStr → Lock}
    (granted : Granted lockId state) : AllReleased state := by
  intro finished
  apply List.eq_nil_iff_forall_not_mem.mpr
  intro grant member
  obtain ⟨_, number, call, found, holds, _⟩ := granted.granted grant member
  have open_ := Phase.holds_unfinished holds
  rw [finished number call found] at open_
  cases open_

theorem Recorded.ownOutcome (recorded : Recorded state) : OwnOutcome state := by
  intro number began call found finished
  have ran := (recorded.executed number).mp began
  have returned := recorded.returned number
  rw [found, Option.any_some] at ran
  rw [found, Option.bind_some] at returned
  cases shape : call.phase with
  | ended outcome =>
      refine ⟨outcome, rfl, fun result => ?_⟩
      rw [returned, shape]
      exact Option.some_inj.trans eq_comm
  | asking => rw [shape] at ran; cases ran
  | skipped => rw [shape] at ran; cases ran
  | failed error => rw [shape] at ran; cases ran
  | executing => rw [shape] at finished; cases finished
  | unlocking outcome => rw [shape] at finished; cases finished
  | committing outcome => rw [shape] at finished; cases finished

end Properties

/-- In every reachable state a live holder shares its job with no other live execution, a refused call
has executed nothing, finished calls hold no lock, and every outcome is that of `fn`. -/
theorem singletonJobs_sound [DecidableEq Lock] (lockId : PyStr → Lock)
    {state : State Error Value Lock} (reached : (singletonJobs lockId).Reachable state) :
    OthersLost state ∧ SkippedIdle state ∧ AllReleased state ∧ OwnOutcome state := by
  obtain ⟨separate, recorded, granted⟩ := reachable_kept reached
  exact ⟨granted.othersLost separate, recorded.skippedIdle, granted.allReleased,
    recorded.ownOutcome⟩

/-- The connection of a job dies while it executes, so its unlock fails. -/
def lostUnlock : List (Action PyStr Nat) :=
  [.begin (text "incursions") 0, .move 0 (.ask []), .move 0 (.finish (.ok 7)), .die 0,
    .move 0 (.unlock (text "connection is closed"))]

/-- The job still yields its own result. -/
theorem singletonJobs_sound_lostUnlock :
    ∃ state : State PyStr Nat PyStr, (singletonJobs id).run {} lostUnlock = some state ∧
      ∃ call outcome, state.calls 0 = some call ∧ call.phase = .ended outcome ∧
        (0, outcome) ∈ state.returned := by
  obtain ⟨state, completed, found⟩ : ∃ state : State PyStr Nat PyStr,
      (singletonJobs id).run {} lostUnlock = some state ∧
        ∃ call, state.calls 0 = some call ∧ call.phase.finished = true ∧ 0 ∈ state.executed :=
    ⟨_, rfl, _, rfl, rfl, List.mem_singleton_self 0⟩
  obtain ⟨call, read, finished, began⟩ := found
  have reached : Machine.Reachable
      (singletonJobs id : Machine (State PyStr Nat PyStr) (Action PyStr Nat)) state :=
    Machine.Reachable.run (.start rfl) lostUnlock completed
  obtain ⟨_, _, _, own⟩ := singletonJobs_sound id reached
  obtain ⟨outcome, shape, returned⟩ := own 0 began call read finished
  exact ⟨state, completed, call, outcome, read, shape, (returned outcome).mpr rfl⟩

/-- The connection of the first call dies while it executes, and a second call gets the lock. -/
def secondHolder : List (Action PyStr Nat) :=
  [.begin (text "incursions") 0, .move 0 (.ask []), .die 0, .begin (text "incursions") 1,
    .move 1 (.ask [])]

/-- The second call holds its lock on a live connection while the first one still executes. -/
theorem first_still_executes :
    ¬ ∀ state : State PyStr Nat PyStr, (singletonJobs id).Reachable state →
      ∀ holder other one two, state.calls holder = some one → state.calls other = some two →
        holder ≠ other → one.jobId = two.jobId → one.phase.holds = true →
          one.connection ∉ state.locks.dead → two.phase ≠ .executing := by
  intro exclusive
  obtain ⟨state, completed, one, two, foundOne, foundTwo, facts⟩ : ∃ state : State PyStr Nat PyStr,
      (singletonJobs id).run {} secondHolder = some state ∧
        ∃ one two, state.calls 1 = some one ∧ state.calls 0 = some two ∧
          one.jobId = two.jobId ∧ one.phase.holds = true ∧ one.connection = 1 ∧
            state.locks.dead = [0] ∧ two.phase = .executing :=
    ⟨_, rfl, _, _, rfl, rfl, rfl, rfl, rfl, rfl, rfl⟩
  obtain ⟨sameJob, holds, connection, dead, executing⟩ := facts
  have reached : Machine.Reachable
      (singletonJobs id : Machine (State PyStr Nat PyStr) (Action PyStr Nat)) state :=
    Machine.Reachable.run (.start rfl) secondHolder completed
  refine exclusive state reached 1 0 one two foundOne foundTwo (by decide) sameJob holds ?_ executing
  rw [connection, dead]
  decide

end EveApiCache.SingletonJob
