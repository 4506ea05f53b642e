import EveApiCache.Construction.Coalesce

namespace EveApiCache.Coalesce
open StepMachine

variable {Key Result Failure : Type}

/-- These are the moves of one call, named by the line of `coalesce` that they execute. -/
inductive Move [DecidableEq Key] (table : Table Key Result Failure) (key : Key) :
    Phase Result Failure → Event Result Failure → Table Key Result Failure →
      Phase Result Failure → Prop where
  | attach {future : Nat} (listed : table.inflight key = some future) :
      Move table key .joining .proceed table (.waiting future)
  | register (free : table.inflight key = none) :
      Move table key .joining .proceed (table.register key) (.leading table.created)
  | abandon : Move table key .joining .cancel table .abandoned
  | settle (future : Nat) (outcome : Outcome Result Failure) :
      Move table key (.leading future) (.settle outcome) (table.settle key future outcome)
        (.releasing future outcome)
  | release (future : Nat) (outcome : Outcome Result Failure) :
      Move table key (.releasing future outcome) .proceed (table.release key) (.led future outcome)
  | wake {future : Nat} {outcome : Except Failure Result}
      (resolved : table.futures key future = .resolved outcome) :
      Move table key (.waiting future) .proceed table (.shared future (.ofResolved outcome))
  | leave (future : Nat) :
      Move table key (.waiting future) .cancel table (.shared future .cancelled)

/-- Every step of a call is one of the named moves. -/
theorem advance_move [DecidableEq Key] {table next : Table Key Result Failure} {key : Key}
    {phase after : Phase Result Failure} {event : Event Result Failure}
    (moved : advance table key phase event = some (next, after)) :
    Move table key phase event next after := by
  cases phase with
  | joining =>
      cases event with
      | proceed =>
          simp only [advance, Option.some.injEq, Table.join] at moved
          split at moved
          · obtain ⟨rfl, rfl⟩ := Prod.mk.inj moved
            exact .attach ‹_›
          · obtain ⟨rfl, rfl⟩ := Prod.mk.inj moved
            exact .register ‹_›
      | settle outcome => simp [advance] at moved
      | cancel =>
          obtain ⟨rfl, rfl⟩ := Prod.mk.inj (Option.some.inj moved)
          exact .abandon
  | leading future =>
      cases event with
      | settle outcome =>
          obtain ⟨rfl, rfl⟩ := Prod.mk.inj (Option.some.inj moved)
          exact .settle future outcome
      | proceed => simp [advance] at moved
      | cancel => simp [advance] at moved
  | releasing future outcome =>
      cases event with
      | proceed =>
          obtain ⟨rfl, rfl⟩ := Prod.mk.inj (Option.some.inj moved)
          exact .release future outcome
      | cancel => simp [advance] at moved
      | settle result => simp [advance] at moved
  | waiting future =>
      cases event with
      | proceed =>
          simp only [advance] at moved
          split at moved
          · contradiction
          · obtain ⟨rfl, rfl⟩ := Prod.mk.inj (Option.some.inj moved)
            exact .wake ‹_›
      | cancel =>
          obtain ⟨rfl, rfl⟩ := Prod.mk.inj (Option.some.inj moved)
          exact .leave future
      | settle result => simp [advance] at moved
  | led future outcome => simp [advance] at moved
  | shared future outcome => simp [advance] at moved
  | abandoned => simp [advance] at moved

/-- A step of the system starts one call or moves one call. -/
theorem step_cases [DecidableEq Key] {state next : State Key Result Failure} {action : Action Key Result Failure}
    (moved : step state action = some next) :
    (∃ caller key, action = .call caller key ∧ state.callers caller = none ∧
      next = { state with
        callers := Function.update state.callers caller (some (key, .joining)) }) ∨
    (∃ caller event key phase table after, action = .event caller event ∧
      state.callers caller = some (key, phase) ∧
      Move state.table key phase event table after ∧
      next = { table := table
               callers := Function.update state.callers caller (some (key, after)) }) := by
  cases action with
  | call caller key =>
      simp only [step] at moved
      split at moved
      · contradiction
      · exact .inl ⟨caller, key, rfl, ‹_›, (Option.some.inj moved).symm⟩
  | event caller event =>
      simp only [step] at moved
      split at moved
      · contradiction
      · rename_i key phase found
        obtain ⟨⟨table, after⟩, advanced, same⟩ := Option.map_eq_some_iff.mp moved
        exact .inr ⟨caller, event, key, phase, table, after, rfl, found, advance_move advanced,
          same.symm⟩

/-- A settled leader unresolves no future. -/
theorem Table.settle_keeps [DecidableEq Key] (table : Table Key Result Failure) (key : Key)
    (future : Nat) (outcome : Outcome Result Failure) {other : Key} {target : Nat}
    (resolved : (table.futures other target).isResolved) :
    ((table.settle key future outcome).futures other target).isResolved := by
  cases outcome with
  | cancelled => exact resolved
  | returned value =>
      simp only [settle, resolve_futures]
      split
      · rfl
      · exact resolved
  | raised failure =>
      simp only [settle, resolve_futures]
      split
      · rfl
      · exact resolved

/-- A leader runs from the registration of its future to the end of its `finally` block. -/
def LeaderRunning (state : State Key Result Failure) (key : Key) (future : Nat) : Prop :=
  ∃ leader, state.callers leader = some (key, .leading future) ∨
    ∃ outcome, state.callers leader = some (key, .releasing future outcome)

/-- No caller waits on an unresolved future without a running leader, and none still waits on
one after the leader of that future has terminated. -/
structure NoStranded (state : State Key Result Failure) : Prop where
  served : ∀ waiter key future, state.callers waiter = some (key, .waiting future) →
    (state.table.futures key future).isResolved ∨ LeaderRunning state key future
  terminated : ∀ leader waiter key future outcome,
    state.callers leader = some (key, .led future outcome) →
    state.callers waiter = some (key, .waiting future) →
    (state.table.futures key future).isResolved

/-- A cancelled `coro_fn` is harmless when no caller waits on its future, and a caller is safe
when it does not join a future whose leader was cancelled earlier. -/
def CancelledAlone (state : State Key Result Failure) : Action Key Result Failure → Prop
  | .event leader (.settle .cancelled) =>
      ∀ key future, state.callers leader = some (key, .leading future) →
        ∀ waiter, state.callers waiter ≠ some (key, .waiting future)
  | .event caller .proceed =>
      ∀ key future, state.callers caller = some (key, .joining) →
        state.table.inflight key = some future →
          (state.table.futures key future).isResolved ∨
            ∃ leader, state.callers leader = some (key, .leading future)
  | _ => True

/-- This is the future that a call registered itself. -/
def Phase.owned : Phase Result Failure → Option Nat
  | .leading future | .releasing future _ | .led future _ => some future
  | _ => none

/-- This is the future that a call waits on. -/
def Phase.awaited : Phase Result Failure → Option Nat
  | .waiting future => some future
  | _ => none

/-- Each future has one owner, and a waited future is resolved or its owner is inside `coro_fn`. -/
structure Sound (state : State Key Result Failure) : Prop where
  listed : ∀ key future, state.table.inflight key = some future → future < state.table.created
  known : ∀ caller key phase future, state.callers caller = some (key, phase) →
    phase.owned = some future ∨ phase.awaited = some future → future < state.table.created
  single : ∀ first second key firstPhase secondPhase future,
    state.callers first = some (key, firstPhase) →
    state.callers second = some (key, secondPhase) →
    firstPhase.owned = some future → secondPhase.owned = some future → first = second
  shelter : ∀ waiter key future, state.callers waiter = some (key, .waiting future) →
    (state.table.futures key future).isResolved ∨
      ∃ leader, state.callers leader = some (key, .leading future)

theorem sound_empty : Sound (State.empty : State Key Result Failure) := by
  constructor <;> simp [State.empty, Table.empty]

/-- The sound states strand no waiter. -/
theorem Sound.noStranded {state : State Key Result Failure} (sound : Sound state) :
    NoStranded state where
  served waiter key future waits := by
    rcases sound.shelter waiter key future waits with resolved | ⟨leader, leads⟩
    · exact .inl resolved
    · exact .inr ⟨leader, .inl leads⟩
  terminated leader waiter key future outcome ended waits := by
    rcases sound.shelter waiter key future waits with resolved | ⟨running, leads⟩
    · exact resolved
    · have same := sound.single _ _ _ _ _ _ ended leads rfl rfl
      subst same
      rw [ended] at leads
      simp at leads

/-- After an update a caller is the updated one or an unchanged one. -/
theorem caller_update {callers : Nat → Option (Key × Phase Result Failure)} {caller other : Nat}
    {key otherKey : Key} {phase otherPhase : Phase Result Failure}
    (found : Function.update callers caller (some (key, phase)) other =
      some (otherKey, otherPhase)) :
    (other = caller ∧ otherKey = key ∧ otherPhase = phase) ∨
      (other ≠ caller ∧ callers other = some (otherKey, otherPhase)) := by
  by_cases same : other = caller
  · subst same
    rw [Function.update_self] at found
    obtain ⟨rfl, rfl⟩ := Prod.mk.inj (Option.some.inj found)
    exact .inl ⟨rfl, rfl, rfl⟩
  · rw [Function.update_of_ne same] at found
    exact .inr ⟨same, found⟩

/-- A new call owns no future and waits on none. -/
theorem Sound.call {state : State Key Result Failure} (sound : Sound state) {caller : Nat}
    (key : Key) (free : state.callers caller = none) :
    Sound { state with
      callers := Function.update state.callers caller (some (key, .joining)) } where
  listed := sound.listed
  known other otherKey phase future found mentions := by
    rcases caller_update found with ⟨_, _, rfl⟩ | ⟨_, found⟩
    · simp [Phase.owned, Phase.awaited] at mentions
    · exact sound.known other otherKey phase future found mentions
  single first second otherKey firstPhase secondPhase future one two owns ownsToo := by
    rcases caller_update one with ⟨_, _, rfl⟩ | ⟨_, one⟩
    · simp [Phase.owned] at owns
    · rcases caller_update two with ⟨_, _, rfl⟩ | ⟨_, two⟩
      · simp [Phase.owned] at ownsToo
      · exact sound.single _ _ _ _ _ _ one two owns ownsToo
  shelter waiter otherKey future waits := by
    rcases caller_update waits with ⟨_, _, impossible⟩ | ⟨_, waits⟩
    · contradiction
    · rcases sound.shelter waiter otherKey future waits with resolved | ⟨leader, leads⟩
      · exact .inl resolved
      · have different : leader ≠ caller := by
          rintro rfl
          rw [free] at leads
          contradiction
        exact .inr ⟨leader, by simpa [Function.update_of_ne different] using leads⟩

/-- These are the obligations of one move: its new table, its new phase, and the waiters of a
future that it stops leading. -/
theorem Sound.update {state : State Key Result Failure} (sound : Sound state) {caller : Nat}
    {key : Key} {phase after : Phase Result Failure} {table : Table Key Result Failure}
    (found : state.callers caller = some (key, phase))
    (grows : state.table.created ≤ table.created)
    (listed : ∀ key future, table.inflight key = some future → future < table.created)
    (kept : ∀ key, ∀ future < state.table.created, (state.table.futures key future).isResolved →
      (table.futures key future).isResolved)
    (mentions : ∀ future, after.owned = some future ∨ after.awaited = some future →
      future < table.created)
    (owned : ∀ future, after.owned = some future →
      phase.owned = some future ∨ state.table.created ≤ future)
    (attached : ∀ future, after = .waiting future → future < state.table.created ∧
      ((state.table.futures key future).isResolved ∨
        ∃ leader, state.callers leader = some (key, .leading future)))
    (settled : ∀ future, phase = .leading future → after ≠ .waiting future ∧
      ((table.futures key future).isResolved ∨
        ∀ waiter, state.callers waiter ≠ some (key, .waiting future))) :
    Sound { table := table
            callers := Function.update state.callers caller (some (key, after)) } where
  listed := listed
  known other otherKey otherPhase future seen named := by
    rcases caller_update seen with ⟨_, _, rfl⟩ | ⟨_, old⟩
    · exact mentions future named
    · exact Nat.lt_of_lt_of_le (sound.known _ _ _ _ old named) grows
  single first second otherKey firstPhase secondPhase future one two owns ownsToo := by
    rcases caller_update one with ⟨same, sameKey, rfl⟩ | ⟨_, oldOne⟩ <;>
      rcases caller_update two with ⟨sameToo, sameKeyToo, rfl⟩ | ⟨_, oldTwo⟩
    · exact same.trans sameToo.symm
    · rcases owned future owns with before | fresh
      · subst sameKey
        exact same.trans (sound.single _ _ _ _ _ _ found oldTwo before ownsToo)
      · have old := sound.known _ _ _ _ oldTwo (.inl ownsToo)
        omega
    · rcases owned future ownsToo with before | fresh
      · subst sameKeyToo
        exact (sound.single _ _ _ _ _ _ oldOne found owns before).trans sameToo.symm
      · have old := sound.known _ _ _ _ oldOne (.inl owns)
        omega
    · exact sound.single _ _ _ _ _ _ oldOne oldTwo owns ownsToo
  shelter waiter otherKey future waits := by
    have before : future < state.table.created ∧
        ((state.table.futures otherKey future).isResolved ∨
          ∃ leader, state.callers leader = some (otherKey, .leading future)) := by
      rcases caller_update waits with ⟨_, rfl, same⟩ | ⟨_, old⟩
      · exact attached future same.symm
      · exact ⟨sound.known _ _ _ _ old (.inr rfl), sound.shelter _ _ _ old⟩
    obtain ⟨created, resolved | ⟨leader, leads⟩⟩ := before
    · exact .inl (kept otherKey future created resolved)
    · by_cases same : leader = caller
      · subst same
        obtain ⟨rfl, rfl⟩ := Prod.mk.inj (Option.some.inj (found.symm.trans leads))
        obtain ⟨notWaiting, resolved | alone⟩ := settled future rfl
        · exact .inl resolved
        · rcases caller_update waits with ⟨_, _, impossible⟩ | ⟨_, old⟩
          · exact absurd impossible.symm notWaiting
          · exact absurd old (alone waiter)
      · refine .inr ⟨leader, ?_⟩
        change Function.update state.callers caller (some (key, after)) leader = _
        rw [Function.update_of_ne same, leads]

/-- Every allowed move keeps the state sound. Only a cancelled `coro_fn` leaves its future
unresolved, and the guard says that no caller waits on that future. -/
theorem Sound.move [DecidableEq Key] {state : State Key Result Failure} (sound : Sound state)
    {caller : Nat} {key : Key} {event : Event Result Failure} {phase after : Phase Result Failure}
    {table : Table Key Result Failure} (found : state.callers caller = some (key, phase))
    (alone : CancelledAlone state (.event caller event))
    (moved : Move state.table key phase event table after) :
    Sound { table := table
            callers := Function.update state.callers caller (some (key, after)) } := by
  have mentioned := sound.known caller key phase
  cases moved with
  | @attach future listed =>
      refine sound.update found (Nat.le_refl _) sound.listed (fun _ _ _ => id) ?_
        (by simp [Phase.owned]) ?_ (by simp)
      · intro target named
        obtain rfl : future = target := by simpa [Phase.owned, Phase.awaited] using named
        exact sound.listed key future listed
      · intro target same
        cases same
        exact ⟨sound.listed key future listed, alone key future found listed⟩
  | register free =>
      refine sound.update found (Nat.le_succ _) ?_ ?_ ?_ ?_ (by simp) (by simp)
      · intro other future listed
        by_cases same : other = key
        · simp_all
        · have old := sound.listed other future (by simpa [same] using listed)
          exact Nat.lt_succ_of_lt old
      · intro other future old resolved
        simpa [Nat.ne_of_lt old] using resolved
      · intro future named
        obtain rfl : state.table.created = future := by
          simpa [Phase.owned, Phase.awaited] using named
        exact Nat.lt_succ_self _
      · intro future owns
        obtain rfl : state.table.created = future := by simpa [Phase.owned] using owns
        exact .inr (Nat.le_refl _)
  | abandon =>
      exact sound.update found (Nat.le_refl _) sound.listed (fun _ _ _ => id)
        (by simp [Phase.owned, Phase.awaited]) (by simp [Phase.owned]) (by simp) (by simp)
  | settle future outcome =>
      refine sound.update found (by simp) (by simpa using sound.listed) ?_ ?_ ?_ (by simp) ?_
      · intro other target _ resolved
        exact state.table.settle_keeps key future outcome resolved
      · intro target named
        rw [Table.settle_created]
        exact mentioned target found (by simpa [Phase.owned, Phase.awaited] using named)
      · intro target owns
        exact .inl owns
      · intro target leads
        cases leads
        refine ⟨by simp, ?_⟩
        cases outcome with
        | returned value => exact .inl (by simp [Table.settle])
        | raised failure => exact .inl (by simp [Table.settle])
        | cancelled => exact .inr (alone key future found)
  | release future outcome =>
      refine sound.update found (Nat.le_refl _) ?_ (fun _ _ _ => id) ?_ (fun _ => .inl) (by simp)
        (by simp)
      · intro other target listed
        by_cases same : other = key
        · simp [same] at listed
        · exact sound.listed other target (by simpa [same] using listed)
      · intro target named
        exact mentioned target found (by simpa [Phase.owned, Phase.awaited] using named)
  | wake resolved =>
      exact sound.update found (Nat.le_refl _) sound.listed (fun _ _ _ => id)
        (by simp [Phase.owned, Phase.awaited]) (by simp [Phase.owned]) (by simp) (by simp)
  | leave future =>
      exact sound.update found (Nat.le_refl _) sound.listed (fun _ _ _ => id)
        (by simp [Phase.owned, Phase.awaited]) (by simp [Phase.owned]) (by simp) (by simp)

theorem Sound.step [DecidableEq Key] {state next : State Key Result Failure}
    {action : Action Key Result Failure} (sound : Sound state)
    (alone : CancelledAlone state action) (moved : step state action = some next) :
    Sound next := by
  rcases step_cases moved with ⟨caller, key, rfl, free, rfl⟩ |
    ⟨caller, event, key, phase, table, after, rfl, found, move, rfl⟩
  · exact sound.call key free
  · exact sound.move found alone move

/-- No guarded run strands a waiter. -/
theorem noStranded_of_cancelledAlone [DecidableEq Key] (state : State Key Result Failure)
    (reached : (machine : Machine (State Key Result Failure) _).Guarded CancelledAlone state) :
    NoStranded state := by
  refine Sound.noStranded (reached.invariant Sound ?_ ?_)
  · rintro _ rfl
    exact sound_empty
  · intro state action next sound alone moved
    exact sound.step alone moved

/-- In this schedule a second caller shares the result of the first. -/
def sharedSchedule : List (Action String Nat String) :=
  [.call 0 "k1", .event 0 .proceed, .call 1 "k1", .event 1 .proceed,
    .event 0 (.settle (.returned 7)), .event 0 .proceed]

theorem noStranded_of_cancelledAlone_shared :
    ∃ state, machine.run State.empty sharedSchedule = some state ∧
      state.callers 1 = some ("k1", .waiting 0) ∧ NoStranded state := by
  refine ⟨_, rfl, rfl, noStranded_of_cancelledAlone _
    (Machine.Guarded.run (.start rfl) sharedSchedule ?_ rfl)⟩
  refine ⟨trivial, ?_⟩
  rintro _ ⟨⟩
  refine ⟨by simp [CancelledAlone, State.empty, Table.empty], ?_⟩
  rintro _ ⟨⟩
  refine ⟨trivial, ?_⟩
  rintro _ ⟨⟩
  refine ⟨?_, ?_⟩
  · intro key future joining listed
    cases joining
    cases listed
    exact .inr ⟨0, rfl⟩
  rintro _ ⟨⟩
  refine ⟨trivial, ?_⟩
  rintro _ ⟨⟩
  refine ⟨?_, fun _ _ => trivial⟩
  intro key future joining
  cases joining

/-- A cancellation inside `coro_fn` strands every caller that waits on the future. -/
theorem cancelled_strands [DecidableEq Key] {state : State Key Result Failure}
    {leader waiter future : Nat} {key : Key}
    (leads : state.callers leader = some (key, .leading future))
    (waits : state.callers waiter = some (key, .waiting future))
    (pending : (state.table.futures key future).isResolved = false) :
    ∃ final, (machine : Machine (State Key Result Failure) _).run state
        [.event leader (.settle .cancelled), .event leader .proceed] = some final ∧
      ¬ NoStranded final := by
  have different : waiter ≠ leader := by
    rintro rfl
    rw [leads] at waits
    simp at waits
  refine ⟨{ table := state.table.release key
            callers := Function.update (Function.update state.callers leader
              (some (key, .releasing future .cancelled))) leader
              (some (key, .led future .cancelled)) }, ?_, ?_⟩
  · simp [machine, step, leads, advance, Table.settle]
  · intro stranded
    have resolved := stranded.terminated leader waiter key future .cancelled
      (Function.update_self ..) (by simpa [Function.update_of_ne different] using waits)
    simp [pending] at resolved

/-- In this schedule the leader is cancelled while a second caller waits. -/
def cancelledSchedule : List (Action String Nat String) :=
  [.call 0 "k1", .event 0 .proceed, .call 1 "k1", .event 1 .proceed,
    .event 0 (.settle .cancelled), .event 0 .proceed]

/-- The second caller waits forever on a future that no leader will resolve. -/
theorem cancelled_leader_strands :
    ¬ ∀ state : State String Nat String, machine.Reachable state → NoStranded state := by
  intro claimed
  have stranded := claimed _ (Machine.Reachable.run (.start rfl) cancelledSchedule rfl)
  have resolved := stranded.terminated 0 1 "k1" 0 .cancelled rfl rfl
  contradiction

end EveApiCache.Coalesce
