import EveApiCache.Proof.NoStrandedWaiter

/-!
This file shows that a coalesced call runs alone or shares the outcome of one other call.
-/

namespace EveApiCache.Coalesce
open StepMachine

variable {Key Result Failure : Type}

/-- A finished call gives its outcome together with `is_leader`. -/
def Phase.returned : Phase Result Failure → Option (Outcome Result Failure × Bool)
  | .led _ outcome => some (outcome, true)
  | .shared _ outcome => some (outcome, false)
  | _ => none

/-- A call is done when it has returned or was cancelled before it started. -/
def Phase.isOver : Phase Result Failure → Bool
  | .led _ _ | .shared _ _ | .abandoned => true
  | _ => false

/-- The execution of a leader has ended with an outcome. -/
def Ended (state : State Key Result Failure) (leader : Nat) (key : Key) (future : Nat)
    (outcome : Outcome Result Failure) : Prop :=
  state.callers leader = some (key, .releasing future outcome) ∨
    state.callers leader = some (key, .led future outcome)

/-- At most one execution of a key runs, every call returns its own outcome or the one of the
execution that it joined, a cleanup finds its own entry, and no entry outlives the calls. -/
structure ExactSharing (state : State Key Result Failure) : Prop where
  exclusive : ∀ first second key one other, state.callers first = some (key, .leading one) →
    state.callers second = some (key, .leading other) → first = second
  single : ∀ first second key firstPhase secondPhase future,
    state.callers first = some (key, firstPhase) → state.callers second = some (key, secondPhase) →
      firstPhase.owned = some future → secondPhase.owned = some future → first = second
  led : ∀ caller key phase outcome, state.callers caller = some (key, phase) →
    phase.returned = some (outcome, true) → ∃ future, phase = .led future outcome
  shared : ∀ caller key phase outcome, state.callers caller = some (key, phase) →
    phase.returned = some (outcome, false) → ∃ future, phase = .shared future outcome ∧
      (outcome = .cancelled ∨ ∃ leader, Ended state leader key future outcome)
  cleanup : ∀ leader key future outcome, state.callers leader = some (key, .releasing future outcome) →
    state.table.inflight key = some future
  idle : (∀ caller key phase, state.callers caller = some (key, phase) → phase.isOver = true) →
    state.table.inflight = fun _ => none

/-- A call only moves on, and what it leads, awaits or returns stays the same. -/
inductive Phase.Becomes : Phase Result Failure → Phase Result Failure → Prop where
  | stay (phase : Phase Result Failure) : Becomes phase phase
  | start (phase : Phase Result Failure) : Becomes .joining phase
  | finish (future : Nat) (outcome : Outcome Result Failure) :
      Becomes (.leading future) (.releasing future outcome)
  | lead (future : Nat) (outcome : Outcome Result Failure) :
      Becomes (.leading future) (.led future outcome)
  | release (future : Nat) (outcome : Outcome Result Failure) :
      Becomes (.releasing future outcome) (.led future outcome)
  | share (future : Nat) (outcome : Outcome Result Failure) :
      Becomes (.waiting future) (.shared future outcome)

theorem Phase.Becomes.trans {first second third : Phase Result Failure}
    (one : first.Becomes second) (two : second.Becomes third) : first.Becomes third := by
  cases one with
  | stay => exact two
  | start => exact .start third
  | finish future outcome =>
      cases two with
      | stay => exact .finish future outcome
      | release => exact .lead future outcome
  | lead future outcome =>
      cases two with
      | stay => exact .lead future outcome
  | release future outcome =>
      cases two with
      | stay => exact .release future outcome
  | share future outcome =>
      cases two with
      | stay => exact .share future outcome

/-- A call that joins waits on the execution that is registered, or leads a new one alone. -/
def Joins [DecidableEq Key] (before after : State Key Result Failure) (caller : Nat) (key : Key) : Prop :=
  (∀ future, before.table.inflight key = some future →
    after.callers caller = some (key, .waiting future) ∧ LeaderRunning before key future) ∧
  (before.table.inflight key = none →
    after.callers caller = some (key, .leading before.table.created) ∧
      ∀ future, ¬ LeaderRunning before key future)

/-- This is what the leader stores in its future. -/
def Outcome.stored : Outcome Result Failure → Future Result Failure
  | .returned value => .resolved (.ok value)
  | .raised failure => .resolved (.error failure)
  | .cancelled => .pending

/-- A call leads a registered future from the start of its execution to its cleanup. -/
def Phase.running : Phase Result Failure → Option Nat
  | .leading future | .releasing future _ => some future
  | _ => none

/-- This is what a future holds while its owner is in a phase. -/
def Phase.holds : Phase Result Failure → Future Result Failure
  | .releasing _ outcome | .led _ outcome => outcome.stored
  | _ => .pending

/-- The table lists exactly the running leaders, and each future holds what its one owner stored. -/
structure Registered (state : State Key Result Failure) : Prop where
  listed : ∀ key future, state.table.inflight key = some future →
    ∃ leader phase, state.callers leader = some (key, phase) ∧ phase.running = some future
  runs : ∀ leader key phase future, state.callers leader = some (key, phase) →
    phase.running = some future → state.table.inflight key = some future
  known : ∀ caller key phase future, state.callers caller = some (key, phase) →
    phase.owned = some future → future < state.table.created
  single : ∀ first second key firstPhase secondPhase future,
    state.callers first = some (key, firstPhase) → state.callers second = some (key, secondPhase) →
      firstPhase.owned = some future → secondPhase.owned = some future → first = second
  holds : ∀ caller key phase future, state.callers caller = some (key, phase) →
    phase.owned = some future → state.table.futures key future = phase.holds
  awaited : ∀ caller key future, state.callers caller = some (key, .waiting future) →
    ∃ leader phase, state.callers leader = some (key, phase) ∧ phase.owned = some future
  shares : ∀ caller key future outcome, state.callers caller = some (key, .shared future outcome) →
    outcome = .cancelled ∨ ∃ leader, Ended state leader key future outcome

theorem registered_empty : Registered (State.empty : State Key Result Failure) := by
  constructor <;> simp [State.empty, Table.empty]

theorem Phase.running_owned {phase : Phase Result Failure} {future : Nat}
    (running : phase.running = some future) : phase.owned = some future := by
  cases phase with
  | leading | releasing => exact running
  | joining | waiting | led | shared | abandoned => cases running

/-- A phase that runs is the one of a running leader. -/
theorem leaderRunning_of_running {state : State Key Result Failure} {leader : Nat} {key : Key}
    {phase : Phase Result Failure} {future : Nat} (found : state.callers leader = some (key, phase))
    (running : phase.running = some future) : LeaderRunning state key future := by
  cases phase with
  | leading other =>
      cases running
      exact ⟨leader, .inl found⟩
  | releasing other outcome =>
      cases running
      exact ⟨leader, .inr ⟨outcome, found⟩⟩
  | joining | waiting | led | shared | abandoned => cases running

theorem running_of_leaderRunning {state : State Key Result Failure} {key : Key} {future : Nat}
    (running : LeaderRunning state key future) :
    ∃ leader phase, state.callers leader = some (key, phase) ∧ phase.running = some future := by
  obtain ⟨leader, found | ⟨outcome, found⟩⟩ := running
  · exact ⟨leader, _, found, rfl⟩
  · exact ⟨leader, _, found, rfl⟩

/-- In a registered state the calls share exactly. -/
theorem Registered.exactSharing {state : State Key Result Failure} (registered : Registered state) :
    ExactSharing state where
  exclusive first second key one other leads leadsToo := by
    have same := (registered.runs first key _ one leads rfl).symm.trans
      (registered.runs second key _ other leadsToo rfl)
    cases same
    exact registered.single first second key _ _ one leads leadsToo rfl rfl
  single := registered.single
  led caller key phase outcome found returned := by
    cases phase with
    | led future stored =>
        cases returned
        exact ⟨future, rfl⟩
    | joining | leading | releasing | waiting | shared | abandoned => cases returned
  shared caller key phase outcome found returned := by
    cases phase with
    | shared future stored =>
        cases returned
        exact ⟨future, rfl, registered.shares caller key future outcome found⟩
    | joining | leading | releasing | waiting | led | abandoned => cases returned
  cleanup leader key future outcome found := registered.runs leader key _ future found rfl
  idle past := by
    funext key
    cases entry : state.table.inflight key with
    | none => rfl
    | some future =>
        obtain ⟨leader, phase, found, running⟩ := registered.listed key future entry
        have finished := past leader key phase found
        cases phase with
        | leading | releasing => cases finished
        | joining | waiting | led | shared | abandoned => cases running

/-- A new call owns nothing and awaits nothing. -/
theorem Registered.call {state : State Key Result Failure} (registered : Registered state)
    {caller : Nat} (key : Key) (free : state.callers caller = none) :
    Registered { state with
      callers := Function.update state.callers caller (some (key, .joining)) } := by
  have keeps {other : Nat} {entry : Key × Phase Result Failure}
      (found : state.callers other = some entry) :
      Function.update state.callers caller (some (key, .joining)) other = some entry := by
    have different : other ≠ caller := by
      rintro rfl
      rw [free] at found
      cases found
    rw [Function.update_of_ne different, found]
  constructor
  · intro other future entry
    obtain ⟨leader, phase, found, running⟩ := registered.listed other future entry
    exact ⟨leader, phase, keeps found, running⟩
  · intro leader other phase future found running
    rcases caller_update found with ⟨_, _, rfl⟩ | ⟨_, old⟩
    · cases running
    · exact registered.runs leader other phase future old running
  · intro other otherKey phase future found owned
    rcases caller_update found with ⟨_, _, rfl⟩ | ⟨_, old⟩
    · cases owned
    · exact registered.known other otherKey phase future old owned
  · intro first second otherKey firstPhase secondPhase future one two owns ownsToo
    rcases caller_update one with ⟨_, _, rfl⟩ | ⟨_, oldOne⟩
    · cases owns
    · rcases caller_update two with ⟨_, _, rfl⟩ | ⟨_, oldTwo⟩
      · cases ownsToo
      · exact registered.single _ _ _ _ _ _ oldOne oldTwo owns ownsToo
  · intro other otherKey phase future found owned
    rcases caller_update found with ⟨_, _, rfl⟩ | ⟨_, old⟩
    · cases owned
    · exact registered.holds other otherKey phase future old owned
  · intro other otherKey future found
    rcases caller_update found with ⟨_, _, impossible⟩ | ⟨_, old⟩
    · cases impossible
    · obtain ⟨leader, phase, leads, owned⟩ := registered.awaited other otherKey future old
      exact ⟨leader, phase, keeps leads, owned⟩
  · intro other otherKey future outcome found
    rcases caller_update found with ⟨_, _, impossible⟩ | ⟨_, old⟩
    · cases impossible
    · rcases registered.shares other otherKey future outcome old with own | ⟨leader, ended | ended⟩
      · exact .inl own
      · exact .inr ⟨leader, .inl (keeps ended)⟩
      · exact .inr ⟨leader, .inr (keeps ended)⟩

/-- These are the obligations of one move: the entry of its key, the futures that it may touch, and
the new phase of the call. -/
theorem Registered.update {state : State Key Result Failure} (registered : Registered state)
    {caller : Nat} {key : Key} {phase after : Phase Result Failure} {table : Table Key Result Failure}
    (found : state.callers caller = some (key, phase))
    (grows : state.table.created ≤ table.created)
    (others : ∀ other ≠ key, table.inflight other = state.table.inflight other)
    (entry : ∀ future, table.inflight key = some future ↔ after.running = some future ∨
      phase.running = none ∧ state.table.inflight key = some future)
    (owns : ∀ future, after.owned = some future → phase.owned = some future ∨
      state.table.created ≤ future ∧ future < table.created)
    (keepsOwned : ∀ future, phase.owned = some future → after.owned = some future)
    (own : ∀ future, after.owned = some future → table.futures key future = after.holds)
    (futures : ∀ other, ∀ future < state.table.created, other ≠ key ∨ phase.owned ≠ some future →
      table.futures other future = state.table.futures other future)
    (waits : ∀ future, after = .waiting future → ∃ leader phase,
      state.callers leader = some (key, phase) ∧ phase.owned = some future)
    (ended : ∀ future outcome, phase = .releasing future outcome ∨ phase = .led future outcome →
      after = .led future outcome)
    (shares : ∀ future outcome, after = .shared future outcome → outcome = .cancelled ∨
      ∃ leader, Ended state leader key future outcome) :
    Registered { table := table
                 callers := Function.update state.callers caller (some (key, after)) } := by
  have ownerKept {leader : Nat} {other : Key} {old : Phase Result Failure} {future : Nat}
      (leads : state.callers leader = some (other, old)) (owned : old.owned = some future) :
      ∃ leader new, Function.update state.callers caller (some (key, after)) leader =
        some (other, new) ∧ new.owned = some future := by
    by_cases same : leader = caller
    · subst same
      obtain ⟨rfl, rfl⟩ := Prod.mk.inj (Option.some.inj (found.symm.trans leads))
      exact ⟨leader, after, Function.update_self .., keepsOwned future owned⟩
    · exact ⟨leader, old, (Function.update_of_ne same ..).trans leads, owned⟩
  have endedKept {leader : Nat} {other : Key} {future : Nat} {outcome : Outcome Result Failure}
      (past : Ended state leader other future outcome) :
      ∃ leader, Ended { table := table
                        callers := Function.update state.callers caller (some (key, after)) }
        leader other future outcome := by
    refine ⟨leader, ?_⟩
    unfold Ended at past ⊢
    dsimp only
    by_cases same : leader = caller
    · subst same
      rw [Function.update_self]
      rcases past with leads | leads
      · obtain ⟨rfl, rfl⟩ := Prod.mk.inj (Option.some.inj (found.symm.trans leads))
        exact .inr (by rw [ended _ _ (.inl rfl)])
      · obtain ⟨rfl, rfl⟩ := Prod.mk.inj (Option.some.inj (found.symm.trans leads))
        exact .inr (by rw [ended _ _ (.inr rfl)])
    · rw [Function.update_of_ne same]
      exact past
  constructor
  · intro other future listed
    by_cases same : other = key
    · subst same
      rcases (entry future).mp listed with running | ⟨idle, before⟩
      · exact ⟨caller, after, Function.update_self .., running⟩
      · obtain ⟨leader, old, leads, running⟩ := registered.listed other future before
        have different : leader ≠ caller := by
          rintro rfl
          rw [← (Prod.mk.inj (Option.some.inj (found.symm.trans leads))).2, idle] at running
          cases running
        exact ⟨leader, old, (Function.update_of_ne different ..).trans leads, running⟩
    · have before := (others other same).symm.trans listed
      obtain ⟨leader, old, leads, running⟩ := registered.listed other future before
      have different : leader ≠ caller := by
        rintro rfl
        exact same (Prod.mk.inj (Option.some.inj (leads.symm.trans found))).1
      exact ⟨leader, old, (Function.update_of_ne different ..).trans leads, running⟩
  · intro leader other new future leads running
    rcases caller_update leads with ⟨_, rfl, rfl⟩ | ⟨different, old⟩
    · exact (entry future).mpr (.inl running)
    · have before := registered.runs leader other new future old running
      by_cases same : other = key
      · subst same
        refine (entry future).mpr (.inr ⟨?_, before⟩)
        cases mine : phase.running with
        | none => rfl
        | some target =>
            have listed := registered.runs caller other phase target found mine
            obtain rfl := Option.some.inj (before.symm.trans listed)
            exact absurd (registered.single _ _ _ _ _ _ old found (Phase.running_owned running)
              (Phase.running_owned mine)) different
      · exact (others other same).trans before
  · intro other otherKey new future seen owned
    rcases caller_update seen with ⟨_, rfl, rfl⟩ | ⟨_, old⟩
    · rcases owns future owned with before | fresh
      · exact Nat.lt_of_lt_of_le (registered.known caller _ phase future found before) grows
      · exact fresh.2
    · exact Nat.lt_of_lt_of_le (registered.known other otherKey new future old owned) grows
  · intro first second otherKey firstPhase secondPhase future one two ownsOne ownsTwo
    rcases caller_update one with ⟨same, sameKey, rfl⟩ | ⟨_, oldOne⟩ <;>
      rcases caller_update two with ⟨sameToo, sameKeyToo, rfl⟩ | ⟨_, oldTwo⟩
    · exact same.trans sameToo.symm
    · subst sameKey
      rcases owns future ownsOne with before | fresh
      · exact same.trans (registered.single _ _ _ _ _ _ found oldTwo before ownsTwo)
      · have old := registered.known _ _ _ _ oldTwo ownsTwo
        omega
    · subst sameKeyToo
      rcases owns future ownsTwo with before | fresh
      · exact (registered.single _ _ _ _ _ _ oldOne found ownsOne before).trans sameToo.symm
      · have old := registered.known _ _ _ _ oldOne ownsOne
        omega
    · exact registered.single _ _ _ _ _ _ oldOne oldTwo ownsOne ownsTwo
  · intro other otherKey new future seen owned
    rcases caller_update seen with ⟨_, rfl, rfl⟩ | ⟨different, old⟩
    · exact own future owned
    · rw [← registered.holds other otherKey new future old owned]
      refine futures otherKey future (registered.known _ _ _ _ old owned) ?_
      by_cases same : otherKey = key
      · subst same
        exact .inr fun mine => different (registered.single _ _ _ _ _ _ old found owned mine)
      · exact .inl same
  · intro other otherKey future seen
    rcases caller_update seen with ⟨_, rfl, same⟩ | ⟨_, old⟩
    · obtain ⟨leader, phase, leads, owned⟩ := waits future same.symm
      exact ownerKept leads owned
    · obtain ⟨leader, phase, leads, owned⟩ := registered.awaited other otherKey future old
      exact ownerKept leads owned
  · intro other otherKey future outcome seen
    rcases caller_update seen with ⟨_, rfl, same⟩ | ⟨_, old⟩
    · exact (shares future outcome same.symm).imp_right fun ⟨_, past⟩ => endedKept past
    · exact (registered.shares other otherKey future outcome old).imp_right
        fun ⟨_, past⟩ => endedKept past

/-- The owner of a resolved future has ended with what a waiter sees. -/
theorem Registered.ended {state : State Key Result Failure} (registered : Registered state)
    {waiter : Nat} {key : Key} {future : Nat} {outcome : Except Failure Result}
    (waits : state.callers waiter = some (key, .waiting future))
    (resolved : state.table.futures key future = .resolved outcome) :
    ∃ leader, Ended state leader key future (.ofResolved outcome) := by
  obtain ⟨leader, phase, leads, owned⟩ := registered.awaited waiter key future waits
  have stored := (registered.holds leader key phase future leads owned).symm.trans resolved
  have same {result : Outcome Result Failure} (holds : result.stored = .resolved outcome) :
      result = .ofResolved outcome := by
    cases result with
    | returned value | raised failure =>
        cases holds
        rfl
    | cancelled => cases holds
  refine ⟨leader, ?_⟩
  cases phase with
  | releasing other result =>
      cases owned
      exact .inl (same stored ▸ leads)
  | led other result =>
      cases owned
      exact .inr (same stored ▸ leads)
  | leading => cases stored
  | joining | waiting | shared | abandoned => cases owned

/-- A call that owns no future before and after its move leaves the table as it is. -/
theorem Registered.pass {state : State Key Result Failure} (registered : Registered state)
    {caller : Nat} {key : Key} {phase after : Phase Result Failure}
    (found : state.callers caller = some (key, phase)) (free : phase.owned = none)
    (freed : after.owned = none)
    (waits : ∀ future, after = .waiting future → ∃ leader phase,
      state.callers leader = some (key, phase) ∧ phase.owned = some future)
    (shares : ∀ future outcome, after = .shared future outcome → outcome = .cancelled ∨
      ∃ leader, Ended state leader key future outcome) :
    Registered { table := state.table
                 callers := Function.update state.callers caller (some (key, after)) } := by
  have idle {quiet : Phase Result Failure} (unowned : quiet.owned = none) : quiet.running = none := by
    cases running : quiet.running with
    | none => rfl
    | some future =>
        rw [Phase.running_owned running] at unowned
        cases unowned
  apply registered.update found (Nat.le_refl _) (fun _ _ => rfl)
  · intro future
    simp [idle free, idle freed]
  · intro future owned
    rw [freed] at owned
    cases owned
  · intro future owned
    rw [free] at owned
    cases owned
  · intro future owned
    rw [freed] at owned
    cases owned
  · exact fun _ _ _ _ => rfl
  · exact waits
  · intro future outcome same
    rcases same with rfl | rfl <;> cases free
  · exact shares

/-- Every move of a call keeps the state registered. -/
theorem Registered.move [DecidableEq Key] {state : State Key Result Failure}
    (registered : Registered state) {caller : Nat} {key : Key} {event : Event Result Failure}
    {phase after : Phase Result Failure} {table : Table Key Result Failure}
    (found : state.callers caller = some (key, phase))
    (moved : Move state.table key phase event table after) :
    Registered { table := table
                 callers := Function.update state.callers caller (some (key, after)) } := by
  cases moved with
  | @attach future listed =>
      apply registered.pass found rfl rfl
      · intro target same
        cases same
        obtain ⟨leader, phase, leads, running⟩ := registered.listed key future listed
        exact ⟨leader, phase, leads, Phase.running_owned running⟩
      · intro target result same
        cases same
  | register free =>
      apply registered.update found (Nat.le_succ _)
      · intro other different
        rw [Table.register_inflight, if_neg different]
      · intro target
        simp [Phase.running, free]
      · intro target owned
        cases owned
        exact .inr ⟨Nat.le_refl _, Nat.lt_succ_self _⟩
      · intro target owned
        cases owned
      · intro target owned
        cases owned
        simp [Phase.holds]
      · intro other target old _
        rw [Table.register_futures, if_neg fun same => absurd same.2 (Nat.ne_of_lt old)]
      · intro target same
        cases same
      · intro target result same
        rcases same with same | same <;> cases same
      · intro target result same
        cases same
  | abandon =>
      apply registered.pass found rfl rfl
      · intro target same
        cases same
      · intro target result same
        cases same
  | settle future outcome =>
      have listed := registered.runs caller key _ future found rfl
      have pending := registered.holds caller key _ future found rfl
      apply registered.update found (by simp)
      · intro other _
        rw [Table.settle_inflight]
      · intro target
        simp [Phase.running, listed]
      · exact fun _ => .inl
      · exact fun _ => id
      · intro target owned
        cases owned
        cases outcome with
        | returned value | raised failure => simp [Table.settle, Phase.holds, Outcome.stored]
        | cancelled => exact pending
      · intro other target _ apart
        have different : ¬ (other = key ∧ target = future) := by
          rintro ⟨rfl, rfl⟩
          exact apart.elim (fun unlike => unlike rfl) fun unlike => unlike rfl
        cases outcome with
        | returned value | raised failure =>
            rw [Table.settle, Table.resolve_futures, if_neg different]
        | cancelled => rfl
      · intro target same
        cases same
      · intro target result same
        rcases same with same | same <;> cases same
      · intro target result same
        cases same
  | release future outcome =>
      apply registered.update found (Nat.le_of_eq (state.table.release_created key).symm)
      · intro other different
        rw [Table.release_inflight, if_neg different]
      · intro target
        simp [Phase.running]
      · exact fun _ => .inl
      · exact fun _ => id
      · exact fun target owned =>
          registered.holds caller key (.releasing future outcome) target found owned
      · exact fun _ _ _ _ => rfl
      · intro target same
        cases same
      · intro target result same
        rcases same with same | same
        · cases same
          rfl
        · cases same
      · intro target result same
        cases same
  | @wake future outcome resolved =>
      apply registered.pass found rfl rfl
      · intro target same
        cases same
      · intro target result same
        cases same
        exact .inr (registered.ended found resolved)
  | leave future =>
      apply registered.pass found rfl rfl
      · intro target same
        cases same
      · intro target result same
        cases same
        exact .inl rfl

/-- A call that moves becomes what its new phase says. -/
theorem Move.becomes [DecidableEq Key] {table next : Table Key Result Failure} {key : Key}
    {phase after : Phase Result Failure} {event : Event Result Failure}
    (moved : Move table key phase event next after) : phase.Becomes after := by
  cases moved with
  | attach | register | abandon => exact .start _
  | settle future outcome => exact .finish future outcome
  | release future outcome => exact .release future outcome
  | wake => exact .share _ _
  | leave future => exact .share future _

theorem step_registered [DecidableEq Key] {state next : State Key Result Failure}
    {action : Action Key Result Failure} (registered : Registered state)
    (moved : step state action = some next) : Registered next := by
  rcases step_cases moved with ⟨caller, key, rfl, free, rfl⟩ |
    ⟨caller, event, key, phase, table, after, rfl, found, move, rfl⟩
  · exact registered.call key free
  · exact registered.move found move

theorem reachable_registered [DecidableEq Key] {state : State Key Result Failure}
    (reached : (machine : Machine (State Key Result Failure) _).Reachable state) :
    Registered state := by
  refine reached.invariant Registered ?_ fun state action next registered _ moved =>
    step_registered registered moved
  rintro _ rfl
  exact registered_empty

/-- A call stays in the system and only moves on. -/
def Evolves (before after : State Key Result Failure) : Prop :=
  ∀ caller key phase, before.callers caller = some (key, phase) →
    ∃ later, after.callers caller = some (key, later) ∧ phase.Becomes later

theorem step_evolves [DecidableEq Key] {state next : State Key Result Failure}
    {action : Action Key Result Failure} (moved : step state action = some next) :
    Evolves state next := by
  intro other otherKey old found
  rcases step_cases moved with ⟨caller, key, rfl, free, rfl⟩ |
    ⟨caller, event, key, phase, table, after, rfl, calls, move, rfl⟩
  · have different : other ≠ caller := by
      rintro rfl
      rw [free] at found
      cases found
    exact ⟨old, (Function.update_of_ne different ..).trans found, .stay old⟩
  · by_cases same : other = caller
    · subst same
      obtain ⟨rfl, rfl⟩ := Prod.mk.inj (Option.some.inj (calls.symm.trans found))
      exact ⟨after, Function.update_self .., move.becomes⟩
    · exact ⟨old, (Function.update_of_ne same ..).trans found, .stay old⟩

theorem Evolves.trans {first second third : State Key Result Failure} (one : Evolves first second)
    (two : Evolves second third) : Evolves first third := by
  intro caller key phase found
  obtain ⟨middle, between, becomes⟩ := one caller key phase found
  obtain ⟨last, after, further⟩ := two caller key middle between
  exact ⟨last, after, becomes.trans further⟩

theorem run_evolves [DecidableEq Key] {state final : State Key Result Failure}
    (actions : List (Action Key Result Failure)) (ran : machine.run state actions = some final) :
    Evolves state final := by
  induction actions generalizing state with
  | nil =>
      cases ran
      exact fun caller key phase found => ⟨phase, found, .stay phase⟩
  | cons action rest ih =>
      obtain ⟨next, moved, ran⟩ := Option.bind_eq_some_iff.mp ran
      exact (step_evolves moved).trans (ih ran)

/-- A joining call waits on the registered execution or starts its own. -/
theorem Registered.joins [DecidableEq Key] {state next : State Key Result Failure}
    (registered : Registered state) {caller : Nat} {key : Key}
    (joining : state.callers caller = some (key, .joining))
    (moved : step state (.event caller .proceed) = some next) : Joins state next caller key := by
  unfold step at moved
  dsimp only at moved
  rw [joining] at moved
  obtain ⟨result, advanced, rfl⟩ := Option.map_eq_some_iff.mp moved
  obtain rfl := Option.some.inj advanced
  unfold Joins Table.join
  refine ⟨fun future listed => ?_, fun free => ?_⟩
  · rw [listed]
    obtain ⟨leader, phase, leads, running⟩ := registered.listed key future listed
    exact ⟨Function.update_self .., leaderRunning_of_running leads running⟩
  · rw [free]
    refine ⟨Function.update_self .., fun future running => ?_⟩
    obtain ⟨leader, phase, leads, runs⟩ := running_of_leaderRunning running
    rw [registered.runs leader key phase future leads runs] at free
    cases free

/-- In every run the coalescer shares exactly: the reachable states share, calls only move on, a call
joins the registered execution or leads its own, and an execution ends with its own outcome. -/
theorem coalesce_exactSharing [DecidableEq Key] {before after : State Key Result Failure}
    (reached : (machine : Machine (State Key Result Failure) _).Reachable before)
    (leads : machine.Leads before after) :
    ExactSharing before ∧ Evolves before after ∧
      (∀ caller key next, before.callers caller = some (key, .joining) →
        machine.step before (.event caller .proceed) = some next → Joins before next caller key) ∧
      ∀ leader key future outcome next, before.callers leader = some (key, .leading future) →
        machine.step before (.event leader (.settle outcome)) = some next →
          Ended next leader key future outcome := by
  have registered := reachable_registered reached
  refine ⟨registered.exactSharing, ?_, fun caller key next => registered.joins, ?_⟩
  · refine (Machine.Leads.keeps (fun _ => True) Evolves (fun state caller key phase found =>
      ⟨phase, found, .stay phase⟩) (fun _ _ _ => Evolves.trans) ?_ trivial leads).2
    exact fun state action next _ moved => ⟨trivial, step_evolves moved⟩
  · intro leader key future outcome next leading moved
    unfold machine step at moved
    dsimp only at moved
    rw [leading] at moved
    obtain ⟨result, advanced, rfl⟩ := Option.map_eq_some_iff.mp moved
    obtain rfl := Option.some.inj advanced
    exact .inl (Function.update_self ..)

/-- In this schedule a second caller joins between the resolution and the removal. -/
def lateSchedule : List (Action String Nat String) :=
  [.call 0 "k1", .event 0 .proceed, .event 0 (.settle (.returned 7)), .call 1 "k1",
    .event 1 .proceed, .event 0 .proceed, .event 1 .proceed]

/-- The late caller shares the result of the first and the table is empty. -/
theorem coalesce_exactSharing_late :
    ∃ state, machine.run State.empty lateSchedule = some state ∧
      state.callers 0 = some ("k1", .led 0 (.returned 7)) ∧
      state.callers 1 = some ("k1", .shared 0 (.returned 7)) ∧ ExactSharing state :=
  ⟨_, rfl, rfl, rfl, (coalesce_exactSharing (Machine.Reachable.run (.start rfl) lateSchedule rfl)
    Relation.ReflTransGen.refl).1⟩

end EveApiCache.Coalesce
