import EveApiCache.Library.Concurrent

/-!
This file follows every program of a pool with a mark and the shared state with a ghost. Neither is
state of the pool, and no step depends on them.
-/

namespace Effects
open StepMachine

/-- A tracking says what a program with a mark owes before an operation and which mark a reply may
leave. Both refer to a history, which other programs may extend at any time. -/
structure Tracking (I : Interface) (History Mark : Type) where
  grows : History → History → Prop
  grows_refl : ∀ history, grows history history
  grows_trans : ∀ {first second third}, grows first second → grows second third → grows first third
  requires : History → Mark → I.Op → Prop
  provides : History → Mark → (op : I.Op) → I.Reply op → Mark → Prop

namespace Program

variable {I : Interface} {A B History Mark : Type} {tracking : Tracking I History Mark}

/-- A tracked program owes no more than the tracking says and finishes as promised. -/
def Tracked (tracking : Tracking I History Mark) (finishes : History → Mark → A → Prop) :
    Program I A → History → Mark → Prop
  | done value, now, mark => ∀ later, tracking.grows now later → finishes later mark value
  | fail, _, _ => True
  | perform op next, now, mark => ∀ later, tracking.grows now later →
      tracking.requires later mark op ∧
        ∀ after reply left, tracking.grows later after → tracking.provides after mark op reply left →
          Tracked tracking finishes (next reply) after left

variable {finishes : History → Mark → A → Prop}

theorem tracked_done {value : A} {now : History} {mark : Mark}
    (promised : ∀ later, tracking.grows now later → finishes later mark value) :
    Tracked tracking finishes (done value : Program I A) now mark := promised

theorem tracked_perform {op : I.Op} {next : I.Reply op → Program I A} {now : History} {mark : Mark}
    (owed : ∀ later, tracking.grows now later → tracking.requires later mark op)
    (continues : ∀ after reply left, tracking.grows now after →
      tracking.provides after mark op reply left → Tracked tracking finishes (next reply) after left) :
    Tracked tracking finishes (perform op next) now mark :=
  fun later grown => ⟨owed later grown, fun after reply left further learned =>
    continues after reply left (tracking.grows_trans grown further) learned⟩

/-- A tracked program stays tracked while others extend the history. -/
theorem Tracked.grow {program : Program I A} {now later : History} {mark : Mark}
    (tracked : Tracked tracking finishes program now mark) (grown : tracking.grows now later) :
    Tracked tracking finishes program later mark := by
  cases program with
  | done value => exact fun after further => tracked after (tracking.grows_trans grown further)
  | fail => trivial
  | perform op next => exact fun after further => tracked after (tracking.grows_trans grown further)

/-- A tracked program also finishes with less. -/
theorem Tracked.mono {weaker : History → Mark → A → Prop} {program : Program I A} {now : History}
    {mark : Mark} (tracked : Tracked tracking finishes program now mark)
    (implies : ∀ later left value, finishes later left value → weaker later left value) :
    Tracked tracking weaker program now mark := by
  induction program generalizing now mark with
  | done value => exact fun later grown => implies later mark value (tracked later grown)
  | fail => trivial
  | perform op rest ih =>
      intro later grown
      obtain ⟨owed, continues⟩ := tracked later grown
      exact ⟨owed, fun after reply left further learned => ih reply (continues after reply left further learned)⟩

/-- A sequence is tracked when the second program is tracked after what the first one promises. -/
theorem Tracked.bind {between : History → Mark → A → Prop} {last : History → Mark → B → Prop}
    {program : Program I A} {next : A → Program I B} {now : History} {mark : Mark}
    (first : Tracked tracking between program now mark)
    (second : ∀ later left value, tracking.grows now later → between later left value →
      Tracked tracking last (next value) later left) :
    Tracked tracking last (program >>= next) now mark := by
  induction program generalizing now mark with
  | done value =>
      exact second now mark value (tracking.grows_refl now) (first now (tracking.grows_refl now))
  | fail => trivial
  | perform op rest ih =>
      intro later grown
      obtain ⟨owed, continues⟩ := first later grown
      refine ⟨owed, fun after reply left further learned => ?_⟩
      refine ih reply (continues after reply left further learned) fun final kept value beyond met => ?_
      exact second final kept value
        (tracking.grows_trans grown (tracking.grows_trans further beyond)) met

end Program

/-- A watcher marks each program when it starts and after each of its operations. -/
structure Watcher (I : Interface) (Shared Entry Circumstance Ghost Mark : Type) where
  enters : Entry → Shared → Ghost → Mark
  observes : Shared → Ghost → Mark → Circumstance → (op : I.Op) → Option (I.Reply op) → Ghost × Mark

/-- This is a pool together with what its watcher knows. -/
structure Watched (I : Interface) (A Shared Ghost Mark : Type) where
  pool : Pool I A Shared
  ghost : Ghost
  marks : Nat → Mark

namespace Watcher

variable {I : Interface} {A Shared Entry Circumstance Event Ghost Mark History : Type}
  (watcher : Watcher I Shared Entry Circumstance Ghost Mark)
  (system : System I A Shared Entry Circumstance Event)

def step (state : Watched I A Shared Ghost Mark) :
    PoolAction Entry Circumstance Event → Option (Watched I A Shared Ghost Mark)
  | .start thread entry =>
      (system.step state.pool (.start thread entry)).map fun pool =>
        { state with
          pool := pool
          marks := Function.update state.marks thread
            (watcher.enters entry state.pool.shared state.ghost) }
  | .proceed thread circumstance =>
      match state.pool.threads thread with
      | some (.perform op next) =>
          (system.perform circumstance op state.pool.shared).map fun result =>
            let seen := watcher.observes state.pool.shared state.ghost (state.marks thread) circumstance
              op result.1
            { pool := System.answer state.pool thread next result
              ghost := seen.1
              marks := Function.update state.marks thread seen.2 }
      | _ => none
  | .outside event =>
      some { state with pool :=
        { state.pool with shared := system.outside event state.pool.shared } }

def machine (initial : Shared → Prop) (ghost : Ghost) (mark : Mark) :
    Machine (Watched I A Shared Ghost Mark) (PoolAction Entry Circumstance Event) where
  initial state := (system.machine initial).initial state.pool ∧ state.ghost = ghost ∧
    state.marks = fun _ => mark
  step := watcher.step system

/-- The watcher only watches: it allows the same steps. -/
theorem step_pool (state : Watched I A Shared Ghost Mark)
    (action : PoolAction Entry Circumstance Event) :
    (watcher.step system state action).map Watched.pool = system.step state.pool action := by
  cases action with
  | start thread entry =>
      unfold step
      dsimp only
      rw [Option.map_map]
      exact congrFun Option.map_id _
  | outside event => rfl
  | proceed thread circumstance =>
      unfold step System.step
      dsimp only
      cases found : state.pool.threads thread with
      | none => rfl
      | some program =>
          cases program with
          | done | fail => rfl
          | perform op next =>
              dsimp only
              rw [Option.map_map]
              rfl

/-- Every run of the system can be watched. -/
theorem reachable_watched {initial : Shared → Prop} (ghost : Ghost) (mark : Mark)
    {pool : Pool I A Shared} (reached : (system.machine initial).Reachable pool) :
    ∃ state : Watched I A Shared Ghost Mark, state.pool = pool ∧
      (watcher.machine system initial ghost mark).Reachable state := by
  induction reached with
  | @start pool started =>
      exact ⟨⟨pool, ghost, fun _ => mark⟩, rfl, .start ⟨started, rfl, rfl⟩⟩
  | step _ _ moved ih =>
      obtain ⟨state, rfl, reached⟩ := ih
      have same := (step_pool watcher system state _).trans moved
      obtain ⟨next, stepped, rfl⟩ := Option.map_eq_some_iff.mp same
      exact ⟨next, rfl, .step reached trivial stepped⟩

variable {watcher system}

/-- A guarded watched run is a run of the system. -/
theorem guarded_pool {initial : Shared → Prop} {ghost : Ghost} {mark : Mark}
    {guard : Watched I A Shared Ghost Mark → PoolAction Entry Circumstance Event → Prop}
    {state : Watched I A Shared Ghost Mark}
    (reached : (watcher.machine system initial ghost mark).Guarded guard state) :
    (system.machine initial).Reachable state.pool := by
  induction reached with
  | start started => exact .start started.1
  | @step state next action _ _ moved ih =>
      refine .step ih trivial ((step_pool watcher system state action).symm.trans ?_)
      exact congrArg (Option.map Watched.pool) moved

/-- These are the obligations of a system whose programs are all tracked. -/
structure Tracks (watcher : Watcher I Shared Entry Circumstance Ghost Mark)
    (system : System I A Shared Entry Circumstance Event) (tracking : Tracking I History Mark)
    (history : Shared → Ghost → History) (finishes : History → Mark → A → Prop)
    (holds : Shared → Ghost → Prop)
    (guard : Watched I A Shared Ghost Mark → PoolAction Entry Circumstance Event → Prop) :
    Prop where
  launched : ∀ state thread entry, holds state.pool.shared state.ghost →
    guard state (.start thread entry) →
      (system.launch entry).Tracked tracking finishes (history state.pool.shared state.ghost)
        (watcher.enters entry state.pool.shared state.ghost)
  performed : ∀ state thread circumstance op next result, holds state.pool.shared state.ghost →
    guard state (.proceed thread circumstance) →
      state.pool.threads thread = some (.perform op next) →
        tracking.requires (history state.pool.shared state.ghost) (state.marks thread) op →
          system.perform circumstance op state.pool.shared = some result →
            let seen := watcher.observes state.pool.shared state.ghost (state.marks thread) circumstance
              op result.1
            holds result.2 seen.1 ∧
              tracking.grows (history state.pool.shared state.ghost) (history result.2 seen.1) ∧
              ∀ reply, result.1 = some reply →
                tracking.provides (history result.2 seen.1) (state.marks thread) op reply seen.2
  outside : ∀ state event, holds state.pool.shared state.ghost → guard state (.outside event) →
    holds (system.outside event state.pool.shared) state.ghost ∧
      tracking.grows (history state.pool.shared state.ghost)
        (history (system.outside event state.pool.shared) state.ghost)

variable {tracking : Tracking I History Mark} {history : Shared → Ghost → History}
  {finishes : History → Mark → A → Prop} {holds : Shared → Ghost → Prop}
  {guard : Watched I A Shared Ghost Mark → PoolAction Entry Circumstance Event → Prop}

/-- Every thread is tracked with its mark. -/
def AllTracked (tracking : Tracking I History Mark) (history : Shared → Ghost → History)
    (finishes : History → Mark → A → Prop) (state : Watched I A Shared Ghost Mark) : Prop :=
  ∀ thread program, state.pool.threads thread = some program →
    program.Tracked tracking finishes (history state.pool.shared state.ghost) (state.marks thread)

/-- A guarded step keeps the invariant and tracks every thread. -/
theorem Tracks.step (tracks : watcher.Tracks system tracking history finishes holds guard)
    {state next : Watched I A Shared Ghost Mark} {action : PoolAction Entry Circumstance Event}
    (held : holds state.pool.shared state.ghost)
    (tracked : AllTracked tracking history finishes state) (allowed : guard state action)
    (moved : watcher.step system state action = some next) :
    holds next.pool.shared next.ghost ∧ AllTracked tracking history finishes next := by
  cases action with
  | start started entry =>
      obtain ⟨pool, launched, rfl⟩ := Option.map_eq_some_iff.mp moved
      obtain ⟨vacant, rfl⟩ := system.step_start launched
      refine ⟨held, fun thread program running => ?_⟩
      by_cases same : thread = started
      · subst same
        obtain rfl : system.launch entry = program := by simpa using running
        simpa using tracks.launched state thread entry held allowed
      · simpa [same] using tracked thread program (by simpa [same] using running)
  | outside event =>
      cases moved
      obtain ⟨kept, grown⟩ := tracks.outside state event held allowed
      exact ⟨kept, fun thread program running => (tracked thread program running).grow grown⟩
  | proceed moving circumstance =>
      unfold Watcher.step at moved
      dsimp only at moved
      split at moved
      · rename_i op rest found
        obtain ⟨result, performed, rfl⟩ := Option.map_eq_some_iff.mp moved
        obtain ⟨owed, continues⟩ := tracked moving _ found _ (tracking.grows_refl _)
        obtain ⟨kept, grown, provided⟩ :=
          tracks.performed state moving circumstance op rest result held allowed found owed performed
        refine ⟨kept, fun thread program running => ?_⟩
        by_cases same : thread = moving
        · subst same
          obtain rfl : Program.resume rest result.1 = program := by
            simpa [System.answer] using running
          cases replied : result.1 with
          | none => trivial
          | some reply =>
              have carried := continues _ reply _ grown (provided reply replied)
              rw [replied] at carried
              dsimp only
              rw [Function.update_self]
              exact carried
        · have before : state.pool.threads thread = some program := by
            simpa [System.answer, same] using running
          dsimp only
          rw [Function.update_of_ne same]
          exact (tracked thread program before).grow grown
      · cases moved

/-- In every guarded state the invariant holds and every thread is tracked. -/
theorem Tracks.guarded (tracks : watcher.Tracks system tracking history finishes holds guard)
    {initial : Shared → Prop} {ghost : Ghost} {mark : Mark}
    (initially : ∀ shared, initial shared → holds shared ghost)
    {state : Watched I A Shared Ghost Mark}
    (reached : (watcher.machine system initial ghost mark).Guarded guard state) :
    holds state.pool.shared state.ghost ∧ AllTracked tracking history finishes state := by
  refine reached.invariant (fun state => holds state.pool.shared state.ghost ∧
    AllTracked tracking history finishes state) ?_ ?_
  · rintro state ⟨⟨start, idle⟩, rfl, _⟩
    refine ⟨initially _ start, fun thread program found => ?_⟩
    rw [idle] at found
    cases found
  · rintro state action next ⟨held, tracked⟩ allowed moved
    exact tracks.step held tracked allowed moved

end Watcher

end Effects
