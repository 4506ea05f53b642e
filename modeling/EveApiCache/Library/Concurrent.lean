import EveApiCache.Library.Program
import EveApiCache.Library.StepMachine
import Mathlib.Logic.Function.Basic

namespace Effects
open StepMachine

/-- A contract says what a program owes before an operation and what it learns from a reply. Both
refer to a history, which other programs may extend at any time. -/
structure Contract (I : Interface) (History : Type) where
  mayFail : Prop
  grows : History → History → Prop
  grows_refl : ∀ history, grows history history
  grows_trans : ∀ {first second third}, grows first second → grows second third → grows first third
  requires : History → I.Op → Prop
  provides : History → (op : I.Op) → I.Reply op → Prop

namespace Program

variable {I : Interface} {A B History : Type} {contract : Contract I History}

/-- A safe program keeps the contract in every later history and finishes as promised. -/
def Safe (contract : Contract I History) (finishes : History → A → Prop) :
    Program I A → History → Prop
  | done value, now => ∀ later, contract.grows now later → finishes later value
  | fail, _ => contract.mayFail
  | perform op next, now => ∀ later, contract.grows now later → contract.requires later op ∧
      ∀ after reply, contract.grows later after → contract.provides after op reply →
        Safe contract finishes (next reply) after

variable {finishes : History → A → Prop}

theorem safe_done {value : A} {now : History}
    (promised : ∀ later, contract.grows now later → finishes later value) :
    Safe contract finishes (done value : Program I A) now := promised

theorem safe_perform {op : I.Op} {next : I.Reply op → Program I A} {now : History}
    (owed : ∀ later, contract.grows now later → contract.requires later op)
    (continues : ∀ after reply, contract.grows now after → contract.provides after op reply →
      Safe contract finishes (next reply) after) :
    Safe contract finishes (perform op next) now :=
  fun later grown => ⟨owed later grown, fun after reply further learned =>
    continues after reply (contract.grows_trans grown further) learned⟩

/-- A safe program stays safe while others extend the history. -/
theorem Safe.grow {program : Program I A} {now later : History}
    (safe : Safe contract finishes program now) (grown : contract.grows now later) :
    Safe contract finishes program later := by
  cases program with
  | done value => exact fun after further => safe after (contract.grows_trans grown further)
  | fail => exact safe
  | perform op next => exact fun after further => safe after (contract.grows_trans grown further)

/-- A sequence is safe when the second program is safe after what the first one promises. -/
theorem Safe.bind {between : History → A → Prop} {last : History → B → Prop}
    {program : Program I A} {next : A → Program I B} {now : History}
    (first : Safe contract between program now)
    (second : ∀ later value, contract.grows now later → between later value →
      Safe contract last (next value) later) :
    Safe contract last (program >>= next) now := by
  induction program generalizing now with
  | done value =>
      exact second now value (contract.grows_refl now) (first now (contract.grows_refl now))
  | fail => exact first
  | perform op rest ih =>
      intro later grown
      obtain ⟨owed, continues⟩ := first later grown
      refine ⟨owed, fun after reply further learned => ?_⟩
      refine ih reply (continues after reply further learned) fun final value last promised => ?_
      exact second final value
        (contract.grows_trans grown (contract.grows_trans further last)) promised

/-- A reply resumes a program, and a missing reply stops it. -/
def resume {Reply : Type} (next : Reply → Program I A) : Option Reply → Program I A
  | some reply => next reply
  | none => fail

end Program

/-- A system says which program each entry starts, what an operation does under a circumstance and
what happens outside of the programs. A disabled operation gives nothing. -/
structure System (I : Interface) (A Shared Entry Circumstance Event : Type) where
  launch : Entry → Program I A
  perform : Circumstance → (op : I.Op) → Shared → Option (Option (I.Reply op) × Shared)
  outside : Event → Shared → Shared

/-- A pool runs any number of programs over one shared state. -/
structure Pool (I : Interface) (A Shared : Type) where
  shared : Shared
  threads : Nat → Option (Program I A)

/-- A step starts a program, performs the next operation of one, or comes from outside. -/
inductive PoolAction (Entry Circumstance Event : Type) where
  | start (thread : Nat) (entry : Entry)
  | proceed (thread : Nat) (circumstance : Circumstance)
  | outside (event : Event)

namespace System

variable {I : Interface} {A Shared Entry Circumstance Event History : Type}
  (system : System I A Shared Entry Circumstance Event)

/-- This function continues one thread after the reply to its operation. -/
def answer (pool : Pool I A Shared) (thread : Nat) {op : I.Op} (next : I.Reply op → Program I A)
    (result : Option (I.Reply op) × Shared) : Pool I A Shared where
  shared := result.2
  threads := Function.update pool.threads thread (some (Program.resume next result.1))

def step (pool : Pool I A Shared) :
    PoolAction Entry Circumstance Event → Option (Pool I A Shared)
  | .start thread entry =>
      match pool.threads thread with
      | some _ => none
      | none => some { pool with
          threads := Function.update pool.threads thread (some (system.launch entry)) }
  | .proceed thread circumstance =>
      match pool.threads thread with
      | some (.perform op next) =>
          (system.perform circumstance op pool.shared).map (answer pool thread next)
      | _ => none
  | .outside event => some { pool with shared := system.outside event pool.shared }

def machine (initial : Shared → Prop) :
    Machine (Pool I A Shared) (PoolAction Entry Circumstance Event) where
  initial pool := initial pool.shared ∧ pool.threads = fun _ => none
  step := system.step

/-- A step that performs an operation finds a thread before that operation. -/
theorem step_proceed {pool after : Pool I A Shared} {thread : Nat} {circumstance : Circumstance}
    (moved : system.step pool (.proceed thread circumstance) = some after) :
    ∃ op next result, pool.threads thread = some (.perform op next) ∧
      system.perform circumstance op pool.shared = some result ∧
      after = answer pool thread next result := by
  unfold step at moved
  dsimp only at moved
  split at moved
  · rename_i op next found
    obtain ⟨result, performed, rfl⟩ := Option.map_eq_some_iff.mp moved
    exact ⟨op, next, result, found, performed, rfl⟩
  · cases moved

/-- A thread before an operation continues with its reply. -/
theorem step_perform {pool : Pool I A Shared} {thread : Nat} {circumstance : Circumstance} {op : I.Op}
    {next : I.Reply op → Program I A} {result : Option (I.Reply op) × Shared}
    (standing : pool.threads thread = some (.perform op next))
    (performed : system.perform circumstance op pool.shared = some result) :
    system.step pool (.proceed thread circumstance) = some (answer pool thread next result) := by
  unfold step
  dsimp only
  rw [standing]
  dsimp only
  rw [performed]
  rfl

@[simp] theorem answer_threads (pool : Pool I A Shared) (thread : Nat) {op : I.Op}
    (next : I.Reply op → Program I A) (result : Option (I.Reply op) × Shared) :
    (answer pool thread next result).threads thread = some (Program.resume next result.1) :=
  Function.update_self ..

theorem step_start {pool after : Pool I A Shared} {thread : Nat} {entry : Entry}
    (moved : system.step pool (.start thread entry) = some after) :
    pool.threads thread = none ∧ after = { pool with
      threads := Function.update pool.threads thread (some (system.launch entry)) } := by
  unfold step at moved
  dsimp only at moved
  split at moved
  · cases moved
  · rename_i vacant
    cases moved
    exact ⟨vacant, rfl⟩

/-- The shared state keeps a contract when entries start safe programs and operations that are owed
give what they provide, or nothing where a program may fail. -/
structure Keeps (contract : Contract I History) (history : Shared → History)
    (finishes : History → A → Prop) (holds : Shared → Prop)
    (guard : Pool I A Shared → PoolAction Entry Circumstance Event → Prop) : Prop where
  launched : ∀ pool thread entry, holds pool.shared → guard pool (.start thread entry) →
    (system.launch entry).Safe contract finishes (history pool.shared)
  performed : ∀ pool thread circumstance op next result, holds pool.shared →
    guard pool (.proceed thread circumstance) → pool.threads thread = some (.perform op next) →
    contract.requires (history pool.shared) op →
    system.perform circumstance op pool.shared = some result →
    holds result.2 ∧ contract.grows (history pool.shared) (history result.2) ∧
      (∀ reply, result.1 = some reply → contract.provides (history result.2) op reply) ∧
      (result.1 = none → contract.mayFail)
  outside : ∀ pool event, holds pool.shared → guard pool (.outside event) →
    holds (system.outside event pool.shared) ∧
      contract.grows (history pool.shared) (history (system.outside event pool.shared))

/-- Every thread of the pool is safe now. -/
def AllSafe (contract : Contract I History) (history : Shared → History)
    (finishes : History → A → Prop) (pool : Pool I A Shared) : Prop :=
  ∀ thread program, pool.threads thread = some program →
    program.Safe contract finishes (history pool.shared)

variable {system} {contract : Contract I History} {history : Shared → History}
  {finishes : History → A → Prop} {holds : Shared → Prop}
  {guard : Pool I A Shared → PoolAction Entry Circumstance Event → Prop}

theorem Keeps.step (keeps : system.Keeps contract history finishes holds guard)
    {pool after : Pool I A Shared} {action : PoolAction Entry Circumstance Event}
    (held : holds pool.shared) (safe : AllSafe contract history finishes pool)
    (allowed : guard pool action) (moved : system.step pool action = some after) :
    holds after.shared ∧ AllSafe contract history finishes after := by
  cases action with
  | start thread entry =>
      obtain ⟨_, rfl⟩ := system.step_start moved
      refine ⟨held, fun other program found => ?_⟩
      by_cases same : other = thread
      · subst same
        obtain rfl : system.launch entry = program := by simpa using found
        exact keeps.launched pool _ entry held allowed
      · exact safe other program (by simpa [same] using found)
  | proceed thread circumstance =>
      obtain ⟨op, next, result, found, performed, rfl⟩ := system.step_proceed moved
      have before := safe thread _ found _ (contract.grows_refl _)
      obtain ⟨kept, grown, learned, lost⟩ :=
        keeps.performed pool thread circumstance op next result held allowed found before.1 performed
      refine ⟨kept, fun other program running => ?_⟩
      by_cases same : other = thread
      · subst same
        obtain rfl : Program.resume next result.1 = program := by simpa [answer] using running
        cases replied : result.1 with
        | none => exact lost replied
        | some reply => exact before.2 _ reply grown (learned reply replied)
      · exact (safe other program (by simpa [answer, same] using running)).grow grown
  | outside event =>
      cases moved
      obtain ⟨kept, grown⟩ := keeps.outside pool event held allowed
      exact ⟨kept, fun other program running => (safe other program running).grow grown⟩

/-- In every guarded state the shared invariant holds and every thread is safe. -/
theorem Keeps.guarded (keeps : system.Keeps contract history finishes holds guard)
    {initial : Shared → Prop} (initially : ∀ shared, initial shared → holds shared)
    {pool : Pool I A Shared} (reached : (system.machine initial).Guarded guard pool) :
    holds pool.shared ∧ AllSafe contract history finishes pool := by
  refine reached.invariant (fun pool => holds pool.shared ∧ AllSafe contract history finishes pool)
    ?_ ?_
  · rintro pool ⟨start, idle⟩
    refine ⟨initially _ start, fun thread program found => ?_⟩
    rw [idle] at found
    cases found
  · rintro pool action next ⟨held, safe⟩ allowed moved
    exact keeps.step held safe allowed moved

/-- A thread that performs an operation has one less to perform. -/
theorem proceed_within {pool next : Pool I A Shared} {thread more : Nat} {circumstance : Circumstance}
    {program : Program I A} (running : pool.threads thread = some program)
    (bounded : program.Within (more + 1))
    (moved : system.step pool (.proceed thread circumstance) = some next) :
    ∃ rest, next.threads thread = some rest ∧ rest.Within more := by
  obtain ⟨op, continues, result, found, _, rfl⟩ := system.step_proceed moved
  obtain rfl := Option.some.inj (running.symm.trans found)
  refine ⟨_, answer_threads .., ?_⟩
  cases result.1 with
  | none => exact Program.within_fail more
  | some reply => exact bounded reply

/-- A bound for every program that starts bounds every thread of a guarded state. -/
theorem guarded_within {limit : Nat} {initial : Shared → Prop}
    (launched : ∀ entry, (system.launch entry).Within limit)
    {guard : Pool I A Shared → PoolAction Entry Circumstance Event → Prop}
    {pool : Pool I A Shared} (reached : (system.machine initial).Guarded guard pool) :
    ∀ thread program, pool.threads thread = some program → program.Within limit := by
  refine reached.invariant
    (fun pool => ∀ thread program, pool.threads thread = some program → program.Within limit) ?_ ?_
  · rintro pool ⟨_, idle⟩ thread program found
    rw [idle] at found
    cases found
  · intro pool action after bounded _ moved thread program running
    cases action with
    | start started entry =>
        obtain ⟨_, rfl⟩ := system.step_start moved
        by_cases same : thread = started
        · subst same
          obtain rfl : system.launch entry = program := by simpa using running
          exact launched entry
        · exact bounded thread program (by simpa [same] using running)
    | proceed mover circumstance =>
        obtain ⟨op, next, result, found, _, rfl⟩ := system.step_proceed moved
        by_cases same : thread = mover
        · subst same
          obtain rfl : Program.resume next result.1 = program := by simpa [answer] using running
          cases result.1 with
          | none => exact Program.within_fail limit
          | some reply =>
              obtain ⟨more, rfl, continues⟩ := (bounded thread _ found).reply reply
              exact continues.mono (Nat.le_succ more)
        · exact bounded thread program (by simpa [answer, same] using running)
    | outside event =>
        cases moved
        exact bounded thread program running

/-- This function tells whether a step performs an operation of one thread. -/
def performs (thread : Nat) : PoolAction Entry Circumstance Event → Bool
  | .proceed other _ => other == thread
  | _ => false

/-- A running program performs no more operations than it is bounded by. -/
theorem performs_le {initial : Shared → Prop} {thread limit : Nat} {program : Program I A}
    (bounded : program.Within limit) {schedule : List (PoolAction Entry Circumstance Event)}
    {pool final : Pool I A Shared} (running : pool.threads thread = some program)
    (completed : (system.machine initial).run pool schedule = some final) :
    schedule.countP (performs thread) ≤ limit := by
  induction schedule generalizing pool program limit with
  | nil => exact Nat.zero_le _
  | cons action rest ih =>
      obtain ⟨next, moved, later⟩ := Option.bind_eq_some_iff.mp completed
      cases action with
      | start other entry =>
          obtain ⟨vacant, rfl⟩ := system.step_start moved
          have different : thread ≠ other := by
            rintro rfl
            rw [running] at vacant
            cases vacant
          rw [List.countP_cons_of_neg (by simp [performs])]
          exact ih bounded ((Function.update_of_ne different ..).trans running) later
      | proceed other circumstance =>
          obtain ⟨op, next, result, found, _, rfl⟩ := system.step_proceed moved
          by_cases same : other = thread
          · subst same
            obtain rfl := Option.some.inj (running.symm.trans found)
            rw [List.countP_cons_of_pos (by simp [performs])]
            cases limit with
            | zero => exact bounded.elim
            | succ more =>
                refine Nat.succ_le_succ (ih ?_ (answer_threads ..) later)
                cases result.1 with
                | none => exact Program.within_fail more
                | some reply => exact bounded reply
          · rw [List.countP_cons_of_neg (by simp [performs, same])]
            exact ih bounded ((Function.update_of_ne (Ne.symm same) ..).trans running) later
      | outside event =>
          cases moved
          rw [List.countP_cons_of_neg (by simp [performs])]
          exact ih bounded (by exact running) later

/-- A thread never becomes vacant again. -/
theorem stays {thread : Nat} {program : Program I A} {pool next : Pool I A Shared}
    {action : PoolAction Entry Circumstance Event} (moved : system.step pool action = some next)
    (running : pool.threads thread = some program) : ∃ other, next.threads thread = some other := by
  cases action with
  | start other entry =>
      obtain ⟨_, rfl⟩ := system.step_start moved
      by_cases same : thread = other
      · subst same
        exact ⟨_, Function.update_self ..⟩
      · exact ⟨program, (Function.update_of_ne same ..).trans running⟩
  | proceed other circumstance =>
      obtain ⟨op, next, result, _, _, rfl⟩ := system.step_proceed moved
      by_cases same : thread = other
      · subst same
        exact ⟨_, answer_threads ..⟩
      · exact ⟨program, (Function.update_of_ne same ..).trans running⟩
  | outside event =>
      cases moved
      exact ⟨program, running⟩

/-- A running thread does not start again. -/
theorem not_started {initial : Shared → Prop} {thread : Nat} {entry : Entry} {program : Program I A}
    {schedule : List (PoolAction Entry Circumstance Event)} {pool final : Pool I A Shared}
    (running : pool.threads thread = some program)
    (completed : (system.machine initial).run pool schedule = some final) :
    .start thread entry ∉ schedule := by
  induction schedule generalizing pool program with
  | nil => exact List.not_mem_nil
  | cons action rest ih =>
      obtain ⟨next, moved, later⟩ := Option.bind_eq_some_iff.mp completed
      intro started
      rcases List.mem_cons.mp started with rfl | again
      · rw [(system.step_start moved).1] at running
        cases running
      · obtain ⟨other, kept⟩ := stays moved running
        exact ih kept later again

/-- A thread that starts during a run performs no more operations than its entry is bounded by. -/
theorem started_performs_le {initial : Shared → Prop} {limit : Entry → Nat}
    (launched : ∀ entry, (system.launch entry).Within (limit entry)) {thread : Nat} {entry : Entry}
    {schedule : List (PoolAction Entry Circumstance Event)} {pool final : Pool I A Shared}
    (vacant : pool.threads thread = none) (started : .start thread entry ∈ schedule)
    (completed : (system.machine initial).run pool schedule = some final) :
    schedule.countP (performs thread) ≤ limit entry := by
  induction schedule generalizing pool with
  | nil => cases started
  | cons action rest ih =>
      obtain ⟨next, moved, later⟩ := Option.bind_eq_some_iff.mp completed
      cases action with
      | start other chosen =>
          obtain ⟨_, rfl⟩ := system.step_start moved
          rw [List.countP_cons_of_neg (by simp [performs])]
          by_cases same : thread = other
          · subst same
            have running : (Function.update pool.threads thread (some (system.launch chosen))) thread =
                some (system.launch chosen) := Function.update_self ..
            rcases List.mem_cons.mp started with own | again
            · cases own
              exact performs_le (launched entry) running later
            · exact absurd again (not_started running later)
          · refine ih ((Function.update_of_ne same ..).trans vacant) ?_ later
            exact (List.mem_cons.mp started).resolve_left (by rintro ⟨⟩; exact same rfl)
      | proceed other circumstance =>
          obtain ⟨op, next, result, found, _, rfl⟩ := system.step_proceed moved
          have different : thread ≠ other := by
            rintro rfl
            rw [vacant] at found
            cases found
          rw [List.countP_cons_of_neg (by simpa [performs] using Ne.symm different)]
          exact ih ((Function.update_of_ne different ..).trans vacant)
            ((List.mem_cons.mp started).resolve_left (by rintro ⟨⟩)) later
      | outside event =>
          cases moved
          rw [List.countP_cons_of_neg (by simp [performs])]
          exact ih (by exact vacant) ((List.mem_cons.mp started).resolve_left (by rintro ⟨⟩)) later

end System

end Effects
