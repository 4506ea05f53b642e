import Mathlib.Data.List.Induction
import Mathlib.Logic.Function.Basic

/-!
This file shows that gathered tasks give one result in every order of their completions.
-/

namespace Gather

section Collecting
variable {Task Result : Type}

/-- All tasks have a result exactly when each one has. -/
theorem mapM_isSome_iff (results : Task → Option Result) (tasks : List Task) :
    (tasks.mapM results).isSome = true ↔ ∀ task ∈ tasks, (results task).isSome = true := by
  induction tasks with
  | nil => simp
  | cons task tasks ih =>
      rw [List.mapM_cons, List.forall_mem_cons, ← ih]
      cases results task with
      | none => simp
      | some result => cases tasks.mapM results <;> simp

/-- One task without a result leaves no list of results. -/
theorem mapM_eq_none {results : Task → Option Result} {tasks : List Task} {task : Task}
    (member : task ∈ tasks) (missing : results task = none) : tasks.mapM results = none := by
  rw [← Option.not_isSome_iff_eq_none, mapM_isSome_iff]
  intro each
  have present := each task member
  rw [missing] at present
  cases present

/-- Equal results give equal lists. -/
theorem mapM_congr {results others : Task → Option Result} {tasks : List Task}
    (same : ∀ task ∈ tasks, results task = others task) : tasks.mapM results = tasks.mapM others := by
  induction tasks with
  | nil => rfl
  | cons task tasks ih =>
      rw [List.mapM_cons, List.mapM_cons, same task (by simp),
        ih fun other member => same other (List.mem_cons_of_mem task member)]

/-- The list of results has one result for each task. -/
theorem map_of_mapM {results : Task → Option Result} {tasks : List Task} {list : List Result}
    (collected : tasks.mapM results = some list) : tasks.map results = list.map some := by
  induction tasks generalizing list with
  | nil =>
      cases collected
      rfl
  | cons task tasks ih =>
      rw [List.mapM_cons] at collected
      obtain ⟨first, now, collected⟩ := Option.bind_eq_some_iff.mp collected
      obtain ⟨rest, later, same⟩ := Option.bind_eq_some_iff.mp collected
      cases same
      rw [List.map_cons, List.map_cons, now, ih later]

end Collecting

variable {Task Result : Type} [DecidableEq Task]

/-- The caller waits for the tasks until one of them fails or all of them have a result. -/
inductive Status (Task Result : Type) where
  | waiting (results : Task → Option Result)
  | failed
  | finished (results : List Result)

/-- The results are listed in the order of the tasks. -/
def collect (tasks : List Task) (results : Task → Option Result) : Status Task Result :=
  match tasks.mapM results with
  | some list => .finished list
  | none => .waiting results

/-- The caller has ended when it has all results or a task has failed. -/
def settled : Option (List Result) → Status Task Result
  | some results => .finished results
  | none => .failed

/-- A task gives its result or fails. -/
def store (tasks : List Task) (results : Task → Option Result) (task : Task) :
    Option Result → Status Task Result
  | some result => collect tasks (Function.update results task (some result))
  | none => .failed

/-- A task completes, and the completions after the end are ignored. -/
def complete (tasks : List Task) (outcome : Task → Option Result) :
    Status Task Result → Task → Status Task Result
  | .waiting results, task => store tasks results task (outcome task)
  | .failed, _ => .failed
  | .finished results, _ => .finished results

/-- The tasks complete in some order. -/
def gather (tasks : List Task) (outcome : Task → Option Result) (order : List Task) :
    Status Task Result :=
  order.foldl (complete tasks outcome) (collect tasks fun _ => none)

/-- The caller sees the outcomes of the tasks that have completed. -/
def Agrees (tasks : List Task) (outcome : Task → Option Result) (order : List Task) :
    Status Task Result → Prop
  | .waiting results => tasks.mapM results = none ∧
      (∀ task, results task = if task ∈ order then outcome task else none) ∧
        ∀ task ∈ order, (outcome task).isSome = true
  | .failed => tasks.mapM outcome = none
  | .finished results => tasks.mapM outcome = some results

variable {tasks : List Task} {outcome : Task → Option Result}

theorem agrees_collect {order : List Task} {results : Task → Option Result}
    (same : ∀ task, results task = if task ∈ order then outcome task else none)
    (ended : ∀ task ∈ order, (outcome task).isSome = true) :
    Agrees tasks outcome order (collect tasks results) := by
  unfold collect
  cases collected : tasks.mapM results with
  | none => exact ⟨collected, same, ended⟩
  | some list =>
      have each := (mapM_isSome_iff results tasks).mp (by rw [collected]; rfl)
      have whole : tasks.mapM outcome = tasks.mapM results := by
        apply mapM_congr
        intro task member
        have present := each task member
        rw [same task] at present ⊢
        by_cases inside : task ∈ order
        · rw [if_pos inside]
        · rw [if_neg inside] at present
          cases present
      exact whole.trans collected

/-- A completion keeps what the caller sees. -/
theorem Agrees.complete {order : List Task} {status : Status Task Result}
    (agrees : Agrees tasks outcome order status) {task : Task} (member : task ∈ tasks) :
    Agrees tasks outcome (order ++ [task]) (complete tasks outcome status task) := by
  cases status with
  | waiting results =>
      obtain ⟨_, same, ended⟩ := agrees
      change Agrees tasks outcome (order ++ [task]) (store tasks results task (outcome task))
      cases now : outcome task with
      | none => exact mapM_eq_none member now
      | some result =>
          apply agrees_collect
          · intro other
            by_cases self : other = task
            · rw [self, Function.update_self, if_pos (by simp), now]
            · rw [Function.update_of_ne self, same other]
              simp [self]
          · intro other inside
            rcases List.mem_append.mp inside with earlier | last
            · exact ended other earlier
            · rw [List.mem_singleton.mp last, now]
              rfl
  | failed => exact agrees
  | finished results => exact agrees

/-- The caller agrees with every order of completions. -/
theorem gather_agrees (order : List Task) (known : ∀ task ∈ order, task ∈ tasks) :
    Agrees tasks outcome order (gather tasks outcome order) := by
  induction order using List.reverseRecOn with
  | nil => exact agrees_collect (by simp) (by simp)
  | append_singleton earlier last ih =>
      rw [gather, List.foldl_append]
      have before := ih fun task member => known task (List.mem_append_left [last] member)
      exact before.complete (known last (by simp))

/-- A caller has ended when every task has completed. -/
theorem gather_complete (order : List Task) (known : ∀ task ∈ order, task ∈ tasks)
    (all : ∀ task ∈ tasks, task ∈ order) :
    gather tasks outcome order = settled (tasks.mapM outcome) := by
  have agrees : Agrees tasks outcome order (gather tasks outcome order) := gather_agrees order known
  cases ended : gather tasks outcome order with
  | waiting results =>
      rw [ended] at agrees
      obtain ⟨missing, same, present⟩ := agrees
      have each : (tasks.mapM results).isSome = true := by
        rw [mapM_isSome_iff]
        intro task member
        rw [same task, if_pos (all task member)]
        exact present task (all task member)
      rw [missing] at each
      cases each
  | failed =>
      rw [ended] at agrees
      rw [show tasks.mapM outcome = none from agrees, settled]
  | finished results =>
      rw [ended] at agrees
      rw [show tasks.mapM outcome = some results from agrees, settled]

end Gather
