import EveApiCache.Proof.Esi.Permits
import EveApiCache.Proof.Esi.Total

/-!
This file shows that concurrent fetches neither block each other nor lose permits.
-/

namespace EveApiCache

open FairSemaphore StepMachine

section Progress
variable {settings : Settings} {libraries : Libraries} {parsedate : PyStr → Option HttpDate}
  {client : Client}

/-- Some task takes a step once the sleeps and the HTTP calls have finished. -/
def Client.CanStep (settings : Settings) (libraries : Libraries)
    (parsedate : PyStr → Option HttpDate) (client : Client) : Prop :=
  ∃ later action next, action.task.isSome = true ∧
    (clientMachine settings libraries parsedate).run client [.tick later, action] = some next

namespace Client

/-- The client at a later time. -/
def elapse (client : Client) (later : ℚ) : Client :=
  { client with pacer := { client.pacer with now := later } }

/-- A step that is possible later is possible after a tick. -/
theorem CanStep.of_step {later : ℚ} (order : client.now ≤ later) {action : ClientAction}
    {next : Client} (own : action.task.isSome = true)
    (moved : (client.elapse later).step settings libraries parsedate action = some next) :
    client.CanStep settings libraries parsedate := by
  refine ⟨later, action, next, own, ?_⟩
  have ticked : client.step settings libraries parsedate (.tick later) =
      some (client.elapse later) := if_pos order
  change (client.step settings libraries parsedate (.tick later)).bind _ = _
  rw [ticked, Option.bind_some]
  change ((client.elapse later).step settings libraries parsedate action).bind _ = _
  rw [moved]
  rfl

theorem phaseOf_eq {task : Nat} {phase : ClientPhase} :
    client.phaseOf task = some phase ↔ ∃ current, client.tasks[task]? = some current ∧
      current.phase = phase :=
  Option.map_eq_some_iff

/-- A task that can take its step at a later time takes it after a tick. -/
theorem CanStep.of_task {later : ℚ} (order : client.now ≤ later) {task : Nat} {current : ClientTask}
    (found : client.tasks[task]? = some current) (action : ClientAction)
    (own : action.task = some task)
    (enabled : ((client.elapse later).stepTask settings libraries parsedate task current
      action).isSome) :
    client.CanStep settings libraries parsedate := by
  obtain ⟨next, moved⟩ := Option.isSome_iff_exists.mp enabled
  have step : (client.elapse later).step settings libraries parsedate action = some next := by
    have bound : (some task).bind (fun task => (client.elapse later).tasks[task]?.bind fun current =>
        (client.elapse later).stepTask settings libraries parsedate task current action) =
          some next := by
      rw [Option.bind_some, show (client.elapse later).tasks[task]? = some current from found]
      exact moved
    rw [← own] at bound
    cases action with
    | tick => cases own
    | call => cases own
    | begin => exact bound
    | pageTurn => exact bound
    | pacerTurn => exact bound
    | pacerWake => exact bound
    | upstreamTurn => exact bound
    | complete => exact bound
    | retry => exact bound
    | gather => exact bound
  exact .of_step order (by rw [own]; rfl) step

/-- An HTTP call in flight can finish. -/
theorem canStep_sending {task : Nat} (stands : client.phaseOf task = some .sending) :
    client.CanStep settings libraries parsedate := by
  obtain ⟨current, found, sends⟩ := phaseOf_eq.mp stands
  refine .of_task (le_refl _) found (.complete task (.ofSeconds 0 0) .unreachable) rfl ?_
  unfold Client.stepTask
  dsimp only
  rw [if_pos sends]
  rfl

/-- A task that sleeps before its next attempt can make it in time. -/
theorem canStep_retrying {task : Nat} (stands : client.phaseOf task = some .retrying) :
    client.CanStep settings libraries parsedate := by
  obtain ⟨current, found, sleeps⟩ := phaseOf_eq.mp stands
  refine .of_task (le_max_left client.now current.wakes) found (.retry task) rfl ?_
  unfold Client.stepTask
  dsimp only
  rw [if_pos ⟨sleeps, le_max_right client.now current.wakes⟩]
  rfl

/-- Somebody in the pacer can move on: the sleeper in time, or else the first waiting task. -/
theorem Sound.canStep_pacing (sound : client.Sound settings none) {task : Nat}
    (stands : client.phaseOf task = some .pacing) : client.CanStep settings libraries parsedate := by
  have member := (sound.pacing task).mpr stands
  cases asleep : client.pacer.sleeper with
  | some sleep =>
      have inside : sleep.call ∈ client.pacer.line := by
        unfold Pacer.line
        rw [asleep]
        exact List.mem_append_right _ (List.mem_singleton.mpr rfl)
      obtain ⟨current, found, paces⟩ := phaseOf_eq.mp ((sound.pacing sleep.call).mp inside)
      refine .of_task (le_max_left client.now sleep.wakes) found (.pacerWake sleep.call) rfl ?_
      have sleeper : (client.elapse (max client.now sleep.wakes)).pacer.sleeper = some sleep := asleep
      unfold Client.stepTask Pacer.wake
      dsimp only
      rw [if_pos ⟨paces, by rw [sleeper]; rfl⟩, sleeper]
      have late : sleep.wakes ≤ (client.elapse (max client.now sleep.wakes)).pacer.now :=
        le_max_right client.now sleep.wakes
      dsimp only
      rw [if_pos late]
      rfl
  | none =>
      have waiting : task ∈ client.pacer.waiting := by
        unfold Pacer.line at member
        rw [asleep] at member
        simpa using member
      obtain ⟨first, rest, queue⟩ := List.exists_cons_of_ne_nil (List.ne_nil_of_mem waiting)
      have inside : first ∈ client.pacer.line := by
        unfold Pacer.line
        rw [queue]
        exact List.mem_append_left _ (List.mem_cons_self ..)
      obtain ⟨current, found, paces⟩ := phaseOf_eq.mp ((sound.pacing first).mp inside)
      refine .of_task (le_refl client.now) found (.pacerTurn first) rfl ?_
      have front : (client.elapse client.now).pacer.waiting = first :: rest := queue
      have idle : (client.elapse client.now).pacer.sleeper = none := asleep
      unfold Client.stepTask Pacer.resume
      dsimp only
      rw [if_pos ⟨paces, by rw [front]; rfl⟩, front, idle]
      rfl

/-- A task that waits for an upstream permit can take it, or a request in flight can finish. -/
theorem Sound.canStep_upstream (sound : client.Sound settings none)
    (positive : 1 ≤ settings.upstreamConcurrency) {task : Nat}
    (stands : client.phaseOf task = some .upstreamQueue) :
    client.CanStep settings libraries parsedate := by
  have member := (sound.upstreamQueue task).mpr stands
  rcases sound.upstream.progress positive (List.ne_nil_of_mem member) with granted | held
  · obtain ⟨first, given⟩ := List.exists_mem_of_ne_nil _ granted
    have inside : first ∈ client.upstreamSem.queued := List.mem_append_right _ given
    obtain ⟨current, found, waits⟩ := phaseOf_eq.mp ((sound.upstreamQueue first).mp inside)
    refine .of_task (le_refl client.now) found (.upstreamTurn first) rfl ?_
    unfold Client.stepTask
    dsimp only
    rw [if_pos ⟨waits, given⟩]
    rfl
  · obtain ⟨holder, inside, sends⟩ := List.countP_pos_iff.mp held
    obtain ⟨index, found⟩ := List.mem_iff_getElem?.mp inside
    exact canStep_sending (phaseOf_eq.mpr
      ⟨holder, found, by simpa [ClientTask.holdsUpstream] using sends⟩)

/-- A task inside a request can move on, or another one can. -/
theorem Sound.canStep_request (sound : client.Sound settings none)
    (positive : 1 ≤ settings.upstreamConcurrency) {task : Nat} {current : ClientTask}
    (found : client.tasks[task]? = some current) (inside : current.phase.inRequest = true) :
    client.CanStep settings libraries parsedate := by
  have stands : client.phaseOf task = some current.phase := phaseOf_eq.mpr ⟨current, found, rfl⟩
  cases phase : current.phase with
  | created =>
      rw [phase] at inside
      cases inside
  | pageQueue =>
      rw [phase] at inside
      cases inside
  | running =>
      rw [phase] at stands
      exact absurd ((sound.running task).mpr stands) (by simp)
  | pacing => exact sound.canStep_pacing (by rw [stands, phase])
  | upstreamQueue => exact sound.canStep_upstream positive (by rw [stands, phase])
  | sending => exact canStep_sending (by rw [stands, phase])
  | retrying => exact canStep_retrying (by rw [stands, phase])
  | gathering =>
      rw [phase] at inside
      cases inside
  | ended =>
      rw [phase] at inside
      cases inside

/-- A page that waits for a permit can take it, or a page that holds one can move on. -/
theorem Sound.canStep_page (sound : client.Sound settings none)
    (pages : 1 ≤ settings.pageConcurrency) (upstream : 1 ≤ settings.upstreamConcurrency) {task : Nat}
    (stands : client.phaseOf task = some .pageQueue) : client.CanStep settings libraries parsedate := by
  have member := (sound.pageQueue task).mpr stands
  rcases sound.pages.progress pages (List.ne_nil_of_mem member) with granted | held
  · obtain ⟨first, given⟩ := List.exists_mem_of_ne_nil _ granted
    have inside : first ∈ client.pageSem.queued := List.mem_append_right _ given
    obtain ⟨current, found, waits⟩ := phaseOf_eq.mp ((sound.pageQueue first).mp inside)
    refine .of_task (le_refl client.now) found (.pageTurn first (.ofSeconds 0 0)) rfl ?_
    unfold Client.stepTask
    dsimp only
    rw [if_pos ⟨waits, given⟩]
    rfl
  · obtain ⟨holder, inside, holds⟩ := List.countP_pos_iff.mp held
    obtain ⟨index, found⟩ := List.mem_iff_getElem?.mp inside
    unfold ClientTask.holdsPage at holds
    rw [Bool.and_eq_true] at holds
    exact sound.canStep_request upstream found holds.2

/-- A task that has not ended and does not gather can move on, or another one can. -/
theorem Sound.canStep_unfinished (sound : client.Sound settings none)
    (pages : 1 ≤ settings.pageConcurrency) (upstream : 1 ≤ settings.upstreamConcurrency) {task : Nat}
    {current : ClientTask} (found : client.tasks[task]? = some current)
    (unfinished : current.phase ≠ .ended) (apart : current.phase ≠ .gathering) :
    client.CanStep settings libraries parsedate := by
  have stands : client.phaseOf task = some current.phase := phaseOf_eq.mpr ⟨current, found, rfl⟩
  cases phase : current.phase with
  | created =>
      refine .of_task (le_refl client.now) found (.begin task (.ofSeconds 0 0)) rfl ?_
      unfold Client.stepTask
      dsimp only
      rw [if_pos phase]
      rfl
  | pageQueue => exact sound.canStep_page pages upstream (by rw [stands, phase])
  | running => exact sound.canStep_request upstream found (by rw [phase]; rfl)
  | pacing => exact sound.canStep_request upstream found (by rw [phase]; rfl)
  | upstreamQueue => exact sound.canStep_request upstream found (by rw [phase]; rfl)
  | sending => exact sound.canStep_request upstream found (by rw [phase]; rfl)
  | retrying => exact sound.canStep_request upstream found (by rw [phase]; rfl)
  | gathering => exact absurd phase apart
  | ended => exact absurd phase unfinished

/-- A call that gathers can end, or one of its pages has not ended. -/
theorem canStep_gathering {task : Nat} {current : ClientTask}
    (found : client.tasks[task]? = some current) (gathers : current.phase = .gathering)
    (ready : client.gathered task = true) : client.CanStep settings libraries parsedate := by
  refine .of_task (le_refl client.now) found (.gather task) rfl ?_
  unfold Client.stepTask
  dsimp only
  rw [if_pos ⟨gathers, ready⟩]
  rfl

theorem unfinished_page {parent : Nat} (waits : client.gathered parent = false) :
    ∃ page ∈ client.tasks, page.role.isPage = true ∧ page.phase ≠ .ended := by
  unfold gathered at waits
  rw [Bool.or_eq_false_iff, List.all_eq_false] at waits
  obtain ⟨page, member, late⟩ := waits.2
  refine ⟨page, member, ?_⟩
  cases role : page.role with
  | call method => simp [role] at late
  | page owner number total =>
      simp only [role, Bool.or_eq_true, decide_eq_true_eq, not_or] at late
      exact ⟨rfl, late.2⟩

/-- While a task has not ended, some task can take a step. -/
theorem Sound.canStep (sound : client.Sound settings none) (pages : 1 ≤ settings.pageConcurrency)
    (upstream : 1 ≤ settings.upstreamConcurrency)
    (unfinished : ∃ task ∈ client.tasks, task.phase ≠ .ended) :
    client.CanStep settings libraries parsedate := by
  obtain ⟨current, member, late⟩ := unfinished
  obtain ⟨task, found⟩ := List.mem_iff_getElem?.mp member
  by_cases gathers : current.phase = .gathering
  · cases ready : client.gathered task with
    | true => exact canStep_gathering found gathers ready
    | false =>
        obtain ⟨page, inside, isPage, waits⟩ := unfinished_page ready
        obtain ⟨index, known⟩ := List.mem_iff_getElem?.mp inside
        refine sound.canStep_unfinished pages upstream known waits fun gathers => ?_
        rw [(sound.staged page inside).2 gathers] at isPage
        cases isPage
  · exact sound.canStep_unfinished pages upstream found late gathers

/-- Without an unfinished task nothing is held and nobody waits. -/
theorem Sound.idle (sound : client.Sound settings none)
    (finished : ∀ task ∈ client.tasks, task.phase = .ended) :
    client.pageSem = ⟨settings.pageConcurrency, [], []⟩ ∧
      client.upstreamSem = ⟨settings.upstreamConcurrency, [], []⟩ ∧ client.pacer.line = [] := by
  have none (phase : ClientPhase) (apart : phase ≠ .ended) (task : Nat) :
      client.phaseOf task ≠ some phase := by
    intro stands
    obtain ⟨current, found, same⟩ := phaseOf_eq.mp stands
    exact apart (same.symm.trans (finished current (List.mem_of_getElem? found)))
  have zero (counts : ClientTask → Bool) (idle : ∀ task ∈ client.tasks, counts task = false) :
      client.tasks.countP counts = 0 :=
    List.countP_eq_zero.mpr fun task member => by simp [idle task member]
  have pages := sound.pages
  have upstream := sound.upstream
  rw [zero _ fun task member => by
    simp [ClientTask.holdsPage, finished task member, ClientPhase.inRequest]] at pages
  rw [zero _ fun task member => by simp [ClientTask.holdsUpstream, finished task member]] at upstream
  refine ⟨pages.whole ?_, upstream.whole ?_, ?_⟩
  · exact List.eq_nil_iff_forall_not_mem.mpr fun task member =>
      none .pageQueue (by decide) task ((sound.pageQueue task).mp member)
  · exact List.eq_nil_iff_forall_not_mem.mpr fun task member =>
      none .upstreamQueue (by decide) task ((sound.upstreamQueue task).mp member)
  · exact List.eq_nil_iff_forall_not_mem.mpr fun task member =>
      none .pacing (by decide) task ((sound.pacing task).mp member)

end Client

/-- Concurrent fetches never block each other for good, the requests in flight have a permit each, and
nothing is held once all tasks have ended. -/
theorem upstream_live (settings : Settings) (libraries : Libraries)
    (parsedate : PyStr → Option HttpDate) (pages : 1 ≤ settings.pageConcurrency)
    (upstream : 1 ≤ settings.upstreamConcurrency) (client : Client)
    (reached : (clientMachine settings libraries parsedate).Reachable client) :
    ((∃ task ∈ client.tasks, task.phase ≠ .ended) →
      ∃ later action next, action.task.isSome = true ∧
        (clientMachine settings libraries parsedate).run client [.tick later, action] = some next) ∧
    (client.tasks.countP fun task => task.phase = .sending) ≤ settings.upstreamConcurrency ∧
    ((∀ task ∈ client.tasks, task.phase = .ended) →
      client.pageSem = ⟨settings.pageConcurrency, [], []⟩ ∧
        client.upstreamSem = ⟨settings.upstreamConcurrency, [], []⟩ ∧
          client.pacer.sleeper = none ∧ client.pacer.waiting = []) := by
  have sound := client_sound reached
  refine ⟨sound.canStep pages upstream, sound.upstream.held_le, fun finished => ?_⟩
  obtain ⟨pageSem, upstreamSem, line⟩ := sound.idle finished
  obtain ⟨waiting, sleeper⟩ := List.append_eq_nil_iff.mp line
  refine ⟨pageSem, upstreamSem, ?_, waiting⟩
  cases asleep : client.pacer.sleeper with
  | none => rfl
  | some sleep =>
      rw [asleep] at sleeper
      cases sleeper

end Progress

/-- There is one permit of each kind and no retry. -/
def singlePermits : Settings := { esiMaxRetries := 0, pageConcurrency := 1, upstreamConcurrency := 1 }

def threePages : RawResponse where
  status := 200
  content := bytes "[]"
  headers name := if name = text "x-pages" then some (text "3") else none

/-- The second page fails, the call ends, and the third page goes on alone. -/
def abandonedPage : List ClientAction :=
  let date := Datetime.ofSeconds 0 0
  [.call (text "GET") date, .complete 0 date (.answered 0 threePages), .begin 1 date, .begin 2 date,
    .complete 1 date .unreachable, .gather 0, .pageTurn 2 date,
    .complete 2 date (.answered 0 threePages)]

theorem upstream_live_abandoned : ∃ client,
    (clientMachine singlePermits clientLibraries fun _ => none).Reachable client ∧
      client.tasks.length = 3 ∧ client.pageSem = ⟨1, [], []⟩ ∧ client.upstreamSem = ⟨1, [], []⟩ ∧
        client.pacer.sleeper = none ∧ client.pacer.waiting = [] := by
  have completed : ((clientMachine singlePermits clientLibraries fun _ => none).run
      (Client.create singlePermits 0) abandonedPage).any (fun client =>
        client.tasks.length = 3 && client.tasks.all fun task => task.phase = .ended) = true := by
    decide +kernel
  obtain ⟨client, ran, shape⟩ := (Option.any_eq_true _ _).mp completed
  rw [Bool.and_eq_true, decide_eq_true_eq, List.all_eq_true] at shape
  have reached : (clientMachine singlePermits clientLibraries fun _ => none).Reachable client :=
    Machine.Reachable.run (.start ⟨0, rfl⟩) abandonedPage ran
  have live := upstream_live singlePermits clientLibraries (fun _ => none) (by decide) (by decide) client
    reached
  exact ⟨client, reached, shape.1, live.2.2 fun task member => by simpa using shape.2 task member⟩

end EveApiCache
