import EveApiCache.Construction.Esi.Client

/-!
This file shows that concurrent fetches keep the permits of the client.
-/

namespace EveApiCache

open FairSemaphore StepMachine

/-- A page holds its permit from its first request to its end. -/
def ClientPhase.inRequest : ClientPhase → Bool
  | .running | .pacing | .upstreamQueue | .sending | .retrying => true
  | _ => false

def ClientTask.holdsPage (task : ClientTask) : Bool := task.role.isPage && task.phase.inRequest

def ClientTask.holdsUpstream (task : ClientTask) : Bool := task.phase = .sending

/-- Only pages are created or wait for a page permit, and only calls gather. -/
def ClientTask.Staged (task : ClientTask) : Prop :=
  (task.phase = .created ∨ task.phase = .pageQueue → task.role.isPage = true) ∧
    (task.phase = .gathering → task.role.isPage = false)

/-- These are the tasks in the pacer. -/
def Pacer.line (pacer : Pacer) : List Nat := pacer.waiting ++ (pacer.sleeper.map PacerSleep.call).toList

def Client.phaseOf (client : Client) (task : Nat) : Option ClientPhase :=
  client.tasks[task]?.map ClientTask.phase

/-- The semaphores are fair, the queues hold the tasks that stand in them, and one task runs at most. -/
structure Client.Sound (settings : Settings) (runner : Option Nat) (client : Client) : Prop where
  pages : Fair settings.pageConcurrency (client.tasks.countP ClientTask.holdsPage) client.pageSem
  upstream : Fair settings.upstreamConcurrency (client.tasks.countP ClientTask.holdsUpstream)
    client.upstreamSem
  line : client.pacer.line.Nodup
  pageQueue : ∀ task, task ∈ client.pageSem.queued ↔ client.phaseOf task = some .pageQueue
  upstreamQueue : ∀ task, task ∈ client.upstreamSem.queued ↔
    client.phaseOf task = some .upstreamQueue
  pacing : ∀ task, task ∈ client.pacer.line ↔ client.phaseOf task = some .pacing
  running : ∀ task, task ∈ runner ↔ client.phaseOf task = some .running
  staged : ∀ task ∈ client.tasks, task.Staged

/-- A queue loses one task, or gains it where the task comes to stand in it. -/
def QueueMoves (queue next : Nat → Prop) (task : Nat) (stands : Prop) : Prop :=
  ∀ other, next other ↔ (other ≠ task ∧ queue other) ∨ (other = task ∧ stands)

section QueueMoves
variable {queue next : Nat → Prop} {task : Nat} {stands : Prop}

/-- A queue stays when the task neither stood in it nor comes to stand in it. -/
theorem QueueMoves.stay (absent : ¬ queue task) (elsewhere : ¬ stands) :
    QueueMoves queue queue task stands := by
  intro other
  by_cases same : other = task
  · subst same
    simp [absent, elsewhere]
  · simp [same]

/-- A task that joins a queue stands in it. -/
theorem QueueMoves.join (joins : ∀ other, next other ↔ other = task ∨ queue other) (arrives : stands) :
    QueueMoves queue next task stands := by
  intro other
  rw [joins]
  by_cases same : other = task
  · simp [same, arrives]
  · simp [same]

/-- A task that leaves a queue stands elsewhere. -/
theorem QueueMoves.leave (leaves : ∀ other, next other ↔ other ≠ task ∧ queue other)
    (elsewhere : ¬ stands) : QueueMoves queue next task stands := by
  intro other
  rw [leaves]
  simp [elsewhere]

/-- A queue that gives the phases before a step gives them after it. -/
theorem QueueMoves.phases {client after : Client} {phase : ClientPhase}
    (before : ∀ other, queue other ↔ client.phaseOf other = some phase)
    (others : ∀ other, other ≠ task → after.phaseOf other = client.phaseOf other)
    (own : stands ↔ after.phaseOf task = some phase) (moves : QueueMoves queue next task stands) :
    ∀ other, next other ↔ after.phaseOf other = some phase := by
  intro other
  rw [moves other]
  by_cases same : other = task
  · subst same
    simp [own]
  · simp [same, before, others other same]

end QueueMoves

section Tasks
variable {settings : Settings} {client : Client} {task : Nat}

theorem change_tasks {current : ClientTask} (found : client.tasks[task]? = some current)
    (next : ClientTask → ClientTask) :
    (client.change task next).tasks = client.tasks.set task (next current) := by
  obtain ⟨inside, same⟩ := List.getElem?_eq_some_iff.mp found
  change client.tasks.modify task next = _
  subst same
  apply List.ext_getElem?
  intro other
  rw [List.getElem?_modify, List.getElem?_set]
  by_cases equal : task = other
  · subst equal
    simp [inside]
  · simp [equal]

/-- Replacing a task changes the count by the task alone. -/
theorem countP_replace (counts : ClientTask → Bool) {tasks : List ClientTask} {current : ClientTask}
    (found : tasks[task]? = some current) (next : ClientTask) :
    (tasks.set task next).countP counts + (if counts current then 1 else 0) =
      tasks.countP counts + (if counts next then 1 else 0) := by
  obtain ⟨inside, same⟩ := List.getElem?_eq_some_iff.mp found
  subst same
  rw [List.countP_set inside]
  have present : (if counts tasks[task] then 1 else 0) ≤ tasks.countP counts := by
    split_ifs with counted
    · exact List.countP_pos_iff.mpr ⟨_, List.getElem_mem inside, counted⟩
    · exact Nat.zero_le _
  omega

theorem count_same (counts : ClientTask → Bool) {tasks : List ClientTask} {current next : ClientTask}
    (found : tasks[task]? = some current) (equal : counts next = counts current) :
    (tasks.set task next).countP counts = tasks.countP counts := by
  have count := countP_replace counts found next
  rw [equal] at count
  exact Nat.add_right_cancel count

theorem count_gain (counts : ClientTask → Bool) {tasks : List ClientTask} {current next : ClientTask}
    (found : tasks[task]? = some current) (before : counts current = false)
    (gained : counts next = true) :
    (tasks.set task next).countP counts = tasks.countP counts + 1 := by
  have count := countP_replace counts found next
  simpa [before, gained] using count

theorem count_lose (counts : ClientTask → Bool) {tasks : List ClientTask} {current next : ClientTask}
    (found : tasks[task]? = some current) (before : counts current = true)
    (lost : counts next = false) :
    tasks.countP counts = (tasks.set task next).countP counts + 1 := by
  have count := countP_replace counts found next
  simpa [before, lost] using count.symm

theorem phaseOf_set {current : ClientTask} (found : client.tasks[task]? = some current) {after : Client}
    {next : ClientTask} (tasks : after.tasks = client.tasks.set task next) :
    after.phaseOf task = some next.phase ∧
      ∀ other, other ≠ task → after.phaseOf other = client.phaseOf other := by
  obtain ⟨inside, _⟩ := List.getElem?_eq_some_iff.mp found
  unfold Client.phaseOf
  rw [tasks]
  constructor
  · rw [List.getElem?_set_self inside]
    rfl
  · intro other apart
    rw [List.getElem?_set_ne (Ne.symm apart)]

namespace Client

/-- A task that is replaced moves between the queues. -/
theorem Sound.replace {runner after : Option Nat} (sound : client.Sound settings runner)
    {current next : ClientTask} {final : Client} (found : client.tasks[task]? = some current)
    (tasks : final.tasks = client.tasks.set task next) (staged : next.Staged)
    (pages : Fair settings.pageConcurrency (final.tasks.countP ClientTask.holdsPage) final.pageSem)
    (upstream : Fair settings.upstreamConcurrency (final.tasks.countP ClientTask.holdsUpstream)
      final.upstreamSem)
    (line : final.pacer.line.Nodup)
    (pageQueue : QueueMoves (· ∈ client.pageSem.queued) (· ∈ final.pageSem.queued) task
      (next.phase = .pageQueue))
    (upstreamQueue : QueueMoves (· ∈ client.upstreamSem.queued) (· ∈ final.upstreamSem.queued) task
      (next.phase = .upstreamQueue))
    (pacing : QueueMoves (· ∈ client.pacer.line) (· ∈ final.pacer.line) task (next.phase = .pacing))
    (running : QueueMoves (· ∈ runner) (· ∈ after) task (next.phase = .running)) :
    final.Sound settings after := by
  obtain ⟨own, others⟩ := phaseOf_set found tasks
  have stands (phase : ClientPhase) : next.phase = phase ↔ final.phaseOf task = some phase := by
    rw [own, Option.some.injEq]
  exact
    { pages := pages
      upstream := upstream
      line := line
      pageQueue := pageQueue.phases sound.pageQueue others (stands _)
      upstreamQueue := upstreamQueue.phases sound.upstreamQueue others (stands _)
      pacing := pacing.phases sound.pacing others (stands _)
      running := running.phases sound.running others (stands _)
      staged := by
        intro other member
        rw [tasks] at member
        rcases List.mem_or_eq_of_mem_set member with inside | rfl
        · exact sound.staged other inside
        · exact staged }

/-- A task stands in no queue of another phase. -/
theorem Sound.absent {runner : Option Nat} (sound : client.Sound settings runner) {current : ClientTask}
    (found : client.tasks[task]? = some current) :
    (current.phase ≠ .pageQueue → task ∉ client.pageSem.queued) ∧
      (current.phase ≠ .upstreamQueue → task ∉ client.upstreamSem.queued) ∧
        (current.phase ≠ .pacing → task ∉ client.pacer.line) ∧
          (current.phase ≠ .running → task ∉ runner) := by
  have own : client.phaseOf task = some current.phase := by
    unfold phaseOf
    rw [found]
    rfl
  refine ⟨fun apart member => ?_, fun apart member => ?_, fun apart member => ?_, fun apart member => ?_⟩
  · exact apart (Option.some.inj (own.symm.trans ((sound.pageQueue task).mp member)))
  · exact apart (Option.some.inj (own.symm.trans ((sound.upstreamQueue task).mp member)))
  · exact apart (Option.some.inj (own.symm.trans ((sound.pacing task).mp member)))
  · exact apart (Option.some.inj (own.symm.trans ((sound.running task).mp member)))

/-- A runner takes the place of nobody, and a runner that stops leaves nobody. -/
theorem runner_moves :
    QueueMoves (· ∈ (none : Option Nat)) (· ∈ some task) task (ClientPhase.running = .running) ∧
    ∀ phase : ClientPhase, phase ≠ .running →
      QueueMoves (· ∈ some task) (· ∈ (none : Option Nat)) task (phase = .running) := by
  constructor
  · intro other
    simp [eq_comm]
  · intro phase apart other
    simp [apart, eq_comm]

/-- This phase is outside of the queues. -/
def free (phase : ClientPhase) : Prop :=
  phase ≠ .pageQueue ∧ phase ≠ .upstreamQueue ∧ phase ≠ .pacing

/-- A step outside of the queues that changes no permit keeps the client sound. -/
theorem Sound.restand {runner after : Option Nat} (sound : client.Sound settings runner)
    {current : ClientTask} (found : client.tasks[task]? = some current) (next : ClientTask → ClientTask)
    (staged : (next current).Staged) (leaves : free current.phase) (reaches : free (next current).phase)
    (page : (next current).holdsPage = current.holdsPage)
    (upstream : (next current).holdsUpstream = current.holdsUpstream)
    (running : QueueMoves (· ∈ runner) (· ∈ after) task ((next current).phase = .running)) :
    (client.change task next).Sound settings after := by
  have tasks := change_tasks found next
  obtain ⟨pageFree, upstreamFree, pacerFree, _⟩ := sound.absent found
  refine sound.replace found tasks staged ?_ ?_ sound.line ?_ ?_ ?_ running
  · rw [tasks, count_same _ found page]
    exact sound.pages
  · rw [tasks, count_same _ found upstream]
    exact sound.upstream
  · exact .stay (pageFree leaves.1) reaches.1
  · exact .stay (upstreamFree leaves.2.1) reaches.2.1
  · exact .stay (pacerFree leaves.2.2) reaches.2.2

/-- A task inside a request keeps its page permit. -/
theorem holdsPage_stand {current : ClientTask} (inside : current.phase.inRequest = true)
    {phase : ClientPhase} (stays : phase.inRequest = true) :
    ClientTask.holdsPage { current with phase := phase } = ClientTask.holdsPage current := by
  unfold ClientTask.holdsPage
  rw [inside, stays]

theorem staged_inRequest {current : ClientTask} (inside : current.phase.inRequest = true) :
    current.Staged := by
  constructor
  · rintro (created | waits)
    · rw [created] at inside
      cases inside
    · rw [waits] at inside
      cases inside
  · intro gathers
    rw [gathers] at inside
    cases inside

/-- A running task takes an upstream permit or waits for one. -/
theorem Sound.acquireUpstream (sound : client.Sound settings (some task)) {current : ClientTask}
    (found : client.tasks[task]? = some current) (runs : current.phase = .running) :
    (client.acquireUpstream task).Sound settings none := by
  obtain ⟨pageFree, upstreamFree, pacerFree, _⟩ := sound.absent found
  rw [runs] at pageFree upstreamFree pacerFree
  have inside : current.phase.inRequest = true := by rw [runs]; rfl
  have idle : current.holdsUpstream = false := by
    unfold ClientTask.holdsUpstream
    rw [runs]
    rfl
  have absent := upstreamFree (by decide)
  unfold Client.acquireUpstream
  split
  next locked =>
    have tasks := @change_tasks { client with upstreamSem := client.upstreamSem.enqueue task } task
      current found fun current => { current with phase := .upstreamQueue }
    refine sound.replace found tasks (staged_inRequest rfl) ?_ ?_ sound.line ?_ ?_ ?_ ?_
    · rw [Client.stand, tasks, count_same _ found (holdsPage_stand inside rfl)]
      exact sound.pages
    · rw [Client.stand, tasks, count_same _ found (by rw [idle]; rfl)]
      exact sound.upstream.enqueue locked absent
    · exact .stay (pageFree (by decide)) (by rintro ⟨⟩)
    · exact .join (fun other => mem_enqueue) rfl
    · exact .stay (pacerFree (by decide)) (by rintro ⟨⟩)
    · exact runner_moves.2 _ (by rintro ⟨⟩)
  next free =>
    have tasks := @change_tasks { client with
        upstreamSem := client.upstreamSem.take
        sent := client.sent ++ [Sending.mk task client.now client.breaker.budgetBlockedUntil] } task
      current found fun current => { current with phase := .sending }
    refine sound.replace found tasks (staged_inRequest rfl) ?_ ?_ sound.line ?_ ?_ ?_ ?_
    · rw [Client.send, Client.stand]
      refine (congrArg (Fair _ · _) ?_).mpr sound.pages
      exact (congrArg _ tasks).trans (count_same _ found (holdsPage_stand inside rfl))
    · refine (congrArg (Fair _ · _) ?_).mpr (sound.upstream.take (by simpa using free))
      exact (congrArg _ tasks).trans (count_gain _ found idle rfl)
    · exact .stay (pageFree (by decide)) (by rintro ⟨⟩)
    · exact .stay absent (by rintro ⟨⟩)
    · exact .stay (pacerFree (by decide)) (by rintro ⟨⟩)
    · exact runner_moves.2 _ (by rintro ⟨⟩)

end Client

end Tasks

section Pacer
variable {pacer next : Pacer} {task : Nat}

/-- A task that takes a turn in the pacer leaves its line or stands in it. -/
structure Pacer.Turn (pacer next : Pacer) (task : Nat) : Prop where
  distinct : next.line.Nodup
  left : Pacer.hasLeft pacer next = true →
    ∀ other, other ∈ next.line ↔ other ≠ task ∧ other ∈ pacer.line
  stays : Pacer.hasLeft pacer next = false →
    ∀ other, other ∈ next.line ↔ other = task ∨ other ∈ pacer.line

/-- A task that enters the pacer leaves it at once or sleeps in it. -/
theorem Pacer.enter_line (pacer : Pacer) (rate : ℚ) (task : Nat) (idle : pacer.sleeper = none) :
    ((pacer.enter rate task).passed.length = pacer.passed.length + 1 ∧
        (pacer.enter rate task).line = pacer.waiting) ∨
      ((pacer.enter rate task).passed = pacer.passed ∧
        (pacer.enter rate task).line = pacer.waiting ++ [task]) := by
  unfold Pacer.enter
  dsimp only
  split
  next => exact .inr ⟨rfl, rfl⟩
  next =>
    refine .inl ⟨List.length_append, ?_⟩
    change pacer.waiting ++ (pacer.sleeper.map PacerSleep.call).toList = pacer.waiting
    rw [idle]
    exact List.append_nil _

/-- A task that calls the pacer takes a turn in it. -/
theorem Pacer.arriveAs_turn (rate : ℚ) (distinct : pacer.line.Nodup) (fresh : task ∉ pacer.line) :
    Pacer.Turn pacer (pacer.arriveAs rate task) task := by
  have joined : ∀ {after : Pacer}, after.line.Perm (task :: pacer.line) →
      after.line.Nodup ∧ ∀ other, other ∈ after.line ↔ other = task ∨ other ∈ pacer.line :=
    fun same => ⟨same.nodup_iff.mpr (List.nodup_cons.mpr ⟨fresh, distinct⟩), fun other => by
      rw [same.mem_iff, List.mem_cons]⟩
  have apart : ∀ other, other ∈ pacer.line ↔ other ≠ task ∧ other ∈ pacer.line := fun other =>
    ⟨fun member => ⟨fun same => fresh (same ▸ member), member⟩, And.right⟩
  unfold Pacer.arriveAs Pacer.arrive
  dsimp only
  split_ifs with unlimited alone
  · exact ⟨distinct, fun _ => apart, fun gone => by simp [Pacer.hasLeft, Pacer.pass] at gone⟩
  · obtain ⟨idle, empty⟩ := alone
    rw [Option.isNone_iff_eq_none] at idle
    have line : pacer.line = [] := by
      unfold Pacer.line
      rw [show pacer.sleeper = none from idle, show pacer.waiting = [] from empty]
      rfl
    rcases Pacer.enter_line { pacer with calls := task + 1 } rate task idle with
      ⟨passed, after⟩ | ⟨passed, after⟩
    · have clear := after.trans (show pacer.waiting = [] from empty)
      refine ⟨by rw [clear]; exact List.nodup_nil, fun _ other => ?_, fun gone => ?_⟩
      · rw [clear, line]
        simp
      · simp [Pacer.hasLeft, passed] at gone
    · have alone := after.trans (congrArg (· ++ [task]) (show pacer.waiting = [] from empty))
      refine ⟨by rw [alone]; exact List.nodup_singleton task, fun gone => ?_, fun _ other => ?_⟩
      · simp [Pacer.hasLeft, passed] at gone
      · rw [alone, line]
        simp
  · have moved : ({ pacer with calls := task + 1, waiting := pacer.waiting ++ [task] } : Pacer).line.Perm
        (task :: pacer.line) := by
      unfold Pacer.line
      dsimp only
      rw [List.append_assoc]
      exact List.perm_middle
    exact ⟨(joined moved).1, fun gone => by simp [Pacer.hasLeft] at gone, fun _ => (joined moved).2⟩

/-- The first waiting task takes a turn in the pacer. -/
theorem Pacer.resume_turn {rate : ℚ} (distinct : pacer.line.Nodup)
    (first : pacer.waiting.head? = some task) (moved : pacer.resume rate = some next) :
    Pacer.Turn pacer next task := by
  unfold Pacer.resume at moved
  split at moved
  next call rest idle waiting =>
    cases moved
    have same : call = task := by rw [waiting] at first; exact Option.some.inj first
    subst same
    have line : pacer.line = call :: rest := by
      unfold Pacer.line
      rw [idle, waiting]
      exact List.append_nil _
    rw [line] at distinct
    obtain ⟨fresh, others⟩ := List.nodup_cons.mp distinct
    rcases Pacer.enter_line { pacer with waiting := rest } rate call idle with
      ⟨passed, after⟩ | ⟨passed, after⟩
    · refine ⟨by rw [after]; exact others, fun _ other => ?_, fun gone => ?_⟩
      · rw [after, line, List.mem_cons]
        constructor
        · intro member
          exact ⟨fun same => fresh (same ▸ member), .inr member⟩
        · rintro ⟨apart, same | member⟩
          · exact absurd same apart
          · exact member
      · simp [Pacer.hasLeft, passed] at gone
    · have rotated := List.perm_append_singleton call rest
      refine ⟨by rw [after]; exact rotated.nodup_iff.mpr distinct, fun gone => ?_, fun _ other => ?_⟩
      · simp [Pacer.hasLeft, passed] at gone
      · rw [after, line]
        change other ∈ rest ++ [call] ↔ _
        rw [rotated.mem_iff, List.mem_cons]
        tauto
  next => cases moved

/-- The sleeping task leaves the pacer. -/
theorem Pacer.wake_turn (distinct : pacer.line.Nodup)
    (asleep : pacer.sleeper.map PacerSleep.call = some task) (moved : pacer.wake = some next) :
    Pacer.Turn pacer next task := by
  unfold Pacer.wake at moved
  split at moved
  next => cases moved
  next sleep found =>
    split_ifs at moved with late
    cases moved
    have same : sleep.call = task := by rw [found] at asleep; exact Option.some.inj asleep
    subst same
    have line : pacer.line = pacer.waiting ++ [sleep.call] := by
      unfold Pacer.line
      rw [found]
      rfl
    rw [line] at distinct
    obtain ⟨waiting, _, apart⟩ := List.nodup_append.mp distinct
    have after : ({ pacer with tokens := 0, rateUpdated := pacer.now, sleeper := none }.pass sleep.call
        sleep.locked sleep.found).line = pacer.waiting := List.append_nil _
    refine ⟨by rw [after]; exact waiting, fun _ other => ?_, fun gone => ?_⟩
    · rw [after, line, List.mem_append, List.mem_singleton]
      constructor
      · intro member
        exact ⟨apart other member sleep.call (List.mem_singleton.mpr rfl), .inl member⟩
      · rintro ⟨different, member | same⟩
        · exact member
        · exact absurd same different
    · simp [Pacer.hasLeft, Pacer.pass] at gone

end Pacer

section Steps
variable {settings : Settings} {libraries : Libraries} {parsedate : PyStr → Option HttpDate}
  {client : Client} {task : Nat}

namespace Client

/-- A task that takes a turn in the pacer goes on or stands in it. -/
theorem Sound.paced {runner : Option Nat} (sound : client.Sound settings runner) {current : ClientTask}
    (found : client.tasks[task]? = some current) {pacer : Pacer}
    (stood : current.phase = .running ∧ runner = some task ∨ current.phase = .pacing ∧ runner = none)
    (turn : Pacer.Turn client.pacer pacer task) : (client.paced task pacer).Sound settings none := by
  obtain ⟨pageFree, upstreamFree, _, _⟩ := sound.absent found
  have inside : current.phase.inRequest = true := by
    rcases stood with ⟨phase, _⟩ | ⟨phase, _⟩ <;> rw [phase] <;> rfl
  have idle : current.holdsUpstream = false := by
    unfold ClientTask.holdsUpstream
    rcases stood with ⟨phase, _⟩ | ⟨phase, _⟩ <;> rw [phase] <;> rfl
  have page : task ∉ client.pageSem.queued := pageFree (by
    rcases stood with ⟨phase, _⟩ | ⟨phase, _⟩ <;> rw [phase] <;> decide)
  have upstream : task ∉ client.upstreamSem.queued := upstreamFree (by
    rcases stood with ⟨phase, _⟩ | ⟨phase, _⟩ <;> rw [phase] <;> decide)
  unfold Client.paced
  split
  next left =>
    have tasks := @change_tasks { client with pacer := pacer } task current found
      fun current => { current with phase := .running }
    have ready : (({ client with pacer := pacer } : Client).stand task .running).Sound settings
        (some task) := by
      refine sound.replace found tasks (staged_inRequest rfl) ?_ ?_ turn.distinct ?_ ?_ ?_ ?_
      · rw [Client.stand, tasks, count_same _ found (holdsPage_stand inside rfl)]
        exact sound.pages
      · rw [Client.stand, tasks, count_same _ found (by rw [idle]; rfl)]
        exact sound.upstream
      · exact .stay page (by rintro ⟨⟩)
      · exact .stay upstream (by rintro ⟨⟩)
      · exact .leave (turn.left left) (by rintro ⟨⟩)
      · rcases stood with ⟨_, rfl⟩ | ⟨_, rfl⟩
        · exact .join (fun other => by simp [eq_comm]) rfl
        · exact runner_moves.1
    have now : (({ client with pacer := pacer } : Client).stand task .running).tasks[task]? =
        some { current with phase := .running } := by
      obtain ⟨bound, _⟩ := List.getElem?_eq_some_iff.mp found
      rw [Client.stand, tasks, List.getElem?_set_self bound]
    exact ready.acquireUpstream now rfl
  next stays =>
    have tasks := @change_tasks { client with pacer := pacer } task current found
      fun current => { current with phase := .pacing }
    refine sound.replace found tasks (staged_inRequest rfl) ?_ ?_ turn.distinct ?_ ?_ ?_ ?_
    · rw [Client.stand, tasks, count_same _ found (holdsPage_stand inside rfl)]
      exact sound.pages
    · rw [Client.stand, tasks, count_same _ found (by rw [idle]; rfl)]
      exact sound.upstream
    · exact .stay page (by rintro ⟨⟩)
    · exact .stay upstream (by rintro ⟨⟩)
    · exact .join (turn.stays (by simpa using stays)) rfl
    · rcases stood with ⟨_, rfl⟩ | ⟨_, rfl⟩
      · exact runner_moves.2 _ (by rintro ⟨⟩)
      · exact .stay (by simp) (by rintro ⟨⟩)

/-- A running task makes an attempt. -/
theorem Sound.attempt (sound : client.Sound settings (some task)) {current : ClientTask}
    (found : client.tasks[task]? = some current) (runs : current.phase = .running) :
    (client.attempt settings task).Sound settings none :=
  sound.paced found (.inl ⟨runs, rfl⟩) (Pacer.arriveAs_turn _ sound.line
    ((sound.absent found).2.2.1 (by rw [runs]; decide)))

/-- A call that runs ends or gathers without a permit. -/
theorem Sound.leaveCall (sound : client.Sound settings (some task)) {current : ClientTask}
    (found : client.tasks[task]? = some current) (runs : current.phase = .running)
    (call : current.role.isPage = false) {next : ClientTask → ClientTask}
    (role : (next current).role = current.role)
    (phase : (next current).phase = .gathering ∨ (next current).phase = .ended) :
    (client.change task next).Sound settings none := by
  have outside : (next current).phase ≠ .running := by rcases phase with same | same <;> simp [same]
  refine sound.restand found next ⟨?_, fun _ => by rw [role, call]⟩ ?_ ?_ ?_ ?_
    (runner_moves.2 _ outside)
  · rintro (created | waits)
    · rcases phase with same | same <;> simp [created] at same
    · rcases phase with same | same <;> simp [waits] at same
  · rw [runs]
    exact ⟨by decide, by decide, by decide⟩
  · rcases phase with same | same <;> rw [same] <;> exact ⟨by decide, by decide, by decide⟩
  · unfold ClientTask.holdsPage
    rw [role, call, Bool.false_and, Bool.false_and]
  · unfold ClientTask.holdsUpstream
    rcases phase with same | same <;> rw [same, runs] <;> rfl

/-- A page that runs gives back its permit and ends. -/
theorem Sound.endPage (sound : client.Sound settings (some task)) {current : ClientTask}
    (found : client.tasks[task]? = some current) (runs : current.phase = .running)
    (page : current.role.isPage = true) (failed : Bool) :
    (client.endPage task failed).Sound settings none := by
  obtain ⟨pageFree, upstreamFree, pacerFree, _⟩ := sound.absent found
  rw [runs] at pageFree upstreamFree pacerFree
  have holds : current.holdsPage = true := by
    unfold ClientTask.holdsPage
    rw [page, runs]
    rfl
  have idle : current.holdsUpstream = false := by
    unfold ClientTask.holdsUpstream
    rw [runs]
    rfl
  have tasks := @change_tasks { client with pageSem := client.pageSem.release } task current found
    fun current => { current with phase := .ended, failed := failed }
  have lost : ClientTask.holdsPage { current with phase := .ended, failed := failed } = false := by
    unfold ClientTask.holdsPage
    exact Bool.and_false _
  have pages := sound.pages
  rw [count_lose _ found holds lost] at pages
  refine sound.replace found tasks ⟨fun _ => page, by rintro ⟨⟩⟩ ?_ ?_ sound.line ?_ ?_ ?_ ?_
  · rw [Client.endPage, tasks]
    exact pages.release
  · rw [Client.endPage, tasks, count_same _ found (by rw [idle]; rfl)]
    exact sound.upstream
  · have waits := pageFree (by decide)
    intro other
    change other ∈ client.pageSem.release.queued ↔ _
    rw [mem_release]
    exact QueueMoves.stay waits (by rintro ⟨⟩) other
  · exact .stay (upstreamFree (by decide)) (by rintro ⟨⟩)
  · exact .stay (pacerFree (by decide)) (by rintro ⟨⟩)
  · exact runner_moves.2 _ (by rintro ⟨⟩)

theorem phaseOf_append (client : Client) (added : List ClientTask) (phase : ClientPhase)
    (absent : ∀ other ∈ added, other.phase ≠ phase) (other : Nat) :
    ({ client with tasks := client.tasks ++ added } : Client).phaseOf other = some phase ↔
      client.phaseOf other = some phase := by
  unfold phaseOf
  dsimp only
  by_cases bound : other < client.tasks.length
  · rw [List.getElem?_append_left bound]
  · rw [List.getElem?_append_right (not_lt.mp bound), List.getElem?_eq_none (not_lt.mp bound)]
    constructor
    · intro stands
      obtain ⟨current, found, same⟩ := Option.map_eq_some_iff.mp stands
      exact absurd same (absent current (List.mem_of_getElem? found))
    · rintro ⟨⟩

/-- New tasks outside of the queues keep the client sound. -/
theorem Sound.append {runner after : Option Nat} (sound : client.Sound settings runner)
    (added : List ClientTask) (idle : ∀ other ∈ added, other.holdsPage = false ∧
      other.holdsUpstream = false ∧ free other.phase ∧ other.Staged)
    (running : ∀ other, other ∈ after ↔
      ({ client with tasks := client.tasks ++ added } : Client).phaseOf other = some .running) :
    ({ client with tasks := client.tasks ++ added } : Client).Sound settings after := by
  have none (counts : ClientTask → Bool) (counted : ∀ other ∈ added, counts other = false) :
      (client.tasks ++ added).countP counts = client.tasks.countP counts := by
    have zero : added.countP counts = 0 :=
      List.countP_eq_zero.mpr fun other member => by simp [counted other member]
    rw [List.countP_append, zero, Nat.add_zero]
  exact
    { pages := by
        rw [none _ fun other member => (idle other member).1]
        exact sound.pages
      upstream := by
        rw [none _ fun other member => (idle other member).2.1]
        exact sound.upstream
      line := sound.line
      pageQueue := fun other => (sound.pageQueue other).trans
        (phaseOf_append client added _ (fun new member => (idle new member).2.2.1.1) other).symm
      upstreamQueue := fun other => (sound.upstreamQueue other).trans
        (phaseOf_append client added _ (fun new member => (idle new member).2.2.1.2.1) other).symm
      pacing := fun other => (sound.pacing other).trans
        (phaseOf_append client added _ (fun new member => (idle new member).2.2.1.2.2) other).symm
      running := running
      staged := fun other member => by
        rcases List.mem_append.mp member with old | new
        · exact sound.staged other old
        · exact (idle other new).2.2.2 }

/-- A call that runs starts its pages and gathers them. -/
theorem Sound.fanOut (sound : client.Sound settings (some task)) {current : ClientTask}
    (found : client.tasks[task]? = some current) (runs : current.phase = .running)
    (call : current.role.isPage = false) (total : Int) :
    (client.fanOut task total).Sound settings none := by
  have waits : (client.stand task .gathering).Sound settings none :=
    sound.leaveCall found runs call rfl (.inl rfl)
  have created : ∀ other ∈ pageTasks task total, other.phase = .created ∧ other.role.isPage = true := by
    intro other member
    obtain ⟨number, _, rfl⟩ := List.mem_map.mp member
    exact ⟨rfl, rfl⟩
  refine waits.append _ (fun other member => ?_) fun other => (waits.running other).trans
    (phaseOf_append _ _ _ (fun new member => by rw [(created new member).1]; decide) other).symm
  obtain ⟨phase, page⟩ := created other member
  refine ⟨by simp [ClientTask.holdsPage, phase, ClientPhase.inRequest],
    by simp [ClientTask.holdsUpstream, phase], ?_, fun _ => page, fun gathers => by simp [phase] at gathers⟩
  rw [phase]
  exact ⟨by decide, by decide, by decide⟩

/-- A request that ends leaves a sound client. -/
theorem Sound.finish (sound : client.Sound settings (some task)) {current : ClientTask}
    (found : client.tasks[task]? = some current) (runs : current.phase = .running)
    (received : Datetime) (ending : Ending) :
    (client.finish libraries parsedate task current.role received ending).Sound settings none := by
  unfold Client.finish
  split
  next method role =>
    have call : current.role.isPage = false := by rw [role]; rfl
    have ends (failed : Bool) : (client.endCall task failed).Sound settings none :=
      sound.leaveCall found runs call rfl (.inr rfl)
    cases ending with
    | returned response =>
        unfold finishCall
        dsimp only
        split
        next first _ =>
          split
          next total _ => exact sound.fanOut found runs call total
          next => exact ends false
        next => exact ends true
    | unreachable => exact ends false
    | raised => exact ends true
    | asserted => exact ends true
  next parent number total role =>
    have page : current.role.isPage = true := by rw [role]; rfl
    cases ending with
    | returned response => exact sound.endPage found runs page _
    | unreachable => exact sound.endPage found runs page _
    | raised => exact sound.endPage found runs page _
    | asserted => exact sound.endPage found runs page _

/-- A request reaches its first await or ends. -/
theorem Sound.request (sound : client.Sound settings (some task)) {current : ClientTask}
    (found : client.tasks[task]? = some current) (runs : current.phase = .running)
    (received : Datetime) :
    (client.request settings libraries parsedate task current.role received).Sound settings none := by
  unfold Client.request
  split_ifs
  · exact sound.finish found runs received _
  · exact sound.attempt found runs

theorem stand_found {current : ClientTask} (found : client.tasks[task]? = some current)
    (next : ClientTask → ClientTask) :
    (client.change task next).tasks[task]? = some (next current) := by
  obtain ⟨bound, _⟩ := List.getElem?_eq_some_iff.mp found
  rw [change_tasks found, List.getElem?_set_self bound]

/-- A call that arrives reaches its first await or ends. -/
theorem Sound.arrive (sound : client.Sound settings none) (method : PyStr) (received : Datetime) :
    (client.arrive settings libraries parsedate method received).Sound settings none := by
  have idle (phase : ClientPhase) (ready : phase = .running ∨ phase = .ended) :
      ∀ other ∈ [ClientTask.fresh (.call method) phase], other.holdsPage = false ∧
        other.holdsUpstream = false ∧ free other.phase ∧ other.Staged := by
    intro other member
    rw [List.mem_singleton.mp member]
    refine ⟨rfl, ?_, ?_, ?_, fun _ => rfl⟩
    · rcases ready with rfl | rfl <;> rfl
    · change free phase
      rcases ready with rfl | rfl <;> exact ⟨by decide, by decide, by decide⟩
    · rintro (created | waits)
      · rcases ready with rfl | rfl <;> cases created
      · rcases ready with rfl | rfl <;> cases waits
  unfold Client.arrive
  dsimp only
  split_ifs with blocked
  · refine sound.append _ (idle .ended (.inr rfl)) fun other => (sound.running other).trans
      (phaseOf_append _ _ _ (fun new member => ?_) other).symm
    rw [List.mem_singleton.mp member]
    change ClientPhase.ended ≠ .running
    decide
  · have last : (client.tasks ++ [ClientTask.fresh (.call method) .running])[client.tasks.length]? =
        some (ClientTask.fresh (.call method) .running) := by simp
    have ready : ({ client with
        tasks := client.tasks ++ [ClientTask.fresh (.call method) .running] } : Client).Sound settings
          (some client.tasks.length) := by
      refine sound.append _ (idle .running (.inl rfl)) fun other => ?_
      have nobody := sound.running other
      unfold phaseOf at nobody ⊢
      dsimp only
      by_cases bound : other < client.tasks.length
      · rw [List.getElem?_append_left bound, ← nobody]
        have apart : ¬ client.tasks.length = other := Nat.ne_of_gt bound
        simp [apart]
      · by_cases same : other = client.tasks.length
        · subst same
          rw [last]
          simp [ClientTask.fresh]
        · have past : (client.tasks ++ [ClientTask.fresh (.call method) .running])[other]? = none := by
            rw [List.getElem?_eq_none]
            rw [List.length_append, List.length_singleton]
            omega
          rw [past]
          simp [Ne.symm same]
    exact ready.request last rfl received

/-- A task that takes a page permit runs. -/
theorem Sound.takePage (sound : client.Sound settings none) {current : ClientTask}
    (found : client.tasks[task]? = some current) {semaphore : Semaphore Nat}
    (stood : current.phase = .created ∨ current.phase = .pageQueue)
    (fair : Fair settings.pageConcurrency (client.tasks.countP ClientTask.holdsPage + 1) semaphore)
    (leaves : ∀ other, other ∈ semaphore.queued ↔ other ≠ task ∧ other ∈ client.pageSem.queued) :
    (({ client with pageSem := semaphore } : Client).stand task .running).Sound settings
      (some task) := by
  obtain ⟨_, upstreamFree, pacerFree, _⟩ := sound.absent found
  have tasks := @change_tasks { client with pageSem := semaphore } task current found
    fun current => { current with phase := .running }
  have page := (sound.staged current (List.mem_of_getElem? found)).1 stood
  have before : current.holdsPage = false := by
    unfold ClientTask.holdsPage
    rcases stood with phase | phase <;> rw [phase] <;> exact Bool.and_false _
  have after : ClientTask.holdsPage { current with phase := .running } = true := by
    unfold ClientTask.holdsPage
    rw [page]
    rfl
  have idle : current.holdsUpstream = false := by
    unfold ClientTask.holdsUpstream
    rcases stood with phase | phase <;> rw [phase] <;> rfl
  refine sound.replace found tasks (staged_inRequest rfl) ?_ ?_ sound.line ?_ ?_ ?_
    runner_moves.1
  · rw [Client.stand, tasks, count_gain _ found before after]
    exact fair
  · rw [Client.stand, tasks, count_same _ found (by rw [idle]; rfl)]
    exact sound.upstream
  · exact .leave leaves (by rintro ⟨⟩)
  · exact .stay (upstreamFree (by rcases stood with phase | phase <;> rw [phase] <;> decide))
      (by rintro ⟨⟩)
  · exact .stay (pacerFree (by rcases stood with phase | phase <;> rw [phase] <;> decide))
      (by rintro ⟨⟩)

/-- A new page runs or waits for a permit. -/
theorem Sound.beginPage (sound : client.Sound settings none) {current : ClientTask}
    (found : client.tasks[task]? = some current) (created : current.phase = .created)
    (received : Datetime) :
    (client.beginPage settings libraries parsedate task current received).Sound settings none := by
  obtain ⟨pageFree, upstreamFree, pacerFree, _⟩ := sound.absent found
  rw [created] at pageFree upstreamFree pacerFree
  have absent := pageFree (by decide)
  unfold Client.beginPage
  split
  next locked =>
    have tasks := @change_tasks { client with pageSem := client.pageSem.enqueue task } task current found
      fun current => { current with phase := .pageQueue }
    have page := (sound.staged current (List.mem_of_getElem? found)).1 (.inl created)
    refine sound.replace found tasks ⟨fun _ => page, by rintro ⟨⟩⟩ ?_ ?_ sound.line ?_ ?_ ?_ ?_
    · rw [Client.stand, tasks, count_same _ found]
      · exact sound.pages.enqueue locked absent
      · unfold ClientTask.holdsPage
        rw [created]
        rfl
    · rw [Client.stand, tasks, count_same _ found]
      · exact sound.upstream
      · unfold ClientTask.holdsUpstream
        rw [created]
        rfl
    · exact .join (fun other => mem_enqueue) rfl
    · exact .stay (upstreamFree (by decide)) (by rintro ⟨⟩)
    · exact .stay (pacerFree (by decide)) (by rintro ⟨⟩)
    · exact .stay (by simp) (by rintro ⟨⟩)
  next free =>
    have ready := sound.takePage found (.inl created) (sound.pages.take (by simpa using free))
      fun other => ⟨fun member => ⟨fun same => absent (same ▸ member), member⟩, And.right⟩
    exact ready.request (@stand_found { client with pageSem := client.pageSem.take } task current
      found _) rfl received

/-- A granted task sends its request. -/
theorem Sound.sendGranted (sound : client.Sound settings none) {current : ClientTask}
    (found : client.tasks[task]? = some current) (waits : current.phase = .upstreamQueue)
    (given : task ∈ client.upstreamSem.granted) :
    (({ client with upstreamSem := client.upstreamSem.resume task } : Client).send task).Sound
      settings none := by
  obtain ⟨pageFree, _, pacerFree, runnerFree⟩ := sound.absent found
  rw [waits] at pageFree pacerFree
  have inside : current.phase.inRequest = true := by rw [waits]; rfl
  have idle : current.holdsUpstream = false := by
    unfold ClientTask.holdsUpstream
    rw [waits]
    rfl
  have tasks := @change_tasks { client with
      upstreamSem := client.upstreamSem.resume task
      sent := client.sent ++ [Sending.mk task client.now client.breaker.budgetBlockedUntil] } task
    current found fun current => { current with phase := .sending }
  refine sound.replace found tasks (staged_inRequest rfl) ?_ ?_ sound.line ?_ ?_ ?_ ?_
  · refine (congrArg (Fair _ · _) ?_).mpr sound.pages
    exact (congrArg _ tasks).trans (count_same _ found (holdsPage_stand inside rfl))
  · refine (congrArg (Fair _ · _) ?_).mpr (sound.upstream.resume given)
    exact (congrArg _ tasks).trans (count_gain _ found idle rfl)
  · exact .stay (pageFree (by decide)) (by rintro ⟨⟩)
  · exact .leave (fun other => mem_resume sound.upstream given) (by rintro ⟨⟩)
  · exact .stay (pacerFree (by decide)) (by rintro ⟨⟩)
  · exact .stay (by simp) (by rintro ⟨⟩)

/-- A request that completes gives back its permit. -/
theorem Sound.releaseUpstream (sound : client.Sound settings none) {current : ClientTask}
    (found : client.tasks[task]? = some current) (sends : current.phase = .sending) :
    (({ client with upstreamSem := client.upstreamSem.release } : Client).stand task .running).Sound
      settings (some task) := by
  obtain ⟨pageFree, upstreamFree, pacerFree, _⟩ := sound.absent found
  rw [sends] at pageFree upstreamFree pacerFree
  have inside : current.phase.inRequest = true := by rw [sends]; rfl
  have holds : current.holdsUpstream = true := by
    unfold ClientTask.holdsUpstream
    rw [sends]
    rfl
  have tasks := @change_tasks { client with upstreamSem := client.upstreamSem.release } task current
    found fun current => { current with phase := .running }
  have upstream := sound.upstream
  rw [count_lose _ found holds (show ClientTask.holdsUpstream { current with phase := .running } = false
    from rfl)] at upstream
  refine sound.replace found tasks (staged_inRequest rfl) ?_ ?_ sound.line ?_ ?_ ?_
    runner_moves.1
  · rw [Client.stand, tasks, count_same _ found (holdsPage_stand inside rfl)]
    exact sound.pages
  · rw [Client.stand, tasks]
    exact upstream.release
  · exact .stay (pageFree (by decide)) (by rintro ⟨⟩)
  · have waits := upstreamFree (by decide)
    intro other
    change other ∈ client.upstreamSem.release.queued ↔ _
    rw [mem_release]
    exact QueueMoves.stay waits (by rintro ⟨⟩) other
  · exact .stay (pacerFree (by decide)) (by rintro ⟨⟩)

theorem note_sound {runner : Option Nat} (sound : client.Sound settings runner) (answer : Attempt) :
    (client.note settings answer).Sound settings runner := by
  cases answer with
  | answered time response => exact { sound with }
  | unreachable => exact sound
  | raised => exact sound

theorem note_tasks (settings : Settings) (client : Client) (answer : Attempt) :
    (client.note settings answer).tasks = client.tasks := by
  cases answer <;> rfl

/-- A request that completes ends or sleeps. -/
theorem Sound.complete (sound : client.Sound settings none) {current : ClientTask}
    (found : client.tasks[task]? = some current) (sends : current.phase = .sending)
    (received : Datetime) (answer : Attempt) :
    (client.complete settings libraries parsedate task current received answer).Sound settings none := by
  have freed := sound.releaseUpstream found sends
  have noted := note_sound freed answer
  have now : ((({ client with upstreamSem := client.upstreamSem.release } : Client).stand task
      .running).note settings answer).tasks[task]? = some { current with phase := .running } := by
    rw [note_tasks]
    exact @stand_found { client with upstreamSem := client.upstreamSem.release } task current found _
  unfold Client.complete
  dsimp only
  split
  next ending _ => exact noted.finish now rfl received ending
  next delay _ =>
    refine noted.restand now _ (staged_inRequest rfl) ⟨?_, ?_, ?_⟩ ⟨?_, ?_, ?_⟩ rfl rfl
      (runner_moves.2 _ ?_)
    all_goals rintro ⟨⟩

/-- A task that slept makes its next attempt. -/
theorem Sound.retry (sound : client.Sound settings none) {current : ClientTask}
    (found : client.tasks[task]? = some current) (slept : current.phase = .retrying) :
    ((client.stand task .running).attempt settings task).Sound settings none := by
  have inside : current.phase.inRequest = true := by rw [slept]; rfl
  have ready : (client.stand task .running).Sound settings (some task) := by
    refine sound.restand found _ (staged_inRequest rfl) ?_ ⟨?_, ?_, ?_⟩ (holdsPage_stand inside rfl) ?_
      runner_moves.1
    · rw [slept]
      exact ⟨by decide, by decide, by decide⟩
    · rintro ⟨⟩
    · rintro ⟨⟩
    · rintro ⟨⟩
    · unfold ClientTask.holdsUpstream
      rw [slept]
      rfl
  exact ready.attempt (stand_found found _) rfl

/-- A call that has gathered its pages ends. -/
theorem Sound.gather (sound : client.Sound settings none) {current : ClientTask}
    (found : client.tasks[task]? = some current) (gathers : current.phase = .gathering) :
    (client.endCall task false).Sound settings none := by
  refine sound.restand found _ ⟨?_, by rintro ⟨⟩⟩ ?_ ⟨?_, ?_, ?_⟩ ?_ ?_ (.stay (by simp) (by rintro ⟨⟩))
  · rintro (created | waits)
    · cases created
    · cases waits
  · rw [gathers]
    exact ⟨by decide, by decide, by decide⟩
  · rintro ⟨⟩
  · rintro ⟨⟩
  · rintro ⟨⟩
  · unfold ClientTask.holdsPage
    rw [gathers]
    rfl
  · unfold ClientTask.holdsUpstream
    rw [gathers]
    rfl

/-- Every step of a task keeps the client sound. -/
theorem Sound.stepTask (sound : client.Sound settings none) {current : ClientTask}
    (found : client.tasks[task]? = some current) {action : ClientAction} {next : Client}
    (moved : client.stepTask settings libraries parsedate task current action = some next) :
    next.Sound settings none := by
  cases action with
  | tick now => cases moved
  | call method received => cases moved
  | begin other received =>
      unfold Client.stepTask at moved
      dsimp only at moved
      split_ifs at moved with created
      cases moved
      exact sound.beginPage found created received
  | pageTurn other received =>
      unfold Client.stepTask at moved
      dsimp only at moved
      split_ifs at moved with turn
      cases moved
      have ready := sound.takePage found (.inr turn.1) (sound.pages.resume turn.2)
        fun other => mem_resume sound.pages turn.2
      exact ready.request (@stand_found { client with pageSem := client.pageSem.resume task } task
        current found _) rfl received
  | pacerTurn other =>
      unfold Client.stepTask at moved
      dsimp only at moved
      split_ifs at moved with turn
      obtain ⟨pacer, resumed, rfl⟩ := Option.map_eq_some_iff.mp moved
      exact sound.paced found (.inr ⟨turn.1, rfl⟩) (Pacer.resume_turn sound.line turn.2 resumed)
  | pacerWake other =>
      unfold Client.stepTask at moved
      dsimp only at moved
      split_ifs at moved with turn
      obtain ⟨pacer, woken, rfl⟩ := Option.map_eq_some_iff.mp moved
      exact sound.paced found (.inr ⟨turn.1, rfl⟩) (Pacer.wake_turn sound.line turn.2 woken)
  | upstreamTurn other =>
      unfold Client.stepTask at moved
      dsimp only at moved
      split_ifs at moved with turn
      cases moved
      exact sound.sendGranted found turn.1 turn.2
  | complete other received answer =>
      unfold Client.stepTask at moved
      dsimp only at moved
      split_ifs at moved with sends
      cases moved
      exact sound.complete found sends received answer
  | retry other =>
      unfold Client.stepTask at moved
      dsimp only at moved
      split_ifs at moved with slept
      cases moved
      exact sound.retry found slept.1
  | gather other =>
      unfold Client.stepTask at moved
      dsimp only at moved
      split_ifs at moved with waits
      cases moved
      exact sound.gather found waits.1

/-- A step is a tick, a call or the step of a task. -/
theorem step_cases {action : ClientAction} {next : Client}
    (moved : client.step settings libraries parsedate action = some next) :
    (∃ now, action = .tick now ∧ client.now ≤ now ∧
        next = { client with pacer := { client.pacer with now := now } }) ∨
      (∃ method received, action = .call method received ∧
        next = client.arrive settings libraries parsedate method received) ∨
      ∃ task current, action.task = some task ∧ client.tasks[task]? = some current ∧
        client.stepTask settings libraries parsedate task current action = some next := by
  have ofTask {task : Nat} (steps : (client.tasks[task]?.bind fun current =>
      client.stepTask settings libraries parsedate task current action) = some next)
      (own : action.task = some task) :
      ∃ task current, action.task = some task ∧ client.tasks[task]? = some current ∧
        client.stepTask settings libraries parsedate task current action = some next := by
    obtain ⟨current, found, stepped⟩ := Option.bind_eq_some_iff.mp steps
    exact ⟨task, current, own, found, stepped⟩
  cases action with
  | tick now =>
      change (if client.now ≤ now then some { client with pacer := { client.pacer with now := now } }
        else none) = some next at moved
      split_ifs at moved with order
      cases moved
      exact .inl ⟨now, rfl, order, rfl⟩
  | call method received =>
      cases moved
      exact .inr (.inl ⟨method, received, rfl, rfl⟩)
  | begin task received => exact .inr (.inr (ofTask moved rfl))
  | pageTurn task received => exact .inr (.inr (ofTask moved rfl))
  | pacerTurn task => exact .inr (.inr (ofTask moved rfl))
  | pacerWake task => exact .inr (.inr (ofTask moved rfl))
  | upstreamTurn task => exact .inr (.inr (ofTask moved rfl))
  | complete task received answer => exact .inr (.inr (ofTask moved rfl))
  | retry task => exact .inr (.inr (ofTask moved rfl))
  | gather task => exact .inr (.inr (ofTask moved rfl))

theorem create_sound (settings : Settings) (now : ℚ) : (create settings now).Sound settings none where
  pages := fair_create _
  upstream := fair_create _
  line := List.nodup_nil
  pageQueue _ := by simp [create, Semaphore.queued, phaseOf]
  upstreamQueue _ := by simp [create, Semaphore.queued, phaseOf]
  pacing _ := by simp [create, Pacer.create, Pacer.line, phaseOf]
  running _ := by simp [create, phaseOf]
  staged _ member := by cases member

end Client

/-- Every reachable client is sound. -/
theorem client_sound (reached : (clientMachine settings libraries parsedate).Reachable client) :
    client.Sound settings none := by
  apply reached.invariant (Client.Sound settings none)
  · rintro state ⟨now, rfl⟩
    exact Client.create_sound settings now
  · intro state action next sound _ moved
    rcases Client.step_cases moved with ⟨now, _, _, rfl⟩ | ⟨method, received, _, rfl⟩ |
      ⟨task, current, _, found, stepped⟩
    · exact { sound with }
    · exact sound.arrive method received
    · exact sound.stepTask found stepped

end Steps

end EveApiCache
