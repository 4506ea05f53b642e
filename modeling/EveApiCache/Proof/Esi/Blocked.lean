import EveApiCache.Proof.Esi.Sends

/-!
This file shows when the breaker stops the requests of concurrent fetches.
-/

namespace EveApiCache

open FairSemaphore StepMachine

/-- A task in this phase still sends a request without a look at the breaker. -/
def ClientPhase.pending : ClientPhase → Bool
  | .created | .pageQueue | .pacing | .upstreamQueue | .retrying => true
  | _ => false

section Steps
variable (settings : Settings) (parsedate : PyStr → Option HttpDate)

/-- This answer is followed by another attempt or by further pages. -/
def goesOn (current : ClientTask) (received : Datetime) (answer : Attempt) : Bool :=
  match judge settings current.attempt answer with
  | .retry _ => true
  | .finish (.returned response) =>
      match current.role with
      | .call method => (response.received parsedate received).any fun first =>
          (Client.announced method first).isSome
      | .page _ _ _ => false
  | .finish _ => false

/-- While the breaker blocks, a request that completes is the last one of its task, and no other task
still sends. -/
def LastBeforeBlock (client : Client) (action : ClientAction) : Prop :=
  ∀ task received answer current, action = .complete task received answer →
    client.tasks[task]? = some current →
    (client.note settings answer).breaker.blocked client.now = true →
    goesOn settings parsedate current received answer = false ∧
      ∀ waiting ∈ client.tasks, waiting.phase.pending = false

end Steps

section Steps
variable {settings : Settings} {libraries : Libraries} {parsedate : PyStr → Option HttpDate}
  {client : Client} {task : Nat}

namespace Client

/-- Nobody is about to send while the breaker blocks, and nobody has sent while it blocked. -/
structure Silent (client : Client) : Prop where
  waiting : client.breaker.blocked client.now = true → ∀ task phase,
    client.phaseOf task = some phase → phase.pending = false
  sent : ∀ sending ∈ client.sent, sending.blockedUntil ≤ sending.time

/-- The end of a task leaves the other tasks where they stand. -/
theorem ends_phaseOf {before : Client} (tasks : before.tasks = client.tasks) {current : ClientTask}
    (found : client.tasks[task]? = some current) {next : ClientTask → ClientTask}
    (ends : (next current).phase = .ended) :
    ∀ other phase, (before.change task next).phaseOf other = some phase →
      phase = .ended ∨ client.phaseOf other = some phase := by
  have changed : (before.change task next).tasks = client.tasks.set task (next current) := by
    rw [change_tasks (tasks.symm ▸ found), tasks]
  obtain ⟨own, others⟩ := phaseOf_set found changed
  intro other phase stands
  by_cases same : other = task
  · subst same
    rw [own, ends] at stands
    exact .inl (Option.some.inj stands).symm
  · exact .inr (by rw [← others other same, stands])

/-- A request that does not go on ends its task. -/
theorem finish_phaseOf {current : ClientTask} (found : client.tasks[task]? = some current)
    {received : Datetime} {answer : Attempt} {ending : Ending}
    (judged : judge settings current.attempt answer = .finish ending)
    (last : goesOn settings parsedate current received answer = false) :
    ∀ other phase, (client.finish libraries parsedate task current.role received ending).phaseOf other =
      some phase → phase = .ended ∨ client.phaseOf other = some phase := by
  unfold goesOn at last
  rw [judged] at last
  unfold Client.finish
  split
  next method role =>
    cases ending with
    | returned response =>
        dsimp only at last
        rw [role] at last
        dsimp only at last
        unfold finishCall
        dsimp only
        split
        next first received =>
          rw [received, Option.any_some] at last
          split
          next total announces =>
            rw [announces] at last
            cases last
          next => exact ends_phaseOf rfl found rfl
        next => exact ends_phaseOf rfl found rfl
    | unreachable => exact ends_phaseOf rfl found rfl
    | raised => exact ends_phaseOf rfl found rfl
    | asserted => exact ends_phaseOf rfl found rfl
  next =>
    cases ending with
    | returned response => exact @ends_phaseOf client task { client with
        pageSem := client.pageSem.release } rfl current found _ rfl
    | unreachable => exact @ends_phaseOf client task { client with
        pageSem := client.pageSem.release } rfl current found _ rfl
    | raised => exact @ends_phaseOf client task { client with
        pageSem := client.pageSem.release } rfl current found _ rfl
    | asserted => exact @ends_phaseOf client task { client with
        pageSem := client.pageSem.release } rfl current found _ rfl

/-- An answer that does not go on ends its task. -/
theorem complete_phaseOf {current : ClientTask} (found : client.tasks[task]? = some current)
    {received : Datetime} {answer : Attempt}
    (last : goesOn settings parsedate current received answer = false) :
    ∀ other phase, (client.complete settings libraries parsedate task current received answer).phaseOf
      other = some phase → phase = .ended ∨ phase = .running ∨ client.phaseOf other = some phase := by
  have now : ((({ client with upstreamSem := client.upstreamSem.release } : Client).stand task
      .running).note settings answer).tasks =
        client.tasks.set task { current with phase := .running } := by
    rw [note_tasks]
    exact @change_tasks { client with upstreamSem := client.upstreamSem.release } task current found _
  obtain ⟨bound, _⟩ := List.getElem?_eq_some_iff.mp found
  have runs := now ▸ List.getElem?_set_self (a := { current with phase := .running }) bound
  obtain ⟨own, others⟩ := phaseOf_set found now
  unfold Client.complete
  dsimp only
  split
  next ending judged =>
    intro other phase stands
    rcases finish_phaseOf runs judged last other phase stands with ended | before
    · exact .inl ended
    · by_cases same : other = task
      · subst same
        rw [own] at before
        exact .inr (.inl (Option.some.inj before).symm)
      · exact .inr (.inr (by rw [← others other same, before]))
  next delay judged =>
    unfold goesOn at last
    rw [judged] at last
    cases last

/-- A step that advances while the breaker does not block stays silent. -/
theorem Silent.advance {after : Client} {rate : ℚ} (silent : client.Silent)
    (open' : client.breaker.blocked client.now = false) (advances : client.Advances rate after) :
    after.Silent := by
  have until' : client.breaker.budgetBlockedUntil ≤ client.now := by
    unfold Breaker.blocked at open'
    exact not_lt.mp (of_decide_eq_false open')
  refine ⟨fun blocked => ?_, ?_⟩
  · rw [advances.breaker, advances.now, open'] at blocked
    cases blocked
  · rcases advances.sent with same | ⟨sender, passage, sent, _, _⟩
    · rw [same]
      exact silent.sent
    · rw [sent]
      intro sending member
      rcases List.mem_append.mp member with before | last
      · exact silent.sent sending before
      · rw [List.mem_singleton.mp last]
        exact until'

/-- A call that arrives during a block ends at once. -/
theorem Silent.arrive (silent : client.Silent) (method : PyStr) (received : Datetime) :
    (client.arrive settings libraries parsedate method received).Silent := by
  cases blocked : client.breaker.blocked client.now with
  | false => exact silent.advance blocked (arrive_advances client method received)
  | true =>
      unfold Client.arrive
      dsimp only
      rw [if_pos blocked]
      refine ⟨fun _ other phase stands => ?_, silent.sent⟩
      by_cases pending : phase.pending = true
      · have apart : ClientPhase.ended ≠ phase := by
          rintro rfl
          cases pending
        have old := (phaseOf_append client [ClientTask.fresh (.call method) .ended] phase
          (fun new member => by rw [List.mem_singleton.mp member]; exact apart) other).mp stands
        exact silent.waiting blocked other phase old
      · simpa using pending

/-- A task that still sends does not stand while the breaker blocks. -/
theorem Silent.unblocked (silent : client.Silent) {current : ClientTask}
    (found : client.tasks[task]? = some current) (pending : current.phase.pending = true) :
    client.breaker.blocked client.now = false := by
  cases blocked : client.breaker.blocked client.now with
  | false => rfl
  | true =>
      have quiet := silent.waiting blocked task current.phase (by unfold phaseOf; rw [found]; rfl)
      rw [pending] at quiet
      cases quiet

/-- Every allowed step of a task stays silent. -/
theorem Silent.stepTask (silent : client.Silent) {current : ClientTask}
    (found : client.tasks[task]? = some current) {action : ClientAction} {next : Client}
    (own : action.task = some task) (last : LastBeforeBlock settings parsedate client action)
    (moved : client.stepTask settings libraries parsedate task current action = some next) :
    next.Silent := by
  rcases stepTask_cases moved with ⟨advances, phase⟩ | ⟨other, turn, waits, rfl⟩ |
    ⟨other, received, answer, completes, sends, rfl⟩ | ⟨gathers, rfl⟩
  · have pending : current.phase.pending = true := by
      rcases phase with same | same | same | same <;> rw [same] <;> rfl
    exact silent.advance (silent.unblocked found pending) advances
  · have free := silent.unblocked found (by rw [waits]; rfl)
    refine ⟨fun blocked => ?_, fun sending member => ?_⟩
    · rw [show client.breaker.blocked client.now = true from blocked] at free
      cases free
    · rcases List.mem_append.mp member with before | new
      · exact silent.sent sending before
      · rw [List.mem_singleton.mp new]
        unfold Breaker.blocked at free
        exact not_lt.mp (of_decide_eq_false free)
  · subst completes
    obtain rfl : other = task := Option.some.inj own
    obtain ⟨pacer, sent, breaker⟩ := @complete_still settings libraries parsedate client other current
      received answer
    refine ⟨fun blocked => ?_, fun sending member => silent.sent sending (sent ▸ member)⟩
    have now : (client.complete settings libraries parsedate other current received answer).now =
        client.now := congrArg Pacer.now pacer
    rw [breaker, now] at blocked
    obtain ⟨ends, quiet⟩ := last other received answer current rfl found blocked
    intro index phase stands
    rcases complete_phaseOf found ends index phase stands with rfl | rfl | before
    · rfl
    · rfl
    · obtain ⟨waiting, known, same⟩ := Option.map_eq_some_iff.mp before
      rw [← same]
      exact quiet waiting (List.mem_of_getElem? known)
  · refine ⟨fun blocked index phase stands => ?_, silent.sent⟩
    rcases @ends_phaseOf client task client rfl current found _ rfl index phase stands with rfl | before
    · rfl
    · exact silent.waiting blocked index phase before

end Client

/-- While every request that completes during a block is the last one of the client, no request is sent
during a block. -/
theorem sends_unblocked (settings : Settings) (libraries : Libraries)
    (parsedate : PyStr → Option HttpDate) (client : Client)
    (reached : (clientMachine settings libraries parsedate).Guarded
      (LastBeforeBlock settings parsedate) client) :
    ∀ sending ∈ client.sent, sending.blockedUntil ≤ sending.time := by
  have silent : client.Silent := by
    apply reached.invariant Client.Silent
    · rintro state ⟨now, rfl⟩
      exact ⟨fun _ other phase stands => (by simp [Client.create, Client.phaseOf] at stands),
        fun sending member => (by cases member)⟩
    · intro state action next silent last moved
      rcases Client.step_cases moved with ⟨now, _, order, rfl⟩ | ⟨method, received, _, rfl⟩ |
        ⟨task, current, own, found, stepped⟩
      · refine ⟨fun blocked => silent.waiting ?_, silent.sent⟩
        unfold Breaker.blocked at blocked ⊢
        exact decide_eq_true (order.trans_lt (of_decide_eq_true blocked))
      · exact silent.arrive method received
      · exact silent.stepTask found own last stepped
  exact silent.sent

end Steps

/-- This check allows the last requests of a client only. -/
def lastChecked (client : Client) : ClientAction → Bool
  | .complete _ received answer => client.tasks.all fun task =>
      !task.phase.pending && !goesOn slowClient (fun _ => none) task received answer
  | _ => true

theorem lastChecked_sound (action : ClientAction) (client : Client)
    (checked : lastChecked client action = true) :
    LastBeforeBlock slowClient (fun _ => none) client action := by
  rintro task received answer current rfl found _
  unfold lastChecked at checked
  rw [List.all_eq_true] at checked
  simp only [Bool.and_eq_true, Bool.not_eq_true'] at checked
  exact ⟨(checked current (List.mem_of_getElem? found)).2,
    fun waiting member => (checked waiting member).1⟩

def limitedResponse : RawResponse where
  status := 429
  content := []
  headers name := if name = text "retry-after" then some (text "60") else none

/-- The second call finds the block, and the third one comes after it. -/
def limitedCalls : List ClientAction :=
  let date := Datetime.ofSeconds 0 0
  [.call (text "GET") date, .complete 0 date (.answered 0 limitedResponse), .tick 30,
    .call (text "GET") date, .tick 61, .call (text "GET") date]

theorem sends_unblocked_limited : ∃ client,
    (clientMachine slowClient clientLibraries fun _ => none).Guarded
      (LastBeforeBlock slowClient fun _ => none) client ∧
    client.sent = [⟨0, 0, 0⟩, ⟨2, 61, 60⟩] ∧
      ∀ sending ∈ client.sent, sending.blockedUntil ≤ sending.time := by
  have completed : ((clientMachine slowClient clientLibraries fun _ => none).runIf lastChecked
      (Client.create slowClient 0) limitedCalls).any (fun client =>
        client.sent = [⟨0, 0, 0⟩, ⟨2, 61, 60⟩]) = true := by
    decide +kernel
  obtain ⟨client, ran, sent⟩ := (Option.any_eq_true _ _).mp completed
  have reached : (clientMachine slowClient clientLibraries fun _ => none).Guarded
      (LastBeforeBlock slowClient fun _ => none) client :=
    Machine.Guarded.runIf (.start ⟨0, rfl⟩) limitedCalls
      (fun action _ state => lastChecked_sound action state) ran
  exact ⟨client, reached, by simpa using sent,
    sends_unblocked slowClient clientLibraries (fun _ => none) client reached⟩

/-- A first page with two pages leaves five errors for the next minute. -/
def trippingPage : RawResponse where
  status := 200
  content := bytes "[]"
  headers name :=
    if name = text "x-pages" then some (text "2")
    else if name = text "x-esi-error-limit-remain" then some (text "5")
    else if name = text "x-esi-error-limit-reset" then some (text "60")
    else none

/-- The second page is sent although the first one has tripped the breaker. -/
theorem page_sent_blocked : ¬∀ (settings : Settings) (libraries : Libraries)
    (parsedate : PyStr → Option HttpDate) (client : Client),
      (clientMachine settings libraries parsedate).Reachable client →
        ∀ sending ∈ client.sent, sending.blockedUntil ≤ sending.time := by
  intro unblocked
  have completed : ((clientMachine {} clientLibraries fun _ => none).run (Client.create {} 0)
      [.call (text "GET") (.ofSeconds 0 0),
        .complete 0 (.ofSeconds 0 0) (.answered 0 trippingPage), .begin 1 (.ofSeconds 0 0)]).any
          (fun client => client.sent = [⟨0, 0, 0⟩, ⟨1, 0, 60⟩]) = true := by
    decide +kernel
  obtain ⟨client, ran, sent⟩ := (Option.any_eq_true _ _).mp completed
  have reached : (clientMachine {} clientLibraries fun _ => none).Reachable client :=
    Machine.Reachable.run (.start ⟨0, rfl⟩) _ ran
  have early := unblocked {} clientLibraries (fun _ => none) client reached ⟨1, 0, 60⟩ (by
    rw [of_decide_eq_true sent]
    simp)
  exact absurd early (by norm_num)

end EveApiCache
