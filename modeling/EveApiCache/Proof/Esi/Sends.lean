import EveApiCache.Proof.Esi.Pacer
import EveApiCache.Proof.Esi.Permits
import EveApiCache.Proof.Esi.Total

/-!
This file shows when concurrent fetches send their requests.
-/

namespace EveApiCache

open FairSemaphore StepMachine

/-- A pacer lets a call through or not, and its clock stays. -/
structure Pacer.Step (rate : ℚ) (before after : Pacer) : Prop where
  now : after.now = before.now
  passed : after.passed = before.passed ∨
    ∃ passage, after.passed = before.passed ++ [passage] ∧ passage.returned = before.now
  sound : 0 < rate → before.Sound rate → after.Sound rate

section Pacer
variable {rate : ℚ} {pacer next : Pacer}

theorem Pacer.enter_step (pacer : Pacer) (rate : ℚ) (task : Nat) (idle : pacer.sleeper = none) :
    Pacer.Step rate pacer (pacer.enter rate task) := by
  refine ⟨?_, ?_, fun positive sound => sound.enter positive idle task⟩
  · unfold Pacer.enter
    dsimp only
    split <;> rfl
  · unfold Pacer.enter
    dsimp only
    split
    next => exact .inl rfl
    next => exact .inr ⟨_, rfl, rfl⟩

theorem Pacer.arriveAs_step (pacer : Pacer) (rate : ℚ) (task : Nat) :
    Pacer.Step rate pacer (pacer.arriveAs rate task) := by
  refine ⟨?_, ?_, fun positive sound => ?_⟩
  · unfold Pacer.arriveAs Pacer.arrive
    dsimp only
    split_ifs with unlimited alone
    · rfl
    · exact (Pacer.enter_step { pacer with calls := task + 1 } rate task
        (Option.isNone_iff_eq_none.mp alone.1)).now
    · rfl
  · unfold Pacer.arriveAs Pacer.arrive
    dsimp only
    split_ifs with unlimited alone
    · exact .inr ⟨_, rfl, rfl⟩
    · exact (Pacer.enter_step { pacer with calls := task + 1 } rate task
        (Option.isNone_iff_eq_none.mp alone.1)).passed
    · exact .inl rfl
  · have renamed : { pacer with calls := task }.Sound rate := { sound with }
    exact renamed.arrive positive

theorem Pacer.resume_step (moved : pacer.resume rate = some next) : Pacer.Step rate pacer next := by
  have sound := fun positive (sound : pacer.Sound rate) => sound.resume positive moved
  unfold Pacer.resume at moved
  split at moved
  next call rest idle waiting =>
    cases moved
    have step := Pacer.enter_step { pacer with waiting := rest } rate call idle
    exact ⟨step.now, step.passed, sound⟩
  next => cases moved

theorem Pacer.wake_step (moved : pacer.wake = some next) : Pacer.Step rate pacer next := by
  have sound := fun positive (sound : pacer.Sound rate) => sound.wake positive moved
  unfold Pacer.wake at moved
  split at moved
  next => cases moved
  next sleep asleep =>
    split_ifs at moved with late
    cases moved
    exact ⟨rfl, .inr ⟨_, rfl, rfl⟩, sound⟩

end Pacer

/-- A step keeps the clock and the breaker, and a request that it sends has left the pacer in it. -/
structure Client.Advances (rate : ℚ) (before after : Client) : Prop where
  now : after.now = before.now
  breaker : after.breaker = before.breaker
  passed : before.pacer.passed <+: after.pacer.passed
  sent : after.sent = before.sent ∨
    ∃ task passage, after.sent = before.sent ++
        [⟨task, before.now, before.breaker.budgetBlockedUntil⟩] ∧
      after.pacer.passed = before.pacer.passed ++ [passage] ∧ passage.returned = before.now
  sound : 0 < rate → before.pacer.Sound rate → after.pacer.Sound rate

section Steps
variable {settings : Settings} {libraries : Libraries} {parsedate : PyStr → Option HttpDate}
  {client : Client} {task : Nat} {rate : ℚ}

namespace Client

/-- A step that touches neither the clock nor the breaker nor the pacer and sends nothing advances. -/
theorem Advances.still {after : Client} (pacer : after.pacer = client.pacer)
    (breaker : after.breaker = client.breaker) (sent : after.sent = client.sent) :
    client.Advances rate after where
  now := congrArg Pacer.now pacer
  breaker := breaker
  passed := ⟨[], by rw [pacer, List.append_nil]⟩
  sent := .inl sent
  sound _ sound := by
    rw [pacer]
    exact sound

/-- A task with its turn in the pacer sends at once or not at all. -/
theorem paced_advances {pacer : Pacer} (turn : Pacer.Step rate client.pacer pacer) :
    client.Advances rate (client.paced task pacer) := by
  have passed : client.pacer.passed <+: pacer.passed := by
    rcases turn.passed with same | ⟨passage, grown, _⟩
    · exact ⟨[], by rw [same, List.append_nil]⟩
    · rw [grown]
      exact List.prefix_append _ _
  unfold Client.paced
  split
  next left =>
    unfold Client.acquireUpstream
    split
    next => exact ⟨turn.now, rfl, passed, .inl rfl, turn.sound⟩
    next =>
      refine ⟨turn.now, rfl, passed, .inr ?_, turn.sound⟩
      rcases turn.passed with same | ⟨passage, grown, returned⟩
      · simp [Pacer.hasLeft, same] at left
      · refine ⟨task, passage, ?_, grown, returned⟩
        change client.sent ++ [Sending.mk task pacer.now client.breaker.budgetBlockedUntil] = _
        rw [turn.now]
        rfl
  next => exact ⟨turn.now, rfl, passed, .inl rfl, turn.sound⟩

theorem finish_still (client : Client) (task : Nat) (role : ClientRole) (received : Datetime)
    (ending : Ending) :
    let after := client.finish libraries parsedate task role received ending
    after.pacer = client.pacer ∧ after.breaker = client.breaker ∧ after.sent = client.sent := by
  cases role with
  | call method =>
      cases ending with
      | returned response =>
          unfold Client.finish finishCall
          dsimp only
          split
          next =>
            split
            next => exact ⟨rfl, rfl, rfl⟩
            next => exact ⟨rfl, rfl, rfl⟩
          next => exact ⟨rfl, rfl, rfl⟩
      | unreachable => exact ⟨rfl, rfl, rfl⟩
      | raised => exact ⟨rfl, rfl, rfl⟩
      | asserted => exact ⟨rfl, rfl, rfl⟩
  | page parent number total => cases ending <;> exact ⟨rfl, rfl, rfl⟩

/-- A request advances to its first await. -/
theorem request_advances (client : Client) (task : Nat) (role : ClientRole) (received : Datetime) :
    client.Advances settings.esiMaxRequestsPerSecond
      (client.request settings libraries parsedate task role received) := by
  unfold Client.request
  split
  next =>
    obtain ⟨pacer, breaker, sent⟩ := @finish_still libraries parsedate client task role received
      .asserted
    exact .still pacer breaker sent
  next => exact paced_advances (Pacer.arriveAs_step client.pacer _ task)

theorem arrive_advances (client : Client) (method : PyStr) (received : Datetime) :
    client.Advances settings.esiMaxRequestsPerSecond
      (client.arrive settings libraries parsedate method received) := by
  unfold Client.arrive
  dsimp only
  split
  next => exact .still rfl rfl rfl
  next =>
    have advanced := @request_advances settings libraries parsedate { client with
      tasks := client.tasks ++ [ClientTask.fresh (.call method) .running] } client.tasks.length
        (.call method) received
    exact { advanced with }

theorem complete_still (current : ClientTask) (received : Datetime) (answer : Attempt) :
    let after := client.complete settings libraries parsedate task current received answer
    after.pacer = client.pacer ∧ after.sent = client.sent ∧
      after.breaker = (client.note settings answer).breaker := by
  have noted : let after := (({ client with upstreamSem := client.upstreamSem.release } : Client).stand
      task .running).note settings answer
      after.pacer = client.pacer ∧ after.sent = client.sent ∧
        after.breaker = (client.note settings answer).breaker := by
    cases answer <;> exact ⟨rfl, rfl, rfl⟩
  unfold Client.complete
  dsimp only at noted ⊢
  split
  next ending _ =>
    obtain ⟨pacer, breaker, sent⟩ := @finish_still libraries parsedate _ task current.role received
      ending
    exact ⟨pacer.trans noted.1, sent.trans noted.2.1, breaker.trans noted.2.2⟩
  next => exact noted

/-- Every step of a task advances, but for a turn of the semaphore and the end of a request. -/
theorem stepTask_cases {current : ClientTask} {action : ClientAction} {next : Client}
    (moved : client.stepTask settings libraries parsedate task current action = some next) :
    (client.Advances settings.esiMaxRequestsPerSecond next ∧
        (current.phase = .created ∨ current.phase = .pageQueue ∨ current.phase = .pacing ∨
          current.phase = .retrying)) ∨
      (∃ other, action = .upstreamTurn other ∧ current.phase = .upstreamQueue ∧
        next = ({ client with upstreamSem := client.upstreamSem.resume task } : Client).send task) ∨
      (∃ other received answer, action = .complete other received answer ∧ current.phase = .sending ∧
        next = client.complete settings libraries parsedate task current received answer) ∨
      (current.phase = .gathering ∧ next = client.endCall task false) := by
  cases action with
  | tick now => cases moved
  | call method received => cases moved
  | begin other received =>
      unfold Client.stepTask at moved
      dsimp only at moved
      split_ifs at moved with created
      cases moved
      refine .inl ⟨?_, .inl created⟩
      unfold Client.beginPage
      split
      next => exact .still rfl rfl rfl
      next =>
        have advanced := @request_advances settings libraries parsedate
          (({ client with pageSem := client.pageSem.take } : Client).stand task .running) task
            current.role received
        exact { advanced with }
  | pageTurn other received =>
      unfold Client.stepTask at moved
      dsimp only at moved
      split_ifs at moved with turn
      cases moved
      have advanced := @request_advances settings libraries parsedate
        (({ client with pageSem := client.pageSem.resume task } : Client).stand task .running) task
          current.role received
      exact .inl ⟨{ advanced with }, .inr (.inl turn.1)⟩
  | pacerTurn other =>
      unfold Client.stepTask at moved
      dsimp only at moved
      split_ifs at moved with turn
      obtain ⟨pacer, resumed, rfl⟩ := Option.map_eq_some_iff.mp moved
      exact .inl ⟨paced_advances (Pacer.resume_step resumed), .inr (.inr (.inl turn.1))⟩
  | pacerWake other =>
      unfold Client.stepTask at moved
      dsimp only at moved
      split_ifs at moved with turn
      obtain ⟨pacer, woken, rfl⟩ := Option.map_eq_some_iff.mp moved
      exact .inl ⟨paced_advances (Pacer.wake_step woken), .inr (.inr (.inl turn.1))⟩
  | upstreamTurn other =>
      unfold Client.stepTask at moved
      dsimp only at moved
      split_ifs at moved with turn
      cases moved
      exact .inr (.inl ⟨other, rfl, turn.1, rfl⟩)
  | complete other received answer =>
      unfold Client.stepTask at moved
      dsimp only at moved
      split_ifs at moved with sends
      cases moved
      exact .inr (.inr (.inl ⟨other, received, answer, rfl, sends, rfl⟩))
  | retry other =>
      unfold Client.stepTask at moved
      dsimp only at moved
      split_ifs at moved with slept
      cases moved
      have advanced := @paced_advances (client.stand task .running) task
        settings.esiMaxRequestsPerSecond _ (Pacer.arriveAs_step client.pacer _ task)
      exact .inl ⟨{ advanced with }, .inr (.inr (.inr slept.1))⟩
  | gather other =>
      unfold Client.stepTask at moved
      dsimp only at moved
      split_ifs at moved with waits
      cases moved
      exact .inr (.inr (.inr ⟨waits.1, rfl⟩))

end Client

/-- No request is sent after a wait for the upstream semaphore. -/
def UnqueuedSends (_ : Client) (action : ClientAction) : Prop := ∀ task, action ≠ .upstreamTurn task

/-- The requests that were sent left the pacer at the same times. -/
structure Client.Paid (rate : ℚ) (client : Client) : Prop where
  sound : client.pacer.Sound rate
  paid : (client.sent.map Sending.time).Sublist client.pacer.returns

namespace Client

theorem Paid.advance {after : Client} (paid : client.Paid rate) (positive : 0 < rate)
    (advances : client.Advances rate after) : after.Paid rate := by
  refine ⟨advances.sound positive paid.sound, ?_⟩
  obtain ⟨rest, grown⟩ := advances.passed
  rcases advances.sent with same | ⟨sender, passage, sent, passed, returned⟩
  · rw [same, Pacer.returns, ← grown, List.map_append]
    exact paid.paid.trans (List.sublist_append_left _ _)
  · rw [sent, Pacer.returns, passed, List.map_append, List.map_append]
    refine paid.paid.append ?_
    change [client.now].Sublist [passage.returned]
    rw [returned]

theorem Paid.same {after : Client} (paid : client.Paid rate) (pacer : after.pacer = client.pacer)
    (sent : after.sent = client.sent) : after.Paid rate := by
  refine ⟨?_, ?_⟩
  · rw [pacer]
    exact paid.sound
  · rw [pacer, sent]
    exact paid.paid

end Client

/-- While no request waits for a permit, the pacer pays for every request that is sent. -/
theorem client_paid (positive : 0 < settings.esiMaxRequestsPerSecond)
    (reached : (clientMachine settings libraries parsedate).Guarded UnqueuedSends client) :
    client.Paid settings.esiMaxRequestsPerSecond := by
  apply reached.invariant (Client.Paid settings.esiMaxRequestsPerSecond)
  · rintro state ⟨now, rfl⟩
    exact ⟨Pacer.create_sound _ now positive, List.Sublist.refl _⟩
  · intro state action next paid unqueued moved
    rcases Client.step_cases moved with ⟨now, _, order, rfl⟩ | ⟨method, received, _, rfl⟩ |
      ⟨task, current, _, found, stepped⟩
    · exact ⟨paid.sound.tick positive order, paid.paid⟩
    · exact paid.advance positive (Client.arrive_advances state method received)
    · rcases Client.stepTask_cases stepped with ⟨advances, _⟩ | ⟨other, turn, _, _⟩ |
        ⟨_, received, answer, _, _, rfl⟩ | ⟨_, rfl⟩
      · exact paid.advance positive advances
      · exact absurd turn (unqueued other)
      · obtain ⟨pacer, sent, _⟩ := @Client.complete_still settings libraries parsedate state task current
          received answer
        exact paid.same pacer sent
      · exact paid.same rfl rfl

/-- While no request waits for an upstream permit, the requests sent in a window are paid by a full
bucket and the refill of the window. -/
theorem sends_paced (settings : Settings) (libraries : Libraries)
    (parsedate : PyStr → Option HttpDate) (positive : 0 < settings.esiMaxRequestsPerSecond)
    (client : Client)
    (reached : (clientMachine settings libraries parsedate).Guarded UnqueuedSends client)
    (start length : ℚ) (order : 0 ≤ length) :
    ((client.sent.countP fun sending =>
      start ≤ sending.time ∧ sending.time ≤ start + length : Nat) : ℚ) ≤
        max 1 settings.esiMaxRequestsPerSecond + settings.esiMaxRequestsPerSecond * length := by
  have paid := client_paid positive reached
  have bound := paid.sound.pays.windows start (start + length) (le_add_of_nonneg_right order)
  rw [add_sub_cancel_left] at bound
  refine le_trans ?_ bound
  have fewer := paid.paid.countP_le (p := fun time => decide (start ≤ time ∧ time ≤ start + length))
  rw [List.countP_map] at fewer
  exact_mod_cast fewer

end Steps

/-- One permit and one request in a second. -/
def slowClient : Settings :=
  { esiMaxRetries := 0, upstreamConcurrency := 1, esiMaxRequestsPerSecond := 1 }

/-- Two calls pass the pacer, and each of them finds a permit. -/
def pacedCalls : List ClientAction :=
  let date := Datetime.ofSeconds 0 0
  [.call (text "GET") date, .call (text "GET") date, .complete 0 date .unreachable, .tick 1,
    .pacerWake 1]

def ClientAction.queues : ClientAction → Bool
  | .upstreamTurn _ => true
  | _ => false

theorem sends_paced_twice : ∃ client,
    (clientMachine slowClient clientLibraries fun _ => none).Guarded UnqueuedSends client ∧
      client.sent.map Sending.time = [0, 1] ∧ ((client.sent.countP fun sending =>
        0 ≤ sending.time ∧ sending.time ≤ 0 + 1 : Nat) : ℚ) ≤ max 1 1 + 1 * 1 := by
  have completed : ((clientMachine slowClient clientLibraries fun _ => none).runIf
      (fun _ action => !action.queues) (Client.create slowClient 0) pacedCalls).any (fun client =>
        client.sent.map Sending.time = [0, 1]) = true := by
    decide +kernel
  obtain ⟨client, ran, times⟩ := (Option.any_eq_true _ _).mp completed
  have reached :
      (clientMachine slowClient clientLibraries fun _ => none).Guarded UnqueuedSends client := by
    refine Machine.Guarded.runIf (.start ⟨0, rfl⟩) pacedCalls
      (fun action _ state checked task turn => ?_) ran
    subst turn
    cases checked
  exact ⟨client, reached, by simpa using times, sends_paced slowClient clientLibraries (fun _ => none)
    (by decide) client reached 0 1 (by decide)⟩

/-- Three calls pass the pacer while the first request holds the permit. -/
def queuedCalls : List ClientAction :=
  let date := Datetime.ofSeconds 0 0
  [.call (text "GET") date, .call (text "GET") date, .call (text "GET") date, .call (text "GET") date,
    .tick 1, .pacerWake 1, .pacerTurn 2, .tick 2, .pacerWake 2, .pacerTurn 3, .tick 3, .pacerWake 3,
    .tick 10, .complete 0 date .unreachable, .upstreamTurn 1,
    .tick (101 / 10), .complete 1 date .unreachable, .upstreamTurn 2,
    .tick (102 / 10), .complete 2 date .unreachable, .upstreamTurn 3]

/-- Requests that waited behind a slow one are sent three in a fifth of a second. -/
theorem sends_burst : ¬∀ (settings : Settings) (libraries : Libraries)
    (parsedate : PyStr → Option HttpDate), 0 < settings.esiMaxRequestsPerSecond →
    1 ≤ settings.upstreamConcurrency → ∀ client,
      (clientMachine settings libraries parsedate).Reachable client → ∀ start length : ℚ, 0 ≤ length →
        ((client.sent.countP fun sending =>
          start ≤ sending.time ∧ sending.time ≤ start + length : Nat) : ℚ) ≤
            max 1 settings.esiMaxRequestsPerSecond + settings.esiMaxRequestsPerSecond * length := by
  intro paced
  have completed : ((clientMachine slowClient clientLibraries fun _ => none).run
      (Client.create slowClient 0) queuedCalls).any (fun client =>
        (client.sent.countP fun sending => (10 : ℚ) ≤ sending.time ∧ sending.time ≤ 10 + 1 / 5) = 3) =
          true := by
    decide +kernel
  obtain ⟨client, ran, times⟩ := (Option.any_eq_true _ _).mp completed
  have reached : (clientMachine slowClient clientLibraries fun _ => none).Reachable client :=
    Machine.Reachable.run (.start ⟨0, rfl⟩) queuedCalls ran
  have bound := paced slowClient clientLibraries (fun _ => none) (by decide) (by decide) client reached
    10 (1 / 5) (by norm_num)
  rw [of_decide_eq_true times] at bound
  have full : ((3 : Nat) : ℚ) ≤ max 1 1 + 1 * (1 / 5) := bound
  norm_num at full

end EveApiCache
