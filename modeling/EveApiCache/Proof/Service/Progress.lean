import EveApiCache.Proof.Service.Flights

/-!
This file shows that every task of the service comes to its end, whatever the other tasks do.
-/

namespace EveApiCache
open Effects StepMachine

/-- A request to the proxy performs at most so many awaits, and a collector run one more for each
alias version. -/
def Task.awaits (settings : Settings) : Task → Nat
  | .proxy _ => 13
  | .collect _ => settings.collectorWarmAliasVersions.length + 3

section Bounds
variable {A B : Type} {limit : Nat}

theorem within_access {call : Access} {next : call.Reply → Pipeline B}
    (continues : ∀ reply, (next reply).Within limit) : (access call >>= next).Within (limit + 1) :=
  continues

/-- A value that is only returned costs no await. -/
theorem within_return {program : Pipeline A} (bounded : program.Within limit) (value : A → B) :
    (program >>= fun result => .done (value result)).Within limit :=
  bounded.bind fun _ => Program.within_done 0 _

theorem within_settled (leader : Bool) (outcome : Coalesce.Outcome EsiResponse Unit) :
    (settled leader outcome).Within limit := by
  cases outcome with
  | returned response => exact Program.within_done _ _
  | raised | cancelled => exact Program.within_fail _

theorem within_landed (phase : Flight) : (landed phase).Within limit := by
  cases phase with
  | led future outcome => exact within_settled true outcome
  | shared future outcome => exact within_settled false outcome
  | joining | leading | releasing | waiting | abandoned => exact Program.within_fail _

/-- A leader joins, fetches and cleans up, and a waiter joins and waits. -/
theorem coalesce_within (key : PyStr) (call : UpstreamCall) (etag : Option PyStr) :
    (coalesce key call etag).Within 3 := by
  intro phase
  cases phase with
  | leading future => exact fun _ _ => within_landed _
  | waiting future => exact fun _ => within_landed _
  | joining | releasing | led | shared | abandoned => exact Program.within_fail _

variable (libraries : Libraries) (settings : Settings) (prepared : Prepared)

theorem archiveResponse_within (response : EsiResponse) :
    (archiveResponse libraries prepared response).Within 2 := by
  have recorded : (recordResponse libraries prepared response).Within 1 := by
    unfold recordResponse
    split_ifs
    · exact Program.within_done _ _
    · exact fun _ => trivial
  have named (reply : Bool) : (recordNames prepared response reply).Within 1 := by
    unfold recordNames
    cases reply with
    | false => exact Program.within_done _ _
    | true =>
        dsimp only
        split_ifs
        · exact fun _ => trivial
        · exact Program.within_done _ _
  exact recorded.bind named

theorem answered_within (response : EsiResponse) (leader : Bool) :
    (answered libraries settings prepared response leader).Within 3 := by
  unfold answered
  split_ifs
  · refine within_return ?_ _
    cases leader with
    | false => exact Program.within_done _ _
    | true => exact within_access fun _ => archiveResponse_within libraries prepared response
  · refine within_access fun stale => ?_
    cases stale with
    | some body => exact Program.within_done _ _
    | none => exact within_access fun _ => Program.within_done _ _
  · exact Program.within_done _ _
  · refine within_return ?_ _
    unfold cacheNegative
    split_ifs
    · exact fun _ => Program.within_done _ _
    · exact Program.within_done _ _

/-- A 304 costs at most one more coalesced fetch. -/
theorem revalidated_within (stored : Option PyStr) (response : EsiResponse) (leader : Bool)
    (body : Option Bytes) :
    (revalidated libraries settings prepared stored response leader body).Within 6 := by
  cases body with
  | none =>
      exact (coalesce_within _ _ _).bind fun _ => answered_within libraries settings prepared _ _
  | some body =>
      have restored : (restoredTtl prepared response.maxAge).Within 1 := by
        cases response.maxAge with
        | some maxAge => exact Program.within_done _ _
        | none => exact within_access fun _ => Program.within_done _ _
      have rewritten (ttl : Int) :
          (rewrite settings prepared stored response body ttl leader).Within 1 := by
        cases leader with
        | true => exact fun _ => trivial
        | false => exact Program.within_done _ _
      exact (restored.bind fun ttl => within_return (rewritten ttl) _).mono (by decide)

theorem fetched_within (stored : Option PyStr) (response : EsiResponse) (leader : Bool) :
    (fetched libraries settings prepared stored response leader).Within 7 := by
  unfold fetched
  split_ifs
  · exact within_access fun body =>
      revalidated_within libraries settings prepared stored response leader body
  · exact (answered_within libraries settings prepared response leader).mono (by decide)

theorem dispatch_within (request : Request) : (dispatch libraries settings request).Within 13 := by
  unfold dispatch
  cases prepare libraries settings request with
  | error result => exact Program.within_done _ _
  | ok prepared =>
      refine within_access fun cached => ?_
      cases cached with
      | some hit => exact Program.within_done _ _
      | none =>
          refine within_access fun negative => ?_
          cases negative with
          | some error => exact Program.within_done _ _
          | none =>
              refine within_access fun stored => ?_
              exact (coalesce_within _ _ _).bind fun result =>
                fetched_within libraries settings prepared stored result.1 result.2

theorem warmAliases_within (datasource : PyStr) (job : Job) (response : EsiResponse)
    (versions : List PyStr) :
    (warmAliases libraries settings datasource job response versions).Within versions.length := by
  induction versions with
  | nil => trivial
  | cons version rest ih =>
      unfold warmAliases
      split_ifs
      · exact ih.mono (Nat.le_succ _)
      · exact within_access fun _ => ih

theorem fetchAndStore_within (datasource : PyStr) (job : Job) :
    (fetchAndStore libraries settings datasource job).Within
      (settings.collectorWarmAliasVersions.length + 3) := by
  intro response
  change (collected libraries settings datasource job response).Within _
  unfold collected
  split_ifs
  · exact Program.within_done _ _
  · refine within_access fun _ => ?_
    exact (warmAliases_within libraries settings datasource job response _).bind fun _ _ => trivial

theorem launch_within (task : Task) :
    (task.launch libraries settings).Within (task.awaits settings) := by
  cases task with
  | proxy request => exact within_return (dispatch_within libraries settings request) _
  | collect job => exact within_return (fetchAndStore_within libraries settings _ job) _

end Bounds

variable {libraries : Libraries} {settings : Settings} {state : Service} {thread : Nat}

/-- Every task performs a bounded number of awaits, in every interleaving and whatever ESI, the stores
and the other tasks do. -/
theorem service_awaits {start : Service} {schedule : List ServiceAction} {task : Task}
    (initial : ((service libraries settings).machine World.Fresh).initial start)
    (completed : ((service libraries settings).machine World.Fresh).run start schedule = some state)
    (started : .start thread task ∈ schedule) :
    schedule.countP (System.performs thread) ≤ task.awaits settings :=
  System.started_performs_le (launch_within libraries settings) (congrFun initial.2 thread) started
    completed

theorem service_awaits_joined :
    joinedPair.countP (System.performs 1) = 4 ∧
      joinedPair.countP (System.performs 1) ≤
        (Task.proxy (plainRequest (text "/v1/incursions/"))).awaits {} := by
  have checked : ((((service serviceLibraries {}).machine World.Fresh).run emptyService
      joinedPair).map fun _ => ()) = some () := by
    decide +kernel
  obtain ⟨state, completed, _⟩ := Option.map_eq_some_iff.mp checked
  refine ⟨by decide, service_awaits (emptyService_initial serviceLibraries {}) completed ?_⟩
  exact List.mem_cons_of_mem _ (List.mem_cons_self ..)

/-- A step neither cancels a task nor raises. -/
def Circumstance.IsRegular : Circumstance → Prop
  | .proceeds _ _ => True
  | .answers _ => True
  | .raises => False
  | .cancelled => False

/-- A task can take its next step. -/
def Movable (libraries : Libraries) (settings : Settings) (state : Service) (thread : Nat) : Prop :=
  ∃ circumstance next, circumstance.IsRegular ∧
    (service libraries settings).step state (.proceed thread circumstance) = some next

/-- A task waits for the fetch of a leader. -/
def WaitsOn (state : Service) (thread leader : Nat) : Prop :=
  ∃ key future call etag rest fetching,
    state.threads thread = some (.perform (.coalesce key (.waiting future)) rest) ∧
      state.shared.table.futures key future = .pending ∧
        state.threads leader = some (.perform (.lead key future call etag) fetching)

/-- No leader is cancelled inside its fetch. -/
def SparesLeaders (state : Service) (action : ServiceAction) : Prop := ¬Cancels state action

theorem movable_of_perform {await : Await} {rest : await.Reply → Pipeline Result}
    {circumstance : Circumstance} {result : Option await.Reply × World}
    (found : state.threads thread = some (.perform await rest)) (regular : circumstance.IsRegular)
    (performed : state.shared.perform libraries settings circumstance await = some result) :
    Movable libraries settings state thread :=
  ⟨circumstance, _, regular, (service libraries settings).step_perform found performed⟩

/-- A leader always sees an answer of ESI. -/
theorem leader_movable {key : PyStr} {future : Nat} {call : UpstreamCall} {etag : Option PyStr}
    {rest : Flight → Pipeline Result}
    (found : state.threads thread = some (.perform (.lead key future call etag) rest)) :
    Movable libraries settings state thread :=
  @movable_of_perform libraries settings state thread (.lead key future call etag) rest
    (.answers .unreachable) _ found trivial rfl

/-- An orderly program that leads a flight is before its fetch. -/
theorem leads_of_standing {program : Pipeline Result} {key : PyStr} {future : Nat}
    (orderly : Orderly program) (stands : standing program = some (key, .leading future)) :
    ∃ call etag rest, program = .perform (.lead key future call etag) rest := by
  cases program with
  | done | fail => cases stands
  | perform await rest =>
      cases await with
      | access | fetch => cases stands
      | lead other number call etag =>
          cases stands
          exact ⟨call, etag, rest, rfl⟩
      | coalesce other phase =>
          obtain ⟨_, _, rfl⟩ := place_eq_some.mp stands
          exact orderly.1.elim

/-- Every unfinished task can go on, or it waits for the fetch of another task that can. -/
theorem movable_or_waits
    (reached : ((service libraries settings).machine World.Fresh).Guarded SparesLeaders state)
    {await : Await} {rest : await.Reply → Pipeline Result}
    (unfinished : state.threads thread = some (.perform await rest)) :
    Movable libraries settings state thread ∨
      ∃ leader, WaitsOn state thread leader ∧ Movable libraries settings state leader := by
  obtain ⟨orderly, flights, seat, kept, coalesces⟩ :=
    service_guarded_coalesces True (reached.mono fun _ _ spared _ => spared)
  have uncancelled := kept.mono fun _ _ allowed => allowed trivial
  cases await with
  | access call =>
      exact .inl (@movable_of_perform libraries settings state thread (.access call) rest
        (.proceeds ⟨2024, 1, 1, 0, 0, 0, 0⟩ none) _ unfinished trivial rfl)
  | fetch call etag =>
      exact .inl (@movable_of_perform libraries settings state thread (.fetch call etag) rest
        (.answers .unreachable) _ unfinished trivial rfl)
  | lead key future call etag => exact .inl (leader_movable unfinished)
  | coalesce key phase =>
      have proceeds {table : Coalesce.Table PyStr EsiResponse Unit} {next : Flight}
          (advanced : Coalesce.advance state.shared.table key phase .proceed = some (table, next)) :
          Movable libraries settings state thread := by
        refine @movable_of_perform libraries settings state thread (.coalesce key phase) rest
          (.proceeds ⟨2024, 1, 1, 0, 0, 0, 0⟩ none)
          (some next, { state.shared with table := table }) unfinished trivial ?_
        exact congrArg (Option.map _) advanced
      have proper := (orderly thread _ unfinished).1
      cases phase with
      | joining => exact .inl (proceeds rfl)
      | releasing future outcome => exact .inl (proceeds rfl)
      | waiting future =>
          cases pending : state.shared.table.futures key future with
          | resolved outcome =>
              refine .inl (@proceeds state.shared.table (.shared future (.ofResolved outcome)) ?_)
              unfold Coalesce.advance
              dsimp only
              rw [pending]
          | pending =>
              have inside : Inside state thread key (.waiting future) :=
                (inside_iff unfinished).mpr rfl
              obtain ⟨caller, leads⟩ := Coalesce.leading_of_pending uncancelled
                (coalesces.seated thread key _ inside) (by rw [coalesces.table, pending])
              obtain ⟨leader, _, program, running, stands⟩ :=
                (coalesces.taken caller key _ leads).resolve_left nofun
              obtain ⟨call, etag, fetching, rfl⟩ :=
                leads_of_standing (orderly leader _ running) stands
              refine .inr ⟨leader, ?_, leader_movable running⟩
              exact ⟨key, future, call, etag, rest, fetching, unfinished, pending, running⟩
      | leading | led | shared | abandoned => exact proper.elim

theorem spares_of_regular {circumstance : Circumstance} (regular : circumstance.IsRegular)
    (state : Service) (thread : Nat) : SparesLeaders state (.proceed thread circumstance) := by
  rintro ⟨_, _, _, _, _, _, same, _⟩
  cases same
  exact regular

theorem joinedPair_spares (state : Service) :
    ((service serviceLibraries {}).machine World.Fresh).Allowed SparesLeaders state joinedPair := by
  refine allowed_of_forall (fun action member state => ?_) state
  rintro ⟨_, _, _, _, _, _, rfl, _⟩
  simp [joinedPair, proceed] at member

/-- A task has ended with a result or with an exception. -/
def HasEnded (state : Service) (thread : Nat) : Prop :=
  ∃ program, state.threads thread = some program ∧ program.Within 0

/-- These steps perform awaits, and none of them cancels a task or raises. -/
def IsRegular (schedule : List ServiceAction) : Prop :=
  ∀ action ∈ schedule, ∃ thread circumstance, action = .proceed thread circumstance ∧
    circumstance.IsRegular

theorem regular_spares {schedule : List ServiceAction} (regular : IsRegular schedule) :
    ((service libraries settings).machine World.Fresh).Allowed SparesLeaders state schedule := by
  induction schedule generalizing state with
  | nil => trivial
  | cons action rest ih =>
      refine ⟨?_, fun next _ => ih fun other member => ?_⟩
      · obtain ⟨mover, circumstance, rfl, calm⟩ := regular action (List.mem_cons_self ..)
        exact spares_of_regular calm state mover
      · exact regular other (List.mem_cons_of_mem _ member)

/-- A leader that sees an answer resolves its future and disturbs no other task. -/
theorem leader_settles {leader : Nat} {key : PyStr} {future : Nat} {call : UpstreamCall}
    {etag : Option PyStr} {rest : Flight → Pipeline Result}
    (leads : state.threads leader = some (.perform (.lead key future call etag) rest)) :
    ∃ next, (service libraries settings).step state (.proceed leader (.answers .unreachable)) =
        some next ∧ (∀ other, other ≠ leader → next.threads other = state.threads other) ∧
      next.shared.table.futures key future ≠ .pending := by
  refine ⟨_, System.step_perform (service libraries settings) leads rfl, ?_, ?_⟩
  · exact fun other different => Function.update_of_ne different ..
  · simp [System.answer, Coalesce.Table.settle, World.log]

/-- A task goes on after at most one step of another task. -/
theorem goes_on
    (reached : ((service libraries settings).machine World.Fresh).Guarded SparesLeaders state)
    {await : Await} {rest : await.Reply → Pipeline Result}
    (unfinished : state.threads thread = some (.perform await rest)) :
    ∃ schedule middle, IsRegular schedule ∧ schedule.length ≤ 1 ∧
      ((service libraries settings).machine World.Fresh).run state schedule = some middle ∧
        middle.threads thread = some (.perform await rest) ∧
          Movable libraries settings middle thread := by
  rcases movable_or_waits reached unfinished with movable | ⟨leader, waits, _⟩
  · exact ⟨[], state, nofun, Nat.zero_le 1, rfl, unfinished, movable⟩
  · obtain ⟨key, future, call, etag, waking, fetching, found, _, leads⟩ := waits
    obtain ⟨middle, moved, others, resolved⟩ := leader_settles leads
    have different : thread ≠ leader := by
      rintro rfl
      rw [found] at leads
      cases leads
    have same := (others thread different).trans found
    have regular : (Circumstance.answers .unreachable).IsRegular := trivial
    refine ⟨[.proceed leader (.answers .unreachable)], middle, ?_, Nat.le_refl 1, ?_, ?_, ?_⟩
    · intro action member
      exact ⟨leader, _, List.mem_singleton.mp member, regular⟩
    · exact (congrArg (Option.bind · _) moved).trans rfl
    · exact (others thread different).trans unfinished
    · rcases movable_or_waits (reached.step (spares_of_regular regular state leader) moved) same with
        movable | ⟨_, ⟨other, number, _, _, _, _, again, pending, _⟩, _⟩
      · exact movable
      · cases same.symm.trans again
        exact absurd pending resolved

/-- Every unfinished task can be brought to its end by at most two steps for each of its awaits, one
of its own and one of a leader. -/
theorem within_completes {limit : Nat} {program : Pipeline Result} (bounded : program.Within limit)
    (reached : ((service libraries settings).machine World.Fresh).Guarded SparesLeaders state)
    (running : state.threads thread = some program) :
    ∃ schedule final, IsRegular schedule ∧ schedule.length ≤ 2 * limit ∧
      ((service libraries settings).machine World.Fresh).run state schedule = some final ∧
        HasEnded final thread := by
  induction limit generalizing state program with
  | zero => exact ⟨[], state, nofun, Nat.le_refl 0, rfl, program, running, bounded⟩
  | succ more ih =>
      cases program with
      | done value => exact ⟨[], state, nofun, Nat.zero_le _, rfl, _, running, trivial⟩
      | fail => exact ⟨[], state, nofun, Nat.zero_le _, rfl, _, running, trivial⟩
      | perform await rest =>
          obtain ⟨before, middle, calm, short, led, standing, circumstance, next, regular, moved⟩ :=
            goes_on reached running
          have here := reached.run before (regular_spares calm) led
          obtain ⟨program, further, less⟩ := System.proceed_within standing bounded moved
          obtain ⟨after, final, calmAfter, shortAfter, completed, ended⟩ :=
            ih less (here.step (spares_of_regular regular middle thread) moved) further
          refine ⟨before ++ .proceed thread circumstance :: after, final, ?_, ?_, ?_, ended⟩
          · intro action member
            rcases List.mem_append.mp member with first | later
            · exact calm action first
            · rcases List.mem_cons.mp later with rfl | last
              · exact ⟨thread, circumstance, rfl, regular⟩
              · exact calmAfter action last
          · rw [List.length_append, List.length_cons]
            omega
          · rw [Machine.run_append, led]
            exact (congrArg (Option.bind · _) moved).trans completed

/-- In every reachable state in which no leader was cancelled, every task that has started can be
brought to its end by a bounded number of regular steps. -/
theorem service_completes
    (reached : ((service libraries settings).machine World.Fresh).Guarded SparesLeaders state)
    {program : Pipeline Result} (running : state.threads thread = some program) :
    ∃ schedule final, IsRegular schedule ∧
      schedule.length ≤ 2 * (settings.collectorWarmAliasVersions.length + 13) ∧
        ((service libraries settings).machine World.Fresh).run state schedule = some final ∧
          HasEnded final thread := by
  refine within_completes ?_ reached running
  refine System.guarded_within (fun task => ?_) reached thread program running
  cases task with
  | proxy request =>
      exact (launch_within libraries settings (.proxy request)).mono (by simp [Task.awaits])
  | collect job =>
      exact (launch_within libraries settings (.collect job)).mono (by simp [Task.awaits])

theorem service_completes_joined :
    ∃ state : Service, waitsFor state 1 0 = true ∧ ∃ schedule final, IsRegular schedule ∧
      schedule.length ≤ 26 ∧
        ((service serviceLibraries {}).machine World.Fresh).run state schedule = some final ∧
          HasEnded final 1 := by
  have checked : (((service serviceLibraries {}).machine World.Fresh).run emptyService
      joinedPair).any (fun state => waitsFor state 1 0) = true := by
    decide +kernel
  obtain ⟨state, completed, waits⟩ := (Option.any_eq_true _ _).mp checked
  have reached := Machine.Guarded.run (.start (emptyService_initial serviceLibraries {})) joinedPair
    (joinedPair_spares _) completed
  refine ⟨state, waits, ?_⟩
  unfold waitsFor at waits
  split at waits
  · exact service_completes reached ‹_›
  · cases waits

end EveApiCache
