import EveApiCache.Construction.RegionHistory
import EveApiCache.Library.Gather
import EveApiCache.Proof.Archive.Shared.Backwards

/-!
This file shows that the history of every discovered type is fetched exactly once.
-/

namespace EveApiCache
open FairSemaphore StepMachine

namespace RegionHistory

/-- These are the types whose call of `collect_market_history` has started. -/
def started (run : RegionHistory) : List Int := run.fetching ++ run.ended.map Prod.fst

/-- Every type stands in one place, and a call holds a permit while it fetches. -/
structure Sound (concurrency : Nat) (typeIds : List Int) (run : RegionHistory) : Prop where
  fair : Fair concurrency run.fetching.length run.semaphore
  placed : (run.created ++ (run.semaphore.queued ++ run.started)).Perm typeIds
  called : run.calls.Perm run.started

/-- An element that leaves one list for the head of the next keeps them together. -/
theorem erase_append_cons {typeId : Int} {source : List Int} (member : typeId ∈ source)
    (rest : List Int) : (source.erase typeId ++ typeId :: rest).Perm (source ++ rest) :=
  List.perm_middle.trans ((List.perm_cons_erase member).symm.append_right rest)

theorem enqueue_append (semaphore : Semaphore Int) (typeId : Int) (rest : List Int) :
    ((semaphore.enqueue typeId).queued ++ rest).Perm (typeId :: (semaphore.queued ++ rest)) :=
  semaphore.queued_enqueue typeId |>.append_right rest

/-- A call that enters takes its type from the line of the semaphore. -/
theorem resume_append {semaphore : Semaphore Int} {typeId : Int}
    (given : typeId ∈ semaphore.granted) (rest : List Int) :
    ((semaphore.resume typeId).queued ++ typeId :: rest).Perm (semaphore.queued ++ rest) :=
  List.perm_middle.trans ((semaphore.queued_resume given).append_right rest)

variable {concurrency : Nat} {typeIds : List Int} {run next : RegionHistory}

theorem sound_create (concurrency : Nat) (typeIds : List Int) :
    Sound concurrency typeIds (.create concurrency typeIds) where
  fair := fair_create concurrency
  placed := by simp [create, Semaphore.queued, started]
  called := .refl _

/-- A call in the line of the semaphore has left the list of new calls. -/
theorem Sound.fresh (sound : Sound concurrency typeIds run) (distinct : typeIds.Nodup)
    {typeId : Int} (member : typeId ∈ run.created) : typeId ∉ run.semaphore.queued := by
  intro queued
  have apart := List.nodup_append.mp (sound.placed.nodup_iff.mpr distinct)
  exact apart.2.2 typeId member typeId (List.mem_append_left _ queued) rfl

/-- A call that begins takes a free permit or joins the line. -/
theorem step_begin {typeId : Int} (moved : run.step (.begin typeId) = some next) :
    typeId ∈ run.created ∧
      (run.semaphore.locked = true ∧
          next = { run with
            created := run.created.erase typeId
            semaphore := run.semaphore.enqueue typeId } ∨
        run.semaphore.locked = false ∧
          next = { run with
            created := run.created.erase typeId
            semaphore := run.semaphore.take
            fetching := typeId :: run.fetching
            calls := run.calls ++ [typeId] }) := by
  unfold step at moved
  dsimp only at moved
  split_ifs at moved with member locked
  · exact ⟨member, .inl ⟨locked, (Option.some.inj moved).symm⟩⟩
  · exact ⟨member, .inr ⟨by simpa using locked, (Option.some.inj moved).symm⟩⟩

theorem step_turn {typeId : Int} (moved : run.step (.turn typeId) = some next) :
    typeId ∈ run.semaphore.granted ∧
      next = { run with
        semaphore := run.semaphore.resume typeId
        fetching := typeId :: run.fetching
        calls := run.calls ++ [typeId] } := by
  obtain ⟨given, same⟩ := Option.ite_none_right_eq_some.mp moved
  exact ⟨given, (Option.some.inj same).symm⟩

theorem step_finish {typeId : Int} {outcome : Option Bool}
    (moved : run.step (.finish typeId outcome) = some next) :
    typeId ∈ run.fetching ∧
      next = { run with
        fetching := run.fetching.erase typeId
        semaphore := run.semaphore.release
        ended := run.ended ++ [(typeId, outcome)] } := by
  obtain ⟨member, same⟩ := Option.ite_none_right_eq_some.mp moved
  exact ⟨member, (Option.some.inj same).symm⟩

theorem Sound.begin (sound : Sound concurrency typeIds run) (distinct : typeIds.Nodup)
    {typeId : Int} (moved : run.step (.begin typeId) = some next) :
    Sound concurrency typeIds next := by
  obtain ⟨member, ⟨locked, rfl⟩ | ⟨free, rfl⟩⟩ := step_begin moved
  · refine ⟨sound.fair.enqueue locked (sound.fresh distinct member), ?_, sound.called⟩
    refine .trans ?_ sound.placed
    exact ((enqueue_append _ _ _).append_left _).trans (erase_append_cons member _)
  · refine ⟨sound.fair.take free, ?_, ?_⟩
    · refine .trans ?_ sound.placed
      exact (List.perm_middle.append_left _).trans (erase_append_cons member _)
    · exact (List.perm_append_singleton _ _).trans (sound.called.cons typeId)

theorem Sound.turn (sound : Sound concurrency typeIds run) {typeId : Int}
    (moved : run.step (.turn typeId) = some next) : Sound concurrency typeIds next := by
  obtain ⟨given, rfl⟩ := step_turn moved
  refine ⟨sound.fair.resume given, ?_, ?_⟩
  · exact ((resume_append given _).append_left _).trans sound.placed
  · exact (List.perm_append_singleton _ _).trans (sound.called.cons typeId)

theorem Sound.finish (sound : Sound concurrency typeIds run) {typeId : Int} {outcome : Option Bool}
    (moved : run.step (.finish typeId outcome) = some next) : Sound concurrency typeIds next := by
  obtain ⟨member, rfl⟩ := step_finish moved
  have kept : (run.fetching.erase typeId ++
      (run.ended ++ [(typeId, outcome)]).map Prod.fst).Perm run.started := by
    rw [List.map_append, List.map_singleton]
    exact ((List.perm_append_singleton _ _).append_left _).trans (erase_append_cons member _)
  refine ⟨?_, ?_, sound.called.trans kept.symm⟩
  · have shorter : (run.fetching.erase typeId).length + 1 = run.fetching.length :=
      (List.perm_cons_erase member).length_eq.symm
    have fair := sound.fair
    rw [← shorter] at fair
    exact fair.release
  · exact ((run.semaphore.queued_release.append kept).append_left _).trans sound.placed

theorem Sound.step (sound : Sound concurrency typeIds run) (distinct : typeIds.Nodup)
    {action : RegionHistoryAction} (moved : run.step action = some next) :
    Sound concurrency typeIds next := by
  cases action with
  | begin typeId => exact sound.begin distinct moved
  | turn typeId => exact sound.turn moved
  | finish typeId outcome => exact sound.finish moved

/-- A call begins once, gets at most one turn and ends once. -/
def work (run : RegionHistory) : Nat :=
  3 * run.created.length + 2 * run.semaphore.queued.length + run.fetching.length

/-- Every step leaves less work. -/
theorem work_step {action : RegionHistoryAction} (moved : run.step action = some next) :
    next.work < run.work := by
  unfold work
  cases action with
  | begin typeId =>
      obtain ⟨member, ⟨_, rfl⟩ | ⟨_, rfl⟩⟩ := step_begin moved
      · have fewer := (List.perm_cons_erase member).length_eq
        have more := (run.semaphore.queued_enqueue typeId).length_eq
        rw [List.length_cons] at fewer more
        dsimp only
        omega
      · have fewer := (List.perm_cons_erase member).length_eq
        have same : run.semaphore.take.queued.length = run.semaphore.queued.length := rfl
        rw [List.length_cons] at fewer
        dsimp only
        rw [same, List.length_cons]
        omega
  | turn typeId =>
      obtain ⟨given, rfl⟩ := step_turn moved
      have fewer := (run.semaphore.queued_resume given).length_eq
      rw [List.length_cons] at fewer
      dsimp only
      rw [List.length_cons]
      omega
  | finish typeId outcome =>
      obtain ⟨member, rfl⟩ := step_finish moved
      have fewer := (List.perm_cons_erase member).length_eq
      have same := run.semaphore.queued_release.length_eq
      rw [List.length_cons] at fewer
      dsimp only
      omega

/-- A run is no longer than the work before it. -/
theorem length_le_work {schedule : List RegionHistoryAction}
    (completed : (regionHistoryMachine concurrency typeIds).run run schedule = some next) :
    schedule.length ≤ run.work := by
  induction schedule generalizing run with
  | nil => exact Nat.zero_le _
  | cons action rest ih =>
      obtain ⟨middle, moved, later⟩ := Option.bind_eq_some_iff.mp completed
      have less := work_step moved
      have tail := ih later
      rw [List.length_cons]
      omega

/-- A call that has not ended can take a step, or one that holds a permit can. -/
theorem Sound.canStep (sound : Sound concurrency typeIds run) (positive : 0 < concurrency)
    {typeId : Int} (member : typeId ∈ typeIds) (missing : typeId ∉ run.ended.map Prod.fst) :
    ∃ action next, run.step action = some next := by
  have fetches {other : Int} (fetching : other ∈ run.fetching) :
      ∃ action next, run.step action = some next :=
    ⟨.finish other none, _, if_pos fetching⟩
  rcases List.mem_append.mp (sound.placed.mem_iff.mpr member) with created | later
  · refine ⟨.begin typeId, ?_⟩
    unfold RegionHistory.step
    dsimp only
    rw [if_pos created]
    split_ifs
    · exact ⟨_, rfl⟩
    · exact ⟨_, rfl⟩
  · rcases List.mem_append.mp later with queued | started
    · rcases sound.fair.progress positive (List.ne_nil_of_mem queued) with granted | held
      · obtain ⟨other, given⟩ := List.exists_mem_of_ne_nil _ granted
        exact ⟨.turn other, _, if_pos given⟩
      · obtain ⟨other, fetching⟩ := List.exists_mem_of_length_pos held
        exact fetches fetching
    · rcases List.mem_append.mp started with fetching | ended
      · exact fetches fetching
      · exact absurd ended missing

/-- A type has an outcome exactly when its call has ended. -/
theorem lookup_isSome_iff (ended : List (Int × Option Bool)) (typeId : Int) :
    (ended.lookup typeId).isSome = true ↔ typeId ∈ ended.map Prod.fst := by
  induction ended with
  | nil => simp
  | cons entry rest ih =>
      rw [List.map_cons, List.mem_cons]
      by_cases same : typeId = entry.1
      · rw [same, List.lookup_cons_self]
        simp
      · rw [List.lookup_cons, beq_false_of_ne same]
        exact ih.trans ⟨.inr, fun member => member.resolve_left same⟩

theorem lookup_ended {ended : List (Int × Option Bool)} (distinct : (ended.map Prod.fst).Nodup) :
    (ended.map Prod.fst).map (ended.lookup ·) = ended.map fun entry => some entry.2 := by
  induction ended with
  | nil => rfl
  | cons entry rest ih =>
      rw [List.map_cons, List.nodup_cons] at distinct
      rw [List.map_cons, List.map_cons, List.map_cons, List.lookup_cons_self, ← ih distinct.2]
      refine congrArg _ (List.map_congr_left fun other member => ?_)
      have different : other ≠ entry.1 := fun same => distinct.1 (same ▸ member)
      rw [List.lookup_cons, beq_false_of_ne different]

/-- All calls have ended when each of them has an outcome. -/
theorem Sound.all_ended (sound : Sound concurrency typeIds run) (distinct : typeIds.Nodup)
    (each : ∀ typeId ∈ typeIds, typeId ∈ run.ended.map Prod.fst) :
    (run.ended.map Prod.fst).Perm typeIds ∧ run.started = run.ended.map Prod.fst := by
  have apart := sound.placed.nodup_iff.mpr distinct
  have empty : run.created ++ (run.semaphore.queued ++ run.fetching) = [] := by
    refine List.eq_nil_iff_forall_not_mem.mpr fun typeId member => ?_
    rw [started, ← List.append_assoc, ← List.append_assoc] at apart
    have here : typeId ∈ run.created ++ run.semaphore.queued ++ run.fetching := by
      simpa using member
    have placed : typeId ∈ typeIds := by
      refine sound.placed.mem_iff.mp ?_
      rw [started, ← List.append_assoc, ← List.append_assoc]
      exact List.mem_append_left _ here
    exact (List.nodup_append.mp apart).2.2 typeId here typeId (each typeId placed) rfl
  obtain ⟨created, rest⟩ := List.append_eq_nil_iff.mp empty
  obtain ⟨queued, fetching⟩ := List.append_eq_nil_iff.mp rest
  have only : run.started = run.ended.map Prod.fst := by
    rw [started, fetching, List.nil_append]
  have placed := sound.placed
  rw [created, queued, only] at placed
  exact ⟨placed, only⟩

/-- The calls fetch within the limit and at most once each, they never all wait, and the function
returns how many of them succeeded after each one has fetched. -/
structure Exact (concurrency : Nat) (typeIds : List Int) (run : RegionHistory) : Prop where
  limited : run.fetching.length ≤ concurrency
  once : run.calls.Nodup
  known : ∀ typeId ∈ run.calls, typeId ∈ typeIds
  live : run.successes typeIds = none → ∃ action next, run.step action = some next
  counted : ∀ count, run.successes typeIds = some count → run.calls.Perm typeIds ∧
    count = run.ended.countP fun entry => entry.2 = some true

theorem Sound.exact (sound : Sound concurrency typeIds run) (positive : 0 < concurrency)
    (distinct : typeIds.Nodup) : Exact concurrency typeIds run := by
  have whole : (run.created ++ run.semaphore.queued ++ run.started).Nodup := by
    rw [List.append_assoc]
    exact sound.placed.nodup_iff.mpr distinct
  constructor
  · exact sound.fair.held_le
  · exact sound.called.nodup_iff.mpr (List.nodup_append.mp whole).2.1
  · intro typeId member
    refine sound.placed.mem_iff.mp ?_
    exact List.mem_append_right _ (List.mem_append_right _ (sound.called.mem_iff.mp member))
  · intro unended
    by_contra stuck
    have all : (run.results typeIds).isSome = true := by
      refine (Gather.mapM_isSome_iff _ _).mpr fun typeId member => ?_
      by_contra missing
      exact stuck (sound.canStep positive member fun ended =>
        missing ((lookup_isSome_iff _ _).mpr ended))
    rw [successes, Option.map_eq_none_iff] at unended
    rw [unended] at all
    cases all
  · intro count returned
    obtain ⟨outcomes, gathered, rfl⟩ := Option.map_eq_some_iff.mp returned
    have each (typeId : Int) (member : typeId ∈ typeIds) : typeId ∈ run.ended.map Prod.fst := by
      refine (lookup_isSome_iff _ _).mp ?_
      exact (Gather.mapM_isSome_iff _ _).mp (by rw [results] at gathered; rw [gathered]; rfl)
        typeId member
    obtain ⟨placed, only⟩ := sound.all_ended distinct each
    refine ⟨(sound.called.trans (.of_eq only)).trans placed, ?_⟩
    have listed : (outcomes.map some).Perm ((run.ended.map Prod.snd).map some) := by
      rw [← Gather.map_of_mapM gathered, List.map_map]
      refine (placed.symm.map _).trans (.of_eq ?_)
      exact lookup_ended (placed.nodup_iff.mpr distinct)
    have same := (List.map_perm_map_iff (Option.some_injective _)).mp listed
    rw [same.countP_eq, List.countP_map]
    rfl

end RegionHistory

/-- For every discovery and in every order of their steps the calls of `fetch_one` fetch each type
exactly once and never more at a time than the limit, and all of them end. -/
theorem regionHistory_exact {libraries : Libraries} {database : Database}
    {files : PyStr → Option Bytes} {regionId : Int} {datasource : PyStr}
    {rows : Option (List (Option PyStr))} {discovery : Discovery} {concurrency : Nat}
    {blocked : Bool} {schedule : List RegionHistoryAction} {run : RegionHistory}
    (positive : 0 < concurrency)
    (discovered : discoverTypeIds libraries database files regionId datasource rows = some discovery)
    (completed : (regionHistoryMachine concurrency (historyTypeIds blocked discovery)).run
      (.create concurrency (historyTypeIds blocked discovery)) schedule = some run) :
    run.Exact concurrency (historyTypeIds blocked discovery) ∧
      schedule.length ≤ 3 * (historyTypeIds blocked discovery).length := by
  have distinct : (historyTypeIds blocked discovery).Nodup := by
    obtain ⟨payload, _, discovered⟩ := Option.bind_eq_some_iff.mp discovered
    obtain ⟨latest, _, same⟩ := Option.bind_eq_some_iff.mp discovered
    cases same
    unfold historyTypeIds
    split_ifs
    · exact List.nodup_nil
    · exact List.nodup_dedup _
  have start : (regionHistoryMachine concurrency (historyTypeIds blocked discovery)).Reachable
      (.create concurrency (historyTypeIds blocked discovery)) := .start rfl
  have reached := start.run schedule completed
  have sound : run.Sound concurrency (historyTypeIds blocked discovery) := by
    refine reached.invariant _ ?_ fun state action next sound _ moved => sound.step distinct moved
    rintro state rfl
    exact RegionHistory.sound_create concurrency _
  refine ⟨sound.exact positive distinct, (RegionHistory.length_le_work completed).trans ?_⟩
  simp [RegionHistory.work, RegionHistory.create, Semaphore.queued]

/-- The second type waits for the first one, and its fetch raises. -/
def twoTypesSchedule : List RegionHistoryAction :=
  [.begin 34, .begin 35, .finish 34 (some true), .turn 35, .finish 35 none]

theorem regionHistory_exact_two :
    ∃ run : RegionHistory, run.successes [34, 35] = some 1 ∧ run.calls = [34, 35] ∧
      run.Exact 1 [34, 35] ∧ twoTypesSchedule.length ≤ 6 := by
  have found : (discoverTypeIds emptyListLibraries .empty (fun _ => none) 10000002
      (text "tranquility") (some [some (text "34"), some (text "35")])).map Discovery.typeIds =
        some [34, 35] := by
    decide +kernel
  obtain ⟨discovery, discovered, typeIds⟩ := Option.map_eq_some_iff.mp found
  have same : historyTypeIds false discovery = [34, 35] := typeIds
  have checked : ((regionHistoryMachine 1 [34, 35]).run (.create 1 [34, 35])
      twoTypesSchedule).any (fun run => run.successes [34, 35] = some 1 ∧ run.calls = [34, 35]) =
        true := by
    decide +kernel
  obtain ⟨run, completed, facts⟩ := (Option.any_eq_true _ _).mp checked
  obtain ⟨count, calls⟩ := of_decide_eq_true facts
  rw [← same] at completed
  have exact := @regionHistory_exact _ _ _ _ _ _ _ 1 false _ run (by decide) discovered completed
  rw [same] at exact
  exact ⟨run, count, calls, exact⟩

end EveApiCache
