import EveApiCache.Construction.Scheduler
import EveApiCache.Proof.Text

/-!
This file shows when the jobs can take every connection of the pool and wait for another one.
-/

namespace EveApiCache

open StepMachine

/-- The ids of enumerated jobs do not depend on the positions. -/
theorem ids_mapIdx {A : Type} (items : List A) (make : Nat → A → ScheduledJob) (id : A → PyStr)
    (same : ∀ index item, (make index item).id = id item) :
    (items.mapIdx make).map ScheduledJob.id = items.map id := by
  apply List.ext_getElem?
  intro index
  rw [List.getElem?_map, List.getElem?_mapIdx, List.getElem?_map]
  cases items[index]? with
  | none => rfl
  | some item => exact congrArg some (same index item)

theorem createScheduler_ids (settings : Settings) :
    (createScheduler settings).map ScheduledJob.id =
      settings.marketRegionIds.map marketOrdersId ++ [text "market_prices"] ++
        settings.marketRegionIds.map marketHistoryId ++ universeIds := by
  unfold createScheduler
  dsimp only
  rw [List.map_append, List.map_append, List.map_append,
    ids_mapIdx _ _ marketOrdersId fun _ _ => rfl, ids_mapIdx _ _ marketHistoryId fun _ _ => rfl,
    ids_mapIdx _ _ (fun id => id) fun _ _ => rfl, List.map_id', List.map_cons, List.map_nil]

/-- These ids belong to no region. -/
def globalIds : List PyStr := text "market_prices" :: universeIds

/-- Eight letters tell the ids of the groups apart. -/
theorem idHeads : 8 ≤ (text "market_orders_").length ∧ 8 ≤ (text "market_history_").length ∧
    (text "market_orders_").take 8 = text "market_o" ∧
    (text "market_history_").take 8 = text "market_h" ∧ text "market_h" ≠ text "market_o" ∧
    globalIds.Nodup ∧ ∀ id ∈ globalIds, id.take 8 ≠ text "market_o" ∧ id.take 8 ≠ text "market_h" := by
  decide +kernel

theorem marketOrdersId_head (regionId : Int) :
    (marketOrdersId regionId).take 8 = text "market_o" := by
  obtain ⟨long, _, head, _⟩ := idHeads
  rw [marketOrdersId, List.take_append_of_le_length long, head]

theorem marketHistoryId_head (regionId : Int) :
    (marketHistoryId regionId).take 8 = text "market_h" := by
  obtain ⟨_, long, _, head, _⟩ := idHeads
  rw [marketHistoryId, List.take_append_of_le_length long, head]

/-- The job ids are distinct exactly when the regions are. -/
theorem createScheduler_nodup_iff (settings : Settings) :
    ((createScheduler settings).map ScheduledJob.id).Nodup ↔ settings.marketRegionIds.Nodup := by
  have orders : Function.Injective marketOrdersId := fun _ _ same =>
    intStr_injective (List.append_cancel_left same)
  have history : Function.Injective marketHistoryId := fun _ _ same =>
    intStr_injective (List.append_cancel_left same)
  obtain ⟨_, _, _, _, apart, global, heads⟩ := idHeads
  have regroup : ((createScheduler settings).map ScheduledJob.id).Perm
      (settings.marketRegionIds.map marketOrdersId ++
        (settings.marketRegionIds.map marketHistoryId ++ globalIds)) := by
    rw [createScheduler_ids, List.append_assoc, List.append_assoc]
    apply List.Perm.append_left
    change (text "market_prices" :: (_ ++ universeIds)).Perm (_ ++ text "market_prices" :: universeIds)
    exact List.perm_middle.symm
  rw [regroup.nodup_iff, List.nodup_append, List.nodup_append, List.nodup_map_iff orders,
    List.nodup_map_iff history]
  constructor
  · exact fun distinct => distinct.1
  · intro distinct
    refine ⟨distinct, ⟨distinct, global, ?_⟩, ?_⟩
    · intro one regional two shared same
      obtain ⟨regionId, _, rfl⟩ := List.mem_map.mp regional
      exact (heads two shared).2 (same ▸ marketHistoryId_head regionId)
    · intro one regional two shared same
      obtain ⟨regionId, _, rfl⟩ := List.mem_map.mp regional
      have head := marketOrdersId_head regionId
      rcases List.mem_append.mp shared with other | shared
      · obtain ⟨otherId, _, rfl⟩ := List.mem_map.mp other
        rw [same, marketHistoryId_head] at head
        exact absurd head apart
      · exact (heads two shared).1 (same ▸ head)

/-- Two jobs for each region and seven more are started. -/
theorem startedJobs_length (settings : Settings) (distinct : settings.marketRegionIds.Nodup) :
    (startedJobs settings).length = 2 * settings.marketRegionIds.length + 7 := by
  have six : universeIds.length = 6 := rfl
  rw [startedJobs, if_pos ((createScheduler_nodup_iff settings).mpr distinct), createScheduler_ids]
  simp only [List.length_append, List.length_map, List.length_singleton]
  omega

theorem startedJobs_nodup (settings : Settings) : (startedJobs settings).Nodup := by
  unfold startedJobs
  dsimp only
  split
  · assumption
  · exact List.nodup_nil

/-- These jobs hold their lock sessions and wait, and every other job is idle. -/
def parked (ids : List PyStr) : ConnectionState where
  phase id := if id ∈ ids then .waiting else .idle
  requests := 0

/-- Waiting jobs hold one connection each. -/
theorem used_of_waiting (state : ConnectionState) (first rest : List PyStr) (id : PyStr)
    (alone : state.requests = 0) (waits : ∀ other ∈ first, state.phase other = .waiting)
    (holds : (state.phase id).held = 0) (idle : ∀ other ∈ rest, state.phase other = .idle) :
    state.used (first ++ id :: rest) = first.length := by
  have ones : first.map (fun id => (state.phase id).held) = List.replicate first.length 1 := by
    apply List.map_eq_replicate_iff.mpr
    intro other member
    rw [waits other member]
    rfl
  have zeros : rest.map (fun id => (state.phase id).held) = List.replicate rest.length 0 := by
    apply List.map_eq_replicate_iff.mpr
    intro other member
    rw [idle other member]
    rfl
  unfold ConnectionState.used
  rw [List.map_append, List.map_cons, ones, zeros, holds, alone]
  simp

/-- One more job can open its lock session and wait while a connection is left. -/
theorem parked_next (capacity : Nat) (first rest : List PyStr) (id : PyStr)
    (distinct : (first ++ id :: rest).Nodup) (room : first.length < capacity) :
    (⟨fun state => state = parked [], ConnectionState.step (some capacity) (first ++ id :: rest)⟩ :
        Machine ConnectionState ConnectionAction).run (parked first)
      [.fire id, .openLockSession id true, .ask id] = some (parked (first ++ [id])) := by
  rw [List.nodup_append, List.nodup_cons] at distinct
  have fresh : id ∉ first := fun member => distinct.2.2 id member id (by simp) rfl
  have opened : ((parked first).moved id .opening).used (first ++ id :: rest) = first.length := by
    apply used_of_waiting
    · rfl
    · intro other member
      have apart : other ≠ id := fun same => fresh (same ▸ member)
      simp [ConnectionState.moved, parked, apart, member]
    · simp [ConnectionState.moved, JobPhase.held]
    · intro other member
      have apart : other ≠ id := fun same => distinct.2.1.1 (same ▸ member)
      have outside : other ∉ first := fun inside =>
        distinct.2.2 other inside other (List.mem_cons_of_mem _ member) rfl
      simp [ConnectionState.moved, parked, apart, outside]
  have last : ((((parked first).moved id .opening).moved id .working).moved id .waiting) =
      parked (first ++ [id]) := by
    unfold ConnectionState.moved parked
    congr 1
    funext other
    by_cases same : other = id
    · subst same
      simp
    · simp [same]
  simp only [Machine.run_cons, Machine.run_nil, ConnectionState.step]
  rw [if_pos ⟨by simp, by simp [parked, fresh]⟩, Option.bind_some,
    if_pos ⟨by simp [ConnectionState.moved], by simpa [ConnectionState.hasFree, opened] using room⟩,
    Option.bind_some, if_pos (by simp [ConnectionState.moved]), Option.bind_some]
  exact congrArg some last

/-- As many jobs as there are connections can all wait. -/
theorem parked_reachable (settings : Settings) {capacity : Nat}
    (limited : poolCapacity settings = some capacity) (first rest : List PyStr)
    (jobs : startedJobs settings = first ++ rest) (fits : first.length ≤ capacity) :
    (connectionPool settings).Reachable (parked first) := by
  induction first using List.reverseRecOn generalizing rest with
  | nil => exact .start (by simp [connectionPool, parked])
  | append_singleton first id ih =>
      rw [List.length_append, List.length_singleton] at fits
      rw [List.append_assoc] at jobs
      have before := ih (id :: rest) jobs (by omega)
      have distinct := startedJobs_nodup settings
      rw [jobs] at distinct
      refine Machine.Reachable.run before [.fire id, .openLockSession id true, .ask id] ?_
      have moved := parked_next capacity first rest id distinct (by omega)
      simpa only [Machine.run, connectionPool, limited, jobs, List.singleton_append] using moved

theorem stuck_parked (first rest : List PyStr) (distinct : (first ++ rest).Nodup) :
    (parked first).stuck (first ++ rest) = first.length := by
  have inside : first.countP (fun id => (parked first).phase id = .waiting) = first.length := by
    rw [List.countP_eq_length]
    intro id member
    simp [parked, member]
  have outside : rest.countP (fun id => (parked first).phase id = .waiting) = 0 := by
    rw [List.countP_eq_zero]
    intro id member
    have apart : id ∉ first := fun earlier =>
      (List.nodup_append.mp distinct).2.2 id earlier id member rfl
    simp [parked, apart]
  rw [ConnectionState.stuck, List.countP_append, inside, outside, Nat.add_zero]

/-- A pool with no more connections than jobs can deadlock. -/
theorem deadlocked_of_enough (settings : Settings) {capacity : Nat}
    (limited : poolCapacity settings = some capacity) (positive : 0 < capacity)
    (enough : capacity ≤ (startedJobs settings).length) :
    ∃ state, (connectionPool settings).Reachable state ∧ state.Deadlocked settings := by
  have split := (List.take_append_drop capacity (startedJobs settings)).symm
  have count : ((startedJobs settings).take capacity).length = capacity :=
    List.length_take_of_le enough
  have distinct := startedJobs_nodup settings
  rw [split] at distinct
  have stuck := stuck_parked _ _ distinct
  rw [← split, count] at stuck
  exact ⟨_, parked_reachable settings limited _ _ split count.le, capacity, limited, positive, stuck⟩

/-- The pool never deadlocks exactly when it has more connections than there are jobs. -/
theorem neverDeadlocked_iff (settings : Settings) :
    (∀ state, (connectionPool settings).Reachable state → ¬state.Deadlocked settings) ↔
      (settings.marketRegionIds.Nodup → ∀ capacity, poolCapacity settings = some capacity →
        0 < capacity → 2 * settings.marketRegionIds.length + 7 < capacity) := by
  constructor
  · intro never distinct capacity limited positive
    by_contra few
    have enough : capacity ≤ (startedJobs settings).length := by
      rw [startedJobs_length settings distinct]
      omega
    obtain ⟨state, reached, dead⟩ := deadlocked_of_enough settings limited positive enough
    exact never state reached dead
  · rintro enough state _ ⟨capacity, limited, positive, stuck⟩
    have bound : state.stuck (startedJobs settings) ≤ (startedJobs settings).length :=
      List.countP_le_length
    by_cases distinct : settings.marketRegionIds.Nodup
    · have more := enough distinct capacity limited positive
      rw [startedJobs_length settings distinct] at bound
      omega
    · have none : startedJobs settings = [] :=
        if_neg fun ids => distinct ((createScheduler_nodup_iff settings).mp ids)
      rw [none] at bound
      have zero : state.stuck (startedJobs settings) = 0 := by
        rw [none]
        rfl
      omega

/-- Twelve regions can take all thirty connections of the shipped pool. -/
theorem connectionPool_twelveRegions :
    ∃ state, (connectionPool { marketRegionIds := [1, 2, 3, 4, 5, 6, 7, 8, 9, 10, 11, 12] }).Reachable
        state ∧
      state.Deadlocked { marketRegionIds := [1, 2, 3, 4, 5, 6, 7, 8, 9, 10, 11, 12] } := by
  have limited : poolCapacity
      { marketRegionIds := [1, 2, 3, 4, 5, 6, 7, 8, 9, 10, 11, 12] } = some 30 := rfl
  apply deadlocked_of_enough _ limited (by decide)
  rw [startedJobs_length _ (by decide)]
  decide

end EveApiCache
