import EveApiCache.Construction.Scheduler
import Mathlib.Tactic.Linarith
import Mathlib.Tactic.FieldSimp
import Mathlib.Tactic.Positivity
import Mathlib.Tactic.NormNum

/-!
This file shows when every job first runs within its own interval.
-/

namespace EveApiCache

/-- The jobs of a group have one interval and first run one step apart. -/
structure Staggered (start step : ℚ) (interval : Int) (jobs : List ScheduledJob) : Prop where
  firstRun : ∀ index (inside : index < jobs.length), jobs[index].firstRun = start + index * step
  seconds : ∀ job ∈ jobs, job.seconds = interval
  jitter : ∀ job ∈ jobs, job.jitter = jitterSeconds

/-- A job first runs after its jitter and before its interval ends. -/
def ScheduledJob.RunsWithin (job : ScheduledJob) : Prop :=
  (job.jitter : ℚ) < job.firstRun ∧ job.firstRun < job.seconds

namespace Staggered

theorem mapIdx {A : Type} (start step : ℚ) (interval : Int) (items : List A) (id : A → PyStr) :
    Staggered start step interval (items.mapIdx fun index item =>
      ⟨id item, interval, start + index * step, jitterSeconds⟩) where
  firstRun index inside := by rw [List.getElem_mapIdx]
  seconds job member := by
    obtain ⟨index, inside, rfl⟩ := List.mem_mapIdx.mp member
    rfl
  jitter job member := by
    obtain ⟨index, inside, rfl⟩ := List.mem_mapIdx.mp member
    rfl

variable {start step : ℚ} {interval : Int} {jobs : List ScheduledJob}

/-- The first runs of a group are distinct. -/
theorem distinct (group : Staggered start step interval jobs) (positive : 0 < step) :
    (jobs.map ScheduledJob.firstRun).Nodup := by
  apply List.nodup_iff_injective_getElem.mpr
  intro one two same
  have oneInside : one.val < jobs.length := by simpa using one.isLt
  have twoInside : two.val < jobs.length := by simpa using two.isLt
  simp only [List.getElem_map] at same
  rw [group.firstRun one.val oneInside, group.firstRun two.val twoInside] at same
  have scaled := mul_right_cancel₀ positive.ne' (add_left_cancel same)
  exact Fin.ext (by exact_mod_cast scaled)

/-- A group runs within its interval exactly when its last job does. -/
theorem within_iff (group : Staggered start step interval jobs) (nonneg : 0 ≤ step)
    (late : (jitterSeconds : ℚ) < start) :
    (∀ job ∈ jobs, job.RunsWithin) ↔
      jobs = [] ∨ start + ((jobs.length : ℚ) - 1) * step < interval := by
  constructor
  · intro within
    rcases Nat.eq_zero_or_pos jobs.length with empty | filled
    · exact .inl (List.length_eq_zero_iff.mp empty)
    · right
      have inside : jobs.length - 1 < jobs.length := by omega
      have last := (within jobs[jobs.length - 1] (List.getElem_mem inside)).2
      rw [group.firstRun _ inside, group.seconds _ (List.getElem_mem inside)] at last
      rwa [Nat.cast_pred filled] at last
  · intro bound job member
    obtain ⟨index, inside, rfl⟩ := List.mem_iff_getElem.mp member
    unfold ScheduledJob.RunsWithin
    rw [group.firstRun index inside, group.seconds _ member, group.jitter _ member]
    have before : (index : ℚ) ≤ (jobs.length : ℚ) - 1 := by
      rw [le_sub_iff_add_le]
      exact_mod_cast inside
    rcases bound with empty | last
    · rw [empty] at inside
      exact absurd inside (Nat.not_lt_zero _)
    · have scaled := mul_le_mul_of_nonneg_right before nonneg
      have positive := mul_nonneg (Nat.cast_nonneg (α := ℚ) index) nonneg
      constructor
      · linarith
      · linarith

end Staggered

section Groups
variable (settings : Settings)

/-- This is `orders_step`. -/
def ordersStep : ℚ := settings.pollMarketOrdersSeconds / max settings.marketRegionIds.length 1

def orderJobs : List ScheduledJob :=
  settings.marketRegionIds.mapIdx fun index regionId =>
    ⟨marketOrdersId regionId, settings.pollMarketOrdersSeconds,
      startupDelaySeconds + index * ordersStep settings, jitterSeconds⟩

def priceJob : ScheduledJob :=
  ⟨text "market_prices", settings.pollMarketPricesSeconds, pricesStartSeconds, jitterSeconds⟩

def historyJobs : List ScheduledJob :=
  settings.marketRegionIds.mapIdx fun index regionId =>
    ⟨marketHistoryId regionId, settings.pollMarketHistorySeconds,
      historyStartSeconds + index * historyStaggerSeconds, jitterSeconds⟩

def universeJobs : List ScheduledJob :=
  universeIds.mapIdx fun index id =>
    ⟨id, settings.pollUniverseSeconds,
      universeStartSeconds + index * universeStaggerSeconds, jitterSeconds⟩

/-- The scheduler registers three groups and the job of the prices. -/
theorem createScheduler_groups : createScheduler settings =
    orderJobs settings ++ [priceJob settings] ++ historyJobs settings ++ universeJobs settings := rfl

/-- No poll interval is shorter than the shipped one. -/
structure LongIntervals : Prop where
  longOrders : ({} : Settings).pollMarketOrdersSeconds ≤ settings.pollMarketOrdersSeconds
  longPrices : ({} : Settings).pollMarketPricesSeconds ≤ settings.pollMarketPricesSeconds
  longHistory : ({} : Settings).pollMarketHistorySeconds ≤ settings.pollMarketHistorySeconds
  longUniverse : ({} : Settings).pollUniverseSeconds ≤ settings.pollUniverseSeconds

/-- Every job first runs after its jitter and within its interval, and no two jobs of a group first
run together. -/
structure RunsWithinIntervals : Prop where
  within : ∀ job ∈ createScheduler settings, job.RunsWithin
  ordersApart : ((orderJobs settings).map ScheduledJob.firstRun).Nodup
  historyApart : ((historyJobs settings).map ScheduledJob.firstRun).Nodup
  universeApart : ((universeJobs settings).map ScheduledJob.firstRun).Nodup

variable {settings}

theorem ordersStep_pos (long : LongIntervals settings) : 0 < ordersStep settings := by
  have interval : (0 : ℚ) < settings.pollMarketOrdersSeconds := by
    have positive : (0 : Int) < settings.pollMarketOrdersSeconds :=
      lt_of_lt_of_le (by decide) long.longOrders
    exact_mod_cast positive
  have regions : (0 : ℚ) < (max settings.marketRegionIds.length 1 : Nat) := by
    exact_mod_cast lt_max_of_lt_right Nat.one_pos
  exact div_pos interval regions

/-- The orders of the last region start in time exactly when the interval has more than 15 seconds
for each region. -/
theorem orderJobs_within (long : LongIntervals settings) :
    (∀ job ∈ orderJobs settings, job.RunsWithin) ↔ settings.marketRegionIds = [] ∨
      15 * (settings.marketRegionIds.length : Int) < settings.pollMarketOrdersSeconds := by
  have group : Staggered startupDelaySeconds (ordersStep settings) settings.pollMarketOrdersSeconds
      (orderJobs settings) := .mapIdx _ _ _ _ marketOrdersId
  rw [group.within_iff (ordersStep_pos long).le (by decide +kernel)]
  unfold orderJobs
  rw [List.mapIdx_eq_nil_iff, List.length_mapIdx]
  apply or_congr_right'
  intro filled
  have positive : 0 < settings.marketRegionIds.length := List.length_pos_iff.mpr filled
  have count : (0 : ℚ) < settings.marketRegionIds.length := by exact_mod_cast positive
  have step : ordersStep settings =
      settings.pollMarketOrdersSeconds / settings.marketRegionIds.length := by
    rw [ordersStep, Nat.max_eq_left positive]
  have apart : startupDelaySeconds + ((settings.marketRegionIds.length : ℚ) - 1) *
      ordersStep settings = startupDelaySeconds + settings.pollMarketOrdersSeconds -
        settings.pollMarketOrdersSeconds / settings.marketRegionIds.length := by
    rw [step, sub_mul, mul_div_cancel₀ _ count.ne', one_mul, add_sub_assoc]
  have scaled : startupDelaySeconds <
      settings.pollMarketOrdersSeconds / settings.marketRegionIds.length ↔
        15 * (settings.marketRegionIds.length : Int) < settings.pollMarketOrdersSeconds := by
    rw [lt_div_iff₀ count, startupDelaySeconds]
    exact_mod_cast Iff.rfl
  rw [apart, ← scaled]
  constructor
  · intro last
    linarith
  · intro last
    linarith

theorem historyJobs_within : (∀ job ∈ historyJobs settings, job.RunsWithin) ↔
    settings.marketRegionIds = [] ∨
      600 * (settings.marketRegionIds.length : Int) < settings.pollMarketHistorySeconds + 480 := by
  have group : Staggered historyStartSeconds historyStaggerSeconds
      settings.pollMarketHistorySeconds (historyJobs settings) := .mapIdx _ _ _ _ marketHistoryId
  rw [group.within_iff (by decide +kernel) (by decide +kernel)]
  unfold historyJobs
  rw [List.mapIdx_eq_nil_iff, List.length_mapIdx]
  apply or_congr_right
  have cast : 600 * (settings.marketRegionIds.length : Int) <
      settings.pollMarketHistorySeconds + 480 ↔ 600 * (settings.marketRegionIds.length : ℚ) <
        settings.pollMarketHistorySeconds + 480 := by
    exact_mod_cast Iff.rfl
  rw [cast, historyStartSeconds, historyStaggerSeconds]
  constructor
  · intro last
    linarith
  · intro last
    linarith

theorem universeJobs_within (long : LongIntervals settings) :
    ∀ job ∈ universeJobs settings, job.RunsWithin := by
  have group : Staggered universeStartSeconds universeStaggerSeconds settings.pollUniverseSeconds
      (universeJobs settings) := .mapIdx _ _ _ _ fun id => id
  apply (group.within_iff (by decide +kernel) (by decide +kernel)).mpr
  right
  have interval : (3600 : ℚ) ≤ settings.pollUniverseSeconds := by exact_mod_cast long.longUniverse
  have count : (universeJobs settings).length = 6 := List.length_mapIdx
  rw [count, universeStartSeconds, universeStaggerSeconds]
  refine lt_of_lt_of_le ?_ interval
  norm_num

theorem priceJob_within (long : LongIntervals settings) : (priceJob settings).RunsWithin := by
  have interval : (3600 : ℚ) ≤ settings.pollMarketPricesSeconds := by
    exact_mod_cast long.longPrices
  have inside : (jitterSeconds : ℚ) < pricesStartSeconds ∧ pricesStartSeconds < 3600 := by
    decide +kernel
  exact ⟨inside.1, inside.2.trans_le interval⟩

/-- Every job first runs within its interval exactly when the intervals of the orders and of the
history are long enough for the number of regions. -/
theorem createScheduler_within_iff (long : LongIntervals settings) :
    RunsWithinIntervals settings ↔ settings.marketRegionIds = [] ∨
      15 * (settings.marketRegionIds.length : Int) < settings.pollMarketOrdersSeconds ∧
        600 * (settings.marketRegionIds.length : Int) < settings.pollMarketHistorySeconds + 480 := by
  rw [or_and_left, ← orderJobs_within long, ← historyJobs_within]
  constructor
  · intro runs
    have within := runs.within
    rw [createScheduler_groups] at within
    exact ⟨fun job member => within job (by simp [member]),
      fun job member => within job (by simp [member])⟩
  · rintro ⟨orders, history⟩
    refine ⟨?_, ?_, ?_, ?_⟩
    · intro job member
      rw [createScheduler_groups] at member
      simp only [List.mem_append, List.mem_singleton] at member
      rcases member with ((order | rfl) | daily) | global
      · exact orders job order
      · exact priceJob_within long
      · exact history job daily
      · exact universeJobs_within long job global
    · exact (Staggered.mapIdx _ _ _ _ marketOrdersId).distinct (ordersStep_pos long)
    · exact (Staggered.mapIdx _ _ _ _ marketHistoryId).distinct (by decide +kernel)
    · exact (Staggered.mapIdx _ _ _ universeIds fun id => id).distinct (by decide +kernel)

end Groups

theorem longIntervals_of_regions (regions : List Int) :
    LongIntervals { marketRegionIds := regions } :=
  ⟨le_rfl, le_rfl, le_rfl, le_rfl⟩

/-- The five shipped regions run in time. -/
theorem createScheduler_within_iff_shipped : RunsWithinIntervals {} :=
  (createScheduler_within_iff (longIntervals_of_regions _)).mpr (.inr ⟨by decide, by decide⟩)

/-- These are twenty regions. -/
def twentyRegions : List Int := (List.range 20).map fun (index : Nat) => 10000001 + index

/-- The orders of the twentieth region first run a full interval out. -/
theorem orders_late_twenty : twentyRegions.Nodup ∧
    LongIntervals { marketRegionIds := twentyRegions } ∧
      ¬RunsWithinIntervals { marketRegionIds := twentyRegions } := by
  have long := longIntervals_of_regions twentyRegions
  refine ⟨by decide, long, fun runs => ?_⟩
  have within := (orderJobs_within long).mp fun job member =>
    runs.within job (by rw [createScheduler_groups]; simp [member])
  rcases within with empty | short
  · cases empty
  · exact absurd short (by decide)

end EveApiCache
