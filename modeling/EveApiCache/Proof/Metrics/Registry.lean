import EveApiCache.Construction.Metrics
import Mathlib.Data.List.Induction

/-!
This file shows what the registry holds after some updates.
-/

namespace EveApiCache
open GroupedFold

/-- These are the values of the updates of one kind and one series. -/
def valuesAt (kind : Kind) (key : PyStr × LabelKey) (updates : List Update) : List Number :=
  ((updates.filter fun update => update.kind = kind).filter fun update => update.key = key).map
    fun update => update.value

section Floats
variable (floats : FloatLibrary)

/-- This is the sum of some values, from left to right. -/
def sumOf (values : List Number) : PyFloat := values.foldl (PyFloat.plus floats) (.finite .zero)

/-- This is the number of values that a bucket counts. -/
def countBelow (bound : Double) (values : List Number) : Nat :=
  (values.filter fun value => value.exact ≤ bound.value).length

/-- No operation raises, because every value is near a finite float. -/
def AllFinite (updates : List Update) : Prop :=
  ∀ update ∈ updates, ∃ number, update.value.asFloat floats = .finite number

theorem toFloat_of_finite {value : Number} {number : Double}
    (finite : value.asFloat floats = .finite number) : value.toFloat floats = some number := by
  unfold Number.toFloat
  rw [finite]

/-- The three dictionaries collect the updates of their kinds, and the descriptions collect all. -/
theorem updated_collects (updates : List Update) (finite : AllFinite floats updates)
    (start : Registry) :
    updates.foldl (Update.apply floats) start =
      { counters := collect Update.key (incremented floats) start.counters
          (updates.filter fun update => update.kind = .counter)
        gauges := collect Update.key (fun update _ => update.value.asFloat floats) start.gauges
          (updates.filter fun update => update.kind = .gauge)
        histograms := collect Update.key (observedOr floats) start.histograms
          (updates.filter fun update => update.kind = .histogram)
        described := collect Update.name (fun update old => old.getD (update.kind.name, update.help))
          start.described updates } := by
  induction updates generalizing start with
  | nil => rfl
  | cons update updates ih =>
      obtain ⟨number, near⟩ := finite update (List.mem_cons_self ..)
      have converts := toFloat_of_finite floats near
      rw [List.foldl_cons, ih fun other member => finite other (List.mem_cons_of_mem _ member)]
      cases kind : update.kind with
      | counter => simp [Update.apply, kind, incCounter, Registry.register, collect]
      | gauge => simp [Update.apply, kind, setGauge, Registry.register, collect, converts, near]
      | histogram => simp [Update.apply, kind, observe, Registry.register, collect]

/-- A fold that begins with a default has no value without events. -/
theorem foldl_getD {Value Event : Type} (step : Value → Event → Value) (start : Value)
    (events : List Event) :
    events.foldl (fun value event => some (step (value.getD start) event)) none =
      if events = [] then none else some (events.foldl step start) := by
  have general : ∀ (events : List Event) (value : Value),
      events.foldl (fun value event => some (step (value.getD start) event)) (some value) =
        some (events.foldl step value) := by
    intro events
    induction events with
    | nil => exact fun _ => rfl
    | cons event events ih => exact fun value => ih (step value event)
  cases events with
  | nil => rfl
  | cons event events =>
      rw [if_neg (List.cons_ne_nil _ _)]
      exact general events (step start event)

/-- A fold that keeps the last value has none without events. -/
theorem foldl_last {Value Event : Type} (valueOf : Event → Value) (start : Option Value)
    (events : List Event) :
    events.foldl (fun _ event => some (valueOf event)) start = ((events.map valueOf).getLast?).or start := by
  induction events using List.reverseRecOn with
  | nil => rfl
  | append_singleton events event _ => simp

section Finite
variable {floats} {updates : List Update} (finite : AllFinite floats updates)
include finite

theorem valuesAt_finite (kind : Kind) (key : PyStr × LabelKey) :
    ∀ value ∈ valuesAt kind key updates, ∃ number, value.asFloat floats = .finite number := by
  intro value member
  obtain ⟨update, inside, rfl⟩ := List.mem_map.mp member
  exact finite update (List.mem_filter.mp (List.mem_filter.mp inside).1).1

/-- The entries of a counter dictionary are the sums of the increments. -/
theorem mem_counters (key : PyStr × LabelKey) (value : PyFloat) :
    (key, value) ∈ (updated floats updates).counters ↔
      valuesAt .counter key updates ≠ [] ∧ value = sumOf floats (valuesAt .counter key updates) := by
  unfold updated
  rw [updated_collects floats updates finite]
  change _ ∈ collect Update.key (incremented floats) [] _ ↔ _
  have fold := foldl_getD (fun (value : PyFloat) (update : Update) => value.plus floats update.value)
    (.finite .zero) ((updates.filter fun update => update.kind = .counter).filter fun update =>
      update.key = key)
  rw [mem_collect, show (fun (value : Option PyFloat) (update : Update) =>
    some (incremented floats update value)) =
      fun value update => some ((value.getD (.finite .zero)).plus floats update.value) from rfl, fold]
  unfold valuesAt sumOf
  rw [List.foldl_map]
  split_ifs with empty
  · simp [empty]
  · exact ⟨fun same => ⟨by simpa using empty, (Option.some.inj same).symm⟩, fun holds =>
      congrArg some holds.2.symm⟩

/-- The entries of a gauge dictionary are the last values. -/
theorem mem_gauges (key : PyStr × LabelKey) (value : PyFloat) :
    (key, value) ∈ (updated floats updates).gauges ↔
      ∃ last, (valuesAt .gauge key updates).getLast? = some last ∧ value = last.asFloat floats := by
  unfold updated
  rw [updated_collects floats updates finite]
  change _ ∈ collect Update.key (fun update _ => update.value.asFloat floats) [] _ ↔ _
  rw [mem_collect, foldl_last (fun update : Update => update.value.asFloat floats), Option.or_none]
  unfold valuesAt
  rw [List.getLast?_map, List.getLast?_map, Option.map_eq_some_iff]
  constructor
  · rintro ⟨update, latest, rfl⟩
    exact ⟨update.value, by rw [latest]; rfl, rfl⟩
  · rintro ⟨last, latest, rfl⟩
    obtain ⟨update, found, rfl⟩ := Option.map_eq_some_iff.mp latest
    exact ⟨update, found, rfl⟩

omit finite in
/-- A histogram after some values counts them in its buckets. -/
theorem observed_values (values : List Number)
    (near : ∀ value ∈ values, ∃ number, value.asFloat floats = .finite number) :
    values.foldl (Histogram.observed floats) .empty =
      { buckets := latencyBuckets.map fun bound => countBelow bound values
        sum := sumOf floats values
        count := values.length } := by
  induction values using List.reverseRecOn with
  | nil => rfl
  | append_singleton values value ih =>
      obtain ⟨number, same⟩ := near value (by simp)
      have converts := toFloat_of_finite floats same
      rw [List.foldl_append, ih fun other member => near other (List.mem_append_left _ member),
        List.foldl_cons, List.foldl_nil, Histogram.observed, converts]
      dsimp only
      congr 1
      · rw [List.zipWith_map_right, List.zipWith_self]
        refine List.map_congr_left fun bound _ => ?_
        unfold countBelow
        rw [List.filter_append, List.length_append, List.filter_singleton]
        by_cases below : value.exact ≤ bound.value <;> simp [below]
      · unfold sumOf
        rw [List.foldl_append, List.foldl_cons, List.foldl_nil, PyFloat.plus, converts]
      · rw [List.length_append]
        rfl

/-- The entries of a histogram dictionary count the observations. -/
theorem mem_histograms (key : PyStr × LabelKey) (histogram : Histogram) :
    (key, histogram) ∈ (updated floats updates).histograms ↔
      valuesAt .histogram key updates ≠ [] ∧ histogram =
        { buckets := latencyBuckets.map fun bound => countBelow bound (valuesAt .histogram key updates)
          sum := sumOf floats (valuesAt .histogram key updates)
          count := (valuesAt .histogram key updates).length } := by
  have near := valuesAt_finite finite .histogram key
  unfold updated
  rw [updated_collects floats updates finite]
  change _ ∈ collect Update.key (observedOr floats) [] _ ↔ _
  have fold := foldl_getD (fun (histogram : Histogram) (update : Update) =>
    histogram.observed floats update.value) .empty
      ((updates.filter fun update => update.kind = .histogram).filter fun update => update.key = key)
  rw [mem_collect, show (fun (value : Option Histogram) (update : Update) =>
    some (observedOr floats update value)) =
      fun value update => some ((value.getD .empty).observed floats update.value) from rfl, fold]
  rw [← observed_values _ near]
  unfold valuesAt
  rw [List.foldl_map]
  split_ifs with empty
  · simp [empty]
  · exact ⟨fun same => ⟨by simpa using empty, (Option.some.inj same).symm⟩, fun holds =>
      congrArg some holds.2.symm⟩

/-- The series of a dictionary are distinct. -/
theorem updated_nodup :
    ((updated floats updates).counters.map Prod.fst).Nodup ∧
      ((updated floats updates).gauges.map Prod.fst).Nodup ∧
        ((updated floats updates).histograms.map Prod.fst).Nodup := by
  unfold updated
  rw [updated_collects floats updates finite]
  exact ⟨nodup_collect _ _ _ _ List.nodup_nil, nodup_collect _ _ _ _ List.nodup_nil,
    nodup_collect _ _ _ _ List.nodup_nil⟩

/-- The description of a name comes from its first update. -/
theorem valueAt_described (name : PyStr) :
    valueAt name (updated floats updates).described =
      (updates.find? fun update => update.name = name).map fun update =>
        (update.kind.name, update.help) := by
  unfold updated
  rw [updated_collects floats updates finite]
  change valueAt name (collect Update.name
    (fun (update : Update) (old : Option (PyStr × PyStr)) =>
      old.getD (update.kind.name, update.help)) [] updates) = _
  have stays : ∀ (others : List Update) (value : PyStr × PyStr),
      others.foldl (fun (old : Option (PyStr × PyStr)) (update : Update) =>
        some (old.getD (update.kind.name, update.help))) (some value) = some value := by
    intro others
    induction others with
    | nil => exact fun _ => rfl
    | cons other others ih => exact fun value => ih value
  rw [valueAt_collect, foldAt_filter, ← List.head?_filter]
  cases updates.filter fun update => update.name = name with
  | nil => rfl
  | cons update rest => exact stays rest _

end Finite

end Floats

end EveApiCache
