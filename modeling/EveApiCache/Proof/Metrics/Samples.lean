import EveApiCache.Proof.Metrics.Render

/-!
This file shows which samples the exposition of the registry holds.
-/

namespace EveApiCache
open GroupedFold

def histogramParts : List Part := latencyBuckets.map .bucket ++ [.unbounded, .sum, .count]

section Written
variable (floats : FloatLibrary)

def Part.labels : Part → LabelKey
  | .bucket bound => [(text "le", num floats (.finite bound))]
  | .unbounded => [(text "le", text "+Inf")]
  | .sum | .count => []

def Part.series (key : PyStr × LabelKey) (part : Part) : PyStr × LabelKey :=
  (key.1 ++ part.suffix, key.2 ++ part.labels floats)

/-- A bucket is the number of observations up to its bound, and the last bucket is the count. -/
def Part.value (values : List Number) : Part → PyFloat
  | .bucket bound => floats.round (countBelow bound values)
  | .sum => sumOf floats values
  | .unbounded | .count => floats.round values.length

/-- These are the samples that the series of the registry give. -/
inductive Written (updates : List Update) : Sample → Prop
  | counter (key : PyStr × LabelKey) (recorded : valuesAt .counter key updates ≠ []) :
      Written updates ⟨key.1, key.2, sumOf floats (valuesAt .counter key updates)⟩
  | gauge (key : PyStr × LabelKey) (last : Number)
      (recorded : (valuesAt .gauge key updates).getLast? = some last) :
      Written updates ⟨key.1, key.2, last.asFloat floats⟩
  | histogram (key : PyStr × LabelKey) (part : Part) (known : part ∈ histogramParts)
      (recorded : valuesAt .histogram key updates ≠ []) :
      Written updates ⟨(part.series floats key).1, (part.series floats key).2,
        part.value floats (valuesAt .histogram key updates)⟩

end Written

section Dictionaries
variable {floats : FloatLibrary} {readFloat : PyStr → Option PyFloat} {updates : List Update}

theorem valuesAt_source {kind : Kind} {key : PyStr × LabelKey} (recorded : valuesAt kind key updates ≠ []) :
    ∃ update ∈ updates, update.kind = kind ∧ update.key = key := by
  obtain ⟨value, member⟩ := List.exists_mem_of_ne_nil _ recorded
  obtain ⟨update, inside, _⟩ := List.mem_map.mp member
  obtain ⟨ofKind, same⟩ := List.mem_filter.mp inside
  obtain ⟨present, equal⟩ := List.mem_filter.mp ofKind
  exact ⟨update, present, by simpa using equal, by simpa using same⟩

/-- The dictionaries come from the updates of their kinds. -/
theorem updated_fromUpdates (finite : AllFinite floats updates) :
    FromUpdates updates .counter (updated floats updates).counters ∧
    FromUpdates updates .gauge (updated floats updates).gauges ∧
      FromUpdates updates .histogram (updated floats updates).histograms := by
  refine ⟨fun entry member => ?_, fun entry member => ?_, fun entry member => ?_⟩
  · exact valuesAt_source ((mem_counters finite entry.1 entry.2).mp member).1
  · obtain ⟨last, latest, _⟩ := (mem_gauges finite entry.1 entry.2).mp member
    exact valuesAt_source fun empty => by simp [empty] at latest
  · exact valuesAt_source ((mem_histograms finite entry.1 entry.2).mp member).1

/-- A key holds the labels that an update states. -/
theorem key_perm (labels : LabelSet) : labels.key.Perm labels.pairs := List.perm_insertionSort _ _

/-- The key of an update has valid names. -/
theorem key_valid (valid : WellFormed floats updates) {update : Update} (member : update ∈ updates) :
    isMetricName update.key.1 = true ∧
      ∀ label ∈ update.key.2, isLabelName label.1 = true ∧ label.1 ≠ text "le" := by
  refine ⟨valid.names update member, fun label inside => valid.labels update member label ?_⟩
  exact (key_perm _).mem_iff.mp inside

/-- This is the sample of a counter or of a gauge. -/
def plainSample (entry : (PyStr × LabelKey) × PyFloat) : Sample := ⟨entry.1.1, entry.1.2, entry.2⟩

theorem sampleLine_readsAs (texts : FloatTexts floats readFloat) (valid : WellFormed floats updates)
    {kind : Kind} {flat : List ((PyStr × LabelKey) × PyFloat)} (sourced : FromUpdates updates kind flat) :
    ∀ entry ∈ flat, List.Forall₂ (ReadsAs readFloat) (sampleLine floats entry)
      (([plainSample entry].map .sample).map some) := by
  intro entry member
  obtain ⟨update, present, _, same⟩ := sourced entry member
  obtain ⟨named, labelled⟩ := key_valid valid present
  rw [same] at named labelled
  exact .cons (sample_readsAs readFloat named (fun label inside => (labelled label inside).1)
    (num_read texts entry.2)) .nil

/-- This is the text of the value of a part. -/
def Part.written (floats : FloatLibrary) (values : List Number) : Part → PyStr
  | .bucket bound => numeral (countBelow bound values)
  | .sum => num floats (sumOf floats values)
  | .unbounded | .count => numeral values.length

theorem written_read (texts : FloatTexts floats readFloat) (values : List Number) (part : Part) :
    IsToken (part.written floats values) ∧
      readFloat (part.written floats values) = some (part.value floats values) := by
  cases part with
  | bucket bound => exact numeral_read texts _
  | unbounded => exact numeral_read texts _
  | sum => exact num_read texts _
  | count => exact numeral_read texts _

def suffixes : List PyStr := [text "_bucket", text "_sum", text "_count"]

theorem suffix_known (part : Part) : part.suffix ∈ suffixes := by
  unfold suffixes
  cases part <;> simp [Part.suffix]

/-- The suffixes are parts of names, and their ends differ. -/
theorem suffixes_apart : (∀ suffix ∈ suffixes, suffix.all isMetricSymbol = true ∧
    2 ≤ suffix.reverse.length) ∧ ∀ suffix ∈ suffixes, ∀ other ∈ suffixes,
      suffix.reverse.take 2 = other.reverse.take 2 → suffix = other := by
  decide +kernel

theorem labels_valid (part : Part) : ∀ label ∈ part.labels floats, isLabelName label.1 = true := by
  have bound : isLabelName (text "le") = true := by decide
  intro label member
  cases part with
  | bucket _ =>
      rw [List.mem_singleton.mp member]
      exact bound
  | unbounded =>
      rw [List.mem_singleton.mp member]
      exact bound
  | sum => cases member
  | count => cases member

theorem series_named {name : PyStr} (named : isMetricName name = true) (part : Part) :
    isMetricName (name ++ part.suffix) = true := by
  unfold isMetricName at named ⊢
  rw [Bool.and_eq_true] at named ⊢
  refine ⟨?_, by rw [List.all_append, named.2, (suffixes_apart.1 _ (suffix_known part)).1, Bool.and_true]⟩
  cases name with
  | nil => cases named.1
  | cons first rest => exact named.1

/-- These are the samples of a histogram. -/
def histogramSamples (floats : FloatLibrary) (updates : List Update)
    (entry : (PyStr × LabelKey) × Histogram) : List Sample :=
  histogramParts.map fun part => ⟨(part.series floats entry.1).1, (part.series floats entry.1).2,
    part.value floats (valuesAt .histogram entry.1 updates)⟩

/-- The lines of a histogram are the lines of its parts. -/
theorem histogramLines_parts (finite : AllFinite floats updates)
    {entry : (PyStr × LabelKey) × Histogram}
    (member : entry ∈ (updated floats updates).histograms) :
    histogramLines floats entry = histogramParts.map fun part =>
      (part.series floats entry.1).1 ++ fmtLabels (part.series floats entry.1).2 ++ text " " ++
        part.written floats (valuesAt .histogram entry.1 updates) := by
  obtain ⟨_, same⟩ := (mem_histograms finite entry.1 entry.2).mp member
  unfold histogramLines histogramParts
  rw [same]
  dsimp only
  rw [List.zipWith_map_right, List.zipWith_self, List.map_append, List.map_map]
  simp [Part.series, Part.suffix, Part.labels, Part.written]

theorem histogramLines_readsAs (texts : FloatTexts floats readFloat) (valid : WellFormed floats updates) :
    ∀ entry ∈ (updated floats updates).histograms, List.Forall₂ (ReadsAs readFloat)
      (histogramLines floats entry)
        (((histogramSamples floats updates entry).map .sample).map some) := by
  intro entry member
  obtain ⟨update, present, _, same⟩ := (updated_fromUpdates valid.finite).2.2 entry member
  obtain ⟨named, labelled⟩ := key_valid valid present
  rw [same] at named labelled
  rw [histogramLines_parts valid.finite member]
  unfold histogramSamples
  rw [List.map_map, List.map_map, List.forall₂_map_left_iff, List.forall₂_map_right_iff,
    List.forall₂_same]
  intro part _
  refine sample_readsAs readFloat (series_named named part) (fun label inside => ?_)
    (written_read texts _ part)
  rcases List.mem_append.mp inside with own | added
  · exact (labelled label own).1
  · exact labels_valid part label added

/-- The suffixes end differently, so a name shows its suffix. -/
theorem suffix_same {first second : PyStr} {part other : Part}
    (same : first ++ part.suffix = second ++ other.suffix) : part.suffix = other.suffix := by
  have ends (name : PyStr) (part : Part) :
      (name ++ part.suffix).reverse.take 2 = part.suffix.reverse.take 2 := by
    rw [List.reverse_append, List.take_append_of_le_length (suffixes_apart.1 _ (suffix_known part)).2]
  apply suffixes_apart.2 _ (suffix_known part) _ (suffix_known other)
  rw [← ends first part, same, ends second other]

/-- A series of a histogram shows its key and its part. -/
theorem series_injective (texts : FloatTexts floats readFloat) {key other : PyStr × LabelKey}
    {part next : Part} (same : part.series floats key = next.series floats other) :
    key = other ∧ part = next := by
  obtain ⟨names, labels⟩ := Prod.mk.inj same
  have suffix := suffix_same names
  rw [suffix] at names
  have name : key.1 = other.1 := List.append_cancel_right names
  have pair : key.2 = other.2 → key = other := Prod.ext name
  have apart : text "_bucket" ≠ text "_sum" ∧ text "_bucket" ≠ text "_count" ∧
      text "_sum" ≠ text "_count" := by decide
  cases part with
  | bucket bound =>
      cases next with
      | bucket limit =>
          obtain ⟨own, last⟩ := List.append_inj' labels rfl
          have written := (Prod.mk.inj (List.singleton_inj.mp last)).2
          rw [PyFloat.finite.inj (num_injective texts written)]
          exact ⟨pair own, rfl⟩
      | unbounded =>
          obtain ⟨_, last⟩ := List.append_inj' labels rfl
          exact absurd (Prod.mk.inj (List.singleton_inj.mp last)).2 (num_ne_unbounded texts bound)
      | sum => exact absurd suffix apart.1
      | count => exact absurd suffix apart.2.1
  | unbounded =>
      cases next with
      | bucket limit =>
          obtain ⟨_, last⟩ := List.append_inj' labels rfl
          exact absurd (Prod.mk.inj (List.singleton_inj.mp last)).2.symm (num_ne_unbounded texts limit)
      | unbounded => exact ⟨pair (List.append_inj' labels rfl).1, rfl⟩
      | sum => exact absurd suffix apart.1
      | count => exact absurd suffix apart.2.1
  | sum =>
      cases next with
      | bucket _ => exact absurd suffix.symm apart.1
      | unbounded => exact absurd suffix.symm apart.1
      | sum => exact ⟨pair (List.append_inj' labels rfl).1, rfl⟩
      | count => exact absurd suffix apart.2.2
  | count =>
      cases next with
      | bucket _ => exact absurd suffix.symm apart.2.1
      | unbounded => exact absurd suffix.symm apart.2.1
      | sum => exact absurd suffix.symm apart.2.2
      | count => exact ⟨pair (List.append_inj' labels rfl).1, rfl⟩

theorem histogramParts_nodup : histogramParts.Nodup := by
  have bounds : (latencyBuckets.map Double.value).Nodup := by
    unfold latencyBuckets Double.scaled
    decide +kernel
  unfold histogramParts
  rw [List.nodup_append]
  refine ⟨(List.Nodup.of_map _ bounds).map fun _ _ same => Part.bucket.inj same, by simp, ?_⟩
  intro part member other last same
  obtain ⟨bound, _, rfl⟩ := List.mem_map.mp member
  subst same
  simp at last

/-- The series of the histograms are distinct. -/
theorem histogramSeries_nodup (texts : FloatTexts floats readFloat) (finite : AllFinite floats updates) :
    (((updated floats updates).histograms.flatMap (histogramSamples floats updates)).map
      Sample.series).Nodup := by
  have series (entry : (PyStr × LabelKey) × Histogram) :
      (histogramSamples floats updates entry).map Sample.series =
        histogramParts.map (Part.series floats entry.1) := by
    unfold histogramSamples
    rw [List.map_map]
    rfl
  rw [List.map_flatMap]
  simp only [series]
  refine List.nodup_flatMap.mpr ⟨fun entry _ => ?_, ?_⟩
  · exact histogramParts_nodup.map fun _ _ same => (series_injective texts same).2
  · refine (List.pairwise_map.mp (updated_nodup finite).2.2).imp fun apart => ?_
    intro series first second
    obtain ⟨part, _, rfl⟩ := List.mem_map.mp first
    obtain ⟨other, _, same⟩ := List.mem_map.mp second
    exact apart (series_injective texts same).1.symm

/-- These are the samples of the registry, dictionary by dictionary. -/
def registrySamples (floats : FloatLibrary) (updates : List Update) : List Sample :=
  ((updated floats updates).counters.flatMap fun entry => [plainSample entry]) ++
    ((updated floats updates).gauges.flatMap fun entry => [plainSample entry]) ++
      (updated floats updates).histograms.flatMap (histogramSamples floats updates)

theorem mem_plain {flat : List ((PyStr × LabelKey) × PyFloat)} {sample : Sample} :
    (sample ∈ flat.flatMap fun entry => [plainSample entry]) ↔
      ((sample.name, sample.labels), sample.value) ∈ flat := by
  constructor
  · intro member
    obtain ⟨entry, inside, single⟩ := List.mem_flatMap.mp member
    rw [List.mem_singleton.mp single]
    exact inside
  · intro member
    exact List.mem_flatMap.mpr ⟨_, member, List.mem_singleton.mpr rfl⟩

/-- The samples of the registry are the expected ones. -/
theorem mem_registrySamples (finite : AllFinite floats updates) (sample : Sample) :
    sample ∈ registrySamples floats updates ↔ Written floats updates sample := by
  unfold registrySamples
  rw [List.mem_append, List.mem_append, mem_plain, mem_plain, mem_counters finite, mem_gauges finite]
  constructor
  · rintro ((⟨recorded, value⟩ | ⟨last, recorded, value⟩) | member)
    · obtain ⟨name, labels, _⟩ := sample
      dsimp only at recorded value
      subst value
      exact .counter (name, labels) recorded
    · obtain ⟨name, labels, _⟩ := sample
      dsimp only at recorded value
      subst value
      exact .gauge (name, labels) last recorded
    · obtain ⟨entry, inside, written⟩ := List.mem_flatMap.mp member
      obtain ⟨part, known, rfl⟩ := List.mem_map.mp written
      exact .histogram entry.1 part known ((mem_histograms finite entry.1 entry.2).mp inside).1
  · intro written
    cases written with
    | counter key recorded => exact .inl (.inl ⟨recorded, rfl⟩)
    | gauge key last recorded => exact .inl (.inr ⟨last, recorded, rfl⟩)
    | histogram key part known recorded =>
        refine .inr (List.mem_flatMap.mpr ⟨⟨key, _⟩,
          (mem_histograms finite key _).mpr ⟨recorded, rfl⟩, ?_⟩)
        exact List.mem_map.mpr ⟨part, known, rfl⟩

theorem plain_series (flat : List ((PyStr × LabelKey) × PyFloat)) :
    (flat.flatMap fun entry => [plainSample entry]).map Sample.series = flat.map Prod.fst := by
  rw [← List.map_eq_flatMap, List.map_map]
  rfl

/-- Different kinds have different names. -/
theorem fromUpdates_apart (valid : WellFormed floats updates) {Left Right : Type} {kind other : Kind}
    (apart : kind ≠ other) {left : List ((PyStr × LabelKey) × Left)}
    {right : List ((PyStr × LabelKey) × Right)} (first : FromUpdates updates kind left)
    (second : FromUpdates updates other right) :
    ∀ entry ∈ left, ∀ item ∈ right, entry.1.1 ≠ item.1.1 := by
  intro entry member item inside same
  obtain ⟨update, present, ofKind, key⟩ := first entry member
  obtain ⟨next, known, ofOther, label⟩ := second item inside
  have names : update.name = next.name := by
    rw [show update.name = entry.1.1 from congrArg Prod.fst key, same,
      show next.name = item.1.1 from congrArg Prod.fst label]
  exact apart (by rw [← ofKind, ← ofOther, valid.kinds update present next known names])

/-- A histogram and a plain metric have no series in common. -/
theorem derived_apart (valid : WellFormed floats updates) {kind : Kind}
    {flat : List ((PyStr × LabelKey) × PyFloat)} (sourced : FromUpdates updates kind flat) :
    ((flat.flatMap fun entry => [plainSample entry]).map Sample.series).Disjoint
      (((updated floats updates).histograms.flatMap (histogramSamples floats updates)).map
        Sample.series) := by
  intro series plain derived
  rw [plain_series] at plain
  obtain ⟨entry, member, rfl⟩ := List.mem_map.mp plain
  obtain ⟨sample, inside, same⟩ := List.mem_map.mp derived
  obtain ⟨item, known, written⟩ := List.mem_flatMap.mp inside
  obtain ⟨part, _, rfl⟩ := List.mem_map.mp written
  obtain ⟨update, present, _, key⟩ := sourced entry member
  obtain ⟨first, recorded, histogram, base⟩ := (updated_fromUpdates valid.finite).2.2 item known
  refine valid.derived first recorded histogram update present part ?_
  rw [show update.name = entry.1.1 from congrArg Prod.fst key,
    show first.name = item.1.1 from congrArg Prod.fst base]
  exact (congrArg Prod.fst same).symm

theorem registrySeries_nodup (texts : FloatTexts floats readFloat) (valid : WellFormed floats updates) :
    ((registrySamples floats updates).map Sample.series).Nodup := by
  obtain ⟨counters, gauges, _⟩ := updated_nodup valid.finite
  obtain ⟨counted, gauged, _⟩ := updated_fromUpdates valid.finite
  unfold registrySamples
  rw [List.map_append, List.map_append]
  refine List.Nodup.append (List.Nodup.append ?_ ?_ ?_) (histogramSeries_nodup texts valid.finite) ?_
  · rw [plain_series]
    exact counters
  · rw [plain_series]
    exact gauges
  · intro series first second
    rw [plain_series] at first second
    obtain ⟨entry, member, rfl⟩ := List.mem_map.mp first
    obtain ⟨item, inside, same⟩ := List.mem_map.mp second
    exact fromUpdates_apart valid (by decide) counted gauged entry member item inside
      (congrArg Prod.fst same).symm
  · rw [List.disjoint_append_left]
    exact ⟨derived_apart valid counted, derived_apart valid gauged⟩

/-- The names of the three dictionaries are distinct. -/
theorem groupNames_apart (valid : WellFormed floats updates) :
    (groupNames (updated floats updates).counters ++ groupNames (updated floats updates).gauges ++
      groupNames (updated floats updates).histograms).Nodup := by
  obtain ⟨counted, gauged, observed⟩ := updated_fromUpdates valid.finite
  have disjoint {Left Right : Type} {kind other : Kind} (apart : kind ≠ other)
      {left : List ((PyStr × LabelKey) × Left)} {right : List ((PyStr × LabelKey) × Right)}
      (first : FromUpdates updates kind left) (second : FromUpdates updates other right) :
      (groupNames left).Disjoint (groupNames right) := by
    intro name inside present
    obtain ⟨entry, member, rfl⟩ := mem_groupNames.mp inside
    obtain ⟨item, known, same⟩ := mem_groupNames.mp present
    exact fromUpdates_apart valid apart first second entry member item known same.symm
  refine List.Nodup.append (List.Nodup.append (groupNames_nodup _) (groupNames_nodup _)
    (disjoint (by decide) counted gauged)) (groupNames_nodup _) ?_
  rw [List.disjoint_append_left]
  exact ⟨disjoint (by decide) counted observed, disjoint (by decide) gauged observed⟩

/-- Every description that the exposition writes, the first one of its name, is escaped. -/
def HelpsEscaped (updates : List Update) : Prop :=
  ∀ name update, updates.find? (fun update => update.name = name) = some update →
    isEscaped update.help = true

/-- The description of every written name is escaped. -/
theorem HelpsEscaped.helpOf (escaped : HelpsEscaped updates) (name : PyStr) :
    isEscaped (EveApiCache.helpOf updates name) = true := by
  unfold EveApiCache.helpOf
  cases found : updates.find? fun update => update.name = name with
  | none => rfl
  | some update => exact escaped name update found

/-- Every update writes the name of its series. -/
theorem groupNames_written (finite : AllFinite floats updates) {update : Update}
    (member : update ∈ updates) :
    update.name ∈ groupNames (updated floats updates).counters ∨
      update.name ∈ groupNames (updated floats updates).gauges ∨
        update.name ∈ groupNames (updated floats updates).histograms := by
  have recorded : valuesAt update.kind update.key updates ≠ [] := by
    intro empty
    have inside : update.value ∈ valuesAt update.kind update.key updates :=
      List.mem_map_of_mem (List.mem_filter.mpr ⟨List.mem_filter.mpr ⟨member, by simp⟩, by simp⟩)
    rw [empty] at inside
    cases inside
  cases kind : update.kind with
  | counter =>
      rw [kind] at recorded
      exact .inl (mem_groupNames.mpr ⟨(update.key, _),
        (mem_counters finite _ _).mpr ⟨recorded, rfl⟩, rfl⟩)
  | gauge =>
      rw [kind] at recorded
      have latest := List.getLast?_eq_some_getLast recorded
      exact .inr (.inl (mem_groupNames.mpr ⟨(update.key, _),
        (mem_gauges finite _ _).mpr ⟨_, latest, rfl⟩, rfl⟩))
  | histogram =>
      rw [kind] at recorded
      exact .inr (.inr (mem_groupNames.mpr ⟨(update.key, _),
        (mem_histograms finite _ _).mpr ⟨recorded, rfl⟩, rfl⟩))

/-- The text of the registry is read as its samples in some order when its descriptions are escaped,
and is refused otherwise. -/
theorem readExposition_render (texts : FloatTexts floats readFloat) (valid : WellFormed floats updates) :
    (HelpsEscaped updates →
      ∃ samples, readExposition readFloat ((updated floats updates).render floats) = some samples ∧
        samples.Perm (registrySamples floats updates)) ∧
      (¬HelpsEscaped updates →
        readExposition readFloat ((updated floats updates).render floats) = none) := by
  obtain ⟨counted, gauged, observed⟩ := updated_fromUpdates valid.finite
  have counters := @section_readsAs floats readFloat _ updates valid .counter _ counted _ _
    (sampleLine_readsAs texts valid counted)
  have gauges := @section_readsAs floats readFloat _ updates valid .gauge _ gauged _ _
    (sampleLine_readsAs texts valid gauged)
  have histograms := @section_readsAs floats readFloat _ updates valid .histogram _ observed _ _
    (histogramLines_readsAs texts valid)
  have read := readExposition_lines readFloat
    (List.rel_append (List.rel_append counters gauges) histograms)
  dsimp only at read
  constructor
  · intro escaped
    have helps (names : List PyStr) : ∀ name ∈ names, isEscaped (helpOf updates name) = true :=
      fun name _ => escaped.helpOf name
    have names := @groupNames_apart floats updates valid
    rw [sectionResults_escaped _ (helps _), sectionResults_escaped _ (helps _),
      sectionResults_escaped _ (helps _), ← List.map_append, ← List.map_append, mapM_some,
      Option.bind_some, if_pos] at read
    · refine ⟨_, read, ?_⟩
      rw [List.filterMap_append, List.filterMap_append]
      exact ((sectionEntries_samples _ _).append (sectionEntries_samples _ _)).append
        (sectionEntries_samples _ _)
    · constructor
      · rw [List.filterMap_append, List.filterMap_append, (sectionEntries_names _ _).1,
          (sectionEntries_names _ _).1, (sectionEntries_names _ _).1]
        exact names
      · rw [List.filterMap_append, List.filterMap_append, (sectionEntries_names _ _).2,
          (sectionEntries_names _ _).2, (sectionEntries_names _ _).2]
        exact names
  · intro unescaped
    simp only [HelpsEscaped, not_forall] at unescaped
    obtain ⟨name, update, found, refused⟩ := unescaped
    have named : update.name = name := by simpa using List.find?_some found
    have help : isEscaped (helpOf updates update.name) ≠ true := by
      unfold helpOf
      rw [named, found]
      exact refused
    refine read.trans ?_
    rw [mapM_none]
    · rfl
    · rw [List.mem_append, List.mem_append]
      rcases groupNames_written valid.finite (List.mem_of_find?_eq_some found) with
        member | member | member
      · exact .inl (.inl (sectionResults_refused _ member help))
      · exact .inl (.inr (sectionResults_refused _ member help))
      · exact .inr (sectionResults_refused _ member help)

end Dictionaries

end EveApiCache
