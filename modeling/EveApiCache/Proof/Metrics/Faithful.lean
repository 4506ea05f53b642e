import EveApiCache.Proof.Metrics.Samples
import Mathlib.Tactic.Ring

/-!
This file shows when the exposition of the registry is faithful.
-/

namespace EveApiCache
open GroupedFold

section Specification
variable (floats : FloatLibrary) (readFloat : PyStr → Option PyFloat) (updates : List Update)

/-- A bucket has its bound as a label. -/
def Part.Bounds : Part → LabelKey → Prop
  | .bucket bound, own => ∃ written, own = [(text "le", written)] ∧
      readFloat written = some (.finite bound)
  | .unbounded, own => own = [(text "le", text "+Inf")]
  | .sum, own => own = []
  | .count, own => own = []

/-- A counter and a gauge have one sample, and a histogram has one for each of its parts. -/
def Kind.parts : Kind → List (Option Part)
  | .counter => [none]
  | .gauge => [none]
  | .histogram => histogramParts.map some

/-- A sample shows a series with the name and the labels that an update states, in any order. -/
def Shows (update : Update) : Option Part → Sample → Prop
  | none, sample => sample.name = update.name ∧ sample.labels.Perm update.labels.pairs
  | some part, sample => sample.name = update.name ++ part.suffix ∧
      ∃ own, part.Bounds readFloat own ∧ sample.labels.Perm (update.labels.pairs ++ own)

/-- These are the values that were recorded under the name and the labels of an update. -/
def Update.recorded (update : Update) : List Number :=
  (updates.filter fun other => other.kind = update.kind ∧ other.name = update.name ∧
    other.labels.pairs.Perm update.labels.pairs).map Update.value

/-- A counter shows the sum, a gauge the last value, and a histogram the numbers of observations. -/
def Update.expected (update : Update) : Option Part → PyFloat
  | some part => part.value floats (update.recorded updates)
  | none =>
      match update.kind with
      | .gauge => ((update.recorded updates).getLast?.map (Number.asFloat floats)).getD .nan
      | _ => sumOf floats (update.recorded updates)

/-- The samples are exactly those of the recorded series, and each one comes once. -/
structure Faithfully (samples : List Sample) : Prop where
  shown : ∀ update ∈ updates, ∀ part ∈ update.kind.parts, ∃ sample ∈ samples,
    Shows readFloat update part sample ∧ sample.value = update.expected floats updates part ∧
      ∀ other ∈ samples, Shows readFloat update part other → other = sample
  only : ∀ sample ∈ samples, ∃ update ∈ updates, ∃ part ∈ update.kind.parts,
    Shows readFloat update part sample
  once : samples.Nodup

/-- The exposition is read as the recorded series. Wider buckets count at least as much, counts below
2^53 are exact, and so are values and sums that doubles hold. -/
structure FaithfulExposition : Prop where
  parsed : ∃ samples, readExposition readFloat ((updated floats updates).render floats) =
    some samples ∧ Faithfully floats readFloat updates samples
  buckets : ∀ update ∈ updates, ∀ lower upper : Double, lower.value ≤ upper.value →
    countBelow lower (update.recorded updates) ≤ countBelow upper (update.recorded updates) ∧
      countBelow upper (update.recorded updates) ≤ (update.recorded updates).length
  counts : ∀ count : Nat, count < 2 ^ 53 →
    ∃ number, floats.round count = .finite number ∧ number.value = count
  values : ∀ value : Number, IsDouble value.exact →
    ∃ number, value.asFloat floats = .finite number ∧ number.value = value.exact
  sums : ∀ values : List Number, (∀ value ∈ values, IsDouble value.exact) →
    (∀ start, start <+: values → IsDouble (start.map Number.exact).sum) →
      ∃ number, sumOf floats values = .finite number ∧ number.value = (values.map Number.exact).sum

end Specification

section Labels

/-- The sorted items of two label sets are the same exactly when the items are. -/
theorem key_eq_iff (first second : LabelSet) : first.key = second.key ↔ first.pairs.Perm second.pairs := by
  constructor
  · intro same
    have items := key_perm first
    rw [same] at items
    exact items.symm.trans (key_perm second)
  · intro same
    have ordered (labels : LabelSet) : labels.key.Pairwise fun one two => one.1 ≤ two.1 :=
      List.pairwise_insertionSort _ _
    have items := ((key_perm first).trans same).trans (key_perm second).symm
    refine items.eq_of_pairwise (fun one two memberOne memberTwo before after => ?_) (ordered first)
      (ordered second)
    have inside := items.mem_iff.mpr memberTwo
    exact List.inj_on_of_nodup_map first.nodup ((key_perm first).mem_iff.mp memberOne)
      ((key_perm first).mem_iff.mp inside) (le_antisymm before after)

/-- The label of a bound stands apart from the labels of the updates. -/
theorem own_apart {first second own other : LabelKey} (plain : ∀ label ∈ first, label.1 ≠ text "le")
    (free : ∀ label ∈ second, label.1 ≠ text "le") (bounds : ∀ label ∈ own, label.1 = text "le")
    (limits : ∀ label ∈ other, label.1 = text "le") (same : (first ++ own).Perm (second ++ other)) :
    first.Perm second ∧ own.Perm other := by
  have split (labels added : LabelKey) (plain : ∀ label ∈ labels, label.1 ≠ text "le")
      (bounds : ∀ label ∈ added, label.1 = text "le") :
      (labels ++ added).filter (fun label => label.1 ≠ text "le") = labels ∧
        (labels ++ added).filter (fun label => label.1 = text "le") = added := by
    rw [List.filter_append, List.filter_append]
    constructor
    · rw [List.filter_eq_self.mpr (by simpa using plain), List.filter_eq_nil_iff.mpr (by simpa using bounds),
        List.append_nil]
    · rw [List.filter_eq_nil_iff.mpr (by simpa using plain), List.filter_eq_self.mpr (by simpa using bounds),
        List.nil_append]
  obtain ⟨left, added⟩ := split first own plain bounds
  obtain ⟨right, more⟩ := split second other free limits
  constructor
  · have kept := same.filter fun label => label.1 ≠ text "le"
    rwa [left, right] at kept
  · have kept := same.filter fun label => label.1 = text "le"
    rwa [added, more] at kept

end Labels

section Values
variable {floats : FloatLibrary} {readFloat : PyStr → Option PyFloat}

/-- A wider bucket counts at least as much, and no bucket counts more than there is. -/
theorem countBelow_mono (values : List Number) {lower upper : Double} (wider : lower.value ≤ upper.value) :
    countBelow lower values ≤ countBelow upper values ∧ countBelow upper values ≤ values.length := by
  refine ⟨List.Sublist.length_le (List.monotone_filter_right _ fun value below => ?_),
    List.length_filter_le _ _⟩
  rw [decide_eq_true_eq] at below ⊢
  exact below.trans wider

/-- A count of 53 bits is its own float. -/
theorem round_count (texts : FloatTexts floats readFloat) {count : Nat} (small : count < 2 ^ 53) :
    ∃ number, floats.round count = .finite number ∧ number.value = count := by
  have double : IsDouble (count : ℚ) :=
    ⟨count, 0, 0, by simpa using small, Nat.zero_le _, Nat.zero_le _, by simp⟩
  exact ⟨⟨count, double⟩, texts.exact ⟨count, double⟩, rfl⟩

/-- A value that is a double is its own float. -/
theorem asFloat_exact (texts : FloatTexts floats readFloat) (value : Number)
    (double : IsDouble value.exact) : value.asFloat floats = .finite ⟨value.exact, double⟩ := by
  cases value with
  | int value => exact texts.exact ⟨value, double⟩
  | float value => rfl

/-- A sum whose partial sums are doubles is exact. -/
theorem sumOf_exact (texts : FloatTexts floats readFloat) (values : List Number)
    (doubles : ∀ value ∈ values, IsDouble value.exact)
    (partials : ∀ start, start <+: values → IsDouble (start.map Number.exact).sum) :
    ∃ number, sumOf floats values = .finite number ∧
      number.value = (values.map Number.exact).sum := by
  induction values using List.reverseRecOn with
  | nil => exact ⟨.zero, rfl, by simp [Double.zero, Double.scaled]⟩
  | append_singleton values value ih =>
      obtain ⟨total, summed, exact_⟩ := ih
        (fun other member => doubles other (List.mem_append_left _ member))
        fun start inside => partials start (inside.trans (List.prefix_append _ _))
      have whole := partials (values ++ [value]) (List.prefix_refl _)
      rw [List.map_append, List.sum_append, List.map_singleton, List.sum_singleton] at whole ⊢
      have converts := toFloat_of_finite floats (asFloat_exact texts value (doubles value (by simp)))
      refine ⟨⟨_, whole⟩, ?_, rfl⟩
      unfold sumOf at summed ⊢
      rw [List.foldl_append, List.foldl_cons, List.foldl_nil, summed, PyFloat.plus, converts]
      change floats.round (total.value + value.exact) = _
      rw [exact_]
      exact texts.exact ⟨_, whole⟩

end Values

section Series
variable {floats : FloatLibrary} {readFloat : PyStr → Option PyFloat} {updates : List Update}

/-- The values of a series do not depend on the order of the labels. -/
theorem recorded_eq (update : Update) :
    update.recorded updates = valuesAt update.kind update.key updates := by
  unfold Update.recorded valuesAt
  rw [List.filter_filter]
  refine congrArg (List.map Update.value) (List.filter_congr fun other _ => ?_)
  have same : other.key = update.key ↔
      other.name = update.name ∧ other.labels.pairs.Perm update.labels.pairs := by
    rw [← key_eq_iff]
    exact Prod.mk.injEq .. ▸ Iff.rfl
  rw [Bool.eq_iff_iff]
  simp only [decide_eq_true_eq, Bool.and_eq_true, same]
  tauto

/-- This is the series that the registry writes for a part. -/
def writtenSeries (floats : FloatLibrary) (update : Update) : Option Part → PyStr × LabelKey
  | none => update.key
  | some part => part.series floats update.key

/-- The label of a bucket states its bound. -/
theorem labels_bound (texts : FloatTexts floats readFloat) (part : Part) :
    part.Bounds readFloat (part.labels floats) := by
  cases part with
  | bucket bound => exact ⟨_, rfl, (num_read texts _).2⟩
  | unbounded | sum | count => rfl

/-- This is the sample that the registry writes for a part. -/
def writtenSample (floats : FloatLibrary) (updates : List Update) (update : Update) (part : Option Part) :
    Sample :=
  ⟨(writtenSeries floats update part).1, (writtenSeries floats update part).2,
    update.expected floats updates part⟩

/-- The sample of a part shows its series. -/
theorem writtenSample_shows (texts : FloatTexts floats readFloat) (update : Update) (part : Option Part) :
    Shows readFloat update part (writtenSample floats updates update part) := by
  cases part with
  | none => exact ⟨rfl, key_perm _⟩
  | some part => exact ⟨rfl, _, labels_bound texts part, (key_perm _).append_right _⟩

/-- The registry writes one sample for each part of each update, and no other. -/
theorem written_iff (sample : Sample) : Written floats updates sample ↔
    ∃ update ∈ updates, ∃ part ∈ update.kind.parts, sample = writtenSample floats updates update part := by
  constructor
  · intro written
    cases written with
    | counter key recorded =>
        obtain ⟨update, member, kind, rfl⟩ := valuesAt_source recorded
        refine ⟨update, member, none, by simp [kind, Kind.parts], ?_⟩
        unfold writtenSample Update.expected
        rw [recorded_eq, kind]
        rfl
    | gauge key last recorded =>
        obtain ⟨update, member, kind, rfl⟩ := valuesAt_source fun empty => by
          rw [empty] at recorded
          cases recorded
        refine ⟨update, member, none, by simp [kind, Kind.parts], ?_⟩
        unfold writtenSample Update.expected
        rw [recorded_eq, kind]
        dsimp only
        rw [recorded]
        rfl
    | histogram key part known recorded =>
        obtain ⟨update, member, kind, rfl⟩ := valuesAt_source recorded
        refine ⟨update, member, some part, ?_, ?_⟩
        · rw [kind]
          exact List.mem_map_of_mem known
        · unfold writtenSample Update.expected
          rw [recorded_eq, kind]
          rfl
  · rintro ⟨update, member, part, known, rfl⟩
    have recorded : valuesAt update.kind update.key updates ≠ [] := by
      intro empty
      have inside : update.value ∈ valuesAt update.kind update.key updates :=
        List.mem_map_of_mem (List.mem_filter.mpr ⟨List.mem_filter.mpr ⟨member, by simp⟩, by simp⟩)
      rw [empty] at inside
      cases inside
    unfold writtenSample Update.expected
    rw [recorded_eq]
    cases kind : update.kind with
    | counter =>
        rw [kind] at recorded known
        obtain rfl := List.mem_singleton.mp known
        exact .counter update.key recorded
    | gauge =>
        rw [kind] at recorded known
        obtain rfl := List.mem_singleton.mp known
        have last := List.getLast?_eq_some_getLast recorded
        dsimp only
        rw [last]
        exact .gauge update.key _ last
    | histogram =>
        rw [kind] at recorded known
        obtain ⟨part, inside, rfl⟩ := List.mem_map.mp known
        exact .histogram update.key part inside recorded

theorem bounds_le {part : Part} {own : LabelKey} (bounds : part.Bounds readFloat own) :
    ∀ label ∈ own, label.1 = text "le" := by
  intro label member
  cases part with
  | bucket bound =>
      obtain ⟨written, rfl, _⟩ := bounds
      rw [List.mem_singleton.mp member]
  | unbounded =>
      obtain rfl := bounds
      rw [List.mem_singleton.mp member]
  | sum | count =>
      obtain rfl := bounds
      cases member

/-- The suffix and the bound of a part tell it from the others. -/
theorem part_unique (texts : FloatTexts floats readFloat) {part other : Part} {own limits : LabelKey}
    (suffix : part.suffix = other.suffix) (bounds : part.Bounds readFloat own)
    (more : other.Bounds readFloat limits) (same : own.Perm limits) : part = other := by
  have apart : text "_sum" ≠ text "_count" := by decide
  have written {first second : PyStr} (equal : [(text "le", first)].Perm [(text "le", second)]) :
      first = second := (Prod.mk.inj (List.singleton_perm_singleton.mp equal)).2
  have finite (bound : Double) : readFloat (text "+Inf") ≠ some (.finite bound) := by
    rw [texts.unbounded]
    exact nofun
  cases part with
  | bucket bound =>
      obtain ⟨token, rfl, read⟩ := bounds
      cases other with
      | bucket limit =>
          obtain ⟨found, rfl, again⟩ := more
          obtain rfl := written same
          cases Option.some.inj (read.symm.trans again)
          rfl
      | unbounded =>
          obtain rfl := more
          obtain rfl := written same
          exact absurd read (finite bound)
      | sum | count =>
          obtain rfl := more
          cases List.perm_nil.mp same
  | unbounded =>
      obtain rfl := bounds
      cases other with
      | bucket limit =>
          obtain ⟨found, rfl, again⟩ := more
          obtain rfl := written same
          exact absurd again (finite limit)
      | unbounded => rfl
      | sum | count =>
          obtain rfl := more
          cases List.perm_nil.mp same
  | sum =>
      obtain rfl := bounds
      cases other with
      | bucket limit =>
          obtain ⟨found, rfl, _⟩ := more
          cases List.nil_perm.mp same
      | unbounded =>
          obtain rfl := more
          cases List.nil_perm.mp same
      | sum => rfl
      | count => exact absurd suffix apart
  | count =>
      obtain rfl := bounds
      cases other with
      | bucket limit =>
          obtain ⟨found, rfl, _⟩ := more
          cases List.nil_perm.mp same
      | unbounded =>
          obtain rfl := more
          cases List.nil_perm.mp same
      | sum => exact absurd suffix.symm apart
      | count => rfl

theorem histogram_of_part {update : Update} {part : Part} (known : some part ∈ update.kind.parts) :
    update.kind = .histogram := by
  cases kind : update.kind with
  | counter | gauge =>
      rw [kind] at known
      cases List.mem_singleton.mp known
  | histogram => rfl

/-- A written sample shows no other series than its own. -/
theorem shows_series (texts : FloatTexts floats readFloat) (valid : WellFormed floats updates)
    {update other : Update} (member : update ∈ updates) (inside : other ∈ updates)
    {part next : Option Part} (known : part ∈ update.kind.parts) (belongs : next ∈ other.kind.parts)
    {sample : Sample} (shows_ : Shows readFloat update part sample)
    (series : sample.series = writtenSeries floats other next) :
    writtenSeries floats update part = writtenSeries floats other next := by
  obtain ⟨name, labels⟩ := Prod.mk.inj series
  cases part with
  | none =>
      obtain ⟨named, same⟩ := shows_
      cases next with
      | none =>
          have keys : update.labels.key = other.labels.key := by
            rw [labels] at same
            exact (key_eq_iff _ _).mpr (same.symm.trans (key_perm _))
          exact Prod.ext (named.symm.trans name) keys
      | some next =>
          exact absurd (named.symm.trans name)
            (valid.derived other inside (histogram_of_part belongs) update member next)
  | some part =>
      obtain ⟨named, own, bounds, same⟩ := shows_
      cases next with
      | none =>
          exact absurd (name.symm.trans named)
            (valid.derived update member (histogram_of_part known) other inside part)
      | some next =>
          have names : other.name ++ next.suffix = update.name ++ part.suffix := name.symm.trans named
          have suffix := suffix_same names
          rw [suffix] at names
          have base : other.name = update.name := List.append_cancel_right names
          have plain (update : Update) (present : update ∈ updates) :
              ∀ label ∈ update.labels.key, label.1 ≠ text "le" :=
            fun label found => ((key_valid valid present).2 label found).2
          have free (label : PyStr × PyStr) (found : label ∈ update.labels.pairs) :
              label.1 ≠ text "le" := (valid.labels update member label found).2
          rw [labels] at same
          obtain ⟨items, limits⟩ := own_apart (plain other inside) free
            (bounds_le (labels_bound texts next)) (bounds_le bounds) same
          obtain rfl := part_unique texts suffix (labels_bound texts next) bounds limits
          have keys : update.labels.key = other.labels.key :=
            (key_eq_iff _ _).mpr (items.symm.trans (key_perm _))
          have same : update.key = other.key := Prod.ext base.symm keys
          unfold writtenSeries
          rw [same]

/-- A text with an unescaped description is refused as a whole. -/
theorem FaithfulExposition.escaped (texts : FloatTexts floats readFloat) (valid : WellFormed floats updates)
    (faithful : FaithfulExposition floats readFloat updates) : HelpsEscaped updates := by
  by_contra unescaped
  obtain ⟨samples, read, _⟩ := faithful.parsed
  rw [(readExposition_render texts valid).2 unescaped] at read
  cases read

/-- The exposition is faithful exactly when every description that it writes is escaped. -/
theorem render_faithful (texts : FloatTexts floats readFloat) (updates : List Update)
    (valid : WellFormed floats updates) :
    FaithfulExposition floats readFloat updates ↔ HelpsEscaped updates := by
  constructor
  · exact FaithfulExposition.escaped texts valid
  · intro escaped
    obtain ⟨samples, read, same⟩ := (readExposition_render texts valid).1 escaped
    have series := (same.map Sample.series).nodup_iff.mpr (registrySeries_nodup texts valid)
    have written (sample : Sample) : sample ∈ samples ↔ Written floats updates sample := by
      rw [same.mem_iff, mem_registrySamples valid.finite]
    refine
      { parsed := ⟨samples, read, ?_⟩
        buckets := fun update _ lower upper wider => countBelow_mono _ wider
        counts := fun count small => round_count texts small
        values := fun value double => ⟨_, asFloat_exact texts value double, rfl⟩
        sums := fun values doubles partials => sumOf_exact texts values doubles partials }
    refine
      { shown := fun update member part known => ?_
        only := fun sample inside => ?_
        once := series.of_map }
    · have own := (written _).mpr ((written_iff _).mpr ⟨update, member, part, known, rfl⟩)
      refine ⟨_, own, writtenSample_shows texts update part, rfl, fun other inside shows_ => ?_⟩
      obtain ⟨source, present, next, belongs, rfl⟩ := (written_iff _).mp ((written other).mp inside)
      exact List.inj_on_of_nodup_map series inside own
        (shows_series texts valid member present known belongs shows_ rfl).symm
    · obtain ⟨update, member, part, known, rfl⟩ := (written_iff _).mp ((written sample).mp inside)
      exact ⟨update, member, part, known, writtenSample_shows texts update part⟩

end Series

section Requests

/-- These are the texts of the bounds. -/
def bucketTexts : List (Double × PyStr) :=
  latencyBuckets.zip [text "0.005", text "0.01", text "0.025", text "0.05", text "0.1", text "0.25",
    text "0.5", text "1.0", text "2.5", text "5.0", text "10.0"]

/-- Other floats are written as fractions. -/
def fractionText (number : Double) : PyStr :=
  intStr number.value.num ++ 0x2f :: numeral number.value.den

def bucketRepr (number : Double) : PyStr :=
  ((bucketTexts.find? fun entry => entry.1.value = number.value).map Prod.snd).getD (fractionText number)

open Classical in
/-- A double is its own float, and an integer of 54 bits is rounded to an even mantissa. -/
noncomputable def exactRound (value : ℚ) : PyFloat :=
  if double : IsDouble value then .finite ⟨value, double⟩
  else if even : value.den = 1 ∧ IsDouble (4 * ((value.num + 1) / 4 : Int)) then .finite ⟨_, even.2⟩
  else .nan

noncomputable def exactFloats : FloatLibrary where
  round := exactRound
  repr := bucketRepr

open Classical in
/-- This function finds the float of a text. -/
noncomputable def readExact (token : PyStr) : Option PyFloat :=
  if known : ∃ number, bucketRepr number = token then some (.finite known.choose)
  else if whole : ∃ value, intStr value = token then some (exactRound whole.choose)
  else if token = text "inf" ∨ token = text "+Inf" then some (.infinite false)
  else if token = text "-inf" then some (.infinite true)
  else if token = text "nan" then some .nan
  else none

theorem bucketRepr_cases (number : Double) :
    (∃ entry ∈ bucketTexts, entry.1.value = number.value ∧ bucketRepr number = entry.2) ∨
      bucketRepr number = fractionText number := by
  unfold bucketRepr
  cases found : bucketTexts.find? fun entry => entry.1.value = number.value with
  | none => exact .inr rfl
  | some entry =>
      have same := List.find?_some found
      exact .inl ⟨entry, List.mem_of_find?_eq_some found, by simpa using same, rfl⟩

/-- The texts of the bounds are tokens with a point, and they are distinct. -/
theorem bucketTexts_apart : (∀ entry ∈ bucketTexts, (entry.2 ≠ [] ∧
      (entry.2.all fun symbol => !isBlank symbol) = true ∧ entry.2.head? ≠ some 0x7b ∧
        0x0a ∉ entry.2) ∧ 0x2e ∈ entry.2 ∧ 0x2f ∉ entry.2) ∧
    ∀ entry ∈ bucketTexts, ∀ other ∈ bucketTexts, entry.2 = other.2 → entry.1.value = other.1.value := by
  unfold bucketTexts latencyBuckets Double.scaled
  decide +kernel

theorem fractionText_mark (number : Double) : 0x2f ∈ fractionText number := by
  unfold fractionText
  simp

theorem bucketRepr_marked (number : Double) :
    0x2e ∈ bucketRepr number ∨ 0x2f ∈ bucketRepr number := by
  rcases bucketRepr_cases number with ⟨entry, member, _, same⟩ | same
  · rw [same]
    exact .inl (bucketTexts_apart.1 entry member).2.1
  · rw [same]
    exact .inr (fractionText_mark number)

theorem fractionText_injective {first second : Double} (same : fractionText first = fractionText second) :
    first.value = second.value := by
  have free (number : Double) : (0x2f : CodePoint) ∉ intStr number.value.num :=
    intStr_free _ _ (by decide) (by decide)
  obtain ⟨numerators, rest⟩ := PrefixCode.delimited_ofFree (0x2f : CodePoint) _ _ _ _ (free first)
    (free second) rfl rfl same
  have denominators : numeral first.value.den = numeral second.value.den :=
    (List.cons.inj rest).2
  exact Rat.ext (intStr_injective numerators) (numeral_injective denominators)

theorem bucketRepr_injective : Function.Injective bucketRepr := by
  intro first second same
  have values : first.value = second.value := by
    rcases bucketRepr_cases first with ⟨entry, member, equal, written⟩ | written
    · rcases bucketRepr_cases second with ⟨other, inside, equal', written'⟩ | written'
      · rw [← equal, ← equal']
        exact bucketTexts_apart.2 entry member other inside (by rw [← written, same, written'])
      · refine absurd (fractionText_mark second) ?_
        rw [← written', ← same, written]
        exact (bucketTexts_apart.1 entry member).2.2
    · rcases bucketRepr_cases second with ⟨other, inside, _, written'⟩ | written'
      · refine absurd (fractionText_mark first) ?_
        rw [← written, same, written']
        exact (bucketTexts_apart.1 other inside).2.2
      · exact fractionText_injective (by rw [← written, same, written'])
  obtain ⟨value, _⟩ := first
  obtain ⟨other, _⟩ := second
  cases values
  rfl

/-- A text without a mark is no text of a float. -/
theorem unmarked_unknown {token : PyStr} (point : 0x2e ∉ token) (slash : 0x2f ∉ token) :
    ¬ ∃ number, bucketRepr number = token := by
  rintro ⟨number, rfl⟩
  rcases bucketRepr_marked number with mark | mark
  · exact point mark
  · exact slash mark

theorem letter_unknown {token : PyStr} (letter : 0x6e ∈ token) : ¬ ∃ value, intStr value = token := by
  rintro ⟨value, rfl⟩
  exact intStr_free value 0x6e (by decide) (by decide) letter

theorem readExact_constant {token : PyStr} (point : 0x2e ∉ token) (slash : 0x2f ∉ token)
    (letter : 0x6e ∈ token) : readExact token =
      if token = text "inf" ∨ token = text "+Inf" then some (.infinite false)
      else if token = text "-inf" then some (.infinite true)
      else if token = text "nan" then some .nan
      else none := by
  unfold readExact
  rw [dif_neg (unmarked_unknown point slash), dif_neg (letter_unknown letter)]

/-- The fractions and the short texts obey the laws. -/
theorem exactTexts : FloatTexts exactFloats readExact where
  token number _ := by
    change IsToken (bucketRepr number)
    rcases bucketRepr_cases number with ⟨entry, member, _, same⟩ | same
    · rw [same]
      exact (bucketTexts_apart.1 entry member).1
    · obtain ⟨filled, solid, opens, single⟩ := intStr_token number.value.num
      obtain ⟨_, below, _, free⟩ := intStr_token number.value.den
      rw [same]
      unfold fractionText
      refine ⟨by simp, ?_, ?_, ?_⟩
      · rw [List.all_append, List.all_cons, solid]
        exact below
      · rwa [List.head?_append_of_ne_nil _ filled]
      · simp only [List.mem_append, List.mem_cons, not_or]
        exact ⟨single, by decide, free⟩
  reprs number _ := by
    have known : ∃ other, bucketRepr other = bucketRepr number := ⟨number, rfl⟩
    change readExact (bucketRepr number) = _
    unfold readExact
    rw [dif_pos known, bucketRepr_injective known.choose_spec]
  ints value := by
    have whole : ∃ other, intStr other = intStr value := ⟨value, rfl⟩
    unfold readExact
    rw [dif_neg (unmarked_unknown (intStr_free value _ (by decide) (by decide))
      (intStr_free value _ (by decide) (by decide))), dif_pos whole,
      intStr_injective whole.choose_spec]
    rfl
  exact number := dif_pos number.double
  positive := by
    rw [readExact_constant (by decide) (by decide) (by decide)]
    exact if_pos (.inl rfl)
  negative := by
    rw [readExact_constant (by decide) (by decide) (by decide)]
    rw [if_neg (by decide)]
    exact if_pos rfl
  undefined := by
    rw [readExact_constant (by decide) (by decide) (by decide)]
    rw [if_neg (by decide), if_neg (by decide)]
    exact if_pos rfl
  unbounded := by
    rw [readExact_constant (by decide) (by decide) (by decide)]
    exact if_pos (.inr rfl)

theorem twoLabels_nodup {first second : PyStr × PyStr} (apart : first.1 ≠ second.1) :
    ([first, second].map Prod.fst).Nodup := by simpa using apart

theorem path_ne_code : text "path" ≠ text "code" := by decide

def boundAt (index : Nat) : Double := latencyBuckets.getD index .zero

/-- A counter has a label value with a quote, a backslash and a line feed, its second description is not
escaped, and a gauge is an integer that is no double. -/
def requestUpdates : List Update :=
  [⟨.counter, text "esi_requests_total", .float (boundAt 9), text "Requests\\\\paths\\n",
      ⟨[(text "path", text "a\"b\\c\nd"), (text "code", text "200")],
        twoLabels_nodup path_ne_code⟩⟩,
    ⟨.counter, text "esi_requests_total", .int 3, text "a\\q",
      ⟨[(text "code", text "200"), (text "path", text "a\"b\\c\nd")],
        twoLabels_nodup path_ne_code.symm⟩⟩,
    ⟨.counter, text "esi_requests_total", .int 2, [], ⟨[(text "code", text "304")], List.nodup_singleton _⟩⟩,
    ⟨.gauge, text "cache_bytes", .int (2 ^ 53 + 1), [], ⟨[], List.nodup_nil⟩⟩,
    ⟨.histogram, text "latency_seconds", .float (boundAt 6), text "Latency",
      ⟨[(text "path", text "/x")], List.nodup_singleton _⟩⟩,
    ⟨.histogram, text "latency_seconds", .int 2, text "Latency",
      ⟨[(text "path", text "/x")], List.nodup_singleton _⟩⟩]

theorem exactRound_small {value : Int} (small : value.natAbs < 2 ^ 54) :
    ∃ number, exactRound value = .finite number := by
  by_cases double : IsDouble value
  · exact ⟨_, dif_pos double⟩
  · have even : IsDouble (4 * ((value + 1) / 4 : Int)) :=
      ⟨(value + 1) / 4, 2, 0, by omega, by decide, by decide, by ring⟩
    exact ⟨_, (dif_neg double).trans (dif_pos ⟨Rat.den_intCast value, by rwa [Rat.num_intCast]⟩)⟩

theorem requestUpdates_wellFormed : WellFormed exactFloats requestUpdates where
  finite := by
    have small : ∀ update ∈ requestUpdates, update.value.exact.num.natAbs < 2 ^ 54 := by
      decide +kernel
    intro update member
    have bits := small update member
    obtain ⟨kind, name, value, help, labels⟩ := update
    cases value with
    | int value => exact exactRound_small (by simpa [Number.exact] using bits)
    | float value => exact ⟨value, rfl⟩
  names := by decide +kernel
  labels := by decide +kernel
  helps := by decide +kernel
  kinds := by decide +kernel
  derived := fun first member histogram second known part => by
    have apart : ∀ first ∈ requestUpdates, first.kind = .histogram → ∀ second ∈ requestUpdates,
      ∀ suffix ∈ suffixes, second.name ≠ first.name ++ suffix := by decide +kernel
    exact apart first member histogram second known part.suffix (suffix_known part)

theorem requestUpdates_escaped : HelpsEscaped requestUpdates := by
  have checked : ∀ update ∈ requestUpdates,
    ∀ first ∈ requestUpdates.find? fun other => other.name = update.name, isEscaped first.help = true := by
    decide +kernel
  intro name update found
  have named : update.name = name := by simpa using List.find?_some found
  exact checked update (List.mem_of_find?_eq_some found) update (by rwa [named])

theorem render_faithful_requests : FaithfulExposition exactFloats readExact requestUpdates :=
  (render_faithful exactTexts requestUpdates requestUpdates_wellFormed).mpr requestUpdates_escaped

/-- The description has a backslash that escapes nothing. -/
def patternUpdates : List Update :=
  [⟨.counter, text "requests_total", .int 1, text "a\\q", ⟨[], List.nodup_nil⟩⟩]

theorem render_unfaithful_pattern : WellFormed exactFloats patternUpdates ∧
    ¬FaithfulExposition exactFloats readExact patternUpdates := by
  have valid : WellFormed exactFloats patternUpdates :=
    { finite := fun update member => by
        rw [List.mem_singleton.mp member]
        exact exactRound_small (by decide)
      names := by decide +kernel
      labels := by decide +kernel
      helps := by decide +kernel
      kinds := by decide +kernel
      derived := fun first member histogram => by
        rw [List.mem_singleton.mp member] at histogram
        cases histogram }
  refine ⟨valid, fun faithful => ?_⟩
  have escaped := faithful.escaped exactTexts valid (text "requests_total") _ rfl
  exact absurd escaped (by decide +kernel)

end Requests

end EveApiCache
