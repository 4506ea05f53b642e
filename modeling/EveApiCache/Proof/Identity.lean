import EveApiCache.Construction.Request
import EveApiCache.Proof.JsonText
import EveApiCache.Proof.Pinned

/-!
This file shows that the cache key of a request identifies its upstream call.
-/

namespace EveApiCache
open Json

theorem scalarBack_scalar (value : Json) (scalar : Scalar value) : Scalar (scalarBack value) := by
  cases value <;> exact scalar

theorem dumps_scalarBack (separators : Separators) (value : Json) (scalar : Scalar value) :
    dumps separators (scalarBack value) = dumps separators value := by
  cases value with
  | str value => exact quoted_readBack value
  | int value => rfl
  | null => cases scalar
  | bool => cases scalar
  | float => cases scalar
  | arr => cases scalar
  | obj => cases scalar

theorem sortKeys_scalar (value : Json) (scalar : Scalar value) : sortKeys value = value := by
  cases value with
  | str value => rfl
  | int value => rfl
  | null => cases scalar
  | bool => cases scalar
  | float => cases scalar
  | arr => cases scalar
  | obj => cases scalar

theorem canonical_scalarBack (value : Json) (scalar : Scalar value) :
    (scalarBack value).canonical = value.canonical := by
  unfold canonical
  rw [sortKeys_scalar _ (scalarBack_scalar value scalar), sortKeys_scalar value scalar,
    dumps_scalarBack _ value scalar]

theorem sortedDumps_scalarBack (value : Json) (scalar : Scalar value) :
    (scalarBack value).sortedDumps = value.sortedDumps := by
  unfold sortedDumps
  rw [sortKeys_scalar _ (scalarBack_scalar value scalar), sortKeys_scalar value scalar,
    dumps_scalarBack _ value scalar]

theorem sortItems_scalar (items : List Json) (scalars : ∀ item ∈ items, Scalar item) :
    sortItems items = items := by
  induction items with
  | nil => rfl
  | cons item items ih =>
      rw [sortItems, sortKeys_scalar item (scalars item (by simp)),
        ih fun other member => scalars other (by simp [member])]

theorem canonical_arr (items : List Json) (scalars : ∀ item ∈ items, Scalar item) :
    (arr items).canonical = dumps compactSeparators (arr items) := by
  unfold canonical
  rw [sortKeys, sortItems_scalar items scalars]

theorem dumps_arr_scalarBack (items : List Json) (scalars : ∀ item ∈ items, Scalar item) :
    dumps compactSeparators (arr (items.map scalarBack)) = dumps compactSeparators (arr items) := by
  have tail (items : List Json) (scalars : ∀ item ∈ items, Scalar item) :
      dumpsItems compactSeparators (items.map scalarBack) = dumpsItems compactSeparators items := by
    induction items with
    | nil => rfl
    | cons item items ih =>
        rw [List.map_cons, dumpsItems, dumpsItems, dumps_scalarBack _ item (scalars item (by simp)),
          ih fun other member => scalars other (by simp [member])]
  cases items with
  | nil => rfl
  | cons first items =>
      rw [List.map_cons, dumps, dumps, dumps_scalarBack _ first (scalars first (by simp)),
        tail items fun other member => scalars other (by simp [member])]

/-- The loop keeps a sublist whose markers are new and distinct. -/
theorem dedupe_sublist (seen : List PyStr) (items : List Json) :
    (dedupe seen items).Sublist items := by
  induction items generalizing seen with
  | nil => exact List.Sublist.slnil
  | cons item items ih =>
      rw [dedupe]
      split_ifs
      · exact (ih seen).cons item
      · exact (ih _).cons_cons item

theorem dedupe_fresh (seen : List PyStr) (items : List Json) :
    ((dedupe seen items).map canonical).Nodup ∧
      ∀ item ∈ dedupe seen items, item.canonical ∉ seen := by
  induction items generalizing seen with
  | nil => simp [dedupe]
  | cons item items ih =>
      rw [dedupe]
      split_ifs with known
      · exact ih seen
      · obtain ⟨nodup, fresh⟩ := ih (item.canonical :: seen)
        refine ⟨?_, ?_⟩
        · rw [List.map_cons, List.nodup_cons]
          refine ⟨fun member => ?_, nodup⟩
          obtain ⟨other, inside, same⟩ := List.mem_map.mp member
          exact fresh other inside (by simp [same])
        · intro other member
          rcases List.mem_cons.mp member with rfl | member
          · exact known
          · exact fun inside => fresh other member (by simp [inside])

theorem dedupe_of_nodup (seen : List PyStr) (items : List Json)
    (nodup : (items.map canonical).Nodup) (fresh : ∀ item ∈ items, item.canonical ∉ seen) :
    dedupe seen items = items := by
  induction items generalizing seen with
  | nil => rfl
  | cons item items ih =>
      rw [List.map_cons, List.nodup_cons] at nodup
      rw [dedupe, if_neg (fresh item (by simp)), ih _ nodup.2]
      intro other member inside
      rcases List.mem_cons.mp inside with same | inside
      · exact nodup.1 (List.mem_map.mpr ⟨other, member, same⟩)
      · exact fresh other (by simp [member]) inside

/-- The items of a batch in the order of their text. -/
def Ordered (items : List Json) : Prop :=
  items.Pairwise fun first second => first.sortedDumps ≤ second.sortedDumps

theorem sort_ordered (items : List Json) :
    Ordered (items.insertionSort fun first second => first.sortedDumps ≤ second.sortedDumps) := by
  have total : Std.Total fun first second : Json => first.sortedDumps ≤ second.sortedDumps :=
    ⟨fun _ _ => le_total _ _⟩
  have transitive : IsTrans Json fun first second => first.sortedDumps ≤ second.sortedDumps :=
    ⟨fun _ _ _ => le_trans⟩
  exact List.pairwise_insertionSort _ items

theorem normalizeItems_scalar (items : List Json) (scalars : ∀ item ∈ items, Scalar item) :
    ∀ item ∈ normalizeItems items, Scalar item := by
  intro item member
  have inside := (dedupe_sublist [] _).subset member
  exact scalars item ((List.perm_insertionSort _ items).subset inside)

/-- Normalizing a normalized batch that was written and read changes nothing. -/
theorem normalizeItems_back (items : List Json) (scalars : ∀ item ∈ items, Scalar item) :
    normalizeItems ((normalizeItems items).map scalarBack) = (normalizeItems items).map scalarBack := by
  have inside := normalizeItems_scalar items scalars
  have ordered : Ordered ((normalizeItems items).map scalarBack) := by
    refine List.pairwise_map.mpr (List.Pairwise.imp_of_mem ?_
      ((sort_ordered items).sublist (dedupe_sublist [] _)))
    intro first second memberFirst memberSecond before
    rwa [sortedDumps_scalarBack first (inside first memberFirst),
      sortedDumps_scalarBack second (inside second memberSecond)]
  have markers : ((normalizeItems items).map scalarBack).map canonical =
      (normalizeItems items).map canonical := by
    rw [List.map_map]
    exact List.map_congr_left fun item member => canonical_scalarBack item (inside item member)
  have sorted := List.Pairwise.insertionSort_eq ordered
  unfold normalizeItems at sorted markers ⊢
  rw [sorted, dedupe_of_nodup]
  · rw [markers]
    exact (dedupe_fresh [] _).1
  · simp

theorem batch_scalar (floatRepr : PyStr → PyStr) (input : Bytes) (items : List Json)
    (decoded : loads floatRepr input = some (arr items)) (batch : items.all isBatchItem = true) :
    ∀ item ∈ items, Scalar item := by
  intro item member
  have kind := List.all_eq_true.mp batch item member
  cases item with
  | int value => exact loads_scalar floatRepr input items decoded value member
  | str value => trivial
  | null => cases kind
  | bool => cases kind
  | float => cases kind
  | arr => cases kind
  | obj => cases kind

variable (libraries : Libraries)

/-- A valid batch has a normalized body that normalizes to itself. -/
theorem normalizeBody_batch (settings : Settings) (body : Option Bytes)
    (valid : validatePostBody libraries settings.maxPostBatchItems body = none) :
    ∃ normalized, normalizeBody libraries body = some normalized ∧ normalized ≠ [] ∧
      normalizeBody libraries (some normalized) = some normalized := by
  unfold validatePostBody at valid
  split at valid
  · cases valid
  · rename_i raw
    split_ifs at valid with empty
    split at valid
    · cases valid
    · rename_i items decoded
      split_ifs at valid with large batch
      have scalars := batch_scalar libraries.floatRepr raw items decoded batch
      have inside := normalizeItems_scalar items scalars
      have nonempty : encode ((arr (normalizeItems items)).canonical) ≠ [] := by
        rw [canonical_arr _ inside]
        cases normalizeItems items <;> simp [dumps, text, encode, encodePoint]
      have again : loads libraries.floatRepr (encode (arr (normalizeItems items)).canonical) =
          some (arr ((normalizeItems items).map scalarBack)) := by
        rw [canonical_arr _ inside]
        exact loads_batch libraries.floatRepr _ inside
      have back : ((normalizeItems items).map scalarBack |> arr).canonical =
          (arr (normalizeItems items)).canonical := by
        rw [canonical_arr _ inside, canonical_arr, dumps_arr_scalarBack _ inside]
        intro item member
        obtain ⟨source, present, rfl⟩ := List.mem_map.mp member
        exact scalarBack_scalar source (inside source present)
      refine ⟨_, by simp [normalizeBody, empty, decoded], nonempty, ?_⟩
      simp [normalizeBody, nonempty, again, normalizeItems_back items scalars, back]
    · cases valid

theorem sortFields_strFields (pairs : List (PyStr × PyStr)) :
    sortFields (strFields pairs) = strFields pairs := by
  induction pairs with
  | nil => rfl
  | cons pair pairs ih =>
      simp only [strFields, List.map_cons] at ih ⊢
      rw [sortFields, ih, sortKeys.eq_def]

/-- The names of the remaining parameters increase. -/
theorem normalizeParams_ordered (params : Params) :
    (normalizeParams params).pairs.Pairwise fun first second => first.1 ≤ second.1 := by
  have total : Std.Total fun first second : PyStr × PyStr => first.1 ≤ second.1 :=
    ⟨fun _ _ => le_total _ _⟩
  have transitive : IsTrans (PyStr × PyStr) fun first second => first.1 ≤ second.1 :=
    ⟨fun _ _ _ => le_trans⟩
  exact (List.pairwise_insertionSort _ params.pairs).sublist List.filter_sublist

theorem normalizeParams_mem (params : Params) (pair : PyStr × PyStr) :
    pair ∈ (normalizeParams params).pairs ↔
      pair ∈ params.pairs ∧ proxyParams.contains pair.1 = false := by
  simp only [normalizeParams, List.mem_filter, List.mem_insertionSort, Bool.not_eq_true']

theorem normalizeParams_idem (params : Params) :
    (normalizeParams (normalizeParams params)).pairs = (normalizeParams params).pairs := by
  have sorted := List.Pairwise.insertionSort_eq (normalizeParams_ordered params)
  have kept : (normalizeParams params).pairs.filter (fun pair => !proxyParams.contains pair.1) =
      (normalizeParams params).pairs := by
    refine List.filter_eq_self.mpr fun pair member => ?_
    rw [((normalizeParams_mem params pair).mp member).2]
    rfl
  change ((normalizeParams params).pairs.insertionSort _).filter _ = _
  rw [sorted, kept]

/-- Normalized parameters are already in the order of `sort_keys`. -/
theorem sortedDumps_params (params : Params) :
    (obj (strFields (normalizeParams params).pairs)).sortedDumps =
      dumps defaultSeparators (obj (strFields (normalizeParams params).pairs)) := by
  have ordered : (strFields (normalizeParams params).pairs).Pairwise
      fun first second => first.1 ≤ second.1 :=
    List.pairwise_map.mpr (normalizeParams_ordered params)
  unfold sortedDumps
  rw [sortKeys, sortFields_strFields, List.Pairwise.insertionSort_eq ordered]

/-- The body part of the query text is the body itself when it is normalized. -/
def Normalized (body : Option Bytes) : Prop :=
  body = none ∨ ∃ raw, body = some raw ∧ raw ≠ [] ∧ normalizeBody libraries body = some raw

theorem queryText_normalized (params : Params) (body : Option Bytes)
    (normalized : Normalized libraries body) :
    queryText libraries params body =
      encode (dumps defaultSeparators (obj (strFields (normalizeParams params).pairs))) ++
        body.getD [] := by
  have front := sortedDumps_params params
  unfold strFields at front ⊢
  unfold queryText
  rw [front]
  rcases normalized with rfl | ⟨raw, rfl, nonempty, same⟩
  · rfl
  · simp [nonempty, same]

/-- These are the facts about an accepted request. -/
structure Accepted (settings : Settings) (request : Request) (prepared : Prepared) : Prop where
  known : validateDatasource prepared.datasource = true
  body : Normalized libraries prepared.call.body
  bodiless : (prepared.call.body = none ↔ request.method = .get)
  call : prepared.call = ⟨request.fullPath, request.method,
    esiParams prepared.datasource (normalizeParams request.params), prepared.call.body⟩
  hash : prepared.queryHash =
    computeQueryHash libraries (normalizeParams request.params) prepared.call.body
  key : prepared.cacheKey = buildCacheKey libraries prepared.datasource request.method
    request.fullPath request.params prepared.call.body

theorem prepare_accepted (settings : Settings) (request : Request) (prepared : Prepared)
    (ok : prepare libraries settings request = .ok prepared) :
    Accepted libraries settings request prepared := by
  unfold prepare at ok
  split at ok
  · cases ok
  · split at ok
    · cases ok
    · dsimp only at ok
      split_ifs at ok with unknown post
      · split at ok
        · cases ok
        · split at ok
          · cases ok
          · rename_i valid
            cases ok
            obtain ⟨normalized, same, nonempty, again⟩ :=
              normalizeBody_batch libraries settings request.body valid
            exact
              { known := by simpa using unknown
                body := .inr ⟨normalized, same, nonempty, same ▸ again⟩
                bodiless := by simp [same, post]
                call := rfl
                hash := rfl
                key := rfl }
      · split at ok
        · cases ok
        · cases ok
          have get : request.method = .get := by
            cases shape : request.method with
            | get => rfl
            | post => exact absurd shape post
          exact
            { known := by simpa using unknown
              body := .inl (request.bodiless get)
              bodiless := by simp [request.bodiless get, get]
              call := rfl
              hash := rfl
              key := rfl }

theorem lookup_eq_some (pairs : List (PyStr × PyStr)) (nodup : (pairs.map Prod.fst).Nodup)
    (name value : PyStr) : pairs.lookup name = some value ↔ (name, value) ∈ pairs := by
  induction pairs with
  | nil => simp
  | cons pair pairs ih =>
      obtain ⟨other, content⟩ := pair
      rw [List.map_cons, List.nodup_cons] at nodup
      by_cases same : name = other
      · subst same
        have absent : (name, value) ∉ pairs := fun member =>
          nodup.1 (List.mem_map.mpr ⟨_, member, rfl⟩)
        simp [absent, eq_comm]
      · have differs : (name == other) = false := by simpa using same
        simp [List.lookup_cons, differs, ih nodup.2, same]

/-- Ordered parameters that are equal as dictionaries are equal. -/
theorem ordered_ext (first second : Params)
    (orderedFirst : first.pairs.Pairwise fun one two => one.1 ≤ two.1)
    (orderedSecond : second.pairs.Pairwise fun one two => one.1 ≤ two.1)
    (same : ∀ name, first.get name = second.get name) : first.pairs = second.pairs := by
  have members (pair : PyStr × PyStr) : pair ∈ first.pairs ↔ pair ∈ second.pairs := by
    rw [← lookup_eq_some first.pairs first.nodup, ← lookup_eq_some second.pairs second.nodup]
    exact iff_of_eq (congrArg (· = some pair.2) (same pair.1))
  have permuted : first.pairs.Perm second.pairs :=
    (List.perm_ext_iff_of_nodup first.nodup.of_map second.nodup.of_map).mpr members
  refine permuted.eq_of_pairwise (fun one two memberOne memberTwo before after => ?_)
    orderedFirst orderedSecond
  have names : one.1 = two.1 := le_antisymm before after
  have valueOne := (lookup_eq_some first.pairs first.nodup one.1 one.2).mpr memberOne
  have valueTwo := (lookup_eq_some first.pairs first.nodup two.1 two.2).mpr
    ((members two).mpr memberTwo)
  rw [names, valueTwo] at valueOne
  exact Prod.ext names (Option.some.inj valueOne).symm

theorem get_set_other (params : Params) (name value other : PyStr) (differs : other ≠ name) :
    (params.set name value).get other = params.get other := by
  apply Option.ext
  intro content
  unfold Params.get
  rw [lookup_eq_some _ (params.set name value).nodup, lookup_eq_some _ params.nodup]
  simp only [Params.set, List.mem_append, List.mem_filter, List.mem_singleton, Prod.mk.injEq]
  simp [differs]

theorem get_set_self (params : Params) (name value : PyStr) :
    (params.set name value).get name = some value := by
  unfold Params.get
  rw [lookup_eq_some _ (params.set name value).nodup]
  simp [Params.set]

theorem get_normalized_datasource (params : Params) :
    (normalizeParams params).get (text "datasource") = none := by
  unfold Params.get
  cases found : (normalizeParams params).pairs.lookup (text "datasource") with
  | none => rfl
  | some value =>
      have member := (lookup_eq_some _ (normalizeParams params).nodup _ _).mp found
      have outside := ((normalizeParams_mem params _).mp member).2
      have inside : proxyParams.contains (text "datasource") = true := by decide
      rw [inside] at outside
      cases outside

/-- The upstream parameters show the datasource and the remaining parameters. -/
theorem esiParams_ext (first second : PyStr) (one two : Params)
    (same : ∀ name, (esiParams first (normalizeParams one)).get name =
      (esiParams second (normalizeParams two)).get name) :
    first = second ∧ (normalizeParams one).pairs = (normalizeParams two).pairs := by
  have main := same (text "datasource")
  have datasources : first = second := by
    unfold esiParams at main
    split_ifs at main with left right right
    · rw [left, right]
    · rw [get_set_self, get_normalized_datasource] at main
      cases main
    · rw [get_set_self, get_normalized_datasource] at main
      cases main
    · rw [get_set_self, get_set_self] at main
      exact Option.some.inj main
  refine ⟨datasources, ordered_ext _ _ (normalizeParams_ordered one) (normalizeParams_ordered two) ?_⟩
  intro name
  by_cases reserved : name = text "datasource"
  · rw [reserved, get_normalized_datasource, get_normalized_datasource]
  · have here := same name
    unfold esiParams at here
    split_ifs at here <;> simpa only [get_set_other _ _ _ _ reserved] using here

/-- A colon separates the parts of a key, and no part but the path contains one. -/
theorem key_parts (firstDatasource secondDatasource : PyStr) (firstMethod secondMethod : Method)
    (firstPath secondPath firstHash secondHash : PyStr)
    (knownFirst : validateDatasource firstDatasource = true)
    (knownSecond : validateDatasource secondDatasource = true)
    (plainFirst : (0x3a : CodePoint) ∉ firstHash) (plainSecond : (0x3a : CodePoint) ∉ secondHash)
    (same : text "esi:" ++ firstDatasource ++ text ":" ++ firstMethod.upper ++ text ":" ++
        firstPath ++ text ":" ++ firstHash =
      text "esi:" ++ secondDatasource ++ text ":" ++ secondMethod.upper ++ text ":" ++
        secondPath ++ text ":" ++ secondHash) :
    firstDatasource = secondDatasource ∧ firstMethod = secondMethod ∧ firstPath = secondPath ∧
      firstHash = secondHash := by
  have colon : text ":" = [0x3a] := by decide
  have free (datasource : PyStr) (known : validateDatasource datasource = true) :
      (0x3a : CodePoint) ∉ datasource := by
    have listed : datasource ∈ validDatasources := by simpa [validateDatasource] using known
    have all : ∀ datasource ∈ validDatasources, (datasource.contains 0x3a) = false := by decide
    simpa using all datasource listed
  have freeMethod (method : Method) : (0x3a : CodePoint) ∉ method.upper := by
    cases method <;> decide
  simp only [List.append_assoc, colon] at same
  have head (rest : PyStr) : ([0x3a] ++ rest : PyStr).head? = some 0x3a := rfl
  obtain ⟨datasources, same⟩ := PrefixCode.delimited_ofFree (0x3a : CodePoint) _ _ _ _
    (free _ knownFirst) (free _ knownSecond) (head _) (head _) (List.append_cancel_left same)
  obtain ⟨methods, same⟩ := PrefixCode.delimited_ofFree (0x3a : CodePoint) _ _ _ _
    (freeMethod _) (freeMethod _) (head _) (head _) (List.append_cancel_left same)
  have reversed := congrArg List.reverse (List.append_cancel_left same)
  simp only [List.reverse_append, List.append_assoc, List.reverse_singleton] at reversed
  obtain ⟨hashes, paths⟩ := PrefixCode.delimited_ofFree (0x3a : CodePoint) _ _ _ _
    (by simpa using plainFirst) (by simpa using plainSecond) (head _) (head _) reversed
  refine ⟨datasources, ?_, by simpa using List.append_cancel_left paths, by simpa using hashes⟩
  cases firstMethod <;> cases secondMethod <;> first | rfl | exact absurd methods (by decide)

/-- The query text determines the remaining parameters and the body. -/
theorem queryText_injective (one two : Params) (first second : Option Bytes)
    (unpairedOne : ∀ pair ∈ one.pairs, Unpaired pair.1 ∧ Unpaired pair.2)
    (unpairedTwo : ∀ pair ∈ two.pairs, Unpaired pair.1 ∧ Unpaired pair.2)
    (normalizedFirst : Normalized libraries first) (normalizedSecond : Normalized libraries second)
    (same : queryText libraries one first = queryText libraries two second) :
    (normalizeParams one).pairs = (normalizeParams two).pairs ∧ first.getD [] = second.getD [] := by
  have unpaired (params : Params) (all : ∀ pair ∈ params.pairs, Unpaired pair.1 ∧ Unpaired pair.2) :
      ∀ pair ∈ (normalizeParams params).pairs, Unpaired pair.1 ∧ Unpaired pair.2 :=
    fun pair member => all pair ((normalizeParams_mem params pair).mp member).1
  have widen (string : PyStr) (printable : Printable string) (rest : Bytes) :
      (encode string ++ rest).map (fun value => point value.val) =
        string ++ rest.map fun value => point value.val := by
    rw [encode_printable string printable, List.map_append, List.map_map]
    congr 1
    refine (List.map_congr_left fun symbol member => ?_).trans (List.map_id _)
    have range := printable symbol member
    apply Fin.ext
    simp only [Function.comp_apply, id]
    rw [octet_val _ (by omega), point_val _ (by omega)]
  rw [queryText_normalized libraries one first normalizedFirst,
    queryText_normalized libraries two second normalizedSecond] at same
  have wide := congrArg (List.map fun value : Byte => point value.val) same
  rw [widen _ (strFields_printable _), widen _ (strFields_printable _)] at wide
  obtain ⟨params, rest⟩ := strFields_selfDelimiting _ _ _ _
    ⟨unpaired one unpairedOne, (normalizeParams one).nodup⟩
    ⟨unpaired two unpairedTwo, (normalizeParams two).nodup⟩ trivial trivial wide
  refine ⟨params, List.map_injective_iff.mpr (fun left right equal => ?_) rest⟩
  have values := congrArg Fin.val equal
  rw [point_val _ (by omega), point_val _ (by omega)] at values
  exact Fin.ext values

theorem normalized_ext {first second : Option Bytes} (one : Normalized libraries first)
    (two : Normalized libraries second) (same : first.getD [] = second.getD []) : first = second := by
  rcases one with rfl | ⟨left, rfl, nonemptyLeft, _⟩ <;>
    rcases two with rfl | ⟨right, rfl, nonemptyRight, _⟩
  · rfl
  · exact absurd same.symm nonemptyRight
  · exact absurd same nonemptyLeft
  · exact congrArg some same

/-- Equal keys and equal upstream calls are the same thing for accepted requests. -/
theorem cacheKey_eq_iff_sameCall (settings : Settings)
    (injective : Function.Injective libraries.queryDigest)
    (plain : ∀ input, (0x3a : CodePoint) ∉ libraries.queryDigest input)
    (first second : Request) (one two : Prepared)
    (unpairedFirst : ∀ pair ∈ first.params.pairs, Unpaired pair.1 ∧ Unpaired pair.2)
    (unpairedSecond : ∀ pair ∈ second.params.pairs, Unpaired pair.1 ∧ Unpaired pair.2)
    (acceptedFirst : prepare libraries settings first = .ok one)
    (acceptedSecond : prepare libraries settings second = .ok two) :
    one.cacheKey = two.cacheKey ↔ one.call.Same two.call := by
  have left := prepare_accepted libraries settings first one acceptedFirst
  have right := prepare_accepted libraries settings second two acceptedSecond
  rw [left.key, right.key]
  constructor
  · intro keys
    obtain ⟨datasources, methods, paths, hashes⟩ := key_parts _ _ _ _ _ _ _ _ left.known right.known
      (plain _) (plain _) keys
    obtain ⟨params, bodies⟩ := queryText_injective libraries _ _ _ _ unpairedFirst unpairedSecond
      left.body right.body (injective hashes)
    rw [left.call, right.call]
    refine ⟨methods, paths, fun name => ?_, ?_⟩
    · change (esiParams _ _).get name = (esiParams _ _).get name
      rw [datasources, Params.ext params]
    · exact normalized_ext libraries left.body right.body bodies
  · intro calls
    have upstream := calls
    rw [left.call, right.call] at upstream
    obtain ⟨methods, paths, params, bodies⟩ := upstream
    obtain ⟨datasources, pairs⟩ := esiParams_ext _ _ _ _ params
    have queries : queryText libraries first.params one.call.body =
        queryText libraries second.params two.call.body := by
      rw [queryText_normalized libraries _ _ left.body, queryText_normalized libraries _ _ right.body,
        pairs, show one.call.body = two.call.body from bodies]
    unfold buildCacheKey computeQueryHash
    rw [datasources, show first.method = second.method from methods,
      show first.fullPath = second.fullPath from paths, queries]

/-- This digest is the real one on the query text of the batch below. -/
def batchDigest : Bytes → PyStr :=
  pinnedDigest [(bytes "\x7b\x7d[\"a\",1,2]", text "76efd82289b6d411")]

def batchLibraries : Libraries where
  floatRepr := id
  floatInt _ := none
  sha256 := batchDigest
  queryDigest := batchDigest
  zstandard := none
  zlib := pinnedCompressor [] (by simp [Consistent])
  pyarrow := none
  jsonb _ := none

/-- This request asks for a batch of names. -/
def batchRequest (body : Bytes) : Request :=
  ⟨text "/v1/universe/names/", .post, .empty, some body, nofun⟩

theorem batchDigest_pinnable :
    Pinnable [(bytes "\x7b\x7d[\"a\",1,2]", text "76efd82289b6d411")] := by
  refine ⟨by simp, fun pin member => ?_⟩
  obtain rfl := List.mem_singleton.mp member
  decide

/-- Two spellings of one batch share a key. -/
theorem cacheKey_eq_iff_sameCall_batch :
    ∃ one two, prepare batchLibraries {} (batchRequest (bytes "[2, \"a\", 1]")) = .ok one ∧
      prepare batchLibraries {} (batchRequest (bytes "[1,2,\"\\u0061\",2]")) = .ok two ∧
      (one.cacheKey = two.cacheKey ↔ one.call.Same two.call) := by
  have accepted (body : Bytes)
      (ok : (prepare batchLibraries {} (batchRequest body)).isOk = true) :
      ∃ prepared, prepare batchLibraries {} (batchRequest body) = .ok prepared := by
    cases shape : prepare batchLibraries {} (batchRequest body) with
    | ok prepared => exact ⟨prepared, rfl⟩
    | error result =>
        rw [shape] at ok
        cases ok
  obtain ⟨one, first⟩ := accepted (bytes "[2, \"a\", 1]") (by decide +kernel)
  obtain ⟨two, second⟩ := accepted (bytes "[1,2,\"\\u0061\",2]") (by decide +kernel)
  exact ⟨one, two, first, second, cacheKey_eq_iff_sameCall batchLibraries {}
    (pinnedDigest_injective batchDigest_pinnable) (pinnedDigest_plain batchDigest_pinnable) _ _ one two
    (by simp [batchRequest, Params.empty])
    (by simp [batchRequest, Params.empty]) first second⟩

end EveApiCache
