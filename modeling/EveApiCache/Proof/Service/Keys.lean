import EveApiCache.Construction.World
import EveApiCache.Proof.Identity
import EveApiCache.Proof.Text

/-!
This file shows which upstream calls belong to a cache key and to an archive identity.
-/

namespace EveApiCache
open Json

/-- A literal of a pattern contains no colon. -/
def Piece.plain : Piece → Bool
  | .literal word => !word.contains 0x3a
  | _ => true

theorem consume_free (piece : Piece) (plain : piece.plain = true) (input rest : PyStr)
    (consumed : piece.consume input = some rest) (free : (0x3a : CodePoint) ∉ rest) :
    (0x3a : CodePoint) ∉ input := by
  cases piece with
  | literal word =>
      simp only [Piece.consume] at consumed
      split_ifs at consumed with front
      cases consumed
      obtain ⟨tail, rfl⟩ := List.isPrefixOf_iff_prefix.mp front
      have word : (0x3a : CodePoint) ∉ word := by simpa [Piece.plain] using plain
      rw [List.drop_left] at free
      exact fun member => (List.mem_append.mp member).elim word free
  | decimals =>
      simp only [Piece.consume] at consumed
      split_ifs at consumed
      cases consumed
      intro member
      rw [← List.takeWhile_append_dropWhile (p := isDecimal) (l := input)] at member
      rcases List.mem_append.mp member with digit | tail
      · exact absurd (List.mem_takeWhile_imp digit) (by decide)
      · exact free tail
  | hash =>
      simp only [Piece.consume] at consumed
      split_ifs at consumed with front
      cases consumed
      intro member
      rw [← List.take_append_drop 40 input] at member
      rcases List.mem_append.mp member with digit | tail
      · exact absurd (List.all_eq_true.mp front.2 _ digit) (by decide)
      · exact free tail

theorem consumeAll_free (pieces : List Piece) (plain : ∀ piece ∈ pieces, piece.plain = true)
    (input rest : PyStr) (consumed : consumeAll pieces input = some rest)
    (free : (0x3a : CodePoint) ∉ rest) : (0x3a : CodePoint) ∉ input := by
  induction pieces generalizing input with
  | nil =>
      cases consumed
      exact free
  | cons piece pieces ih =>
      obtain ⟨middle, first, tail⟩ := Option.bind_eq_some_iff.mp consumed
      exact consume_free piece (plain piece (by simp)) input middle first
        (ih (fun other member => plain other (by simp [member])) middle tail)

/-- A path that an endpoint matches contains no colon. -/
theorem matchEndpoint_free {path : PyStr} {method : Method} {spec : EndpointSpec}
    (matched : matchEndpoint path method = some spec) : (0x3a : CodePoint) ∉ path := by
  have plain : ∀ spec ∈ endpoints, ∀ piece ∈ spec.pattern, piece.plain = true := by decide
  have fits := List.find?_some matched
  have listed := List.mem_of_find?_eq_some matched
  have accepted : spec.matches path = true := (Bool.and_eq_true_iff.mp fits).1
  unfold EndpointSpec.matches at accepted
  split at accepted
  · rename_i rest consumed
    refine consumeAll_free spec.pattern (plain spec listed) path rest consumed ?_
    simp only [atEnd, Bool.or_eq_true, decide_eq_true_eq] at accepted
    rcases accepted with ((rfl | rfl) | rfl) | rfl <;> decide
  · cases accepted

/-- A valid path without a colon in its rest contains no colon. -/
theorem validatePath_free {fullPath version rest : PyStr}
    (valid : validatePath fullPath = some (version, rest)) (free : (0x3a : CodePoint) ∉ rest) :
    (0x3a : CodePoint) ∉ fullPath := by
  have plain : ∀ version ∈ validVersions, (0x3a : CodePoint) ∉ version := by decide
  simp only [validatePath, Option.ite_none_left_eq_some, Option.ite_none_right_eq_some,
    Option.some.injEq, Prod.mk.injEq] at valid
  obtain ⟨_, _, known, rfl, rfl⟩ := valid
  intro member
  rw [← List.takeWhile_append_dropWhile (p := (· = 0x2f)) (l := fullPath)] at member
  rcases List.mem_append.mp member with slash | member
  · exact absurd (List.mem_takeWhile_imp slash) (by decide)
  · rw [← List.takeWhile_append_dropWhile (p := (· ≠ 0x2f)) (l := fullPath.dropWhile (· = 0x2f))]
      at member
    rcases List.mem_append.mp member with inside | inside
    · exact plain _ known inside
    · exact free inside

variable (libraries : Libraries) (settings : Settings)

theorem prepare_path {request : Request} {prepared : Prepared}
    (accepted : prepare libraries settings request = .ok prepared) :
    (0x3a : CodePoint) ∉ request.fullPath := by
  unfold prepare at accepted
  split at accepted
  · cases accepted
  · rename_i version rest valid
    split at accepted
    · cases accepted
    · rename_i spec matched
      exact validatePath_free valid (matchEndpoint_free matched)

theorem job_path (job : Job) : (0x3a : CodePoint) ∉ job.path := by
  have number (value : Int) : (0x3a : CodePoint) ∉ intStr value :=
    intStr_free value _ (by decide) (by decide)
  cases job with
  | marketOrders regionId | marketHistory regionId typeId =>
      simp only [Job.path, List.mem_append, not_or]
      exact ⟨⟨by decide, number regionId⟩, by decide⟩
  | _ => decide

theorem job_normalized (job : Job) : normalizeParams job.params = job.params := by
  refine Params.ext ?_
  cases job with
  | marketOrders | marketHistory =>
      exact List.filter_eq_self.mpr fun pair member => by
        obtain rfl := List.mem_singleton.mp member
        change (!proxyParams.contains (text _)) = true
        decide
  | _ => rfl

theorem unpaired_of_printable {string : PyStr} (printable : Printable string) : Unpaired string := by
  refine List.Pairwise.isChain (List.pairwise_of_forall_mem_list fun symbol member _ _ => ?_)
  rintro ⟨high, _⟩
  have small := (printable symbol member).2
  simp only [isHighSurrogate, Bool.and_eq_true, decide_eq_true_eq] at high
  omega

theorem job_unpaired (job : Job) : ∀ pair ∈ job.params.pairs, Unpaired pair.1 ∧ Unpaired pair.2 := by
  have literal {word : PyStr} (small : word.all (fun symbol => 0x20 ≤ symbol.val ∧ symbol.val < 0x80)
      = true) : Unpaired word :=
    unpaired_of_printable fun symbol member => by simpa using List.all_eq_true.mp small symbol member
  intro pair member
  cases job with
  | marketOrders =>
      obtain rfl := List.mem_singleton.mp member
      exact ⟨show Unpaired (text "order_type") from literal (by decide),
        show Unpaired (text "all") from literal (by decide)⟩
  | marketHistory regionId typeId =>
      obtain rfl := List.mem_singleton.mp member
      exact ⟨show Unpaired (text "type_id") from literal (by decide),
        unpaired_of_printable (intStr_printable typeId)⟩
  | _ => cases member

/-- A client sends decoded text, in which no surrogates pair up. -/
def Request.Decoded (request : Request) : Prop :=
  ∀ pair ∈ request.params.pairs, Unpaired pair.1 ∧ Unpaired pair.2

/-- A request or a collector run asks for a cache key and an archive identity with one upstream
call. -/
inductive Asks : PyStr → Identity → UpstreamCall → Prop where
  | proxy {request : Request} {prepared : Prepared} (decoded : request.Decoded)
      (accepted : prepare libraries settings request = .ok prepared) :
      Asks prepared.cacheKey prepared.identity prepared.call
  | collect (job : Job) :
      Asks (job.key libraries settings.defaultDatasource job.path)
        ⟨settings.defaultDatasource, job.path, computeQueryHash libraries job.params none⟩
        (job.call settings.defaultDatasource)

/-- A key, an identity and a call are built from the same parts. -/
structure Keyed (key : PyStr) (identity : Identity) (call : UpstreamCall) (params : Params) :
    Prop where
  plain : (0x3a : CodePoint) ∉ call.path
  known : identity.path = call.path ∧ identity.queryHash = computeQueryHash libraries params call.body
  key : key = buildCacheKey libraries identity.datasource call.method call.path params call.body
  asked : call.params = esiParams identity.datasource (normalizeParams params)
  body : Normalized libraries call.body
  unpaired : ∀ pair ∈ params.pairs, Unpaired pair.1 ∧ Unpaired pair.2

theorem computeQueryHash_normalizeParams (params : Params) (body : Option Bytes) :
    computeQueryHash libraries (normalizeParams params) body =
      computeQueryHash libraries params body := by
  unfold computeQueryHash queryText
  rw [normalizeParams_idem]

variable {libraries settings}

theorem Asks.keyed {key : PyStr} {identity : Identity} {call : UpstreamCall}
    (asks : Asks libraries settings key identity call) :
    ∃ params, Keyed libraries key identity call params := by
  cases asks with
  | @proxy request prepared decoded accepted =>
      have facts := prepare_accepted libraries settings request prepared accepted
      have path : prepared.call.path = request.fullPath := by rw [facts.call]
      have method : prepared.call.method = request.method := by rw [facts.call]
      have params : prepared.call.params =
          esiParams prepared.datasource (normalizeParams request.params) := by rw [facts.call]
      refine ⟨request.params, ?_⟩
      exact
        { plain := path ▸ prepare_path libraries settings accepted
          known := ⟨rfl, by rw [← computeQueryHash_normalizeParams]; exact facts.hash⟩
          key := by rw [path, method]; exact facts.key
          asked := params
          body := facts.body
          unpaired := decoded }
  | collect job =>
      exact ⟨job.params,
        { plain := job_path job
          known := ⟨rfl, rfl⟩
          key := rfl
          asked := by rw [job_normalized]; rfl
          body := .inl rfl
          unpaired := job_unpaired job }⟩

/-- A digest is plain when it has no colon and is not the word that marks a refetch. -/
def PlainDigest (libraries : Libraries) : Prop :=
  ∀ input, (0x3a : CodePoint) ∉ libraries.queryDigest input ∧
    libraries.queryDigest input ≠ text "refetch"

theorem Keyed.parts (plain : PlainDigest libraries) {key : PyStr} {one two : Identity}
    {first second : UpstreamCall} {params others : Params}
    (left : Keyed libraries key one first params) (right : Keyed libraries key two second others) :
    one = two ∧ first.method = second.method ∧ first.path = second.path ∧
      computeQueryHash libraries params first.body = computeQueryHash libraries others second.body := by
  have freeMethod (method : Method) : (0x3a : CodePoint) ∉ method.upper := by
    cases method <;> decide
  have same := left.key.symm.trans right.key
  obtain ⟨fronts, hashes⟩ := last_part (plain _).1 (plain _).1 same
  obtain ⟨fronts, paths⟩ := last_part left.plain right.plain fronts
  obtain ⟨fronts, methods⟩ := last_part (freeMethod _) (freeMethod _) fronts
  have datasources := List.append_cancel_left fronts
  refine ⟨?_, ?_, paths, hashes⟩
  · obtain ⟨datasource, path, queryHash⟩ := one
    obtain ⟨otherDatasource, otherPath, otherHash⟩ := two
    simp only [Identity.mk.injEq]
    exact ⟨datasources, left.known.1.trans (paths.trans right.known.1.symm),
      left.known.2.trans (hashes.trans right.known.2.symm)⟩
  · cases first : first.method <;> cases second : second.method <;> rw [first, second] at methods <;>
      first | rfl | exact absurd methods (by decide)

/-- A key belongs to one archive identity. -/
theorem Asks.identity_unique (plain : PlainDigest libraries) {key : PyStr} {one two : Identity}
    {first second : UpstreamCall} (left : Asks libraries settings key one first)
    (right : Asks libraries settings key two second) : one = two := by
  obtain ⟨params, left⟩ := left.keyed
  obtain ⟨others, right⟩ := right.keyed
  exact (left.parts plain right).1

/-- A key belongs to one upstream call. -/
theorem Asks.same (plain : PlainDigest libraries)
    (injective : Function.Injective libraries.queryDigest) {key : PyStr} {one two : Identity}
    {first second : UpstreamCall} (left : Asks libraries settings key one first)
    (right : Asks libraries settings key two second) : first.Same second := by
  obtain ⟨params, left⟩ := left.keyed
  obtain ⟨others, right⟩ := right.keyed
  obtain ⟨rfl, methods, paths, hashes⟩ := left.parts plain right
  obtain ⟨pairs, bodies⟩ := queryText_injective libraries _ _ _ _ left.unpaired right.unpaired
    left.body right.body (injective hashes)
  refine ⟨methods, paths, fun name => ?_, normalized_ext libraries left.body right.body bodies⟩
  rw [left.asked, right.asked, Params.ext pairs]

/-- No request or collector run asks for the key of a refetch. -/
theorem Asks.not_refetch (plain : PlainDigest libraries) {key : PyStr} {identity : Identity}
    {call : UpstreamCall} (asks : Asks libraries settings key identity call) (base : PyStr) :
    key ≠ refetchKey base := by
  obtain ⟨params, keyed⟩ := asks.keyed
  intro same
  have split : text ":refetch" = text ":" ++ text "refetch" := by decide
  have joined := keyed.key.symm.trans same
  rw [refetchKey, split, ← List.append_assoc] at joined
  exact (plain _).2 (last_part (plain _).1 (by decide) joined).2

end EveApiCache
