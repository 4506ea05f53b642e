import EveApiCache.Proof.Esi.Total
import EveApiCache.Proof.JsonValue

/-!
This file shows that a paginated fetch returns all pages in their order or none of them.
-/

namespace EveApiCache

open Gather

section Pages
variable (settings : Settings) (libraries : Libraries) (parsedate : PyStr → Option HttpDate)

/-- A page ends in a success whose page count is absent, unreadable or the announced one, and its body
is a list. -/
def PageGives (answers : EsiAnswers) (total : Int) (page : Nat) (items : List Json) : Prop :=
  ∃ response, (requestWithRetries settings (answers.pages page)).ending = .returned response ∧
    (200 ≤ response.status ∧ response.status < 300) ∧
      (∀ count, intHeader response.headers (text "x-pages") = some count → count = total) ∧
        pageItems libraries response.content = some items

/-- These are the numbers of all pages. -/
def allPages (first : HttpResponse) : List Nat := List.range' 1 (totalPages first).toNat

/-- The lists of all pages. -/
def PagesGive (answers : EsiAnswers) (first : HttpResponse) (items : Nat → List Json) : Prop :=
  pageItems libraries first.content = some (items 1) ∧
    ∀ page ∈ laterPages first, PageGives settings libraries answers (totalPages first) page (items page)

/-- A response merges the pages when it has status 200 exactly when every page gives a list, then
holds the lists in the order of the pages as the reader of the body gets them, and otherwise is the
synthetic response. -/
def Merges (answers : EsiAnswers) (first : HttpResponse) (back : List Json → List Json)
    (response : EsiResponse) : Prop :=
  (response.status = 200 ↔ ∃ items, PagesGive settings libraries answers first items) ∧
    (response.status = 200 → ∃ items, PagesGive settings libraries answers first items ∧
      Json.loads libraries.floatRepr response.body =
          some (.arr (back ((allPages first).flatMap items))) ∧
        response.etag = none ∧ response.pageMetadata.map PageMetadata.page = allPages first) ∧
    (response.status ≠ 200 → response = paginationFailed first)

theorem fetchPage_iff (total : Int) (page : Nat) (answer : Option HttpResponse)
    (fetched : List Json × PageMetadata) :
    fetchPage libraries total page answer = some fetched ↔
      ∃ response, answer = some response ∧ (200 ≤ response.status ∧ response.status < 300) ∧
        (∀ count, response.intHeader (text "x-pages") = some count → count = total) ∧
          pageItems libraries response.content = some fetched.1 ∧
            fetched.2 = pageMetadata page response := by
  cases answer with
  | none => simp [fetchPage]
  | some response =>
      simp only [Option.some.injEq, exists_eq_left']
      unfold fetchPage
      dsimp only
      have counted : (response.intHeader (text "x-pages")).any (· ≠ total) = true ↔
          ¬∀ count, response.intHeader (text "x-pages") = some count → count = total := by
        cases response.intHeader (text "x-pages") with
        | none => simp
        | some count => simp
      split_ifs with status pages
      · have outside : ¬(200 ≤ response.status ∧ response.status < 300) := by
          intro inside
          simp [inside.1, inside.2] at status
        simp [outside]
      · have other := counted.mp pages
        simp [other]
      · have inside : 200 ≤ response.status ∧ response.status < 300 := by simpa using status
        have same := not_not.mp (mt counted.mpr pages)
        cases pageItems libraries response.content with
        | none => simp
        | some items =>
            simp only [Option.map_some, Option.some.injEq]
            constructor
            · rintro rfl
              exact ⟨inside, same, rfl, rfl⟩
            · rintro ⟨_, _, rfl, metadata⟩
              exact Prod.ext rfl metadata.symm

/-- A page is fetched exactly when it gives its list. -/
theorem fetched_iff (answers : EsiAnswers) (total : Int) (page : Nat) (items : List Json) :
    (∃ metadata, fetchPage libraries total page (pageAnswer settings (answers.pages page)) =
        some (items, metadata)) ↔ PageGives settings libraries answers total page items := by
  unfold PageGives pageAnswer
  cases (requestWithRetries settings (answers.pages page)).ending with
  | returned response =>
      dsimp only
      constructor
      · rintro ⟨metadata, fetched⟩
        obtain ⟨found, same, status, pages, list, _⟩ := (fetchPage_iff libraries total page _ _).mp fetched
        cases same
        exact ⟨response, rfl, status, pages, list⟩
      · rintro ⟨_, ⟨⟩, status, pages, list⟩
        exact ⟨_, (fetchPage_iff libraries total page _ (items, pageMetadata page response.page)).mpr
          ⟨response.page, rfl, status, pages, list, rfl⟩⟩
  | unreachable => simp [fetchPage]
  | raised => simp [fetchPage]
  | asserted => simp [fetchPage]

/-- A list of a page holds loaded values. -/
theorem pageItems_loaded (floats : Json.FloatsReadBack libraries.floatRepr) {content : Bytes}
    {items : List Json} (list : pageItems libraries content = some items) :
    Json.LoadedItems libraries.floatRepr items := by
  unfold pageItems at list
  split at list
  next found decoded =>
    cases list
    exact Json.loads_loaded floats decoded
  next => cases list

/-- The page numbers begin with the first page. -/
theorem allPages_eq (first : HttpResponse) (many : 1 < totalPages first) :
    allPages first = 1 :: laterPages first := by
  unfold allPages laterPages
  obtain ⟨more, count⟩ : ∃ more, (totalPages first).toNat = more + 1 :=
    ⟨(totalPages first).toNat - 1, by omega⟩
  rw [count, List.range'_succ]
  rfl

/-- These are the fetched pages in their order. -/
def fetchedPages (answers : EsiAnswers) (first : HttpResponse) :
    Option (List (List Json × PageMetadata)) :=
  (laterPages first).mapM fun page =>
    fetchPage libraries (totalPages first) page (pageAnswer settings (answers.pages page))

/-- The pages are fetched exactly when each one gives a list. -/
theorem fetchedPages_isSome (answers : EsiAnswers) (first : HttpResponse) :
    (fetchedPages settings libraries answers first).isSome = true ↔
      ∀ page ∈ laterPages first, ∃ items,
        PageGives settings libraries answers (totalPages first) page items := by
  unfold fetchedPages
  rw [mapM_isSome_iff]
  apply forall₂_congr
  intro page member
  rw [Option.isSome_iff_exists]
  constructor
  · rintro ⟨⟨items, metadata⟩, fetched⟩
    exact ⟨items, (fetched_iff settings libraries answers _ page items).mp ⟨metadata, fetched⟩⟩
  · rintro ⟨items, gives⟩
    obtain ⟨metadata, fetched⟩ := (fetched_iff settings libraries answers _ page items).mpr gives
    exact ⟨(items, metadata), fetched⟩

/-- The lists of fetched pages stand in the order of the pages. -/
theorem fetchedPages_lists {answers : EsiAnswers} {first : HttpResponse}
    {fetched : List (List Json × PageMetadata)}
    (collected : fetchedPages settings libraries answers first = some fetched) :
    ∃ items : Nat → List Json,
      (∀ page ∈ laterPages first,
        PageGives settings libraries answers (totalPages first) page (items page)) ∧
      fetched.flatMap (·.1) = (laterPages first).flatMap items ∧
      fetched.map (·.2.page) = laterPages first := by
  have listed := map_of_mapM collected
  have each : ∀ page ∈ laterPages first, ∃ result, fetchPage libraries (totalPages first) page
      (pageAnswer settings (answers.pages page)) = some result := by
    intro page member
    have inside := List.mem_map_of_mem (f := fun page => fetchPage libraries (totalPages first) page
      (pageAnswer settings (answers.pages page))) member
    rw [listed] at inside
    obtain ⟨result, _, same⟩ := List.mem_map.mp inside
    exact ⟨result, same.symm⟩
  refine ⟨fun page => ((fetchPage libraries (totalPages first) page
    (pageAnswer settings (answers.pages page))).map (·.1)).getD [], ?_, ?_, ?_⟩
  · intro page member
    obtain ⟨⟨items, metadata⟩, fetched⟩ := each page member
    simp only [fetched]
    exact (fetched_iff settings libraries answers _ page items).mp ⟨metadata, fetched⟩
  · have lists := congrArg (List.flatMap fun result => (result.map (·.1)).getD []) listed
    rw [List.flatMap_map, List.flatMap_map] at lists
    exact lists.symm
  · have numbers := congrArg (List.map fun result => (result.map (·.2.page)).getD 0) listed
    rw [List.map_map, List.map_map] at numbers
    refine numbers.symm.trans ((List.map_congr_left ?_).trans (List.map_id _))
    intro page member
    obtain ⟨result, fetched⟩ := each page member
    obtain ⟨response, _, _, _, _, metadata⟩ := (fetchPage_iff libraries _ page _ result).mp fetched
    simp only [Function.comp_apply, fetched, Option.map_some, Option.getD_some, metadata]
    rfl

theorem paginationFailed_status (first : HttpResponse) : (paginationFailed first).status = 500 := rfl

/-- A fan-out without a page list is answered with the synthetic response. -/
theorem merges_failed (answers : EsiAnswers) (first : HttpResponse) (back : List Json → List Json)
    (missing : ¬∃ items, PagesGive settings libraries answers first items) :
    Merges settings libraries answers first back (paginationFailed first) := by
  have failed : (paginationFailed first).status ≠ 200 := by
    rw [paginationFailed_status]
    decide
  refine ⟨iff_of_false failed missing, fun ok => absurd ok failed, fun _ => rfl⟩

/-- A fan-out whose pages all give lists is answered with their concatenation. -/
theorem merges_fetched {answers : EsiAnswers} {first : HttpResponse} {items : Nat → List Json}
    {fetched : List (List Json × PageMetadata)} (many : 1 < totalPages first)
    (gives : PagesGive settings libraries answers first items)
    (lists : fetched.flatMap (·.1) = (laterPages first).flatMap items)
    (numbers : fetched.map (·.2.page) = laterPages first) (back : List Json → List Json)
    (read : Json.loads libraries.floatRepr (encode (Json.dumps Json.defaultSeparators
      (.arr ((allPages first).flatMap items)))) = some (.arr (back ((allPages first).flatMap items)))) :
    Merges settings libraries answers first back (mergedResponse first
      (encode (Json.dumps Json.defaultSeparators (.arr (items 1 ++ fetched.flatMap (·.1)))))
      (fetched.map (·.2))) := by
  have whole : items 1 ++ fetched.flatMap (·.1) = (allPages first).flatMap items := by
    rw [allPages_eq first many, List.flatMap_cons, lists]
  have pages : (pageMetadata 1 first :: fetched.map (·.2)).map PageMetadata.page = allPages first := by
    rw [allPages_eq first many, List.map_cons, List.map_map, ← numbers]
    rfl
  have several : totalPages first ≠ 1 := many.ne'
  rw [whole]
  refine ⟨iff_of_true rfl ⟨items, gives⟩, fun _ => ⟨items, gives, read, if_neg several, pages⟩, ?_⟩
  intro failed
  exact absurd rfl failed

/-- The lists of the pages hold loaded values. -/
theorem pagesGive_loaded (floats : Json.FloatsReadBack libraries.floatRepr) {answers : EsiAnswers}
    {first : HttpResponse} {items : Nat → List Json} (many : 1 < totalPages first)
    (gives : PagesGive settings libraries answers first items) :
    Json.LoadedItems libraries.floatRepr ((allPages first).flatMap items) := by
  have later : ∀ pages : List Nat, (∀ page ∈ pages,
      PageGives settings libraries answers (totalPages first) page (items page)) →
        Json.LoadedItems libraries.floatRepr (pages.flatMap items) := by
    intro pages each
    induction pages with
    | nil => trivial
    | cons page pages ih =>
        obtain ⟨response, _, _, _, list⟩ := each page (by simp)
        rw [List.flatMap_cons]
        exact Json.loadedItems_append (pageItems_loaded libraries floats list)
          (ih fun other member => each other (List.mem_cons_of_mem page member))
  rw [allPages_eq first many, List.flatMap_cons]
  exact Json.loadedItems_append (pageItems_loaded libraries floats gives.1) (later _ gives.2)

/-- The pages of a fetch that have all been fetched are those in the order of their numbers. -/
theorem gatherPages_eq (answers : EsiAnswers) (first : HttpResponse) :
    gatherPages settings libraries first answers =
      Gather.settled (fetchedPages settings libraries answers first) :=
  gather_complete _ (fun _ => (answers.complete (laterPages first)).mem_iff.mp)
    fun _ => (answers.complete (laterPages first)).mem_iff.mpr

/-- A paginated fetch merges its pages, for every outcome of each page and every order in which they
complete. -/
theorem fetchPages_merges (floats : Json.FloatsReadBack libraries.floatRepr) (answers : EsiAnswers)
    (first : HttpResponse) (many : 1 < totalPages first) :
    ∃ response, fetchPages settings libraries first answers = .returned response ∧
      Merges settings libraries answers first Json.backItems response ∧
        ((∀ items, PagesGive settings libraries answers first items →
            Json.PlainItems ((allPages first).flatMap items)) →
          Merges settings libraries answers first id response) := by
  have absent : (∀ items, ¬PagesGive settings libraries answers first items) →
      ∃ response, FetchResult.returned (paginationFailed first) = .returned response ∧
        Merges settings libraries answers first Json.backItems response ∧
          ((∀ items, PagesGive settings libraries answers first items →
              Json.PlainItems ((allPages first).flatMap items)) →
            Merges settings libraries answers first id response) := by
    intro none
    have missing : ¬∃ items, PagesGive settings libraries answers first items := by
      rintro ⟨items, gives⟩
      exact none items gives
    exact ⟨_, rfl, merges_failed settings libraries answers first _ missing,
      fun _ => merges_failed settings libraries answers first _ missing⟩
  unfold fetchPages
  rw [if_pos many, gatherPages_eq]
  cases collected : fetchedPages settings libraries answers first with
  | none =>
      apply absent
      intro items gives
      have each := (fetchedPages_isSome settings libraries answers first).mpr
        fun page member => ⟨items page, gives.2 page member⟩
      rw [collected] at each
      cases each
  | some fetched =>
      obtain ⟨later, each, lists, numbers⟩ := fetchedPages_lists settings libraries collected
      simp only [Gather.settled]
      unfold mergePages
      cases list : pageItems libraries first.content with
      | none =>
          apply absent
          intro items gives
          have present := gives.1
          rw [list] at present
          cases present
      | some opening =>
          have apart : ∀ page ∈ laterPages first, page ≠ 1 := by
            intro page member
            have bounds := List.mem_range'_1.mp member
            omega
          have gives : PagesGive settings libraries answers first
              (Function.update later 1 opening) := by
            constructor
            · rw [Function.update_self, list]
            · intro page member
              rw [Function.update_of_ne (apart page member)]
              exact each page member
          have same : (laterPages first).flatMap (Function.update later 1 opening) =
              (laterPages first).flatMap later := by
            apply List.flatMap_congr
            intro page member
            rw [Function.update_of_ne (apart page member)]
          have loaded := pagesGive_loaded settings libraries floats many gives
          have read := Json.loads_written libraries.floatRepr (.arr _) loaded
          have merges := merges_fetched settings libraries many gives (lists.trans same.symm) numbers
          rw [Function.update_self] at merges
          refine ⟨_, rfl, merges Json.backItems read, ?_⟩
          intro plain
          apply merges id
          rw [read, Json.backValue, Json.backItems_of_plain _ loaded (plain _ gives)]
          rfl

/-- A paginated fetch returns all pages in their order, read back from the body, or the synthetic
response. The body holds the very lists when no string of theirs has a separated surrogate pair. -/
theorem fetch_paginated (floats : Json.FloatsReadBack libraries.floatRepr) (breaker : Breaker)
    (method : PyStr) (etag : Option PyStr) (answers : EsiAnswers) (raw : RawResponse)
    (first : HttpResponse) (closed : breaker.blocked answers.called = false)
    (get : isGet method = true)
    (ended : (requestWithRetries settings answers.first).ending = .returned raw)
    (received : raw.received parsedate answers.received = some first) (ok : first.status = 200)
    (many : 1 < totalPages first) :
    ∃ response,
      fetch settings libraries parsedate breaker method etag answers = .returned response ∧
        Merges settings libraries answers first Json.backItems response ∧
          ((∀ items, PagesGive settings libraries answers first items →
              Json.PlainItems ((allPages first).flatMap items)) →
            Merges settings libraries answers first id response) := by
  have same : fetch settings libraries parsedate breaker method etag answers =
      fetchPages settings libraries first answers := by
    unfold fetch
    rw [closed, ended]
    simp [received, fetchFirst, ok, get]
  rw [same]
  exact fetchPages_merges settings libraries floats answers first many

/-- The pages of a fetch are answered as the service sees them. -/
theorem fetchPages_paginated (answers : EsiAnswers) (first : HttpResponse) :
    fetchPages settings libraries first answers = .returned (paginated libraries first fun page =>
      pageAnswer settings (answers.pages page)) := by
  have merged : fetchAllPages libraries first (fun page => pageAnswer settings (answers.pages page)) =
      (fetchedPages settings libraries answers first).bind (mergePages libraries first) := rfl
  unfold fetchPages paginated
  rw [merged, gatherPages_eq]
  split_ifs
  · cases fetchedPages settings libraries answers first with
    | none => rfl
    | some fetched => rfl
  · rfl

end Pages

/-- A page announces two pages. -/
def announcedPage (body : Bytes) : RawResponse where
  status := 200
  content := body
  headers name := if name = text "x-pages" then some (text "2") else none

/-- ESI answers two pages. -/
def twoPages (first second : Bytes) : EsiAnswers where
  called := 100
  received := ⟨2026, 6, 1, 12, 0, 0, 0⟩
  first _ := .answered 101 (announcedPage first)
  pages _ _ := .answered 102 (announcedPage second)
  completions pages := pages
  complete pages := .refl pages

/-- A page without freshness headers has no lifetime. -/
def announcedFirst (body : Bytes) : HttpResponse := (announcedPage body).page

theorem announcedPage_received (body : Bytes) (now : Datetime) :
    (announcedPage body).received (fun _ => none) now = some (announcedFirst body) := rfl

/-- These libraries know one float. -/
def oneFloat : Libraries := { clientLibraries with floatRepr := fun _ => text "1.5" }

/-- These are the lists of a first page and a second one. -/
def listsOf (first second : List Json) (page : Nat) : List Json := if page = 1 then first else second

/-- The header of a page announces two pages. -/
theorem announced_two : intHeader (announcedPage []).headers (text "x-pages") = some 2 := by
  decide +kernel

theorem totalPages_two (body : Bytes) : totalPages (announcedFirst body) = 2 := by
  unfold totalPages
  rw [show (announcedFirst body).intHeader (text "x-pages") = some 2 from announced_two]
  rfl

theorem laterPages_two (body : Bytes) : laterPages (announcedFirst body) = [2] := by
  unfold laterPages
  rw [totalPages_two]
  rfl

/-- Two pages with lists give these lists. -/
theorem twoPages_give {libraries : Libraries} {first second : Bytes} {opening closing : List Json}
    (one : pageItems libraries first = some opening)
    (two : pageItems libraries second = some closing) :
    PagesGive {} libraries (twoPages first second) (announcedFirst first) (listsOf opening closing) := by
  refine ⟨one, ?_⟩
  intro page member
  rw [laterPages_two, List.mem_singleton] at member
  subst member
  refine ⟨announcedPage second, rfl, ⟨Nat.le_refl 200, show 200 < 300 by decide⟩, ?_, two⟩
  intro count same
  rw [totalPages_two]
  exact (Option.some.inj (announced_two.symm.trans same)).symm

/-- Two pages give the merged response of both. -/
theorem fetch_paginated_two : ∃ response,
    fetch {} oneFloat (fun _ => none) {} (text "GET") none (twoPages (bytes "[1.5]") (bytes "[2]")) =
        .returned response ∧
      response.status = 200 ∧ response.etag = none ∧
        response.pageMetadata.map PageMetadata.page = [1, 2] := by
  have one : pageItems oneFloat (bytes "[1.5]") = some [.float (text "1.5")] := by decide +kernel
  have two : pageItems oneFloat (bytes "[2]") = some [.int 2] := by decide +kernel
  have many : 1 < totalPages (announcedFirst (bytes "[1.5]")) := by
    rw [totalPages_two]
    decide
  obtain ⟨response, fetched, merges, _⟩ := fetch_paginated {} oneFloat (fun _ => none)
    Json.oneNumeral_readBack {} (text "GET") none (twoPages (bytes "[1.5]") (bytes "[2]"))
    (announcedPage (bytes "[1.5]")) (announcedFirst (bytes "[1.5]")) (by decide +kernel)
    (by decide +kernel) rfl (announcedPage_received _ _) rfl many
  have ok := merges.1.mpr ⟨_, twoPages_give one two⟩
  obtain ⟨_, _, _, etag, pages⟩ := merges.2.1 ok
  exact ⟨response, fetched, ok, etag, pages⟩

/-- This is what a reader of a returned body gets. -/
def FetchResult.read : FetchResult → Option Json
  | .returned response => Json.loads id response.body
  | _ => none

/-- This page holds a string whose surrogates are encoded one by one. -/
def surrogatePage : Bytes := bytes "[\"" ++ [0xed, 0xa0, 0x80, 0xed, 0xb0, 0x80] ++ bytes "\"]"

/-- The two surrogates come back as one code point, which is not the string of the page. -/
theorem fetch_surrogates : ¬∃ response,
    fetch {} clientLibraries (fun _ => none) {} (text "GET") none (twoPages (bytes "[]") surrogatePage) =
        .returned response ∧
      Merges {} clientLibraries (twoPages (bytes "[]") surrogatePage) (announcedFirst (bytes "[]")) id
        response := by
  rintro ⟨response, fetched, merges⟩
  have read : (fetch {} clientLibraries (fun _ => none) {} (text "GET") none
      (twoPages (bytes "[]") surrogatePage)).read = some (.arr [.str [0x10000]]) := by decide +kernel
  have one : pageItems clientLibraries (bytes "[]") = some [] := by decide +kernel
  have two : pageItems clientLibraries surrogatePage = some [.str [0xd800, 0xdc00]] := by
    decide +kernel
  obtain ⟨items, gives, body, _⟩ := merges.2.1 (merges.1.mpr ⟨_, twoPages_give one two⟩)
  have opening : items 1 = [] := Option.some.inj (gives.1.symm.trans one)
  obtain ⟨page, ended, _, _, list⟩ := gives.2 2 (by rw [laterPages_two]; simp)
  cases ended
  have closing : items 2 = [.str [0xd800, 0xdc00]] := Option.some.inj (list.symm.trans two)
  have pages : allPages (announcedFirst (bytes "[]")) = [1, 2] := by decide +kernel
  rw [pages, List.flatMap_cons, List.flatMap_cons, List.flatMap_nil, opening, closing] at body
  rw [fetched] at read
  exact absurd (read.symm.trans body) (by decide +kernel)

end EveApiCache
