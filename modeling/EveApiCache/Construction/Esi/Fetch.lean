import EveApiCache.Construction.Esi.Freshness
import EveApiCache.Construction.Esi.Retry
import EveApiCache.Library.Gather

/-!
This file models `ESIClient.fetch` in `app/esi_client.py` from its requests to its response.
-/

namespace EveApiCache

/-- Only ASCII letters have the upper case of `GET`. -/
def upperLetter (symbol : CodePoint) : CodePoint :=
  if 0x61 ≤ symbol.val ∧ symbol.val ≤ 0x7a then point (symbol.val - 32) else symbol

/-- This is `method.upper() == "GET"`. -/
def isGet (method : PyStr) : Bool := method.map upperLetter = text "GET"

/-- A fetch waits for its pages, raises, or returns a response. -/
inductive FetchResult where
  | waiting
  | raised
  | returned (response : EsiResponse)

/-- These are the answers of ESI to one fetch. The later pages are known by their numbers and complete
in some order, and the times are those of the call and of the arrival of the first page. -/
structure EsiAnswers where
  called : ℚ
  received : Datetime
  first : Nat → Attempt
  pages : Nat → Nat → Attempt
  completions : List Nat → List Nat
  complete : ∀ pages, (completions pages).Perm pages

section Fetch
variable (settings : Settings) (libraries : Libraries) (parsedate : PyStr → Option HttpDate)

/-- A page has a response when its request returns one. -/
def pageAnswer (attempts : Nat → Attempt) : Option HttpResponse :=
  match (requestWithRetries settings attempts).ending with
  | .returned response => some response.page
  | _ => none

/-- These are the pages 2..N. -/
def laterPages (first : HttpResponse) : List Nat := List.range' 2 ((totalPages first).toNat - 1)

/-- These are the pages that `asyncio.gather` has fetched. -/
def gatherPages (first : HttpResponse) (answers : EsiAnswers) :
    Gather.Status Nat (List Json × PageMetadata) :=
  Gather.gather (laterPages first)
    (fun page => fetchPage libraries (totalPages first) page (pageAnswer settings (answers.pages page)))
    (answers.completions (laterPages first))

/-- The first page has status 200 and announces its pages. -/
def fetchPages (first : HttpResponse) (answers : EsiAnswers) : FetchResult :=
  if 1 < totalPages first then
    match gatherPages settings libraries first answers with
    | .waiting _ => .waiting
    | .failed => .returned (paginationFailed first)
    | .finished fetched => .returned (pagesResponse first (mergePages libraries first fetched))
  else .returned (mergedResponse first first.content [])

/-- This is `fetch` after its first request. -/
def fetchFirst (method : PyStr) (etag : Option PyStr) (first : HttpResponse)
    (answers : EsiAnswers) : FetchResult :=
  if first.status = 304 then .returned (notModifiedResponse etag first)
  else if first.status ≠ 200 ∨ isGet method = false then .returned (passedResponse first)
  else fetchPages settings libraries first answers

/-- This is `fetch`. -/
def fetch (breaker : Breaker) (method : PyStr) (etag : Option PyStr) (answers : EsiAnswers) :
    FetchResult :=
  if breaker.blocked answers.called then
    .returned (blockedResponse breaker.errorLimitRemain breaker.errorLimitReset)
  else
    match (requestWithRetries settings answers.first).ending with
    | .returned response =>
        match response.received parsedate answers.received with
        | some first => fetchFirst settings libraries method etag first answers
        | none => .raised
    | .unreachable => .returned unreachableResponse
    | .raised => .raised
    | .asserted => .raised

end Fetch

end EveApiCache
