import EveApiCache.Construction.Archive.Write
import EveApiCache.Construction.Request

/-!
This file models what `ESIClient.fetch` in `app/esi_client.py` makes of the answers of ESI.
-/

namespace EveApiCache

/-- A header is known by its name in lower case, and repeated ones have one joined value. The last
two fields are what `_parse_max_age` and `_parse_expires` give when the response arrives. -/
structure HttpResponse where
  status : Nat
  content : Bytes
  headers : PyStr → Option PyStr
  maxAge : Option Nat
  expiresAt : Option Datetime

/-- This is `_int_header`. -/
def intHeader (headers : PyStr → Option PyStr) (name : PyStr) : Option Int :=
  (headers name).bind intOfText

def HttpResponse.intHeader (response : HttpResponse) (name : PyStr) : Option Int :=
  EveApiCache.intHeader response.headers name

structure PageMetadata where
  page : Nat
  status : Nat
  etag : Option PyStr
  cacheControl : Option PyStr
  expires : Option PyStr
  xPages : Option PyStr

/-- This is `_page_metadata`. -/
def pageMetadata (page : Nat) (response : HttpResponse) : PageMetadata where
  page := page
  status := response.status
  etag := response.headers (text "etag")
  cacheControl := response.headers (text "cache-control")
  expires := response.headers (text "expires")
  xPages := response.headers (text "x-pages")

structure EsiResponse where
  status : Nat
  body : Bytes
  etag : Option PyStr
  maxAge : Option Nat
  expiresAt : Option Datetime
  notModified : Bool
  errorLimitRemain : Option Int := none
  errorLimitReset : Option Int := none
  pageCount : Int := 1
  pageMetadata : List PageMetadata := []
  location : Option PyStr := none
  contentType : PyStr := text "application/json"

/-- A synthetic response carries no freshness and no ETag. -/
def syntheticResponse (status : Nat) (body : Bytes) : EsiResponse where
  status := status
  body := body
  etag := none
  maxAge := none
  expiresAt := none
  notModified := false

/-- This is the response of a client whose error-budget breaker is tripped. -/
def blockedResponse (remain reset : Option Int) : EsiResponse :=
  { syntheticResponse 503 (bytes "\x7b\"error\":\"esi error budget exhausted\"\x7d") with
    errorLimitRemain := remain
    errorLimitReset := reset }

/-- This is the response to a transport error. -/
def unreachableResponse : EsiResponse :=
  syntheticResponse 503 (bytes "\x7b\"error\":\"upstream request failed\"\x7d")

def errorRemain (response : HttpResponse) : Option Int :=
  response.intHeader (text "x-esi-error-limit-remain")

def errorReset (response : HttpResponse) : Option Int :=
  response.intHeader (text "x-esi-error-limit-reset")

/-- A 304 keeps the ETag that was sent. -/
def notModifiedResponse (etag : Option PyStr) (first : HttpResponse) : EsiResponse where
  status := 304
  body := []
  etag := etag
  maxAge := first.maxAge
  expiresAt := first.expiresAt
  notModified := true
  errorLimitRemain := errorRemain first
  errorLimitReset := errorReset first
  pageMetadata := [pageMetadata 1 first]

def contentType (response : HttpResponse) : PyStr :=
  (response.headers (text "content-type")).getD (text "application/json")

/-- A response that has no further pages is passed on. -/
def passedResponse (first : HttpResponse) : EsiResponse where
  status := first.status
  body := first.content
  etag := first.headers (text "etag")
  maxAge := first.maxAge
  expiresAt := first.expiresAt
  notModified := false
  errorLimitRemain := errorRemain first
  errorLimitReset := errorReset first
  pageMetadata := [pageMetadata 1 first]
  location := first.headers (text "location")
  contentType := contentType first

/-- This is `_int_header(resp.headers, "x-pages") or 1`. -/
def totalPages (first : HttpResponse) : Int :=
  match first.intHeader (text "x-pages") with
  | none => 1
  | some pages => if pages = 0 then 1 else pages

/-- This is the response of a failed pagination. -/
def paginationFailed (first : HttpResponse) : EsiResponse :=
  { syntheticResponse 500 (bytes "\x7b\"error\": \"pagination fetch failed\"\x7d") with
    errorLimitRemain := errorRemain first
    errorLimitReset := errorReset first
    pageCount := totalPages first
    pageMetadata := [pageMetadata 1 first] }

/-- The ETag of the first page does not validate a merged body. -/
def mergedResponse (first : HttpResponse) (body : Bytes) (extra : List PageMetadata) :
    EsiResponse where
  status := 200
  body := body
  etag := if totalPages first = 1 then first.headers (text "etag") else none
  maxAge := first.maxAge
  expiresAt := first.expiresAt
  notModified := false
  errorLimitRemain := errorRemain first
  errorLimitReset := errorReset first
  pageCount := totalPages first
  pageMetadata := pageMetadata 1 first :: extra
  contentType := contentType first

/-- These are the ways in which ESI and the client's breaker answer a fetch. The pages after the
first one are known by their numbers, and a page whose request raises has no response. -/
inductive Upstream where
  | blocked (remain reset : Option Int)
  | unreachable
  | answered (first : HttpResponse) (pages : Nat → Option HttpResponse)

section Libraries
variable (libraries : Libraries)

/-- A page body is a list or raises. -/
def pageItems (content : Bytes) : Option (List Json) :=
  match Json.loads libraries.floatRepr content with
  | some (.arr items) => some items
  | _ => none

/-- This is `fetch_page` after its request, where an exception gives nothing. -/
def fetchPage (total : Int) (page : Nat) (answer : Option HttpResponse) :
    Option (List Json × PageMetadata) :=
  match answer with
  | none => none
  | some response =>
      if !(200 ≤ response.status && response.status < 300) then none
      else if (response.intHeader (text "x-pages")).any (· ≠ total) then none
      else (pageItems libraries response.content).map fun items => (items, pageMetadata page response)

/-- This is `_fetch_all_pages` after its pages, where an exception gives nothing. -/
def mergePages (first : HttpResponse) (fetched : List (List Json × PageMetadata)) :
    Option (Bytes × List PageMetadata) :=
  (pageItems libraries first.content).map fun items =>
    (encode (Json.dumps Json.defaultSeparators (.arr (items ++ fetched.flatMap (·.1)))),
      fetched.map (·.2))

/-- This is `_fetch_all_pages`, where an exception gives nothing. -/
def fetchAllPages (first : HttpResponse) (pages : Nat → Option HttpResponse) :
    Option (Bytes × List PageMetadata) :=
  let total := totalPages first
  ((List.range' 2 (total.toNat - 1)).mapM fun page => fetchPage libraries total page (pages page)).bind
    (mergePages libraries first)

/-- A failed pagination is caught. -/
def pagesResponse (first : HttpResponse) : Option (Bytes × List PageMetadata) → EsiResponse
  | some (body, extra) => mergedResponse first body extra
  | none => paginationFailed first

/-- A first page with status 200 may announce further pages. -/
def paginated (first : HttpResponse) (pages : Nat → Option HttpResponse) : EsiResponse :=
  if 1 < totalPages first then pagesResponse first (fetchAllPages libraries first pages)
  else mergedResponse first first.content []

/-- This is the response that `fetch` returns. -/
def respond (method : Method) (etag : Option PyStr) : Upstream → EsiResponse
  | .blocked remain reset => blockedResponse remain reset
  | .unreachable => unreachableResponse
  | .answered first pages =>
      if first.status = 304 then notModifiedResponse etag first
      else if first.status ≠ 200 ∨ method ≠ .get then passedResponse first
      else paginated libraries first pages

/-- Only a 304 of ESI is marked as not modified, and it keeps the ETag that was sent. -/
theorem respond_notModified (method : Method) (etag : Option PyStr) (upstream : Upstream)
    (marked : (respond libraries method etag upstream).notModified = true) :
    (respond libraries method etag upstream).etag = etag ∧
      (respond libraries method etag upstream).status = 304 := by
  cases upstream with
  | blocked remain reset => cases marked
  | unreachable => cases marked
  | answered first pages =>
      unfold respond at marked ⊢
      dsimp only at marked ⊢
      split_ifs at marked ⊢ with stale passed
      · exact ⟨rfl, rfl⟩
      · cases marked
      · unfold paginated pagesResponse at marked
        split_ifs at marked
        · split at marked <;> cases marked
        · cases marked

/-- The response with status 200 does not depend on the ETag that was sent. -/
theorem respond_ok (method : Method) (first second : Option PyStr) (upstream : Upstream)
    (ok : (respond libraries method first upstream).status = 200) :
    respond libraries method second upstream = respond libraries method first upstream := by
  cases upstream with
  | blocked remain reset => rfl
  | unreachable => rfl
  | answered page pages =>
      unfold respond at ok ⊢
      dsimp only at ok ⊢
      split_ifs at ok ⊢ with stale
      · cases ok
      · rfl
      · rfl

end Libraries

end EveApiCache
