import EveApiCache.Construction.Config

/-!
This file models `app/allowlist.py`.
-/

namespace EveApiCache

inductive ArchiveType where
  | timeSeries
  | reference
  | event
  | none
  deriving DecidableEq

/-- The router admits these two methods. -/
inductive Method where
  | get
  | post
  deriving DecidableEq

def Method.upper : Method → PyStr
  | .get => text "GET"
  | .post => text "POST"

/-- A dictionary of query parameters has distinct names. -/
structure Params where
  pairs : List (PyStr × PyStr)
  nodup : (pairs.map Prod.fst).Nodup
  deriving DecidableEq

namespace Params

theorem ext {first second : Params} (pairs : first.pairs = second.pairs) : first = second := by
  cases first
  cases second
  cases pairs
  rfl

def empty : Params := ⟨[], List.nodup_nil⟩

def get (params : Params) (name : PyStr) : Option PyStr := params.pairs.lookup name

def names (params : Params) : List PyStr := params.pairs.map Prod.fst

end Params

def validVersions : List PyStr :=
  ["v1", "v2", "v3", "v4", "v5", "v6", "latest", "legacy", "dev"].map text

def validDatasources : List PyStr := ["tranquility", "singularity"].map text

def proxyParams : List PyStr := ["page", "datasource"].map text

def language : List PyStr := [text "language"]

/-- These are the decimal zeros of Unicode 15. Each one starts a run of ten digits. -/
def decimalZeros : List Nat :=
  [0x30, 0x660, 0x6f0, 0x7c0, 0x966, 0x9e6, 0xa66, 0xae6, 0xb66, 0xbe6, 0xc66, 0xce6, 0xd66, 0xde6,
    0xe50, 0xed0, 0xf20, 0x1040, 0x1090, 0x17e0, 0x1810, 0x1946, 0x19d0, 0x1a80, 0x1a90, 0x1b50,
    0x1bb0, 0x1c40, 0x1c50, 0xa620, 0xa8d0, 0xa900, 0xa9d0, 0xa9f0, 0xaa50, 0xabf0, 0xff10, 0x104a0,
    0x10d30, 0x11066, 0x110f0, 0x11136, 0x111d0, 0x112f0, 0x11450, 0x114d0, 0x11650, 0x116c0,
    0x11730, 0x118e0, 0x11950, 0x11c50, 0x11d50, 0x11da0, 0x11f50, 0x16a60, 0x16ac0, 0x16b50,
    0x1d7ce, 0x1d7d8, 0x1d7e2, 0x1d7ec, 0x1d7f6, 0x1e140, 0x1e2f0, 0x1e4f0, 0x1e950, 0x1fbf0]

/-- This is the class `\d` of a text pattern, which is not only ASCII. -/
def isDecimal (symbol : CodePoint) : Bool :=
  decimalZeros.any fun start => start ≤ symbol.val && symbol.val < start + 10

/-- This is the class `[0-9a-f]`. -/
def isLowerHex (symbol : CodePoint) : Bool :=
  (0x30 ≤ symbol.val && symbol.val ≤ 0x39) || (0x61 ≤ symbol.val && symbol.val ≤ 0x66)

/-- A pattern is a sequence of literals, `\d+` and `[0-9a-f]{40}`, and ends in `/?$`. -/
inductive Piece where
  | literal (word : PyStr)
  | decimals
  | hash

/-- No piece can give symbols back, since a slash or the end follows each variable piece. -/
def Piece.consume : Piece → PyStr → Option PyStr
  | .literal word, input => if word.isPrefixOf input then some (input.drop word.length) else none
  | .decimals, input =>
      if (input.takeWhile isDecimal).isEmpty then none else some (input.dropWhile isDecimal)
  | .hash, input =>
      if (input.take 40).length = 40 ∧ (input.take 40).all isLowerHex then some (input.drop 40)
      else none

def consumeAll : List Piece → PyStr → Option PyStr
  | [], input => some input
  | piece :: pieces, input => (piece.consume input).bind (consumeAll pieces)

/-- The end `/?$` also matches before a final line feed. -/
def atEnd (input : PyStr) : Bool :=
  input = [] || input = [0x0a] || input = [0x2f] || input = [0x2f, 0x0a]

structure EndpointSpec where
  pattern : List Piece
  methods : List Method
  archiveType : ArchiveType
  extractNames : Bool := false
  allowedParams : List PyStr := []
  requiredParams : List PyStr := []

def EndpointSpec.matches (spec : EndpointSpec) (path : PyStr) : Bool :=
  match consumeAll spec.pattern path with
  | some rest => atEnd rest
  | none => false

def literal (word : String) : Piece := .literal (text word)

/-- This is the table `_ENDPOINTS` in its order. -/
def endpoints : List EndpointSpec :=
  [{ pattern := [literal "/markets/", .decimals, literal "/orders"], methods := [.get]
     archiveType := .timeSeries, allowedParams := [text "order_type", text "type_id"] },
   { pattern := [literal "/markets/", .decimals, literal "/history"], methods := [.get]
     archiveType := .timeSeries, allowedParams := [text "type_id"]
     requiredParams := [text "type_id"] },
   { pattern := [literal "/markets/prices"], methods := [.get], archiveType := .timeSeries },
   { pattern := [literal "/universe/types/", .decimals], methods := [.get]
     archiveType := .reference, allowedParams := language },
   { pattern := [literal "/universe/systems"], methods := [.get], archiveType := .reference },
   { pattern := [literal "/universe/systems/", .decimals], methods := [.get]
     archiveType := .reference, allowedParams := language },
   { pattern := [literal "/universe/regions"], methods := [.get], archiveType := .reference },
   { pattern := [literal "/universe/regions/", .decimals], methods := [.get]
     archiveType := .reference, allowedParams := language },
   { pattern := [literal "/universe/constellations/", .decimals], methods := [.get]
     archiveType := .reference, allowedParams := language },
   { pattern := [literal "/universe/stations/", .decimals], methods := [.get]
     archiveType := .reference },
   { pattern := [literal "/universe/planets/", .decimals], methods := [.get]
     archiveType := .reference },
   { pattern := [literal "/universe/stars/", .decimals], methods := [.get]
     archiveType := .reference },
   { pattern := [literal "/universe/factions"], methods := [.get]
     archiveType := .reference, allowedParams := language },
   { pattern := [literal "/universe/groups/", .decimals], methods := [.get]
     archiveType := .reference, allowedParams := language },
   { pattern := [literal "/universe/system_jumps"], methods := [.get]
     archiveType := .timeSeries },
   { pattern := [literal "/universe/system_kills"], methods := [.get]
     archiveType := .timeSeries },
   { pattern := [literal "/universe/names"], methods := [.post]
     archiveType := .reference, extractNames := true },
   { pattern := [literal "/universe/ids"], methods := [.post]
     archiveType := .reference, extractNames := true },
   { pattern := [literal "/characters/", .decimals], methods := [.get]
     archiveType := .reference },
   { pattern := [literal "/characters/", .decimals, literal "/portrait"], methods := [.get]
     archiveType := .reference },
   { pattern := [literal "/characters/", .decimals, literal "/corporationhistory"]
     methods := [.get], archiveType := .timeSeries },
   { pattern := [literal "/characters/affiliation"], methods := [.post]
     archiveType := .timeSeries },
   { pattern := [literal "/corporations/", .decimals], methods := [.get]
     archiveType := .reference },
   { pattern := [literal "/corporations/", .decimals, literal "/icons"], methods := [.get]
     archiveType := .reference },
   { pattern := [literal "/alliances"], methods := [.get], archiveType := .reference },
   { pattern := [literal "/alliances/", .decimals], methods := [.get]
     archiveType := .reference },
   { pattern := [literal "/alliances/", .decimals, literal "/icons"], methods := [.get]
     archiveType := .reference },
   { pattern := [literal "/alliances/", .decimals, literal "/corporations"], methods := [.get]
     archiveType := .reference },
   { pattern := [literal "/contracts/public/", .decimals], methods := [.get]
     archiveType := .timeSeries },
   { pattern := [literal "/contracts/public/items/", .decimals], methods := [.get]
     archiveType := .event },
   { pattern := [literal "/contracts/public/bids/", .decimals], methods := [.get]
     archiveType := .timeSeries },
   { pattern := [literal "/killmails/", .decimals, literal "/", .hash], methods := [.get]
     archiveType := .event },
   { pattern := [literal "/sovereignty/map"], methods := [.get], archiveType := .timeSeries },
   { pattern := [literal "/sovereignty/structures"], methods := [.get]
     archiveType := .timeSeries },
   { pattern := [literal "/incursions"], methods := [.get], archiveType := .timeSeries },
   { pattern := [literal "/industry/facilities"], methods := [.get]
     archiveType := .timeSeries },
   { pattern := [literal "/status"], methods := [.get], archiveType := .none }]

/-- This function searches a text for a word. -/
def contains (word input : PyStr) : Bool := input.tails.any fun tail => word.isPrefixOf tail

/-- This is `_DANGEROUS.search`, which ignores the case of the two escapes. -/
def isDangerous (path : PyStr) : Bool :=
  contains (text "..") path || contains (text "%2e") (path.map lowerAscii) ||
    contains (text "%2f") (path.map lowerAscii) || path.contains 0x5c ||
    path.any (fun symbol => symbol.val < 0x20) || contains (text "//") path

/-- This is `validate_path`. It splits a path into its version and the rest. -/
def validatePath (fullPath : PyStr) : Option (PyStr × PyStr) :=
  if isDangerous fullPath then none
  else
    let stripped := fullPath.dropWhile (· = 0x2f)
    let version := stripped.takeWhile (· ≠ 0x2f)
    let rest := stripped.dropWhile (· ≠ 0x2f)
    if rest = [] then none
    else if version ∈ validVersions then some (version, rest)
    else none

def validateDatasource (datasource : PyStr) : Bool := validDatasources.contains datasource

/-- This is `match_endpoint`. -/
def matchEndpoint (unversionedPath : PyStr) (method : Method) : Option EndpointSpec :=
  endpoints.find? fun spec => spec.matches unversionedPath && spec.methods.contains method

def sortedNames (names : List PyStr) : List PyStr := names.insertionSort (· ≤ ·)

/-- This is `check_params`, which gives an error message or nothing. -/
def checkParams (spec : EndpointSpec) (params : Params) : Option PyStr :=
  let supplied := params.names.filter fun name => !proxyParams.contains name
  let unknown := supplied.filter fun name => !spec.allowedParams.contains name
  if unknown ≠ [] then
    some (text "unsupported query parameter(s): " ++
      List.intercalate (text ", ") (sortedNames unknown))
  else
    let missing := spec.requiredParams.filter fun name => !params.names.contains name
    if missing ≠ [] then
      some (text "missing required query parameter(s): " ++
        List.intercalate (text ", ") (sortedNames missing))
    else none

/-- This is `normalize_params`. It removes the proxy parameters and sorts the others. -/
def normalizeParams (params : Params) : Params where
  pairs := (params.pairs.insertionSort fun first second => first.1 ≤ second.1).filter
    fun pair => !proxyParams.contains pair.1
  nodup := by
    have sorted := (List.perm_insertionSort (fun first second => first.1 ≤ second.1)
      params.pairs).map Prod.fst
    exact (sorted.nodup_iff.mpr params.nodup).sublist ((List.filter_sublist).map Prod.fst)

/-- The loop of `normalize_body` keeps the first item of each marker. -/
def dedupe (seen : List PyStr) : List Json → List Json
  | [] => []
  | item :: rest =>
      if item.canonical ∈ seen then dedupe seen rest
      else item :: dedupe (item.canonical :: seen) rest

/-- This is the list that `normalize_body` writes. -/
def normalizeItems (items : List Json) : List Json :=
  dedupe [] (items.insertionSort fun first second => first.sortedDumps ≤ second.sortedDumps)

section Libraries
variable (libraries : Libraries)

/-- This is `normalize_body`. An empty body is false in Python. -/
def normalizeBody : Option Bytes → Option Bytes
  | none => none
  | some body =>
      if body = [] then some body
      else
        match Json.loads libraries.floatRepr body with
        | some (.arr items) => some (encode (Json.canonical (.arr (normalizeItems items))))
        | _ => some body

/-- These are the bytes that `compute_query_hash` feeds to the digest. -/
def queryText (params : Params) (body : Option Bytes) : Bytes :=
  encode (Json.sortedDumps (.obj ((normalizeParams params).pairs.map fun pair =>
      (pair.1, .str pair.2)))) ++
    match body with
    | none => []
    | some raw =>
        if raw = [] then []
        else
          match normalizeBody libraries body with
          | some normalized => if normalized = [] then raw else normalized
          | none => raw

/-- This is `compute_query_hash`. -/
def computeQueryHash (params : Params) (body : Option Bytes) : PyStr :=
  libraries.queryDigest (queryText libraries params body)

/-- This is `build_cache_key`. -/
def buildCacheKey (datasource : PyStr) (method : Method) (fullPath : PyStr) (params : Params)
    (body : Option Bytes) : PyStr :=
  text "esi:" ++ datasource ++ text ":" ++ method.upper ++ text ":" ++ fullPath ++ text ":" ++
    computeQueryHash libraries params body

end Libraries

end EveApiCache
