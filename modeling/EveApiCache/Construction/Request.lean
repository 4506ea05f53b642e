import EveApiCache.Construction.Allowlist

/-!
This file models the part of `_dispatch` in `app/proxy.py` that runs before the first await.
-/

namespace EveApiCache

inductive CacheStatus where
  | hit
  | miss
  | stale
  | archiveFallback
  | error
  deriving DecidableEq

structure ProxyResult where
  status : Nat
  body : Bytes
  cacheStatus : CacheStatus
  contentType : PyStr := text "application/json"
  location : Option PyStr := none
  deriving DecidableEq

/-- These are the arguments of `proxy_request` that come from the client. The router reads a body
only for `POST`. -/
structure Request where
  fullPath : PyStr
  method : Method
  params : Params
  body : Option Bytes
  bodiless : method = .get → body = none

/-- These are the arguments of `esi.fetch` apart from the ETag. -/
structure UpstreamCall where
  path : PyStr
  method : Method
  params : Params
  body : Option Bytes
  deriving DecidableEq

/-- Two upstream calls are equal when their parameters are equal as dictionaries. -/
def UpstreamCall.Same (first second : UpstreamCall) : Prop :=
  first.method = second.method ∧ first.path = second.path ∧
    (∀ name, first.params.get name = second.params.get name) ∧ first.body = second.body

/-- These are the local variables of `_dispatch` at its first await. -/
structure Prepared where
  spec : EndpointSpec
  datasource : PyStr
  queryHash : PyStr
  cacheKey : PyStr
  call : UpstreamCall

def isBatchItem : Json → Bool
  | .int _ => true
  | .str _ => true
  | _ => false

/-- This is `esi_params["datasource"] = datasource`. -/
def Params.set (params : Params) (name value : PyStr) : Params where
  pairs := params.pairs.filter (fun pair => pair.1 ≠ name) ++ [(name, value)]
  nodup := by
    rw [List.map_append, List.nodup_append']
    refine ⟨params.nodup.sublist (List.filter_sublist.map Prod.fst), List.nodup_singleton name, ?_⟩
    intro other member single
    obtain ⟨pair, inside, rfl⟩ := List.mem_map.mp member
    have differs := (List.mem_filter.mp inside).2
    simp_all

/-- The upstream call names the datasource only when it is not the main one. -/
def esiParams (datasource : PyStr) (params : Params) : Params :=
  if datasource = text "tranquility" then params else params.set (text "datasource") datasource

section Libraries
variable (libraries : Libraries)

/-- This is `_validate_post_body`. -/
def validatePostBody (maxItems : Nat) : Option Bytes → Option Bytes
  | none => some (bytes "\x7b\"error\":\"POST body required\"\x7d")
  | some body =>
      if body = [] then some (bytes "\x7b\"error\":\"POST body required\"\x7d")
      else
        match Json.loads libraries.floatRepr body with
        | none => some (bytes "\x7b\"error\":\"invalid JSON body\"\x7d")
        | some (.arr items) =>
            if maxItems < items.length then some (bytes "\x7b\"error\":\"POST batch too large\"\x7d")
            else if items.all isBatchItem then none
            else some (bytes "\x7b\"error\":\"POST batch items must be strings or integers\"\x7d")
        | some _ => some (bytes "\x7b\"error\":\"POST body must be a JSON list\"\x7d")

/-- A client error answers in the shape of every other error. -/
def clientError (status : Nat) (body : Bytes) : ProxyResult :=
  ⟨status, body, .error, text "application/json", none⟩

/-- This function is `_dispatch` up to its first await. An error result is final. -/
def prepare (settings : Settings) (request : Request) : Except ProxyResult Prepared :=
  match validatePath request.fullPath with
  | none => .error (clientError 400 (bytes "\x7b\"error\":\"invalid path\"\x7d"))
  | some (_, restPath) =>
      match matchEndpoint restPath request.method with
      | none => .error (clientError 404 (bytes "\x7b\"error\":\"endpoint not in allowlist\"\x7d"))
      | some spec =>
          let datasource := (request.params.get (text "datasource")).getD settings.defaultDatasource
          if !validateDatasource datasource then
            .error (clientError 400 (bytes "\x7b\"error\":\"invalid datasource\"\x7d"))
          else
            match checkParams spec request.params with
            | some message =>
                .error (clientError 400 (encode (Json.dumps Json.defaultSeparators
                  (.obj [(text "error", .str message)]))))
            | none =>
                match if request.method = .post then
                    validatePostBody libraries settings.maxPostBatchItems request.body
                  else none with
                | some message => .error (clientError 400 message)
                | none =>
                    let body := if request.method = .post then normalizeBody libraries request.body
                      else request.body
                    let cleanParams := normalizeParams request.params
                    .ok {
                      spec := spec
                      datasource := datasource
                      queryHash := computeQueryHash libraries cleanParams body
                      cacheKey := buildCacheKey libraries datasource request.method request.fullPath
                        request.params body
                      call := ⟨request.fullPath, request.method, esiParams datasource cleanParams, body⟩ }

end Libraries

end EveApiCache
