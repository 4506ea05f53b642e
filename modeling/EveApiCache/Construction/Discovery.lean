import EveApiCache.Construction.Archive.Read
import EveApiCache.Construction.Archive.Write
import EveApiCache.Construction.Pipeline

/-!
This file models how the collector discovers the types of a region.
-/

namespace EveApiCache

/-- The collector archives the orders of a region under this identity. -/
def ordersIdentity (libraries : Libraries) (datasource : PyStr) (regionId : Int) : Identity :=
  ⟨datasource, (Job.marketOrders regionId).path,
    computeQueryHash libraries (Job.marketOrders regionId).params none⟩

section Latest
variable (libraries : Libraries)

/-- `int` of an infinite float overflows, and the discovery does not catch that. -/
def infinite : Json → Bool
  | .float numeral => numeral = text "Infinity" || numeral = text "-Infinity"
  | _ => false

/-- The loop over the orders adds their type ids until `int` raises. The flag tells whether the loop
reached its end. -/
def orderTypeIds : List Json → Option (List Int × Bool)
  | [] => some ([], true)
  | .obj fields :: rest =>
      match Json.field (text "type_id") fields with
      | none => orderTypeIds rest
      | some value =>
          match intOf libraries value with
          | some typeId => (orderTypeIds rest).map fun found => (typeId :: found.1, found.2)
          | none => if infinite value then none else some ([], false)
  | _ :: rest => orderTypeIds rest

/-- A payload that is no JSON text or that has no items raises an error that is swallowed. -/
def payloadTypeIds (payload : Bytes) : Option (List Int × Bool) :=
  match Json.loads libraries.floatRepr payload with
  | some (.arr orders) => orderTypeIds libraries orders
  | some (.obj _) => some ([], true)
  | some (.str _) => some ([], true)
  | _ => some ([], false)

/-- Without a payload there is nothing to add. -/
def latestTypeIds : Option Bytes → Option (List Int × Bool)
  | none => some ([], true)
  | some payload => payloadTypeIds libraries payload

end Latest

/-- These are the rows of the query in `_accumulated_type_ids`, in any order. `textOf` is the operator
`->>` of PostgreSQL, and a missing field is `none`. -/
structure Accumulated (textOf : Json → PyStr → Option PyStr) (database : Database)
    (datasource : PyStr) (regionId : Int) (rows : List (Option PyStr)) : Prop where
  distinct : rows.Nodup
  selects : ∀ raw, raw ∈ rows ↔ ∃ snapshotId orderId entry version,
    database.entries (snapshotId, orderId) = some entry ∧ entry.regionId = regionId ∧
      database.versions ⟨datasource, orderId, entry.versionHash⟩ = some version ∧
        textOf version.payload (text "type_id") = raw

/-- This is `_accumulated_type_ids` after its query. A query that fails gives nothing. -/
def accumulatedTypeIds : Option (List (Option PyStr)) → List Int
  | none => []
  | some rows => rows.filterMap fun raw => raw.bind intOfText

/-- A discovery returns its list, and it swallowed no error when it is clean. -/
structure Discovery where
  typeIds : List Int
  clean : Bool

/-- This is `_discover_type_ids`, given the rows of the query. The list of a set has no duplicates. -/
def discoverTypeIds (libraries : Libraries) (database : Database) (files : PyStr → Option Bytes)
    (regionId : Int) (datasource : PyStr) (rows : Option (List (Option PyStr))) :
    Option Discovery := do
  let payload ← getLatestPayload libraries database files (ordersIdentity libraries datasource regionId)
  let latest ← latestTypeIds libraries payload
  return ⟨(latest.1 ++ accumulatedTypeIds rows).dedup, latest.2 && rows.isSome⟩

end EveApiCache
