import EveApiCache.Proof.Service.Invariant

/-!
This file shows where every cached and archived body comes from.
-/

namespace EveApiCache
open Effects StepMachine

variable (libraries : Libraries) (settings : Settings)

/-- A key has one upstream call, up to the order of its parameters. -/
def CallOf (key : PyStr) (call : UpstreamCall) : Prop :=
  Own libraries settings key call ∧ ∀ other, Own libraries settings key other → other.Same call

/-- Every cached body, every archived payload and every cached error was sent by ESI for its own
request, and only an alias key holds the body of its canonical path. -/
structure World.Provenance (world : World) : Prop where
  bodies : ∀ key entry,
    world.stores.redis.body key = some entry ∨ world.stores.redis.stale key = some entry →
      ∃ fetch ∈ world.fetched, (fetch.response libraries).status = 200 ∧
        decodeValue libraries entry.value = some (fetch.response libraries).body ∧
        (CallOf libraries settings key fetch.call ∨ Warmed libraries settings key fetch.call)
  snapshots : ∀ row ∈ world.stores.database.timeseries, row.httpStatus = 200 ∧
    ∃ fetch ∈ world.fetched, (fetch.response libraries).status = 200 ∧
      (∃ key, Asks libraries settings key row.identity fetch.call) ∧
      row.payload = none ∧ ∃ blob, world.stores.database.blobs row.contentHash = some blob ∧
        decompressPayload libraries blob.payloadCodec blob.payloadCompressed =
          some (fetch.response libraries).body
  manifests : ∀ row ∈ world.stores.database.objectFiles,
    ∃ fetch ∈ world.fetched, (fetch.response libraries).status = 200 ∧
      (∃ key, Asks libraries settings key row.identity fetch.call) ∧
      row.contentHash = libraries.sha256 (fetch.response libraries).body
  references : ∀ identity row, world.stores.database.reference identity = some row →
    row.httpStatus = 200 ∧ ∃ fetch ∈ world.fetched, (fetch.response libraries).status = 200 ∧
      (∃ key, Asks libraries settings key identity fetch.call) ∧
      (Json.loads libraries.floatRepr (fetch.response libraries).body).bind (storedJson libraries) =
        some row.payload
  events : ∀ identity row, world.stores.database.events identity = some row →
    row.httpStatus = 200 ∧ ∃ fetch ∈ world.fetched, (fetch.response libraries).status = 200 ∧
      (∃ key, Asks libraries settings key identity fetch.call) ∧
      (Json.loads libraries.floatRepr (fetch.response libraries).body).bind (storedJson libraries) =
        some row.payload
  errors : ∀ key entry, world.stores.redis.negBody key = some entry → ∃ status,
    world.stores.redis.negStatus key = some ⟨status, entry.deadline⟩ ∧ Negative status ∧
      ∃ fetch ∈ world.fetched, (fetch.response libraries).status = status ∧
        (fetch.response libraries).body = entry.value ∧ CallOf libraries settings key fetch.call
  statuses : ∀ key entry, world.stores.redis.negStatus key = some entry → ∃ body,
    world.stores.redis.negBody key = some ⟨body, entry.deadline⟩

variable {libraries settings}

theorem Own.callOf (plain : PlainDigest libraries)
    (injective : Function.Injective libraries.queryDigest) {key : PyStr} {call : UpstreamCall}
    (own : Own libraries settings key call) : CallOf libraries settings key call := by
  obtain ⟨identity, asks⟩ := own
  exact ⟨⟨identity, asks⟩, fun other ⟨another, asked⟩ => asked.same plain injective asks⟩

theorem World.Holds.provenance (plain : PlainDigest libraries)
    (injective : Function.Injective libraries.queryDigest)
    (collisionFree : Function.Injective libraries.sha256) {world : World}
    (held : world.Holds libraries settings False) : world.Provenance libraries settings := by
  have body (key : PyStr) (entry : TimedEntry Bytes)
      (traced : ∃ body, entry.value = storedForm libraries settings body ∧
        Backed libraries settings False world.fetched key body (world.stores.redis.etagAt key)) :
      ∃ fetch ∈ world.fetched, (fetch.response libraries).status = 200 ∧
        decodeValue libraries entry.value = some (fetch.response libraries).body ∧
        (CallOf libraries settings key fetch.call ∨ Warmed libraries settings key fetch.call) := by
    obtain ⟨body, form, backed⟩ := traced
    have decoded := Traced.decoded held.unmarked backed
    obtain ⟨fetch, member, ok, rfl, serves, _⟩ := backed
    refine ⟨fetch, member, ok, form ▸ decoded, ?_⟩
    exact serves.imp_left fun own => own.callOf plain injective
  exact
    { bodies := fun key entry stored =>
        stored.elim (fun stored => body key entry (held.redis.body key entry stored))
          fun stored => body key entry (held.redis.stale key entry stored)
      snapshots := fun row member => by
        obtain ⟨status, empty, payload, ⟨fetch, found, ok, rfl, asked⟩, hash⟩ :=
          held.archive.timeseries row member
        obtain ⟨blob, stored⟩ := Option.isSome_iff_exists.mp (held.blobs.payloads row member)
        obtain ⟨payload, restored, hashed⟩ := held.blobs.blobs _ _ stored
        obtain rfl := collisionFree (hashed.trans hash)
        exact ⟨status, fetch, found, ok, asked, empty, blob, stored, restored⟩
      manifests := fun row member => by
        obtain ⟨payload, ⟨fetch, found, ok, rfl, asked⟩, hash⟩ := held.archive.objectFiles row member
        exact ⟨fetch, found, ok, asked, hash⟩
      references := fun identity row stored => by
        obtain ⟨status, payload, ⟨fetch, found, ok, rfl, asked⟩, _, value⟩ :=
          held.archive.reference identity row stored
        exact ⟨status, fetch, found, ok, asked, value⟩
      events := fun identity row stored => by
        obtain ⟨status, payload, ⟨fetch, found, ok, rfl, asked⟩, _, value⟩ :=
          held.archive.events identity row stored
        exact ⟨status, fetch, found, ok, asked, value⟩
      errors := fun key entry stored => by
        obtain ⟨status, same, negative, fetch, found, ok, body, own⟩ :=
          held.redis.negBody key entry stored
        exact ⟨status, same, negative, fetch, found, ok, body, own.callOf plain injective⟩
      statuses := held.redis.negStatus }

/-- In every run in which ESI sends no short marked body, what is cached and archived comes from ESI
for the same request. -/
theorem service_provenance (plain : PlainDigest libraries)
    (injective : Function.Injective libraries.queryDigest)
    (collisionFree : Function.Injective libraries.sha256) {state : Service}
    (reached : ((service libraries settings).machine World.Fresh).Guarded
      (Plausible libraries settings) state) :
    state.shared.Provenance libraries settings :=
  (guarded_holds plain (reached.mono fun _ _ credible => ⟨credible, False.elim⟩)).provenance plain
    injective collisionFree

/-- The service starts with empty stores. -/
def emptyWorld : World := ⟨⟨.empty 0, .empty, fun _ => none⟩, .empty, fun _ => none, [], []⟩

def emptyService : Service := ⟨emptyWorld, fun _ => none⟩

theorem emptyService_initial (libraries : Libraries) (settings : Settings) :
    ((service libraries settings).machine World.Fresh).initial emptyService :=
  ⟨⟨⟨0, rfl⟩, rfl, rfl, rfl, rfl⟩, rfl⟩

/-- These digests are the real ones on the query text of a request without parameters. -/
def queryDigests : List (Bytes × PyStr) := [(bytes "\x7b\x7d", text "44136fa355b3678a")]

def serviceLibraries : Libraries :=
  { incursionLibraries with queryDigest := pinnedDigest queryDigests }

theorem queryDigests_pinnable : Pinnable queryDigests := by
  refine ⟨by simp [queryDigests], fun pin member => ?_⟩
  obtain rfl := List.mem_singleton.mp member
  decide

theorem serviceLibraries_plain : PlainDigest serviceLibraries := by
  intro input
  refine ⟨pinnedDigest_plain queryDigests_pinnable input, fun same => ?_⟩
  have head := congrArg List.head? same
  change (pinnedDigest queryDigests input).head? = some 0x72 at head
  unfold pinnedDigest at head
  cases found : queryDigests.lookup input with
  | none =>
      rw [found] at head
      have clash : (0x78 : CodePoint) = 0x72 := Option.some.inj head
      exact absurd clash (by decide)
  | some digest =>
      obtain equal := List.mem_singleton.mp (mem_of_lookup found)
      rw [found, (Prod.mk.inj equal).2] at head
      have clash : (text "44136fa355b3678a").head? = some 0x72 := head
      exact absurd clash (by decide)

/-- This request has no parameters and no body. -/
def plainRequest (path : PyStr) : Request := ⟨path, .get, .empty, none, fun _ => rfl⟩

/-- This answer has no headers but an ETag. -/
def plainAnswer (status : Nat) (content : Bytes) (etag : PyStr) : Upstream :=
  .answered
    { status := status
      content := content
      headers := fun name => if name = text "etag" then some etag else none
      maxAge := some 300
      expiresAt := none } fun _ => none

/-- The awaits of these schedules proceed at the start of the year. -/
def proceed (thread : Nat) : ServiceAction :=
  .proceed thread (.proceeds ⟨2024, 1, 1, 0, 0, 0, 0⟩ none)

def answer (thread : Nat) (upstream : Upstream) : ServiceAction := .proceed thread (.answers upstream)

/-- One request finds nothing, fetches an empty list, stores it and archives it. -/
def incursionsSchedule : List ServiceAction :=
  [.start 0 (.proxy (plainRequest (text "/v1/incursions/"))), proceed 0, proceed 0, proceed 0, proceed 0,
    answer 0 (plainAnswer 200 (bytes "[]") (text "A")), proceed 0, proceed 0, proceed 0]

theorem allowed_of_forall {State Action : Type} {machine : Machine State Action}
    {guard : State → Action → Prop} {schedule : List Action}
    (each : ∀ action ∈ schedule, ∀ state, guard state action) (state : State) :
    machine.Allowed guard state schedule := by
  induction schedule generalizing state with
  | nil => trivial
  | cons action rest ih =>
      exact ⟨each action (by simp) state, fun next _ =>
        ih (fun other member => each other (by simp [member])) next⟩

/-- A single page with an unmarked body is credible. -/
theorem plainAnswer_unmarked (libraries : Libraries) (settings : Settings) (status : Nat)
    (content : Bytes) (etag : PyStr) (unmarked : Unmarked settings content)
    (method : Method) (sent : Option PyStr)
    (ok : (respond libraries method sent (plainAnswer status content etag)).status = 200) :
    Unmarked settings (respond libraries method sent (plainAnswer status content etag)).body := by
  unfold plainAnswer respond at ok ⊢
  dsimp only at ok ⊢
  split_ifs at ok ⊢
  · cases ok
  · exact unmarked
  · exact unmarked

theorem service_provenance_incursions :
    ∃ state : Service,
      state.shared.stores.database.timeseries.map (·.contentHash) =
        [text "4f53cda18c2baa0c0354bb5f9a3ecbe5ed12ab4d8e11ba873c2f11161202b945"] ∧
      state.shared.Provenance serviceLibraries {} := by
  have checked : (((service serviceLibraries {}).machine World.Fresh).run emptyService
      incursionsSchedule).map (fun state =>
        state.shared.stores.database.timeseries.map (·.contentHash)) =
      some [text "4f53cda18c2baa0c0354bb5f9a3ecbe5ed12ab4d8e11ba873c2f11161202b945"] := by
    decide +kernel
  obtain ⟨state, completed, hashes⟩ := Option.map_eq_some_iff.mp checked
  refine ⟨state, hashes, service_provenance serviceLibraries_plain
    (pinnedDigest_injective queryDigests_pinnable) (pinnedDigest_injective incursionDigests_pinnable)
    (Machine.Guarded.run (.start (emptyService_initial _ _)) incursionsSchedule
      (allowed_of_forall ?_ _) completed)⟩
  intro action member current
  simp only [incursionsSchedule, List.mem_cons, List.not_mem_nil, or_false] at member
  rcases member with rfl | rfl | rfl | rfl | rfl | rfl | rfl | rfl | rfl
  · exact nofun
  · trivial
  · trivial
  · trivial
  · trivial
  · exact plainAnswer_unmarked serviceLibraries {} 200 _ _ (.inr (by decide))
  · trivial
  · trivial
  · trivial

/-- This body is marked as a compressed empty list. -/
def markedBody : Bytes := cacheMagic ++ bytes "l" ++ [120, 156, 139, 142, 5, 0, 1, 21, 0, 185]

/-- A 304 restores the marked body in its decompressed form. -/
def markedSchedule : List ServiceAction :=
  [.start 0 (.proxy (plainRequest (text "/v1/status/"))), proceed 0, proceed 0, proceed 0, proceed 0,
    answer 0 (plainAnswer 200 markedBody (text "A")), proceed 0, proceed 0, .outside (.pass 301000),
    .start 1 (.proxy (plainRequest (text "/v1/status/"))), proceed 1, proceed 1, proceed 1, proceed 1,
    answer 1 (plainAnswer 304 [] (text "A")), proceed 1, proceed 1, proceed 1]

/-- The hot body of the key is the body of no fetch with status 200, neither as it stands nor decoded. -/
def isForeign (libraries : Libraries) (key : PyStr) (state : Service) : Bool :=
  match state.shared.stores.redis.body key with
  | none => false
  | some entry => state.shared.fetched.all fun fetch =>
      (fetch.response libraries).status ≠ 200 ||
        ((fetch.response libraries).body ≠ entry.value &&
          decodeValue libraries entry.value ≠ some (fetch.response libraries).body)

/-- A short marked body becomes a body that ESI never sent. -/
theorem service_provenance_marked :
    ∃ state : Service, ((service serviceLibraries {}).machine World.Fresh).Reachable state ∧
      ¬state.shared.Provenance serviceLibraries {} := by
  have checked : ((((service serviceLibraries {}).machine World.Fresh).run emptyService
      markedSchedule).any (isForeign serviceLibraries
        (text "esi:tranquility:GET:/v1/status/:44136fa355b3678a"))) = true := by
    decide +kernel
  obtain ⟨state, completed, foreign⟩ := (Option.any_eq_true _ _).mp checked
  refine ⟨state, Machine.Reachable.run (.start (emptyService_initial _ _)) markedSchedule completed,
    fun provenance => ?_⟩
  unfold isForeign at foreign
  split at foreign
  · cases foreign
  · rename_i entry stored
    obtain ⟨fetch, member, ok, decoded, _⟩ := provenance.bodies _ entry (.inl stored)
    have differs := List.all_eq_true.mp foreign fetch member
    simp [ok, decoded] at differs

end EveApiCache
