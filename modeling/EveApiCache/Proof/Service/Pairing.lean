import EveApiCache.Proof.Service.Provenance

/-!
This file shows when the stored ETag of a key belongs to its stored body.
-/

namespace EveApiCache
open Effects StepMachine

variable (libraries : Libraries) (settings : Settings)

/-- ESI sent this body for the key with status 200 and with this ETag. -/
def SentTogether (world : World) (key : PyStr) (body : Bytes) (etag : Option PyStr) : Prop :=
  ∃ fetch ∈ world.fetched, (fetch.response libraries).status = 200 ∧
    (fetch.response libraries).body = body ∧ (fetch.response libraries).etag = etag ∧
    Own libraries settings key fetch.call

/-- Wherever an ETag and a body are both present, ESI sent them together, and every copy that was
restored after a 304 is the body of the ETag that the 304 kept. -/
structure World.Paired (world : World) : Prop where
  stored : ∀ key etag entry, world.stores.redis.etag key = some etag →
    world.stores.redis.body key = some entry ∨ world.stores.redis.stale key = some entry →
      ∃ body, decodeValue libraries entry.value = some body ∧
        SentTogether libraries settings world key body (some etag.value)
  restored : ∀ copy ∈ world.restored, copy.etag.getD [] ≠ [] →
    SentTogether libraries settings world copy.key copy.body copy.etag

/-- ESI answers 304 only to a conditional request whose ETag is the current one. -/
def honest (service : Service) : ServiceAction → Bool
  | .proceed thread (.answers (.answered first _)) =>
      match service.threads thread with
      | some (.perform (.lead _ _ call etag) _) =>
          first.status ≠ 304 || (etag.getD [] ≠ [] && service.shared.current call = etag)
      | some (.perform (.fetch call etag) _) =>
          first.status ≠ 304 || (etag.getD [] ≠ [] && service.shared.current call = etag)
      | _ => true
  | _ => true

variable {libraries settings}

/-- Without alias versions a backed body was sent with its ETag for the key itself. -/
theorem Backed.sentTogether (unaliased : settings.collectorWarmAliasVersions = []) {world : World}
    {key : PyStr} {body : Bytes} {etag : Option PyStr} (present : etag.getD [] ≠ [])
    (backed : Backed libraries settings True world.fetched key body etag) :
    SentTogether libraries settings world key body etag := by
  obtain ⟨fetch, member, ok, same, serves, pairs⟩ := backed
  refine ⟨fetch, member, ok, same, pairs trivial present, serves.resolve_right ?_⟩
  rintro ⟨job, version, listed, _⟩
  rw [unaliased] at listed
  cases listed

theorem World.Holds.paired (unaliased : settings.collectorWarmAliasVersions = []) {world : World}
    (held : world.Holds libraries settings True) : world.Paired libraries settings where
  stored key etag entry tagged stored := by
    have nonempty := held.redis.etag key etag tagged
    have current : world.stores.redis.etagAt key = some etag.value := by
      unfold Redis.etagAt
      rw [tagged]
      rfl
    obtain ⟨body, form, backed⟩ := stored.elim (held.redis.body key entry) (held.redis.stale key entry)
    refine ⟨body, ?_, ?_⟩
    · rw [form]
      exact Traced.decoded held.unmarked backed
    · rw [current] at backed
      exact backed.sentTogether unaliased nonempty
  restored copy member present := (held.restored copy member).sentTogether unaliased present

/-- The ETag of a key belongs to its body in every run in which each 304 restores its copy while
`esi:etag` still holds the ETag that was sent, Redis takes every lifetime of `cache.set` as a whole,
and ESI sends no short marked body. -/
theorem service_paired (plain : PlainDigest libraries)
    (unaliased : settings.collectorWarmAliasVersions = []) {state : Service}
    (reached : ((service libraries settings).machine World.Fresh).Guarded
      (fun service action => Plausible libraries settings service action ∧ Punctual service action)
      state) : state.shared.Paired libraries settings :=
  (guarded_holds plain (reached.mono fun _ _ allowed => ⟨allowed.1, fun _ => allowed.2⟩)).paired
    unaliased

/-- This check finds punctual steps. -/
def punctual (service : Service) : ServiceAction → Bool
  | .proceed thread (.proceeds _ _) =>
      match service.threads thread with
      | some (.perform (.access (.set _ _ ttl etag staleTtl)) _) =>
          service.shared.stores.redis.setSucceeds ttl etag staleTtl
      | some (.perform (.access (.restoreStale key etag)) _) =>
          etag.getD [] = [] || service.shared.stores.redis.etagAt key = etag
      | _ => true
  | _ => true

theorem punctual_of_check (service : Service) (action : ServiceAction)
    (checked : punctual service action = true) : Punctual service action := by
  cases action with
  | start | outside => trivial
  | proceed thread circumstance =>
      cases circumstance with
      | answers | raises | cancelled => trivial
      | proceeds now fault =>
          intro await next found
          simp only [punctual, found] at checked
          cases await with
          | coalesce | lead | fetch => trivial
          | access call =>
              cases call with
              | set => exact checked
              | restoreStale key etag =>
                  intro present
                  simpa [present] using checked
              | _ => trivial

/-- A second request revalidates the list of the first one with a 304. -/
def revalidatedSchedule : List ServiceAction := incursionsSchedule ++
  [.outside (.pass 301000), .start 1 (.proxy (plainRequest (text "/v1/incursions/"))), proceed 1,
    proceed 1, proceed 1, proceed 1, answer 1 (plainAnswer 304 [] (text "A")), proceed 1, proceed 1,
    proceed 1]

theorem service_paired_revalidated :
    ∃ state : Service, state.shared.restored.map (·.body) = [bytes "[]"] ∧
      state.shared.Paired serviceLibraries {} := by
  have checked : (((service serviceLibraries {}).machine World.Fresh).runIf punctual emptyService
      revalidatedSchedule).map (fun state => state.shared.restored.map (·.body)) =
      some [bytes "[]"] := by
    decide +kernel
  obtain ⟨state, completed, restored⟩ := Option.map_eq_some_iff.mp checked
  refine ⟨state, restored, service_paired serviceLibraries_plain rfl
    (Machine.Guarded.runIf (.start (emptyService_initial _ _)) revalidatedSchedule
      (fun action member current checked => ⟨?_, punctual_of_check current action checked⟩)
      completed)⟩
  simp only [revalidatedSchedule, incursionsSchedule, List.cons_append, List.nil_append,
    List.mem_cons, List.not_mem_nil, or_false] at member
  have answers (status : Nat) (content : Bytes) (short : Unmarked {} content) (thread : Nat) :
      Plausible serviceLibraries {} current (answer thread (plainAnswer status content (text "A"))) :=
    plainAnswer_unmarked serviceLibraries {} status content _ short
  rcases member with rfl | rfl | rfl | rfl | rfl | rfl | rfl | rfl | rfl | rfl | rfl | rfl | rfl |
    rfl | rfl | rfl | rfl | rfl | rfl
  all_goals first | trivial | exact answers _ _ (.inr (by decide)) _ |
    exact fun _ same => by cases same

/-- The incursions are known to ESI by this call. -/
def incursionsUpstream : UpstreamCall := ⟨text "/v1/incursions/", .get, .empty, none⟩

/-- The collector stores a new list between the 304 of a request and its stale copy. -/
def overtakenSchedule : List ServiceAction :=
  [.outside (.revise incursionsUpstream (some (text "A")))] ++ incursionsSchedule ++
    [.outside (.pass 301000), .start 1 (.proxy (plainRequest (text "/v1/incursions/"))), proceed 1,
      proceed 1, proceed 1, proceed 1, answer 1 (plainAnswer 304 [] (text "A")), proceed 1,
      .outside (.revise incursionsUpstream (some (text "B"))), .start 2 (.collect .incursions),
      answer 2 (plainAnswer 200 (bytes "[1]") (text "B")), proceed 2, proceed 2, proceed 1, proceed 1]

/-- The stored ETag and the hot body of the key come from no common fetch. -/
def isUnpaired (libraries : Libraries) (key : PyStr) (state : Service) : Bool :=
  match state.shared.stores.redis.etag key, state.shared.stores.redis.body key with
  | some etag, some entry => state.shared.fetched.all fun fetch =>
      (fetch.response libraries).status ≠ 200 ||
        ((fetch.response libraries).etag ≠ some etag.value ||
          decodeValue libraries entry.value ≠ some (fetch.response libraries).body)
  | _, _ => false

/-- The new list is stored with the old ETag. -/
theorem service_unpaired :
    ∃ state : Service,
      ((service serviceLibraries {}).machine World.Fresh).Guarded
        (fun service action => honest service action = true) state ∧
      ¬state.shared.Paired serviceLibraries {} := by
  have checked : ((((service serviceLibraries {}).machine World.Fresh).runIf honest emptyService
      overtakenSchedule).any (isUnpaired serviceLibraries
        (text "esi:tranquility:GET:/v1/incursions/:44136fa355b3678a"))) = true := by
    decide +kernel
  obtain ⟨state, completed, unpaired⟩ := (Option.any_eq_true _ _).mp checked
  refine ⟨state, Machine.Guarded.runIf (.start (emptyService_initial _ _)) overtakenSchedule
    (fun _ _ _ checked => checked) completed, fun paired => ?_⟩
  unfold isUnpaired at unpaired
  split at unpaired
  · rename_i etag entry tagged stored
    obtain ⟨body, decoded, fetch, member, ok, same, sent, _⟩ :=
      paired.stored _ etag entry tagged (.inl stored)
    have differs := List.all_eq_true.mp unpaired fetch member
    simp [ok, decoded, same, sent] at differs
  · cases unpaired

end EveApiCache
