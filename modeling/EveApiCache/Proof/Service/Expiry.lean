import EveApiCache.Proof.Service.Freshness
import EveApiCache.Proof.Service.Lifetimes

/-!
This file shows when a hot body lives exactly as long as ESI says.
-/

namespace EveApiCache.Expiry
open Effects StepMachine

variable (libraries : Libraries) (settings : Settings) (key : PyStr)

/-- This is a lifetime in seconds, with the default for none. -/
def statedOr300 : Option Nat → Int
  | some seconds => seconds
  | none => 300

/-- This is one `cache.set` of a key. Its response stated the lifetime `stated`, and the lifetime that
was last stated for the body before is `prior`. -/
structure Kept where
  stated : Option Nat
  prior : Option Nat
  ttl : Int
  since : Nat
  tagged : Bool
  taken : Bool

/-- This is the lifetime that was last stated for the body. -/
def Kept.known (kept : Kept) : Option Nat := kept.stated.or kept.prior

/-- A lawful lifetime is the last one that was stated, and it is the default when none ever was. -/
def Kept.Lawful (kept : Kept) : Prop := kept.ttl = statedOr300 kept.known

/-- These are the stores behind the hot body of a key and its stale copy, and the last store of all. -/
structure Ledger where
  hot : Option Kept
  copy : Option Kept
  last : Option Kept

def Ledger.empty : Ledger := ⟨none, none, none⟩

/-- A task carries the response that it fetched itself and the store behind the copy that it restored.
A hit shows the store behind its body and the time at which the body was read. -/
structure Mark where
  asks : Bool
  carried : Option EsiResponse
  copy : Option Kept
  served : Option (Kept × Nat)
  refused : Bool

def Mark.empty : Mark := ⟨false, none, none, none, false⟩

/-- A 304 leaves the lifetime that was stated for the restored copy. -/
def Mark.prior (mark : Mark) : Option Nat :=
  if mark.carried.any (·.notModified) then mark.copy.bind Kept.known else none

/-- This is the store that a task performs. -/
def Mark.entry (mark : Mark) (redis : Redis) (ttl : Int) (etag : Option PyStr) (staleTtl : Int) :
    Kept where
  stated := mark.carried.bind (·.maxAge)
  prior := mark.prior
  ttl := ttl
  since := redis.now
  tagged := etag.getD [] ≠ []
  taken := redis.setSucceeds ttl etag staleTtl

/-- A refused part of a store leaves the entry of an earlier one. -/
def Ledger.store (ledger : Ledger) (mark : Mark) (redis : Redis) (ttl : Int) (etag : Option PyStr)
    (staleTtl : Int) : Ledger where
  hot := if redis.accepts ttl then some (mark.entry redis ttl etag staleTtl) else ledger.hot
  copy := if redis.accepts (ttl + staleTtl) then some (mark.entry redis ttl etag staleTtl)
    else ledger.copy
  last := some (mark.entry redis ttl etag staleTtl)

/-- An await that reads or stores something under the key, or fetches a response, is written down. -/
def Ledger.observe (world : World) (ledger : Ledger) (mark : Mark) :
    Circumstance → (await : Await) → Option await.Reply → Ledger × Mark
  | .answers upstream, .lead _ _ call etag, _ =>
      (ledger, { mark with carried := some (Fetched.response libraries ⟨call, etag, upstream⟩) })
  | .answers upstream, .fetch call etag, _ =>
      (ledger, { mark with carried := some (Fetched.response libraries ⟨call, etag, upstream⟩) })
  | .proceeds _ _, .access (.get other), some (some _) =>
      (ledger, if other = key then
        { mark with served := ledger.hot.map fun kept => (kept, world.stores.redis.now) } else mark)
  | .proceeds _ _, .access (.getNegative _), some (some _) => (ledger, { mark with refused := true })
  | .proceeds _ _, .access (.restoreStale other _), some (some _) =>
      (ledger, if other = key then { mark with copy := ledger.copy } else mark)
  | .proceeds _ _, .access (.set other _ ttl etag staleTtl), _ =>
      (if other = key then ledger.store mark world.stores.redis ttl etag staleTtl else ledger, mark)
  | _, _, _ => (ledger, mark)

/-- This watcher follows the lifetimes of a key. -/
def expiry : Watcher awaits World Task Circumstance Ledger Mark where
  enters task _ _ := { Mark.empty with asks := task.asksFor libraries settings key }
  observes := Ledger.observe libraries key

abbrev WatchedService := Watched awaits Result World Ledger Mark

/-- A task stores a body for as long as its response states. After a 304 that states nothing it uses
the lifetime of the store behind the restored copy. -/
def Mark.Uses (mark : Mark) (ttl : Int) : Prop :=
  ∃ response, mark.carried = some response ∧
    (response.notModified = false → ttl = statedOr300 response.maxAge) ∧
    (response.notModified = true → ∃ copy, mark.copy = some copy ∧ copy.Lawful ∧
      ttl = (response.maxAge.map Int.ofNat).getD copy.ttl)

/-- A body was served within the lifetime that was stated when it was stored. -/
def Mark.InTime (mark : Mark) : Prop :=
  ∃ kept time, mark.served = some (kept, time) ∧
    ∀ seconds, kept.stated = some seconds → time ≤ kept.since + 1000 * seconds

/-- The cache obeys ESI when every hit of a stored body is in time and every store uses the right
lifetime. -/
structure Obeys (watched : WatchedService) : Prop where
  served : ∀ thread result, watched.pool.threads thread = some (.done (.proxied result)) →
    (watched.marks thread).asks = true → result.cacheStatus = .hit →
      (watched.marks thread).refused = true ∨ (watched.marks thread).InTime
  stored : ∀ thread body ttl etag staleTtl next, watched.pool.threads thread =
    some (.perform (.access (.set key body ttl etag staleTtl)) next) →
      (watched.marks thread).Uses ttl

/-- The lifetime of a copy is remembered when the last store of the key has the same lifetime, Redis took
that store as a whole and, unless no lifetime was ever stated for the copy, the store kept an ETag and
`esi:ttl` has not expired. -/
def Remembered (redis : Redis) (ledger : Ledger) (copy : Kept) : Prop :=
  ∃ recent, ledger.last = some recent ∧ recent.taken = true ∧ recent.ttl = copy.ttl ∧
    (copy.known ≠ none → recent.tagged = true ∧
      (redis.now : Int) ≤ recent.since + 1000 * (recent.ttl + 60))

/-- In a timely run no response with status 200 states a lifetime of zero, and a task that asks for the
lifetime of a copy finds it remembered. -/
def Timely (watched : WatchedService) : ServiceAction → Prop
  | .proceed thread (.answers upstream) => ∀ await next response,
      watched.pool.threads thread = some (.perform await next) →
        await.received libraries upstream = some response → response.status = 200 →
          response.maxAge ≠ some 0
  | .proceed thread (.proceeds _ _) => ∀ next copy,
      watched.pool.threads thread = some (.perform (.access (.getTtl key)) next) →
        (watched.marks thread).carried.isSome = true → (watched.marks thread).copy = some copy →
          Remembered watched.pool.shared.stores.redis watched.ghost copy
  | _ => True

/-- This is what a task does with the reply of `get_ttl`. -/
def priorTtl : Option Int → Int
  | some ttl => if ttl = 0 then 300 else ttl
  | none => 300

/-- A task carries a response that is stored for as long as it states. -/
def Mark.Carries (mark : Mark) (response : EsiResponse) : Prop :=
  mark.carried = some response ∧
    (response.status = 200 → response.notModified = false ∧ response.maxAge ≠ some 0)

/-- A task restored a copy with a lawful lifetime. -/
def Mark.Restores (mark : Mark) : Prop := ∃ copy, mark.copy = some copy ∧ copy.Lawful

/-- A task stores with the right lifetime, and it asks for a lifetime after it restored a copy. -/
def ExpiryOwed (mark : Mark) : Await → Prop
  | .access (.set other _ ttl _ _) => other = key → mark.Uses ttl
  | .access (.getTtl other) => other = key → mark.Restores
  | _ => True

/-- A reply leaves what the task carries and restored, and it shows a store that is in time. -/
def ExpiryProvided (mark : Mark) : (await : Await) → await.Reply → Mark → Prop
  | .access (.get other), some _, left => left.asks = mark.asks ∧ (other = key → left.InTime)
  | .access (.getNegative _), some _, left => left.refused = true
  | .access (.restoreStale other _), some _, left =>
      left.carried = mark.carried ∧ (other = key → left.Restores)
  | .access (.getTtl other), reply, left => left = mark ∧ (other = key → mark.carried.isSome = true →
      ∀ copy, mark.copy = some copy → priorTtl reply = copy.ttl)
  | .access _, _, left => left = mark
  | .coalesce _ phase, next, left => left = mark ∧ Moves phase next
  | .lead _ future _ _, next, left => ∃ outcome, next = .releasing future outcome ∧
      ∀ response, outcome = .returned response → left.Carries response
  | .fetch _ _, response, left => left.Carries response

/-- This is the tracking of the lifetimes of a key. -/
def expiryTracking : Tracking awaits Unit Mark where
  grows _ _ := True
  grows_refl _ := trivial
  grows_trans _ _ := trivial
  requires _ := ExpiryOwed key
  provides _ := ExpiryProvided key

/-- A request that asks for the key is answered from the cache in time. -/
def Answered (mark : Mark) : Result → Prop
  | .proxied result => mark.asks = true → result.cacheStatus = .hit →
      mark.refused = true ∨ mark.InTime
  | .collected _ => True

variable {libraries settings key} {now : Unit} {mark : Mark}

/-- The store of a task is lawful. -/
theorem Mark.Uses.lawful {ttl staleTtl : Int} (uses : mark.Uses ttl) (redis : Redis)
    (etag : Option PyStr) : (mark.entry redis ttl etag staleTtl).Lawful := by
  obtain ⟨response, carried, fresh, stale⟩ := uses
  unfold Kept.Lawful Kept.known Mark.entry Mark.prior
  rw [carried]
  cases marked : response.notModified with
  | false =>
      have same := fresh marked
      simp [marked, same]
  | true =>
      obtain ⟨copy, restored, lawful, same⟩ := stale marked
      have lawful : copy.ttl = statedOr300 copy.known := lawful
      rw [restored]
      cases stated : response.maxAge with
      | none => simpa [marked, stated, lawful] using same
      | some seconds => simpa [marked, stated, statedOr300] using same

section Tasks

/-- A leader carries the response that it brings. -/
def Brings (_ : Unit) (mark : Mark) (result : EsiResponse × Bool) : Prop :=
  result.2 = true → mark.Carries result.1

theorem coalesce_tracked (other : PyStr) (call : UpstreamCall) (etag : Option PyStr) :
    (coalesce other call etag).Tracked (expiryTracking key) Brings now mark := by
  apply Program.tracked_perform (fun _ _ => trivial)
  intro after phase left _ learned
  cases phase with
  | joining | releasing | led | shared | abandoned => trivial
  | leading future =>
      apply Program.tracked_perform (fun _ _ => trivial)
      rintro after phase left _ ⟨outcome, rfl, carries⟩
      apply Program.tracked_perform (fun _ _ => trivial)
      rintro after phase left _ ⟨rfl, moves⟩
      obtain rfl := moves_releasing moves
      cases outcome with
      | returned response => exact Program.tracked_done fun _ _ _ => carries response rfl
      | raised | cancelled => trivial
  | waiting future =>
      apply Program.tracked_perform (fun _ _ => trivial)
      rintro after phase left _ ⟨rfl, moves⟩
      obtain ⟨outcome, rfl⟩ := moves_waiting moves
      cases outcome with
      | returned response => exact Program.tracked_done fun _ _ leads => by cases leads
      | raised | cancelled => trivial

/-- An answer after a fetch is no hit. -/
def Missed (_ : Unit) (_ : Mark) (result : ProxyResult) : Prop := result.cacheStatus ≠ .hit

theorem archiveResponse_tracked (prepared : Prepared) (response : EsiResponse) :
    (archiveResponse libraries prepared response).Tracked (expiryTracking key) (fun _ _ _ => True)
      now mark := by
  have names (recorded : Bool) (mark : Mark) :
      (recordNames prepared response recorded).Tracked (expiryTracking key) (fun _ _ _ => True)
        now mark := by
    cases recorded with
    | false => exact Program.tracked_done fun _ _ => trivial
    | true =>
        unfold recordNames
        split_ifs
        · exact Program.tracked_perform (fun _ _ => trivial) fun _ _ _ _ _ =>
            Program.tracked_done fun _ _ => trivial
        · exact Program.tracked_done fun _ _ => trivial
  unfold archiveResponse recordResponse
  split_ifs
  · exact names true mark
  · rw [access_bind]
    exact Program.tracked_perform (fun _ _ => trivial) fun _ recorded _ _ _ => names recorded _

/-- A 200 is stored for as long as it states. -/
theorem Mark.Carries.uses {response : EsiResponse} (carries : mark.Carries response)
    (ok : response.status = 200) : mark.Uses (lifetimeOr300 response.maxAge) := by
  obtain ⟨carried, facts⟩ := carries
  obtain ⟨fresh, positive⟩ := facts ok
  refine ⟨response, carried, fun _ => ?_, fun stale => by simp [fresh] at stale⟩
  cases stated : response.maxAge with
  | none => rfl
  | some seconds =>
      have nonzero : seconds ≠ 0 := by
        rintro rfl
        exact positive stated
      exact if_neg nonzero

theorem answered_tracked (prepared : Prepared) {response : EsiResponse} (leader : Bool)
    (carries : leader = true → mark.Carries response) :
    (answered libraries settings prepared response leader).Tracked (expiryTracking key) Missed
      now mark := by
  unfold answered
  split_ifs with ok degrades redirects
  · cases leader with
    | false => exact Program.tracked_done fun _ _ same => by cases same
    | true =>
        apply Program.tracked_perform
        · exact fun _ _ _ => (carries rfl).uses ok
        · intro _ _ _ _ _
          exact (archiveResponse_tracked prepared response).bind fun _ _ _ _ _ =>
            Program.tracked_done fun _ _ same => by cases same
  · apply Program.tracked_perform (fun _ _ => trivial)
    intro _ stale _ _ _
    cases stale with
    | some body => exact Program.tracked_done fun _ _ same => by cases same
    | none =>
        apply Program.tracked_perform (fun _ _ => trivial)
        intro _ archived _ _ _
        apply Program.tracked_done
        intro _ _
        cases archived with
        | none => exact fun same => by cases same
        | some body =>
            change (if body = [] then _ else _ : ProxyResult).cacheStatus ≠ _
            split_ifs <;> exact fun same => by cases same
  · exact Program.tracked_done fun _ _ same => by cases same
  · unfold cacheNegative
    split_ifs
    · exact Program.tracked_perform (fun _ _ => trivial) fun _ _ _ _ _ =>
        Program.tracked_done fun _ _ same => by cases same
    · exact Program.tracked_done fun _ _ same => by cases same

theorem restoredTtl_tracked (prepared : Prepared) {response : EsiResponse} {leader : Bool}
    (carries : leader = true → mark.Carries response) (stale : response.notModified = true)
    (restores : prepared.cacheKey = key → mark.Restores) :
    (restoredTtl prepared response.maxAge).Tracked (expiryTracking key)
      (fun _ mark ttl => leader = true → prepared.cacheKey = key → mark.Uses ttl) now mark := by
  have uses (copy : Kept) (restored : mark.copy = some copy) (lawful : copy.Lawful) {ttl : Int}
      (same : ttl = (response.maxAge.map Int.ofNat).getD copy.ttl) (leads : leader = true) :
      mark.Uses ttl :=
    ⟨response, (carries leads).1, fun fresh => by simp [stale] at fresh,
      fun _ => ⟨copy, restored, lawful, same⟩⟩
  unfold restoredTtl
  cases stated : response.maxAge with
  | some seconds =>
      apply Program.tracked_done
      intro _ _ leads own
      obtain ⟨copy, restored, lawful⟩ := restores own
      exact uses copy restored lawful (by rw [stated]; rfl) leads
  | none =>
      apply Program.tracked_perform (fun _ _ => restores)
      rintro _ prior left _ ⟨rfl, found⟩
      apply Program.tracked_done
      intro _ _ leads own
      obtain ⟨copy, restored, lawful⟩ := restores own
      have carried : left.carried.isSome = true := by rw [(carries leads).1]; rfl
      have same := found own carried copy restored
      refine uses copy restored lawful ?_ leads
      rw [stated]
      cases prior <;> exact same

theorem revalidated_tracked (prepared : Prepared) (stored : Option PyStr) {response : EsiResponse}
    (leader : Bool) (restored : Option Bytes) (carries : leader = true → mark.Carries response)
    (stale : response.notModified = true)
    (restores : restored.isSome = true → prepared.cacheKey = key → mark.Restores) :
    (revalidated libraries settings prepared stored response leader restored).Tracked
      (expiryTracking key) Missed now mark := by
  cases restored with
  | none =>
      exact (coalesce_tracked _ _ none).bind fun _ _ result _ brings =>
        answered_tracked prepared result.2 brings
  | some body =>
      apply (restoredTtl_tracked prepared carries stale (restores rfl)).bind
      intro _ left ttl _ uses
      cases leader with
      | false => exact Program.tracked_done fun _ _ same => by cases same
      | true =>
          apply Program.tracked_perform
          · exact fun _ _ own => uses rfl own
          · exact fun _ _ _ _ _ => Program.tracked_done fun _ _ same => by cases same

theorem conditionalFetch_tracked (prepared : Prepared) :
    (conditionalFetch libraries settings prepared).Tracked (expiryTracking key) Missed now mark := by
  apply Program.tracked_perform (fun _ _ => trivial)
  intro _ stored _ _ _
  apply (coalesce_tracked _ _ stored).bind
  intro _ left result _ brings
  unfold fetched
  split_ifs with stale
  · apply Program.tracked_perform (fun _ _ => trivial)
    intro after restored later _ learned
    cases restored with
    | none =>
        obtain rfl : later = left := learned
        exact revalidated_tracked prepared stored result.2 none brings stale fun present => by cases present
    | some body =>
        obtain ⟨carried, restores⟩ := learned
        have brings (leads : result.2 = true) : later.Carries result.1 := by
          obtain ⟨same, facts⟩ := brings leads
          exact ⟨carried.trans same, facts⟩
        show (revalidated libraries settings prepared stored result.1 result.2 (some body)).Tracked _ _ _ _
        exact revalidated_tracked prepared stored result.2 (some body) brings stale fun _ => restores
  · exact answered_tracked prepared result.2 brings

theorem lookup_tracked (prepared : Prepared) (own : mark.asks = true → prepared.cacheKey = key) :
    (lookup libraries settings prepared).Tracked (expiryTracking key)
      (fun _ mark result => Answered mark (.proxied result)) now mark := by
  apply Program.tracked_perform (fun _ _ => trivial)
  intro _ cached left _ learned
  cases cached with
  | some entry =>
      obtain ⟨asks, served⟩ := learned
      exact Program.tracked_done fun _ _ asking _ => .inr (served (own (asks ▸ asking)))
  | none =>
      apply Program.tracked_perform (fun _ _ => trivial)
      intro _ negative later _ learned
      cases negative with
      | some entry => exact Program.tracked_done fun _ _ _ _ => .inl learned
      | none =>
          exact (conditionalFetch_tracked prepared).mono fun _ _ _ missed _ hit => absurd hit missed

theorem fetchAndStore_tracked (datasource : PyStr) (job : Job) :
    (fetchAndStore libraries settings datasource job).Tracked (expiryTracking key)
      (fun _ _ _ => True) now mark := by
  apply Program.tracked_perform (fun _ _ => trivial)
  intro after response left _ carries
  change (collected libraries settings datasource job response).Tracked _ _ after left
  unfold collected
  split_ifs with failed
  · exact Program.tracked_done fun _ _ => trivial
  have uses : left.Uses (lifetimeOr300 response.maxAge) := Mark.Carries.uses carries (not_not.mp failed)
  have aliases (versions : List PyStr) :
      (warmAliases libraries settings datasource job response versions).Tracked (expiryTracking key)
        (fun _ _ _ => True) () left := by
    induction versions with
    | nil => exact Program.tracked_done fun _ _ => trivial
    | cons version rest ih =>
        unfold warmAliases
        split_ifs
        · exact ih
        · apply Program.tracked_perform (fun _ _ _ => uses)
          rintro _ _ _ _ rfl
          exact ih
  apply Program.tracked_perform (fun _ _ _ => uses)
  rintro _ _ _ _ rfl
  exact (aliases _).bind fun _ _ _ _ _ => Program.tracked_perform (fun _ _ => trivial)
    fun _ _ _ _ _ => Program.tracked_done fun _ _ => trivial

theorem launch_tracked (task : Task) :
    (task.launch libraries settings).Tracked (expiryTracking key) (fun _ mark => Answered mark) now
      { Mark.empty with asks := task.asksFor libraries settings key } := by
  cases task with
  | collect job =>
      exact (fetchAndStore_tracked _ job).bind fun _ _ _ _ _ => Program.tracked_done fun _ _ => trivial
  | proxy request =>
      have served : (dispatch libraries settings request).Tracked (expiryTracking key)
          (fun _ mark result => Answered mark (.proxied result)) now
          { Mark.empty with asks := (Task.proxy request).asksFor libraries settings key } := by
        unfold dispatch
        cases accepted : prepare libraries settings request with
        | error result =>
            apply Program.tracked_done
            intro _ _ asks
            simp [Task.asksFor, accepted, Except.toOption] at asks
        | ok prepared =>
            apply lookup_tracked prepared
            intro asks
            simpa [Task.asksFor, accepted, Except.toOption] using asks
      apply served.bind
      intro _ left result _ answers
      exact Program.tracked_done fun _ _ => answers

end Tasks

/-- The ledger knows the stores behind the entries of the key. -/
structure Ledger.Sound (key : PyStr) (redis : Redis) (ledger : Ledger) : Prop where
  hot : ∀ entry, redis.body key = some entry → ∃ kept, ledger.hot = some kept ∧ kept.Lawful ∧
    entry.deadline = kept.since + 1000 * kept.ttl.toNat
  copy : ∀ entry, redis.stale key = some entry → ∃ kept, ledger.copy = some kept ∧ kept.Lawful
  last : ∀ kept, ledger.last = some kept → kept.taken = true → 0 < kept.ttl ∧
    redis.ttl key =
      if kept.tagged then some ⟨kept.ttl, kept.since + 1000 * (kept.ttl + 60).toNat⟩ else none

/-- A step keeps the ledger sound, and its reply is as provided. -/
def Followed (key : PyStr) (mark : Mark) (await : Await) (result : Option await.Reply × World)
    (seen : Ledger × Mark) : Prop :=
  seen.1.Sound key result.2.stores.redis ∧
    ∀ reply, result.1 = some reply → ExpiryProvided key mark await reply seen.2

section Steps
variable {world : World} {redis : Redis} {ledger : Ledger}

theorem Ledger.Sound.empty (clock : Nat) : Ledger.empty.Sound key (Redis.empty clock) := by
  refine ⟨fun entry stored => ?_, fun entry stored => ?_, fun kept same => ?_⟩
  · cases stored
  · cases stored
  · cases same

/-- The ledger stays sound when nothing changes for the key. -/
theorem Ledger.Sound.congr {next : Redis} (sound : ledger.Sound key redis)
    (body : next.body key = redis.body key) (stale : next.stale key = redis.stale key)
    (ttl : next.ttl key = redis.ttl key) : ledger.Sound key next := by
  refine ⟨?_, ?_, ?_⟩
  · rw [body]
    exact sound.hot
  · rw [stale]
    exact sound.copy
  · rw [ttl]
    exact sound.last

/-- Redis took the lifetime and what the cache adds to it for the ETag. -/
theorem setSucceeds_parts {ttl staleTtl : Int} {etag : Option PyStr}
    (taken : redis.setSucceeds ttl etag staleTtl = true) :
    redis.accepts ttl = true ∧ (etag.getD [] ≠ [] → redis.accepts (ttl + 60) = true) := by
  have each := List.all_eq_true.mp taken
  refine ⟨each ttl (by simp [Redis.lifetimes]), fun present => each (ttl + 60) ?_⟩
  simp [Redis.lifetimes, present]

theorem accepts_positive {ttl : Int} (accepted : redis.accepts ttl = true) : 0 < ttl := by
  unfold Redis.accepts acceptsAt at accepted
  simp only [Bool.and_eq_true, decide_eq_true_eq] at accepted
  exact accepted.1

/-- A store with the right lifetime keeps the ledger sound. -/
theorem Ledger.Sound.store (sound : ledger.Sound key redis) (body : Bytes) {ttl : Int}
    (uses : mark.Uses ttl) (etag : Option PyStr) (staleTtl : Int) :
    (ledger.store mark redis ttl etag staleTtl).Sound key
      (redis.set libraries settings key body ttl etag staleTtl) := by
  have lawful : (mark.entry redis ttl etag staleTtl).Lawful := uses.lawful redis etag
  refine ⟨fun entry stored => ?_, fun entry stored => ?_, fun kept same taken => ?_⟩
  · unfold Ledger.store
    dsimp only
    rcases setEx_some stored with ⟨_, accepted, rfl⟩ | ⟨old, refused⟩
    · rw [if_pos accepted]
      exact ⟨_, rfl, lawful, rfl⟩
    · rw [if_neg (Bool.eq_false_iff.mp (refused rfl))]
      exact sound.hot entry old
  · change (if 0 < staleTtl then _ else _ : TimedStore PyStr Bytes) key = some entry at stored
    unfold Ledger.store
    dsimp only
    split_ifs at stored with copied
    · rcases setEx_some stored with ⟨_, accepted, rfl⟩ | ⟨old, refused⟩
      · rw [if_pos accepted]
        exact ⟨_, rfl, lawful⟩
      · rw [if_neg (Bool.eq_false_iff.mp (refused rfl))]
        exact sound.copy entry old
    · rw [TimedStore.erase_self] at stored
      cases stored
  · cases same
    obtain ⟨accepted, buffered⟩ := setSucceeds_parts taken
    refine ⟨accepts_positive accepted, ?_⟩
    change (if etag.getD [] = [] then redis.ttl.erase key
      else redis.setEx redis.ttl key ttl (ttl + 60)) key = _
    by_cases absent : etag.getD [] = []
    · rw [if_pos absent, TimedStore.erase_self]
      simp [Mark.entry, absent]
    · rw [if_neg absent, setEx_self _ _ _ (buffered absent)]
      simp [Mark.entry, absent, Redis.deadline]

/-- A store of another key leaves the ledger. -/
theorem Ledger.Sound.other (sound : ledger.Sound key redis) {other : PyStr} (differs : other ≠ key)
    (body : Bytes) (ttl : Int) (etag : Option PyStr) (staleTtl : Int) :
    ledger.Sound key (redis.set libraries settings other body ttl etag staleTtl) := by
  have differs : key ≠ other := fun same => differs same.symm
  apply sound.congr
  · exact setEx_other _ _ _ _ differs
  · change (if 0 < staleTtl then _ else _ : TimedStore PyStr Bytes) key = _
    split_ifs
    · exact setEx_other _ _ _ _ differs
    · exact TimedStore.erase_other _ differs
  · change (if etag.getD [] = [] then redis.ttl.erase other
      else redis.setEx redis.ttl other ttl (ttl + 60)) key = _
    split_ifs
    · exact TimedStore.erase_other _ differs
    · exact setEx_other _ _ _ _ differs

/-- A body that is read under the key is in time. -/
theorem Ledger.Sound.read (sound : ledger.Sound key redis) {body : Bytes} {etag : Option PyStr}
    (found : redis.get libraries key = some (some (body, etag))) (mark : Mark) :
    Mark.InTime { mark with served := ledger.hot.map fun kept => (kept, redis.now) } := by
  unfold Redis.get at found
  cases read : redis.body.read redis.now key with
  | none =>
      rw [read] at found
      cases found
  | some raw =>
      obtain ⟨deadline, stored, alive⟩ := TimedStore.read_eq_some.mp read
      obtain ⟨kept, hot, lawful, same⟩ := sound.hot _ stored
      refine ⟨kept, redis.now, by rw [hot]; rfl, fun seconds stated => ?_⟩
      have lawful : kept.ttl = statedOr300 kept.known := lawful
      have known : kept.known = some seconds := by
        unfold Kept.known
        rw [stated]
        rfl
      have length : kept.ttl = seconds := by rw [lawful, known]; rfl
      have same : deadline = kept.since + 1000 * kept.ttl.toNat := same
      rw [length, Int.toNat_natCast] at same
      omega

/-- A stale copy that is read under the key has a lawful lifetime. -/
theorem Ledger.Sound.readStale (sound : ledger.Sound key redis) {body : Bytes}
    (found : redis.getStale libraries key = some (some body)) (mark : Mark) :
    Mark.Restores { mark with copy := ledger.copy } := by
  unfold Redis.getStale at found
  cases read : redis.stale.read redis.now key with
  | none =>
      rw [read] at found
      cases found
  | some raw =>
      obtain ⟨deadline, stored, _⟩ := TimedStore.read_eq_some.mp read
      exact sound.copy _ stored

/-- A remembered lifetime is the one that a task uses. -/
theorem Ledger.Sound.remembered (sound : ledger.Sound key redis) {copy : Kept} (lawful : copy.Lawful)
    (remembered : Remembered redis ledger copy) : priorTtl (redis.getTtl key) = copy.ttl := by
  obtain ⟨recent, last, taken, same, alive⟩ := remembered
  obtain ⟨positive, held⟩ := sound.last recent last taken
  have nonzero : recent.ttl ≠ 0 := by omega
  unfold Redis.getTtl
  cases read : redis.ttl.read redis.now key with
  | some ttl =>
      obtain ⟨deadline, stored, _⟩ := TimedStore.read_eq_some.mp read
      rw [held] at stored
      split_ifs at stored
      cases stored
      rw [← same]
      exact if_neg nonzero
  | none =>
      have lawful : copy.ttl = statedOr300 copy.known := lawful
      cases known : copy.known with
      | none => rw [lawful, known]; rfl
      | some seconds =>
          obtain ⟨tagged, early⟩ := alive (by rw [known]; exact Option.some_ne_none _)
          rw [if_pos tagged] at held
          have found : redis.ttl.read redis.now key = some recent.ttl :=
            TimedStore.read_eq_some.mpr ⟨_, held, by omega⟩
          rw [read] at found
          cases found

/-- A call of a store is followed. -/
theorem access_followed (sound : ledger.Sound key world.stores.redis) (time : Datetime)
    (fault : Option Nat) (call : Access) (owed : ExpiryOwed key mark (.access call))
    (timely : ∀ copy, call = .getTtl key → mark.carried.isSome = true → mark.copy = some copy →
      Remembered world.stores.redis ledger copy) :
    Followed key mark (.access call)
      ((world.stores.perform libraries settings time fault call).1,
        { world with stores := (world.stores.perform libraries settings time fault call).2 }.record
          call (world.stores.perform libraries settings time fault call).1)
      (ledger.observe libraries key world mark (.proceeds time fault) (.access call)
        (world.stores.perform libraries settings time fault call).1) := by
  have archived (program : Transaction Unit) :
      ledger.Sound key (world.stores.transact libraries fault program).2.redis := by
    obtain ⟨names, kept⟩ := transact_names fault program world.stores
    exact sound.congr (congrFun (congrArg Redis.body kept) key)
      (congrFun (congrArg Redis.stale kept) key) (congrFun (congrArg Redis.ttl kept) key)
  cases call with
  | getEtag | getStale | getLatestPayload => exact ⟨sound, fun _ _ => rfl⟩
  | writeSnapshot | writeNames => exact ⟨archived _, fun _ _ => rfl⟩
  | setNegative => exact ⟨sound.congr rfl rfl rfl, fun _ _ => rfl⟩
  | getTtl other =>
      refine ⟨sound, fun reply replied => ⟨rfl, fun own carried copy restored => ?_⟩⟩
      subst own
      obtain ⟨found, same, lawful⟩ := owed rfl
      obtain rfl := Option.some.inj (same.symm.trans restored)
      cases replied
      exact sound.remembered lawful (timely found rfl carried restored)
  | get other =>
      change Followed key mark (.access (.get other)) (world.stores.redis.get libraries other, world)
        (ledger.observe libraries key world mark (.proceeds time fault) (.access (.get other))
          (world.stores.redis.get libraries other))
      cases found : world.stores.redis.get libraries other with
      | none => exact ⟨sound, fun _ replied => by cases replied⟩
      | some cached =>
          cases cached with
          | none =>
              refine ⟨sound, fun _ replied => ?_⟩
              cases replied
              rfl
          | some entry =>
              refine ⟨sound, fun _ replied => ?_⟩
              cases replied
              unfold Ledger.observe
              dsimp only
              by_cases own : other = key
              · subst own
                rw [if_pos rfl]
                exact ⟨rfl, fun _ => sound.read found mark⟩
              · rw [if_neg own]
                exact ⟨rfl, fun equal => absurd equal own⟩
  | getNegative other =>
      change Followed key mark (.access (.getNegative other))
        (some (world.stores.redis.getNegative other), world)
        (ledger.observe libraries key world mark (.proceeds time fault) (.access (.getNegative other))
          (some (world.stores.redis.getNegative other)))
      cases world.stores.redis.getNegative other with
      | none =>
          refine ⟨sound, fun _ replied => ?_⟩
          cases replied
          rfl
      | some entry =>
          refine ⟨sound, fun _ replied => ?_⟩
          cases replied
          rfl
  | restoreStale other etag =>
      change Followed key mark (.access (.restoreStale other etag))
        (world.stores.redis.getStale libraries other,
          world.record (.restoreStale other etag) (world.stores.redis.getStale libraries other))
        (ledger.observe libraries key world mark (.proceeds time fault)
          (.access (.restoreStale other etag)) (world.stores.redis.getStale libraries other))
      cases found : world.stores.redis.getStale libraries other with
      | none => exact ⟨sound, fun _ replied => by cases replied⟩
      | some restored =>
          cases restored with
          | none =>
              refine ⟨sound, fun _ replied => ?_⟩
              cases replied
              rfl
          | some body =>
              refine ⟨sound, fun _ replied => ?_⟩
              cases replied
              unfold Ledger.observe
              dsimp only
              by_cases own : other = key
              · subst own
                rw [if_pos rfl]
                exact ⟨rfl, fun _ => sound.readStale found mark⟩
              · rw [if_neg own]
                exact ⟨rfl, fun equal => absurd equal own⟩
  | set other body ttl etag staleTtl =>
      refine ⟨?_, fun _ _ => rfl⟩
      unfold Ledger.observe
      dsimp only
      by_cases own : other = key
      · subst own
        rw [if_pos rfl]
        exact sound.store body (owed rfl) etag staleTtl
      · rw [if_neg own]
        exact sound.other own body ttl etag staleTtl

/-- A caller of the coalescer keeps what it carries. -/
theorem advance_followed (sound : ledger.Sound key world.stores.redis) {other : PyStr}
    {phase : Flight} {event : Coalesce.Event EsiResponse Unit} {result : Option Flight × World}
    (moved : world.advance other phase event = some result) :
    Followed key mark (.coalesce other phase) result (ledger, mark) := by
  obtain ⟨⟨table, next⟩, advanced, rfl⟩ := Option.map_eq_some_iff.mp moved
  refine ⟨sound, fun reply same => ?_⟩
  cases same
  exact ⟨rfl, _, _, _, _, advanced⟩

/-- A leader comes back with what it carries, or with nothing. -/
theorem lead_followed {start : World} (sound : ledger.Sound key start.stores.redis) {other : PyStr}
    {future : Nat} {call : UpstreamCall} {etag : Option PyStr}
    {outcome : Coalesce.Outcome EsiResponse Unit} {result : Option Flight × World} {left : Mark}
    (brings : ∀ response, outcome = .returned response → left.Carries response)
    (moved : start.advance other (.leading future) (.settle outcome) = some result) :
    Followed key mark (.lead other future call etag) result (ledger, left) := by
  obtain ⟨⟨table, next⟩, advanced, rfl⟩ := Option.map_eq_some_iff.mp moved
  refine ⟨sound, fun reply same => ?_⟩
  cases same
  cases advanced
  exact ⟨outcome, rfl, brings⟩

/-- A fetched response is carried. -/
theorem carries_fetched (mark : Mark) (call : UpstreamCall) (etag : Option PyStr) (upstream : Upstream)
    (positive : (respond libraries call.method etag upstream).status = 200 →
      (respond libraries call.method etag upstream).maxAge ≠ some 0) :
    Mark.Carries
      { mark with carried := some (Fetched.response libraries ⟨call, etag, upstream⟩) }
      (Fetched.response libraries ⟨call, etag, upstream⟩) := by
  refine ⟨rfl, fun ok => ⟨?_, positive ok⟩⟩
  rw [← Bool.not_eq_true]
  intro stale
  have other := (respond_notModified libraries call.method etag upstream stale).2
  exact absurd (ok.symm.trans other) (by decide)

/-- Every step of a timely run is followed. -/
theorem perform_followed (sound : ledger.Sound key world.stores.redis)
    (circumstance : Circumstance) (await : Await) (result : Option await.Reply × World)
    (owed : ExpiryOwed key mark await)
    (positive : ∀ upstream response, circumstance = .answers upstream →
      await.received libraries upstream = some response → response.status = 200 →
        response.maxAge ≠ some 0)
    (timely : ∀ time fault copy, circumstance = .proceeds time fault →
      await = .access (.getTtl key) → mark.carried.isSome = true → mark.copy = some copy →
        Remembered world.stores.redis ledger copy)
    (moved : world.perform libraries settings circumstance await = some result) :
    Followed key mark await result
      (ledger.observe libraries key world mark circumstance await result.1) := by
  cases await with
  | access call =>
      cases circumstance with
      | proceeds time fault =>
          cases moved
          exact access_followed sound time fault call owed fun copy same =>
            timely time fault copy rfl (congrArg Await.access same)
      | answers upstream => cases moved
      | raises | cancelled =>
          cases moved
          exact ⟨sound, fun _ replied => by cases replied⟩
  | coalesce other phase =>
      cases circumstance with
      | proceeds | cancelled => exact advance_followed sound moved
      | answers | raises => cases moved
  | lead other future call etag =>
      cases circumstance with
      | proceeds => cases moved
      | answers upstream =>
          have logged : ledger.Sound key (world.log ⟨call, etag, upstream⟩).stores.redis := sound
          refine lead_followed logged (fun response returned => ?_) moved
          cases returned
          exact carries_fetched mark call etag upstream (positive upstream _ rfl rfl)
      | raises | cancelled => exact lead_followed sound (fun _ same => by cases same) moved
  | fetch call etag =>
      cases circumstance with
      | proceeds => cases moved
      | answers upstream =>
          cases moved
          refine ⟨sound, fun _ replied => ?_⟩
          cases replied
          exact carries_fetched mark call etag upstream (positive upstream _ rfl rfl)
      | raises | cancelled =>
          cases moved
          exact ⟨sound, fun _ replied => by cases replied⟩

end Steps

section Runs

/-- In a timely run every task is tracked. -/
theorem service_tracks (libraries : Libraries) (settings : Settings) (key : PyStr) :
    (expiry libraries settings key).Tracks (service libraries settings) (expiryTracking key)
      (fun _ _ => ()) (fun _ mark => Answered mark)
      (fun world ledger => ledger.Sound key world.stores.redis) (Timely libraries key) where
  launched watched thread task _ _ := launch_tracked task
  performed watched thread circumstance await rest result sound allowed found owed moved := by
    have followed := perform_followed sound circumstance await result owed
      (fun upstream response same => by
        subst same
        exact allowed await rest response found)
      (fun time fault copy same shape => by
        subst same shape
        exact allowed rest copy found) moved
    exact ⟨followed.1, trivial, followed.2⟩
  outside watched event sound _ := by
    refine ⟨?_, trivial⟩
    cases event <;> exact sound.congr rfl rfl rfl

/-- In every timely run a hot body is served no longer than ESI said when it was stored, a 304 that
states nothing keeps the lifetime of the restored copy, and the default is used only for a body that
never had a stated lifetime. -/
theorem service_expiry {watched : WatchedService}
    (reached : ((expiry libraries settings key).machine (service libraries settings) World.Fresh
      .empty .empty).Guarded (Timely libraries key) watched) : Obeys key watched := by
  obtain ⟨_, tracked⟩ := (service_tracks libraries settings key).guarded (fun world fresh => by
    obtain ⟨⟨clock, empty⟩, _⟩ := fresh
    rw [empty]
    exact .empty clock) reached
  refine ⟨fun thread result ended => ?_, fun thread body ttl etag staleTtl next standing => ?_⟩
  · exact tracked thread _ ended () trivial
  · exact (tracked thread _ standing () trivial).1 rfl

end Runs

section Schedules

/-- This check finds a remembered lifetime. -/
def isRemembered (redis : Redis) (ledger : Ledger) (copy : Kept) : Bool :=
  ledger.last.any fun recent => recent.taken && (recent.ttl = copy.ttl && (copy.known.isNone ||
    (recent.tagged && (redis.now : Int) ≤ recent.since + 1000 * (recent.ttl + 60))))

theorem remembered_of_check {redis : Redis} {ledger : Ledger} {copy : Kept}
    (checked : isRemembered redis ledger copy = true) : Remembered redis ledger copy := by
  obtain ⟨recent, last, facts⟩ := (Option.any_eq_true _ _).mp checked
  simp only [Bool.and_eq_true, Bool.or_eq_true, decide_eq_true_eq, Option.isNone_iff_eq_none] at facts
  obtain ⟨taken, same, alive⟩ := facts
  exact ⟨recent, last, taken, same, fun known => alive.resolve_left known⟩

/-- This check accepts the steps of a timely run. -/
def isTimely (libraries : Libraries) (watched : WatchedService) : ServiceAction → Bool
  | .proceed thread (.answers upstream) =>
      match watched.pool.threads thread with
      | some (.perform await _) => (await.received libraries upstream).all fun response =>
          response.status ≠ 200 || response.maxAge ≠ some 0
      | _ => true
  | .proceed thread (.proceeds _ _) =>
      match watched.pool.threads thread with
      | some (.perform (.access (.getTtl _)) _) => (watched.marks thread).copy.all
          (isRemembered watched.pool.shared.stores.redis watched.ghost)
      | _ => true
  | _ => true

theorem timely_of_check {watched : WatchedService} {action : ServiceAction}
    (checked : isTimely libraries watched action = true) : Timely libraries key watched action := by
  cases action with
  | start | outside => trivial
  | proceed thread circumstance =>
      cases circumstance with
      | raises | cancelled => trivial
      | answers upstream =>
          intro await next response found received ok
          unfold isTimely at checked
          dsimp only at checked
          rw [found] at checked
          dsimp only at checked
          rw [received] at checked
          simpa [ok] using checked
      | proceeds time fault =>
          intro next copy found _ restored
          unfold isTimely at checked
          dsimp only at checked
          rw [found] at checked
          dsimp only at checked
          rw [restored] at checked
          exact remembered_of_check checked

/-- This is the cache key of the status. -/
def statusKey : PyStr := text "esi:tranquility:GET:/v1/status/:44136fa355b3678a"

/-- This is the service with the lifetimes of the status. -/
abbrev watchedStatus : Machine WatchedService ServiceAction :=
  (expiry serviceLibraries {} statusKey).machine (service serviceLibraries {}) World.Fresh .empty .empty

/-- No task has run, and nothing is written down. -/
def emptyWatched : WatchedService := ⟨emptyService, .empty, fun _ => .empty⟩

theorem emptyWatched_initial : watchedStatus.initial emptyWatched :=
  ⟨emptyService_initial _ _, rfl, rfl⟩

/-- This answer states a lifetime or none. -/
def statedAnswer (status : Nat) (content : Bytes) (maxAge : Option Nat) : Upstream :=
  .answered
    { status := status
      content := content
      headers := fun name => if name = text "etag" then some (text "A") else none
      maxAge := maxAge
      expiresAt := none } fun _ => none

def fillSchedule (maxAge : Option Nat) : List ServiceAction :=
  [.start 0 (.proxy (plainRequest (text "/v1/status/"))), proceed 0, proceed 0, proceed 0, proceed 0,
    answer 0 (statedAnswer 200 (bytes "[]") maxAge), proceed 0, proceed 0]

/-- A request that asks for the key has ended with the hit of a stored body. -/
def servedHit (thread : Nat) (watched : WatchedService) : Option (Kept × Nat) :=
  match watched.pool.threads thread with
  | some (.done (.proxied result)) =>
      if (watched.marks thread).asks = true ∧ result.cacheStatus = .hit ∧
          (watched.marks thread).refused = false then (watched.marks thread).served
      else none
  | _ => none

theorem Obeys.servedHit {watched : WatchedService} (obeys : Obeys key watched) {thread : Nat}
    {kept : Kept} {time : Nat} (hit : servedHit thread watched = some (kept, time)) {seconds : Nat}
    (stated : kept.stated = some seconds) : time ≤ kept.since + 1000 * seconds := by
  unfold Expiry.servedHit at hit
  split at hit
  · rename_i result ended
    split_ifs at hit with facts
    obtain ⟨asks, cached, fresh⟩ := facts
    rcases obeys.served thread result ended asks cached with refused | ⟨found, moment, served, within⟩
    · rw [fresh] at refused
      cases refused
    · rw [served] at hit
      cases hit
      exact within seconds stated
  · cases hit

/-- A second request revalidates the status with a 304 that states nothing, and a third one finds it. -/
def keptSchedule : List ServiceAction :=
  fillSchedule (some 600) ++ [.outside (.pass 601000),
    .start 1 (.proxy (plainRequest (text "/v1/status/"))), proceed 1, proceed 1, proceed 1, proceed 1,
    answer 1 (statedAnswer 304 [] none), proceed 1, proceed 1, proceed 1, proceed 1,
    .outside (.pass 599000), .start 2 (.proxy (plainRequest (text "/v1/status/"))), proceed 2]

theorem service_expiry_kept :
    ∃ (watched : WatchedService) (kept : Kept) (time : Nat),
      servedHit 2 watched = some (kept, time) ∧ kept.stated = none ∧ kept.ttl = 600 ∧
        Obeys statusKey watched := by
  have checked : (watchedStatus.runIf (isTimely serviceLibraries) emptyWatched
      keptSchedule).any (fun watched => (servedHit 2 watched).any fun hit =>
        hit.1.stated = none && hit.1.ttl = 600) = true := by
    decide +kernel
  obtain ⟨watched, completed, facts⟩ := (Option.any_eq_true _ _).mp checked
  obtain ⟨⟨kept, time⟩, hit, facts⟩ := (Option.any_eq_true _ _).mp facts
  obtain ⟨stated, length⟩ := Bool.and_eq_true_iff.mp facts
  exact ⟨watched, kept, time, hit, of_decide_eq_true stated, of_decide_eq_true length,
    service_expiry (Machine.Guarded.runIf (.start emptyWatched_initial) keptSchedule
      (fun _ _ _ checked => timely_of_check checked) completed)⟩

/-- The status states a lifetime of zero and is found in the cache five minutes later. -/
def overdueSchedule : List ServiceAction :=
  fillSchedule (some 0) ++ [.outside (.pass 299000),
    .start 1 (.proxy (plainRequest (text "/v1/status/"))), proceed 1]

/-- A body with a lifetime of zero is served from the cache. -/
theorem service_overdue : ¬∀ watched, watchedStatus.Reachable watched → Obeys statusKey watched := by
  intro claim
  have checked : (watchedStatus.run emptyWatched overdueSchedule).any (fun watched =>
      (servedHit 1 watched).any fun hit => hit.1.stated = some 0 && hit.1.since < hit.2) = true := by
    decide +kernel
  obtain ⟨watched, completed, facts⟩ := (Option.any_eq_true _ _).mp checked
  obtain ⟨⟨kept, time⟩, hit, facts⟩ := (Option.any_eq_true _ _).mp facts
  obtain ⟨stated, late⟩ := Bool.and_eq_true_iff.mp facts
  have obeys := claim watched (.run (.start emptyWatched_initial) overdueSchedule completed)
  have within := obeys.servedHit hit (of_decide_eq_true stated)
  have late := of_decide_eq_true late
  dsimp only at late
  omega

end Schedules

end EveApiCache.Expiry
