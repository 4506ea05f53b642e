import EveApiCache.Library.Tracking
import EveApiCache.Proof.Service.Collector

/-!
This file shows when no answer from the cache is older than what was stored before the request.
-/

namespace EveApiCache
open Effects StepMachine

variable (libraries : Libraries) (settings : Settings) (key : PyStr)

/-- The fetches are numbered from 1 on in the order of their completion. -/
def Numbered (history : List Fetched) (number : Nat) (fetch : Fetched) : Prop :=
  ∃ later earlier, history = later ++ fetch :: earlier ∧ number = earlier.length + 1

/-- These are the numbers of the fetches behind what the cache holds for a key. The newest response
with status 200 that was stored is `newest`, and 0 stands for none. -/
structure Numbers where
  newest : Nat
  hot : Nat
  stale : Nat
  negative : Nat
  futures : PyStr → Nat → Nat

def Numbers.zero : Numbers := ⟨0, 0, 0, 0, fun _ _ => 0⟩

/-- A task carries the response of the fetch with this number. When it started, the newest stored
response was `since`. -/
structure Mark where
  asks : Bool
  carried : Nat
  since : Nat

def Mark.zero : Mark := ⟨false, 0, 0⟩

/-- A request asks for a key when it passes the checks with this cache key. -/
def Task.asksFor : Task → Bool
  | .proxy request => (prepare libraries settings request).toOption.any (·.cacheKey = key)
  | .collect _ => false

/-- An await that reads or stores something under the key, or brings a response, changes the
numbers. -/
def Numbers.observe (key : PyStr) (world : World) (numbers : Numbers) (mark : Mark) :
    Circumstance → (await : Await) → Option await.Reply → Numbers × Mark
  | .answers _, .lead other future _ _, _ =>
      ({ numbers with
          futures := Function.update numbers.futures other
            (Function.update (numbers.futures other) future (world.fetched.length + 1)) },
        { mark with carried := world.fetched.length + 1 })
  | .answers _, .fetch _ _, _ => (numbers, { mark with carried := world.fetched.length + 1 })
  | .proceeds _ _, .coalesce other (.waiting future), _ =>
      (numbers, { mark with carried := numbers.futures other future })
  | .proceeds _ _, .access (.get other), some (some _) =>
      (numbers, if other = key then { mark with carried := numbers.hot } else mark)
  | .proceeds _ _, .access (.getNegative other), some (some _) =>
      (numbers, if other = key then { mark with carried := numbers.negative } else mark)
  | .proceeds _ _, .access (.restoreStale other _), some (some _) =>
      (numbers, if other = key then { mark with carried := numbers.stale } else mark)
  | .proceeds _ _, .access (.set other _ ttl etag staleTtl), _ =>
      let redis := world.stores.redis
      (if other = key then
        { numbers with
          newest := if redis.setSucceeds ttl etag staleTtl then max numbers.newest mark.carried
            else numbers.newest
          hot := if redis.accepts ttl then mark.carried else numbers.hot
          stale := if redis.accepts (ttl + staleTtl) then mark.carried else numbers.stale }
        else numbers, mark)
  | .proceeds _ _, .access (.setNegative other _ _ ttl), _ =>
      (if other = key ∧ world.stores.redis.accepts ttl then
        { numbers with negative := mark.carried } else numbers, mark)
  | _, _, _ => (numbers, mark)

/-- This watcher follows the fetches behind the entries of a key. -/
def freshness (key : PyStr) : Watcher awaits World Task Circumstance Numbers Mark where
  enters task _ numbers := ⟨task.asksFor libraries settings key, 0, numbers.newest⟩
  observes := Numbers.observe key

abbrev WatchedService := Watched awaits Result World Numbers Mark

/-- A call stores a response under a key. -/
def Access.StoresUnder (key : PyStr) : Access → Prop
  | .set other _ _ _ _ => other = key
  | .setNegative other _ _ _ => other = key
  | _ => False

instance storesUnder_decidable (key : PyStr) (call : Access) : Decidable (call.StoresUnder key) :=
  match call with
  | .set other _ _ _ _ => inferInstanceAs (Decidable (other = key))
  | .setNegative other _ _ _ => inferInstanceAs (Decidable (other = key))
  | .get _ | .getNegative _ | .getEtag _ | .getStale _ | .restoreStale _ _ | .getTtl _
  | .writeSnapshot _ | .writeNames _ _ | .getLatestPayload _ => .isFalse fun stores => stores

/-- No response is stored that is older than a stored one with status 200. -/
def InOrder (key : PyStr) (watched : WatchedService) : ServiceAction → Prop
  | .proceed thread (.proceeds _ _) => ∀ call rest,
      watched.pool.threads thread = some (.perform (.access call) rest) → call.StoresUnder key →
        watched.ghost.newest ≤ (watched.marks thread).carried
  | _ => True

/-- A body comes from another one by being stored and read any number of times. -/
inductive Recoded (origin : Bytes) : Bytes → Prop where
  | origin : Recoded origin origin
  | again {body read : Bytes} (before : Recoded origin body)
      (decoded : decodeValue libraries (storedForm libraries settings body) = some read) :
      Recoded origin read

/-- A body is the body of a numbered fetch with status 200. -/
def Filled (history : List Fetched) (number : Nat) (body : Bytes) : Prop :=
  ∃ fetch, Numbered history number fetch ∧ (fetch.response libraries).status = 200 ∧
    Recoded libraries settings (fetch.response libraries).body body

/-- An error is the response of a numbered fetch. -/
def Failed (history : List Fetched) (number : Nat) (body : Bytes) (status : Nat) : Prop :=
  ∃ fetch, Numbered history number fetch ∧ (fetch.response libraries).body = body ∧
    (fetch.response libraries).status = status

/-- A task carries the response of the fetch with its number. -/
def Carries (history : List Fetched) (mark : Mark) (response : EsiResponse) : Prop :=
  ∃ fetch, Numbered history mark.carried fetch ∧ fetch.response libraries = response

/-- This is what the tasks know of each other: the fetches and the newest stored response. -/
structure Known where
  fetched : List Fetched
  newest : Nat

structure Known.Grows (before after : Known) : Prop where
  fetched : before.fetched <:+ after.fetched
  newest : before.newest ≤ after.newest

/-- A task asks only when it started in time, and it stores only what it carries. -/
def FreshOwed (known : Known) (mark : Mark) : Await → Prop
  | .access (.get _) => mark.since ≤ known.newest
  | .access (.getNegative _) => mark.since ≤ known.newest
  | .access (.set other body _ _ _) =>
      other = key → Filled libraries settings known.fetched mark.carried body
  | .access (.setNegative other body status _) =>
      other = key → Failed libraries known.fetched mark.carried body status
  | _ => True

/-- A reply keeps who asks and since when, and it leaves the number of what it brings. -/
def FreshProvided (known : Known) (mark : Mark) : (await : Await) → await.Reply → Mark → Prop
  | .access (.get other), some (body, _), left => left.asks = mark.asks ∧ left.since = mark.since ∧
      (other = key → mark.since ≤ left.carried ∧
        Filled libraries settings known.fetched left.carried body)
  | .access (.getNegative other), some (body, status), left =>
      left.asks = mark.asks ∧ left.since = mark.since ∧ (other = key → mark.since ≤ left.carried ∧
        Failed libraries known.fetched left.carried body status)
  | .access (.restoreStale other _), some body, left =>
      other = key → Filled libraries settings known.fetched left.carried body
  | .access _, _, left => left = mark
  | .coalesce _ (.waiting _), next, left => ∀ response, arrival next = some response →
      Carries libraries known.fetched left response
  | .coalesce _ phase, next, left => left = mark ∧ Moves phase next
  | .lead _ future _ _, next, left => ∃ outcome, next = .releasing future outcome ∧
      ∀ response, outcome = .returned response → Carries libraries known.fetched left response
  | .fetch _ _, response, left => Carries libraries known.fetched left response

/-- This is the tracking of the numbers of a key. -/
def freshnessTracking : Tracking awaits Known Mark where
  grows := Known.Grows
  grows_refl _ := ⟨List.suffix_refl _, Nat.le_refl _⟩
  grows_trans first second :=
    ⟨first.fetched.trans second.fetched, first.newest.trans second.newest⟩
  requires := FreshOwed libraries settings key
  provides := FreshProvided libraries settings key

/-- An answer from the cache is no older than the newest response stored before the request, and it is
the response with its number. -/
def UpToDate (known : Known) (mark : Mark) : Result → Prop
  | .proxied result => mark.asks = true → result.cacheStatus = .hit → mark.since ≤ mark.carried ∧
      (result.status = 200 ∧ Filled libraries settings known.fetched mark.carried result.body ∨
        Failed libraries known.fetched mark.carried result.body result.status)
  | .collected _ => True

variable {libraries settings key} {known later : Known} {mark : Mark}

section Growth

theorem Numbered.mono {before after : List Fetched} {number : Nat} {fetch : Fetched}
    (numbered : Numbered before number fetch) (grown : before <:+ after) :
    Numbered after number fetch := by
  obtain ⟨more, rfl⟩ := grown
  obtain ⟨later, earlier, rfl, same⟩ := numbered
  exact ⟨more ++ later, earlier, (List.append_assoc ..).symm, same⟩

/-- A completed fetch gets the next number. -/
theorem Numbered.log (fetch : Fetched) (history : List Fetched) :
    Numbered (fetch :: history) (history.length + 1) fetch := ⟨[], history, rfl, rfl⟩

theorem Filled.mono {before after : List Fetched} {number : Nat} {body : Bytes}
    (filled : Filled libraries settings before number body) (grown : before <:+ after) :
    Filled libraries settings after number body := by
  obtain ⟨fetch, numbered, facts⟩ := filled
  exact ⟨fetch, numbered.mono grown, facts⟩

theorem Failed.mono {before after : List Fetched} {number : Nat} {body : Bytes} {status : Nat}
    (failed : Failed libraries before number body status) (grown : before <:+ after) :
    Failed libraries after number body status := by
  obtain ⟨fetch, numbered, facts⟩ := failed
  exact ⟨fetch, numbered.mono grown, facts⟩

theorem Carries.mono {before after : List Fetched} {response : EsiResponse}
    (carries : Carries libraries before mark response) (grown : before <:+ after) :
    Carries libraries after mark response := by
  obtain ⟨fetch, numbered, same⟩ := carries
  exact ⟨fetch, numbered.mono grown, same⟩

/-- A carried response with status 200 fills the cache with its body. -/
theorem Carries.filled {history : List Fetched} {response : EsiResponse}
    (carries : Carries libraries history mark response) (ok : response.status = 200) :
    Filled libraries settings history mark.carried response.body := by
  obtain ⟨fetch, numbered, rfl⟩ := carries
  exact ⟨fetch, numbered, ok, .origin⟩

theorem Carries.failed {history : List Fetched} {response : EsiResponse}
    (carries : Carries libraries history mark response) :
    Failed libraries history mark.carried response.body response.status := by
  obtain ⟨fetch, numbered, rfl⟩ := carries
  exact ⟨fetch, numbered, rfl, rfl⟩

end Growth

section Tasks

/-- A caller of the coalescer carries the response that it brings. -/
def Brings (libraries : Libraries) (known : Known) (mark : Mark) (result : EsiResponse × Bool) :
    Prop :=
  Carries libraries known.fetched mark result.1

theorem settled_tracked {leader : Bool} {outcome : Coalesce.Outcome EsiResponse Unit}
    (carries : ∀ response, outcome = .returned response → Carries libraries known.fetched mark response) :
    (settled leader outcome).Tracked (freshnessTracking libraries settings key) (Brings libraries)
      known mark := by
  cases outcome with
  | returned response =>
      exact Program.tracked_done fun later grown => (carries response rfl).mono grown.fetched
  | raised | cancelled => trivial

theorem coalesce_tracked (other : PyStr) (call : UpstreamCall) (etag : Option PyStr) :
    (coalesce other call etag).Tracked (freshnessTracking libraries settings key) (Brings libraries)
      known mark := by
  apply Program.tracked_perform (fun _ _ => trivial)
  intro after phase left grown learned
  cases phase with
  | joining | releasing | led | shared | abandoned => trivial
  | leading future =>
      apply Program.tracked_perform (fun _ _ => trivial)
      rintro after phase left grown ⟨outcome, rfl, carries⟩
      apply Program.tracked_perform (fun _ _ => trivial)
      rintro after phase left further ⟨rfl, moves⟩
      obtain rfl := moves_releasing moves
      exact settled_tracked fun response same => (carries response same).mono further.fetched
  | waiting future =>
      apply Program.tracked_perform (fun _ _ => trivial)
      intro after phase left grown carries
      cases phase with
      | joining | leading | releasing | waiting | abandoned => trivial
      | led future outcome | shared future outcome =>
          apply settled_tracked
          rintro response rfl
          exact carries response rfl

/-- An answer after a fetch is no hit. -/
def Missed (_ : Known) (_ : Mark) (result : ProxyResult) : Prop := result.cacheStatus ≠ .hit

theorem archiveResponse_tracked (prepared : Prepared) (response : EsiResponse) :
    (archiveResponse libraries prepared response).Tracked (freshnessTracking libraries settings key)
      (fun _ _ _ => True) known mark := by
  have names (recorded : Bool) (known : Known) (mark : Mark) :
      (recordNames prepared response recorded).Tracked (freshnessTracking libraries settings key)
        (fun _ _ _ => True) known mark := by
    cases recorded with
    | false => exact Program.tracked_done fun _ _ => trivial
    | true =>
        unfold recordNames
        split_ifs
        · exact Program.tracked_perform (fun _ _ => trivial) fun _ _ _ _ _ =>
            Program.tracked_done fun _ _ => trivial
        · exact Program.tracked_done fun _ _ => trivial
  unfold archiveResponse recordResponse
  split_ifs
  · exact names true known mark
  · rw [access_bind]
    exact Program.tracked_perform (fun _ _ => trivial) fun _ recorded _ _ _ => names recorded _ _

theorem answered_tracked (prepared : Prepared) {response : EsiResponse} (leader : Bool)
    (carries : Carries libraries known.fetched mark response) :
    (answered libraries settings prepared response leader).Tracked
      (freshnessTracking libraries settings key) Missed known mark := by
  unfold answered
  split_ifs with ok degrades redirects
  · cases leader with
    | false => exact Program.tracked_done fun _ _ => nofun
    | true =>
        apply Program.tracked_perform
        · exact fun later grown _ => (carries.mono grown.fetched).filled ok
        · intro _ _ _ _ _
          exact (archiveResponse_tracked prepared response).bind fun _ _ _ _ _ =>
            Program.tracked_done fun _ _ => nofun
  · apply Program.tracked_perform (fun _ _ => trivial)
    intro _ stale _ _ _
    cases stale with
    | some body => exact Program.tracked_done fun _ _ => nofun
    | none =>
        apply Program.tracked_perform (fun _ _ => trivial)
        intro _ archived _ _ _
        apply Program.tracked_done
        intro _ _
        cases archived with
        | none => exact nofun
        | some body =>
            change (if body = [] then _ else _ : ProxyResult).cacheStatus ≠ _
            split_ifs <;> exact nofun
  · exact Program.tracked_done fun _ _ => nofun
  · unfold cacheNegative
    split_ifs
    · exact Program.tracked_perform (fun later grown _ => (carries.mono grown.fetched).failed)
        fun _ _ _ _ _ => Program.tracked_done fun _ _ => nofun
    · exact Program.tracked_done fun _ _ => nofun

theorem revalidated_tracked (prepared : Prepared) (stored : Option PyStr) {response : EsiResponse}
    (leader : Bool) (restored : Option Bytes)
    (filled : ∀ body, restored = some body → prepared.cacheKey = key →
      Filled libraries settings known.fetched mark.carried body) :
    (revalidated libraries settings prepared stored response leader restored).Tracked
      (freshnessTracking libraries settings key) Missed known mark := by
  cases restored with
  | none =>
      exact (coalesce_tracked _ _ none).bind fun _ _ result _ brings =>
        answered_tracked prepared result.2 brings
  | some body =>
      have filled := filled body rfl
      have ttlTracked : (restoredTtl prepared response.maxAge).Tracked
          (freshnessTracking libraries settings key)
          (fun known mark _ => prepared.cacheKey = key →
            Filled libraries settings known.fetched mark.carried body) known mark := by
        unfold restoredTtl
        cases response.maxAge with
        | some maxAge =>
            exact Program.tracked_done fun later grown same => (filled same).mono grown.fetched
        | none =>
            apply Program.tracked_perform (fun _ _ => trivial)
            rintro after prior _ grown rfl
            exact Program.tracked_done fun later further same =>
              ((filled same).mono grown.fetched).mono further.fetched
      apply ttlTracked.bind
      intro later left ttl _ filled
      cases leader with
      | false => exact Program.tracked_done fun _ _ => nofun
      | true =>
          apply Program.tracked_perform
          · exact fun after grown same => (filled same).mono grown.fetched
          · exact fun _ _ _ _ _ => Program.tracked_done fun _ _ => nofun

/-- An answer of `_dispatch` is up to date. -/
def Answers (libraries : Libraries) (settings : Settings) (known : Known) (mark : Mark)
    (result : ProxyResult) : Prop :=
  UpToDate libraries settings known mark (.proxied result)

theorem Answers.mono {result : ProxyResult} (answers : Answers libraries settings known mark result)
    (grown : known.Grows later) : Answers libraries settings later mark result := by
  intro asks hit
  obtain ⟨ordered, facts⟩ := answers asks hit
  refine ⟨ordered, facts.imp (fun found => ⟨found.1, found.2.mono grown.fetched⟩) fun failed => ?_⟩
  exact failed.mono grown.fetched

theorem conditionalFetch_tracked (prepared : Prepared) :
    (conditionalFetch libraries settings prepared).Tracked (freshnessTracking libraries settings key)
      Missed known mark := by
  apply Program.tracked_perform (fun _ _ => trivial)
  intro _ stored _ _ _
  apply (coalesce_tracked _ _ stored).bind
  intro _ _ result _ brings
  unfold fetched
  split_ifs
  · apply Program.tracked_perform (fun _ _ => trivial)
    intro after restored left _ learned
    apply revalidated_tracked
    rintro body rfl same
    exact learned same
  · exact answered_tracked prepared result.2 brings

theorem lookup_tracked (prepared : Prepared) (own : mark.asks = true → prepared.cacheKey = key)
    (current : mark.since ≤ known.newest) :
    (lookup libraries settings prepared).Tracked (freshnessTracking libraries settings key)
      (Answers libraries settings) known mark := by
  apply Program.tracked_perform
  · exact fun later grown => current.trans grown.newest
  intro after cached left grown learned
  cases cached with
  | some entry =>
      obtain ⟨asks, since, found⟩ := learned
      apply Program.tracked_done
      intro later further asking _
      obtain ⟨ordered, filled⟩ := found (own (asks ▸ asking))
      exact ⟨since ▸ ordered, .inl ⟨rfl, filled.mono further.fetched⟩⟩
  | none =>
      obtain rfl : left = mark := learned
      apply Program.tracked_perform
      · exact fun later further => current.trans (grown.newest.trans further.newest)
      intro after refused left further learned
      cases refused with
      | some entry =>
          obtain ⟨asks, since, found⟩ := learned
          apply Program.tracked_done
          intro later beyond asking _
          obtain ⟨ordered, failed⟩ := found (own (asks ▸ asking))
          exact ⟨since ▸ ordered, .inr (failed.mono beyond.fetched)⟩
      | none =>
          exact (conditionalFetch_tracked prepared).mono fun _ _ _ missed _ hit => absurd hit missed

theorem fetchAndStore_tracked (datasource : PyStr) (job : Job) :
    (fetchAndStore libraries settings datasource job).Tracked
      (freshnessTracking libraries settings key) (fun _ _ _ => True) known mark := by
  apply Program.tracked_perform (fun _ _ => trivial)
  intro after response left _ carries
  change (collected libraries settings datasource job response).Tracked _ _ after left
  unfold collected
  split_ifs with failed
  · exact Program.tracked_done fun _ _ => trivial
  have filled : Filled libraries settings after.fetched left.carried response.body :=
    Carries.filled carries (not_not.mp failed)
  have aliases (versions : List PyStr) (now : Known)
      (filled : Filled libraries settings now.fetched left.carried response.body) :
      (warmAliases libraries settings datasource job response versions).Tracked
        (freshnessTracking libraries settings key) (fun _ _ _ => True) now left := by
    induction versions generalizing now with
    | nil => exact Program.tracked_done fun _ _ => trivial
    | cons version rest ih =>
        unfold warmAliases
        split_ifs
        · exact ih now filled
        · apply Program.tracked_perform
          · exact fun later grown _ => filled.mono grown.fetched
          rintro later _ _ grown rfl
          exact ih later (filled.mono grown.fetched)
  apply Program.tracked_perform
  · exact fun later grown _ => filled.mono grown.fetched
  rintro later _ _ grown rfl
  exact (aliases _ later (filled.mono grown.fetched)).bind fun _ _ _ _ _ =>
    Program.tracked_perform (fun _ _ => trivial) fun _ _ _ _ _ => Program.tracked_done fun _ _ => trivial

theorem launch_tracked (task : Task) (known : Known) :
    (task.launch libraries settings).Tracked (freshnessTracking libraries settings key)
      (UpToDate libraries settings) known ⟨task.asksFor libraries settings key, 0, known.newest⟩ := by
  cases task with
  | collect job =>
      exact (fetchAndStore_tracked _ job).bind fun _ _ _ _ _ => Program.tracked_done fun _ _ => trivial
  | proxy request =>
      have served : (dispatch libraries settings request).Tracked
          (freshnessTracking libraries settings key) (Answers libraries settings) known
          ⟨(Task.proxy request).asksFor libraries settings key, 0, known.newest⟩ := by
        unfold dispatch
        cases accepted : prepare libraries settings request with
        | error result =>
            apply Program.tracked_done
            intro _ _ asks
            simp [Task.asksFor, accepted, Except.toOption] at asks
        | ok prepared =>
            apply lookup_tracked prepared (fun asks => ?_) (Nat.le_refl _)
            simpa [Task.asksFor, accepted, Except.toOption] using asks
      apply served.bind
      intro later left result _ answers
      exact Program.tracked_done fun after grown => answers.mono grown

end Tasks

/-- The numbers are those of the fetches behind the entries of the key and behind the futures. -/
structure Numbers.Sound (libraries : Libraries) (settings : Settings) (key : PyStr) (world : World)
    (numbers : Numbers) : Prop where
  hot : ∀ entry, world.stores.redis.body key = some entry → numbers.newest ≤ numbers.hot ∧
    ∃ body, entry.value = storedForm libraries settings body ∧
      Filled libraries settings world.fetched numbers.hot body
  stale : ∀ entry, world.stores.redis.stale key = some entry →
    ∃ body, entry.value = storedForm libraries settings body ∧
      Filled libraries settings world.fetched numbers.stale body
  negative : ∀ body status, world.stores.redis.negBody key = some body →
    world.stores.redis.negStatus key = some status → numbers.newest ≤ numbers.negative ∧
      Failed libraries world.fetched numbers.negative body.value status.value
  flights : ∀ other future response,
    world.table.futures other future = .resolved (.ok response) → ∃ fetch,
      Numbered world.fetched (numbers.futures other future) fetch ∧ fetch.response libraries = response

/-- This is what the tasks know of a world with numbers. -/
def Numbers.told (world : World) (numbers : Numbers) : Known := ⟨world.fetched, numbers.newest⟩

/-- A step keeps the numbers sound, and its reply is as provided. -/
def Followed (libraries : Libraries) (settings : Settings) (key : PyStr) (before : World)
    (numbers : Numbers) (mark : Mark) (await : Await) (result : Option await.Reply × World)
    (seen : Numbers × Mark) : Prop :=
  seen.1.Sound libraries settings key result.2 ∧
    (numbers.told before).Grows (seen.1.told result.2) ∧
    ∀ reply, result.1 = some reply →
      FreshProvided libraries settings key (seen.1.told result.2) mark await reply seen.2

section Steps
variable {world : World} {numbers : Numbers}

theorem Numbers.Sound.log (sound : numbers.Sound libraries settings key world) (fetch : Fetched) :
    numbers.Sound libraries settings key (world.log fetch) := by
  have grown : world.fetched <:+ fetch :: world.fetched := List.suffix_cons _ _
  refine ⟨fun entry stored => ?_, fun entry stored => ?_, fun body status one two => ?_,
    fun other future response resolved => ?_⟩
  · obtain ⟨ordered, body, form, filled⟩ := sound.hot entry stored
    exact ⟨ordered, body, form, filled.mono grown⟩
  · obtain ⟨body, form, filled⟩ := sound.stale entry stored
    exact ⟨body, form, filled.mono grown⟩
  · obtain ⟨ordered, failed⟩ := sound.negative body status one two
    exact ⟨ordered, failed.mono grown⟩
  · obtain ⟨other, numbered, same⟩ := sound.flights other future response resolved
    exact ⟨other, numbered.mono grown, same⟩

/-- A body that is read under the key fills the cache. -/
theorem Numbers.Sound.read (sound : numbers.Sound libraries settings key world) {body : Bytes}
    {etag : Option PyStr}
    (found : world.stores.redis.get libraries key = some (some (body, etag))) :
    numbers.newest ≤ numbers.hot ∧ Filled libraries settings world.fetched numbers.hot body := by
  unfold Redis.get at found
  cases read : world.stores.redis.body.read world.stores.redis.now key with
  | none =>
      rw [read] at found
      cases found
  | some raw =>
      rw [read] at found
      obtain ⟨deadline, stored, _⟩ := TimedStore.read_eq_some.mp read
      obtain ⟨value, decoded, same⟩ := Option.map_eq_some_iff.mp found
      obtain ⟨ordered, origin, form, fetch, numbered, ok, recoded⟩ := sound.hot _ stored
      cases same
      have form : raw = storedForm libraries settings origin := form
      exact ⟨ordered, fetch, numbered, ok, recoded.again (form ▸ decoded)⟩

/-- A stale copy that is read under the key fills the cache. -/
theorem Numbers.Sound.readStale (sound : numbers.Sound libraries settings key world) {body : Bytes}
    (found : world.stores.redis.getStale libraries key = some (some body)) :
    Filled libraries settings world.fetched numbers.stale body := by
  unfold Redis.getStale at found
  cases read : world.stores.redis.stale.read world.stores.redis.now key with
  | none =>
      rw [read] at found
      cases found
  | some raw =>
      rw [read] at found
      obtain ⟨deadline, stored, _⟩ := TimedStore.read_eq_some.mp read
      obtain ⟨value, decoded, same⟩ := Option.map_eq_some_iff.mp found
      obtain ⟨origin, form, fetch, numbered, ok, recoded⟩ := sound.stale _ stored
      cases same
      have form : raw = storedForm libraries settings origin := form
      exact ⟨fetch, numbered, ok, recoded.again (form ▸ decoded)⟩

/-- An error that is read under the key is the response of its fetch. -/
theorem Numbers.Sound.readNegative (sound : numbers.Sound libraries settings key world) {body : Bytes}
    {status : Nat} (found : world.stores.redis.getNegative key = some (body, status)) :
    numbers.newest ≤ numbers.negative ∧ Failed libraries world.fetched numbers.negative body status := by
  unfold Redis.getNegative at found
  split at found
  · rename_i one two bodyRead statusRead
    cases found
    obtain ⟨_, stored, _⟩ := TimedStore.read_eq_some.mp bodyRead
    obtain ⟨_, kept, _⟩ := TimedStore.read_eq_some.mp statusRead
    exact sound.negative _ _ stored kept
  · cases found

/-- The numbers stay sound when nothing changes for the key. -/
theorem Numbers.Sound.congr {next : World} (sound : numbers.Sound libraries settings key world)
    (body : next.stores.redis.body key = world.stores.redis.body key)
    (stale : next.stores.redis.stale key = world.stores.redis.stale key)
    (negBody : next.stores.redis.negBody key = world.stores.redis.negBody key)
    (negStatus : next.stores.redis.negStatus key = world.stores.redis.negStatus key)
    (table : next.table.futures = world.table.futures) (fetched : next.fetched = world.fetched) :
    numbers.Sound libraries settings key next := by
  refine ⟨?_, ?_, ?_, ?_⟩
  · rw [body, fetched]
    exact sound.hot
  · rw [stale, fetched]
    exact sound.stale
  · rw [negBody, negStatus, fetched]
    exact sound.negative
  · rw [table, fetched]
    exact sound.flights

/-- A `cache.set` that succeeds has stored the body. -/
theorem setSucceeds_accepts {redis : Redis} {ttl staleTtl : Int} {etag : Option PyStr}
    (taken : redis.setSucceeds ttl etag staleTtl = true) : redis.accepts ttl = true :=
  List.all_eq_true.mp taken ttl (by simp [Redis.lifetimes])

/-- A `cache.set` in order keeps the numbers sound. -/
theorem Numbers.Sound.set (sound : numbers.Sound libraries settings key world) (now : Datetime)
    (fault : Option Nat) {other : PyStr} {body : Bytes} {ttl staleTtl : Int} {etag : Option PyStr}
    (owed : other = key → Filled libraries settings world.fetched mark.carried body)
    (ordered : other = key → numbers.newest ≤ mark.carried) (reply : Option Unit) :
    Followed libraries settings key world numbers mark (.access (.set other body ttl etag staleTtl))
      (reply, { world with stores := { world.stores with
        redis := world.stores.redis.set libraries settings other body ttl etag staleTtl } })
      (numbers.observe key world mark (.proceeds now fault)
        (.access (.set other body ttl etag staleTtl)) reply) := by
  unfold Numbers.observe
  dsimp only
  by_cases own : other = key
  · rw [if_pos own]
    subst own
    have filled := owed rfl
    have ordered := ordered rfl
    refine ⟨⟨fun entry stored => ?_, fun entry stored => ?_, fun _ _ stored => ?_, sound.flights⟩,
      ⟨List.suffix_refl _, ?_⟩, fun _ _ => rfl⟩
    · rcases setEx_some stored with ⟨_, taken, rfl⟩ | ⟨old, refused⟩
      · rw [if_pos taken]
        refine ⟨?_, body, rfl, filled⟩
        change (if _ then _ else _) ≤ mark.carried
        split_ifs
        · exact max_le ordered (le_refl _)
        · exact ordered
      · have refused := Bool.eq_false_iff.mp (refused rfl)
        rw [if_neg refused, if_neg fun taken => refused (setSucceeds_accepts taken)]
        exact sound.hot entry old
    · change (if 0 < staleTtl then _ else _ : TimedStore PyStr Bytes) other = some entry at stored
      split_ifs at stored with copied
      · rcases setEx_some stored with ⟨_, taken, rfl⟩ | ⟨old, refused⟩
        · rw [if_pos taken]
          exact ⟨body, rfl, filled⟩
        · rw [if_neg (Bool.eq_false_iff.mp (refused rfl))]
          exact sound.stale entry old
      · rw [TimedStore.erase_self] at stored
        cases stored
    · change world.stores.redis.negBody.erase other other = _ at stored
      rw [TimedStore.erase_self] at stored
      cases stored
    · change numbers.newest ≤ if _ then _ else _
      split_ifs
      · exact le_max_left _ _
      · exact le_refl _
  · rw [if_neg own]
    have differs : key ≠ other := fun same => own same.symm
    refine ⟨sound.congr (setEx_other _ _ _ _ differs) ?_ (TimedStore.erase_other _ differs)
      (TimedStore.erase_other _ differs) rfl rfl, ⟨List.suffix_refl _, le_refl _⟩, fun _ _ => rfl⟩
    change (if 0 < staleTtl then _ else _ : TimedStore PyStr Bytes) key = _
    split_ifs
    · exact setEx_other _ _ _ _ differs
    · exact TimedStore.erase_other _ differs

/-- A `set_negative` in order keeps the numbers sound. -/
theorem Numbers.Sound.setNegative (sound : numbers.Sound libraries settings key world) (now : Datetime)
    (fault : Option Nat) {other : PyStr} {body : Bytes} {status : Nat} {ttl : Int}
    (owed : other = key → Failed libraries world.fetched mark.carried body status)
    (ordered : other = key → numbers.newest ≤ mark.carried) (reply : Option Unit) :
    Followed libraries settings key world numbers mark (.access (.setNegative other body status ttl))
      (reply, { world with stores := { world.stores with
        redis := world.stores.redis.setNegative other body status ttl } })
      (numbers.observe key world mark (.proceeds now fault)
        (.access (.setNegative other body status ttl)) reply) := by
  unfold Numbers.observe
  dsimp only
  by_cases own : other = key
  · subst own
    by_cases taken : world.stores.redis.accepts ttl = true
    · rw [if_pos ⟨rfl, taken⟩]
      refine ⟨⟨sound.hot, sound.stale, fun one two bodyStored statusStored => ?_, sound.flights⟩,
        ⟨List.suffix_refl _, le_refl _⟩, fun _ _ => rfl⟩
      have bodyStored := (setEx_self _ _ _ taken).symm.trans bodyStored
      have statusStored := (setEx_self _ _ _ taken).symm.trans statusStored
      cases bodyStored
      cases statusStored
      exact ⟨ordered rfl, owed rfl⟩
    · rw [if_neg fun both => taken both.2]
      have kept {Value : Type} (store : TimedStore PyStr Value) (value : Value) :
          world.stores.redis.setEx store other value ttl = store := by
        unfold Redis.setEx
        rw [if_neg taken]
      refine ⟨sound.congr rfl rfl ?_ ?_ rfl rfl, ⟨List.suffix_refl _, le_refl _⟩, fun _ _ => rfl⟩
      · exact congrFun (kept _ _) other
      · exact congrFun (kept _ _) other
  · rw [if_neg fun both => own both.1]
    have differs : key ≠ other := fun same => own same.symm
    exact ⟨sound.congr rfl rfl (setEx_other _ _ _ _ differs) (setEx_other _ _ _ _ differs) rfl rfl,
      ⟨List.suffix_refl _, le_refl _⟩, fun _ _ => rfl⟩

/-- A call of a store in order is followed. -/
theorem access_followed (sound : numbers.Sound libraries settings key world) (now : Datetime)
    (fault : Option Nat) (call : Access)
    (owed : FreshOwed libraries settings key (numbers.told world) mark (.access call))
    (ordered : call.StoresUnder key → numbers.newest ≤ mark.carried) :
    Followed libraries settings key world numbers mark (.access call)
      ((world.stores.perform libraries settings now fault call).1,
        { world with stores := (world.stores.perform libraries settings now fault call).2 }.record
          call (world.stores.perform libraries settings now fault call).1)
      (numbers.observe key world mark (.proceeds now fault) (.access call)
        (world.stores.perform libraries settings now fault call).1) := by
  have same : (numbers.told world).Grows (numbers.told world) :=
    ⟨List.suffix_refl _, Nat.le_refl _⟩
  have archived (program : Transaction Unit) : numbers.Sound libraries settings key
      { world with stores := (world.stores.transact libraries fault program).2 } := by
    obtain ⟨names, kept⟩ := transact_names fault program world.stores
    have body := congrArg Redis.body kept
    have stale := congrArg Redis.stale kept
    have negBody := congrArg Redis.negBody kept
    have negStatus := congrArg Redis.negStatus kept
    exact sound.congr (congrFun body key) (congrFun stale key) (congrFun negBody key)
      (congrFun negStatus key) rfl rfl
  cases call with
  | getEtag | getStale | getTtl | getLatestPayload => exact ⟨sound, same, fun _ _ => rfl⟩
  | get other =>
      change Followed libraries settings key world numbers mark (.access (.get other))
        (world.stores.redis.get libraries other, world)
        (numbers.observe key world mark (.proceeds now fault) (.access (.get other))
          (world.stores.redis.get libraries other))
      cases found : world.stores.redis.get libraries other with
      | none => exact ⟨sound, same, fun _ replied => by cases replied⟩
      | some cached =>
          cases cached with
          | none =>
              refine ⟨sound, same, fun _ replied => ?_⟩
              cases replied
              rfl
          | some entry =>
              refine ⟨sound, same, fun _ replied => ?_⟩
              cases replied
              by_cases own : other = key
              · subst own
                obtain ⟨newest, filled⟩ := sound.read found
                unfold Numbers.observe
                dsimp only
                rw [if_pos rfl]
                exact ⟨rfl, rfl, fun _ => ⟨owed.trans newest, filled⟩⟩
              · unfold Numbers.observe
                dsimp only
                rw [if_neg own]
                exact ⟨rfl, rfl, fun equal => absurd equal own⟩
  | getNegative other =>
      change Followed libraries settings key world numbers mark (.access (.getNegative other))
        (some (world.stores.redis.getNegative other), world)
        (numbers.observe key world mark (.proceeds now fault) (.access (.getNegative other))
          (some (world.stores.redis.getNegative other)))
      cases found : world.stores.redis.getNegative other with
      | none =>
          refine ⟨sound, same, fun _ replied => ?_⟩
          cases replied
          rfl
      | some entry =>
          refine ⟨sound, same, fun _ replied => ?_⟩
          cases replied
          by_cases own : other = key
          · subst own
            obtain ⟨newest, failed⟩ := sound.readNegative found
            unfold Numbers.observe
            dsimp only
            rw [if_pos rfl]
            exact ⟨rfl, rfl, fun _ => ⟨owed.trans newest, failed⟩⟩
          · unfold Numbers.observe
            dsimp only
            rw [if_neg own]
            exact ⟨rfl, rfl, fun equal => absurd equal own⟩
  | restoreStale other etag =>
      change Followed libraries settings key world numbers mark (.access (.restoreStale other etag))
        (world.stores.redis.getStale libraries other,
          world.record (.restoreStale other etag) (world.stores.redis.getStale libraries other))
        (numbers.observe key world mark (.proceeds now fault) (.access (.restoreStale other etag))
          (world.stores.redis.getStale libraries other))
      cases found : world.stores.redis.getStale libraries other with
      | none => exact ⟨sound, same, fun _ replied => by cases replied⟩
      | some copy =>
          cases copy with
          | none =>
              refine ⟨sound, same, fun _ replied => ?_⟩
              cases replied
              rfl
          | some body =>
              refine ⟨⟨sound.hot, sound.stale, sound.negative, sound.flights⟩, same, fun _ replied => ?_⟩
              cases replied
              rintro rfl
              unfold Numbers.observe
              dsimp only
              rw [if_pos rfl]
              exact sound.readStale found
  | set other body ttl etag staleTtl => exact sound.set now fault owed ordered _
  | setNegative other body status ttl => exact sound.setNegative now fault owed ordered _
  | writeSnapshot | writeNames => exact ⟨archived _, same, fun _ _ => rfl⟩

/-- A step of the coalescer that brings no response from ESI keeps the numbers sound. -/
theorem Numbers.Sound.advance (sound : numbers.Sound libraries settings key world) {other : PyStr}
    {phase next : Flight} {event : Coalesce.Event EsiResponse Unit}
    {table : Coalesce.Table PyStr EsiResponse Unit}
    (unsettled : ∀ response, event ≠ .settle (.returned response))
    (advanced : Coalesce.advance world.table other phase event = some (table, next)) :
    numbers.Sound libraries settings key { world with table := table } := by
  refine ⟨sound.hot, sound.stale, sound.negative, fun one target response resolved => ?_⟩
  rcases advance_futures advanced resolved with old | ⟨_, settled⟩
  · exact sound.flights one target response old
  · exact absurd settled (unsettled response)

/-- A waiter that proceeds carries the response of the fetch behind its future. -/
theorem coalesce_followed (sound : numbers.Sound libraries settings key world) (now : Datetime)
    (fault : Option Nat) {other : PyStr} {phase : Flight} {result : Option Flight × World}
    (moved : world.advance other phase .proceed = some result) :
    Followed libraries settings key world numbers mark (.coalesce other phase) result
      (numbers.observe key world mark (.proceeds now fault) (.coalesce other phase) result.1) := by
  obtain ⟨⟨table, next⟩, advanced, rfl⟩ := Option.map_eq_some_iff.mp moved
  have kept := sound.advance (fun _ settled => by cases settled) advanced
  refine ⟨?_, ⟨List.suffix_refl _, ?_⟩, fun reply same => ?_⟩
  · cases phase <;> exact kept
  · cases phase <;> exact le_refl _
  · cases same
    cases phase with
    | joining | releasing => exact ⟨rfl, _, _, _, _, advanced⟩
    | leading | led | shared | abandoned => cases advanced
    | waiting future =>
        intro response arrived
        cases Coalesce.advance_move advanced with
        | @wake future outcome resolved =>
            cases outcome with
            | error failure => cases arrived
            | ok value =>
                cases arrived
                exact sound.flights other future _ resolved

/-- A cancelled caller carries what it carried before. -/
theorem cancel_followed (sound : numbers.Sound libraries settings key world) {other : PyStr}
    {phase : Flight} {result : Option Flight × World}
    (moved : world.advance other phase .cancel = some result) :
    Followed libraries settings key world numbers mark (.coalesce other phase) result
      (numbers, mark) := by
  obtain ⟨⟨table, next⟩, advanced, rfl⟩ := Option.map_eq_some_iff.mp moved
  refine ⟨sound.advance (fun _ settled => by cases settled) advanced,
    ⟨List.suffix_refl _, le_refl _⟩, fun reply same => ?_⟩
  cases same
  cases phase with
  | joining | releasing => exact ⟨rfl, _, _, _, _, advanced⟩
  | leading | led | shared | abandoned => cases advanced
  | waiting future =>
      intro response arrived
      cases advanced
      cases arrived

/-- A leader that settles with a response carries it under the next number. -/
theorem lead_followed (sound : numbers.Sound libraries settings key world) {other : PyStr}
    {future : Nat} {call : UpstreamCall} {etag : Option PyStr} {upstream : Upstream}
    {result : Option Flight × World}
    (moved : world.perform libraries settings (.answers upstream) (.lead other future call etag) =
      some result) :
    Followed libraries settings key world numbers mark (.lead other future call etag) result
      (numbers.observe key world mark (.answers upstream) (.lead other future call etag) result.1) := by
  cases moved
  have logged := sound.log ⟨call, etag, upstream⟩
  refine ⟨⟨logged.hot, logged.stale, logged.negative, fun one target response resolved => ?_⟩,
    ⟨List.suffix_cons _ _, le_refl _⟩, fun reply same => ?_⟩
  · change (Coalesce.Table.resolve world.table other future _).futures one target = _ at resolved
    rw [Coalesce.Table.resolve_futures] at resolved
    unfold Numbers.observe
    dsimp only
    by_cases flight : one = other ∧ target = future
    · obtain ⟨rfl, rfl⟩ := flight
      rw [if_pos ⟨rfl, rfl⟩] at resolved
      cases resolved
      rw [Function.update_self, Function.update_self]
      exact ⟨_, .log _ _, rfl⟩
    · rw [if_neg flight] at resolved
      have unchanged : Function.update numbers.futures other (Function.update (numbers.futures other)
          future (world.fetched.length + 1)) one target = numbers.futures one target := by
        by_cases at' : one = other
        · subst at'
          rw [Function.update_self, Function.update_of_ne fun equal => flight ⟨rfl, equal⟩]
        · rw [Function.update_of_ne at']
      rw [unchanged]
      exact logged.flights one target response resolved
  · cases same
    refine ⟨_, rfl, fun response returned => ?_⟩
    cases returned
    exact ⟨_, .log _ _, rfl⟩

/-- A leader that brings nothing leaves the numbers. -/
theorem fail_followed (sound : numbers.Sound libraries settings key world) {other : PyStr}
    {future : Nat} {call : UpstreamCall} {etag : Option PyStr}
    {outcome : Coalesce.Outcome EsiResponse Unit} {result : Option Flight × World}
    (empty : ∀ response, outcome ≠ .returned response)
    (moved : world.advance other (.leading future) (.settle outcome) = some result) :
    Followed libraries settings key world numbers mark (.lead other future call etag) result
      (numbers, mark) := by
  obtain ⟨⟨table, next⟩, advanced, rfl⟩ := Option.map_eq_some_iff.mp moved
  have kept := sound.advance (fun response settled => empty response (by cases settled; rfl)) advanced
  refine ⟨kept, ⟨List.suffix_refl _, le_refl _⟩, fun reply same => ?_⟩
  cases same
  cases advanced
  exact ⟨outcome, rfl, fun response returned => absurd returned (empty response)⟩

/-- Every step in order is followed. -/
theorem perform_followed (sound : numbers.Sound libraries settings key world)
    (circumstance : Circumstance) (await : Await) (result : Option await.Reply × World)
    (owed : FreshOwed libraries settings key (numbers.told world) mark await)
    (ordered : ∀ now fault call, circumstance = .proceeds now fault → await = .access call →
      call.StoresUnder key → numbers.newest ≤ mark.carried)
    (moved : world.perform libraries settings circumstance await = some result) :
    Followed libraries settings key world numbers mark await result
      (numbers.observe key world mark circumstance await result.1) := by
  have same : (numbers.told world).Grows (numbers.told world) := ⟨List.suffix_refl _, le_refl _⟩
  cases await with
  | access call =>
      cases circumstance with
      | proceeds now fault =>
          cases moved
          exact access_followed sound now fault call owed (ordered now fault call rfl rfl)
      | answers upstream => cases moved
      | raises | cancelled =>
          cases moved
          exact ⟨sound, same, fun _ replied => by cases replied⟩
  | coalesce other phase =>
      cases circumstance with
      | proceeds now fault => exact coalesce_followed sound now fault moved
      | answers | raises => cases moved
      | cancelled => exact cancel_followed sound moved
  | lead other future call etag =>
      cases circumstance with
      | proceeds => cases moved
      | answers upstream => exact lead_followed sound moved
      | raises | cancelled => exact fail_followed sound (fun _ same => by cases same) moved
  | fetch call etag =>
      cases circumstance with
      | proceeds => cases moved
      | answers upstream =>
          cases moved
          refine ⟨sound.log _, ⟨List.suffix_cons _ _, le_refl _⟩, fun _ replied => ?_⟩
          cases replied
          exact ⟨_, .log _ _, rfl⟩
      | raises | cancelled =>
          cases moved
          exact ⟨sound, same, fun _ replied => by cases replied⟩

end Steps

section Runs

/-- In a run in order every task is tracked. -/
theorem service_tracks (libraries : Libraries) (settings : Settings) (key : PyStr) :
    (freshness libraries settings key).Tracks (service libraries settings)
      (freshnessTracking libraries settings key) (fun world numbers => numbers.told world)
      (UpToDate libraries settings) (fun world numbers => numbers.Sound libraries settings key world)
      (InOrder key) where
  launched watched thread task _ _ := launch_tracked task _
  performed watched thread circumstance await rest result sound ordered found owed moved :=
    perform_followed sound circumstance await result owed
      (fun now fault call same shape stores => by
        subst same shape
        exact ordered call rest found stores) moved
  outside watched event sound _ := by
    refine ⟨?_, ?_⟩
    · cases event <;> exact ⟨sound.hot, sound.stale, sound.negative, sound.flights⟩
    · cases event <;> exact ⟨List.suffix_refl _, le_refl _⟩

/-- Empty stores have sound numbers. -/
theorem Numbers.Sound.fresh {world : World} (fresh : world.Fresh) :
    Numbers.zero.Sound libraries settings key world := by
  obtain ⟨⟨now, redis⟩, _, table, _⟩ := fresh
  refine ⟨fun entry stored => ?_, fun entry stored => ?_, fun body status stored => ?_,
    fun other future response resolved => ?_⟩
  · rw [redis] at stored
    cases stored
  · rw [redis] at stored
    cases stored
  · rw [redis] at stored
    cases stored
  · rw [table] at resolved
    cases resolved

/-- In a run in order no request is answered from the cache with a response that is older than the
newest one stored before it started. -/
theorem service_unmasked {watched : WatchedService}
    (reached : ((freshness libraries settings key).machine (service libraries settings) World.Fresh
      .zero .zero).Guarded (InOrder key) watched) {thread : Nat} {result : ProxyResult}
    (ended : watched.pool.threads thread = some (.done (.proxied result)))
    (asks : (watched.marks thread).asks = true) (hit : result.cacheStatus = .hit) :
    (watched.marks thread).since ≤ (watched.marks thread).carried ∧
      (result.status = 200 ∧ Filled libraries settings watched.pool.shared.fetched
          (watched.marks thread).carried result.body ∨
        Failed libraries watched.pool.shared.fetched (watched.marks thread).carried result.body
          result.status) := by
  obtain ⟨_, tracked⟩ := (service_tracks libraries settings key).guarded
    (fun _ => Numbers.Sound.fresh) reached
  exact tracked thread _ ended _ ((freshnessTracking libraries settings key).grows_refl _) asks hit

end Runs

section Schedules

/-- This check accepts the steps in order. -/
def isInOrder (key : PyStr) (watched : WatchedService) : ServiceAction → Bool
  | .proceed thread (.proceeds _ _) =>
      match watched.pool.threads thread with
      | some (.perform (.access call) _) =>
          !decide (call.StoresUnder key) || watched.ghost.newest ≤ (watched.marks thread).carried
      | _ => true
  | _ => true

theorem inOrder_of_isInOrder {watched : WatchedService} {action : ServiceAction}
    (checked : isInOrder key watched action = true) : InOrder key watched action := by
  cases action with
  | start | outside => trivial
  | proceed thread circumstance =>
      cases circumstance with
      | answers | raises | cancelled => trivial
      | proceeds now fault =>
          intro call rest found stores
          unfold isInOrder at checked
          dsimp only at checked
          rw [found] at checked
          simpa [stores] using checked

/-- No task has run, and no number is known. -/
def emptyWatched : WatchedService := ⟨emptyService, .zero, fun _ => .zero⟩

/-- This is the service with the numbers of the incursions. -/
abbrev watchedIncursions : Machine WatchedService ServiceAction :=
  (freshness serviceLibraries {} (text "esi:tranquility:GET:/v1/incursions/:44136fa355b3678a")).machine
    (service serviceLibraries {}) World.Fresh .zero .zero

theorem emptyWatched_initial : watchedIncursions.initial emptyWatched :=
  ⟨emptyService_initial _ _, rfl, rfl⟩

/-- A request that asks for the key has ended with a hit. -/
def hits (thread : Nat) (watched : WatchedService) : Option ProxyResult :=
  match watched.pool.threads thread with
  | some (.done (.proxied result)) =>
      if (watched.marks thread).asks = true ∧ result.cacheStatus = .hit then some result else none
  | _ => none

theorem hits_ended {thread : Nat} {watched : WatchedService} {result : ProxyResult}
    (hit : hits thread watched = some result) :
    watched.pool.threads thread = some (.done (.proxied result)) ∧
      (watched.marks thread).asks = true ∧ result.cacheStatus = .hit := by
  unfold hits at hit
  split at hit
  · rename_i other found
    split_ifs at hit with facts
    cases hit
    exact ⟨found, facts⟩
  · cases hit

/-- A second request finds the response of the first one. -/
def hitSchedule : List ServiceAction :=
  incursionsSchedule ++ [.start 1 (.proxy (plainRequest (text "/v1/incursions/"))), proceed 1]

theorem service_unmasked_hit :
    ∃ (watched : WatchedService) (result : ProxyResult),
      watched.pool.threads 1 = some (.done (.proxied result)) ∧ (watched.marks 1).since = 1 ∧
        (watched.marks 1).since ≤ (watched.marks 1).carried := by
  have checked : (watchedIncursions.runIf (isInOrder
      (text "esi:tranquility:GET:/v1/incursions/:44136fa355b3678a")) emptyWatched hitSchedule).any
        (fun watched => (hits 1 watched).isSome && (watched.marks 1).since = 1) = true := by
    decide +kernel
  obtain ⟨watched, completed, facts⟩ := (Option.any_eq_true _ _).mp checked
  obtain ⟨hit, since⟩ := Bool.and_eq_true_iff.mp facts
  obtain ⟨result, hit⟩ := Option.isSome_iff_exists.mp hit
  obtain ⟨ended, asks, hit⟩ := hits_ended hit
  have reached := Machine.Guarded.runIf (.start emptyWatched_initial) hitSchedule
    (fun _ _ _ checked => inOrder_of_isInOrder checked) completed
  exact ⟨watched, result, ended, of_decide_eq_true since,
    (service_unmasked reached ended asks hit).1⟩

/-- A waiter caches an error after the collector has stored a newer response, and the error outlives
the response. -/
def maskedSchedule : List ServiceAction :=
  [.start 0 (.proxy (plainRequest (text "/v1/incursions/"))),
    .start 1 (.proxy (plainRequest (text "/v1/incursions/"))), proceed 0, proceed 0, proceed 0, proceed 0,
    proceed 1, proceed 1, proceed 1, proceed 1, answer 0 (plainAnswer 404 (bytes "{}") []),
    proceed 0, proceed 0, .start 2 (.collect .incursions),
    answer 2 (plainAnswer 200 (bytes "[]") (text "A")), proceed 2, .outside (.pass 1000), proceed 1,
    proceed 1, .outside (.pass 299500), .start 3 (.proxy (plainRequest (text "/v1/incursions/"))),
    proceed 3, proceed 3]

/-- An older error masks a newer response. -/
theorem service_masked :
    ¬∀ watched, watchedIncursions.Reachable watched → ∀ thread result,
      watched.pool.threads thread = some (.done (.proxied result)) →
        (watched.marks thread).asks = true → result.cacheStatus = .hit →
          (watched.marks thread).since ≤ (watched.marks thread).carried := by
  intro claim
  have checked : (watchedIncursions.run emptyWatched maskedSchedule).any (fun watched =>
      (hits 3 watched).isSome && (watched.marks 3).carried < (watched.marks 3).since) = true := by
    decide +kernel
  obtain ⟨watched, completed, facts⟩ := (Option.any_eq_true _ _).mp checked
  obtain ⟨hit, older⟩ := Bool.and_eq_true_iff.mp facts
  obtain ⟨result, hit⟩ := Option.isSome_iff_exists.mp hit
  obtain ⟨ended, asks, hit⟩ := hits_ended hit
  have reached := Machine.Reachable.run (.start emptyWatched_initial) maskedSchedule completed
  have ordered := claim watched reached 3 result ended asks hit
  have older := of_decide_eq_true older
  omega

end Schedules

end EveApiCache
