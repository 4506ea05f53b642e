import EveApiCache.Proof.Service.Fetches
import EveApiCache.Proof.Service.Flights
import EveApiCache.Proof.Service.Retained

/-!
This file shows when a request whose identity is archived is answered while ESI fails.
-/

namespace EveApiCache
open Effects StepMachine

section Definitions
variable (libraries : Libraries) (settings : Settings) (parsedate : PyStr → Option HttpDate)

/-- The bodies that a fetch returns with status 200 are arrays or objects, and clients send decoded
text. -/
def SendsJson : Service → EsiAction → Prop
  | _, .start _ (.proxy request) => request.Decoded
  | _, .proceed _ (.fetches breaker answers) => ∀ (method : Method) etag response,
      fetch settings libraries parsedate breaker method.upper etag answers = .returned response →
        response.status = 200 → Structured libraries response.body
  | _, _ => True

/-- These are the ways in which the breaker, the network or ESI fails a fetch. -/
inductive Outage (method : Method) (breaker : Breaker) (answers : EsiAnswers) : Prop where
  | blocked (refuses : breaker.blocked answers.called = true)
  | unreachable (attempt : Nat) (final : FirstFinal settings answers.first 0 attempt)
      (failed : answers.first attempt = .unreachable)
  | refused (attempt : Nat) (time : ℚ) (response : RawResponse)
      (final : FirstFinal settings answers.first 0 attempt)
      (answered : answers.first attempt = .answered time response)
      (status : response.status = 420 ∨ 500 ≤ response.status)
  | fanOut (attempt : Nat) (time : ℚ) (response : RawResponse)
      (final : FirstFinal settings answers.first 0 attempt)
      (answered : answers.first attempt = .answered time response) (ok : response.status = 200)
      (get : method = .get) (more : 1 < totalPages response.page)
      (failed : fetchAllPages libraries response.page
        (fun page => pageAnswer settings (answers.pages page)) = none)

end Definitions

variable {libraries : Libraries} {settings : Settings} {parsedate : PyStr → Option HttpDate}

section Fetch

/-- A response puts the proxy into its degraded mode. -/
def EsiResponse.Degrades (response : EsiResponse) : Prop :=
  (response.status = 420 ∨ 500 ≤ response.status) ∧ response.notModified = false

/-- The pages do not depend on the freshness of the first one. -/
theorem received_page {response : RawResponse} {now : Datetime} {first : HttpResponse}
    (received : response.received parsedate now = some first) :
    first = { response.page with maxAge := first.maxAge, expiresAt := first.expiresAt } := by
  unfold RawResponse.received at received
  split at received
  · cases received
    rfl
  · cases received

/-- The fetch of an outage returns a response that degrades when the code after it does not raise. -/
theorem Outage.degrades {method : Method} {breaker : Breaker} {answers : EsiAnswers}
    (outage : Outage libraries settings method breaker answers)
    (harmless : breaker.blocked answers.called = true ∨ Answerable parsedate settings answers) :
    ∃ upstream, answers.upstream settings parsedate breaker = some upstream ∧
      ∀ etag, (respond libraries method etag upstream).Degrades := by
  have synthetic (etag : Option PyStr) : (respond libraries method etag .unreachable).Degrades :=
    ⟨.inr (by decide : 500 ≤ 503), rfl⟩
  unfold EsiAnswers.upstream
  by_cases blocked : breaker.blocked answers.called = true
  · rw [if_pos blocked]
    exact ⟨_, rfl, fun etag => ⟨.inr (by decide : 500 ≤ 503), rfl⟩⟩
  rw [if_neg blocked]
  have answerable := harmless.resolve_left blocked
  cases outage with
  | blocked refuses => exact absurd refuses blocked
  | unreachable attempt final failed =>
      rw [answerable.ending parsedate final, failed]
      exact ⟨_, rfl, synthetic⟩
  | refused attempt time response final answered status =>
      obtain ⟨first, received⟩ := answerable.received parsedate final answered
      have same := congrArg HttpResponse.status (received_page received)
      have status : first.status = 420 ∨ 500 ≤ first.status := by rwa [same]
      rw [answerable.ending parsedate final, answered]
      dsimp only [Attempt.ending]
      rw [received]
      refine ⟨_, rfl, fun etag => ?_⟩
      unfold respond
      dsimp only
      rw [if_neg (by omega), if_pos (.inl (by omega))]
      exact ⟨status, rfl⟩
  | fanOut attempt time response final answered ok get more failed =>
      obtain ⟨first, received⟩ := answerable.received parsedate final answered
      have page := received_page received
      have ok : first.status = 200 := by rw [page]; exact ok
      have more : 1 < totalPages first := by rw [page]; exact more
      have failed : fetchAllPages libraries first
          (fun page => pageAnswer settings (answers.pages page)) = none := by rw [page]; exact failed
      rw [answerable.ending parsedate final, answered]
      dsimp only [Attempt.ending]
      rw [received]
      refine ⟨_, rfl, fun etag => ?_⟩
      unfold respond paginated
      dsimp only
      rw [if_neg (by rw [ok]; decide), if_neg (by simp [ok, get]), if_pos more, failed]
      exact ⟨.inr (by decide : 500 ≤ 500), rfl⟩

end Fetch

/-- A request ends with its result. -/
def finish (result : ProxyResult) : Pipeline Result := .done (.proxied result)

/-- A request that missed the caches goes on with the response of a flight for its key. -/
inductive Continues (libraries : Libraries) (settings : Settings) (prepared : Prepared) :
    PyStr → (EsiResponse × Bool → Pipeline ProxyResult) → Prop where
  | first (stored : Option PyStr) : Continues libraries settings prepared prepared.cacheKey
      fun result => fetched libraries settings prepared stored result.1 result.2
  | again : Continues libraries settings prepared (refetchKey prepared.cacheKey)
      fun result => answered libraries settings prepared result.1 result.2

/-- A request stands at a phase of a flight. -/
def boarded (key : PyStr) (next : EsiResponse × Bool → Pipeline ProxyResult) (phase : Flight) :
    Pipeline Result :=
  .perform (.coalesce key phase) fun phase => (landed phase >>= next) >>= finish

/-- This is a flight that ends with a response. -/
structure Journey where
  key : PyStr
  future : Nat
  response : EsiResponse

/-- A request leads a flight that has ended, or waits for it. -/
inductive Aboard (libraries : Libraries) (settings : Settings) (prepared : Prepared) (journey : Journey) :
    Pipeline Result → Prop where
  | leads {next : EsiResponse × Bool → Pipeline ProxyResult}
      (continues : Continues libraries settings prepared journey.key next) :
      Aboard libraries settings prepared journey
        (boarded journey.key next (.releasing journey.future (.returned journey.response)))
  | waits {next : EsiResponse × Bool → Pipeline ProxyResult}
      (continues : Continues libraries settings prepared journey.key next) :
      Aboard libraries settings prepared journey (boarded journey.key next (.waiting journey.future))

/-- ESI returned a body with status 200 for an identity, and an answer is equal to it in value. -/
def Returned (libraries : Libraries) (settings : Settings) (history : List Fetched)
    (identity : Identity) (answer : Bytes) : Prop :=
  ∃ fetch ∈ history, (fetch.response libraries).status = 200 ∧
    (∃ key, Asks libraries settings key identity fetch.call) ∧
    EqualInValue libraries (fetch.response libraries).body answer

theorem Returned.mono {before after : List Fetched} {identity : Identity} {answer : Bytes}
    (returned : Returned libraries settings before identity answer) (grown : before ⊆ after) :
    Returned libraries settings after identity answer := by
  obtain ⟨fetch, member, facts⟩ := returned
  exact ⟨fetch, grown member, facts⟩

/-- A request in an outage leaves its flight, reads the stale copy, then the archive, and ends with
status 200. -/
inductive Serving (libraries : Libraries) (settings : Settings) (prepared : Prepared) (journey : Journey)
    (history : List Fetched) : Pipeline Result → Prop where
  | aboard {program : Pipeline Result} (aboard : Aboard libraries settings prepared journey program) :
      Serving libraries settings prepared journey history program
  | stale : Serving libraries settings prepared journey history
      (degraded prepared journey.response >>= finish)
  | archive : Serving libraries settings prepared journey history
      (degradedAnswer prepared journey.response none >>= finish)
  | served (body : Bytes) (status : CacheStatus) (source : status = .stale ∨ status = .archiveFallback)
      (returned : Returned libraries settings history prepared.identity body) :
      Serving libraries settings prepared journey history
        (finish ⟨200, body, status, text "application/json", none⟩)

theorem Serving.mono {prepared : Prepared} {journey : Journey} {before after : List Fetched}
    {program : Pipeline Result} (serving : Serving libraries settings prepared journey before program)
    (grown : before ⊆ after) : Serving libraries settings prepared journey after program := by
  cases serving with
  | aboard aboard => exact .aboard aboard
  | stale => exact .stale
  | archive => exact .archive
  | served body status source returned => exact .served body status source (returned.mono grown)

section Steps
variable {prepared : Prepared} {response : EsiResponse}

theorem degradedAnswer_finish (prepared : Prepared) (response : EsiResponse) :
    degradedAnswer prepared response none >>= finish =
      .perform (.access (.getLatestPayload prepared.identity)) fun archived =>
        finish (fallback response.status archived) := rfl

theorem fallback_nonempty (status : Nat) {body : Bytes} (nonempty : body ≠ []) :
    fallback status (some body) = ⟨200, body, .archiveFallback, text "application/json", none⟩ := by
  exact if_neg nonempty

/-- An outage leads straight into the degraded mode. -/
theorem Continues.degraded {key : PyStr} {next : EsiResponse × Bool → Pipeline ProxyResult}
    (continues : Continues libraries settings prepared key next) (degrades : response.Degrades)
    (leader : Bool) : next (response, leader) = EveApiCache.degraded prepared response := by
  obtain ⟨status, fresh⟩ := degrades
  have answers : answered libraries settings prepared response leader =
      EveApiCache.degraded prepared response := by
    unfold answered
    rw [if_neg (by omega), if_pos status]
  cases continues with
  | first stored =>
      dsimp only
      unfold fetched
      rw [fresh, if_neg (by decide), answers]
  | again =>
      dsimp only
      rw [answers]

end Steps

/-- The shared state can serve an identity in an outage. -/
structure World.Ready (libraries : Libraries) (settings : Settings) (identity : Identity)
    (world : World) : Prop where
  held : world.Holds libraries settings False
  structured : ∀ fetch ∈ world.fetched, (fetch.response libraries).status = 200 →
    Structured libraries (fetch.response libraries).body
  archived : Archived world.stores.database identity

section Answers
variable {prepared : Prepared} {response : EsiResponse} {world : World}

/-- A stale copy can be read, and ESI sent it for the identity. -/
theorem getStale_returned (plain : PlainDigest libraries)
    (aliases : settings.collectorWarmAliasVersions = [])
    (asks : Asks libraries settings prepared.cacheKey prepared.identity prepared.call)
    (held : world.Holds libraries settings False) :
    ∃ reply, world.stores.redis.getStale libraries prepared.cacheKey = some reply ∧
      ∀ body, reply = some body →
        Returned libraries settings world.fetched prepared.identity body := by
  cases found : world.stores.redis.stale.read world.stores.redis.now prepared.cacheKey with
  | none =>
      refine ⟨none, ?_, nofun⟩
      unfold Redis.getStale
      rw [found]
  | some raw =>
      obtain ⟨deadline, stored, _⟩ := TimedStore.read_eq_some.mp found
      obtain ⟨content, form, backed⟩ := held.redis.stale _ _ stored
      have form : raw = storedForm libraries settings content := form
      have decoded := Traced.decoded held.unmarked backed
      refine ⟨some content, ?_, fun body same => ?_⟩
      · unfold Redis.getStale
        rw [found]
        dsimp only
        rw [form, decoded]
        rfl
      · cases same
        obtain ⟨fetch, member, ok, rfl, ⟨identity, own⟩ | ⟨_, version, listed, _⟩, _⟩ := backed
        · rw [asks.identity_unique plain own]
          exact ⟨fetch, member, ok, ⟨_, own⟩, .inl rfl⟩
        · rw [aliases] at listed
          cases listed

/-- The archive can be read, and ESI sent what it holds for the identity. -/
theorem getLatestPayload_returned (injective : Function.Injective libraries.sha256)
    (faithful : ∀ payload, Faithful libraries payload) {identity : Identity}
    (ready : world.Ready libraries settings identity) (files : PyStr → Option Bytes) :
    ∃ body, getLatestPayload libraries world.stores.database files identity = some (some body) ∧
      body ≠ [] ∧ Returned libraries settings world.fetched identity body := by
  have structured (payload : Bytes)
      (observed : Observed libraries settings world.fetched identity payload) :
      Structured libraries payload := by
    obtain ⟨fetch, member, ok, rfl, _⟩ := observed
    exact ready.structured fetch member ok
  obtain ⟨payload, body, read, observed, equal⟩ := getLatestPayload_archived injective faithful
    ready.held.archive ready.held.blobs structured ready.archived files
  have nonempty := equal.nonempty (structured payload observed)
  obtain ⟨fetch, member, ok, rfl, asked⟩ := observed
  exact ⟨body, read, nonempty, fetch, member, ok, asked, equal⟩

end Answers

section Serve
variable {prepared : Prepared} {journey : Journey} {state : Service} {thread : Nat}

/-- The next step of a thread that stands before a read continues it with the reply. -/
theorem step_read {call : Access} {rest : call.Reply → Pipeline Result} {reply : call.Reply}
    (reads : (∃ key, call = .getStale key) ∨ ∃ identity, call = .getLatestPayload identity)
    (standing : state.threads thread = some (.perform (.access call) rest)) (now : Datetime)
    (fault : Option Nat)
    (replied : (state.shared.stores.perform libraries settings now fault call).1 = some reply) :
    (service libraries settings).step state (.proceed thread (.proceeds now fault)) =
      some ⟨state.shared, Function.update state.threads thread (some (rest reply))⟩ := by
  have performed : state.shared.perform libraries settings (.proceeds now fault) (.access call) =
      some (some reply, state.shared) := by
    rcases reads with ⟨key, rfl⟩ | ⟨identity, rfl⟩
    all_goals
      change some ((state.shared.stores.perform libraries settings now fault _).1, _) = _
      rw [replied]
      rfl
  exact System.step_perform (service libraries settings) standing
    (show (service libraries settings).perform (.proceeds now fault) (.access call) state.shared = _
      from performed)

/-- A request leaves a flight that has ended with its response. -/
theorem Aboard.step {program : Pipeline Result}
    (aboard : Aboard libraries settings prepared journey program)
    (degrades : journey.response.Degrades)
    (past : FlightEnded state journey.key journey.future (.returned journey.response))
    (standing : state.threads thread = some program) (now : Datetime) (fault : Option Nat) :
    ∃ next, (service libraries settings).step state (.proceed thread (.proceeds now fault)) =
        some next ∧
      next.threads thread = some (degraded prepared journey.response >>= finish) ∧
        next.shared.fetched = state.shared.fetched := by
  cases aboard with
  | leads continues =>
      have performed : state.shared.perform libraries settings (.proceeds now fault)
          (.coalesce journey.key (.releasing journey.future (.returned journey.response))) =
            some (some (.led journey.future (.returned journey.response)),
              { state.shared with table := state.shared.table.release journey.key }) := rfl
      refine ⟨_, System.step_perform (service libraries settings) standing
        (show (service libraries settings).perform (.proceeds now fault) _ state.shared = _
          from performed), ?_, rfl⟩
      rw [← continues.degraded degrades true]
      exact Function.update_self ..
  | waits continues =>
      have performed : state.shared.perform libraries settings (.proceeds now fault)
          (.coalesce journey.key (.waiting journey.future)) =
            some (some (.shared journey.future (.returned journey.response)), state.shared) := by
        unfold World.perform World.advance Coalesce.advance
        dsimp only
        rw [past.stored]
        rfl
      refine ⟨_, System.step_perform (service libraries settings) standing
        (show (service libraries settings).perform (.proceeds now fault) _ state.shared = _
          from performed), ?_, rfl⟩
      rw [← continues.degraded degrades false]
      exact Function.update_self ..

variable (plain : PlainDigest libraries) (injective : Function.Injective libraries.sha256)
  (faithful : ∀ payload, Faithful libraries payload)
  (aliases : settings.collectorWarmAliasVersions = [])
  (asks : Asks libraries settings prepared.cacheKey prepared.identity prepared.call)
  (degrades : journey.response.Degrades)
include plain injective faithful aliases asks degrades

/-- A step of the request brings it closer to its answer. -/
theorem Serving.step {program : Pipeline Result} {next : Service} {now : Datetime}
    {fault : Option Nat}
    (serving : Serving libraries settings prepared journey state.shared.fetched program)
    (ready : state.shared.Ready libraries settings prepared.identity)
    (past : FlightEnded state journey.key journey.future (.returned journey.response))
    (standing : state.threads thread = some program)
    (moved : (service libraries settings).step state (.proceed thread (.proceeds now fault)) =
      some next) :
    ∃ program, next.threads thread = some program ∧
      Serving libraries settings prepared journey next.shared.fetched program := by
  cases serving with
  | aboard aboard =>
      obtain ⟨other, stepped, after, _⟩ := aboard.step degrades past standing now fault
      obtain rfl := Option.some.inj (stepped.symm.trans moved)
      exact ⟨_, after, .stale⟩
  | stale =>
      obtain ⟨reply, read, returned⟩ := getStale_returned plain aliases asks ready.held
      obtain rfl := Option.some.inj
        ((step_read (.inl ⟨_, rfl⟩) standing now fault read).symm.trans moved)
      refine ⟨_, Function.update_self .., ?_⟩
      cases reply with
      | none => exact .archive
      | some body => exact .served body .stale (.inl rfl) (returned body rfl)
  | archive =>
      obtain ⟨body, read, nonempty, returned⟩ := getLatestPayload_returned injective faithful ready
        state.shared.stores.files
      rw [degradedAnswer_finish] at standing
      obtain rfl := Option.some.inj
        ((step_read (.inr ⟨_, rfl⟩) standing now fault read).symm.trans moved)
      refine ⟨_, Function.update_self .., ?_⟩
      rw [fallback_nonempty journey.response.status nonempty]
      exact .served body .archiveFallback (.inr rfl) returned
  | served =>
      obtain ⟨_, _, _, found, _⟩ := System.step_proceed _ moved
      rw [standing] at found
      cases found

end Serve

section Runs

/-- The history grows by the answers of ESI alone. -/
theorem perform_fetched {world : World} {circumstance : Circumstance} {await : Await}
    {result : Option await.Reply × World}
    (performed : world.perform libraries settings circumstance await = some result) :
    result.2.fetched = world.fetched ∨ ∃ upstream fetch, circumstance = .answers upstream ∧
      fetch.upstream = upstream ∧ result.2.fetched = fetch :: world.fetched := by
  have advanced {key : PyStr} {phase : Flight} {event : Coalesce.Event EsiResponse Unit}
      {start : World} {history : List Fetched} {landed : Option Flight × World}
      (same : start.fetched = history) (moved : start.advance key phase event = some landed) :
      landed.2.fetched = history := by
    obtain ⟨_, _, rfl⟩ := Option.map_eq_some_iff.mp moved
    exact same
  cases await with
  | access call =>
      cases circumstance with
      | answers => cases performed
      | raises | cancelled =>
          cases performed
          exact .inl rfl
      | proceeds now fault =>
          cases performed
          refine .inl ?_
          change (World.record _ call _).fetched = _
          unfold World.record
          split <;> rfl
  | coalesce key phase =>
      cases circumstance with
      | proceeds | cancelled => exact .inl (advanced rfl performed)
      | answers | raises => cases performed
  | lead key future call etag =>
      cases circumstance with
      | proceeds => cases performed
      | raises | cancelled => exact .inl (advanced rfl performed)
      | answers upstream =>
          let fetch : Fetched := ⟨call, etag, upstream⟩
          exact .inr ⟨upstream, fetch, rfl, rfl,
            advanced (show (world.log fetch).fetched = fetch :: world.fetched from rfl) performed⟩
  | fetch call etag =>
      cases circumstance with
      | proceeds => cases performed
      | raises | cancelled =>
          cases performed
          exact .inl rfl
      | answers upstream =>
          cases performed
          exact .inr ⟨upstream, ⟨call, etag, upstream⟩, rfl, rfl, rfl⟩

theorem step_fetched {state next : Service} {action : ServiceAction}
    (moved : (service libraries settings).step state action = some next) :
    next.shared.fetched = state.shared.fetched ∨ ∃ thread upstream fetch,
      action = .proceed thread (.answers upstream) ∧ fetch.upstream = upstream ∧
        next.shared.fetched = fetch :: state.shared.fetched := by
  cases action with
  | start thread task =>
      obtain ⟨_, rfl⟩ := System.step_start _ moved
      exact .inl rfl
  | outside event =>
      cases moved
      cases event <;> exact .inl rfl
  | proceed thread circumstance =>
      obtain ⟨await, rest, result, found, performed, rfl⟩ := System.step_proceed _ moved
      rcases perform_fetched performed with same | ⟨upstream, fetch, rfl, sent, same⟩
      · exact .inl same
      · exact .inr ⟨thread, upstream, fetch, rfl, sent, same⟩

/-- ESI answers an array or an object with status 200, and clients send decoded text. -/
def AnswersJson (libraries : Libraries) : Service → ServiceAction → Prop
  | _, .start _ (.proxy request) => request.Decoded
  | _, .proceed _ (.answers upstream) => ∀ method etag,
      (respond libraries method etag upstream).status = 200 →
        Structured libraries (respond libraries method etag upstream).body
  | _, _ => True

theorem SendsJson.seen {state : Service} {action : EsiAction} {other : ServiceAction}
    (sends : SendsJson libraries settings parsedate state action)
    (seen : sees settings parsedate state action = some other) : AnswersJson libraries state other := by
  cases other with
  | outside event => trivial
  | start thread task =>
      cases task with
      | collect job => trivial
      | proxy request =>
          obtain rfl := sees_start seen
          exact sends
  | proceed thread circumstance =>
      cases circumstance with
      | proceeds | raises | cancelled => trivial
      | answers upstream =>
          obtain ⟨breaker, answers, rfl, found⟩ := sees_answers seen
          exact fun method etag => sends method etag _
            ((fetch_returned settings libraries parsedate).mpr ⟨upstream, found, rfl⟩)

/-- ESI sends only unmarked bodies when it sends JSON. -/
theorem AnswersJson.credible {state : Service} {action : ServiceAction}
    (sends : AnswersJson libraries state action) : Plausible libraries settings state action := by
  cases action with
  | start thread task =>
      cases task with
      | proxy request => exact sends
      | collect job => trivial
  | outside event => trivial
  | proceed thread circumstance =>
      cases circumstance with
      | answers upstream => exact fun method etag ok => (sends method etag ok).unmarked
      | proceeds | raises | cancelled => trivial

theorem guarded_structured {state : Service}
    (reached : ((service libraries settings).machine World.Fresh).Guarded (AnswersJson libraries)
      state) :
    ∀ fetch ∈ state.shared.fetched, (fetch.response libraries).status = 200 →
      Structured libraries (fetch.response libraries).body := by
  refine reached.invariant (fun state => ∀ fetch ∈ state.shared.fetched,
    (fetch.response libraries).status = 200 →
      Structured libraries (fetch.response libraries).body) ?_ ?_
  · rintro state ⟨⟨_, _, _, fetched, _⟩, _⟩ fetch member
    rw [fetched] at member
    cases member
  · intro state action next holds sends moved fetch member ok
    rcases step_fetched moved with same | ⟨thread, upstream, new, rfl, rfl, same⟩
    · exact holds fetch (same ▸ member) ok
    · rw [same] at member
      rcases List.mem_cons.mp member with rfl | member
      · exact sends _ _ ok
      · exact holds fetch member ok

/-- An archived identity stays archived along a run. -/
theorem archived_later {identity : Identity} {guard : Service → ServiceAction → Prop}
    {state final : Service} (archived : Archived state.shared.stores.database identity)
    (later : (((service libraries settings).machine World.Fresh).after state).Guarded guard final) :
    Archived final.shared.stores.database identity := by
  refine later.invariant (fun state => Archived state.shared.stores.database identity) ?_ ?_
  · rintro state rfl
    exact archived
  · exact fun state action next holds _ moved => holds.kept (step_kept moved)

/-- In a run that sends JSON a snapshot of an identity was archived. -/
inductive AfterSnapshot (libraries : Libraries) (settings : Settings)
    (parsedate : PyStr → Option HttpDate) (identity : Identity) (state : Service) : Prop where
  | archived {before recorded : Service} {archiver : Nat} {now : Datetime} {fault : Option Nat}
      {observed : Observation} {rest : Bool → Pipeline Result}
      (reached : (esiMachine libraries settings parsedate).Guarded
        (SendsJson libraries settings parsedate) before)
      (archiving : before.threads archiver =
        some (.perform (.access (.writeSnapshot observed)) rest))
      (same : observed.identity = identity) (archives : observed.archiveType ≠ .none)
      (succeeded : (before.shared.stores.perform libraries settings now fault
        (.writeSnapshot observed)).1 = some true)
      (moved : (esiMachine libraries settings parsedate).step before
        (.proceed archiver (.proceeds now fault)) = some recorded)
      (later : ((esiMachine libraries settings parsedate).after recorded).Guarded
        (SendsJson libraries settings parsedate) state)

variable {identity : Identity}

/-- A run with an archived snapshot is a run that sends JSON. -/
theorem AfterSnapshot.reached {state : Service}
    (snapshot : AfterSnapshot libraries settings parsedate identity state) :
    (esiMachine libraries settings parsedate).Guarded (SendsJson libraries settings parsedate)
      state := by
  obtain ⟨reached, archiving, same, archives, succeeded, moved, later⟩ := snapshot
  rename_i before recorded archiver now fault observed rest
  have sends : SendsJson libraries settings parsedate before
      (.proceed archiver (.proceeds now fault)) := trivial
  exact (reached.step sends moved).continue later

/-- The archive holds something for the identity after the snapshot. -/
theorem AfterSnapshot.holds (plain : PlainDigest libraries)
    (injective : Function.Injective libraries.sha256) {state : Service}
    (snapshot : AfterSnapshot libraries settings parsedate identity state) :
    Archived state.shared.stores.database identity := by
  obtain ⟨reached, archiving, same, archives, succeeded, moved, later⟩ := snapshot
  have after := esi_after (fun _ _ _ sends seen => sends.seen seen) later
  refine archived_later ?_ after
  rename_i before recorded archiver now fault observed rest
  obtain ⟨cache, reachable⟩ := service_archive plain
    ((esi_guarded (fun _ _ _ sends seen => sends.seen seen) reached).mono
      fun state action sends => sends.credible)
  obtain ⟨other, run⟩ := transact_anyCache libraries fault
    (writeSnapshot libraries settings now observed) before.shared.stores.session cache
  have flag : (transact libraries fault (writeSnapshot libraries settings now observed)
      before.shared.stores.session).1 = true := Option.some.inj succeeded
  rw [flag] at run
  have archived := archived_of_transact injective reachable archives run
  have stepped : (service libraries settings).step before
      (.proceed archiver (.proceeds now fault)) = some recorded :=
    (esi_proceeds archiving now fault).symm.trans moved
  obtain ⟨_, _, _, found, performed, rfl⟩ := System.step_proceed _ stepped
  cases Option.some.inj (archiving.symm.trans found)
  cases performed
  rw [← same]
  exact archived

/-- After a snapshot the shared state can serve its identity. -/
theorem AfterSnapshot.ready (plain : PlainDigest libraries)
    (injective : Function.Injective libraries.sha256) {state : Service}
    (snapshot : AfterSnapshot libraries settings parsedate identity state) :
    state.shared.Ready libraries settings identity := by
  have whole : ((service libraries settings).machine World.Fresh).Guarded (AnswersJson libraries)
      state := esi_guarded (fun _ _ _ sends seen => sends.seen seen) snapshot.reached
  exact
    { held := guarded_holds plain
        (whole.mono fun state action sends => ⟨sends.credible, False.elim⟩)
      structured := guarded_structured whole
      archived := snapshot.holds plain injective }

/-- A snapshot stays archived along a run. -/
theorem AfterSnapshot.continue {state final : Service}
    (snapshot : AfterSnapshot libraries settings parsedate identity state)
    (onward : ((esiMachine libraries settings parsedate).after state).Guarded
      (SendsJson libraries settings parsedate) final) :
    AfterSnapshot libraries settings parsedate identity final := by
  obtain ⟨reached, archiving, same, archives, succeeded, moved, later⟩ := snapshot
  exact .archived reached archiving same archives succeeded moved (later.continue onward)

end Runs

/-- A request that passes the checks starts with its lookups. -/
theorem launch_accepted {request : Request} {prepared : Prepared}
    (accepted : prepare libraries settings request = .ok prepared) :
    (service libraries settings).launch (.proxy request) =
      (lookup libraries settings prepared >>= finish) := by
  change dispatch libraries settings request >>= finish = _
  unfold dispatch
  rw [accepted]

section Examples

/-- No task has a number, and a request under a key misses. -/
def misses (thread : Nat) (key : PyStr) (state : Service) : Bool :=
  (state.threads thread).isNone && state.shared.stores.redis.get serviceLibraries key = some none &&
    state.shared.stores.redis.getNegative key = none && (state.shared.table.inflight key).isNone

end Examples

end EveApiCache
