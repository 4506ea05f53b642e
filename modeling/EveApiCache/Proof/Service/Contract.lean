import EveApiCache.Proof.NoStrandedWaiter
import EveApiCache.Proof.Service.Keys

/-!
This file shows that a proxy request and a collector run keep to one contract: what they store was
fetched with status 200 for the key under which they store it.
-/

namespace EveApiCache
open Effects

variable (libraries : Libraries) (settings : Settings)

/-- A call is own when a request or a collector run asks for the key with it. -/
def Own (key : PyStr) (call : UpstreamCall) : Prop :=
  ∃ identity, Asks libraries settings key identity call

/-- The collector warms the alias keys of a job with the call of its canonical path. -/
def Warmed (key : PyStr) (call : UpstreamCall) : Prop :=
  ∃ job : Job, ∃ version ∈ settings.collectorWarmAliasVersions,
    key = job.key libraries settings.defaultDatasource (swapVersion job.path version) ∧
      call = job.call settings.defaultDatasource

def Serves (key : PyStr) (call : UpstreamCall) : Prop :=
  Own libraries settings key call ∨ Warmed libraries settings key call

/-- A flight under a key fetches for the key, or for the key that it refetches. -/
def Flies (key : PyStr) (call : UpstreamCall) : Prop :=
  Own libraries settings key call ∨
    ∃ base, key = refetchKey base ∧ Own libraries settings base call

/-- A body is backed when ESI sent it with status 200 for the key. In a paired history its ETag is
the one that ESI sent with it. -/
def Backed (paired : Prop) (history : List Fetched) (key : PyStr) (body : Bytes)
    (etag : Option PyStr) : Prop :=
  ∃ fetch ∈ history, (fetch.response libraries).status = 200 ∧
    (fetch.response libraries).body = body ∧ Serves libraries settings key fetch.call ∧
    (paired → etag.getD [] ≠ [] → (fetch.response libraries).etag = etag)

/-- These statuses are cached as errors. -/
def Negative (status : Nat) : Prop := 400 ≤ status ∧ status < 500 ∧ status ≠ 420 ∧ status ≠ 429

/-- ESI refused the call of a key with this status and body. -/
def Refused (history : List Fetched) (key : PyStr) (body : Bytes) (status : Nat) : Prop :=
  Negative status ∧ ∃ fetch ∈ history, (fetch.response libraries).status = status ∧
    (fetch.response libraries).body = body ∧ Own libraries settings key fetch.call

/-- ESI sent this body with status 200 to a call that asks for the identity. -/
def Observed (history : List Fetched) (identity : Identity) (payload : Bytes) : Prop :=
  ∃ fetch ∈ history, (fetch.response libraries).status = 200 ∧
    (fetch.response libraries).body = payload ∧
    ∃ key, Asks libraries settings key identity fetch.call

def Flown (history : List Fetched) (key : PyStr) (response : EsiResponse) : Prop :=
  ∃ fetch ∈ history, fetch.response libraries = response ∧ Flies libraries settings key fetch.call

/-- This is the response that a flight has brought. -/
def arrival : Flight → Option EsiResponse
  | .releasing _ (.returned response) => some response
  | .led _ (.returned response) => some response
  | .shared _ (.returned response) => some response
  | _ => none

def Arrived (history : List Fetched) (key : PyStr) (phase : Flight) : Prop :=
  ∀ response, arrival phase = some response → Flown libraries settings history key response

/-- A flight moves on by a step of the coalescer. -/
def Moves (phase next : Flight) : Prop :=
  ∃ (table after : Coalesce.Table PyStr EsiResponse Unit) (key : PyStr)
    (event : Coalesce.Event EsiResponse Unit),
    Coalesce.advance table key phase event = some (after, next)

/-- The leader of a flight comes back with the answer to its own call. -/
def Led (history : List Fetched) (future : Nat) (call : UpstreamCall) (etag : Option PyStr)
    (phase : Flight) : Prop :=
  ∃ outcome, phase = .releasing future outcome ∧ ∀ response, outcome = .returned response →
    ∃ fetch ∈ history, fetch.call = call ∧ fetch.etag = etag ∧ fetch.response libraries = response

def Owed (paired : Prop) (history : List Fetched) : Await → Prop
  | .access (.set key body _ etag _) => Backed libraries settings paired history key body etag
  | .access (.setNegative key body status _) => Refused libraries settings history key body status
  | .access (.writeSnapshot observed) => observed.httpStatus = 200 ∧
      observed.contentHash = libraries.sha256 observed.payload ∧
      Observed libraries settings history observed.identity observed.payload
  | .access _ => True
  | .coalesce key phase => Arrived libraries settings history key phase
  | .lead key _ call _ => Flies libraries settings key call
  | .fetch _ _ => True

def Provided (paired : Prop) (history : List Fetched) : (await : Await) → await.Reply → Prop
  | .access (.restoreStale key etag), reply => ∀ body, reply = some body →
      Backed libraries settings paired history key body etag
  | .access _, _ => True
  | .coalesce key phase, next =>
      Arrived libraries settings history key next ∧ Moves phase next
  | .lead _ future call etag, next => Led libraries history future call etag next
  | .fetch call etag, response => ∃ fetch ∈ history, fetch.call = call ∧ fetch.etag = etag ∧
      fetch.response libraries = response

/-- This is the contract between the tasks. -/
def serviceContract (paired : Prop) : Contract awaits (List Fetched) where
  mayFail := True
  grows before after := before ⊆ after
  grows_refl _ := List.Subset.refl _
  grows_trans := List.Subset.trans
  requires := Owed libraries settings paired
  provides := Provided libraries settings paired

variable {libraries settings} {paired : Prop}

theorem Backed.mono {before after : List Fetched} {key : PyStr} {body : Bytes}
    {etag : Option PyStr} (backed : Backed libraries settings paired before key body etag)
    (grown : before ⊆ after) : Backed libraries settings paired after key body etag := by
  obtain ⟨fetch, member, facts⟩ := backed
  exact ⟨fetch, grown member, facts⟩

theorem Refused.mono {before after : List Fetched} {key : PyStr} {body : Bytes} {status : Nat}
    (refused : Refused libraries settings before key body status) (grown : before ⊆ after) :
    Refused libraries settings after key body status := by
  obtain ⟨negative, fetch, member, facts⟩ := refused
  exact ⟨negative, fetch, grown member, facts⟩

theorem Flown.mono {before after : List Fetched} {key : PyStr} {response : EsiResponse}
    (flown : Flown libraries settings before key response) (grown : before ⊆ after) :
    Flown libraries settings after key response := by
  obtain ⟨fetch, member, facts⟩ := flown
  exact ⟨fetch, grown member, facts⟩

theorem Observed.mono {before after : List Fetched} {identity : Identity} {payload : Bytes}
    (observed : Observed libraries settings before identity payload) (grown : before ⊆ after) :
    Observed libraries settings after identity payload := by
  obtain ⟨fetch, member, facts⟩ := observed
  exact ⟨fetch, grown member, facts⟩

/-- A call of a store is the next step of its program. -/
theorem access_bind {A : Type} (call : Access) (next : call.Reply → Pipeline A) :
    access call >>= next = .perform (.access call) next := rfl

theorem moves_waiting {future : Nat} {next : Flight} (moves : Moves (.waiting future) next) :
    ∃ outcome, next = .shared future outcome := by
  obtain ⟨table, after, key, event, moved⟩ := moves
  cases Coalesce.advance_move moved with
  | wake | leave => exact ⟨_, rfl⟩

theorem moves_releasing {future : Nat} {outcome : Coalesce.Outcome EsiResponse Unit}
    {next : Flight} (moves : Moves (.releasing future outcome) next) :
    next = .led future outcome := by
  obtain ⟨table, after, key, event, moved⟩ := moves
  cases Coalesce.advance_move moved with
  | release => rfl

/-- A caller of the coalescer learns the response of a flight under its key, and a leader that its
own fetch brought it. -/
def Landed (libraries : Libraries) (settings : Settings) (key : PyStr) (etag : Option PyStr)
    (history : List Fetched) (result : EsiResponse × Bool) : Prop :=
  Flown libraries settings history key result.1 ∧ (result.2 = true →
    ∃ fetch ∈ history, fetch.etag = etag ∧ fetch.response libraries = result.1)

theorem settled_safe {key : PyStr} {etag : Option PyStr} {leader : Bool}
    {outcome : Coalesce.Outcome EsiResponse Unit} {history : List Fetched}
    (landed : ∀ response, outcome = .returned response →
      Landed libraries settings key etag history (response, leader)) :
    (settled leader outcome).Safe (serviceContract libraries settings paired)
      (Landed libraries settings key etag) history := by
  cases outcome with
  | returned response =>
      refine Program.safe_done fun later grown => ?_
      obtain ⟨flown, own⟩ := landed response rfl
      refine ⟨flown.mono grown, fun leads => ?_⟩
      obtain ⟨fetch, member, facts⟩ := own leads
      exact ⟨fetch, grown member, facts⟩
  | raised | cancelled => trivial

theorem coalesce_safe {key : PyStr} {call : UpstreamCall} (etag : Option PyStr)
    (history : List Fetched) (flies : Flies libraries settings key call) :
    (coalesce key call etag).Safe (serviceContract libraries settings paired)
      (Landed libraries settings key etag) history := by
  refine Program.safe_perform (fun _ _ => nofun) fun joinedAt phase _ learned => ?_
  cases phase with
  | leading future =>
      refine Program.safe_perform (fun _ _ => flies) fun fetchedAt phase _ led => ?_
      obtain ⟨outcome, rfl, own⟩ := led
      have flown (later : List Fetched) (grown : fetchedAt ⊆ later) (response : EsiResponse)
          (returned : outcome = .returned response) :
          Landed libraries settings key etag later (response, true) := by
        obtain ⟨fetch, member, rfl, rfl, answers⟩ := own response returned
        exact ⟨⟨fetch, grown member, answers, flies⟩, fun _ => ⟨fetch, grown member, rfl, answers⟩⟩
      refine Program.safe_perform (fun later grown response arrived => ?_)
        fun later phase grown learned => ?_
      · cases outcome with
        | returned value =>
            cases arrived
            exact (flown later grown _ rfl).1
        | raised | cancelled => cases arrived
      · obtain rfl := moves_releasing learned.2
        exact settled_safe (flown later grown)
  | waiting future =>
      refine Program.safe_perform (fun _ _ => nofun) fun later phase _ learned => ?_
      obtain ⟨outcome, rfl⟩ := moves_waiting learned.2
      refine settled_safe fun response returned => ⟨learned.1 response ?_, nofun⟩
      rw [returned]
      rfl
  | joining | releasing | led | shared | abandoned => trivial

/-- A response was sent to a call of the key itself. -/
def Sent (libraries : Libraries) (settings : Settings) (history : List Fetched) (key : PyStr)
    (response : EsiResponse) : Prop :=
  ∃ fetch ∈ history, fetch.response libraries = response ∧ Own libraries settings key fetch.call

theorem Sent.mono {before after : List Fetched} {key : PyStr} {response : EsiResponse}
    (sent : Sent libraries settings before key response) (grown : before ⊆ after) :
    Sent libraries settings after key response := by
  obtain ⟨fetch, member, facts⟩ := sent
  exact ⟨fetch, grown member, facts⟩

/-- What flies under the key of a request was sent to that key. -/
theorem Flown.sent (plain : PlainDigest libraries) {history : List Fetched} {key : PyStr}
    {call : UpstreamCall} {response : EsiResponse} (own : Own libraries settings key call)
    (flown : Flown libraries settings history key response) :
    Sent libraries settings history key response := by
  obtain ⟨fetch, member, answers, flies | ⟨base, same, _⟩⟩ := flown
  · exact ⟨fetch, member, answers, flies⟩
  · obtain ⟨identity, asks⟩ := own
    exact absurd same (asks.not_refetch plain base)

/-- What flies under the refetch key of a request was sent to its key. -/
theorem Flown.refetched (plain : PlainDigest libraries) {history : List Fetched} {key : PyStr}
    {response : EsiResponse} (flown : Flown libraries settings history (refetchKey key) response) :
    Sent libraries settings history key response := by
  obtain ⟨fetch, member, answers, ⟨identity, asks⟩ | ⟨base, same, own⟩⟩ := flown
  · exact absurd rfl (asks.not_refetch plain key)
  · rw [List.append_cancel_right same]
    exact ⟨fetch, member, answers, own⟩

/-- The leader of a 304 sent the ETag that the response keeps. -/
theorem etagOr_kept {history : List Fetched} {response : EsiResponse} {stored : Option PyStr}
    (own : ∃ fetch ∈ history, fetch.etag = stored ∧ fetch.response libraries = response)
    (stale : response.notModified = true) : etagOr response.etag stored = response.etag := by
  obtain ⟨fetch, _, rfl, rfl⟩ := own
  have kept := (respond_notModified libraries fetch.call.method fetch.etag fetch.upstream stale).1
  unfold etagOr
  split_ifs
  · exact kept.symm
  · rfl

section Proxy
variable {prepared : Prepared}

theorem Sent.backed {history : List Fetched} {response : EsiResponse} {key : PyStr}
    (sent : Sent libraries settings history key response) (ok : response.status = 200) :
    Backed libraries settings paired history key response.body response.etag := by
  obtain ⟨fetch, member, rfl, own⟩ := sent
  exact ⟨fetch, member, ok, rfl, .inl own, fun _ _ => rfl⟩

theorem Sent.observed (plain : PlainDigest libraries) {history : List Fetched}
    {response : EsiResponse} {key : PyStr} {identity : Identity} {call : UpstreamCall}
    (asks : Asks libraries settings key identity call)
    (sent : Sent libraries settings history key response) (ok : response.status = 200) :
    Observed libraries settings history identity response.body := by
  obtain ⟨fetch, member, rfl, other, own⟩ := sent
  rw [asks.identity_unique plain own]
  exact ⟨fetch, member, ok, rfl, key, own⟩

variable (plain : PlainDigest libraries)
  (asks : Asks libraries settings prepared.cacheKey prepared.identity prepared.call)
include plain asks

theorem archiveResponse_safe {history : List Fetched} {response : EsiResponse}
    (sent : Sent libraries settings history prepared.cacheKey response)
    (ok : response.status = 200) :
    (archiveResponse libraries prepared response).Safe (serviceContract libraries settings paired)
      (fun _ _ => True) history := by
  have names (recorded : Bool) (later : List Fetched) :
      (recordNames prepared response recorded).Safe (serviceContract libraries settings paired)
        (fun _ _ => True) later := by
    cases recorded with
    | false => exact Program.safe_done fun _ _ => trivial
    | true =>
        unfold recordNames
        split_ifs
        · exact Program.safe_perform (fun _ _ => trivial) fun _ _ _ _ =>
            Program.safe_done fun _ _ => trivial
        · exact Program.safe_done fun _ _ => trivial
  unfold archiveResponse recordResponse
  split_ifs
  · exact names true history
  · rw [access_bind]
    refine Program.safe_perform (fun later grown => ?_) fun later recorded _ _ => names recorded later
    exact ⟨rfl, rfl, (sent.mono grown).observed plain asks ok⟩

theorem answered_safe {history : List Fetched} {response : EsiResponse} (leader : Bool)
    (sent : Sent libraries settings history prepared.cacheKey response) :
    (answered libraries settings prepared response leader).Safe
      (serviceContract libraries settings paired) (fun _ _ => True) history := by
  unfold answered
  split_ifs with ok down redirect
  · cases leader with
    | false => exact Program.safe_done fun _ _ => trivial
    | true =>
        refine Program.safe_perform (fun later grown => (sent.mono grown).backed ok)
          fun later _ grown _ => ?_
        refine (archiveResponse_safe plain asks (sent.mono grown) ok).bind fun _ _ _ _ => ?_
        exact Program.safe_done fun _ _ => trivial
  · refine Program.safe_perform (fun _ _ => trivial) fun later stale _ _ => ?_
    cases stale with
    | some body => exact Program.safe_done fun _ _ => trivial
    | none =>
        exact Program.safe_perform (fun _ _ => trivial) fun _ _ _ _ =>
          Program.safe_done fun _ _ => trivial
  · exact Program.safe_done fun _ _ => trivial
  · unfold cacheNegative
    split_ifs with negative
    · rw [access_bind]
      refine Program.safe_perform (fun later grown => ?_) fun _ _ _ _ =>
        Program.safe_done fun _ _ => trivial
      obtain ⟨fetch, member, rfl, own⟩ := sent.mono grown
      refine ⟨⟨negative.1, negative.2.1, ?_, negative.2.2.1⟩, fetch, member, rfl, rfl, own⟩
      exact fun throttled => down (.inl throttled)
    · exact Program.safe_done fun _ _ => trivial

theorem revalidated_safe {history : List Fetched} {stored : Option PyStr} {response : EsiResponse}
    (leader : Bool) (restored : Option Bytes)
    (own : leader = true → ∃ fetch ∈ history, fetch.etag = stored ∧
      fetch.response libraries = response)
    (stale : response.notModified = true)
    (backed : ∀ body, restored = some body →
      Backed libraries settings paired history prepared.cacheKey body response.etag) :
    (revalidated libraries settings prepared stored response leader restored).Safe
      (serviceContract libraries settings paired) (fun _ _ => True) history := by
  cases restored with
  | none =>
      refine (coalesce_safe none history (.inr ⟨prepared.cacheKey, rfl, _, asks⟩)).bind
        fun later again _ landed => ?_
      exact answered_safe plain asks again.2 (landed.1.refetched plain)
  | some body =>
      have lifetime : (restoredTtl prepared response.maxAge).Safe
          (serviceContract libraries settings paired) (fun _ _ => True) history := by
        cases response.maxAge with
        | some maxAge => exact Program.safe_done fun _ _ => trivial
        | none =>
            exact Program.safe_perform (fun _ _ => trivial) fun _ _ _ _ =>
              Program.safe_done fun _ _ => trivial
      refine lifetime.bind fun later ttl grown _ => ?_
      cases leader with
      | false => exact Program.safe_done fun _ _ => trivial
      | true =>
          refine Program.safe_perform (fun last further => ?_) fun _ _ _ _ =>
            Program.safe_done fun _ _ => trivial
          rw [etagOr_kept (own rfl) stale]
          exact (backed body rfl).mono (List.Subset.trans grown further)

theorem lookup_safe (history : List Fetched) :
    (lookup libraries settings prepared).Safe (serviceContract libraries settings paired)
      (fun _ _ => True) history := by
  refine Program.safe_perform (fun _ _ => trivial) fun _ cached _ _ => ?_
  cases cached with
  | some hit => exact Program.safe_done fun _ _ => trivial
  | none =>
      refine Program.safe_perform (fun _ _ => trivial) fun _ negative _ _ => ?_
      cases negative with
      | some hit => exact Program.safe_done fun _ _ => trivial
      | none =>
          refine Program.safe_perform (fun _ _ => trivial) fun started stored _ _ => ?_
          refine (coalesce_safe stored started (.inl ⟨_, asks⟩)).bind fun landedAt result _ landed =>
            ?_
          obtain ⟨flown, own⟩ := landed
          unfold fetched
          split_ifs with stale
          · refine Program.safe_perform (fun _ _ => trivial) fun later restored grown backed => ?_
            refine revalidated_safe plain asks result.2 restored (fun leads => ?_) stale backed
            obtain ⟨fetch, member, facts⟩ := own leads
            exact ⟨fetch, grown member, facts⟩
          · exact answered_safe plain asks result.2 (flown.sent plain ⟨_, asks⟩)

end Proxy

section Collector
variable (plain : PlainDigest libraries) (job : Job)

theorem warmAliases_safe {history : List Fetched} {response : EsiResponse} (versions : List PyStr)
    (known : versions ⊆ settings.collectorWarmAliasVersions)
    (sent : ∃ fetch ∈ history, fetch.call = job.call settings.defaultDatasource ∧
      fetch.response libraries = response) (ok : response.status = 200) :
    (warmAliases libraries settings settings.defaultDatasource job response versions).Safe
      (serviceContract libraries settings paired) (fun _ _ => True) history := by
  induction versions generalizing history with
  | nil => exact Program.safe_done fun _ _ => trivial
  | cons version rest ih =>
      have tail := fun other member => known (List.mem_cons_of_mem version (a := other) member)
      unfold warmAliases
      split_ifs
      · exact ih tail sent
      · refine Program.safe_perform (fun later grown => ?_) fun later _ grown _ => ?_
        · obtain ⟨fetch, member, call, rfl⟩ := sent
          exact ⟨fetch, grown member, ok, rfl,
            .inr ⟨job, version, known (by simp), rfl, call⟩, fun _ _ => rfl⟩
        · obtain ⟨fetch, member, facts⟩ := sent
          exact ih tail ⟨fetch, grown member, facts⟩

theorem fetchAndStore_safe (history : List Fetched) :
    (fetchAndStore libraries settings settings.defaultDatasource job).Safe
      (serviceContract libraries settings paired) (fun _ _ => True) history := by
  refine Program.safe_perform (fun _ _ => trivial) fun started response _ answered => ?_
  obtain ⟨fetch, member, call, _, answers⟩ := answered
  change (collected libraries settings settings.defaultDatasource job response).Safe _ _ started
  unfold collected
  split_ifs with failed
  · exact Program.safe_done fun _ _ => trivial
  have ok : response.status = 200 := not_not.mp failed
  have own : Asks libraries settings (job.key libraries settings.defaultDatasource job.path)
      ⟨settings.defaultDatasource, job.path, computeQueryHash libraries job.params none⟩ fetch.call :=
    call ▸ .collect job
  refine Program.safe_perform (fun later grown => ?_) fun later _ grown _ => ?_
  · exact ⟨fetch, grown member, answers ▸ ok, by rw [answers], .inl ⟨_, own⟩,
      fun _ _ => by rw [answers]⟩
  refine (warmAliases_safe job settings.collectorWarmAliasVersions (List.Subset.refl _)
    ⟨fetch, grown member, call, answers⟩ ok).bind fun warmedAt _ further _ => ?_
  refine Program.safe_perform (fun last kept => ⟨rfl, rfl, ?_⟩) fun _ _ _ _ =>
    Program.safe_done fun _ _ => trivial
  exact ⟨fetch, kept (further (grown member)), answers ▸ ok, by rw [answers]; rfl, _, own⟩

end Collector

/-- A task starts a safe program. -/
theorem launch_safe (plain : PlainDigest libraries) (task : Task)
    (decoded : ∀ request, task = .proxy request → request.Decoded) (history : List Fetched) :
    (task.launch libraries settings).Safe (serviceContract libraries settings paired)
      (fun _ _ => True) history := by
  cases task with
  | collect job =>
      exact (fetchAndStore_safe job history).bind fun _ _ _ _ => Program.safe_done fun _ _ => trivial
  | proxy request =>
      have served : (dispatch libraries settings request).Safe
          (serviceContract libraries settings paired) (fun _ _ => True) history := by
        unfold dispatch
        split
        · exact Program.safe_done fun _ _ => trivial
        · rename_i prepared accepted
          exact lookup_safe plain (.proxy (decoded request rfl) accepted) history
      exact served.bind fun _ _ _ _ => Program.safe_done fun _ _ => trivial

end EveApiCache
