import EveApiCache.Construction.Archive.Read
import EveApiCache.Construction.Archive.Runs
import EveApiCache.Construction.Pipeline
import EveApiCache.Library.Concurrent

/-!
This file models any number of proxy requests and collector runs over one Redis, one archive and one
coalescer. Every await is a step of its own.
-/

namespace EveApiCache
open Effects StepMachine

/-- These are the stores that all tasks share. A transaction of the archive is a single step. -/
structure Stores where
  redis : Redis
  database : Database
  files : PyStr → Option Bytes

namespace Stores

def session (stores : Stores) : Session := ⟨stores.database, stores.database, stores.files, stores.redis⟩

def ofSession (session : Session) : Stores := ⟨session.cache, session.committed, session.files⟩

variable (libraries : Libraries) (settings : Settings)

/-- An archive write takes effect as a whole or not at all. -/
def transact (stores : Stores) (fault : Option Nat) (program : Transaction Unit) :
    Option Bool × Stores :=
  let result := EveApiCache.transact libraries fault program stores.session
  (some result.1, ofSession result.2)

/-- This function performs one call of a store, and an exception gives no reply. -/
def perform (now : Datetime) (fault : Option Nat) (stores : Stores) :
    (call : Access) → Option call.Reply × Stores
  | .get key => (stores.redis.get libraries key, stores)
  | .getNegative key => (some (stores.redis.getNegative key), stores)
  | .getEtag key => (some (stores.redis.getEtag key), stores)
  | .getStale key => (stores.redis.getStale libraries key, stores)
  | .restoreStale key _ => (stores.redis.getStale libraries key, stores)
  | .getTtl key => (some (stores.redis.getTtl key), stores)
  | .set key body ttl etag staleTtl =>
      (if stores.redis.setSucceeds ttl etag staleTtl then some () else none,
        { stores with redis := stores.redis.set libraries settings key body ttl etag staleTtl })
  | .setNegative key body status ttl =>
      (if stores.redis.accepts ttl then some () else none,
        { stores with redis := stores.redis.setNegative key body status ttl })
  | .writeSnapshot observed =>
      stores.transact libraries fault (writeSnapshot libraries settings now observed)
  | .writeNames datasource payload =>
      stores.transact libraries fault (writeNames libraries now datasource payload)
  | .getLatestPayload identity =>
      (getLatestPayload libraries stores.database stores.files identity, stores)

end Stores

/-- This is one completed fetch. -/
structure Fetched where
  call : UpstreamCall
  etag : Option PyStr
  upstream : Upstream

def Fetched.response (libraries : Libraries) (fetch : Fetched) : EsiResponse :=
  respond libraries fetch.call.method fetch.etag fetch.upstream

/-- This is one stale copy that was read after a 304. -/
structure Restored where
  key : PyStr
  etag : Option PyStr
  body : Bytes

/-- The tasks share the stores and `_inflight`. The other fields are not state of the program:
`current` is the ETag that ESI has for a call, and the two histories grow with each fetch and each
restored copy. -/
structure World where
  stores : Stores
  table : Coalesce.Table PyStr EsiResponse Unit
  current : UpstreamCall → Option PyStr
  fetched : List Fetched
  restored : List Restored

/-- An await proceeds at some time and may meet a fault, sees the answer of ESI, raises, or is
cancelled. -/
inductive Circumstance where
  | proceeds (now : Datetime) (fault : Option Nat)
  | answers (upstream : Upstream)
  | raises
  | cancelled

/-- A task is a request to the proxy or a run of the collector. -/
inductive Task where
  | proxy (request : Request)
  | collect (job : Job)

/-- Outside of the tasks time passes and ESI changes what it serves. -/
inductive Outside where
  | pass (milliseconds : Nat)
  | revise (call : UpstreamCall) (etag : Option PyStr)

/-- A task ends with the result of `proxy_request` or of `_fetch_and_store`. -/
inductive Result where
  | proxied (result : ProxyResult)
  | collected (stored : Bool)

namespace World

/-- Only the stale copy that a 304 restores enters the history. -/
def record (world : World) : (call : Access) → Option call.Reply → World
  | .restoreStale key etag, some (some body) =>
      { world with restored := ⟨key, etag, body⟩ :: world.restored }
  | _, _ => world

/-- This function is one step of one call of the coalescer. -/
def advance (world : World) (key : PyStr) (phase : Flight)
    (event : Coalesce.Event EsiResponse Unit) : Option (Option Flight × World) :=
  (Coalesce.advance world.table key phase event).map fun result =>
    (some result.2, { world with table := result.1 })

/-- This function adds a fetch to the history. -/
def log (world : World) (fetch : Fetched) : World := { world with fetched := fetch :: world.fetched }

variable (libraries : Libraries) (settings : Settings)

/-- This function performs one await. -/
def perform : Circumstance → (await : Await) → World → Option (Option await.Reply × World)
  | .proceeds now fault, .access call, world =>
      let result := world.stores.perform libraries settings now fault call
      some (result.1, { world with stores := result.2 }.record call result.1)
  | .raises, .access _, world => some (none, world)
  | .cancelled, .access _, world => some (none, world)
  | .proceeds _ _, .coalesce key phase, world => world.advance key phase .proceed
  | .cancelled, .coalesce key phase, world => world.advance key phase .cancel
  | .answers upstream, .lead key future call etag, world =>
      let fetch : Fetched := ⟨call, etag, upstream⟩
      (world.log fetch).advance key (.leading future) (.settle (.returned (fetch.response libraries)))
  | .raises, .lead key future _ _, world =>
      world.advance key (.leading future) (.settle (.raised ()))
  | .cancelled, .lead key future _ _, world =>
      world.advance key (.leading future) (.settle .cancelled)
  | .answers upstream, .fetch call etag, world =>
      let fetch : Fetched := ⟨call, etag, upstream⟩
      some (some (fetch.response libraries), world.log fetch)
  | .raises, .fetch _ _, world => some (none, world)
  | .cancelled, .fetch _ _, world => some (none, world)
  | _, _, _ => none

def outside : Outside → World → World
  | .pass milliseconds, world =>
      { world with stores := { world.stores with
          redis := { world.stores.redis with now := world.stores.redis.now + milliseconds } } }
  | .revise call etag, world => { world with current := Function.update world.current call etag }

end World

/-- The scheduler runs the collector for the default datasource. -/
def Task.launch (libraries : Libraries) (settings : Settings) : Task → Pipeline Result
  | .proxy request => do
      let result ← dispatch libraries settings request
      return .proxied result
  | .collect job => do
      let stored ← fetchAndStore libraries settings settings.defaultDatasource job
      return .collected stored

abbrev Service := Pool awaits Result World

abbrev ServiceAction := PoolAction Task Circumstance Outside

def service (libraries : Libraries) (settings : Settings) :
    System awaits Result World Task Circumstance Outside where
  launch := Task.launch libraries settings
  perform := World.perform libraries settings
  outside := World.outside

/-- No task has run yet, and the stores are empty. -/
def World.Fresh (world : World) : Prop :=
  (∃ now, world.stores.redis = .empty now) ∧ world.stores.database = .empty ∧
    world.table = .empty ∧ world.fetched = [] ∧ world.restored = []

end EveApiCache
