import EveApiCache.Construction.Archive.Write
import EveApiCache.Library.StepMachine

/-!
This file models runs of archive calls. A call that fails is rolled back by its caller.
-/

namespace EveApiCache
open Effects StepMachine

/-- A caller rolls back a transaction that fails, and closing a session rolls back what is open. -/
def transact (libraries : Libraries) {A : Type} (fault : Option Nat) (program : Transaction A)
    (session : Session) : Bool × Session :=
  match program.run (execute libraries) fault session with
  | .finished _ final => (true, final.rollback)
  | .failed final => (false, final.rollback)

/-- Both callers compute the content hash from the payload. -/
def Observation.hashed (libraries : Libraries) (observed : Observation) : Observation :=
  { observed with contentHash := libraries.sha256 observed.payload }

/-- A call of the archive meets a fault at some statement or none. -/
inductive ArchiveCall where
  | snapshot (now : Datetime) (observed : Observation) (fault : Option Nat)
  | names (now : Datetime) (datasource : PyStr) (payload : Bytes) (fault : Option Nat)

def ArchiveCall.transact (libraries : Libraries) (settings : Settings) (session : Session) :
    ArchiveCall → Bool × Session
  | .snapshot now observed fault => EveApiCache.transact libraries fault
      (writeSnapshot libraries settings now (observed.hashed libraries)) session
  | .names now datasource payload fault => EveApiCache.transact libraries fault
      (writeNames libraries now datasource payload) session

/-- A call of `write_snapshot` may bring any content hash. -/
structure SnapshotCall where
  now : Datetime
  observed : Observation
  fault : Option Nat

def SnapshotCall.transact (libraries : Libraries) (settings : Settings) (session : Session)
    (call : SnapshotCall) : Bool × Session :=
  EveApiCache.transact libraries call.fault (writeSnapshot libraries settings call.now call.observed)
    session

/-- This is the session after some calls, of which each may fail. -/
def transactAll (libraries : Libraries) (settings : Settings) (session : Session)
    (calls : List SnapshotCall) : Session :=
  calls.foldl (fun session call => (call.transact libraries settings session).2) session

/-- The archive starts empty and runs one call after the other. -/
def archiveMachine (libraries : Libraries) (settings : Settings) : Machine Session ArchiveCall where
  initial session := session.committed = .empty ∧ session.Idle
  step session call := some (call.transact libraries settings session).2

end EveApiCache
