import WorkQueue.Notice
import WorkQueue.Program

namespace WorkQueue

inductive StoreCall
  | insert (items : List Item)
  | claim (limit : UInt32)
  | release (ids : List ItemId)
  | delete (id : ItemId) (status : Status)
  | demote (id : ItemId)
  /-- Rows in processing for longer than `timeout` to retry. -/
  | recover (timeout : Duration) (limit : UInt32)
  /-- Rows in retry for at least `delay`, with attempts left, to ready. -/
  | requeue (delay : Duration) (limit : UInt32)
  | discard (limit : UInt32)
  | complete (id : ItemId)
  | expireCompleted (expiry : Duration) (limit : UInt32)
  | recordFailures (rows : List Failure)
  | expireBroken (expiry : Duration) (limit : UInt32)
  | purge (ids : List ItemId)
deriving DecidableEq

/-- Guarded writes answer with the number of rows they changed, batches with the items they took. -/
def StoreCall.Answer : StoreCall → Type
  | insert _ | complete _ | recordFailures _ => Unit
  | release _ | delete .. | demote _ | purge _ => UInt64
  | claim _ | recover .. | requeue .. | discard _ | expireCompleted .. | expireBroken .. =>
    List ItemId

structure Archives where
  completed : Bool
  broken : Bool
deriving DecidableEq

inductive QueueRequest (X : Effects)
  | begin
  | store (c : StoreCall)
  | commit
  | rollback
  | emit (e : Event)
  | note (n : Notice)
  | app (r : X.Request)

def QueueRequest.Answer {X : Effects} : QueueRequest X → Type
  | begin | commit | rollback => Except StoreError Unit
  | store c => Except StoreError c.Answer
  | emit _ | note _ => Unit
  | app r => X.Answer r

def queueEffects (X : Effects) : Effects := ⟨QueueRequest X, QueueRequest.Answer⟩

inductive HookRequest (X : Effects)
  | store (c : StoreCall)
  | app (r : X.Request)

def HookRequest.Answer {X : Effects} : HookRequest X → Type
  | store c => Except StoreError c.Answer
  | app r => X.Answer r

def hookEffects (X : Effects) : Effects := ⟨HookRequest X, HookRequest.Answer⟩

abbrev Hook (X : Effects) := Program (hookEffects X) (Except Cause Unit)

def HookRequest.toQueue {X : Effects} : (r : HookRequest X) → Program (queueEffects X) r.Answer
  | store c => .ask (.store c) .done
  | app r => .ask (.app r) .done

abbrev Operation (X : Effects) := ExceptT QueueError (Program (queueEffects X))

namespace Operation

variable {X : Effects} {α : Type}

def request (r : QueueRequest X) : Program (queueEffects X) r.Answer := .ask r .done

def emit (a : Activity) (data : EventData) : Operation X Unit :=
  ExceptT.lift (request (.emit (.of a data)))

def emitCount (a : Activity) (n : Nat) : Operation X Unit := emit a (.count (UInt64.ofNat n))

def note (n : Notice) : Operation X Unit := ExceptT.lift (request (.note n))

def attempt {ε : Type} (p : Program (queueEffects X) (Except ε α)) (f : ε → QueueError) :
    Operation X α :=
  ExceptT.mk do return (← p).mapError f

def store (subject : Subject) (c : StoreCall) : Operation X c.Answer :=
  attempt (request (.store c)) (.storage subject)

def begin : Operation X Unit := attempt (request .begin) (.storage .table)

def commit : Operation X Unit := attempt (request .commit) (.storage .table)

def rollback (cause : QueueError) : Operation X α :=
  ExceptT.mk do
    match ← request .rollback with
    | .ok () => return .error cause
    | .error again =>
      request (.note (.rollbackFailed cause again))
      return .error cause

def runHook (subject : Subject) (hook : Hook X) : Operation X Unit :=
  attempt (hook.mapRequests HookRequest.toQueue) (.preCommit subject)

def outcome (op : Operation X α) : Operation X (Except QueueError α) := ExceptT.lift op.run

def ofOutcome (result : Except QueueError α) : Operation X α := ExceptT.mk (pure result)

/-- Runs `body` in one unit of work: committed if it succeeds, rolled back if it fails. -/
def inUnit (body : Operation X α) : Operation X α := do
  begin
  match ← outcome body with
  | .ok value =>
    commit
    return value
  | .error cause => rollback cause

def check (result : Except InputFault Unit) : Operation X Unit :=
  match result with
  | .ok () => pure ()
  | .error fault => throw (.invalidInput fault)

def checkLimit (limit : UInt32) : Operation X Unit :=
  if limit == 0 then throw (.invalidInput .zeroLimit) else pure ()

def checkId (id : ItemId) : Operation X Unit :=
  if id.isZero then throw (.invalidInput .zeroId) else pure ()

end Operation

end WorkQueue
