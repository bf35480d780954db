import WorkQueue.Config
import WorkQueue.Queue.Settlement

namespace WorkQueue

inductive Handling
  | succeeded
  | stopped (e : HandleError)
  | timedOut
deriving DecidableEq

structure Handler (X : Effects) where
  handle : ItemId → Program (queueEffects X) Handling
  preCommit : ItemId → Hook X

def timeoutMessage (timeout : Duration) : String := s!"handler timed out after {timeout.brief}"

structure Worker (X : Effects) where
  index : Nat
  archives : Archives
  readLimit : UInt32
  config : WorkerConfig
  handler : Handler X
  stopping : Program (queueEffects X) Bool

def WorkerConfig.validatePool (w : WorkerConfig) (readLimit : UInt32) : Except QueueError Unit :=
  if readLimit == 0 then .error (.invalidInput .zeroLimit)
  else if w.workers == 0 then .error .noWorkers
  else .ok ()

namespace Worker

variable {X : Effects}

open Operation

/-- Settles an item by what its handler made of it. Says whether this is to commit or reject it,
and how the settling call ended. -/
def settle (w : Worker X) (id : ItemId) :
    Handling → Program (queueEffects X) (Bool × Except QueueError Unit)
  | .succeeded => do
    return (true, ← (Queue.commit w.archives id (w.handler.preCommit id)).run)
  | .stopped (.notStarted reason) => do
    request (.note (.itemNotStarted id reason))
    return (false, ← (Queue.cancelItems [id]).run)
  | .stopped (.failed cause) => do
    request (.note (.itemFailed id cause))
    return (true, ← (Queue.reject w.archives id cause.message).run)
  | .timedOut => do
    let cause := timeoutMessage w.config.handleTimeout
    request (.note (.itemTimedOut id cause))
    return (true, ← (Queue.reject w.archives id cause).run)

def process (w : Worker X) (id : ItemId) : Program (queueEffects X) Bool := do
  let (settles, result) ← w.settle id (← w.handler.handle id)
  match result with
  | .ok () => return settles
  | .error e =>
    if e.isStatusMismatch then request (.note (.itemReclaimed id))
    else request (.note (.settlementFailed id e))
    return false

/-- Goes through a claimed batch; `settled` items were committed or rejected before. -/
def processAll (w : Worker X) (settled : Nat) : List ItemId → Operation X Nat
  | [] => return settled
  | id :: rest => do
    if ← ExceptT.lift w.stopping then
      note (.batchReturned w.index (rest.length + 1))
      Queue.cancelItems (id :: rest)
      return settled
    else
      let done ← ExceptT.lift (w.process id)
      w.processAll (if done then settled + 1 else settled) rest

def pollOnce (w : Worker X) : Operation X Nat := do
  w.processAll 0 (← Queue.readItems w.readLimit)

/-- The random jitter on top of the poll interval is left out: where workers run side by side, it is
left open when each of them goes on. -/
def turn (w : Worker X) : Program (queueEffects X) Turn := do
  if ← w.stopping then
    request (.note (.workerStopped w.index))
    return .stop
  match ← w.pollOnce.run with
  | .ok 0 => return .pause w.config.pollInterval
  | .ok settled =>
    request (.note (.workerSettled w.index settled))
    return .again
  | .error e =>
    request (.note (.pollFailed w.index e))
    return .pause w.config.errorBackoff

def start (w : Worker X) : Program (queueEffects X) Turn := do
  request (.note (.workerStarted w.index))
  w.turn

end Worker

end WorkQueue
