import WorkQueue.Config
import WorkQueue.Queue.Storage

namespace WorkQueue

structure RecoveryWindows where
  timeout : Duration
  delay : Duration
deriving DecidableEq

def RecoveryWindows.default : RecoveryWindows := ⟨.ofSeconds 300, .ofSeconds 120⟩

def QueueConfig.recoveryWindows (c : QueueConfig) : RecoveryWindows :=
  ⟨c.retryTimeout, c.retryDelay⟩

namespace Queue

open Operation

variable {X : Effects}

def timeoutCause : String := "processing process has switched to retry by timeout"

def recoverWrites (archives : Archives) (timeout : Duration) (limit : UInt32) :
    Operation X (List ItemId) := do
  let ids : List ItemId ← store .table (.recover timeout limit)
  if archives.broken && !ids.isEmpty then
    store .table (.recordFailures (ids.map fun id => ⟨id, timeoutCause⟩))
  return ids

/-- No attempt is consumed here. -/
def recoverTimedOut (archives : Archives) (w : RecoveryWindows) (limit : UInt32) :
    Operation X (List ItemId) := do
  checkLimit limit
  let ids ← inUnit (recoverWrites archives w.timeout limit)
  if !ids.isEmpty then note (.reclaimed ids.length)
  emitCount .recoverTimedOut ids.length
  return ids

def requeue (w : RecoveryWindows) (limit : UInt32) : Operation X (List ItemId) := do
  checkLimit limit
  let ids : List ItemId ← inUnit (store .table (.requeue w.delay limit))
  emitCount .requeue ids.length
  return ids

end Queue

end WorkQueue
