import WorkQueue.Config
import WorkQueue.Queue.Storage

namespace WorkQueue

structure Retention where
  completedExpiry : Duration
  brokenExpiry : Duration
  purges : Bool
deriving DecidableEq

def Retention.default : Retention := ⟨.ofSeconds 86400, .ofSeconds 259200, false⟩

def QueueConfig.retention (c : QueueConfig) (purges : Bool) : Retention :=
  ⟨c.completedExpiry, c.brokenExpiry, purges⟩

namespace Queue

open Operation

variable {X : Effects}

def removeExhausted (limit : UInt32) : Operation X (List ItemId) := do
  checkLimit limit
  let ids : List ItemId ← inUnit (store .table (.discard limit))
  emitCount .removeExhausted ids.length
  return ids

def purge (r : Retention) (ids : List ItemId) : Operation X Unit := do
  if r.purges && !ids.isEmpty then
    let rows : UInt64 ← store .table (.purge ids)
    note (.purged rows ids.length)

def expire (r : Retention) (batch : Operation X (List ItemId)) : Operation X (List ItemId) :=
  inUnit do
    let ids ← batch
    purge r ids
    return ids

/-- Without the archive there is nothing to remove, whatever the limit. -/
def removeCompleted (archives : Archives) (r : Retention) (limit : UInt32) :
    Operation X (List ItemId) := do
  if !archives.completed then return []
  checkLimit limit
  let ids ← expire r (store .table (.expireCompleted r.completedExpiry limit))
  emitCount .removeCompleted ids.length
  return ids

def removeBroken (archives : Archives) (r : Retention) (limit : UInt32) :
    Operation X (List ItemId) := do
  if !archives.broken then return []
  checkLimit limit
  let ids ← expire r (store .table (.expireBroken r.brokenExpiry limit))
  emitCount .removeBroken ids.length
  return ids

end Queue

end WorkQueue
