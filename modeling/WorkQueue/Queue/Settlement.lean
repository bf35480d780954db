import WorkQueue.Queue.Storage

namespace WorkQueue.Queue

open Operation

variable {X : Effects}

def readItems (limit : UInt32) : Operation X (List ItemId) := do
  checkLimit limit
  let ids : List ItemId ← inUnit (store .table (.claim limit))
  emitCount .readItems ids.length
  return ids

/-- The event counts the ids asked for, whether or not they were still in processing. -/
def cancelItems (ids : List ItemId) : Operation X Unit := do
  if ids.isEmpty then return
  if ids.any (·.isZero) then throw (.invalidInput .zeroId)
  let released : UInt64 ← inUnit (store .table (.release ids))
  if released.toNat < ids.length then
    note (.notProcessing (ids.length - released.toNat) ids.length)
  emitCount .cancelItems ids.length

def commitWrites (archives : Archives) (id : ItemId) (hook : Hook X) : Operation X Unit := do
  runHook (.item id) hook
  let deleted : UInt64 ← store (.item id) (.delete id .processing)
  if deleted == 0 then throw (.statusMismatch (.item id) .processing)
  if archives.completed then store (.item id) (.complete id)

def commit (archives : Archives) (id : ItemId) (hook : Hook X) : Operation X Unit := do
  checkId id
  inUnit (commitWrites archives id hook)
  emit .commit (.id id)

def rejectWrites (archives : Archives) (id : ItemId) (cause : String) : Operation X Bool := do
  let demoted : UInt64 ← store (.item id) (.demote id)
  if archives.broken then store (.item id) (.recordFailures [⟨id, cause⟩])
  return demoted != 0

def reject (archives : Archives) (id : ItemId) (cause : String) : Operation X Unit := do
  checkId id
  let demoted ← inUnit (rejectWrites archives id cause)
  if demoted then
    emit .reject (.id id)
  else
    note (.attemptKept id)
    emit .rejectSkipped (.id id)

end WorkQueue.Queue
