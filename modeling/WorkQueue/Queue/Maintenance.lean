import WorkQueue.Queue.Recovery
import WorkQueue.Queue.Retention

namespace WorkQueue

structure RecoveryReport where
  recovered : Nat
  requeued : Nat
deriving DecidableEq

structure CleanupReport where
  exhausted : Nat
  completed : Nat
  broken : Nat
deriving DecidableEq

structure Maintenance where
  archives : Archives
  windows : RecoveryWindows
  retention : Retention
  limits : BatchLimits
  config : MaintenanceConfig
deriving DecidableEq

def RecoveryReport.notice (r : RecoveryReport) : Notice :=
  if r.recovered > 0 ∨ r.requeued > 0 then .recovered r.recovered r.requeued
  else .nothingToRecover

def CleanupReport.notice (r : CleanupReport) : Notice :=
  if r.exhausted + r.completed + r.broken > 0 then .cleaned r.exhausted r.completed r.broken
  else .nothingToClean

namespace Maintenance

variable {X : Effects}

open Operation

def validate (m : Maintenance) : Except QueueError Unit := do
  m.limits.validate
  m.config.validate

def period (m : Maintenance) : Chore → Duration
  | .recovery => m.config.changeInterval
  | .cleanup => m.config.cleanInterval

def changeCycle (m : Maintenance) : Operation X RecoveryReport := do
  let recovered ← outcome
    (Queue.recoverTimedOut m.archives m.windows m.limits.changeProcessingToRetry)
  let requeued ← outcome (Queue.requeue m.windows m.limits.changeRetryToReady)
  return ⟨(← ofOutcome recovered).length, (← ofOutcome requeued).length⟩

def cleanCycle (m : Maintenance) : Operation X CleanupReport := do
  let exhausted ← outcome (Queue.removeExhausted m.limits.removeItemsWithoutAttempts)
  let completed ← outcome
    (Queue.removeCompleted m.archives m.retention m.limits.removeCompletedItems)
  let broken ← outcome (Queue.removeBroken m.archives m.retention m.limits.removeBrokenItems)
  return ⟨(← ofOutcome exhausted).length, (← ofOutcome completed).length,
    (← ofOutcome broken).length⟩

def tick (m : Maintenance) (chore : Chore) : Program (queueEffects X) Unit := do
  let cycle : Operation X Notice := match chore with
    | .recovery => return RecoveryReport.notice (← m.changeCycle)
    | .cleanup => return CleanupReport.notice (← m.cleanCycle)
  match ← cycle.run with
  | .ok n => request (.note n)
  | .error e => request (.note (.choreFailed chore e))

def turn (m : Maintenance) (stopping : Program (queueEffects X) Bool) (chore : Chore) :
    Program (queueEffects X) Turn := do
  if ← stopping then
    request (.note (.choreStopped chore))
    return .stop
  m.tick chore
  return .pause (m.period chore)

def start (m : Maintenance) (stopping : Program (queueEffects X) Bool) (chore : Chore) :
    Program (queueEffects X) Turn := do
  request (.note (.choreStarted chore (m.period chore)))
  m.turn stopping chore

end Maintenance

end WorkQueue
