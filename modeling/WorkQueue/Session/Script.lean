import WorkQueue.Memory.Tables
import WorkQueue.Queue.Maintenance
import WorkQueue.Session.Fault
import WorkQueue.Session.Handlers

namespace WorkQueue.Session

inductive UnitEnd
  | commit
  | rollback
  | drop
deriving DecidableEq

structure PoolScript where
  readLimit : UInt32
  config : WorkerConfig
  plain : Bool
deriving DecidableEq

inductive Call
  | append (item : Item)
  | appends (items : List Item)
  | read (limit : UInt32)
  | cancel (ids : List ItemId)
  | commit (id : ItemId) (hook : HookScript) (dropAfter : Option Nat)
  | reject (id : ItemId) (cause : String)
  | recover (limit : UInt32) (timeout : Option Duration)
  | requeue (limit : UInt32) (delay : Option Duration)
  | removeExhausted (limit : UInt32)
  | removeCompleted (limit : UInt32) (expiry : Option Duration)
  | removeBroken (limit : UInt32) (expiry : Option Duration)
  | changeCycle (limits : Option BatchLimits) (timeout delay : Option Duration)
  | cleanCycle (limits : Option BatchLimits) (expiry : Option Duration)
  | advance (d : Duration)
  | setClock (t : Instant)
  | fault (f : Fault) (times : Nat)
  | unit (steps : List UnitStep) (last : UnitEnd)
  | inspect (id : ItemId)
  | policy (timeout delay : Option Duration)
  | metrics
deriving DecidableEq

structure Run where
  ms : Nat
  pool : Option PoolScript
  handlers : HandlerScript
  maintenance : Option Maintenance
deriving DecidableEq

inductive Step
  | call (c : Call)
  | run (r : Run) (timed : List (Nat × Step))

inductive Attention
  | everyStep
  | lastStep
  | none
deriving DecidableEq

structure Setup where
  start : Instant
  config : QueueConfig
  archives : Archives
  purges : Bool
  direct : Bool
  observed : Bool
  faulty : Bool
  ticking : Bool
  attention : Attention
deriving DecidableEq

namespace Setup

def windows (s : Setup) (timeout delay : Option Duration) : RecoveryWindows :=
  let w := if s.direct then .default else s.config.recoveryWindows
  ⟨timeout.getD w.timeout, delay.getD w.delay⟩

def retention (s : Setup) (expiry : Option Duration) : Retention :=
  let r := if s.direct then { Retention.default with purges := s.purges }
    else s.config.retention s.purges
  { r with
    completedExpiry := expiry.getD r.completedExpiry
    brokenExpiry := expiry.getD r.brokenExpiry }

def maintenance (s : Setup) (limits : Option BatchLimits) (config : MaintenanceConfig)
    (timeout delay expiry : Option Duration) : Maintenance where
  archives := s.archives
  windows := s.windows timeout delay
  retention := s.retention expiry
  limits := limits.getD s.config.limits
  config := config

end Setup

end WorkQueue.Session
