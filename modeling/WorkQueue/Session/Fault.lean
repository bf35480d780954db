import WorkQueue.Queue.Storage

namespace WorkQueue.Session

inductive FaultPoint
  | begin
  | commit
  | rollback
  | insert
  | claim
  | release
  | delete
  | demote
  | recover
  | requeue
  | discard
  | complete
  | expireCompleted
  | recordFailures
  | expireBroken
  | purge
deriving DecidableEq

def FaultPoint.ofCall : StoreCall → FaultPoint
  | .insert _ => insert
  | .claim _ => claim
  | .release _ => release
  | .delete .. => delete
  | .demote _ => demote
  | .recover .. => recover
  | .requeue .. => requeue
  | .discard _ => discard
  | .complete _ => complete
  | .expireCompleted .. => expireCompleted
  | .recordFailures _ => recordFailures
  | .expireBroken .. => expireBroken
  | .purge _ => purge

/-- A failure in store for one call at `point`: instead of it, or after it succeeded. A purge only
ever fails instead. -/
structure Fault where
  point : FaultPoint
  message : String
  after : Bool
deriving DecidableEq

namespace Fault

def error (f : Fault) : StoreError := .reported f.message

def comesAfter (f : Fault) : Bool := f.after && f.point ≠ .purge

def instead? : Option Fault → Option StoreError
  | some f => if f.comesAfter then none else some f.error
  | none => none

def after? : Option Fault → Option StoreError
  | some f => if f.comesAfter then some f.error else none
  | none => none

def follow {α : Type} (fault : Option Fault) : Except StoreError α → Except StoreError α
  | .ok a =>
    match after? fault with
    | some e => .error e
    | none => .ok a
  | .error e => .error e

end Fault

end WorkQueue.Session
