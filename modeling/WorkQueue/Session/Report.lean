import WorkQueue.Memory.Backend
import WorkQueue.Session.Script

namespace WorkQueue.Session

structure Snapshot where
  now : Instant
  tables : Memory.Tables

structure UnitReport where
  answer : UnitAnswer
  snapshot : Snapshot

structure Inspection where
  status : Option Status
  attempts : Option UInt32
  completed : Bool
  failures : Nat
  members : List (List ItemId)
deriving DecidableEq

structure Policy where
  windows : RecoveryWindows
  archives : Archives
  config : QueueConfig
deriving DecidableEq

inductive CallReport
  | finished (result : Except QueueError Unit)
  | ids (result : Except QueueError (List ItemId))
  | dropped
  | recovery (result : Except QueueError RecoveryReport)
  | cleanup (result : Except QueueError CleanupReport)
  | time (t : Instant)
  | unit (result : Except StoreError (List UnitReport × Except StoreError Unit))
  | inspection (i : Inspection)
  | policy (p : Policy)
  | metrics (m : Metrics)

structure RunReport where
  calls : List (Nat × ItemId)
  elapsed : Nat
  workers : Option Nat
  pool : Option (Except QueueError Unit)
  maintenance : Option (Except QueueError Unit)

inductive StepResult
  | call (r : CallReport)
  | run (r : RunReport) (timed : List StepResult)

structure StepReport where
  result : StepResult
  journal : List Memory.Entry
  hookAnswers : List UnitAnswer
  snapshot : Option Snapshot

def refillStops : List Chore → List Memory.Entry → List Memory.Entry
  | chore :: rest, .notice (.choreStopped _) :: entries =>
    .notice (.choreStopped chore) :: refillStops rest entries
  | chores, e :: entries => e :: refillStops chores entries
  | _, [] => []

def sortStops (journal : List Memory.Entry) : List Memory.Entry :=
  let stopped := journal.filterMap fun
    | .notice (.choreStopped chore) => some chore
    | _ => none
  refillStops (stopped.filter (· = .cleanup) ++ stopped.filter (· = .recovery)) journal

end WorkQueue.Session
