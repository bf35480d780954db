import WorkQueue.Event
import WorkQueue.Time.DurationText

namespace WorkQueue

inductive Level
  | trace
  | debug
  | info
  | warn
  | error
deriving DecidableEq

def Level.label : Level → String
  | trace => "TRACE"
  | debug => "DEBUG"
  | info => "INFO"
  | warn => "WARN"
  | error => "ERROR"

inductive Chore
  | recovery
  | cleanup
deriving DecidableEq

inductive Turn
  | again
  | pause (d : Duration)
  | stop
deriving DecidableEq

def Chore.name : Chore → String
  | recovery => "recovery"
  | cleanup => "cleanup"

inductive Notice
  | event (e : Event)
  | unitCommitted
  | unitRolledBack
  | rollbackFailed (cause : QueueError) (again : StoreError)
  | nothingToAppend
  | notProcessing (missing total : Nat)
  | attemptKept (id : ItemId)
  | reclaimed (count : Nat)
  | purged (rows : UInt64) (items : Nat)
  | poolStarted (workers : Nat)
  | workerStarted (index : Nat)
  | workerStopped (index : Nat)
  | workerSettled (index count : Nat)
  | pollFailed (index : Nat) (cause : QueueError)
  | batchReturned (index count : Nat)
  | itemNotStarted (id : ItemId) (reason : String)
  | itemFailed (id : ItemId) (cause : Cause)
  | itemTimedOut (id : ItemId) (cause : String)
  | itemReclaimed (id : ItemId)
  | settlementFailed (id : ItemId) (cause : QueueError)
  | choreStarted (chore : Chore) (period : Duration)
  | choreStopped (chore : Chore)
  | choreFailed (chore : Chore) (cause : QueueError)
  | recovered (timedOut requeued : Nat)
  | nothingToRecover
  | cleaned (exhausted completed broken : Nat)
  | nothingToClean
deriving DecidableEq

namespace Notice

def level : Notice → Level
  | event _ | poolStarted _ | workerStarted _ | workerStopped _ | batchReturned .. => .info
  | choreStarted .. | choreStopped _ | recovered .. | cleaned .. => .info
  | unitCommitted | unitRolledBack => .trace
  | nothingToAppend | notProcessing .. | attemptKept _ | reclaimed _ | purged .. => .debug
  | workerSettled .. | itemNotStarted .. | nothingToRecover | nothingToClean => .debug
  | rollbackFailed .. | itemFailed .. | itemTimedOut .. | itemReclaimed _ | choreFailed .. => .warn
  | pollFailed .. | settlementFailed .. => .error

def message : Notice → String
  | event _ => "queue event"
  | unitCommitted => "Committed in-memory unit of work"
  | unitRolledBack => "Rolled back in-memory unit of work"
  | rollbackFailed cause again => s!"Rollback failed after {cause.message}: {again.message}"
  | nothingToAppend => "Nothing to append"
  | notProcessing missing total => s!"{missing} of {total} items were no longer PROCESSING"
  | attemptKept id => s!"Item {id.text} was no longer PROCESSING; attempt not consumed"
  | reclaimed count => s!"Reclaimed {count} items stuck in PROCESSING"
  | purged rows items => s!"Purged {rows} application rows for {items} archived items"
  | poolStarted workers => s!"Started {workers} queue workers"
  | workerStarted index => s!"Worker {index} started"
  | workerStopped index => s!"Worker {index} stopped"
  | workerSettled index count => s!"Worker {index} settled {count} items"
  | pollFailed index cause => s!"Worker {index} failed to poll: {cause.message}"
  | batchReturned index count => s!"Worker {index} returning {count} claimed items"
  | itemNotStarted id reason => s!"Item {id.text} not started: {reason}"
  | itemFailed id cause => s!"Item {id.text} failed: {cause.message}"
  | itemTimedOut id cause => s!"Item {id.text}: {cause}"
  | itemReclaimed id => s!"Item {id.text} was reclaimed before it could be committed"
  | settlementFailed id cause => s!"Failed to settle item {id.text}: {cause.message}"
  | choreStarted chore period => s!"Starting {chore.name} task with interval: {period.brief}"
  | choreStopped chore => s!"Stopped {chore.name} task"
  | choreFailed chore cause => s!"Error during {chore.name}: {cause.message}"
  | recovered timedOut requeued =>
    s!"Recovered {timedOut} timed out items, requeued {requeued} retry items"
  | nothingToRecover => "No items to recover"
  | cleaned exhausted completed broken =>
    s!"Removed {exhausted} exhausted items, {completed} completed " ++
      s!"and {broken} broken archive entries"
  | nothingToClean => "Nothing to clean"

def fields : Notice → List (String × Document)
  | event e => [("source", .string e.source), ("event", .string e.name),
      match e.data with
      | .count n => ("count", .ofNat n.toNat)
      | .id id => ("id", .ofNat id.value.toNat)
      | .ids ids => ("ids", .string
          ("[" ++ ", ".intercalate (ids.map fun id => s!"ItemId({id.text})") ++ "]"))]
  | _ => []

end Notice

end WorkQueue
