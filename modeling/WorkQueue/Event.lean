import WorkQueue.Document.Basic
import WorkQueue.Error
import WorkQueue.Time.Calendar

namespace WorkQueue

inductive EventData
  | count (n : UInt64)
  | id (id : ItemId)
  | ids (ids : List ItemId)
deriving DecidableEq

structure Event where
  source : String
  name : String
  data : EventData
deriving DecidableEq

inductive Activity
  | append
  | appends
  | readItems
  | cancelItems
  | commit
  | reject
  | rejectSkipped
  | recoverTimedOut
  | requeue
  | removeExhausted
  | removeCompleted
  | removeBroken
deriving DecidableEq

def Activity.name : Activity → String
  | append => "Append"
  | appends => "Appends"
  | readItems => "ReadItems"
  | cancelItems => "CancelItems"
  | commit => "Commit"
  | reject => "Reject"
  | rejectSkipped => "RejectSkipped"
  | recoverTimedOut => "ChangeProcessingToRetryByTimeout"
  | requeue => "ChangeRetryToReady"
  | removeExhausted => "RemoveItemsWithoutAttempts"
  | removeCompleted => "RemoveCompletedItems"
  | removeBroken => "RemoveBrokenItems"

namespace EventData

def items : EventData → UInt64
  | count n => n
  | id _ => 1
  | ids l => UInt64.ofNat l.length

def document : EventData → Document
  | count n => .object [("count", .ofNat n.toNat)]
  | id i => .object [("id", .ofNat i.value.toNat)]
  | ids l => .object [("ids", .array (l.map fun i => .ofNat i.value.toNat))]

end EventData

namespace Event

def of (a : Activity) (data : EventData) : Event := ⟨itemEntity, a.name, data⟩

def items (e : Event) : UInt64 := e.data.items

def document (e : Event) (time : Instant) : Document := .object [
  ("at", .string time.text),
  ("data", e.data.document),
  ("name", .string e.name),
  ("source", .string e.source)]

end Event

end WorkQueue
