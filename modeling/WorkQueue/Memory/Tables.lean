import WorkQueue.Table
import WorkQueue.Time.Instant

namespace WorkQueue.Memory

/-- An active row. Its time is when it becomes visible, if it is ready, and when it last changed
status otherwise. -/
structure Row where
  status : Status
  attempts : UInt32
  time : Instant
deriving DecidableEq

structure FailureEntry where
  error : String
  time : Instant
deriving DecidableEq

structure Tables where
  items : Table Row
  completed : Table Instant
  /-- Oldest entry first. -/
  broken : Table (List FailureEntry)

namespace Tables

def empty : Tables := ⟨.empty, .empty, .empty⟩

def status? (t : Tables) (id : ItemId) : Option Status := (t.items.get? id).map (·.status)

def attempts? (t : Tables) (id : ItemId) : Option UInt32 := (t.items.get? id).map (·.attempts)

def itemsIn (t : Tables) (status : Status) : List ItemId :=
  (t.items.rows.filter fun row => row.2.status == status).map (·.1)

def failures (t : Tables) (id : ItemId) : List FailureEntry := (t.broken.get? id).getD []

def failureCount (t : Tables) : Nat := (t.broken.rows.flatMap (·.2)).length

end Tables

end WorkQueue.Memory
