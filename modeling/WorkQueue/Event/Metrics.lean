import WorkQueue.Event

namespace WorkQueue

structure OperationTotals where
  name : String
  calls : UInt64
  items : UInt64
deriving DecidableEq

inductive Category
  | appended
  | claimed
  | committed
  | rejected
  | recovered
  | removed
deriving DecidableEq

def Category.ofName? (name : String) : Option Category :=
  if name = Activity.append.name ∨ name = Activity.appends.name then some appended
  else if name = Activity.readItems.name then some claimed
  else if name = Activity.commit.name then some committed
  else if name = Activity.reject.name then some rejected
  else if name = Activity.recoverTimedOut.name then some recovered
  else if name = Activity.removeExhausted.name ∨ name = Activity.removeCompleted.name ∨
      name = Activity.removeBroken.name then some removed
  else none

structure Metrics where
  appended : UInt64 := 0
  claimed : UInt64 := 0
  committed : UInt64 := 0
  rejected : UInt64 := 0
  recovered : UInt64 := 0
  removed : UInt64 := 0
  operations : List OperationTotals := []
deriving DecidableEq

namespace Metrics

def addTo (m : Metrics) (n : UInt64) : Option Category → Metrics
  | some .appended => { m with appended := m.appended + n }
  | some .claimed => { m with claimed := m.claimed + n }
  | some .committed => { m with committed := m.committed + n }
  | some .rejected => { m with rejected := m.rejected + n }
  | some .recovered => { m with recovered := m.recovered + n }
  | some .removed => { m with removed := m.removed + n }
  | none => m

def countCall (name : String) (n : UInt64) : List OperationTotals → List OperationTotals
  | [] => [⟨name, 1, n⟩]
  | t :: rest =>
    if name < t.name then ⟨name, 1, n⟩ :: t :: rest
    else if name = t.name then ⟨name, t.calls + 1, t.items + n⟩ :: rest
    else t :: countCall name n rest

def record (m : Metrics) (e : Event) : Metrics :=
  { m.addTo e.items (Category.ofName? e.name) with
    operations := countCall e.name e.items m.operations }

def history (m : Metrics) : List Event → List Metrics
  | [] => []
  | e :: rest => m.record e :: (m.record e).history rest

def ofEvents (events : List Event) : Metrics := events.foldl record {}

def operation? (m : Metrics) (name : String) : Option OperationTotals :=
  m.operations.find? (·.name == name)

end Metrics

end WorkQueue
