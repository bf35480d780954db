import WorkQueue.Memory.UnitOfWork
import WorkQueue.Queue.Storage

/-!
The store calls on the in-memory tables. Batches take the oldest rows first, by time and then by
id. A call may fail after some of its writes; these stay until the unit is rolled back.
-/

namespace WorkQueue.Memory

structure Candidate where
  time : Instant
  id : ItemId
deriving DecidableEq

def Candidate.le (a b : Candidate) : Bool :=
  a.time < b.time || (a.time == b.time && a.id.value ≤ b.id.value)

def oldest (limit : UInt32) (candidates : List Candidate) : List ItemId :=
  ((candidates.mergeSort Candidate.le).take limit.toNat).map (·.id)

def eligible (p : Row → Bool) (t : Table Row) : List Candidate :=
  (t.rows.filter fun row => p row.2).map fun row => ⟨row.2.time, row.1⟩

/-- The instant a window ends that began at `now` and reaches back over `d`. -/
def deadline (now : Instant) (d : Duration) : Except StoreError Instant :=
  if d.isWindow then .ok (now.earlier d) else .error .windowTooLong

def visibleAt (now : Instant) (d : Duration) : Except StoreError Instant :=
  if d.isWindow then .ok (now.later d) else .error .windowTooLong

namespace UnitOfWork

def transition (u : UnitOfWork) (target : Status) (id : ItemId) : UnitOfWork :=
  match u.tables.items.get? id with
  | some row => u.putItem id { row with status := target, time := u.now }
  | none => u

def transitionAll (u : UnitOfWork) (target : Status) (ids : List ItemId) : UnitOfWork :=
  ids.foldl (fun u id => u.transition target id) u

def duplicate? (u : UnitOfWork) : List ItemId → List ItemId → Option ItemId
  | _, [] => none
  | seen, id :: rest =>
    if u.tables.items.contains id || seen.contains id then some id
    else u.duplicate? (id :: seen) rest

def insertRows (u : UnitOfWork) : List Item → Except StoreError Unit × UnitOfWork
  | [] => (.ok (), u)
  | item :: rest =>
    match visibleAt u.now item.readyDelay with
    | .error e => (.error e, u)
    | .ok time => (u.putItem item.id ⟨.ready, item.retryAttempts, time⟩).insertRows rest

def insert (u : UnitOfWork) (items : List Item) : Except StoreError Unit × UnitOfWork :=
  match u.duplicate? [] (items.map (·.id)) with
  | some id => (.error (.duplicateItem id), u)
  | none => u.insertRows items

def claim (u : UnitOfWork) (limit : UInt32) : List ItemId × UnitOfWork :=
  let ids := oldest limit
    (eligible (fun row => row.status == .ready && row.time ≤ u.now) u.tables.items)
  (ids, u.transitionAll .processing ids)

/-- Counts an id as often as it is asked for. -/
def release (u : UnitOfWork) (ids : List ItemId) : UInt64 × UnitOfWork :=
  let held := ids.filter fun id => u.tables.status? id == some .processing
  (UInt64.ofNat held.length, u.transitionAll .ready held)

def delete (u : UnitOfWork) (id : ItemId) (status : Status) : UInt64 × UnitOfWork :=
  if u.tables.status? id = some status then (1, u.removeItem id) else (0, u)

def demote (u : UnitOfWork) (id : ItemId) : UInt64 × UnitOfWork :=
  match u.tables.items.get? id with
  | some row =>
    if row.status = .processing then
      let left := if row.attempts = 0 then 0 else row.attempts - 1
      (1, u.putItem id ⟨.retry, left, u.now⟩)
    else (0, u)
  | none => (0, u)

def recover (u : UnitOfWork) (timeout : Duration) (limit : UInt32) :
    Except StoreError (List ItemId) × UnitOfWork :=
  match deadline u.now timeout with
  | .error e => (.error e, u)
  | .ok limitTime =>
    let ids := oldest limit
      (eligible (fun row => row.status == .processing && row.time < limitTime) u.tables.items)
    (.ok ids, u.transitionAll .retry ids)

def requeue (u : UnitOfWork) (delay : Duration) (limit : UInt32) :
    Except StoreError (List ItemId) × UnitOfWork :=
  match deadline u.now delay with
  | .error e => (.error e, u)
  | .ok limitTime =>
    let ids := oldest limit (eligible
      (fun row => row.status == .retry && row.time ≤ limitTime && row.attempts != 0) u.tables.items)
    (.ok ids, u.transitionAll .ready ids)

def discard (u : UnitOfWork) (limit : UInt32) : List ItemId × UnitOfWork :=
  let ids := oldest limit
    (eligible (fun row => row.status == .retry && row.attempts == 0) u.tables.items)
  (ids, ids.foldl removeItem u)

def complete (u : UnitOfWork) (id : ItemId) : Except StoreError Unit × UnitOfWork :=
  if u.tables.completed.contains id then (.error (.duplicateCompleted id), u)
  else (.ok (), u.putCompleted id u.now)

def expireCompleted (u : UnitOfWork) (expiry : Duration) (limit : UInt32) :
    Except StoreError (List ItemId) × UnitOfWork :=
  match deadline u.now expiry with
  | .error e => (.error e, u)
  | .ok limitTime =>
    let ids := oldest limit ((u.tables.completed.rows.filter fun row => row.2 ≤ limitTime).map
      fun row => ⟨row.2, row.1⟩)
    (.ok ids, ids.foldl removeCompleted u)

def recordFailures (u : UnitOfWork) (rows : List Failure) : UnitOfWork :=
  rows.foldl (fun u row => u.pushBroken row.id ⟨row.error, u.now⟩) u

def newest : List FailureEntry → Option Instant
  | [] => none
  | e :: rest => some (rest.foldl (fun time e => time.latest e.time) e.time)

/-- An item's entries expire together, by the newest of them. -/
def expireBroken (u : UnitOfWork) (expiry : Duration) (limit : UInt32) :
    Except StoreError (List ItemId) × UnitOfWork :=
  match deadline u.now expiry with
  | .error e => (.error e, u)
  | .ok limitTime =>
    let ids := oldest limit (u.tables.broken.rows.filterMap fun row =>
      match newest row.2 with
      | some time => if time ≤ limitTime then some ⟨time, row.1⟩ else none
      | none => none)
    (.ok ids, ids.foldl removeBroken u)

/-- An application that purges has one row for each archived item. -/
def perform (u : UnitOfWork) : (c : StoreCall) → Except StoreError c.Answer × UnitOfWork
  | .insert items => u.insert items
  | .claim limit => (u.claim limit).map .ok id
  | .release ids => (u.release ids).map .ok id
  | .delete item status => (u.delete item status).map .ok id
  | .demote item => (u.demote item).map .ok id
  | .recover timeout limit => u.recover timeout limit
  | .requeue delay limit => u.requeue delay limit
  | .discard limit => (u.discard limit).map .ok id
  | .complete id => u.complete id
  | .expireCompleted expiry limit => u.expireCompleted expiry limit
  | .recordFailures rows => (.ok (), u.recordFailures rows)
  | .expireBroken expiry limit => u.expireBroken expiry limit
  | .purge ids => (.ok (UInt64.ofNat ids.length), u)

end UnitOfWork

end WorkQueue.Memory
