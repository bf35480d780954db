import WorkQueue.Queue.Storage
import WorkQueue.Sql.Statement

/-!
Store calls as statements. Ids are unsigned on this side and signed on the server's, so a value
that does not fit is an error before anything is sent, and a negative id in a reply is one too.
-/

namespace WorkQueue.Sql

def columnOfId (id : ItemId) : Except SqlError Int :=
  if id.value.toNat < 1 <<< 63 then .ok id.value.toNat else .error (.idOutOfRange id.value)

def columnOfAttempts (n : UInt32) : Except SqlError Int :=
  if n.toNat < 1 <<< 31 then .ok n.toNat else .error (.attemptsOutOfRange n)

def idOfColumn (n : Int) : Except SqlError ItemId :=
  if 0 ≤ n then .ok ⟨UInt64.ofNat n.toNat⟩ else .error (.negativeId n)

def columnsOfIds (ids : List ItemId) : Except SqlError (List Int) := ids.mapM columnOfId

def idsOfColumns (column : List Int) : Except SqlError (List ItemId) := column.mapM idOfColumn

def columnsOfItem (item : Item) : Except SqlError (Int × Int) := do
  return (← columnOfId item.id, ← columnOfAttempts item.retryAttempts)

structure Reply where
  ids : List Int
  affected : UInt64
deriving DecidableEq

def Reply.empty : Reply := ⟨[], 0⟩

inductive Plan (α : Type)
  | answer (a : α)
  | send (s : Statement) (read : Reply → Except SqlError α)

namespace Plan

def forIds (s : Statement) : Plan (List ItemId) := .send s fun reply => idsOfColumns reply.ids

def forCount (s : Statement) : Plan UInt64 := .send s fun reply => .ok reply.affected

def forEffect (s : Statement) : Plan Unit := .send s fun _ => .ok ()

end Plan

structure Adapter where
  tables : QueueTables
  application : TableInfo
deriving DecidableEq

namespace Adapter

def insert (a : Adapter) (items : List Item) : Except SqlError (Plan Unit) := do
  if items.isEmpty then return .answer ()
  let rows ← items.mapM columnsOfItem
  return .forEffect (.insertItems a.tables.items (rows.map (·.1)) (rows.map (·.2))
    (items.map fun item => secondsBits item.readyDelay))

def recordFailures (a : Adapter) (rows : List Failure) : Except SqlError (Plan Unit) := do
  if rows.isEmpty then return .answer ()
  return .forEffect (.recordFailures a.tables.broken (← columnsOfIds (rows.map (·.id)))
    (rows.map (·.error)))

def purge (a : Adapter) (ids : List ItemId) : Except SqlError (Plan UInt64) := do
  if ids.isEmpty then return .answer 0
  return .forCount (.purge a.application (← columnsOfIds ids))

def plan (a : Adapter) : (c : StoreCall) → Except SqlError (Plan c.Answer)
  | .insert items => a.insert items
  | .claim limit => return .forIds (.claim a.tables.items limit)
  | .release ids => return .forCount (.release a.tables.items (← columnsOfIds ids))
  | .delete id status => return .forCount (.delete a.tables.items (← columnOfId id) status)
  | .demote id => return .forCount (.demote a.tables.items (← columnOfId id))
  | .recover timeout limit => return .forIds (.recover a.tables.items timeout limit)
  | .requeue delay limit => return .forIds (.requeue a.tables.items delay limit)
  | .discard limit => return .forIds (.discard a.tables.items limit)
  | .complete id => return .forEffect (.complete a.tables.completed (← columnOfId id))
  | .expireCompleted expiry limit =>
    return .forIds (.expireCompleted a.tables.completed expiry limit)
  | .recordFailures rows => a.recordFailures rows
  | .expireBroken expiry limit => return .forIds (.expireBroken a.tables.broken expiry limit)
  | .purge ids => a.purge ids

end Adapter

end WorkQueue.Sql
