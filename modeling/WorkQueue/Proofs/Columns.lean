import Mathlib
import WorkQueue.Sql.Connection

/-!
Numbers that cross between a queue and its server. Ids and attempts are unsigned on this side and
signed on the other, so a number may not fit. A store call whose numbers all fit is one statement
that carries them unchanged; otherwise the first that does not fit is the error and nothing is sent.
-/

namespace WorkQueue

namespace Sql

inductive Crossing
  | id (id : ItemId)
  | attempts (n : UInt32)
  | column (n : Int)
deriving DecidableEq

namespace Crossing

def fits : Crossing → Bool
  | id i => i.value.toNat < 2 ^ 63
  | attempts n => n.toNat < 2 ^ 31
  | column n => 0 ≤ n

def fault : Crossing → SqlError
  | id i => .idOutOfRange i.value
  | attempts n => .attemptsOutOfRange n
  | column n => .negativeId n

end Crossing

def misfit? (numbers : List Crossing) : Option Crossing := numbers.find? (!·.fits)

def carried {β : Type} (numbers : List Crossing) (value : β) : Except SqlError β :=
  match misfit? numbers with
  | none => .ok value
  | some v => .error v.fault

section Carried

variable {α β : Type} {numbers more : List Crossing}

theorem carried_singleton (v : Crossing) (value : β) :
    carried [v] value = if v.fits then .ok value else .error v.fault := by
  cases h : v.fits <;> simp [carried, misfit?, h]

theorem carried_map (value : α) (f : α → β) :
    (carried numbers value >>= fun a => pure (f a)) = carried numbers (f value) := by
  rw [carried, carried]
  cases misfit? numbers <;> rfl

theorem carried_bind (value : α) (f : α → β) :
    (carried numbers value >>= fun a => carried more (f a)) =
      carried (numbers ++ more) (f value) := by
  simp only [carried, misfit?, List.find?_append]
  cases numbers.find? (!·.fits) <;> rfl

theorem mapM_carried {f : α → Except SqlError β} {numbers : α → List Crossing} {g : α → β}
    (h : ∀ a, f a = carried (numbers a) (g a)) (l : List α) :
    l.mapM f = carried (l.flatMap numbers) (l.map g) := by
  induction l with
  | nil => rfl
  | cons a rest ih =>
    rw [List.mapM_cons, h a, ih, List.flatMap_cons, List.map_cons]
    simp only [carried_map]
    exact carried_bind (g a) fun b => b :: rest.map g

end Carried

def toColumn (id : ItemId) : Int := id.value.toNat

theorem columnOfId_eq (id : ItemId) : columnOfId id = carried [.id id] (toColumn id) := by
  simp [carried_singleton, columnOfId, Crossing.fits, Crossing.fault, toColumn]

theorem columnOfAttempts_eq (n : UInt32) :
    columnOfAttempts n = carried [.attempts n] (n.toNat : Int) := by
  simp [carried_singleton, columnOfAttempts, Crossing.fits, Crossing.fault]

theorem columnsOfIds_eq (ids : List ItemId) :
    columnsOfIds ids = carried (ids.map .id) (ids.map toColumn) := by
  rw [columnsOfIds, mapM_carried columnOfId_eq, ← List.map_eq_flatMap]

def numbersOf (item : Item) : List Crossing := [.id item.id, .attempts item.retryAttempts]

theorem columnsOfItem_eq (item : Item) : columnsOfItem item =
    carried (numbersOf item) (toColumn item.id, (item.retryAttempts.toNat : Int)) := by
  rw [columnsOfItem, columnOfId_eq]
  simp only [columnOfAttempts_eq, carried_map]
  exact carried_bind (toColumn item.id) fun n => (n, (item.retryAttempts.toNat : Int))

end Sql

namespace StoreCall

open Sql

def outbound : StoreCall → List Crossing
  | insert items => items.flatMap numbersOf
  | release ids | purge ids => ids.map .id
  | delete id _ | demote id | complete id => [.id id]
  | recordFailures rows => rows.map fun row => .id row.id
  | _ => []

def isSpared : StoreCall → Bool
  | insert items => items.isEmpty
  | recordFailures rows => rows.isEmpty
  | purge ids => ids.isEmpty
  | _ => false

def nothing : (c : StoreCall) → c.Answer
  | insert _ | complete _ | recordFailures _ => ()
  | release _ | delete .. | demote _ | purge _ => (0 : UInt64)
  | claim _ | recover .. | requeue .. | discard _ | expireCompleted .. | expireBroken .. =>
    ([] : List ItemId)

def read : (c : StoreCall) → Reply → Except SqlError c.Answer
  | insert _, _ | complete _, _ | recordFailures _, _ => .ok ()
  | release _, reply | delete .., reply | demote _, reply | purge _, reply => .ok reply.affected
  | claim _, reply | recover .., reply | requeue .., reply | discard _, reply
  | expireCompleted .., reply | expireBroken .., reply => idsOfColumns reply.ids

end StoreCall

namespace Sql

namespace Adapter

def statement (a : Adapter) : StoreCall → Statement
  | .insert items => .insertItems a.tables.items (items.map fun item => toColumn item.id)
    (items.map fun item => (item.retryAttempts.toNat : Int))
    (items.map fun item => secondsBits item.readyDelay)
  | .claim limit => .claim a.tables.items limit
  | .release ids => .release a.tables.items (ids.map toColumn)
  | .delete id status => .delete a.tables.items (toColumn id) status
  | .demote id => .demote a.tables.items (toColumn id)
  | .recover timeout limit => .recover a.tables.items timeout limit
  | .requeue delay limit => .requeue a.tables.items delay limit
  | .discard limit => .discard a.tables.items limit
  | .complete id => .complete a.tables.completed (toColumn id)
  | .expireCompleted expiry limit => .expireCompleted a.tables.completed expiry limit
  | .recordFailures rows =>
    .recordFailures a.tables.broken (rows.map fun row => toColumn row.id) (rows.map (·.error))
  | .expireBroken expiry limit => .expireBroken a.tables.broken expiry limit
  | .purge ids => .purge a.application (ids.map toColumn)

theorem plan_eq (a : Adapter) (call : StoreCall) : a.plan call =
    if call.isSpared then .ok (.answer call.nothing)
    else carried call.outbound (.send (a.statement call) call.read) := by
  cases call with
  | insert items =>
    cases items with
    | nil => rfl
    | cons item rest =>
      simp only [plan, Adapter.insert, mapM_carried columnsOfItem_eq, carried_map, List.map_map]
      rfl
  | recordFailures rows =>
    cases rows with
    | nil => rfl
    | cons row rest =>
      simp only [plan, Adapter.recordFailures, columnsOfIds_eq, carried_map, List.map_map]
      rfl
  | purge ids =>
    cases ids with
    | nil => rfl
    | cons id rest =>
      simp only [plan, Adapter.purge, columnsOfIds_eq, carried_map]
      rfl
  | release ids =>
    simp only [plan, columnsOfIds_eq, carried_map]
    rfl
  | delete id status =>
    simp only [plan, columnOfId_eq, carried_map]
    rfl
  | demote id =>
    simp only [plan, columnOfId_eq, carried_map]
    rfl
  | complete id =>
    simp only [plan, columnOfId_eq, carried_map]
    rfl
  | _ => rfl

end Adapter

namespace Connection

variable (c : Connection) (call : StoreCall)

end Connection

end Sql

end WorkQueue
