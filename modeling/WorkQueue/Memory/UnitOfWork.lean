import WorkQueue.Memory.Tables

/-!
A unit of work writes straight to the tables and logs, for each row it touches, what the row was
before the first write. Replaying the log brings the tables back to where they were.
-/

namespace WorkQueue.Memory

structure UndoLog where
  items : Table (Option Row)
  completed : Table (Option Instant)
  broken : Table (Option (List FailureEntry))

structure UnitOfWork where
  tables : Tables
  undo : UndoLog
  now : Instant

/-- Keeps the first value that is logged for a row. -/
def logPrior {α : Type} (log : Table (Option α)) (table : Table α) (id : ItemId) :
    Table (Option α) :=
  if log.contains id then log else log.put id (table.get? id)

def restoreRow {α : Type} (table : Table α) (entry : ItemId × Option α) : Table α :=
  match entry.2 with
  | some a => table.put entry.1 a
  | none => table.erase entry.1

def restore {α : Type} (table : Table α) (log : Table (Option α)) : Table α :=
  log.rows.foldl restoreRow table

def UndoLog.empty : UndoLog := ⟨.empty, .empty, .empty⟩

namespace UnitOfWork

def begin (t : Tables) (now : Instant) : UnitOfWork := ⟨t, .empty, now⟩

def rolledBack (u : UnitOfWork) : Tables :=
  ⟨restore u.tables.items u.undo.items, restore u.tables.completed u.undo.completed,
    restore u.tables.broken u.undo.broken⟩

def putItem (u : UnitOfWork) (id : ItemId) (row : Row) : UnitOfWork :=
  { u with
    undo.items := logPrior u.undo.items u.tables.items id
    tables.items := u.tables.items.put id row }

def removeItem (u : UnitOfWork) (id : ItemId) : UnitOfWork :=
  { u with
    undo.items := logPrior u.undo.items u.tables.items id
    tables.items := u.tables.items.erase id }

def putCompleted (u : UnitOfWork) (id : ItemId) (time : Instant) : UnitOfWork :=
  { u with
    undo.completed := logPrior u.undo.completed u.tables.completed id
    tables.completed := u.tables.completed.put id time }

def removeCompleted (u : UnitOfWork) (id : ItemId) : UnitOfWork :=
  { u with
    undo.completed := logPrior u.undo.completed u.tables.completed id
    tables.completed := u.tables.completed.erase id }

def pushBroken (u : UnitOfWork) (id : ItemId) (entry : FailureEntry) : UnitOfWork :=
  { u with
    undo.broken := logPrior u.undo.broken u.tables.broken id
    tables.broken := u.tables.broken.put id (u.tables.failures id ++ [entry]) }

def removeBroken (u : UnitOfWork) (id : ItemId) : UnitOfWork :=
  { u with
    undo.broken := logPrior u.undo.broken u.tables.broken id
    tables.broken := u.tables.broken.erase id }

end UnitOfWork

end WorkQueue.Memory
