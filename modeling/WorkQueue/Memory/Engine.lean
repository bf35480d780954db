import WorkQueue.Memory.Store

namespace WorkQueue.Memory

inductive Engine
  | idle (tables : Tables)
  | busy (u : UnitOfWork)

namespace Engine

def empty : Engine := idle .empty

/-- The tables as a reader inside the open unit sees them. -/
def tables : Engine → Tables
  | idle t => t
  | busy u => u.tables

def unit? : Engine → Option UnitOfWork
  | idle _ => none
  | busy u => some u

def noUnit : StoreError := .reported "no unit of work is open"

def alreadyOpen : StoreError := .reported "a unit of work is open already"

def begin (now : Instant) : Engine → Except StoreError Unit × Engine
  | idle t => (.ok (), busy (.begin t now))
  | busy u => (.error alreadyOpen, busy u)

def perform (c : StoreCall) : Engine → Except StoreError c.Answer × Engine
  | idle t => (.error noUnit, idle t)
  | busy u =>
    let (answer, u) := u.perform c
    (answer, busy u)

def commit : Engine → Except StoreError Unit × Engine
  | idle t => (.error noUnit, idle t)
  | busy u => (.ok (), idle u.tables)

def rollback : Engine → Except StoreError Unit × Engine
  | idle t => (.error noUnit, idle t)
  | busy u => (.ok (), idle u.rolledBack)

/-- A unit that is let go without a commit is undone. -/
def drop : Engine → Engine
  | idle t => idle t
  | busy u => idle u.rolledBack

end Engine

end WorkQueue.Memory
