import WorkQueue.Event.Metrics
import WorkQueue.Memory.Engine
import WorkQueue.Time.Clock

namespace WorkQueue.Memory

inductive Entry
  | notice (n : Notice)
  /-- An event, and the milliseconds since the run of background work began, if one is going on. -/
  | event (since : Option Nat) (e : Event)
  | purged (ids : List ItemId)

structure Backend where
  engine : Engine
  clock : Clock
  metrics : Metrics
  journal : List Entry
  origin : Option Nat

namespace Backend

def start (t : Instant) : Backend := ⟨.empty, .start t, {}, [], none⟩

def write (b : Backend) (e : Entry) : Backend := { b with journal := e :: b.journal }

def emit (b : Backend) (e : Event) : Backend :=
  { b.write (.event (b.origin.map (b.clock.elapsed - ·)) e) with metrics := b.metrics.record e }

def beginAt (b : Backend) (t : Instant) : Except StoreError Unit × Backend :=
  let (answer, engine) := b.engine.begin t
  (answer, { b with engine })

def begin (b : Backend) : Except StoreError Unit × Backend := b.beginAt b.clock.now

def perform (b : Backend) (c : StoreCall) : Except StoreError c.Answer × Backend :=
  let (answer, engine) := b.engine.perform c
  let b := { b with engine }
  (answer, match c with
    | .purge ids => b.write (.purged ids)
    | _ => b)

def commit (b : Backend) : Except StoreError Unit × Backend :=
  let (answer, engine) := b.engine.commit
  (answer, { b with engine }.write (.notice .unitCommitted))

def rollback (b : Backend) : Except StoreError Unit × Backend :=
  let (answer, engine) := b.engine.rollback
  (answer, { b with engine }.write (.notice .unitRolledBack))

def answer {X : Effects} (app : (r : X.Request) → Backend → X.Answer r × Backend) :
    (r : QueueRequest X) → Backend → r.Answer × Backend
  | .begin, b => b.begin
  | .store c, b => b.perform c
  | .commit, b => b.commit
  | .rollback, b => b.rollback
  | .emit e, b => ((), b.emit e)
  | .note n, b => ((), b.write (.notice n))
  | .app r, b => app r b

end Backend

end WorkQueue.Memory
