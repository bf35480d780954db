import WorkQueue.Session.Hook

namespace WorkQueue.Session

abbrev Act := Program (queueEffects effects)

inductive Progress (α : Type)
  | ended (a : α)
  | yielding (rest : Act α)
  /-- Has been given the tables, and gives way before it opens its unit of work. -/
  | admitted (fault : Option StoreError) (next : Except StoreError Unit → Act α)
  | asleep (wake : Nat) (rest : Act α)
  /-- Waits for the tables. A unit of work that is opened with `fault` in store fails after all. -/
  | queued (fault : Option StoreError) (next : Except StoreError Unit → Act α)
  | crashed

inductive TaskState
  | ready (p : Act Turn)
  | entering (fault : Option StoreError) (next : Except StoreError Unit → Act Turn)
  | queued (fault : Option StoreError) (next : Except StoreError Unit → Act Turn)
  | asleep (wake : Nat) (rest : Act Turn)
  | pausing (wake : Nat)
  | finished
  | crashed

structure Timetable where
  period : Nat
  due : Nat
deriving DecidableEq

structure Task where
  turn : Act Turn
  patience : Nat
  timetable : Option Timetable
  told : Bool
  streak : Nat
  state : TaskState

def waitMillis (d : Duration) : Nat := min d.ceilMillis longestWait

def waitNanos (d : Duration) : Nat := min d.nanos (longestWait * 1000000)

/-- A turn of a periodic task sets the next one a period later; after more than five milliseconds
of delay it is counted from now. -/
def Timetable.fire (t : Timetable) (now : Nat) : Timetable :=
  if t.due + 5000000 < now * 1000000 then { t with due := now * 1000000 + t.period }
  else { t with due := t.due + t.period }

namespace Task

def resume (t : Task) (now streak : Nat) : Task :=
  { t with
    timetable := t.timetable.map (·.fire now)
    streak
    state := .ready t.turn }

def pauseEnd (t : Task) (now : Nat) (d : Duration) : Nat :=
  match t.timetable with
  | some table => (table.due + 999999) / 1000000
  | none => now + waitMillis d

def wake? (t : Task) : Option Nat :=
  match t.state with
  | .asleep wake _ | .pausing wake => some wake
  | _ => none

def isOver (t : Task) : Bool :=
  match t.state with
  | .finished | .crashed => true
  | _ => false

def isCrashed (t : Task) : Bool :=
  match t.state with
  | .crashed => true
  | _ => false

end Task

end WorkQueue.Session
