import WorkQueue.Memory.Backend
import WorkQueue.Session.Script
import WorkQueue.Session.Task

namespace WorkQueue.Session

inductive Party
  | caller
  | task (index : Nat)
deriving DecidableEq

/-- How much a party gets done in one go. To be given the tables counts, and so does to notice that
a wait is over, even a wait for no time at all. A party that gets one more thing done gives way to
the others before it goes on. -/
def stamina : Nat := 128

structure Machine where
  setup : Setup
  backend : Memory.Backend
  /-- The time by a clock that goes by itself, for a session that is set up with one. It has
  nothing to do with where the session starts. -/
  ownTime : Instant
  faults : List Fault
  held : Bool
  waiting : List Party
  granted : Bool
  tasks : List Task
  ready : List Nat
  yielded : List Nat
  streak : Nat
  handlers : List Handlers
  answers : List UnitAnswer

namespace Machine

def start (s : Setup) : Machine where
  setup := s
  backend := .start s.start
  ownTime := .clamp 0
  faults := []
  held := false
  waiting := []
  granted := false
  tasks := []
  ready := []
  yielded := []
  streak := 0
  handlers := []
  answers := []

def isTired (m : Machine) : Bool := stamina ≤ m.streak

def gotDone (m : Machine) : Machine := { m with streak := m.streak + 1 }

def elapsed (m : Machine) : Nat := m.backend.clock.elapsed

def write (m : Machine) (n : Notice) : Machine := { m with backend := m.backend.write (.notice n) }

/-- The next fault in store for a point. Only a purger fails in a storage that is not faulty. -/
def takeFault (m : Machine) (p : FaultPoint) : Option Fault × Machine :=
  if m.setup.faulty || p = .purge then
    match m.faults.find? (·.point = p) with
    | some f => (some f, { m with faults := m.faults.erase f })
    | none => (none, m)
  else (none, m)

def release (m : Machine) : Machine :=
  match m.waiting with
  | [] => { m with held := false }
  | .caller :: rest => { m with waiting := rest, granted := true }
  | .task i :: rest =>
    { m with
      waiting := rest
      ready := m.ready ++ [i]
      tasks := m.tasks.modify i fun t =>
        match t.state with
        | .queued fault next => { t with state := .entering fault next }
        | _ => t }

def dropUnit (m : Machine) : Machine :=
  release { m with backend := { m.backend with engine := m.backend.engine.drop } }

/-- The time of a unit of work that begins now. On a clock that goes by itself, no two units begin
at one instant. -/
def readClock (m : Machine) : Instant × Machine :=
  if m.setup.ticking then (m.ownTime, { m with ownTime := m.ownTime.later .microsecond })
  else (m.backend.clock.now, m)

def enter (m : Machine) (fault : Option StoreError) : Except StoreError Unit × Machine :=
  let (time, m) := m.readClock
  let (answer, backend) := m.backend.beginAt time
  let m := { m with backend, held := true }
  match answer, fault with
  | .ok (), none => (.ok (), m)
  | .ok (), some e => (.error e, m.dropUnit)
  | .error e, _ => (.error e, m.release)

def perform (m : Machine) (c : StoreCall) : Except StoreError c.Answer × Machine :=
  let (fault, m) := m.takeFault (.ofCall c)
  match Fault.instead? fault with
  | some e => (.error e, m)
  | none =>
    let (answer, backend) := m.backend.perform c
    (Fault.follow fault answer, { m with backend })

def close (m : Machine) (p : FaultPoint)
    (finish : Memory.Backend → Except StoreError Unit × Memory.Backend) :
    Except StoreError Unit × Machine :=
  let (fault, m) := m.takeFault p
  match Fault.instead? fault with
  | some e => (.error e, m.dropUnit)
  | none =>
    let (answer, backend) := finish m.backend
    (Fault.follow fault answer, release { m with backend })

def emit (m : Machine) (e : Event) : Machine :=
  if m.setup.observed then { m with backend := m.backend.emit e } else m.write (.event e)

def unitTime (m : Machine) : Instant :=
  match m.backend.engine.unit? with
  | some u => u.now
  | none => m.backend.clock.now

def onHandlers {α : Type} (m : Machine) (run : Nat) (otherwise : α) (f : Handlers → α × Handlers) :
    α × Machine :=
  match m.handlers[run]? with
  | some h =>
    let (a, h) := f h
    (a, { m with handlers := m.handlers.set run h })
  | none => (otherwise, m)

def callHandler (m : Machine) (run : Nat) (id : ItemId) : Behaviour × Machine :=
  m.onHandlers run .default fun h => h.call m.elapsed id

def offer (m : Machine) (run : Nat) (id : ItemId) (hook : HookScript) : Machine :=
  (m.onHandlers run () fun h => ((), h.offer id hook)).2

def hookOf (m : Machine) (run : Nat) (id : ItemId) : HookScript :=
  (m.handlers[run]?).elim .none (·.hookOf id)

def advanceClock (m : Machine) (d : Duration) : Machine :=
  { m with backend := { m.backend with clock := m.backend.clock.advance d } }

/-- Runs a program of a party until it has to wait or gives way. `told` says whether the party has
been told to stop, `patience` how many milliseconds its handler calls may take. -/
def advance (told : Bool) (patience : Nat) {α : Type} : Act α → Machine → Progress α × Machine
  | .done a, m => (.ended a, m)
  | .ask QueueRequest.begin next, m =>
    let (fault, m) := m.takeFault .begin
    match Fault.instead? fault with
    | some e => advance told patience (next (.error e)) m
    | none =>
      if m.held then (.queued (Fault.after? fault) next, m)
      else if m.isTired then (.admitted (Fault.after? fault) next, { m with held := true })
      else
        let (answer, m) := m.gotDone.enter (Fault.after? fault)
        advance told patience (next answer) m
  | .ask (QueueRequest.store c) next, m =>
    let (answer, m) := m.perform c
    advance told patience (next answer) m
  | .ask QueueRequest.commit next, m =>
    let (answer, m) := m.close .commit Memory.Backend.commit
    advance told patience (next answer) m
  | .ask QueueRequest.rollback next, m =>
    let (answer, m) := m.close .rollback Memory.Backend.rollback
    advance told patience (next answer) m
  | .ask (QueueRequest.emit e) next, m => advance told patience (next ()) (m.emit e)
  | .ask (QueueRequest.note n) next, m => advance told patience (next ()) (m.write n)
  | .ask (QueueRequest.app (.store c)) next, m =>
    let (answer, backend) := m.backend.perform c
    advance told patience (next answer) { m with backend }
  | .ask (QueueRequest.app (.sleep ms)) next, m =>
    if 0 < ms then (.asleep (m.elapsed + ms) (next ()), m)
    else if m.isTired then (.yielding (next ()), m)
    else advance told patience (next ()) m.gotDone
  | .ask (QueueRequest.app (.advance d)) next, m =>
    let m := m.advanceClock d
    advance told patience (next m.backend.clock.now) m
  | .ask (QueueRequest.app .unitTime) next, m => advance told patience (next m.unitTime) m
  | .ask (QueueRequest.app (.keep a)) next, m =>
    advance told patience (next ()) { m with answers := a :: m.answers }
  | .ask (QueueRequest.app (.handle run id)) next, m =>
    let (b, m) := m.callHandler run id
    let later (wait : Nat) (rest : Act α) : Progress α × Machine :=
      (.asleep (m.elapsed + wait) rest, m)
    match b.within patience with
    | (0, none) => (.crashed, m)
    | (0, some .succeeded) => advance told patience (next .succeeded) (m.offer run id b.hook)
    | (0, some (.stopped e)) => advance told patience (next (.stopped e)) m
    | (0, some .timedOut) =>
      if m.isTired then (.yielding (next .timedOut), m)
      else advance told patience (next .timedOut) m.gotDone
    | (wait, none) => later wait (.ask (QueueRequest.app .breakDown) Empty.elim)
    | (wait, some .succeeded) =>
      later wait (.ask (QueueRequest.app (.offer run id b.hook)) fun _ => next .succeeded)
    | (wait, some handling) => later wait (next handling)
  | .ask (QueueRequest.app (.offer run id hook)) next, m =>
    advance told patience (next ()) (m.offer run id hook)
  | .ask (QueueRequest.app (.hookOf run id)) next, m =>
    advance told patience (next (m.hookOf run id)) m
  | .ask (QueueRequest.app .stopping) next, m => advance told patience (next told) m
  | .ask (QueueRequest.app .breakDown) _, m => (.crashed, m)

end Machine

end WorkQueue.Session
