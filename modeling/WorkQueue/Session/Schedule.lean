import WorkQueue.Session.Machine

/-!
Tasks in virtual time. A task runs until it has to wait, or has got so much done that it gives way;
when nothing can run, time jumps to the next point at which something can. The caller looks first
when time has passed, and otherwise after each round of tasks.
-/

namespace WorkQueue.Session.Machine

/-- How many steps of a session are followed. A session whose tasks never wait has no end. -/
def horizon : Nat := 1 <<< 60

def setState (m : Machine) (i : Nat) (state : TaskState) : Machine :=
  { m with tasks := m.tasks.modify i ({ · with state }) }

/-- Puts a task that has waited in line for its next turn. To notice that a wait is over is the
first thing it gets done. -/
def runLater (m : Machine) (i : Nat) : Machine :=
  { m with
    ready := m.ready ++ [i]
    tasks := m.tasks.modify i (·.resume m.elapsed 1) }

def goOnLater (m : Machine) (i : Nat) (rest : Act Turn) : Machine :=
  { m with
    ready := m.ready ++ [i]
    tasks := m.tasks.modify i ({ · with streak := 1, state := .ready rest }) }

def yieldTask (m : Machine) (i : Nat) (t : Task) : Machine :=
  { m with
    yielded := i :: m.yielded
    tasks := m.tasks.set i { t with streak := 1 } }

/-- After a turn of task `i`: its next turn, if that begins at once. A task that has been told to
stop pauses no more, and a pause that is over at once counts as something done. -/
def afterTurn (m : Machine) (i : Nat) (t : Task) : Turn → Option (Act Turn) × Machine
  | .again => (some t.turn, m)
  | .pause d =>
    let wake := t.pauseEnd m.elapsed d
    if !t.told && m.elapsed < wake then (none, m.setState i (.pausing wake))
    else
      let t := t.resume m.elapsed 1
      if m.isTired then (none, m.yieldTask i t)
      else (some t.turn, { m.gotDone with tasks := m.tasks.set i t })
  | .stop => (none, m.setState i .finished)

def settle (m : Machine) (i : Nat) (t : Task) : Progress Turn → Option (Act Turn) × Machine
  | .ended turn => m.afterTurn i t turn
  | .yielding rest => (none, m.yieldTask i { t with state := .ready rest })
  | .admitted fault next => (none, m.yieldTask i { t with state := .entering fault next })
  | .asleep wake rest => (none, m.setState i (.asleep wake rest))
  | .queued fault next =>
    (none, { m.setState i (.queued fault next) with waiting := m.waiting ++ [.task i] })
  | .crashed => (none, m.setState i .crashed)

def runTurns (i : Nat) : Nat → Act Turn → Machine → Machine
  | 0, _, m => m
  | fuel + 1, p, m =>
    match m.tasks[i]? with
    | none => m
    | some t =>
      let (progress, m) := advance t.told t.patience p m
      match m.settle i t progress with
      | (some p, m) => runTurns i fuel p m
      | (none, m) => m

def runTask (m : Machine) (i : Nat) : Machine :=
  match m.tasks[i]? with
  | none => m
  | some t =>
    match t.state with
    | .ready p => runTurns i horizon p { m with streak := t.streak }
    | .entering fault next =>
      let (answer, m) := { m with streak := 1 }.enter fault
      runTurns i horizon (next answer) m
    | _ => m

def wakeTask (m : Machine) (i : Nat) : Machine :=
  match m.tasks[i]? with
  | none => m
  | some t =>
    match t.state with
    | .asleep wake rest => if wake ≤ m.elapsed then m.goOnLater i rest else m
    | .pausing wake => if wake ≤ m.elapsed then m.runLater i else m
    | _ => m

def passTo (m : Machine) (time : Nat) : Machine :=
  let clock := { m.backend.clock with elapsed := time }
  let m := { m with backend := { m.backend with clock } }
  (List.range m.tasks.length).foldl wakeTask m

def nextWake? (m : Machine) (deadline : Option Nat) : Option Nat :=
  (deadline.toList ++ m.tasks.filterMap Task.wake?).min?

/-- How many tasks run before all who have given way get in line again. -/
def round : Nat := 61

def runReady : Nat → Machine → Machine
  | 0, m => m
  | n + 1, m =>
    match m.ready with
    | i :: rest => runReady n (runTask { m with ready := rest } i)
    | [] => m

/-- One round of tasks. At its end those who have given way get in line again, the latest first. -/
def runRound (m : Machine) : Machine :=
  let m := runReady round m
  { m with ready := m.ready ++ m.yielded, yielded := [] }

/-- Lets the tasks run and time pass until the caller, who looks after each round and wants to look
again at `deadline` at the latest, finds that `p` holds. -/
def awaitFrom (p : Machine → Bool) (deadline : Option Nat) : Nat → Machine → Machine
  | 0, m => m
  | fuel + 1, m =>
    let m := m.runRound
    if p m then m
    else if !m.ready.isEmpty then awaitFrom p deadline fuel m
    else
      match m.nextWake? deadline with
      | none => m
      | some time =>
        let m := m.passTo time
        if p m then m else awaitFrom p deadline fuel m

def await (m : Machine) (p : Machine → Bool) (deadline : Option Nat) : Machine :=
  { m.awaitFrom p deadline horizon with streak := 1 }

def giveWay (m : Machine) : Machine := { m.runRound with streak := 1 }

def spend (m : Machine) : Machine := if m.isTired then m.giveWay else m.gotDone

def sleepUntil (m : Machine) (time : Nat) : Machine :=
  if time ≤ m.elapsed then m.spend else m.await (fun m => time ≤ m.elapsed) (some time)

def awaitTables (m : Machine) (deadline : Option Nat) : Bool × Machine :=
  if !m.held then (true, { m with held := true }.spend)
  else
    let m := { m with waiting := m.waiting ++ [.caller] }
    let late (m : Machine) : Bool := deadline.any (· ≤ m.elapsed)
    let m := if late m then m.spend else m.await (fun m => m.granted || late m) deadline
    if m.granted then (true, { m with granted := false })
    else (false, { m with waiting := m.waiting.erase .caller })

/-- Runs a program of the caller to its end, or until it is given up at the deadline. If the
deadline has passed, that is when it has to give way, unless it was tired from the start. -/
def drive {α : Type} (deadline : Option Nat) : Nat → Act α → Machine → Option α × Machine
  | 0, _, m => (none, m)
  | fuel + 1, p, m =>
    let late (now : Machine) : Bool := !m.isTired && deadline.any (· ≤ now.elapsed)
    match advance false 0 p m with
    | (.ended a, m) => (some a, m)
    | (.yielding rest, m) =>
      if late m then (none, m.dropUnit) else drive deadline fuel rest m.giveWay
    | (.admitted fault next, m) =>
      if late m then (none, m.release)
      else
        let (answer, m) := m.giveWay.enter fault
        drive deadline fuel (next answer) m
    | (.asleep wake rest, m) =>
      let m := m.sleepUntil (deadline.elim wake (min wake))
      if wake ≤ m.elapsed then drive deadline fuel rest m else (none, m.dropUnit)
    | (.queued fault next, m) =>
      match m.awaitTables deadline with
      | (true, m) =>
        let (answer, m) := m.enter fault
        drive deadline fuel (next answer) m
      | (false, m) => (none, m)
    | (.crashed, m) => (none, m)

def complete {α : Type} (m : Machine) (op : Operation effects α) : Except QueueError α × Machine :=
  match m.drive none horizon op.run with
  | (some result, m) => (result, m)
  | (none, m) => (.error (.internal "the session has come to no end"), m)

def spawn (m : Machine) (t : Task) : Machine :=
  { m with tasks := m.tasks ++ [t], ready := m.ready ++ [m.tasks.length] }

def tell (m : Machine) (i : Nat) : Machine :=
  let m := { m with tasks := m.tasks.modify i ({ · with told := true }) }
  match m.tasks[i]? with
  | none => m
  | some t =>
    match t.state with
    | .pausing _ => m.runLater i
    | _ => m

def isOver (m : Machine) (i : Nat) : Bool := (m.tasks[i]?).all Task.isOver

def isCrashed (m : Machine) (i : Nat) : Bool := (m.tasks[i]?).any Task.isCrashed

/-- Waits for tasks in order, up to the first one that broke down. Says whether all of them came to
a regular end. -/
def join : List Nat → Machine → Bool × Machine
  | [], m => (true, m)
  | i :: rest, m =>
    let m := if m.isOver i then m.spend else m.await (·.isOver i) none
    if m.isCrashed i then (false, m) else join rest m

end WorkQueue.Session.Machine
