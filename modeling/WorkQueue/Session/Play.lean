import WorkQueue.Queue.Append
import WorkQueue.Session.Report
import WorkQueue.Session.Schedule

namespace WorkQueue.Session

namespace Machine

def snapshot (m : Machine) : Snapshot := ⟨m.backend.clock.now, m.backend.engine.tables⟩

def innerSnapshot (m : Machine) : Snapshot := ⟨m.unitTime, m.backend.engine.tables⟩

/-- A reader outside waits until no unit of work holds the tables. -/
def quiet (m : Machine) : Machine :=
  match m.awaitTables none with
  | (true, m) => m.release
  | (false, m) => m

def unitSteps : List UnitStep → Machine → List UnitReport × Machine
  | [], m => ([], m)
  | step :: rest, m =>
    let (answer, m) := m.drive none horizon (step.run.mapRequests HookRequest.toQueue)
    let report := ⟨answer.getD .done, m.innerSnapshot⟩
    let (reports, m) := unitSteps rest m
    (report :: reports, m)

def endUnit (m : Machine) : UnitEnd → Except StoreError Unit × Machine
  | .commit => m.close .commit Memory.Backend.commit
  | .rollback => m.close .rollback Memory.Backend.rollback
  | .drop => (.ok (), m.dropUnit)

def playUnit (m : Machine) (steps : List UnitStep) (last : UnitEnd) :
    Except StoreError (List UnitReport × Except StoreError Unit) × Machine :=
  let begin : Act (Except StoreError Unit) := .ask QueueRequest.begin .done
  match m.drive none horizon begin with
  | (some (.ok ()), m) =>
    let (reports, m) := unitSteps steps m
    let (result, m) := m.endUnit last
    (.ok (reports, result), m)
  | (some (.error e), m) => (.error e, m)
  | (none, m) => (.error Memory.Engine.noUnit, m)

def inspect (m : Machine) (id : ItemId) : Inspection :=
  let t := m.backend.engine.tables
  { status := t.status? id
    attempts := t.attempts? id
    completed := t.completed.contains id
    failures := (t.failures id).length
    members := Status.all.map t.itemsIn }

def commitWithin (m : Machine) (id : ItemId) (hook : HookScript) (ms : Nat) :
    CallReport × Machine :=
  let op : Operation effects Unit := Queue.commit m.setup.archives id hook.run
  match m.drive (some (m.elapsed + min ms longestWait)) horizon op.run with
  | (some result, m) => (.finished result, m)
  | (none, m) => (.dropped, m)

def cycle {α : Type} (m : Machine) (plan : Maintenance)
    (op : Maintenance → Operation effects α) : Except QueueError α × Machine :=
  match plan.validate with
  | .ok () => m.complete (op plan)
  | .error e => (.error e, m)

def play (m : Machine) : Call → CallReport × Machine
  | .append item => (m.complete (Queue.append item)).map .finished id
  | .appends items => (m.complete (Queue.appends items)).map .finished id
  | .read limit => (m.complete (Queue.readItems limit)).map .ids id
  | .cancel ids => (m.complete (Queue.cancelItems ids)).map .finished id
  | .commit item hook none =>
    (m.complete (Queue.commit m.setup.archives item hook.run)).map .finished id
  | .commit item hook (some ms) => m.commitWithin item hook ms
  | .reject item cause => (m.complete (Queue.reject m.setup.archives item cause)).map .finished id
  | .recover limit timeout =>
    (m.complete (Queue.recoverTimedOut m.setup.archives (m.setup.windows timeout none) limit)).map
      .ids id
  | .requeue limit delay =>
    (m.complete (Queue.requeue (m.setup.windows none delay) limit)).map .ids id
  | .removeExhausted limit => (m.complete (Queue.removeExhausted limit)).map .ids id
  | .removeCompleted limit expiry =>
    let retention := m.setup.retention expiry
    (m.complete (Queue.removeCompleted m.setup.archives retention limit)).map .ids id
  | .removeBroken limit expiry =>
    let retention := m.setup.retention expiry
    (m.complete (Queue.removeBroken m.setup.archives retention limit)).map .ids id
  | .changeCycle limits timeout delay =>
    let plan := m.setup.maintenance limits m.setup.config.maintenance timeout delay none
    (m.cycle plan Maintenance.changeCycle).map .recovery id
  | .cleanCycle limits expiry =>
    let plan := m.setup.maintenance limits m.setup.config.maintenance none none expiry
    (m.cycle plan Maintenance.cleanCycle).map .cleanup id
  | .advance d =>
    let m := m.advanceClock d
    (.time m.backend.clock.now, m)
  | .setClock t =>
    let m := { m with backend := { m.backend with clock := m.backend.clock.set t } }
    (.time m.backend.clock.now, m)
  | .fault f times => (.finished (.ok ()), { m with faults := m.faults ++ List.replicate times f })
  | .unit steps last => (m.playUnit steps last).map .unit id
  | .inspect item =>
    let m := m.quiet
    (.inspection (m.inspect item), m)
  | .policy timeout delay =>
    (.policy ⟨m.setup.windows timeout delay, m.setup.archives, m.setup.config⟩, m)
  | .metrics => (.metrics m.backend.metrics, m)

def spawnPool (m : Machine) (run : Nat) (pool : PoolScript) :
    Except QueueError (List Nat) × Machine :=
  match pool.config.validatePool pool.readLimit with
  | .error e => (.error e, m)
  | .ok () =>
    let count := pool.config.workers.toNat
    let first := m.tasks.length
    let worker (index : Nat) : Worker effects := {
      index
      archives := m.setup.archives
      readLimit := pool.readLimit
      config := pool.config
      handler := handler run pool.plain
      stopping := .ask (QueueRequest.app .stopping) .done }
    let task (index : Nat) : Task := {
      turn := (worker index).turn
      patience := waitMillis pool.config.handleTimeout
      timetable := none
      told := false
      streak := 0
      state := .ready (worker index).start }
    let m := (List.range count).foldl (fun m index => m.spawn (task index)) m
    (.ok ((List.range count).map (first + ·)), m.write (.poolStarted count))

def spawnMaintenance (m : Machine) (plan : Maintenance) : Except QueueError (List Nat) × Machine :=
  match plan.validate with
  | .error e => (.error e, m)
  | .ok () =>
    let stopping : Act Bool := .ask (QueueRequest.app .stopping) .done
    let task (chore : Chore) : Task := {
      turn := plan.turn stopping chore
      patience := 0
      timetable := some
        (Timetable.fire ⟨waitNanos (plan.period chore), m.elapsed * 1000000⟩ m.elapsed)
      told := false
      streak := 1
      state := .ready (plan.start stopping chore) }
    let first := m.tasks.length
    (.ok [first, first + 1], (m.spawn (task .recovery)).spawn (task .cleanup))

/-- Tells the tasks of `part` to stop, and waits for them. Of one that broke down no more is known
than that it did. -/
def shutdown (part : String) (tasks : List Nat) (m : Machine) : Except QueueError Unit × Machine :=
  let m := tasks.foldl tell m
  match m.join tasks with
  | (true, m) => (.ok (), m)
  | (false, m) => (.error (.internal s!"{part} join error: a task has broken down"), m)

/-- Stops what has been started; what has not been started, or could not be, stays as it is. -/
def shutdown? (part : String) (started : Option (Except QueueError (List Nat))) (m : Machine) :
    Option (Except QueueError Unit) × Machine :=
  match started with
  | none => (none, m)
  | some (.error e) => (some (.error e), m)
  | some (.ok tasks) => (m.shutdown part tasks).map some id

def start? {α : Type} (part : Option α)
    (spawn : α → Machine → Except QueueError (List Nat) × Machine) (m : Machine) :
    Option (Except QueueError (List Nat)) × Machine :=
  match part with
  | none => (none, m)
  | some a => (spawn a m).map some id

structure Started where
  run : Nat
  start : Nat
  pool : Option (Except QueueError (List Nat))
  maintenance : Option (Except QueueError (List Nat))

def startRun (m : Machine) (r : Run) : Started × Machine :=
  let start := m.elapsed
  let run := m.handlers.length
  let handlers : Handlers := ⟨r.handlers, [], start, []⟩
  let m := { m with
    handlers := m.handlers ++ [handlers]
    backend := { m.backend with origin := some start } }
  let (pool, m) := m.start? r.pool fun p m => m.spawnPool run p
  let (maintenance, m) := m.start? r.maintenance fun p m => m.spawnMaintenance p
  (⟨run, start, pool, maintenance⟩, m)

def endRun (m : Machine) (s : Started) : RunReport × Machine :=
  let (poolEnd, m) := m.shutdown? "Worker" s.pool
  let (maintenanceEnd, m) := m.shutdown? "Maintenance" s.maintenance
  let calls := (m.handlers[s.run]?.map (·.calls)).getD []
  let workers := match s.pool with
    | some (.ok tasks) => some tasks.length
    | _ => none
  (⟨calls.reverse, m.elapsed - s.start, workers, poolEnd, maintenanceEnd⟩,
    { m with backend := { m.backend with origin := none } })

mutual

def playStep : Step → Machine → StepResult × Machine
  | .call c, m => (m.play c).map .call id
  | .run r timed, m =>
    let (started, m) := m.startRun r
    let (results, m) := playTimed started.start timed m
    let m := m.sleepUntil (started.start + r.ms)
    let (report, m) := m.endRun started
    (.run report results, m)

def playTimed (start : Nat) : List (Nat × Step) → Machine → List StepResult × Machine
  | [], m => ([], m)
  | (ms, step) :: rest, m =>
    let (result, m) := playStep step (m.sleepUntil (start + ms))
    let (results, m) := playTimed start rest m
    (result :: results, m)

end

def report (m : Machine) (step : Step) (look : Bool) : StepReport × Machine :=
  let (result, m) := playStep step m
  let journal := sortStops m.backend.journal.reverse
  let hookAnswers := m.answers.reverse
  let m := { m with answers := [], backend := { m.backend with journal := [] } }
  let m := if look then m.quiet else m
  (⟨result, journal, hookAnswers, if look then some m.snapshot else none⟩, m)

def looksAfter (m : Machine) (isLast : Bool) : Bool :=
  match m.setup.attention with
  | .everyStep => true
  | .lastStep => isLast
  | .none => false

def playAll : List Step → Machine → List StepReport
  | [], _ => []
  | step :: rest, m =>
    let (report, m) := m.report step (m.looksAfter rest.isEmpty)
    report :: playAll rest m

end Machine

def play (s : Setup) (steps : List Step) : Except QueueError (List StepReport) := do
  s.config.validate
  return Machine.playAll steps (.start s)

end WorkQueue.Session
