import WorkQueue.Session.Play
import Mathlib.Logic.Relation

namespace WorkQueue.Session.Machine

/-- A step that runs no task. All else may change, but the tasks only where one is given the
tables. -/
inductive Beside : Machine → Machine → Prop
  | other {m m' : Machine} (h : m'.tasks = m.tasks) : Beside m m'
  | release {m m' : Machine} (h : m'.tasks = m.tasks) : Beside m m'.release

abbrev Besides : Machine → Machine → Prop := Relation.ReflTransGen Beside

inductive Move : Machine → Machine → Prop
  | beside {m m' : Machine} (h : Beside m m') : Move m m'
  | run (m : Machine) (i : Nat) : Move m (m.runTask i)
  | wake (m : Machine) (i : Nat) : Move m (m.wakeTask i)
  | spawn (m : Machine) (t : Task) : Move m (m.spawn t)
  | tell (m : Machine) (i : Nat) : Move m (m.tell i)

abbrev Later : Machine → Machine → Prop := Relation.ReflTransGen Move

section Besides

variable {m m' m'' : Machine} {p : FaultPoint} {α : Type}

theorem Besides.of_tasks (h : m'.tasks = m.tasks) : Besides m m' := .single (.other h)

theorem Besides.after (h : Besides m' m'') (hfirst : Besides m m') : Besides m m'' :=
  hfirst.trans h

theorem Besides.since (h : Besides m' m'') (htasks : m'.tasks = m.tasks) : Besides m m'' :=
  .head (.other htasks) h

theorem takeFault_tasks (m : Machine) (p : FaultPoint) : (m.takeFault p).2.tasks = m.tasks := by
  unfold takeFault
  split
  · split <;> rfl
  · rfl

theorem readClock_tasks (m : Machine) : m.readClock.2.tasks = m.tasks := by
  unfold readClock
  split <;> rfl

theorem emit_tasks (m : Machine) (e : Event) : (m.emit e).tasks = m.tasks := by
  unfold emit
  split <;> rfl

theorem onHandlers_tasks (m : Machine) (run : Nat) (otherwise : α) (f : Handlers → α × Handlers) :
    (m.onHandlers run otherwise f).2.tasks = m.tasks := by
  unfold onHandlers
  split <;> rfl

theorem offer_tasks (m : Machine) (run : Nat) (id : ItemId) (hook : HookScript) :
    (m.offer run id hook).tasks = m.tasks :=
  onHandlers_tasks ..

theorem perform_tasks (m : Machine) (c : StoreCall) : (m.perform c).2.tasks = m.tasks := by
  unfold perform
  simp only
  split
  · exact takeFault_tasks ..
  · exact takeFault_tasks ..

theorem besides_release (m : Machine) : Besides m m.release := .single (.release rfl)

theorem besides_dropUnit (m : Machine) : Besides m m.dropUnit := .single (.release rfl)

theorem besides_enter (m : Machine) (fault : Option StoreError) : Besides m (m.enter fault).2 := by
  unfold enter
  simp only
  split
  · exact .of_tasks m.readClock_tasks
  · exact .single (.release m.readClock_tasks)
  · exact .single (.release m.readClock_tasks)

theorem besides_close (m : Machine) (p : FaultPoint)
    (finish : Memory.Backend → Except StoreError Unit × Memory.Backend) :
    Besides m (m.close p finish).2 := by
  unfold close
  simp only
  split
  · exact .single (.release (m.takeFault_tasks p))
  · exact .single (.release (m.takeFault_tasks p))

theorem besides_advance (told : Bool) (patience : Nat) (p : Act α) (m : Machine) :
    Besides m (advance told patience p m).2 := by
  induction p generalizing m with
  | done a => exact .refl
  | ask q next ih =>
    cases q with
    | begin =>
      rw [advance]
      simp only
      split
      · exact (ih _ _).since (m.takeFault_tasks .begin)
      · split
        · exact .of_tasks (m.takeFault_tasks .begin)
        · split
          · exact .of_tasks (m.takeFault_tasks .begin)
          · exact (ih _ _).after ((besides_enter _ _).since (m.takeFault_tasks .begin))
    | store c => exact (ih _ _).since (m.perform_tasks c)
    | commit =>
      rw [advance]
      simp only
      exact (ih _ _).after (besides_close ..)
    | rollback =>
      rw [advance]
      simp only
      exact (ih _ _).after (besides_close ..)
    | emit e => exact (ih _ _).since (m.emit_tasks e)
    | note n => exact (ih _ _).since rfl
    | app r =>
      cases r with
      | store c => exact (ih _ _).since rfl
      | sleep ms =>
        rw [advance]
        split
        · exact .refl
        · split
          · exact .refl
          · exact (ih _ _).since rfl
      | advance d => exact (ih _ _).since rfl
      | unitTime => exact ih _ _
      | keep a => exact (ih _ _).since rfl
      | handle run id =>
        have hcalled : (m.callHandler run id).2.tasks = m.tasks := onHandlers_tasks ..
        rw [advance]
        simp only
        split
        · exact .of_tasks hcalled
        · exact (ih _ _).since ((offer_tasks ..).trans hcalled)
        · exact (ih _ _).since hcalled
        · split
          · exact .of_tasks hcalled
          · exact (ih _ _).since hcalled
        · exact .of_tasks hcalled
        · exact .of_tasks hcalled
        · exact .of_tasks hcalled
      | offer run id hook => exact (ih _ _).since (m.offer_tasks run id hook)
      | hookOf run id => exact ih _ _
      | stopping => exact ih _ _
      | breakDown => exact .refl

end Besides

/-- Every task is still there, and of those in `S` each one that is over has stayed as it was. -/
def Keeps (S : Nat → Prop) (m m' : Machine) : Prop :=
  ∀ i t, m.tasks[i]? = some t →
    ∃ t', m'.tasks[i]? = some t' ∧ (S i → t.isOver = true → t'.state = t.state)

section Keeps

variable {S : Nat → Prop} {m m' m'' : Machine} {i : Nat} {t : Task} {f : Task → Task}

theorem Keeps.of_tasks (h : m'.tasks = m.tasks) : Keeps S m m' :=
  fun i t ht => ⟨t, by rw [h, ht], fun _ _ => rfl⟩

theorem Keeps.trans (h : Keeps S m m') (h' : Keeps S m' m'') : Keeps S m m'' := by
  intro i t ht
  obtain ⟨t', ht', hstate⟩ := h i t ht
  obtain ⟨t'', ht'', hstate'⟩ := h' i t' ht'
  refine ⟨t'', ht'', fun hi hover => ?_⟩
  have hover' : t'.isOver = true := by
    simpa only [Task.isOver, hstate hi hover] using hover
  exact (hstate' hi hover').trans (hstate hi hover)

theorem Keeps.since (h : Keeps S m' m'') (htasks : m'.tasks = m.tasks) : Keeps S m m'' :=
  .trans (.of_tasks htasks) h

theorem Keeps.modify (htasks : m'.tasks = m.tasks.modify i f)
    (hf : S i → ∀ t, t.isOver = true → (f t).state = t.state) : Keeps S m m' := by
  intro j t ht
  rw [htasks, List.getElem?_modify, ht]
  by_cases hji : i = j
  · subst hji
    exact ⟨f t, by simp, fun hi => hf hi t⟩
  · exact ⟨t, by simp [hji], fun _ _ => rfl⟩

theorem Keeps.of_awake (h : Keeps (· ≠ i) m m') (ht : m.tasks[i]? = some t)
    (hawake : t.isOver = false) : Keeps S m m' := by
  intro j u hu
  obtain ⟨u', hu', hstate⟩ := h j u hu
  refine ⟨u', hu', fun _ hover => hstate ?_ hover⟩
  rintro rfl
  cases hu.symm.trans ht
  rw [hawake] at hover
  cases hover

theorem keeps_release (m : Machine) : Keeps S m m.release := by
  unfold release
  split
  · exact .of_tasks rfl
  · exact .of_tasks rfl
  · refine .modify rfl fun _ t hover => ?_
    cases hstate : t.state <;> simp_all [Task.isOver]

theorem Besides.keeps (h : Besides m m') : Keeps S m m' := by
  induction h with
  | refl => exact .of_tasks rfl
  | tail _ hstep ih =>
    cases hstep with
    | other htasks => exact ih.trans (.of_tasks htasks)
    | release htasks => exact ih.trans (.trans (.of_tasks htasks) (keeps_release _))

theorem keeps_modify (htasks : m'.tasks = m.tasks.modify i f) : Keeps (· ≠ i) m m' :=
  .modify htasks fun h => absurd rfl h

theorem keeps_setState (m : Machine) (i : Nat) (state : TaskState) :
    Keeps (· ≠ i) m (m.setState i state) :=
  keeps_modify rfl

theorem keeps_set (htasks : m'.tasks = m.tasks.set i t) : Keeps (· ≠ i) m m' := by
  intro j u hu
  rw [htasks, List.getElem?_set]
  split
  · next hij =>
    have hj := (List.getElem?_eq_some_iff.1 hu).1
    exact ⟨t, by simp [hij, hj], fun h => absurd hij.symm h⟩
  · exact ⟨u, hu, fun _ _ => rfl⟩

theorem keeps_settle (m : Machine) (i : Nat) (t : Task) (progress : Progress Turn) :
    Keeps (· ≠ i) m (m.settle i t progress).2 := by
  cases progress with
  | ended turn =>
    cases turn with
    | again => exact .of_tasks rfl
    | pause d =>
      simp only [settle, afterTurn]
      split
      · exact keeps_setState _ _ _
      · split
        · exact keeps_set rfl
        · exact keeps_set rfl
    | stop => exact keeps_setState _ _ _
  | yielding rest => exact keeps_set rfl
  | admitted fault next => exact keeps_set rfl
  | asleep wake rest => exact keeps_setState _ _ _
  | queued fault next => exact (keeps_setState _ _ _).trans (.of_tasks rfl)
  | crashed => exact keeps_setState _ _ _

theorem keeps_runTurns (i fuel : Nat) (p : Act Turn) (m : Machine) :
    Keeps (· ≠ i) m (runTurns i fuel p m) := by
  induction fuel generalizing p m with
  | zero => exact .of_tasks rfl
  | succ fuel ih =>
    rw [runTurns]
    split
    · exact .of_tasks rfl
    · next t _ =>
      have hsettled := (besides_advance t.told t.patience p m).keeps.trans
        (keeps_settle _ i t (advance t.told t.patience p m).1)
      simp only
      split
      · next hgoes =>
        rw [hgoes] at hsettled
        exact hsettled.trans (ih _ _)
      · next hwaits => rwa [hwaits] at hsettled

theorem keeps_runTask (m : Machine) (i : Nat) : Keeps S m (m.runTask i) := by
  unfold runTask
  split
  · exact .of_tasks rfl
  · next t ht =>
    split
    · next p hstate =>
      have hran := keeps_runTurns i horizon p { m with streak := t.streak }
      exact (hran.since rfl).of_awake ht (by simp [Task.isOver, hstate])
    · next fault next hstate =>
      have hentered : Keeps (· ≠ i) m ({ m with streak := 1 }.enter fault).2 :=
        ((besides_enter { m with streak := 1 } fault).since rfl).keeps
      refine (hentered.trans (keeps_runTurns i horizon _ _)).of_awake ht ?_
      simp [Task.isOver, hstate]
    · exact .of_tasks rfl

theorem keeps_wakeTask (m : Machine) (i : Nat) : Keeps S m (m.wakeTask i) := by
  unfold wakeTask
  split
  · exact .of_tasks rfl
  · next t ht =>
    split
    · next hstate =>
      split
      · exact (keeps_modify rfl).of_awake ht (by simp [Task.isOver, hstate])
      · exact .of_tasks rfl
    · next hstate =>
      split
      · exact (keeps_modify rfl).of_awake ht (by simp [Task.isOver, hstate])
      · exact .of_tasks rfl
    · exact .of_tasks rfl

theorem keeps_spawn (m : Machine) (t : Task) : Keeps S m (m.spawn t) := by
  intro i u hu
  refine ⟨u, ?_, fun _ _ => rfl⟩
  exact (List.getElem?_append_left (List.getElem?_eq_some_iff.1 hu).1).trans hu

theorem keeps_tell (m : Machine) (i : Nat) : Keeps S m (m.tell i) := by
  have htold : Keeps S m { m with tasks := m.tasks.modify i ({ · with told := true }) } :=
    .modify rfl fun _ _ _ => rfl
  unfold tell
  simp only
  split
  · exact htold
  · next t ht =>
    split
    · next hstate =>
      exact htold.trans ((keeps_modify rfl).of_awake ht (by simp [Task.isOver, hstate]))
    · exact htold

theorem Move.keeps (h : Move m m') : Keeps S m m' := by
  cases h with
  | beside h => exact Besides.keeps (.single h)
  | run i => exact keeps_runTask m i
  | wake i => exact keeps_wakeTask m i
  | spawn t => exact keeps_spawn m t
  | tell i => exact keeps_tell m i

theorem Later.keeps (h : Later m m') : Keeps S m m' := by
  induction h with
  | refl => exact .of_tasks rfl
  | tail _ hstep ih => exact ih.trans hstep.keeps

end Keeps

section Later

variable {m m' m'' : Machine} {α β : Type}

theorem Besides.later (h : Besides m m') : Later m m' :=
  Relation.ReflTransGen.mono (fun _ _ => .beside) m m' h

theorem Later.of_tasks (h : m'.tasks = m.tasks) : Later m m' := .single (.beside (.other h))

theorem Later.since (h : Later m' m'') (htasks : m'.tasks = m.tasks) : Later m m'' :=
  .head (.beside (.other htasks)) h

theorem Later.onto (h : Later m m') (htasks : m''.tasks = m'.tasks) : Later m m'' :=
  h.tail (.beside (.other htasks))

theorem Later.after (h : Later m' m'') (hfirst : Later m m') : Later m m'' := hfirst.trans h

theorem later_foldl {f : Machine → β → Machine} (hf : ∀ m b, Later m (f m b)) (l : List β)
    (m : Machine) : Later m (l.foldl f m) := by
  induction l generalizing m with
  | nil => exact .refl
  | cons b l ih => exact (ih _).after (hf m b)

theorem later_runReady (n : Nat) (m : Machine) : Later m (runReady n m) := by
  induction n generalizing m with
  | zero => exact .refl
  | succ n ih =>
    rw [runReady]
    split
    · next i rest _ =>
      have hran : Later m (runTask { m with ready := rest } i) :=
        Later.since (.single (.run _ i)) rfl
      exact (ih _).after hran
    · exact .refl

theorem later_runRound (m : Machine) : Later m m.runRound :=
  (later_runReady round m).onto rfl

theorem later_passTo (m : Machine) (time : Nat) : Later m (m.passTo time) :=
  (later_foldl (fun _ i => .single (.wake _ i)) _ _).since rfl

theorem later_awaitFrom (p : Machine → Bool) (deadline : Option Nat) (fuel : Nat) (m : Machine) :
    Later m (awaitFrom p deadline fuel m) := by
  induction fuel generalizing m with
  | zero => exact .refl
  | succ fuel ih =>
    have hround := later_runRound m
    rw [awaitFrom]
    simp only
    split
    · exact hround
    · split
      · exact (ih _).after hround
      · split
        · exact hround
        · next time _ =>
          split
          · exact (later_passTo _ time).after hround
          · exact (ih _).after ((later_passTo _ time).after hround)

theorem later_await (m : Machine) (p : Machine → Bool) (deadline : Option Nat) :
    Later m (m.await p deadline) :=
  (later_awaitFrom p deadline horizon m).onto rfl

theorem later_giveWay (m : Machine) : Later m m.giveWay :=
  (later_runRound m).onto rfl

theorem later_spend (m : Machine) : Later m m.spend := by
  unfold spend
  split
  · exact later_giveWay m
  · exact .of_tasks rfl

theorem later_sleepUntil (m : Machine) (time : Nat) : Later m (m.sleepUntil time) := by
  unfold sleepUntil
  split
  · exact later_spend m
  · exact later_await ..

theorem later_awaitTables (m : Machine) (deadline : Option Nat) :
    Later m (m.awaitTables deadline).2 := by
  unfold awaitTables
  split
  · exact (later_spend { m with held := true }).since rfl
  · -- The caller waits in line, unless it is late from the start.
    have hwaited (queued : Machine) (late : Machine → Bool) : Later queued
        (if late queued then queued.spend
          else queued.await (fun m => m.granted || late m) deadline) := by
      split
      · exact later_spend queued
      · exact later_await ..
    have hqueued := (hwaited { m with waiting := m.waiting ++ [Party.caller] }
      fun m => deadline.any (· ≤ m.elapsed)).since (m := m) rfl
    have hend (m : Machine) : (if m.granted then (true, { m with granted := false })
        else (false, { m with waiting := m.waiting.erase .caller })).2.tasks = m.tasks := by
      split <;> rfl
    exact hqueued.onto (hend _)

theorem later_drive (deadline : Option Nat) (fuel : Nat) (p : Act α) (m : Machine) :
    Later m (drive deadline fuel p m).2 := by
  induction fuel generalizing p m with
  | zero => exact .refl
  | succ fuel ih =>
    have hadvanced : Later m (advance false 0 p m).2 := (besides_advance false 0 p m).later
    rw [drive]
    simp only
    split
    · next h =>
      rw [h] at hadvanced
      exact hadvanced
    · next rest m' h =>
      rw [h] at hadvanced
      split
      · exact (besides_dropUnit m').later.after hadvanced
      · exact (ih _ _).after ((later_giveWay m').after hadvanced)
    · next fault next m' h =>
      rw [h] at hadvanced
      have hyielded := (later_giveWay m').after hadvanced
      split
      · exact (besides_release m').later.after hadvanced
      · exact (ih _ _).after ((besides_enter _ fault).later.after hyielded)
    · next wake rest m' h =>
      rw [h] at hadvanced
      have hslept := (later_sleepUntil m' (deadline.elim wake (min wake))).after hadvanced
      split
      · exact (ih _ _).after hslept
      · exact (besides_dropUnit _).later.after hslept
    · next fault next m' h =>
      rw [h] at hadvanced
      have htables := (later_awaitTables m' deadline).after hadvanced
      split
      · next h' =>
        rw [h'] at htables
        exact (ih _ _).after ((besides_enter _ fault).later.after htables)
      · next h' => rwa [h'] at htables
    · next h => rwa [h] at hadvanced

theorem later_complete (m : Machine) (op : Operation effects α) : Later m (m.complete op).2 := by
  have hdriven := later_drive none horizon op.run m
  unfold complete
  split
  · next h => rwa [h] at hdriven
  · next h => rwa [h] at hdriven

end Later

section Sessions

variable {m : Machine} {α : Type}

def awaitTask (i : Nat) (m : Machine) : Machine :=
  if m.isOver i then m.spend else m.await (·.isOver i) none

theorem join_cons (i : Nat) (rest : List Nat) (m : Machine) : m.join (i :: rest) =
    if (awaitTask i m).isCrashed i then (false, awaitTask i m) else (awaitTask i m).join rest :=
  rfl

theorem later_awaitTask (i : Nat) (m : Machine) : Later m (awaitTask i m) := by
  unfold awaitTask
  split
  · exact later_spend m
  · exact later_await ..

theorem later_join (tasks : List Nat) (m : Machine) : Later m (m.join tasks).2 := by
  induction tasks generalizing m with
  | nil => exact .refl
  | cons i rest ih =>
    rw [join_cons]
    split
    · exact later_awaitTask i m
    · exact (ih _).after (later_awaitTask i m)

theorem later_tellAll (tasks : List Nat) (m : Machine) : Later m (tasks.foldl tell m) :=
  later_foldl (fun _ i => .single (.tell _ i)) tasks m

theorem later_shutdown (part : String) (tasks : List Nat) (m : Machine) :
    Later m (m.shutdown part tasks).2 := by
  have hjoined := (later_join tasks (tasks.foldl tell m)).after (later_tellAll tasks m)
  unfold shutdown
  simp only
  split
  · next h => rwa [h] at hjoined
  · next h => rwa [h] at hjoined

theorem later_quiet (m : Machine) : Later m m.quiet := by
  have htables := later_awaitTables m none
  unfold quiet
  split
  · next m' h =>
    rw [h] at htables
    exact (besides_release m').later.after htables
  · next h => rwa [h] at htables

theorem later_unitSteps (steps : List UnitStep) (m : Machine) :
    Later m (unitSteps steps m).2 := by
  induction steps generalizing m with
  | nil => exact .refl
  | cons step rest ih =>
    rw [unitSteps]
    exact (ih _).after (later_drive ..)

theorem later_endUnit (m : Machine) (last : UnitEnd) : Later m (m.endUnit last).2 := by
  cases last with
  | commit => exact (besides_close ..).later
  | rollback => exact (besides_close ..).later
  | drop => exact (besides_dropUnit m).later

theorem later_playUnit (m : Machine) (steps : List UnitStep) (last : UnitEnd) :
    Later m (m.playUnit steps last).2 := by
  have hbegun := later_drive none horizon
    (.ask QueueRequest.begin .done : Act (Except StoreError Unit)) m
  unfold playUnit
  simp only
  split
  · next m' h =>
    rw [h] at hbegun
    exact (later_endUnit _ last).after ((later_unitSteps steps m').after hbegun)
  · next h => rwa [h] at hbegun
  · next h => rwa [h] at hbegun

theorem later_commitWithin (m : Machine) (id : ItemId) (hook : HookScript) (ms : Nat) :
    Later m (m.commitWithin id hook ms).2 := by
  have hdriven := later_drive (some (m.elapsed + min ms longestWait)) horizon
    (Queue.commit m.setup.archives id hook.run : Operation effects Unit).run m
  unfold commitWithin
  simp only
  split
  · next h => rwa [h] at hdriven
  · next h => rwa [h] at hdriven

theorem later_cycle (m : Machine) (plan : Maintenance) (op : Maintenance → Operation effects α) :
    Later m (m.cycle plan op).2 := by
  unfold cycle
  split
  · exact later_complete ..
  · exact .refl

theorem later_play (m : Machine) (c : Call) : Later m (m.play c).2 := by
  cases c with
  | append | appends | read | cancel | reject | recover | requeue | removeExhausted
  | removeCompleted | removeBroken => exact later_complete ..
  | commit id hook dropAfter =>
    cases dropAfter with
    | none => exact later_complete ..
    | some ms => exact later_commitWithin ..
  | changeCycle | cleanCycle => exact later_cycle ..
  | advance | setClock | fault => exact .of_tasks rfl
  | unit steps last => exact later_playUnit ..
  | inspect => exact later_quiet m
  | policy | metrics => exact .refl

theorem later_spawnPool (m : Machine) (run : Nat) (pool : PoolScript) :
    Later m (m.spawnPool run pool).2 := by
  unfold spawnPool
  split
  · exact .refl
  · exact (later_foldl (fun _ _ => .single (.spawn _ _)) _ m).onto rfl

theorem later_spawnMaintenance (m : Machine) (plan : Maintenance) :
    Later m (m.spawnMaintenance plan).2 := by
  unfold spawnMaintenance
  split
  · exact .refl
  · exact (Relation.ReflTransGen.single (.spawn _ _)).tail (.spawn _ _)

theorem later_start? (part : Option α)
    (spawn : α → Machine → Except QueueError (List Nat) × Machine)
    (hspawn : ∀ a m, Later m (spawn a m).2) (m : Machine) : Later m (m.start? part spawn).2 := by
  cases part with
  | none => exact .refl
  | some a => exact hspawn a m

theorem later_shutdown? (part : String) (started : Option (Except QueueError (List Nat)))
    (m : Machine) : Later m (m.shutdown? part started).2 := by
  match started with
  | none => exact .refl
  | some (.error _) => exact .refl
  | some (.ok tasks) => exact later_shutdown part tasks m

theorem later_startRun (m : Machine) (r : Run) : Later m (m.startRun r).2 :=
  (later_start? _ _ (fun _ _ => later_spawnMaintenance ..) _).after
    ((later_start? _ _ (fun _ _ => later_spawnPool ..) _).since rfl)

theorem later_endRun (m : Machine) (s : Started) : Later m (m.endRun s).2 :=
  ((later_shutdown? _ _ _).after (later_shutdown? _ s.pool m)).onto rfl

mutual

theorem later_playStep : (step : Step) → (m : Machine) → Later m (playStep step m).2
  | .call c, m => later_play m c
  | .run r timed, m => by
    rw [playStep]
    exact (later_endRun _ _).after ((later_sleepUntil _ _).after
      ((later_playTimed _ timed _).after (later_startRun m r)))

theorem later_playTimed (start : Nat) : (timed : List (Nat × Step)) → (m : Machine) →
    Later m (playTimed start timed m).2
  | [], _ => .refl
  | (ms, step) :: rest, m => by
    rw [playTimed]
    exact (later_playTimed start rest _).after ((later_playStep step _).after
      (later_sleepUntil m (start + ms)))

end

end Sessions

end WorkQueue.Session.Machine
