import WorkQueue.Proofs.Chore
import WorkQueue.Proofs.Validation
import WorkQueue.Proofs.Waiting

namespace WorkQueue

namespace Operation

variable {X : Effects} {α β σ : Type} (answer : Answers X σ)

theorem exec_outcome_bind (op : Operation X α) (f : Except QueueError α → Operation X β) (s : σ) :
    (outcome op >>= f).exec answer s =
      (f (op.exec answer s).1).exec answer (op.exec answer s).2 := by
  rw [exec_bind, exec_outcome]

theorem trace_outcome_bind (op : Operation X α) (f : Except QueueError α → Operation X β) (s : σ) :
    (outcome op >>= f).trace answer s =
      op.trace answer s ++ (f (op.exec answer s).1).trace answer (op.exec answer s).2 := by
  rw [trace_bind, exec_outcome, trace_outcome]

theorem exec_map (f : α → β) (op : Operation X α) (s : σ) :
    (f <$> op).exec answer s = ((op.exec answer s).1.map f, (op.exec answer s).2) := by
  rw [map_eq_pure_bind, exec_bind]
  obtain ⟨_ | _, _⟩ := op.exec answer s <;> rfl

theorem trace_map (f : α → β) (op : Operation X α) (s : σ) :
    (f <$> op).trace answer s = op.trace answer s := by
  rw [map_eq_pure_bind, trace_bind]
  obtain ⟨_ | _, _⟩ := op.exec answer s <;> exact List.append_nil _

end Operation

namespace Queue

open Operation

theorem isInput_of_blame {subject : Subject} {x : Step} {e : QueueError}
    (h : blame subject x = some e) : e.isInput = false := by
  unfold blame at h
  split at h
  · cases h; rfl
  · cases h; rfl
  · cases h; rfl
  · split at h
    · cases h; rfl
    · cases h
  · cases h; rfl
  · cases h

namespace Call

def countAll : List (Except QueueError Reply) → Except QueueError (List Nat)
  | [] => .ok []
  | .ok r :: results => (countAll results).map (r.items.length :: ·)
  | .error e :: _ => .error e

theorem countAll_eq_ok_iff {results : List (Except QueueError Reply)} {counts : List Nat} :
    countAll results = .ok counts ↔ ∃ replies : List Reply,
      results = replies.map .ok ∧ counts = replies.map (·.items.length) := by
  constructor
  · intro h
    induction results generalizing counts with
    | nil =>
      cases h
      exact ⟨[], rfl, rfl⟩
    | cons result results ih =>
      obtain e | r := result
      · cases h
      · rw [countAll] at h
        cases hrest : countAll results with
        | error e =>
          rw [hrest] at h
          cases h
        | ok rest =>
          obtain ⟨replies, rfl, rfl⟩ := ih hrest
          rw [hrest] at h
          cases h
          exact ⟨r :: replies, rfl, rfl⟩
  · rintro ⟨replies, rfl, rfl⟩
    induction replies with
    | nil => rfl
    | cons r replies ih =>
      rw [List.map_cons, countAll, ih]
      rfl

theorem countAll_eq_error_iff {results : List (Except QueueError Reply)} {e : QueueError} :
    countAll results = .error e ↔ ∃ (replies : List Reply) (later : List (Except QueueError Reply)),
      results = replies.map .ok ++ .error e :: later := by
  constructor
  · intro h
    induction results with
    | nil => cases h
    | cons result results ih =>
      obtain e' | r := result
      · cases h
        exact ⟨[], results, rfl⟩
      · rw [countAll] at h
        cases hrest : countAll results with
        | error e' =>
          rw [hrest] at h
          cases h
          obtain ⟨replies, later, rfl⟩ := ih hrest
          exact ⟨r :: replies, later, rfl⟩
        | ok rest =>
          rw [hrest] at h
          cases h
  · rintro ⟨replies, later, rfl⟩
    induction replies with
    | nil => rfl
    | cons r replies ih =>
      rw [List.map_cons, List.cons_append, countAll, ih]
      rfl

variable {X : Effects} {σ : Type} (answer : Answers X σ) (hook : Hook X)

def execAll : List Call → σ → List (Except QueueError Reply) × σ
  | [], s => ([], s)
  | c :: calls, s =>
    let (result, s) := (c.program hook).exec answer s
    let (results, s) := execAll calls s
    (result :: results, s)

def traceAll : List Call → σ → List (Exchange (queueEffects X))
  | [], _ => []
  | c :: calls, s =>
    (c.program hook).trace answer s ++ traceAll calls ((c.program hook).exec answer s).2

theorem isInput_of_error {c : Call} {s : σ} {e : QueueError} (hfault : c.fault? = none)
    (he : ((c.program hook).exec answer s).1 = .error e) : e.isInput = false := by
  have hcourse := Course.program (answer.withHook hook) c s
  rw [(c.mirrors answer hook s).1] at he
  rw [he] at hcourse
  generalize (c.program .call).trace (answer.withHook hook) s = steps at hcourse
  cases hcourse with
  | refused h => cases hfault.symm.trans h
  | failed _ _ hunit =>
    cases hunit with
    | unopened | uncommitted => rfl
    | rolledBack _ _ hblame => exact isInput_of_blame hblame

theorem isInput_of_execAll {calls : List Call} {s : σ} (hfault : ∀ c ∈ calls, c.fault? = none)
    {e : QueueError} (he : .error e ∈ (execAll answer hook calls s).1) : e.isInput = false := by
  induction calls generalizing s with
  | nil => cases he
  | cons c calls ih =>
    obtain ⟨hfirst, hlater⟩ := List.forall_mem_cons.1 hfault
    rcases List.mem_cons.1 he with he | he
    · exact isInput_of_error answer hook hfirst he.symm
    · exact ih hlater he

end Call

end Queue

def RecoveryReport.counts (r : RecoveryReport) : List Nat := [r.recovered, r.requeued]

def CleanupReport.counts (r : CleanupReport) : List Nat := [r.exhausted, r.completed, r.broken]

namespace Maintenance

open Queue Operation

def calls (m : Maintenance) : Chore → List Call
  | .recovery => [
    .recoverTimedOut m.archives m.windows m.limits.changeProcessingToRetry,
    .requeue m.windows m.limits.changeRetryToReady]
  | .cleanup => [
    .removeExhausted m.limits.removeItemsWithoutAttempts,
    .removeCompleted m.archives m.retention m.limits.removeCompletedItems,
    .removeBroken m.archives m.retention m.limits.removeBrokenItems]

theorem fault?_of_mem_calls {m : Maintenance} (h : m.validate = .ok ()) {chore : Chore} {c : Call}
    (hc : c ∈ m.calls chore) : c.fault? = none := by
  obtain ⟨-, hrecover, hrequeue, hdiscard, hcompleted, hbroken⟩ := positive_of_validate h
  cases chore with
  | recovery =>
    obtain rfl | rfl : c = _ ∨ c = _ := by simpa [calls] using hc
    · simp [Call.fault?, hrecover]
    · simp [Call.fault?, hrequeue]
  | cleanup =>
    obtain rfl | rfl | rfl : c = _ ∨ c = _ ∨ c = _ := by simpa [calls] using hc
    · simp [Call.fault?, hdiscard]
    · simp [Call.fault?, hcompleted]
    · simp [Call.fault?, hbroken]

/-- A cycle that is made of `calls`: it makes all of them, and reports the numbers of items in their
lists if every one of them succeeds and the first failure otherwise. -/
structure MakesAll {X : Effects} {ρ : Type} (op : Operation X ρ) (counts : ρ → List Nat)
    (calls : List Call) : Prop where
  asked : ∀ {σ : Type} (answer : Answers X σ) (hook : Hook X) (s : σ),
    op.trace answer s = Call.traceAll answer hook calls s
  left : ∀ {σ : Type} (answer : Answers X σ) (hook : Hook X) (s : σ),
    (op.exec answer s).2 = (Call.execAll answer hook calls s).2
  reported : ∀ {σ : Type} (answer : Answers X σ) (hook : Hook X) (s : σ) (report : ρ),
    (op.exec answer s).1 = .ok report ↔ ∃ replies : List Reply,
      (Call.execAll answer hook calls s).1 = replies.map .ok ∧
        counts report = replies.map (·.items.length)
  failed : ∀ {σ : Type} (answer : Answers X σ) (hook : Hook X) (s : σ) (e : QueueError),
    (op.exec answer s).1 = .error e ↔
      ∃ (replies : List Reply) (later : List (Except QueueError Reply)),
        (Call.execAll answer hook calls s).1 = replies.map .ok ++ .error e :: later

theorem MakesAll.of_countAll {X : Effects} {ρ : Type} {op : Operation X ρ} {counts : ρ → List Nat}
    {calls : List Call} (hcounts : ∀ r r', counts r = counts r' → r = r')
    (htrace : ∀ {σ : Type} (answer : Answers X σ) (hook : Hook X) (s : σ),
      op.trace answer s = Call.traceAll answer hook calls s)
    (hexec : ∀ {σ : Type} (answer : Answers X σ) (hook : Hook X) (s : σ),
      ((op.exec answer s).1.map counts, (op.exec answer s).2) =
        (Call.execAll answer hook calls s).map Call.countAll id) : MakesAll op counts calls where
  asked := htrace
  left answer hook s := congrArg Prod.snd (hexec answer hook s)
  reported answer hook s report := by
    have hresult : (op.exec answer s).1.map counts = Call.countAll _ :=
      congrArg Prod.fst (hexec answer hook s)
    rw [← Call.countAll_eq_ok_iff, ← hresult]
    cases (op.exec answer s).1 with
    | error e => exact ⟨nofun, nofun⟩
    | ok r => exact ⟨fun h => by cases h; rfl, fun h => by rw [hcounts r report (Except.ok.inj h)]⟩
  failed answer hook s e := by
    have hresult : (op.exec answer s).1.map counts = Call.countAll _ :=
      congrArg Prod.fst (hexec answer hook s)
    rw [← Call.countAll_eq_error_iff, ← hresult]
    cases (op.exec answer s).1 with
    | error e' => exact ⟨fun h => by cases h; rfl, fun h => by cases h; rfl⟩
    | ok r => exact ⟨nofun, nofun⟩

theorem makesAll_changeCycle {X : Effects} (m : Maintenance) :
    MakesAll (X := X) m.changeCycle RecoveryReport.counts (m.calls .recovery) := by
  refine .of_countAll ?_ ?_ ?_
  · rintro ⟨_, _⟩ ⟨_, _⟩ h
    cases h
    rfl
  · intro σ answer hook s
    simp only [changeCycle, calls, Call.traceAll, Call.program, bind_pure_comp,
      trace_outcome_bind, exec_map, trace_map]
    cases (exec answer (Queue.recoverTimedOut m.archives m.windows _) s).1 <;>
      cases (exec answer (Queue.requeue m.windows _) _).1 <;> rfl
  · intro σ answer hook s
    simp only [changeCycle, calls, Call.execAll, Call.program, bind_pure_comp,
      exec_outcome_bind, exec_map]
    cases (exec answer (Queue.recoverTimedOut m.archives m.windows _) s).1 <;>
      cases (exec answer (Queue.requeue m.windows _) _).1 <;> rfl

theorem makesAll_cleanCycle {X : Effects} (m : Maintenance) :
    MakesAll (X := X) m.cleanCycle CleanupReport.counts (m.calls .cleanup) := by
  refine .of_countAll ?_ ?_ ?_
  · rintro ⟨_, _, _⟩ ⟨_, _, _⟩ h
    cases h
    rfl
  · intro σ answer hook s
    simp only [cleanCycle, calls, Call.traceAll, Call.program, bind_pure_comp,
      trace_outcome_bind, exec_map, trace_map]
    cases (exec answer (Queue.removeExhausted _) s).1 <;>
      cases (exec answer (Queue.removeCompleted _ _ _) _).1 <;>
      cases (exec answer (Queue.removeBroken _ _ _) _).1 <;> rfl
  · intro σ answer hook s
    simp only [cleanCycle, calls, Call.execAll, Call.program, bind_pure_comp,
      exec_outcome_bind, exec_map]
    cases (exec answer (Queue.removeExhausted _) s).1 <;>
      cases (exec answer (Queue.removeCompleted _ _ _) _).1 <;>
      cases (exec answer (Queue.removeBroken _ _ _) _).1 <;> rfl

end Maintenance

namespace Memory

open Queue Operation

variable {S : UnitOfWork → UnitOfWork → Prop}

structure Made where
  now : Instant
  call : Call
  result : Except QueueError Reply
  events : List Event

def Made.succeeded (made : Made) : Bool := made.result.isOk

def Collaborator.made (g : Collaborator S) : List Call → Backend → List Made
  | [], _ => []
  | c :: calls, b => ⟨b.clock.now, c, (g.run c b).1, g.events c b⟩ :: g.made calls (g.run c b).2

inductive Composes (S : UnitOfWork → UnitOfWork → Prop) : List Made → Tables → Tables → Prop
  | nil {t} : Composes S [] t t
  | cons {made later t u t'} (h : Outcome S made.now t made.call made.result made.events u)
    (rest : Composes S later u t') : Composes S (made :: later) t t'

theorem Outcome.of_failed {made : Made} {t t' : Tables}
    (h : Outcome S made.now t made.call made.result made.events t')
    (hfailed : made.succeeded = false) : made.events = [] ∧ t' = t := by
  obtain ⟨now, call, e | r, events⟩ := made
  · exact h.of_error
  · cases hfailed

theorem Composes.filter_succeeded {made : List Made} {t t' : Tables} (h : Composes S made t t') :
    Composes S (made.filter (·.succeeded)) t t' ∧
      (made.filter (·.succeeded)).flatMap (·.events) = made.flatMap (·.events) := by
  induction h with
  | nil => exact ⟨.nil, rfl⟩
  | @cons made later t u t' h rest ih =>
    cases hsucceeded : made.succeeded with
    | true =>
      rw [List.filter_cons_of_pos hsucceeded, List.flatMap_cons, List.flatMap_cons, ih.2]
      exact ⟨.cons h ih.1, rfl⟩
    | false =>
      obtain ⟨hevents, rfl⟩ := h.of_failed hsucceeded
      rw [List.filter_cons_of_neg (by simp [hsucceeded]), List.flatMap_cons, hevents]
      exact ih

namespace Collaborator

variable (g : Collaborator S)

theorem made_call (calls : List Call) (b : Backend) : (g.made calls b).map (·.call) = calls := by
  induction calls generalizing b with
  | nil => rfl
  | cons c calls ih => rw [made, List.map_cons, ih]

theorem made_result (calls : List Call) (b : Backend) :
    (g.made calls b).map (·.result) = (Call.execAll g.serve .call calls b).1 := by
  induction calls generalizing b with
  | nil => rfl
  | cons c calls ih =>
    rw [made, List.map_cons, ih]
    rfl

theorem made_events (calls : List Call) (b : Backend) :
    (g.made calls b).flatMap (·.events) =
      (Call.traceAll g.serve .call calls b).filterMap emitted? := by
  induction calls generalizing b with
  | nil => rfl
  | cons c calls ih =>
    rw [made, List.flatMap_cons, ih, Call.traceAll, List.filterMap_append]
    rfl

end Collaborator

namespace Backend

variable {b : Backend} {id : ItemId}

theorem Free.composes (h : b.Free) (g : Collaborator S) (calls : List Call) :
    Composes S (g.made calls b) b.tables (Call.execAll g.serve .call calls b).2.tables := by
  induction calls generalizing b with
  | nil => exact .nil
  | cons c calls ih =>
    obtain ⟨hfree, houtcome⟩ := h.outcome g c
    exact .cons houtcome (ih hfree)

end Backend

section Promotion

variable {now time : Instant} {d : Duration} {row : Row}

theorem first_lt_of_overdue (htime : deadline now d = .ok time) (h : overdue time row = true) :
    Instant.first < now := by
  rw [overdue, Bool.and_eq_true, decide_eq_true_eq] at h
  have hlt := lt_of_lt_deadline htime h.2
  have hlower := row.time.lower
  change (-8334601228800000000000 : Int) < now.nanos
  omega

theorem earlier_lt (hnow : Instant.first < now) (hd : 0 < d.nanos) : now.earlier d < now := by
  have hupper := now.upper
  rw [Instant.earlier, Instant.clamp]
  split
  · exact hnow
  · split
    · omega
    · change now.nanos - d.nanos < now.nanos
      omega

theorem not_rested_entering (hnow : Instant.first < now) (hd : 0 < d.nanos)
    (htime : deadline now d = .ok time) : rested time (entering .retry now row) = false := by
  rw [deadline_ok htime]
  have hlate : ¬now ≤ now.earlier d := Int.not_le.2 (earlier_lt hnow hd)
  simp [rested, entering, hlate]

end Promotion

namespace Backend

variable {b : Backend} {g : Collaborator S} {id : ItemId} {row : Row}

theorem Free.clock_recoverTimedOut (h : b.Free) {archives : WorkQueue.Archives}
    {w : RecoveryWindows} {limit : UInt32} (hlimit : limit ≠ 0) :
    (g.run (.recoverTimedOut archives w limit) b).2.clock = b.clock := by
  cases htime : deadline b.clock.now w.timeout with
  | ok time =>
    obtain ⟨_, -, hclock⟩ := Collaborator.run_recoverTimedOut (g := g) h archives hlimit htime
    exact hclock
  | error e =>
    obtain ⟨b', hrun, -, hclock, -⟩ :=
      (Chore.recoverTimedOut archives w).run_error (g := g) h hlimit htime
    exact (congrArg (·.2.clock) hrun).trans hclock

theorem Free.row?_recoverTimedOut (h : b.Free) {archives : WorkQueue.Archives} {w : RecoveryWindows}
    {limit : UInt32} (hrow : b.row? id = some row) :
    (g.run (.recoverTimedOut archives w limit) b).2.row? id = some row ∨
      Instant.first < b.clock.now ∧ (g.run (.recoverTimedOut archives w limit) b).2.row? id =
        some (entering .retry b.clock.now row) := by
  cases hresult : (g.run (.recoverTimedOut archives w limit) b).1 with
  | error e =>
    rw [row?, (h.outcome_error hresult).2]
    exact .inl hrow
  | ok r =>
    obtain ⟨time, htime, hswept⟩ := (h.outcome_ok hresult).swept_recover
    rcases hswept.forth hrow with hsame | ⟨hoverdue, hafter⟩
    · exact .inl hsame
    · exact .inr ⟨first_lt_of_overdue htime hoverdue, hafter⟩

theorem Free.status?_requeue (h : b.Free) {w : RecoveryWindows} {limit : UInt32}
    (hrow : b.row? id = some row) (hstatus : row.status ≠ .ready)
    (hwaits : ∀ time, deadline b.clock.now w.delay = .ok time → rested time row = false) :
    (g.run (.requeue w limit) b).2.status? id ≠ some .ready := by
  have hbefore : b.status? id ≠ some .ready := by simpa [status?_eq, hrow] using hstatus
  cases hresult : (g.run (.requeue w limit) b).1 with
  | error e =>
    rw [status?, (h.outcome_error hresult).2]
    exact hbefore
  | ok r =>
    obtain ⟨time, htime, hswept⟩ := (h.outcome_ok hresult).swept_requeue
    rcases hswept.forth hrow with hsame | ⟨hrested, -⟩
    · rw [status?_eq, row?, hsame]
      simpa using hstatus
    · exact absurd (hwaits time htime) (by simp [hrested])

theorem Free.not_promoted (h : b.Free) {archives : WorkQueue.Archives} {w : RecoveryWindows}
    {limit limit' : UInt32} (hlimit : limit ≠ 0) (hdelay : 0 < w.delay.nanos)
    (hstatus : b.status? id = some .processing) :
    (g.run (.requeue w limit') (g.run (.recoverTimedOut archives w limit) b).2).2.status? id ≠
      some .ready := by
  obtain ⟨row, hrow, hprocessing⟩ := Option.map_eq_some_iff.1 hstatus
  have hfree := (h.outcome g (.recoverTimedOut archives w limit)).1
  have hclock : (g.run (.recoverTimedOut archives w limit) b).2.clock = b.clock :=
    h.clock_recoverTimedOut hlimit
  have hswept : (g.run (.recoverTimedOut archives w limit) b).2.row? id = some row ∨
      Instant.first < b.clock.now ∧ (g.run (.recoverTimedOut archives w limit) b).2.row? id =
        some (entering .retry b.clock.now row) := h.row?_recoverTimedOut hrow
  rcases hswept with hafter | ⟨hfirst, hafter⟩
  · refine hfree.status?_requeue hafter (by simp [hprocessing]) fun time _ => ?_
    simp [rested, hprocessing]
  · refine hfree.status?_requeue hafter (by simp [entering]) fun time htime => ?_
    rw [hclock] at htime
    exact not_rested_entering hfirst hdelay htime

end Backend

/-- What becomes of a cycle that is made of `calls`: whichever of them fail, the tables and the
events are those of the others. -/
structure Cycled (g : Collaborator S) (calls : List Call) (b : Backend) : Prop where
  order : (g.made calls b).map (·.call) = calls
  results : (g.made calls b).map (·.result) = (Call.execAll g.serve .call calls b).1
  tables : Composes S ((g.made calls b).filter (·.succeeded)) b.tables
    (Call.execAll g.serve .call calls b).2.tables
  events : ((g.made calls b).filter (·.succeeded)).flatMap (·.events) =
    (Call.traceAll g.serve .call calls b).filterMap emitted?

structure Isolated (m : Maintenance) : Prop where
  recovery : ∀ {X : Effects},
    Maintenance.MakesAll (X := X) m.changeCycle RecoveryReport.counts (m.calls .recovery)
  cleanup : ∀ {X : Effects},
    Maintenance.MakesAll (X := X) m.cleanCycle CleanupReport.counts (m.calls .cleanup)
  inputs : ∀ {X : Effects} {σ : Type} (answer : Answers X σ) (hook : Hook X) (s : σ) chore e,
    .error e ∈ (Call.execAll answer hook (m.calls chore) s).1 → e.isInput = false
  effects : ∀ {S} (g : Collaborator S) {b : Backend}, b.Free → ∀ chore,
    Cycled g (m.calls chore) b
  waits : 0 < m.windows.delay.nanos → ∀ {S} (g : Collaborator S) {b : Backend}, b.Free → ∀ id,
    b.status? id = some .processing →
      (m.changeCycle.exec g.serve b).2.status? id ≠ some .ready

theorem cycles_isolated (m : Maintenance) (h : m.validate = .ok ()) : Isolated m where
  recovery := m.makesAll_changeCycle
  cleanup := m.makesAll_cleanCycle
  inputs answer hook s chore e he :=
    Call.isInput_of_execAll answer hook (fun _ => Maintenance.fault?_of_mem_calls h) he
  effects g b hfree chore := by
    have hcomposes := (hfree.composes g (m.calls chore)).filter_succeeded
    exact ⟨g.made_call _ b, g.made_result _ b, hcomposes.1, hcomposes.2.trans (g.made_events _ b)⟩
  waits hdelay S g b hfree id hstatus := by
    have hlimit := Maintenance.positive_of_validate h
    rw [m.makesAll_changeCycle.left g.serve .call b]
    exact hfree.not_promoted hlimit.2.1 hdelay hstatus

def Collaborator.unpurging {γ : Type} (view : Tables → γ) : Collaborator (Leaves view) :=
  { Collaborator.plain view with
    purge := fun _ b => (.error (.reported "purge failed"), b)
    purge_unit := fun _ _ _ hb => (Collaborator.plain view).hook_unit hb }

/-- A cleanup of which only the second removal fails, and a recovery of an item that took too
long. -/
theorem cycles_isolated_purge :
    let m : Maintenance := ⟨⟨true, true⟩, .default, { Retention.default with purges := true },
      .default, .default⟩
    let g := Collaborator.unpurging fun t => t
    let b := (Backend.start (.clamp 0)).play ([
      .plain (.append ⟨⟨1⟩, .zero, 1⟩), .plain (.readItems 1), .plain (.commit ⟨true, true⟩ ⟨1⟩),
      .plain (.append ⟨⟨2⟩, .zero, 1⟩), .plain (.readItems 1),
      .plain (.reject ⟨true, true⟩ ⟨2⟩ "no"),
      .plain (.append ⟨⟨3⟩, .zero, 1⟩), .plain (.readItems 1),
      .clock (.start (.clamp 100000000000000))] : List (Act (Leaves fun t => t)))
    m.validate = .ok () ∧
    (m.cleanCycle.exec g.serve b).1 = .error (.storage .table (.reported "purge failed")) ∧
    (m.cleanCycle.exec g.serve b).2.tables.items.get? ⟨2⟩ = none ∧
    (m.cleanCycle.exec g.serve b).2.tables.completed.contains ⟨1⟩ = true ∧
    (m.changeCycle.exec g.serve b).1 = .ok ⟨1, 0⟩ ∧
    (m.changeCycle.exec g.serve b).2.status? ⟨3⟩ ≠ some .ready := by
  intro m g b
  have hvalid : m.validate = .ok () := rfl
  have hfree : b.Free := (Backend.Free.start (.clamp 0)).play _
  have hprocessing : b.status? ⟨3⟩ = some .processing := by decide +kernel
  have hresults : (Call.execAll g.serve .call (m.calls .cleanup) b).1 = [.ok (.ids [⟨2⟩]),
      .error (.storage .table (.reported "purge failed")), .ok (.ids [])] := by decide +kernel
  have hisolated := cycles_isolated m hvalid
  refine ⟨hvalid, ?_, by decide +kernel, by decide +kernel, by decide +kernel, ?_⟩
  · exact (hisolated.cleanup.failed g.serve .call b _).2 ⟨[.ids [⟨2⟩]], [.ok (.ids [])], hresults⟩
  · exact hisolated.waits (by decide) g hfree ⟨3⟩ hprocessing

end Memory

end WorkQueue
