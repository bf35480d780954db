import WorkQueue.Proofs.Chore
import WorkQueue.Proofs.Waiting

namespace WorkQueue.Memory

open Queue Operation Collaborator

namespace Collaborator

variable {S : UnitOfWork → UnitOfWork → Prop}

def Purging (g : Collaborator S) : Prop := ∀ ids b, ∃ n, (g.purge ids b).1 = .ok n

variable {g : Collaborator S}

theorem Purging.exec_purge (h : g.Purging) (r : Retention) (ids : List ItemId) (b : Backend) :
    ((Queue.purge r ids).exec g.serve b).1 = .ok () := by
  rw [Queue.purge]
  split
  · obtain ⟨n, hn⟩ := h ids b
    have hserve : g.serve (.store (.purge ids)) b = (.ok n, (g.purge ids b).2) := Prod.ext hn rfl
    exact congrArg Prod.fst (exec_store_bind hserve _)
  · rfl

end Collaborator

namespace Chore

variable {S : UnitOfWork → UnitOfWork → Prop} {g : Collaborator S} {chore : Chore}
  {b : Backend} {u v : UnitOfWork} {ids : List ItemId} {limit : UInt32}

theorem run_zero (hidle : chore.idle = false) (b : Backend) :
    g.run (chore.call 0) b = (.error (.invalidInput .zeroLimit), b) := by
  have hfault : (chore.call 0).fault? = some (.invalidInput .zeroLimit) := by
    cases chore with
    | removeCompleted archives _ | removeBroken archives _ => simp_all [call, Call.fault?, idle]
    | _ => rfl
  rw [Collaborator.run, Call.program_eq, hfault]
  rfl

theorem work_result (hpurging : g.Purging) (hb : b.engine = .busy u)
    (h : chore.batch.take u limit = (.ok ids, v)) :
    ∃ report, report.reply = .ids ids ∧
      (((chore.call limit).work .call).exec g.serve b).1 = .ok report := by
  have quiet (hquiet : purges (chore.call limit) = false) : ∃ report, report.reply = .ids ids ∧
      (((chore.call limit).work .call).exec g.serve b).1 = .ok report := by
    obtain ⟨report, hreply, hwork⟩ := exec_work_ok (g := g) hb (.inl hquiet) h
    exact ⟨report, hreply, congrArg Prod.fst hwork⟩
  have purged (r : Retention) (a : Activity) :
      ((Queue.purge r ids >>= fun _ => pure (Call.Report.count a ids)).exec g.serve
        { b with engine := .busy v }).1 = .ok (Call.Report.count a ids) := by
    rw [exec_bind_pure, hpurging.exec_purge]
    rfl
  cases chore with
  | removeCompleted archives r =>
    refine ⟨.count .removeCompleted ids, rfl, Eq.trans ?_ (purged r .removeCompleted)⟩
    exact congrArg Prod.fst
      (exec_store_ok hb (c := .expireCompleted r.completedExpiry limit) rfl h _)
  | removeBroken archives r =>
    refine ⟨.count .removeBroken ids, rfl, Eq.trans ?_ (purged r .removeBroken)⟩
    exact congrArg Prod.fst (exec_store_ok hb (c := .expireBroken r.brokenExpiry limit) rfl h _)
  | _ => exact quiet rfl

theorem run_purging {bound : Instant} (hpurging : g.Purging) (hb : b.Free) (hlimit : limit ≠ 0)
    (hbound : chore.bound b.clock.now = .ok bound) :
    ∃ due, InOrder (chore.Due b.tables bound) due ∧
      (g.run (chore.call limit) b).1 = .ok (.ids ((due.take limit.toNat).map (·.id))) := by
  cases hidle : chore.idle with
  | true => exact ⟨[], due_idle hidle, by rw [run_idle hidle, List.take_nil]; rfl⟩
  | false =>
    obtain ⟨due, hdue, htake⟩ := exists_due hidle hbound
    obtain ⟨v, hv, -⟩ := htake limit
    obtain ⟨report, hreply, hwork⟩ := work_result hpurging (begin_engine hb) hv
    refine ⟨due, hdue, ?_⟩
    rw [run_result hb (fault?_call chore hlimit) ((isIdle_call chore limit).trans hidle), hwork,
      ← hreply]
    rfl

theorem run_none {bound : Instant} (hb : b.Free) (hlimit : limit ≠ 0)
    (hbound : chore.bound b.clock.now = .ok bound) (hnone : ∀ c, ¬chore.Due b.tables bound c) :
    (g.run (chore.call limit) b).1 = .ok (.ids []) ∧
      (g.run (chore.call limit) b).2.tables = b.tables := by
  cases hidle : chore.idle with
  | true =>
    rw [run_idle hidle]
    exact ⟨rfl, rfl⟩
  | false =>
    obtain ⟨due, hdue, htake⟩ := exists_due hidle hbound
    obtain rfl : due = [] :=
      List.eq_nil_iff_forall_not_mem.2 fun c hc => hnone c ((hdue.mem c).1 hc)
    obtain ⟨v, hv, hmeets⟩ := htake limit
    rw [List.take_nil] at hv hmeets
    obtain ⟨b', hrun, -, -, htables⟩ := run_taken (g := g) hb (.inr rfl) hlimit hidle hv
    have hrecord : chore.record [] v = v := by
      cases chore with
      | recoverTimedOut archives w => exact if_neg (by simp)
      | _ => rfl
    rw [hrun]
    refine ⟨rfl, ?_⟩
    rw [htables]
    exact (congrArg _ hrecord).trans (hmeets.unique (.none _ _))

end Chore

inductive Window
  | timeout
  | delay
  | completedExpiry
  | brokenExpiry
deriving DecidableEq

namespace Window

variable {c : QueueConfig} {archives : Archives} {purges : Bool} {t : Tables} {now : Instant}

def length (c : QueueConfig) : Window → Duration
  | timeout => c.retryTimeout
  | delay => c.retryDelay
  | completedExpiry => c.completedExpiry
  | brokenExpiry => c.brokenExpiry

def chore (c : QueueConfig) (archives : Archives) (purges : Bool) : Window → Chore
  | timeout => .recoverTimedOut archives c.recoveryWindows
  | delay => .requeue c.recoveryWindows
  | completedExpiry => .removeCompleted archives (c.retention purges)
  | brokenExpiry => .removeBroken archives (c.retention purges)

/-- Something that the window is for bears the first instant. A timeout is for rows from before its
end, and there are none from before the first instant. -/
def Primeval (archives : Archives) (t : Tables) : Window → Prop
  | timeout => False
  | delay => ∃ id row, t.items.get? id = some row ∧ row.status = .retry ∧ row.attempts ≠ 0 ∧
    row.time = .first
  | completedExpiry => archives.completed = true ∧ ∃ id, t.completed.get? id = some .first
  | brokenExpiry => archives.broken = true ∧ ∃ id, Newest (t.failures id) .first

theorem bound_chore (w : Window) (hidle : (w.chore c archives purges).idle = false) :
    (w.chore c archives purges).bound now = deadline now (w.length c) := by
  rw [Chore.bound, hidle]
  cases w <;> rfl

theorem exists_due_first_iff (w : Window) :
    (∃ candidate, (w.chore c archives purges).Due t .first candidate) ↔ w.Primeval archives t := by
  cases w with
  | timeout =>
    refine iff_of_false ?_ id
    rintro ⟨_, -, row, -, -, hoverdue⟩
    rw [overdue, Bool.and_eq_true, decide_eq_true_eq] at hoverdue
    exact not_lt_first hoverdue.2
  | delay =>
    constructor
    · rintro ⟨candidate, -, row, hrow, -, hrested⟩
      simp only [rested, Bool.and_eq_true, beq_iff_eq, decide_eq_true_eq, bne_iff_ne,
        le_first_iff] at hrested
      exact ⟨candidate.id, row, hrow, hrested.1.1, hrested.2, hrested.1.2⟩
    · rintro ⟨id, row, hrow, hstatus, hattempts, htime⟩
      refine ⟨⟨row.time, id⟩, rfl, row, hrow, rfl, ?_⟩
      simp [rested, hstatus, hattempts, le_first_iff, htime]
  | completedExpiry =>
    constructor
    · rintro ⟨candidate, hidle, hentry, hle⟩
      exact ⟨by simpa [chore, Chore.idle] using hidle, candidate.id, le_first_iff.1 hle ▸ hentry⟩
    · rintro ⟨harchive, id, hentry⟩
      exact ⟨⟨.first, id⟩, by simp [chore, Chore.idle, harchive], hentry, Int.le_refl _⟩
  | brokenExpiry =>
    constructor
    · rintro ⟨candidate, hidle, hnewest, hle⟩
      exact ⟨by simpa [chore, Chore.idle] using hidle, candidate.id, le_first_iff.1 hle ▸ hnewest⟩
    · rintro ⟨harchive, id, hnewest⟩
      exact ⟨⟨.first, id⟩, by simp [chore, Chore.idle, harchive], hnewest, Int.le_refl _⟩

structure Counted {S : UnitOfWork → UnitOfWork → Prop} (g : Collaborator S) (c : QueueConfig)
    (archives : Archives) (purges : Bool) (limit : UInt32) (b : Backend) (w : Window) : Prop where
  refused_iff : ∀ s e,
    (g.run ((w.chore c archives purges).call limit) b).1 = .error (.storage s e) ↔
      limit ≠ 0 ∧ (w.chore c archives purges).idle = false ∧
        Duration.longestWindow < (w.length c).nanos ∧ s = .table ∧ e = .windowTooLong
  kept : ∀ e, (g.run ((w.chore c archives purges).call limit) b).1 = .error e →
    (g.run ((w.chore c archives purges).call limit) b).2.tables = b.tables
  early_iff : limit ≠ 0 → (w.length c).nanos ≤ Duration.longestWindow →
    b.clock.now.nanos < Instant.first.nanos + (w.length c).nanos →
    ((g.run ((w.chore c archives purges).call limit) b).1 = .ok (.ids []) ∧
      (g.run ((w.chore c archives purges).call limit) b).2.tables = b.tables ↔
        ¬w.Primeval archives b.tables)

variable {S : UnitOfWork → UnitOfWork → Prop} {g : Collaborator S} {b : Backend} {limit : UInt32}

theorem refused_iff (w : Window) (hpurging : g.Purging) (hb : b.Free) (s : Subject)
    (e : StoreError) :
    (g.run ((w.chore c archives purges).call limit) b).1 = .error (.storage s e) ↔
      limit ≠ 0 ∧ (w.chore c archives purges).idle = false ∧
        Duration.longestWindow < (w.length c).nanos ∧ s = .table ∧ e = .windowTooLong := by
  cases hidle : (w.chore c archives purges).idle with
  | true =>
    rw [Chore.run_idle hidle]
    exact ⟨nofun, nofun⟩
  | false =>
    have hbound : (w.chore c archives purges).bound b.clock.now =
        deadline b.clock.now (w.length c) := w.bound_chore hidle
    by_cases hlimit : limit = 0
    · rw [hlimit, Chore.run_zero hidle]
      exact ⟨nofun, fun h => absurd rfl h.1⟩
    · cases hdeadline : deadline b.clock.now (w.length c) with
      | error fault =>
        obtain ⟨hlong, rfl⟩ := deadline_eq_error_iff.1 hdeadline
        obtain ⟨b', hrun, -⟩ := Chore.run_error (g := g) hb hlimit (hbound.trans hdeadline)
        rw [hrun]
        constructor
        · intro h
          cases h
          exact ⟨hlimit, rfl, hlong, rfl, rfl⟩
        · rintro ⟨-, -, -, rfl, rfl⟩
          rfl
      | ok bound =>
        obtain ⟨due, -, hrun⟩ := Chore.run_purging hpurging hb hlimit (hbound.trans hdeadline)
        rw [hrun]
        refine ⟨nofun, fun ⟨_, _, hlong, _⟩ => ?_⟩
        cases hdeadline.symm.trans (deadline_eq_error_iff.2 ⟨hlong, rfl⟩)

theorem early_iff (w : Window) (hpurging : g.Purging) (hb : b.Free) (hlimit : limit ≠ 0)
    (hwindow : (w.length c).nanos ≤ Duration.longestWindow)
    (hearly : b.clock.now.nanos < Instant.first.nanos + (w.length c).nanos) :
    (g.run ((w.chore c archives purges).call limit) b).1 = .ok (.ids []) ∧
      (g.run ((w.chore c archives purges).call limit) b).2.tables = b.tables ↔
        ¬w.Primeval archives b.tables := by
  have hdue_iff : (∃ candidate, (w.chore c archives purges).Due b.tables .first candidate) ↔
      w.Primeval archives b.tables := w.exists_due_first_iff
  rw [← hdue_iff, not_exists]
  cases hidle : (w.chore c archives purges).idle with
  | true =>
    rw [Chore.run_idle hidle]
    exact iff_of_true ⟨rfl, rfl⟩ fun _ hdue => by cases hidle.symm.trans hdue.1
  | false =>
    have hbound := (w.bound_chore hidle).trans (deadline_early hwindow hearly)
    constructor
    · rintro ⟨hnone, -⟩ candidate hcandidate
      obtain ⟨due, hdue, hrun⟩ := Chore.run_purging hpurging hb hlimit hbound
      have htake : due.take limit.toNat = [] := by simpa using hrun.symm.trans hnone
      have hmem := (hdue.mem candidate).2 hcandidate
      obtain hzero | rfl := List.take_eq_nil_iff.1 htake
      · exact hlimit (UInt32.toNat_inj.1 hzero)
      · cases hmem
    · exact Chore.run_none hb hlimit hbound

end Window

/-- A window is refused if and only if it is too long to be counted. One that is not, but is longer
than the time since the first instant, makes nothing old enough but what bears the first instant. -/
theorem windows_counted {S : UnitOfWork → UnitOfWork → Prop} {g : Collaborator S} {b : Backend}
    (hpurging : g.Purging) (hb : b.Free) (c : QueueConfig) (archives : Archives) (purges : Bool)
    (limit : UInt32) (w : Window) : w.Counted g c archives purges limit b where
  refused_iff := w.refused_iff hpurging hb
  kept _ he := (hb.outcome_error he).2
  early_iff := w.early_iff hpurging hb

/-- A completed entry is as old as the clock can say, and a window of a thousand years is not
over. -/
theorem windows_counted_thousand_years :
    let c := { QueueConfig.default with completedExpiry := .ofSeconds 31557600000 }
    let g : Collaborator LeavesTables := .plain _
    let b := (Backend.start (.clamp (-8334601228000000000000))).play ([
      .plain (.append ⟨⟨1⟩, .zero, 1⟩), .plain (.readItems 1),
      .plain (.commit ⟨true, true⟩ ⟨1⟩)] : List (Act LeavesTables))
    g.Purging ∧ b.Free ∧
    b.clock.now.nanos < Instant.first.nanos + (Window.completedExpiry.length c).nanos ∧
    b.tables.completed.contains ⟨1⟩ = true ∧
    (g.run (.removeCompleted ⟨true, true⟩ (c.retention false) 10) b).1 = .ok (.ids []) := by
  intro c g b
  have hpurging : g.Purging := fun _ _ => ⟨0, rfl⟩
  have hb : b.Free := (Backend.Free.start _).play _
  have hearly : b.clock.now.nanos <
      Instant.first.nanos + (Window.completedExpiry.length c).nanos := by decide +kernel
  have hrows : b.tables.completed.rows = [(⟨1⟩, .clamp (-8334601228000000000000))] := by
    decide +kernel
  have hyoung : ¬Window.completedExpiry.Primeval ⟨true, true⟩ b.tables := by
    rintro ⟨-, id, hentry⟩
    rw [Table.get?_eq_some_iff, hrows, List.mem_singleton] at hentry
    have htime : Instant.first = .clamp (-8334601228000000000000) := congrArg Prod.snd hentry
    exact absurd htime (by decide)
  have hcounted := windows_counted hpurging hb c ⟨true, true⟩ false 10 .completedExpiry
  refine ⟨hpurging, hb, hearly, by decide +kernel, ?_⟩
  exact ((hcounted.early_iff (by decide) (by decide +kernel) hearly).2 hyoung).1

/-- Settings that are accepted, with windows that are all too long, and others with which entries
are taken at the very instant that they bear. -/
theorem windows_counted_refused :
    let long : Duration := .ofSeconds 9223372036854776
    let ages : Duration := .ofSeconds 31557600000
    let lasting (d : Duration) := { QueueConfig.default with
      retryTimeout := d, retryDelay := d, completedExpiry := d, brokenExpiry := d }
    let g : Collaborator LeavesTables := .plain _
    let b := (Backend.start .first).play ([
      .plain (.append ⟨⟨1⟩, .zero, 2⟩), .plain (.readItems 1),
      .plain (.reject ⟨true, true⟩ ⟨1⟩ "no")] : List (Act LeavesTables))
    (lasting long).validate = .ok () ∧ (lasting ages).validate = .ok () ∧
    (∀ w : Window, (g.run ((w.chore (lasting long) ⟨true, true⟩ false).call 10) b).1 =
      .error (.storage .table .windowTooLong)) ∧
    (∀ w : Window, b.clock.now.nanos < Instant.first.nanos + (w.length (lasting ages)).nanos) ∧
    (g.run (.requeue (lasting ages).recoveryWindows 10) b).1 = .ok (.ids [⟨1⟩]) := by
  refine ⟨rfl, rfl, fun w => ?_, fun w => ?_, by decide +kernel⟩
  · cases w <;> decide +kernel
  · cases w <;> decide +kernel

end WorkQueue.Memory
