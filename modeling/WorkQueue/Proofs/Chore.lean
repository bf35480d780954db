import WorkQueue.Proofs.Selection

/-!
The calls that take a batch of items, each in a unit of its own. What a call took is not due any
more, and what it left is due as before and in the same order, so that the next call goes on where
this one stopped.
-/

namespace WorkQueue.Memory

open Queue Operation Collaborator

inductive Chore
  | readItems
  | recoverTimedOut (archives : Archives) (w : RecoveryWindows)
  | requeue (w : RecoveryWindows)
  | removeExhausted
  | removeCompleted (archives : Archives) (r : Retention)
  | removeBroken (archives : Archives) (r : Retention)

namespace Chore

def call : Chore → UInt32 → Call
  | readItems => .readItems
  | recoverTimedOut archives w => .recoverTimedOut archives w
  | requeue w => .requeue w
  | removeExhausted => .removeExhausted
  | removeCompleted archives r => .removeCompleted archives r
  | removeBroken archives r => .removeBroken archives r

def batch : Chore → Batch
  | readItems => .claim
  | recoverTimedOut _ w => .recover w.timeout
  | requeue w => .requeue w.delay
  | removeExhausted => .discard
  | removeCompleted _ r => .expireCompleted r.completedExpiry
  | removeBroken _ r => .expireBroken r.brokenExpiry

def idle : Chore → Bool
  | removeCompleted archives _ => !archives.completed
  | removeBroken archives _ => !archives.broken
  | _ => false

def bound (now : Instant) (chore : Chore) : Except StoreError Instant :=
  if chore.idle then .ok now else chore.batch.bound now

def Due (t : Tables) (bound : Instant) (chore : Chore) (c : Candidate) : Prop :=
  chore.idle = false ∧ chore.batch.Due t bound c

def fate (now : Instant) : Chore → Fate
  | recoverTimedOut ⟨_, true⟩ _ =>
    { row := Option.map (entering .retry now)
      entries := fun entries => some (entries.getD [] ++ [⟨timeoutCause, now⟩]) }
  | chore => chore.batch.fate now

section Due

variable {chore : Chore} {now bound : Instant} {t t' : Tables} {ids : List ItemId}
  {due : List Candidate}

theorem not_picked {p : Row → Bool} {f : Row → Row} {before after : Option Row} {time : Instant}
    (h : after = before.map f) (hf : ∀ row, p (f row) = false) :
    ¬∃ row, after = some row ∧ row.time = time ∧ p row = true := by
  rintro ⟨row, hrow, -, hp⟩
  obtain ⟨moved, -, rfl⟩ := Option.map_eq_some_iff.1 (h.symm.trans hrow)
  exact Bool.noConfusion (hp.symm.trans (hf moved))

theorem not_due {c : Candidate} (h : (chore.fate now).Meets ids t t') (hc : c.id ∈ ids) :
    ¬chore.Due t' bound c := by
  have hitems := h.items c.id
  have hcompleted := h.completed c.id
  have hbroken := h.broken c.id
  rw [if_pos hc] at hitems hcompleted hbroken
  rintro ⟨-, hdue⟩
  cases chore with
  | readItems => exact not_picked hitems (fun _ => rfl) hdue
  | recoverTimedOut archives w =>
    have hmoved : t'.items.get? c.id = (t.items.get? c.id).map (entering .retry now) := by
      obtain ⟨_, _ | _⟩ := archives <;> exact hitems
    exact not_picked hmoved (fun _ => rfl) hdue
  | requeue w => exact not_picked hitems (fun _ => rfl) hdue
  | removeExhausted =>
    obtain ⟨row, hrow, -⟩ := hdue
    cases hitems.symm.trans hrow
  | removeCompleted archives r => cases hcompleted.symm.trans hdue.1
  | removeBroken archives r =>
    obtain ⟨e, he, -⟩ := hdue.1.attained
    rw [Tables.failures, hbroken] at he
    cases he

theorem due_congr {c : Candidate} (h : (chore.fate now).Meets ids t t') (hc : c.id ∉ ids) :
    chore.Due t' bound c ↔ chore.Due t bound c := by
  have hitems := h.items c.id
  have hcompleted := h.completed c.id
  have hbroken := h.broken c.id
  rw [if_neg hc] at hitems hcompleted hbroken
  exact and_congr_right fun _ => Batch.due_congr hitems hcompleted hbroken

theorem inOrder_drop {n : Nat} (hdue : InOrder (chore.Due t bound) due)
    (h : (chore.fate now).Meets ((due.take n).map (·.id)) t t') :
    InOrder (chore.Due t' bound) (due.drop n) := by
  have hdistinct := hdue.distinct
  rw [← List.take_append_drop n due, List.map_append, List.nodup_append'] at hdistinct
  obtain ⟨-, hrest, hdisjoint⟩ := hdistinct
  have hsorted := hdue.sorted.sublist (List.drop_sublist n due)
  refine ⟨fun c => ⟨fun hc => ?_, fun hc => ?_⟩, hsorted, hrest⟩
  · have hleft : c.id ∉ (due.take n).map (·.id) :=
      fun hmem => hdisjoint hmem (List.mem_map_of_mem hc)
    exact (due_congr h hleft).2 ((hdue.mem c).1 (List.mem_of_mem_drop hc))
  · have hleft : c.id ∉ (due.take n).map (·.id) := fun hmem => not_due h hmem hc
    have hmem : c ∈ due := (hdue.mem c).2 ((due_congr h hleft).1 hc)
    rw [← List.take_append_drop n due, List.mem_append] at hmem
    exact hmem.resolve_left fun htaken => hleft (List.mem_map_of_mem htaken)

end Due

end Chore

theorem UnitOfWork.get?_recordTimedOut {ids : List ItemId} (hids : ids.Nodup) (u : UnitOfWork)
    (id : ItemId) :
    (u.recordFailures (ids.map fun id => ⟨id, timeoutCause⟩)).tables.broken.get? id =
      if id ∈ ids then some ((u.tables.broken.get? id).getD [] ++ [⟨timeoutCause, u.now⟩])
      else u.tables.broken.get? id := by
  induction ids generalizing u with
  | nil => rfl
  | cons k ids ih =>
    obtain ⟨hk, hids⟩ := List.nodup_cons.1 hids
    refine (ih hids (u.pushBroken k ⟨timeoutCause, u.now⟩)).trans ?_
    by_cases hid : id = k
    · subst hid
      simp [hk, pushBroken, Tables.failures]
    · simp [hid, pushBroken]

namespace Chore

variable {S : UnitOfWork → UnitOfWork → Prop} {g : Collaborator S} {chore : Chore}
  {b : Backend} {u v : UnitOfWork} {ids : List ItemId} {limit : UInt32}

def record (ids : List ItemId) (v : UnitOfWork) : Chore → UnitOfWork
  | recoverTimedOut archives _ =>
    if archives.broken && !ids.isEmpty then
      v.recordFailures (ids.map fun id => ⟨id, timeoutCause⟩)
    else v
  | _ => v

theorem record_meets (hids : ids.Nodup) (hnow : v.now = u.now)
    (h : (chore.batch.fate u.now).Meets ids u.tables v.tables) :
    (chore.fate u.now).Meets ids u.tables (chore.record ids v).tables := by
  cases chore with
  | recoverTimedOut archives w =>
    obtain ⟨completed, _ | _⟩ := archives
    · exact h
    · -- Where nothing was taken, nothing is noted down either way.
      have hrecord : (recoverTimedOut ⟨completed, true⟩ w).record ids v =
          v.recordFailures (ids.map fun id => ⟨id, timeoutCause⟩) := by
        cases ids <;> rfl
      rw [hrecord]
      refine ⟨fun id => ?_, fun id => ?_, fun id => ?_⟩
      · rw [UnitOfWork.recordFailures_items]
        exact h.items id
      · rw [UnitOfWork.recordFailures_completed]
        exact h.completed id
      · have hsame : v.tables.broken.get? id = u.tables.broken.get? id :=
          (h.broken id).trans (ite_self _)
        rw [UnitOfWork.get?_recordTimedOut hids, hsame, hnow]
        rfl
  | _ => exact h

theorem exec_recoverWrites (hb : b.engine = .busy u) {archives : Archives} {w : RecoveryWindows}
    (h : u.recover w.timeout limit = (.ok ids, v)) :
    (recoverWrites archives w.timeout limit).exec g.serve b =
      (.ok ids, { b with engine := .busy ((recoverTimedOut archives w).record ids v) }) := by
  rw [recoverWrites]
  refine (exec_store_ok hb (c := .recover w.timeout limit) rfl h _).trans ?_
  rw [record]
  split
  · exact exec_store_ok (b := { b with engine := .busy v }) rfl (c := .recordFailures _) rfl rfl _
  · rfl

theorem purge_quiet {r : Retention} {ids : List ItemId} (h : r.purges = false ∨ ids = []) :
    (Queue.purge r ids : Operation hookCall Unit) = pure () := by
  rw [Queue.purge]
  obtain hr | rfl := h
  · rw [hr]
    rfl
  · rw [List.isEmpty_nil, Bool.not_true, Bool.and_false]
    rfl

theorem exec_work_ok (hb : b.engine = .busy u)
    (hquiet : purges (chore.call limit) = false ∨ ids = [])
    (h : chore.batch.take u limit = (.ok ids, v)) :
    ∃ report, report.reply = .ids ids ∧ ((chore.call limit).work .call).exec g.serve b =
      (.ok report, { b with engine := .busy (chore.record ids v) }) := by
  cases chore with
  | readItems => exact ⟨_, rfl, exec_store_ok hb (c := .claim limit) rfl h _⟩
  | recoverTimedOut archives w =>
    refine ⟨{ Call.Report.count .recoverTimedOut ids with
      notice? := if ids.isEmpty then none else some (.reclaimed ids.length) }, rfl, ?_⟩
    rw [call, Call.work, exec_bind, exec_recoverWrites hb h]
    rfl
  | requeue w => exact ⟨_, rfl, exec_store_ok hb (c := .requeue w.delay limit) rfl h _⟩
  | removeExhausted => exact ⟨_, rfl, exec_store_ok hb (c := .discard limit) rfl h _⟩
  | removeCompleted archives r =>
    refine ⟨.count .removeCompleted ids, rfl, ?_⟩
    refine (exec_store_ok hb (c := .expireCompleted r.completedExpiry limit) rfl h _).trans ?_
    rw [purge_quiet hquiet]
    rfl
  | removeBroken archives r =>
    refine ⟨.count .removeBroken ids, rfl, ?_⟩
    refine (exec_store_ok hb (c := .expireBroken r.brokenExpiry limit) rfl h _).trans ?_
    rw [purge_quiet hquiet]
    rfl

theorem exec_work_error (hb : b.engine = .busy u) {e : StoreError}
    (h : chore.batch.take u limit = (.error e, v)) :
    ((chore.call limit).work .call).exec g.serve b =
      (.error (.storage .table e), { b with engine := .busy v }) := by
  cases chore with
  | readItems => exact exec_store_error hb (c := .claim limit) rfl h _
  | recoverTimedOut archives w =>
    have hwrites : (recoverWrites archives w.timeout limit).exec g.serve b =
        (.error (.storage .table e), { b with engine := .busy v }) := by
      rw [recoverWrites]
      exact exec_store_error hb (c := .recover w.timeout limit) rfl h _
    rw [call, Call.work, exec_bind, hwrites]
  | requeue w => exact exec_store_error hb (c := .requeue w.delay limit) rfl h _
  | removeExhausted => exact exec_store_error hb (c := .discard limit) rfl h _
  | removeCompleted archives r =>
    exact exec_store_error hb (c := .expireCompleted r.completedExpiry limit) rfl h _
  | removeBroken archives r =>
    exact exec_store_error hb (c := .expireBroken r.brokenExpiry limit) rfl h _

theorem fault?_call (chore : Chore) (hlimit : limit ≠ 0) : (chore.call limit).fault? = none := by
  cases chore <;> simp [call, Call.fault?, hlimit]

theorem isIdle_call (chore : Chore) (limit : UInt32) : (chore.call limit).isIdle = chore.idle := by
  cases chore <;> rfl

theorem take_now (batch : Batch) (u : UnitOfWork) (limit : UInt32) :
    (batch.take u limit).2.now = u.now := by
  cases batch <;> exact u.perform_now _

theorem run_idle (hidle : chore.idle = true) (limit : UInt32) (b : Backend) :
    g.run (chore.call limit) b = (.ok (.ids []), b) := by
  have hfault : (chore.call limit).fault? = none := by
    cases chore with
    | removeCompleted archives _ | removeBroken archives _ => simp_all [call, Call.fault?, idle]
    | _ => cases hidle
  rw [Collaborator.run, Call.program_eq, hfault, isIdle_call, hidle]
  cases chore with
  | removeCompleted | removeBroken => rfl
  | _ => cases hidle

theorem run_taken (hb : b.Free) (hquiet : purges (chore.call limit) = false ∨ ids = [])
    (hlimit : limit ≠ 0) (hidle : chore.idle = false)
    (htake : chore.batch.take (.begin b.tables b.clock.now) limit = (.ok ids, v)) :
    ∃ b', g.run (chore.call limit) b = (.ok (.ids ids), b') ∧ b'.Free ∧ b'.clock = b.clock ∧
      b'.tables = (chore.record ids v).tables := by
  obtain ⟨report, hreply, hwork⟩ := exec_work_ok (g := g) (begin_engine hb) hquiet htake
  have hfault := fault?_call chore hlimit
  have hbusy := (isIdle_call chore limit).trans hidle
  obtain ⟨hresult, hclock⟩ := run_swept hb hfault hbusy hwork (by rw [begin_eq hb])
  obtain ⟨-, hengine, -⟩ := run_unit hb hfault hbusy hwork
  exact ⟨(g.run (chore.call limit) b).2, Prod.ext (hresult.trans (congrArg _ hreply)) rfl,
    (hb.outcome g _).1, hclock, congrArg Engine.tables hengine⟩

theorem run_error {e : StoreError} (hb : b.Free) (hlimit : limit ≠ 0)
    (hbound : chore.bound b.clock.now = .error e) :
    ∃ b', g.run (chore.call limit) b = (.error (.storage .table e), b') ∧ b'.Free ∧
      b'.clock = b.clock ∧ b'.tables = b.tables := by
  rw [Chore.bound] at hbound
  cases hidle : chore.idle with
  | true =>
    rw [hidle] at hbound
    cases hbound
  | false =>
    rw [hidle] at hbound
    have hwork := exec_work_error (g := g) (begin_engine hb)
      (Batch.take_error (u := .begin b.tables b.clock.now) hbound limit)
    obtain ⟨hresult, hclock⟩ := run_failed hb (fault?_call chore hlimit)
      ((isIdle_call chore limit).trans hidle) hwork (by rw [begin_eq hb])
    exact ⟨(g.run (chore.call limit) b).2, Prod.ext hresult rfl, (hb.outcome g _).1, hclock,
      (hb.outcome_error hresult).2⟩

theorem exists_due {bound : Instant} (hidle : chore.idle = false)
    (hbound : chore.bound b.clock.now = .ok bound) :
    ∃ due, InOrder (chore.Due b.tables bound) due ∧ ∀ limit, ∃ v,
      chore.batch.take (.begin b.tables b.clock.now) limit =
        (.ok ((due.take limit.toNat).map (·.id)), v) ∧
      (chore.batch.fate b.clock.now).Meets ((due.take limit.toNat).map (·.id)) b.tables
        v.tables := by
  rw [Chore.bound, hidle] at hbound
  obtain ⟨due, hdue, htake⟩ := Batch.take_ok (u := .begin b.tables b.clock.now) hbound
  refine ⟨due, ⟨fun c => ?_, hdue.sorted, hdue.distinct⟩, htake⟩
  exact (hdue.mem c).trans (and_iff_right hidle).symm

theorem due_idle {t : Tables} {bound : Instant} (hidle : chore.idle = true) :
    InOrder (chore.Due t bound) [] :=
  ⟨fun c => by simp [Due, hidle], .nil, .nil⟩

/-- `b'` is `b` after the first `n` of `due` met their fate, all at the time of `b`. -/
structure Did (chore : Chore) (due : List Candidate) (n : Nat) (b b' : Backend) : Prop where
  free : b'.Free
  clock : b'.clock = b.clock
  meets : (chore.fate b.clock.now).Meets ((due.take n).map (·.id)) b.tables b'.tables

theorem run_ok {bound : Instant} (hb : b.Free)
    (hpurges : ∀ limit, purges (chore.call limit) = false)
    (hbound : chore.bound b.clock.now = .ok bound) :
    ∃ due, InOrder (chore.Due b.tables bound) due ∧ ∀ limit ≠ 0, ∃ b',
      g.run (chore.call limit) b = (.ok (.ids ((due.take limit.toNat).map (·.id))), b') ∧
        chore.Did due limit.toNat b b' := by
  cases hidle : chore.idle with
  | true =>
    refine ⟨[], due_idle hidle, fun limit hlimit => ⟨b, ?_, hb, rfl, ?_⟩⟩
    · rw [run_idle hidle, List.take_nil]
      rfl
    · rw [List.take_nil]
      exact .none _ _
  | false =>
    obtain ⟨due, hdue, htake⟩ := exists_due hidle hbound
    refine ⟨due, hdue, fun limit hlimit => ?_⟩
    obtain ⟨v, hv, hmeets⟩ := htake limit
    obtain ⟨b', hrun, hfree, hclock, htables⟩ :=
      run_taken (g := g) hb (.inl (hpurges limit)) hlimit hidle hv
    have hnow : v.now = b.clock.now :=
      (congrArg (·.2.now) hv).symm.trans (take_now chore.batch (.begin _ _) limit)
    have hdistinct : ((due.take limit.toNat).map (·.id)).Nodup :=
      hdue.distinct.sublist ((List.take_sublist _ _).map _)
    refine ⟨b', hrun, hfree, hclock, ?_⟩
    rw [htables]
    exact record_meets (u := .begin b.tables b.clock.now) hdistinct hnow hmeets

theorem run_due {bound : Instant} {due : List Candidate} (hb : b.Free)
    (hpurges : ∀ limit, purges (chore.call limit) = false) (hlimit : limit ≠ 0)
    (hbound : chore.bound b.clock.now = .ok bound) (hdue : InOrder (chore.Due b.tables bound) due) :
    ∃ b', g.run (chore.call limit) b = (.ok (.ids ((due.take limit.toNat).map (·.id))), b') ∧
      chore.Did due limit.toNat b b' := by
  obtain ⟨due', hdue', hrun⟩ := run_ok (g := g) hb hpurges hbound
  obtain rfl := hdue.unique hdue'
  exact hrun limit hlimit

theorem Did.rest {bound : Instant} {due : List Candidate} {n : Nat} {b' : Backend}
    (h : chore.Did due n b b') (hdue : InOrder (chore.Due b.tables bound) due) :
    InOrder (chore.Due b'.tables bound) (due.drop n) :=
  inOrder_drop hdue h.meets

theorem Did.trans {due : List Candidate} {m n : Nat} {b' b'' : Backend} (h : chore.Did due m b b')
    (h' : chore.Did (due.drop m) n b' b'') (hdistinct : (due.map (·.id)).Nodup) :
    chore.Did due (m + n) b b'' where
  free := h'.free
  clock := h'.clock.trans h.clock
  meets := by
    rw [← List.take_append_drop m due, List.map_append, List.nodup_append'] at hdistinct
    rw [List.take_add, List.map_append]
    have hmeets := h'.meets
    rw [h.clock] at hmeets
    refine h.meets.append hmeets fun id hid hid' => hdistinct.2.2 hid ?_
    exact ((List.take_sublist _ _).map _).subset hid'

end Chore

end WorkQueue.Memory
