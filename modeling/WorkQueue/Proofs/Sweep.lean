import WorkQueue.Proofs.Census

namespace WorkQueue.Memory

open Queue Operation

variable {S : UnitOfWork → UnitOfWork → Prop}

theorem Beside.eq {u v : UnitOfWork} (h : Beside S false u v) : v = u := by
  cases h with
  | alone => rfl
  | step h _ => cases h

namespace Collaborator

variable {g : Collaborator S} {b : Backend} {t : Tables} {u : UnitOfWork} {c : Call}

theorem serve_store_eq (hb : b.engine = .busy u) {c : StoreCall} (hc : isPurge c = false) :
    g.serve (.store c) b = ((u.perform c).1, { b with engine := .busy (u.perform c).2 }) := by
  have served : g.serve (.store c) b = b.perform c := by
    cases c with
    | purge ids => cases hc
    | _ => rfl
  rw [served, Backend.perform, hb]
  cases c with
  | purge ids => cases hc
  | _ => rfl

theorem exec_store_ok {α : Type} {subject : Subject} {c : StoreCall} {v : UnitOfWork}
    (hb : b.engine = .busy u) (hc : isPurge c = false) {a : c.Answer}
    (h : u.perform c = (.ok a, v)) (f : c.Answer → Operation hookCall α) :
    (store subject c >>= f).exec g.serve b = (f a).exec g.serve { b with engine := .busy v } := by
  have hserve := serve_store_eq (g := g) hb hc
  rw [h] at hserve
  exact exec_store_bind hserve f

theorem exec_store_error {α : Type} {subject : Subject} {c : StoreCall} {v : UnitOfWork}
    (hb : b.engine = .busy u) (hc : isPurge c = false) {e : StoreError}
    (h : u.perform c = (.error e, v)) (f : c.Answer → Operation hookCall α) :
    (store subject c >>= f).exec g.serve b =
      (.error (.storage subject e), { b with engine := .busy v }) := by
  have hserve := serve_store_eq (g := g) hb hc
  rw [h] at hserve
  rw [exec_bind, exec_store, hserve]
  rfl

theorem announce_clock (r : Call.Report) (b : Backend) :
    ((Call.announce r).exec g.serve b).2.clock = b.clock := by
  obtain ⟨_ | n, activity, data, reply⟩ := r <;> rfl

theorem run_swept (hb : b.engine = .idle t) (hfault : c.fault? = none) (hidle : c.isIdle = false)
    {report : Call.Report} {b' : Backend}
    (hwork : (c.work .call).exec g.serve b.begin.2 = (.ok report, b')) (hclock : b'.clock = b.clock) :
    (g.run c b).1 = .ok report.reply ∧ (g.run c b).2.clock = b.clock := by
  refine ⟨(run_unit hb hfault hidle hwork).1, ?_⟩
  obtain ⟨w, hw, -, -⟩ := (Does.work g c).busy (begin_engine hb)
  rw [hwork] at hw
  simp only [run, Call.program_eq, hfault, hidle, Call.guarded, Bool.false_eq_true, if_false,
    exec_bind, exec_inUnit, serve_begin g hb, hwork, serve_commit g hw, announce_clock]
  exact hclock

theorem run_failed (hb : b.engine = .idle t) (hfault : c.fault? = none)
    (hidle : c.isIdle = false) {e : QueueError} {b' : Backend}
    (hwork : (c.work .call).exec g.serve b.begin.2 = (.error e, b')) (hclock : b'.clock = b.clock) :
    (g.run c b).1 = .error e ∧ (g.run c b).2.clock = b.clock := by
  refine ⟨(run_unit hb hfault hidle hwork).1, ?_⟩
  obtain ⟨w, hw, -, -⟩ := (Does.work g c).busy (begin_engine hb)
  rw [hwork] at hw
  simp only [run, Call.program_eq, hfault, hidle, Call.guarded, Bool.false_eq_true,
    if_false, exec_bind, exec_inUnit, serve_begin g hb, hwork, exec_rollback,
    serve_rollback g hw]
  exact hclock

theorem run_single (hb : b.engine = .idle t) (hfault : c.fault? = none) (hidle : c.isIdle = false)
    {e : StoreCall} (he : isPurge e = false) {f : e.Answer → Call.Report}
    (hwork : c.work .call = store .table e >>= fun a => pure (f a)) {a : e.Answer}
    (ha : ((UnitOfWork.begin t b.clock.now).perform e).1 = .ok a) :
    (g.run c b).1 = .ok (f a).reply ∧ (g.run c b).2.clock = b.clock := by
  have hperform : (UnitOfWork.begin t b.clock.now).perform e = (.ok a, _) := Prod.ext ha rfl
  refine run_swept hb hfault hidle (hwork ▸ exec_store_ok (begin_engine hb) he hperform _) ?_
  rw [begin_eq hb]

theorem run_requeue (hb : b.engine = .idle t) {w : RecoveryWindows} {limit : UInt32}
    (hlimit : limit ≠ 0) {time : Instant} (htime : deadline b.clock.now w.delay = .ok time) :
    ∃ r, (g.run (.requeue w limit) b).1 = .ok r ∧
      (g.run (.requeue w limit) b).2.clock = b.clock := by
  have hfault : (Call.requeue w limit).fault? = none := by simp [Call.fault?, hlimit]
  have hanswer : ∃ ids : List ItemId,
      ((UnitOfWork.begin t b.clock.now).requeue w.delay limit).1 = .ok ids := by
    simp only [UnitOfWork.requeue, UnitOfWork.begin, htime]
    exact ⟨_, rfl⟩
  obtain ⟨ids, hids⟩ := hanswer
  exact ⟨_, run_single hb hfault rfl (e := .requeue w.delay limit) rfl rfl hids⟩

theorem run_removeExhausted (hb : b.engine = .idle t) {limit : UInt32} (hlimit : limit ≠ 0) :
    ∃ r, (g.run (.removeExhausted limit) b).1 = .ok r ∧
      (g.run (.removeExhausted limit) b).2.clock = b.clock := by
  have hfault : (Call.removeExhausted limit).fault? = none := by simp [Call.fault?, hlimit]
  exact ⟨_, run_single hb hfault rfl (e := .discard limit) rfl rfl rfl⟩

theorem exec_recoverWrites (hb : b.engine = .busy u) (archives : Archives) {timeout : Duration}
    {limit : UInt32} {ids : List ItemId} (hids : (u.recover timeout limit).1 = .ok ids) :
    ∃ b', (recoverWrites archives timeout limit).exec g.serve b = (.ok ids, b') ∧
      b'.clock = b.clock := by
  have hrecover : u.perform (.recover timeout limit) = (.ok ids, (u.recover timeout limit).2) :=
    Prod.ext hids rfl
  have hfirst : (recoverWrites archives timeout limit).exec g.serve b = _ :=
    exec_store_ok hb rfl hrecover _
  rw [hfirst]
  split
  · exact ⟨_, exec_store_ok rfl (c := .recordFailures _) rfl rfl _, rfl⟩
  · exact ⟨_, rfl, rfl⟩

theorem run_recoverTimedOut (hb : b.engine = .idle t) (archives : Archives) {w : RecoveryWindows}
    {limit : UInt32} (hlimit : limit ≠ 0) {time : Instant}
    (htime : deadline b.clock.now w.timeout = .ok time) :
    ∃ r, (g.run (.recoverTimedOut archives w limit) b).1 = .ok r ∧
      (g.run (.recoverTimedOut archives w limit) b).2.clock = b.clock := by
  have hfault : (Call.recoverTimedOut archives w limit).fault? = none := by
    simp [Call.fault?, hlimit]
  have hanswer : ∃ ids : List ItemId,
      ((UnitOfWork.begin t b.clock.now).recover w.timeout limit).1 = .ok ids := by
    simp only [UnitOfWork.recover, UnitOfWork.begin, htime]
    exact ⟨_, rfl⟩
  obtain ⟨ids, hids⟩ := hanswer
  obtain ⟨b', hwrites, hclock⟩ := exec_recoverWrites (g := g) (begin_engine hb) archives hids
  rw [show b.begin.2.clock = b.clock by rw [begin_eq hb]] at hclock
  have hwork : ∃ report, ((Call.recoverTimedOut archives w limit).work .call).exec g.serve
      b.begin.2 = (.ok report, b') := by
    rw [Call.work, exec_bind, hwrites]
    exact ⟨_, rfl⟩
  obtain ⟨report, hwork⟩ := hwork
  exact ⟨_, run_swept hb hfault rfl hwork hclock⟩

end Collaborator

/-- What a sweep makes of the rows: the oldest of those that `p` picks become what `f` says. -/
structure Swept (p : Row → Bool) (f : Row → Option Row) (limit : UInt32) (t t' : Table Row)
    (ids : List ItemId) : Prop where
  taken : ids = oldest limit (eligible p t)
  rows : ∀ id, t'.get? id = if id ∈ ids then (t.get? id).bind f else t.get? id

section Swept

variable {p q : Row → Bool} {f : Row → Option Row} {limit : UInt32} {t t' : Table Row}
  {ids : List ItemId} {id : ItemId} {row : Row}

theorem eligible_congr (h : ∀ id row, t.get? id = some row → p row = q row) :
    eligible p t = eligible q t := by
  unfold eligible
  congr 1
  apply List.filter_congr
  rintro ⟨id, row⟩ hmem
  exact h id row (Table.get?_eq_some_iff.2 hmem)

theorem Swept.congr (h : Swept p f limit t t' ids)
    (hpq : ∀ id row, t.get? id = some row → p row = q row) : Swept q f limit t t' ids :=
  ⟨eligible_congr hpq ▸ h.taken, h.rows⟩

theorem Swept.picked (h : Swept p f limit t t' ids) (hmem : id ∈ ids) :
    ∃ row, t.get? id = some row ∧ p row = true :=
  mem_oldest_eligible (h.taken ▸ hmem)

theorem Swept.forth (h : Swept p f limit t t' ids) (hrow : t.get? id = some row) :
    t'.get? id = some row ∨ p row = true ∧ t'.get? id = f row := by
  have hafter := h.rows id
  split at hafter
  · next hmem =>
    obtain ⟨row', hrow', hp⟩ := h.picked hmem
    cases hrow.symm.trans hrow'
    exact .inr ⟨hp, hafter.trans (congrArg (·.bind f) hrow)⟩
  · exact .inl (hafter.trans hrow)

theorem Swept.back (h : Swept p f limit t t' ids) (hrow : t'.get? id = some row) :
    t.get? id = some row ∨ ∃ before, t.get? id = some before ∧ p before = true ∧
      f before = some row := by
  cases hbefore : t.get? id with
  | none =>
    have hafter := h.rows id
    rw [hbefore, hrow, Option.bind_none, ite_self] at hafter
    cases hafter
  | some before =>
    rcases h.forth hbefore with hsame | ⟨hp, hf⟩
    · exact .inl (hsame.symm.trans hrow)
    · exact .inr ⟨before, rfl, hp, hf.symm.trans hrow⟩

theorem Swept.length (h : Swept p f limit t t' ids)
    (hdone : ∀ id row, t.get? id = some row → p row = true → (f row).any p = false) :
    (eligible p t').length + ids.length = (eligible p t).length := by
  have hnodup : ids.Nodup := h.taken ▸ nodup_oldest (nodup_eligible p t)
  refine (length_eligible_add hnodup (fun id hmem => ?_) fun id hmem => ?_).symm
  · obtain ⟨row, hrow, hp⟩ := h.picked hmem
    rw [h.rows, if_pos hmem, hrow]
    exact ⟨hdone id row hrow hp, hp⟩
  · rw [h.rows, if_neg hmem]

theorem oldest_eq_nil {candidates : List Candidate} (hlimit : limit ≠ 0)
    (h : oldest limit candidates = []) : candidates = [] := by
  have hpos : limit.toNat ≠ 0 := fun hzero => hlimit (UInt32.toNat_inj.1 hzero)
  have hsorted : candidates.mergeSort Candidate.le = [] := by
    simpa [oldest, hpos] using h
  exact (hsorted ▸ (List.mergeSort_perm candidates Candidate.le)).symm.eq_nil

theorem Swept.none_left (h : Swept p f limit t t' []) (hlimit : limit ≠ 0)
    (hrow : t'.get? id = some row) : p row = false := by
  have hsame : t.get? id = some row := by simpa [h.rows] using hrow
  rw [Bool.eq_false_iff]
  intro hp
  have hmem : id ∈ (eligible p t).map (·.id) := mem_ids_eligible.2 (by simp [hsame, hp])
  rw [oldest_eq_nil hlimit h.taken.symm] at hmem
  cases hmem

end Swept

section Outcome

variable {now time : Instant} {t t' : Tables} {r : Reply} {events : List Event} {limit : UInt32}
  {archives : Archives} {w : RecoveryWindows}

def visible (now : Instant) (row : Row) : Bool := row.status == .ready && row.time ≤ now

def overdue (time : Instant) (row : Row) : Bool := row.status == .processing && row.time < time

def rested (time : Instant) (row : Row) : Bool :=
  row.status == .retry && row.time ≤ time && row.attempts != 0

def exhausted (row : Row) : Bool := row.status == .retry && row.attempts == 0

def entering (status : Status) (now : Instant) (row : Row) : Row :=
  { row with status := status, time := now }

theorem swept_transitionAll {p : Row → Bool} {target : Status} {u : UnitOfWork} {items : Table Row}
    {ids : List ItemId} (htaken : ids = oldest limit (eligible p u.tables.items))
    (hitems : items = (u.transitionAll target ids).tables.items) :
    Swept p (fun row => some (entering target u.now row)) limit u.tables.items items ids := by
  refine ⟨htaken, fun id => ?_⟩
  rw [hitems, UnitOfWork.get?_transitionAll, Option.map_eq_bind]
  rfl

theorem Outcome.swept_read (h : Outcome S now t (.readItems limit) (.ok r) events t') :
    Swept (visible now) (fun row => some (entering .processing now row)) limit t.items t'.items
      r.items := by
  cases h with
  | spared _ hidle => cases hidle
  | worked _ before works after =>
    cases before.eq
    cases after.eq
    cases works with
    | readItems => exact swept_transitionAll (u := .begin t now) rfl rfl

theorem Outcome.swept_recover
    (h : Outcome S now t (.recoverTimedOut archives w limit) (.ok r) events t') :
    ∃ time, deadline now w.timeout = .ok time ∧
      Swept (overdue time) (fun row => some (entering .retry now row)) limit t.items t'.items
        r.items := by
  cases h with
  | spared _ hidle => cases hidle
  | worked _ before works after =>
    cases before.eq
    cases after.eq
    have hitems := works.recover_items
    cases works with
    | recoverTimedOut h _ =>
      obtain ⟨-, time, htime, hids⟩ := UnitOfWork.recover_ok h
      exact ⟨time, htime, swept_transitionAll (u := .begin t now) hids hitems⟩

theorem Outcome.swept_requeue (h : Outcome S now t (.requeue w limit) (.ok r) events t') :
    ∃ time, deadline now w.delay = .ok time ∧
      Swept (rested time) (fun row => some (entering .ready now row)) limit t.items t'.items
        r.items := by
  cases h with
  | spared _ hidle => cases hidle
  | worked _ before works after =>
    cases before.eq
    cases after.eq
    cases works with
    | requeue h =>
      obtain ⟨rfl, time, htime, hids⟩ := UnitOfWork.requeue_ok h
      exact ⟨time, htime, swept_transitionAll (u := .begin t now) hids rfl⟩

theorem Outcome.swept_discard (h : Outcome S now t (.removeExhausted limit) (.ok r) events t') :
    Swept exhausted (fun _ => none) limit t.items t'.items r.items := by
  cases h with
  | spared _ hidle => cases hidle
  | worked _ before works after =>
    cases before.eq
    cases after.eq
    cases works with
    | removeExhausted =>
      refine ⟨rfl, fun id => ?_⟩
      refine (UnitOfWork.get?_foldl_removeItem _ _ id).trans ?_
      rw [Option.bind_fun_none]
      rfl

end Outcome

def Sweeps (g : Collaborator S) (call : UInt32 → Call) (now : Instant) (p : Row → Bool)
    (f : Row → Option Row) : Prop :=
  ∀ {b : Backend} {limit : UInt32}, b.Free → b.clock.now = now → limit ≠ 0 →
    ∃ r, (g.run (call limit) b).1 = .ok r ∧ (g.run (call limit) b).2.clock = b.clock ∧
      Swept p f limit b.tables.items (g.run (call limit) b).2.tables.items r.items

section Sweeps

variable {now time : Instant} {w : RecoveryWindows}

theorem sweeps_recover (g : Collaborator S) (archives : Archives)
    (htime : deadline now w.timeout = .ok time) :
    Sweeps g (.recoverTimedOut archives w) now (overdue time)
      fun row => some (entering .retry now row) := by
  intro b limit hfree hnow hlimit
  cases hnow
  obtain ⟨r, hr, hclock⟩ := Collaborator.run_recoverTimedOut (g := g) hfree archives hlimit htime
  obtain ⟨_, htime', hswept⟩ := (hfree.outcome_ok hr).swept_recover
  cases htime.symm.trans htime'
  exact ⟨r, hr, hclock, hswept⟩

theorem sweeps_requeue (g : Collaborator S) (htime : deadline now w.delay = .ok time) :
    Sweeps g (.requeue w) now (rested time) fun row => some (entering .ready now row) := by
  intro b limit hfree hnow hlimit
  cases hnow
  obtain ⟨r, hr, hclock⟩ := Collaborator.run_requeue (g := g) hfree hlimit htime
  obtain ⟨_, htime', hswept⟩ := (hfree.outcome_ok hr).swept_requeue
  cases htime.symm.trans htime'
  exact ⟨r, hr, hclock, hswept⟩

theorem sweeps_discard (g : Collaborator S) (now : Instant) :
    Sweeps g .removeExhausted now exhausted fun _ => none := by
  intro b limit hfree _ hlimit
  obtain ⟨r, hr, hclock⟩ := Collaborator.run_removeExhausted (g := g) hfree hlimit
  exact ⟨r, hr, hclock, (hfree.outcome_ok hr).swept_discard⟩

end Sweeps

end WorkQueue.Memory
