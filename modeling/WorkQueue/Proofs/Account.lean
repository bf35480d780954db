import WorkQueue.Proofs.Surroundings
import WorkQueue.Proofs.Visit

namespace WorkQueue

open Queue

namespace Memory

abbrev LeavesCells (ids : List ItemId) := Leaves fun t (id : {id // id ∈ ids}) => t.cell id

/-- No unit of work is open after a step, and of `ids` the tables hold what they held before, but
for those of `but`. -/
structure Backend.Still (ids but : List ItemId) (b b' : Backend) : Prop where
  free : b'.Free
  cells : ∀ id ∈ ids, id ∉ but → b'.tables.cell id = b.tables.cell id

structure Claimed (before cell : Cell) : Prop where
  attempts : before.attempts ≠ 0
  cell : ∃ since, cell = { before with row := some ⟨.processing, before.attempts, since⟩ }

section Cells

variable {before cell : Cell} {now : Instant}

theorem Claimed.status? (h : Claimed before cell) : cell.status? = some .processing := by
  obtain ⟨since, rfl⟩ := h.cell
  rfl

theorem Claimed.release (h : Claimed before cell) :
    cell.release now = { before with row := some ⟨.ready, before.attempts, now⟩ } := by
  rw [Cell.release, if_pos h.status?]
  obtain ⟨since, rfl⟩ := h.cell
  rfl

theorem Claimed.commit (h : Claimed before cell) (archives : Archives) :
    cell.commit archives now = before.commit archives now := by
  obtain ⟨since, rfl⟩ := h.cell
  rfl

theorem Claimed.reject (h : Claimed before cell) (archives : Archives) (cause : String) :
    cell.reject archives cause now = { before with
      row := some ⟨.retry, before.attempts - 1, now⟩
      entries := if archives.broken then some (before.entries.getD [] ++ [⟨cause, now⟩])
        else before.entries } := by
  rw [Cell.reject, Cell.demote, if_pos h.status?]
  have hattempts := h.attempts
  obtain ⟨since, rfl⟩ := h.cell
  cases archives.broken <;> simp [Cell.note, hattempts]

end Cells

namespace Backend

variable {ids : List ItemId} {id : ItemId} {b : Backend}

theorem Free.cell_hooked (h : b.Free) (g : Collaborator (LeavesCells ids)) (hid : id ∈ ids) :
    (g.hook b.begin.2).2.tables.cell id = b.tables.cell id := by
  obtain ⟨v, hv, -, hleaves⟩ := g.hook_unit (Collaborator.begin_engine h)
  have htables : (g.hook b.begin.2).2.tables = v.tables := by rw [tables, hv]; rfl
  rw [htables]
  exact congrFun hleaves.same ⟨id, hid⟩

theorem Free.commit_cells (h : b.Free) (g : Collaborator (LeavesCells ids)) (hid : id ∈ ids)
    (hzero : id.isZero = false) (archives : Archives) :
    let ended := g.run (.commit archives id) b
    b.Still ids [id] ended.2 ∧
      (ended.1 = .ok .done ∧
          ended.2.tables.cell id = (b.tables.cell id).commit archives b.clock.now ∨
        ∃ e, ended.1 = .error e ∧ ended.2.tables.cell id = b.tables.cell id) := by
  intro ended
  have hfree := (h.outcome g (.commit archives id)).1
  cases hresult : ended.1 with
  | error e =>
    have htables : ended.2.tables = b.tables := (h.outcome_error hresult).2
    rw [htables]
    exact ⟨⟨hfree, fun k _ _ => by rw [htables]⟩, .inr ⟨e, rfl, rfl⟩⟩
  | ok r =>
    obtain rfl : r = .done := by
      have hanswer := hresult.symm.trans (g.run_commit h hzero archives)
      cases hcommit : commitAnswer archives id (g.hook b.begin.2) with
      | error e =>
        rw [hcommit] at hanswer
        cases hanswer
      | ok u =>
        rw [hcommit] at hanswer
        exact Except.ok.inj hanswer
    have hsettled := (h.decides g (fun _ _ hleaves => hleaves.now) archives id).settled
      (congrArg (Except.map fun _ => ()) hresult)
    have hcells (k : ItemId) (hk : k ∈ ids) : ended.2.tables.cell k =
        if k = id then (b.tables.cell k).commit archives b.clock.now else b.tables.cell k := by
      rw [← h.cell_hooked g hk, ← Tables.cell_settle]
      exact congrArg (·.cell k) hsettled
    refine ⟨⟨hfree, fun k hk hne => ?_⟩, .inl ⟨rfl, ?_⟩⟩
    · rw [hcells k hk, if_neg (List.mem_singleton.not.1 hne)]
    · rw [hcells id hid, if_pos rfl]

theorem Free.reject_cells (h : b.Free) (g : Collaborator (LeavesCells ids))
    (hzero : id.isZero = false) (archives : Archives) (cause : String) :
    let ended := g.run (.reject archives id cause) b
    b.Still ids [id] ended.2 ∧ ended.1 = .ok .done ∧
      ended.2.tables.cell id = (b.tables.cell id).reject archives cause b.clock.now := by
  intro ended
  have hresult := g.run_reject h hzero archives cause
  obtain ⟨hcells, -⟩ := (h.outcome_ok hresult).rejected
  refine ⟨⟨(h.outcome g _).1, fun k _ hk => ?_⟩, hresult, ?_⟩
  · rw [hcells, if_neg (List.mem_singleton.not.1 hk)]
  · rw [hcells, if_pos rfl]

theorem Free.cancel_cells (h : b.Free) (g : Collaborator (LeavesCells ids)) {returned : List ItemId}
    (hzero : ∀ id ∈ returned, id.isZero = false) :
    let ended := g.run (.cancelItems returned) b
    b.Still ids returned ended.2 ∧ ended.1 = .ok .done ∧
      ∀ id ∈ returned, ended.2.tables.cell id = (b.tables.cell id).release b.clock.now := by
  intro ended
  have hfault : (Call.cancelItems returned).fault? = none := by
    simpa [Call.fault?] using hzero
  have hresult := h.run_cancelItems (g := g) hfault
  obtain ⟨hcells, -⟩ := (h.outcome_ok hresult).cancelled
  refine ⟨⟨(h.outcome g _).1, fun k _ hk => ?_⟩, hresult, fun id hid => ?_⟩
  · rw [hcells, if_neg hk]
  · rw [hcells, if_pos hid]

end Backend

section Settle

variable {X : Effects} (w : Worker X) {ids : List ItemId} {id : ItemId} {b : Backend}
  {before : Cell}

theorem Backend.Free.settling_cells (h : b.Free) (g : Collaborator (LeavesCells ids))
    (hid : id ∈ ids) (hzero : id.isZero = false) (hclaimed : Claimed before (b.tables.cell id))
    (handling : Handling) :
    let ended := g.run (w.settling id handling) b
    b.Still ids [id] ended.2 ∧ w.Accounted before handling ended.1 (ended.2.tables.cell id) := by
  intro ended
  have hends {result : Except QueueError Reply} {after : Cell} (hresult : ended.1 = result)
      (hafter : ended.2.tables.cell id = after) (h : w.Accounted before handling result after) :
      w.Accounted before handling ended.1 (ended.2.tables.cell id) := by
    rw [hresult, hafter]
    exact h
  have hrejected (cause : String) (hcause : w.cause? handling = some cause)
      (hcall : w.settling id handling = .reject w.archives id cause) : b.Still ids [id] ended.2 ∧
        w.Accounted before handling ended.1 (ended.2.tables.cell id) := by
    obtain ⟨hstill, hok, hcell⟩ := h.reject_cells g hzero w.archives cause
    rw [hclaimed.reject, ← hcall] at hcell
    rw [← hcall] at hstill hok
    exact ⟨hstill, hends hok hcell (.rejected hcause _)⟩
  cases handling with
  | succeeded =>
    obtain ⟨hstill, ⟨hok, hcell⟩ | ⟨e, herror, hcell⟩⟩ := h.commit_cells g hid hzero w.archives
    · rw [hclaimed.commit] at hcell
      exact ⟨hstill, hends hok hcell (.committed _)⟩
    · obtain ⟨since, hsince⟩ := hclaimed.cell
      rw [hsince] at hcell
      exact ⟨hstill, hends herror hcell (.unsettled e since)⟩
  | stopped e =>
    cases e with
    | notStarted reason =>
      obtain ⟨hstill, hok, hcells⟩ := h.cancel_cells g (List.forall_mem_singleton.2 hzero)
      have hcell := hcells id (List.mem_singleton_self id)
      rw [hclaimed.release] at hcell
      exact ⟨hstill, hends hok hcell (.notStarted reason _)⟩
    | failed cause => exact hrejected cause.message rfl rfl
  | timedOut => exact hrejected _ rfl rfl

end Settle

/-- Calls are made on the queue that `view` shows, for an application that leaves `ids` alone, and
nothing else that is asked for has to do with these. -/
structure Hosts {σ : Type} (serve : Serves σ) (view : σ → Backend) (ids : List ItemId) : Prop where
  call : ∀ c s, (view s).Free → ∃ g : Collaborator (LeavesCells ids),
    (serve (.call c) s).1 = (g.run c (view s)).1 ∧
      view (serve (.call c) s).2 = (g.run c (view s)).2
  rest : ∀ r s, (∀ c, r ≠ .call c) → (view s).Free →
    (view s).Still ids [] (view (serve r s).2)

namespace Backend.Still

variable {ids but but' : List ItemId} {b b' b'' : Backend}

theorem trans (h : b.Still ids but b') (h' : b'.Still ids but' b'') :
    b.Still ids (but ++ but') b'' where
  free := h'.free
  cells id hid hbut := by
    rw [List.mem_append, not_or] at hbut
    rw [h'.cells id hid hbut.2, h.cells id hid hbut.1]

end Backend.Still

section Visit

variable {X : Effects} {σ : Type} {w : Worker X} {serve : Serves σ} {view : σ → Backend}
  {ids : List ItemId} {id : ItemId} {s : σ} {before : Cell}

structure Visits (w : Worker X) (serve : Serves σ) (view : σ → Backend) (ids : List ItemId)
    (before : Cell) (v : Visit) {α : Type} (d : Duty α) (s : σ) : Prop where
  still : (view s).Still ids [v.id] (view (d.run serve s).2)
  steps : (d.trace serve s).filter (·.1.matters) =
    [⟨.handle v.id, v.handling⟩, ⟨.call (w.settling v.id v.handling), v.result⟩]
  settled : w.Accounted before v.handling v.result ((view (d.run serve s).2).tables.cell v.id)

theorem Hosts.settle (h : Hosts serve view ids) (hfree : (view s).Free) (hid : id ∈ ids)
    (hzero : id.isZero = false) (hclaimed : Claimed before ((view s).tables.cell id))
    (handling : Handling) :
    let ended := (w.settleDuty id handling).run serve s
    ∃ result, ended.1 = (handling.counts, result.map fun _ => ()) ∧
      (view s).Still ids [id] (view ended.2) ∧
      ((w.settleDuty id handling).trace serve s).filter (·.1.matters) =
        [⟨.call (w.settling id handling), result⟩] ∧
      w.Accounted before handling result ((view ended.2).tables.cell id) := by
  intro ended
  have hcall {s' : σ} (hstill : (view s).Still ids [] (view s')) :
      let answered := serve (.call (w.settling id handling)) s'
      (view s).Still ids [id] (view answered.2) ∧
        w.Accounted before handling answered.1 ((view answered.2).tables.cell id) := by
    intro answered
    obtain ⟨g, hresult, hview⟩ := h.call (w.settling id handling) s' hstill.free
    rw [← hstill.cells id hid List.not_mem_nil] at hclaimed
    obtain ⟨hsettled, haccounted⟩ := hstill.free.settling_cells w g hid hzero hclaimed handling
    rw [← hview] at hsettled haccounted
    rw [← hresult] at haccounted
    exact ⟨hstill.trans hsettled, haccounted⟩
  have hnote (n : Notice) : (view s).Still ids [] (view (serve (.note n) s).2) :=
    h.rest (.note n) s nofun hfree
  cases handling with
  | succeeded =>
    obtain ⟨hstill, haccounted⟩ := hcall ⟨hfree, fun _ _ _ => rfl⟩
    exact ⟨_, rfl, hstill, rfl, haccounted⟩
  | stopped e =>
    cases e with
    | notStarted reason =>
      obtain ⟨hstill, haccounted⟩ := hcall (hnote (.itemNotStarted id reason))
      exact ⟨_, rfl, hstill, rfl, haccounted⟩
    | failed cause =>
      obtain ⟨hstill, haccounted⟩ := hcall (hnote (.itemFailed id cause))
      exact ⟨_, rfl, hstill, rfl, haccounted⟩
  | timedOut =>
    obtain ⟨hstill, haccounted⟩ :=
      hcall (hnote (.itemTimedOut id (timeoutMessage w.config.handleTimeout)))
    exact ⟨_, rfl, hstill, rfl, haccounted⟩

theorem Hosts.closing (h : Hosts serve view ids) (hfree : (view s).Free) (id : ItemId)
    (settlement : Bool × Except QueueError Unit) :
    ((Worker.closing id settlement).run serve s).1 = (settlement.1 && settlement.2.isOk) ∧
      (view s).Still ids [] (view ((Worker.closing id settlement).run serve s).2) ∧
      ((Worker.closing id settlement).trace serve s).filter (·.1.matters) = [] := by
  obtain ⟨settles, e | _⟩ := settlement
  · have hnote (n : Notice) := h.rest (.note n) s nofun hfree
    cases hmismatch : e.isStatusMismatch with
    | true =>
      simp only [Worker.closing, hmismatch, if_true]
      exact ⟨(Bool.and_false _).symm, hnote _, rfl⟩
    | false =>
      simp only [Worker.closing, hmismatch, Bool.false_eq_true, if_false]
      exact ⟨(Bool.and_false _).symm, hnote _, rfl⟩
  · exact ⟨(Bool.and_true _).symm, ⟨hfree, fun _ _ _ => rfl⟩, rfl⟩

theorem Hosts.process (h : Hosts serve view ids) (hfree : (view s).Free) (hid : id ∈ ids)
    (hzero : id.isZero = false) (hclaimed : Claimed before ((view s).tables.cell id)) :
    ∃ v, v.id = id ∧ ((w.processDuty id).run serve s).1 = v.counts ∧
      Visits w serve view ids before v (w.processDuty id) s := by
  have hhandle : (view s).Still ids [] (view (serve (.handle id) s).2) :=
    h.rest (.handle id) s nofun hfree
  have hrun := w.run_processDuty serve id s
  have htrace := w.trace_processDuty serve id s
  generalize (serve (.handle id) s : Handling × σ) = handled at hhandle hrun htrace
  rw [← hhandle.cells id hid List.not_mem_nil] at hclaimed
  obtain ⟨result, hended, hsettled, hsteps, haccounted⟩ :=
    h.settle (w := w) hhandle.free hid hzero hclaimed handled.1
  dsimp only at hrun htrace
  generalize (w.settleDuty id handled.1).run serve handled.2 = settled
    at hended hsettled haccounted hrun htrace
  obtain ⟨hcounts, hclosed, hquiet⟩ := h.closing hsettled.free id settled.1
  refine ⟨⟨id, handled.1, result⟩, rfl, ?_, ?_, ?_, ?_⟩
  · rw [hrun, hcounts, hended]
    cases result <;> rfl
  · rw [hrun]
    exact hhandle.trans (hsettled.trans hclosed)
  · rw [htrace, List.filter_cons_of_pos rfl, List.filter_append, hsteps, hquiet]
    rfl
  · rw [hrun, hclosed.cells id hid List.not_mem_nil]
    exact haccounted

end Visit

section Loop

variable {X : Effects} {σ : Type} {w : Worker X} {serve : Serves σ} {view : σ → Backend}
  {ids rest : List ItemId} {id : ItemId} {s : σ} {before : ItemId → Cell}

theorem Backend.Still.claimed {but : List ItemId} {b b' : Backend} (h : b.Still ids but b')
    (hsub : rest ⊆ ids) (hapart : ∀ id ∈ rest, id ∉ but)
    (hclaimed : ∀ id ∈ rest, Claimed (before id) (b.tables.cell id)) :
    ∀ id ∈ rest, Claimed (before id) (b'.tables.cell id) := by
  intro id hid
  rw [h.cells id (hsub hid) (hapart id hid)]
  exact hclaimed id hid

theorem Hosts.handBack (h : Hosts serve view ids) (hsub : rest ⊆ ids) (hfree : (view s).Free)
    (hzero : ∀ id ∈ rest, id.isZero = false)
    (hclaimed : ∀ id ∈ rest, Claimed (before id) ((view s).tables.cell id)) (settled : Nat) :
    let ended := (w.handBack settled rest).run serve s
    ended.1 = .ok settled ∧ (view s).Still ids rest (view ended.2) ∧
      ((w.handBack settled rest).trace serve s).filter (·.1.matters) =
        [⟨.call (.cancelItems rest), .ok .done⟩] ∧
      ∀ id ∈ rest, ∃ time, (view ended.2).tables.cell id =
        { before id with row := some ⟨.ready, (before id).attempts, time⟩ } := by
  intro ended
  have hnoted : (view s).Still ids [] (view (serve (.note _) s).2) :=
    h.rest (.note (.batchReturned w.index rest.length)) s nofun hfree
  replace hclaimed := hnoted.claimed hsub (fun _ _ => List.not_mem_nil) hclaimed
  obtain ⟨g, hresult, hview⟩ := h.call (.cancelItems rest) _ hnoted.free
  obtain ⟨hstill, hok, hcells⟩ := hnoted.free.cancel_cells g hzero
  rw [← hview] at hstill hcells
  have hanswer := hresult.trans hok
  refine ⟨?_, hnoted.trans hstill, ?_, fun id hid => ?_⟩
  · exact congrArg (fun r => (r.map fun _ => ()).map fun _ => settled) hanswer
  · exact congrArg (fun r => [(⟨.call (.cancelItems rest), r⟩ : Exchange dutyEffects)]) hanswer
  · have hcell := hcells id hid
    rw [(hclaimed id hid).release] at hcell
    exact ⟨_, hcell⟩

theorem Hosts.processAll (h : Hosts serve view ids) (hsub : rest ⊆ ids) (hnodup : rest.Nodup)
    (hfree : (view s).Free) (hzero : ∀ id ∈ rest, id.isZero = false)
    (hclaimed : ∀ id ∈ rest, Claimed (before id) ((view s).tables.cell id)) (settled : Nat) :
    let ended := (w.processAllDuty settled rest).run serve s
    ∃ visits, ended.1 = .ok (settled + visits.countP Visit.counts) ∧
      (view s).Still ids rest (view ended.2) ∧
      w.Account rest visits ((w.processAllDuty settled rest).trace serve s) before
        (view ended.2).tables.cell := by
  induction rest generalizing s settled with
  | nil => exact ⟨[], rfl, ⟨hfree, fun _ _ _ => rfl⟩, .nil⟩
  | cons id rest ih =>
    have hstopping : (view s).Still ids [] (view (serve .stopping s).2) :=
      h.rest .stopping s nofun hfree
    generalize hasked : (serve .stopping s : Bool × σ) = asked at hstopping
    replace hclaimed := hstopping.claimed hsub (fun _ _ => List.not_mem_nil) hclaimed
    obtain ⟨_ | _, s'⟩ := asked
    · obtain ⟨hrun, htrace⟩ := w.processAllDuty_untold settled id rest hasked
      rw [List.cons_subset] at hsub
      rw [List.nodup_cons] at hnodup
      rw [List.forall_mem_cons] at hzero hclaimed
      obtain ⟨v, rfl, hcounts, hvisits⟩ :=
        h.process (w := w) hstopping.free hsub.1 hzero.1 hclaimed.1
      rw [hcounts] at hrun htrace
      generalize hprocessed : (w.processDuty v.id).run serve s' = processed at hrun htrace
      have hstill := hvisits.still
      have haccounted := hvisits.settled
      rw [hprocessed] at hstill haccounted
      have hapart : ∀ id ∈ rest, id ∉ [v.id] := fun id hid h =>
        hnodup.1 (List.mem_singleton.1 h ▸ hid)
      obtain ⟨visits, hended, hothers, haccount⟩ :=
        ih hsub.2 hnodup.2 hstill.free hzero.2 (hstill.claimed hsub.2 hapart hclaimed.2)
          (if v.counts then settled + 1 else settled)
      rw [hrun, htrace]
      refine ⟨v :: visits, ?_, ?_, ?_⟩
      · rw [hended, List.countP_cons]
        cases v.counts <;> simp [Nat.add_assoc, Nat.add_comm 1]
      · exact hstopping.trans (hstill.trans hothers)
      · rw [← List.cons_append]
        refine .cons ?_ ?_ haccount
        · rw [List.filter_cons_of_pos rfl, hvisits.steps]
          rfl
        · rw [hothers.cells v.id hsub.1 hnodup.1]
          exact haccounted
    · obtain ⟨hrun, htrace⟩ := w.processAllDuty_told settled id rest hasked
      obtain ⟨hended, hstill, hsteps, hreturned⟩ :=
        h.handBack (w := w) hsub hstopping.free hzero hclaimed settled
      rw [hrun, htrace]
      refine ⟨[], hended, hstopping.trans hstill, .stopped (List.cons_ne_nil _ _) ?_ hreturned⟩
      rw [List.filter_cons_of_pos rfl, hsteps]

end Loop

section Undisturbed

variable {X : Effects} {σ : Type}

/-- The in-memory tables that `view` shows, while nobody but the worker does anything to `ids`: its
hooks write to other items only, and neither its handler nor what tells it to stop has to do with
these. -/
structure Undisturbed (w : Worker X) (answer : Answers X σ) (view : σ → Backend)
    (ids : List ItemId) : Prop where
  queue : InMemory answer view
  hook : ∀ id s u v, (view s).engine = .busy u →
    (view ((w.handler.preCommit id).run answer s).2).engine = .busy v →
    ∀ k ∈ ids, v.tables.cell k = u.tables.cell k
  handle : ∀ id s, (view s).Free →
    (view s).Still ids [] (view (w.serve answer (.handle id) s).2)
  stopping : ∀ s, (view s).Free → (view s).Still ids [] (view (w.serve answer .stopping s).2)

theorem Undisturbed.hosts {w : Worker X} {answer : Answers X σ} {view : σ → Backend}
    {ids : List ItemId} (h : Undisturbed w answer view ids) : Hosts (w.serve answer) view ids where
  call c s _ := by
    let shown (t : Tables) (k : {k // k ∈ ids}) := t.cell k
    have hleaves (s : σ) (u v : UnitOfWork) (hu : (view s).engine = .busy u)
        (hv : (view ((w.hook c).run answer s).2).engine = .busy v) :
        shown v.tables = shown u.tables := by
      cases c with
      | commit archives id => exact funext fun k => h.hook id s u v hu hv k.1 k.2
      | _ =>
        cases hu.symm.trans hv
        rfl
    obtain ⟨g, hrun⟩ := h.queue.exec_program hleaves c s
    exact ⟨g, congrArg Prod.fst hrun, congrArg Prod.snd hrun⟩
  rest r s hcall hfree := by
    cases r with
    | call c => exact absurd rfl (hcall c)
    | stopping => exact h.stopping s hfree
    | handle id => exact h.handle id s hfree
    | note n =>
      have hnoted : view (w.serve answer (.note n) s).2 = (view s).write (.notice n) :=
        h.queue.note n s
      rw [hnoted]
      exact ⟨hfree, fun _ _ _ => rfl⟩

theorem serve_readItems (w : Worker X) (app : (r : X.Request) → Backend → X.Answer r × Backend)
    (limit : UInt32) (hlimit : limit ≠ 0) {b : Backend} {t : Tables} (hb : b.engine = .idle t) :
    let u := UnitOfWork.begin t b.clock.now
    let ids := oldest limit (eligible (visible b.clock.now) t.items)
    let b' := { b with engine := .idle (u.transitionAll .processing ids).tables }
    (w.serve (Backend.answer app) (.call (.readItems limit)) b :
      Except QueueError Reply × Backend) =
      (.ok (.ids ids), (b'.write (.notice .unitCommitted)).emit
        (.of .readItems (.count (UInt64.ofNat ids.length)))) := by
  obtain ⟨engine, clock, metrics, journal, origin⟩ := b
  cases hb
  have hchecked : Operation.checkLimit (X := X) limit = pure () := if_neg (by simpa using hlimit)
  intro u ids b'
  refine (Operation.exec_bind (Backend.answer app) (Queue.readItems limit) _ _).trans ?_
  rw [Queue.readItems, hchecked]
  rfl

end Undisturbed

section Poll

variable {X : Effects} {σ : Type} {w : Worker X} {serve : Serves σ} {view : σ → Backend}
  {ids : List ItemId} {s : σ}

theorem Claimed.enter {before : Cell} (hready : before.status? = some .ready)
    (hattempts : before.attempts ≠ 0) (now : Instant) :
    Claimed before (before.enter .processing now) := by
  obtain ⟨row, hrow, -⟩ := Option.map_eq_some_iff.1 hready
  refine ⟨hattempts, now, ?_⟩
  simp [Cell.enter, Cell.attempts, hrow, entering]

theorem Hosts.read {limit : UInt32} (h : Hosts serve view ids) (hfree : (view s).Free)
    (hread : (serve (.call (.readItems limit)) s).1 = .ok (.ids ids)) :
    let claimed := serve (.call (.readItems limit)) s
    ids.Nodup ∧ (∀ id ∈ ids, (view s).status? id = some .ready) ∧ (view claimed.2).Free ∧
      ∀ id ∈ ids, (view claimed.2).tables.cell id =
        ((view s).tables.cell id).enter .processing (view s).clock.now := by
  intro claimed
  obtain ⟨g, hresult, hview⟩ := h.call (.readItems limit) s hfree
  rw [hview]
  obtain ⟨hnodup, hready, hcells⟩ := (hfree.outcome_ok (hresult.symm.trans hread)).read
  exact ⟨hnodup, hready, (hfree.outcome g _).1, fun id hid => (hcells id).trans (if_pos hid)⟩

theorem Backend.Sound.ready {b : Backend} {id : ItemId} (h : b.Sound id)
    (hready : b.status? id = some .ready) :
    id.isZero = false ∧ (b.tables.cell id).attempts ≠ 0 := by
  obtain ⟨row, hrow, hstatus⟩ := Option.map_eq_some_iff.1 hready
  refine ⟨h.regular.id row hrow, fun hattempts => ?_⟩
  have hspent : row.attempts = 0 := by simpa [Cell.attempts, Tables.cell, hrow] using hattempts
  have hretry := h.regular.spent row hrow hspent
  rw [hstatus] at hretry
  cases hretry

/-- A poll accounts for every item that it claims. -/
theorem poll_accounts (w : Worker X) (answer : Answers X σ) (view : σ → Backend) {s : σ}
    {S : UnitOfWork → UnitOfWork → Prop} (hS : ∀ id, KeepsRegular S id) {t : Instant}
    {acts : List (Act S)} (hreached : view s = (Backend.start t).play acts) {ids : List ItemId}
    (hread : (w.serve answer (.call (.readItems w.readLimit)) s).1 = .ok (.ids ids))
    (h : Undisturbed w answer view ids) :
    let before := (view s).tables.cell
    let ended := w.pollOnce.exec answer s
    ids.Nodup ∧ (∀ id ∈ ids, (before id).status? = some .ready ∧ (before id).attempts ≠ 0) ∧
      ended = w.pollOnceDuty.run (w.serve answer) s ∧
      ∃ visits steps, w.pollOnceDuty.trace (w.serve answer) s =
          ⟨.call (.readItems w.readLimit), .ok (.ids ids)⟩ :: steps ∧
        w.Account ids visits steps before (view ended.2).tables.cell ∧
        ended.1 = .ok (visits.countP Visit.counts) := by
  intro before ended
  have hsound (id : ItemId) : (view s).Sound id := by
    rw [hreached]
    exact (Backend.Sound.start t id).play_keeps (hS id) acts
  have hfree : (view s).Free := (hsound ⟨0⟩).free
  obtain ⟨hnodup, hready, hfree', hcells⟩ := h.hosts.read hfree hread
  generalize hclaim : (w.serve answer (.call (.readItems w.readLimit)) s :
    Except QueueError Reply × σ) = claim at hread hfree' hcells
  obtain ⟨_, s'⟩ := claim
  cases hread
  have hregular (id : ItemId) (hid : id ∈ ids) := (hsound id).ready (hready id hid)
  have hclaimed : ∀ id ∈ ids, Claimed (before id) ((view s').tables.cell id) := by
    intro id hid
    have hstatus : (before id).status? = some .ready := hready id hid
    rw [hcells id hid]
    exact .enter hstatus (hregular id hid).2 _
  obtain ⟨visits, hended, -, haccount⟩ := h.hosts.processAll (w := w) (List.Subset.refl ids) hnodup
    hfree' (fun id hid => (hregular id hid).1) hclaimed 0
  obtain ⟨hrun, htrace⟩ := w.pollOnceDuty_read hclaim
  have hpoll : ended = w.pollOnceDuty.run (w.serve answer) s := w.exec_pollOnce answer s
  refine ⟨hnodup, fun id hid => ⟨hready id hid, (hregular id hid).2⟩, hpoll, visits, _, htrace, ?_⟩
  rw [hpoll, hrun]
  rw [Nat.zero_add] at hended
  exact ⟨haccount, hended⟩

/-- A batch of three. The handler takes two seconds for each item and fails with the second, and the
worker is told to stop after three seconds. -/
theorem poll_accounts_stopped :
    let X : Effects := ⟨Duration, fun _ => Bool⟩
    let app := fun (d : Duration) (b : Backend) =>
      (decide (.clamp 3000000000 ≤ b.clock.now), { b with clock := b.clock.advance d })
    let handle (id : ItemId) : Program (queueEffects X) Handling :=
      .ask (.app (Duration.ofSeconds 2)) fun _ =>
        .done (if id = ⟨2⟩ then .stopped (.failed (.text "late")) else .succeeded)
    let w : Worker X := {
      index := 0
      archives := ⟨true, true⟩
      readLimit := 10
      config := ⟨1, .zero, .zero, .zero, .ofSeconds 30⟩
      handler := ⟨handle, fun _ => .done (.ok ())⟩
      stopping := .ask (.app .zero) .done }
    let g : Collaborator LeavesRows := .plain _
    let append (id : ItemId) : Act LeavesRows := .call g (.append ⟨id, .zero, 3⟩)
    let b := (Backend.start (.clamp 0)).play [append ⟨1⟩, append ⟨2⟩, append ⟨3⟩]
    let serve := w.serve (Backend.answer app)
    let ids : List ItemId := [⟨1⟩, ⟨2⟩, ⟨3⟩]
    let ended := w.pollOnce.exec (Backend.answer app) b
    Undisturbed w (Backend.answer app) (fun b => b) ids ∧
      (∃ visits steps, w.pollOnceDuty.trace serve b =
          ⟨.call (.readItems w.readLimit), .ok (.ids ids)⟩ :: steps ∧
        w.Account ids visits steps b.tables.cell ended.2.tables.cell ∧
        ended.1 = .ok (visits.countP Visit.counts)) ∧
      ended.1 = .ok 2 ∧
      ended.2.tables.items.rows = [(⟨2⟩, ⟨.retry, 2, .clamp 4000000000⟩),
        (⟨3⟩, ⟨.ready, 3, .clamp 4000000000⟩)] ∧
      ended.2.tables.completed.rows = [(⟨1⟩, .clamp 2000000000)] ∧
      ended.2.tables.broken.rows = [(⟨2⟩, [⟨"late", .clamp 4000000000⟩])] := by
  intro X app handle w g append b serve ids ended
  have hundisturbed : Undisturbed w (Backend.answer app) (fun b => b) ids := by
    refine ⟨.of_answer fun _ _ => rfl, ?_, ?_, ?_⟩
    · intro id b u v hu hv
      cases hu.symm.trans hv
      exact fun _ _ => rfl
    · exact fun _ _ hfree => ⟨hfree, fun _ _ _ => rfl⟩
    · exact fun _ hfree => ⟨hfree, fun _ _ _ => rfl⟩
  have hids : oldest 10 (eligible (visible b.clock.now) b.tables.items) = ids := by
    have hcandidates : eligible (visible b.clock.now) b.tables.items =
        [⟨.clamp 0, ⟨1⟩⟩, ⟨.clamp 0, ⟨2⟩⟩, ⟨.clamp 0, ⟨3⟩⟩] := by
      decide +kernel
    rw [hcandidates, oldest, List.mergeSort_of_pairwise (by decide)]
    rfl
  have hfree : b.Free := (Backend.Free.start (.clamp 0)).play _
  have hread := serve_readItems w app w.readLimit (by decide) hfree
  dsimp only at hread
  rw [hids] at hread
  obtain ⟨-, -, hpoll, haccount⟩ := poll_accounts w (Backend.answer app) (fun b => b)
    (fun id => (spares_rows id).keepsRegular) rfl (congrArg Prod.fst hread) hundisturbed
  rw [(w.pollOnceDuty_read hread).1] at hpoll
  refine ⟨hundisturbed, haccount, ?_⟩
  rw [show ended = _ from hpoll]
  decide +kernel

end Poll

end Memory

end WorkQueue
