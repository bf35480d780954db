import WorkQueue.Proofs.Location
import WorkQueue.Proofs.Settlement
import WorkQueue.Proofs.Sweep

/-!
The archives are written and never read: what the rows of a queue become, and what its clients are
answered, is the same on a storage without archives. A unit of work on that storage is the one on
the other with the archives left out, and a call takes the one where it takes the other.
-/

namespace WorkQueue.Memory

open Queue Operation

def noArchives : Archives := ⟨false, false⟩

def Tables.bare (t : Tables) : Tables := ⟨t.items, .empty, .empty⟩

def onRows : StoreCall → Bool
  | .insert _ | .claim _ | .release _ | .delete .. | .demote _ | .recover .. | .requeue ..
  | .discard _ => true
  | _ => false

namespace UnitOfWork

def bare (u : UnitOfWork) : UnitOfWork := ⟨u.tables.bare, ⟨u.undo.items, .empty, .empty⟩, u.now⟩

@[simp] theorem bare_items (u : UnitOfWork) : u.bare.tables.items = u.tables.items := rfl

@[simp] theorem bare_now (u : UnitOfWork) : u.bare.now = u.now := rfl

theorem bare_rolledBack (u : UnitOfWork) : u.bare.rolledBack = u.rolledBack.bare := rfl

variable (u : UnitOfWork)

theorem transition_bare (target : Status) (id : ItemId) :
    u.bare.transition target id = (u.transition target id).bare := by
  simp only [transition, bare_items]
  cases u.tables.items.get? id with
  | none => rfl
  | some row => rfl

theorem transitionAll_bare (target : Status) (ids : List ItemId) :
    u.bare.transitionAll target ids = (u.transitionAll target ids).bare := by
  refine List.foldl_hom bare ?_
  intro u id
  exact u.transition_bare target id

theorem duplicate?_bare (seen ids : List ItemId) :
    u.bare.duplicate? seen ids = u.duplicate? seen ids := by
  induction ids generalizing seen with
  | nil => rfl
  | cons id ids ih => simp only [duplicate?, bare_items, ih]

theorem insertRows_bare (items : List Item) :
    u.bare.insertRows items = ((u.insertRows items).1, (u.insertRows items).2.bare) := by
  induction items generalizing u with
  | nil => rfl
  | cons item items ih =>
    simp only [insertRows, bare_now]
    cases visibleAt u.now item.readyDelay with
    | error e => rfl
    | ok time => exact ih (u.putItem item.id ⟨.ready, item.retryAttempts, time⟩)

theorem insert_bare (items : List Item) :
    u.bare.insert items = ((u.insert items).1, (u.insert items).2.bare) := by
  simp only [insert, duplicate?_bare]
  cases u.duplicate? [] (items.map (·.id)) with
  | some id => rfl
  | none => exact u.insertRows_bare items

theorem delete_bare (id : ItemId) (status : Status) :
    u.bare.delete id status = ((u.delete id status).1, (u.delete id status).2.bare) := by
  simp only [delete, Tables.status?, bare_items]
  by_cases h : (u.tables.items.get? id).map (·.status) = some status
  · simp only [h, if_true]
    rfl
  · simp only [h, if_false]

theorem demote_bare (id : ItemId) :
    u.bare.demote id = ((u.demote id).1, (u.demote id).2.bare) := by
  simp only [demote, bare_items]
  cases u.tables.items.get? id with
  | none => rfl
  | some row =>
    by_cases h : row.status = .processing
    · simp only [h, if_true]
      rfl
    · simp only [h, if_false]

theorem recover_bare (timeout : Duration) (limit : UInt32) :
    u.bare.recover timeout limit =
      ((u.recover timeout limit).1, (u.recover timeout limit).2.bare) := by
  simp only [recover, bare_now, bare_items, transitionAll_bare]
  cases deadline u.now timeout <;> rfl

theorem requeue_bare (delay : Duration) (limit : UInt32) :
    u.bare.requeue delay limit = ((u.requeue delay limit).1, (u.requeue delay limit).2.bare) := by
  simp only [requeue, bare_now, bare_items, transitionAll_bare]
  cases deadline u.now delay <;> rfl

theorem perform_bare {c : StoreCall} (hc : onRows c = true) :
    u.bare.perform c = ((u.perform c).1, (u.perform c).2.bare) := by
  cases c with
  | insert items => exact u.insert_bare items
  | claim limit => exact Prod.ext rfl (u.transitionAll_bare _ _)
  | release ids => exact Prod.ext rfl (u.transitionAll_bare _ _)
  | delete key status => exact congrArg (Prod.map Except.ok id) (u.delete_bare key status)
  | demote key => exact congrArg (Prod.map Except.ok id) (u.demote_bare key)
  | recover timeout limit => exact u.recover_bare timeout limit
  | requeue delay limit => exact u.requeue_bare delay limit
  | discard limit => exact Prod.ext rfl (List.foldl_hom bare fun _ _ => rfl)
  | _ => cases hc

theorem bare_perform {c : StoreCall} (hc : onRows c = false) : (u.perform c).2.bare = u.bare := by
  cases c with
  | complete key =>
    simp only [perform, complete]
    split <;> rfl
  | expireCompleted expiry limit =>
    simp only [perform, expireCompleted]
    split
    · rfl
    · exact foldl_frame bare (f := removeCompleted) (fun _ _ => rfl) _ _
  | recordFailures rows =>
    exact foldl_frame bare (f := fun u (row : Failure) => u.pushBroken row.id ⟨row.error, u.now⟩)
      (fun _ _ => rfl) _ _
  | expireBroken expiry limit =>
    simp only [perform, expireBroken]
    split
    · rfl
    · exact foldl_frame bare (f := removeBroken) (fun _ _ => rfl) _ _
  | purge ids => rfl
  | _ => cases hc

end UnitOfWork

def Engine.bare : Engine → Engine
  | .idle t => .idle t.bare
  | .busy u => .busy u.bare

/-- The second backend is what the first would be on a storage without archives. They may differ in
what they keep for others to read: their journals and their totals. -/
structure Level (b b' : Backend) : Prop where
  clock : b'.clock = b.clock
  engine : b'.engine = b.engine.bare

def Application.Unaware (app : Application) : Prop :=
  ∀ b b', Level b b' → (app.hook b').1 = (app.hook b).1 ∧
    (app.hook b').2.clock = (app.hook b).2.clock

theorem Application.plain_unaware : Application.plain.Unaware := fun _ _ h => ⟨rfl, h.clock⟩

def Agree {α : Type} (ended ended' : α × Backend) : Prop :=
  ended'.1 = ended.1 ∧ Level ended.2 ended'.2

def AgreeOpen {α : Type} (ended ended' : α × Backend) : Prop :=
  (∃ u, ended.2.engine = .busy u) ∧ Agree ended ended'

theorem AgreeOpen.bind {app : Application} {α β : Type} {op op' : Operation hookCall α}
    {f f' : α → Operation hookCall β} {b b' : Backend}
    (h : AgreeOpen (op.exec app.collaborator.serve b) (op'.exec app.collaborator.serve b'))
    (hf : ∀ {a next next' u}, op.exec app.collaborator.serve b = (.ok a, next) →
      next.engine = .busy u → Level next next' → AgreeOpen ((f a).exec app.collaborator.serve next)
        ((f' a).exec app.collaborator.serve next')) :
    AgreeOpen ((op >>= f).exec app.collaborator.serve b)
      ((op' >>= f').exec app.collaborator.serve b') := by
  obtain ⟨⟨v, hv⟩, hresult, hafter⟩ := h
  rw [exec_bind, exec_bind]
  generalize op.exec app.collaborator.serve b = ended at hf hv hresult hafter
  generalize op'.exec app.collaborator.serve b' = ended' at hresult hafter
  obtain ⟨result, next⟩ := ended
  obtain ⟨_, next'⟩ := ended'
  cases hresult
  cases result with
  | error e => exact ⟨⟨v, hv⟩, rfl, hafter⟩
  | ok a => exact hf rfl hv hafter

/-- Two operations that come to the same inside a unit of work, if the second one runs on a storage
without archives. -/
structure Abreast (app : Application) {α : Type} (op op' : Operation hookCall α) : Prop where
  busy : ∀ {b b' u}, b.engine = .busy u → Level b b' →
    AgreeOpen (op.exec app.collaborator.serve b) (op'.exec app.collaborator.serve b')

section Store

variable {app : Application} {b b' : Backend} {u : UnitOfWork} {c : StoreCall}

theorem Level.busy (h : Level b b') (hb : b.engine = .busy u) : b'.engine = .busy u.bare := by
  rw [h.engine, hb]
  rfl

theorem isPurge_of_onRows (hc : onRows c = true) : isPurge c = false := by
  cases c with
  | purge ids => cases hc
  | _ => rfl

theorem Level.serve_rows (h : Level b b') (app : Application) (hb : b.engine = .busy u)
    (hc : onRows c = true) :
    Agree (app.collaborator.serve (.store c) b) (app.collaborator.serve (.store c) b') := by
  have hpurge := isPurge_of_onRows hc
  rw [Collaborator.serve_store_eq hb hpurge, Collaborator.serve_store_eq (h.busy hb) hpurge,
    u.perform_bare hc]
  exact ⟨rfl, h.clock, rfl⟩

theorem Level.serve_archive (h : Level b b') (app : Application) (hb : b.engine = .busy u)
    (hc : onRows c = false) (hpurge : isPurge c = false) :
    Level (app.collaborator.serve (.store c) b).2 b' := by
  rw [Collaborator.serve_store_eq hb hpurge]
  refine ⟨h.clock, ?_⟩
  rw [h.busy hb, ← u.bare_perform hc]
  rfl

end Store

namespace Abreast

variable {app : Application} {α β : Type}

theorem pure (a : α) : Abreast app (pure a) (pure a) where
  busy hb h := ⟨⟨_, hb⟩, rfl, h⟩

theorem bind {op op' : Operation hookCall α} {f f' : α → Operation hookCall β}
    (h : Abreast app op op') (hf : ∀ a, Abreast app (f a) (f' a)) :
    Abreast app (op >>= f) (op' >>= f') where
  busy hb hlevel := (h.busy hb hlevel).bind fun _ hnext hlevel => (hf _).busy hnext hlevel

theorem store (subject : Subject) {c : StoreCall} (hc : onRows c = true) :
    Abreast app (store subject c) (store subject c) where
  busy {b b' u} hb h := by
    obtain ⟨hanswer, hafter⟩ := h.serve_rows app hb hc
    rw [exec_store, exec_store]
    refine ⟨?_, congrArg (Except.mapError (QueueError.storage subject)) hanswer, hafter⟩
    rw [Collaborator.serve_store_eq hb (isPurge_of_onRows hc)]
    exact ⟨_, rfl⟩

theorem record {p : Prop} [Decidable p] (subject : Subject) (rows : List Failure) (a : α) :
    Abreast app (if p then (do
        Operation.store subject (.recordFailures rows)
        return a)
      else Pure.pure a) (Pure.pure a) := by
  split
  · constructor
    intro b b' u hb h
    have hserve := Collaborator.serve_store_eq (g := app.collaborator) hb
      (c := .recordFailures rows) rfl
    have hafter := h.serve_archive app hb (c := .recordFailures rows) rfl rfl
    rw [hserve] at hafter
    have hended : exec app.collaborator.serve (do
        Operation.store subject (.recordFailures rows)
        return a) b = (.ok a, _) := Collaborator.exec_store_bind hserve _
    rw [hended]
    exact ⟨⟨_, rfl⟩, rfl, hafter⟩
  · exact pure a

theorem rejectWrites (archives : Archives) (id : ItemId) (cause : String) :
    Abreast app (rejectWrites archives id cause) (Queue.rejectWrites noArchives id cause) :=
  (store _ (c := .demote id) rfl).bind fun _ => record _ _ _

theorem recoverWrites (archives : Archives) (timeout : Duration) (limit : UInt32) :
    Abreast app (recoverWrites archives timeout limit)
      (Queue.recoverWrites noArchives timeout limit) :=
  (store _ (c := .recover timeout limit) rfl).bind fun _ => record _ _ _

end Abreast

section Commit

variable {app : Application} {b b' : Backend} {u : UnitOfWork} {id : ItemId}

theorem Level.hook (h : Level b b') (happ : app.Unaware) :
    Agree (app.hook b) (app.hook b') := by
  obtain ⟨hresult, hclock⟩ := happ b b' h
  refine ⟨hresult, hclock, ?_⟩
  rw [app.hook_engine, app.hook_engine, h.engine]

theorem complete_removed (hapart : u.tables.Apart)
    (hstatus : u.tables.status? id = some .processing) :
    ((u.removeItem id).complete id).1 = .ok () := by
  obtain ⟨row, hrow, -⟩ := Option.map_eq_some_iff.1 hstatus
  have hout := hapart id (Table.contains_iff.2 ⟨row, hrow⟩)
  exact (complete_answer _ id).trans (if_neg (Bool.eq_false_iff.1 hout))

theorem Level.archive (h : Level b b') (hb : b.engine = .busy u) (archives : Archives)
    (hcomplete : (u.complete id).1 = .ok ()) :
    AgreeOpen (exec app.collaborator.serve
      (if archives.completed then store (.item id) (.complete id) else pure ()) b)
      (.ok (), b') := by
  split
  · have hserve := Collaborator.serve_store_eq (g := app.collaborator) hb (c := .complete id) rfl
    have hafter := h.serve_archive app hb (c := .complete id) rfl rfl
    rw [hserve] at hafter
    rw [exec_store, hserve]
    exact ⟨⟨_, rfl⟩, (congrArg (Except.mapError _) hcomplete).symm, hafter⟩
  · exact ⟨⟨u, hb⟩, rfl, h⟩

theorem Level.commitWrites (h : Level b b') (happ : app.Unaware) (hb : b.engine = .busy u)
    (hapart : u.tables.Apart) (archives : Archives) :
    AgreeOpen ((commitWrites archives id .call).exec app.collaborator.serve b)
      ((Queue.commitWrites noArchives id .call).exec app.collaborator.serve b') := by
  have hhook : AgreeOpen ((runHook (.item id) .call).exec app.collaborator.serve b)
      ((runHook (.item id) .call).exec app.collaborator.serve b') := by
    obtain ⟨hresult, hhooked⟩ := h.hook happ
    rw [Collaborator.exec_runHook, Collaborator.exec_runHook]
    refine ⟨⟨u, (app.hook_engine b).trans hb⟩, ?_, hhooked⟩
    exact congrArg (Except.mapError _) hresult
  refine hhook.bind fun {_ hooked _ _} hended _ hlevel => ?_
  have hb : hooked.engine = .busy u := by
    rw [Collaborator.exec_runHook] at hended
    have hnext : (app.hook b).2 = hooked := congrArg Prod.snd hended
    rw [← hnext, app.hook_engine, hb]
  refine ((Abreast.store (.item id) (c := .delete id .processing) rfl).busy hb hlevel).bind
    fun hdeleted _ hlevel => ?_
  rw [exec_store, Collaborator.serve_store_eq hb rfl] at hdeleted
  by_cases hstatus : u.tables.status? id = some .processing
  · have hdelete : u.delete id .processing = (1, u.removeItem id) := if_pos hstatus
    simp only [UnitOfWork.perform, hdelete, Prod.map] at hdeleted
    cases hdeleted
    exact hlevel.archive rfl archives (complete_removed hapart hstatus)
  · have hdelete : u.delete id .processing = (0, u) := if_neg hstatus
    simp only [UnitOfWork.perform, hdelete, Prod.map] at hdeleted
    cases hdeleted
    exact ⟨⟨u, rfl⟩, rfl, hlevel⟩

end Commit

def cleans : Call → Bool
  | .removeCompleted .. | .removeBroken .. => true
  | _ => false

section Work

variable {app : Application} {b b' : Backend} {u : UnitOfWork} {c : Call}

theorem Level.work (h : Level b b') (happ : app.Unaware) (hb : b.engine = .busy u)
    (hapart : u.tables.Apart) (archives : Archives) (hc : cleans c = false) :
    AgreeOpen (((c.on archives).work .call).exec app.collaborator.serve b)
      (((c.on noArchives).work .call).exec app.collaborator.serve b') := by
  have single {e : StoreCall} (he : onRows e = true) (subject : Subject)
      (f : e.Answer → Call.Report) : Abreast app (store subject e >>= fun a => pure (f a))
        (store subject e >>= fun a => pure (f a)) :=
    (Abreast.store subject he).bind fun a => .pure (f a)
  cases c with
  | append item => exact (single (e := .insert [item]) rfl _ _).busy hb h
  | appends items => exact (single (e := .insert items) rfl _ _).busy hb h
  | readItems limit => exact (single (e := .claim limit) rfl _ _).busy hb h
  | cancelItems ids => exact (single (e := .release ids) rfl _ _).busy hb h
  | commit _ id =>
    exact (h.commitWrites happ hb hapart archives).bind fun _ hnext hlevel =>
      (Abreast.pure _).busy hnext hlevel
  | reject _ id cause =>
    exact ((Abreast.rejectWrites archives id cause).bind fun _ => .pure _).busy hb h
  | recoverTimedOut _ w limit =>
    exact ((Abreast.recoverWrites archives w.timeout limit).bind fun _ => .pure _).busy hb h
  | requeue w limit => exact (single (e := .requeue w.delay limit) rfl _ _).busy hb h
  | removeExhausted limit => exact (single (e := .discard limit) rfl _ _).busy hb h
  | _ => cases hc

end Work

section Run

variable {app : Application} {b b' : Backend} {t : Tables} {c : Call}

theorem Level.begin (h : Level b b') (hb : b.engine = .idle t) :
    Level b.begin.2 b'.begin.2 := by
  have hb' : b'.engine = .idle t.bare := by
    rw [h.engine, hb]
    rfl
  rw [Collaborator.begin_eq hb, Collaborator.begin_eq hb']
  refine ⟨h.clock, ?_⟩
  rw [h.clock]
  rfl

theorem Level.inUnit (h : Level b b') (hb : b.engine = .idle t)
    {body body' : Operation hookCall Call.Report}
    (hbody : AgreeOpen (body.exec app.collaborator.serve b.begin.2)
      (body'.exec app.collaborator.serve b'.begin.2)) :
    Agree ((inUnit body >>= Call.announce).exec app.collaborator.serve b)
      ((inUnit body' >>= Call.announce).exec app.collaborator.serve b') := by
  have hb' : b'.engine = .idle t.bare := by
    rw [h.engine, hb]
    rfl
  simp only [exec_bind, exec_inUnit, Collaborator.serve_begin _ hb, Collaborator.serve_begin _ hb']
  obtain ⟨⟨u, hu⟩, hresult, hlevel⟩ := hbody
  generalize body.exec app.collaborator.serve b.begin.2 = ended at hu hresult hlevel
  generalize body'.exec app.collaborator.serve b'.begin.2 = ended' at hresult hlevel
  obtain ⟨result, next⟩ := ended
  obtain ⟨_, next'⟩ := ended'
  cases hresult
  have hu' : next'.engine = .busy u.bare := hlevel.busy hu
  cases result with
  | error e =>
    simp only [exec_rollback, Collaborator.serve_rollback _ hu, Collaborator.serve_rollback _ hu']
    exact ⟨rfl, hlevel.clock, congrArg Engine.idle u.bare_rolledBack⟩
  | ok report =>
    simp only [Collaborator.serve_commit _ hu, Collaborator.serve_commit _ hu']
    refine ⟨?_, ?_, ?_⟩
    · rw [Call.exec_announce, Call.exec_announce]
    · rw [Collaborator.announce_clock, Collaborator.announce_clock]
      exact hlevel.clock
    · rw [Collaborator.announce_engine, Collaborator.announce_engine]
      rfl

theorem fault?_on (hc : cleans c = false) (archives : Archives) :
    (c.on archives).fault? = c.fault? := by
  cases c with
  | removeCompleted => cases hc
  | removeBroken => cases hc
  | _ => rfl

theorem isIdle_on (hc : cleans c = false) (archives : Archives) :
    (c.on archives).isIdle = c.isIdle := by
  cases c with
  | removeCompleted => cases hc
  | removeBroken => cases hc
  | _ => rfl

theorem Level.spare (h : Level b b') (archives : Archives) :
    Agree ((c.on archives).spare.exec app.collaborator.serve b)
      ((c.on noArchives).spare.exec app.collaborator.serve b') := by
  cases c with
  | _ => exact ⟨rfl, h.clock, h.engine⟩

theorem Level.call (h : Level b b') (happ : app.Unaware) (hb : b.engine = .idle t)
    (hapart : t.Apart) (archives : Archives) (hc : cleans c = false) :
    Agree (app.run (c.on archives) b) (app.run (c.on noArchives) b') := by
  have hwork := (h.begin hb).work happ (Collaborator.begin_engine hb) hapart archives hc
  change Agree (((c.on archives).program .call).exec app.collaborator.serve b)
    (((c.on noArchives).program .call).exec app.collaborator.serve b')
  rw [Call.program_eq, Call.program_eq, fault?_on hc, fault?_on hc, isIdle_on hc, isIdle_on hc]
  cases c.fault? with
  | some e => exact ⟨rfl, h⟩
  | none =>
    cases c.isIdle with
    | true => exact h.spare archives
    | false => exact h.inUnit hb hwork

theorem Level.inUnit_archive (h : Level b b') (hb : b.engine = .idle t) {e : StoreCall}
    (he : onRows e = false) (hpurge : isPurge e = false) (f : e.Answer → Call.Report) :
    Level ((Operation.inUnit (store .table e >>= fun a => pure (f a)) >>= Call.announce).exec
      app.collaborator.serve b).2 b' := by
  have hserve := Collaborator.serve_store_eq (g := app.collaborator) (Collaborator.begin_engine hb)
    hpurge
  have hbare := (UnitOfWork.begin t b.clock.now).bare_perform he
  have hclock : b'.clock = b.begin.2.clock := by
    rw [Collaborator.begin_eq hb]
    exact h.clock
  have hengine : b'.engine = .idle t.bare := by
    rw [h.engine, hb]
    rfl
  simp only [exec_bind, exec_inUnit, Collaborator.serve_begin _ hb, exec_store, hserve]
  generalize (UnitOfWork.begin t b.clock.now).perform e = done at hbare
  obtain ⟨result, v⟩ := done
  generalize hnext : ({ b.begin.2 with engine := .busy v } : Backend) = next
  have hv : next.engine = .busy v := by rw [← hnext]
  replace hclock : b'.clock = next.clock := by rw [← hnext, hclock]
  cases result with
  | error e =>
    have htables : v.rolledBack.bare = t.bare := by
      rw [← v.bare_rolledBack, hbare]
      rfl
    simp only [Except.mapError, exec_rollback, Collaborator.serve_rollback _ hv]
    exact ⟨hclock, hengine.trans (congrArg Engine.idle htables.symm)⟩
  | ok a =>
    have htables : v.tables.bare = t.bare := congrArg UnitOfWork.tables hbare
    simp only [Except.mapError, exec_pure, Collaborator.serve_commit _ hv]
    constructor
    · rw [Collaborator.announce_clock]
      exact hclock
    · rw [Collaborator.announce_engine]
      exact hengine.trans (congrArg Engine.idle htables.symm)

theorem work_of_cleans (hc : cleans c = true) (hpurges : purges c = false) :
    ∃ (e : StoreCall) (f : e.Answer → Call.Report), onRows e = false ∧ isPurge e = false ∧
      c.work .call = store .table e >>= fun a => pure (f a) := by
  have unpurged {r : Retention} (hr : r.purges = false) (ids : List ItemId) :
      purge r ids = (pure () : Operation hookCall Unit) := by
    simp [purge, hr]
  cases c with
  | removeCompleted archives r limit =>
    refine ⟨.expireCompleted r.completedExpiry limit, .count .removeCompleted, rfl, rfl, ?_⟩
    simp only [Call.work, unpurged hpurges, pure_bind]
    rfl
  | removeBroken archives r limit =>
    refine ⟨.expireBroken r.brokenExpiry limit, .count .removeBroken, rfl, rfl, ?_⟩
    simp only [Call.work, unpurged hpurges, pure_bind]
    rfl
  | _ => cases hc

theorem Level.call_cleans (h : Level b b') (hb : b.engine = .idle t) (hc : cleans c = true)
    (hpurges : purges c = false) : Level (app.run c b).2 b' := by
  obtain ⟨e, f, he, hpurge, hwork⟩ := work_of_cleans hc hpurges
  have hspare : Level (c.spare.exec app.collaborator.serve b).2 b' := by
    cases c with
    | _ => exact ⟨h.clock, h.engine⟩
  change Level ((c.program .call).exec app.collaborator.serve b).2 b'
  rw [Call.program_eq, hwork]
  cases c.fault? with
  | some e => exact h
  | none =>
    cases c.isIdle with
    | true => exact hspare
    | false => exact h.inUnit_archive hb he hpurge f

theorem call_cleans_noArchives (app : Application) (hc : cleans c = true) (b : Backend) :
    (app.run (c.on noArchives) b).2 = b := by
  cases c with
  | removeCompleted => rfl
  | removeBroken => rfl
  | _ => cases hc

end Run

def Action.on (archives : Archives) : Action → Action
  | .call app c => .call app (c.on archives)
  | .clock k => .clock k

/-- The application does not notice the archives, and has no rows of its own to purge. -/
def Action.Unaware : Action → Prop
  | .call app c => app.Unaware ∧ purges c = false
  | .clock _ => True

section Run

variable {b b' : Backend} {archives : Archives} {actions : List Action}

theorem cleans_on (archives : Archives) (c : Call) : cleans (c.on archives) = cleans c := by
  cases c with
  | _ => rfl

theorem purges_on (archives : Archives) (c : Call) : purges (c.on archives) = purges c := by
  cases c with
  | _ => rfl

theorem Level.after (h : Level b b') (hfree : b.Free) (hapart : b.tables.Apart) {a : Action}
    (ha : a.Unaware) : Level (b.after (a.on archives)) (b'.after (a.on noArchives)) := by
  cases a with
  | clock k => exact ⟨rfl, h.engine⟩
  | call app c =>
    obtain ⟨happ, hpurges⟩ := ha
    cases hc : cleans c with
    | false => exact (h.call happ hfree hapart archives hc).2
    | true =>
      have hkept : Level (app.run (c.on archives) b).2 b' :=
        h.call_cleans hfree (cleans_on archives c ▸ hc) (purges_on archives c ▸ hpurges)
      have hbare := call_cleans_noArchives app hc b'
      rw [← hbare] at hkept
      exact hkept

theorem Level.run (h : Level b b') (hfree : b.Free) (hapart : b.tables.Apart)
    (hunaware : ∀ a ∈ actions, a.Unaware) (hkeeps : KeepsOut b (actions.map (.on archives))) :
    Level (b.run (actions.map (.on archives))) (b'.run (actions.map (.on noArchives))) := by
  induction actions generalizing b b' with
  | nil => exact h
  | cons a actions ih =>
    obtain ⟨ha, hrest⟩ := List.forall_mem_cons.1 hunaware
    exact ih (h.after hfree hapart ha) (hfree.after _) (hfree.apart_after hapart hkeeps) hrest
      hkeeps.tail

theorem KeepsOut.of_prefix {done : List Action} (h : KeepsOut b actions)
    (hdone : done <+: actions) : KeepsOut b done := by
  obtain ⟨rest, rfl⟩ := hdone
  intro x app c y hsplit
  apply h x app c (y ++ rest)
  rw [hsplit]
  simp

end Run

/-- Whether a storage keeps archives makes no difference to the rows of the queue, and none to what
is answered, as long as no append takes an item that is in the archive of completed items. -/
theorem archives_independence (t : Instant) (archives : Archives) (actions : List Action)
    (hunaware : ∀ a ∈ actions, a.Unaware)
    (hkeeps : KeepsOut (.start t) (actions.map (.on archives))) :
    let kept (done : List Action) := (Backend.start t).run (done.map (.on archives))
    let bare (done : List Action) := (Backend.start t).run (done.map (.on noArchives))
    (∀ done, done <+: actions → (bare done).tables.items = (kept done).tables.items) ∧
    ∀ done app c, done ++ [.call app c] <+: actions → cleans c = false →
      (app.run (c.on noArchives) (bare done)).1 = (app.run (c.on archives) (kept done)).1 := by
  intro kept bare
  have hstart : (Backend.start t).tables.Apart := fun _ _ => rfl
  have hlevel {done : List Action} (hdone : done <+: actions) : Level (kept done) (bare done) :=
    Level.run ⟨rfl, rfl⟩ (.start t) hstart
      (fun a ha => hunaware a (hdone.subset ha)) (hkeeps.of_prefix (hdone.map _))
  constructor
  · intro done hdone
    have hengine := (hlevel hdone).engine
    rw [(Backend.Free.start t).run (done.map (.on archives))] at hengine
    exact congrArg (·.tables.items) hengine
  · intro done app c hdone hc
    have hbefore : done <+: actions := (List.prefix_append _ _).trans hdone
    have hfree : (kept done).Free := (Backend.Free.start t).run _
    have happ := hunaware _ (hdone.subset (List.mem_append_right _ (List.mem_singleton_self _)))
    have hapart : (kept done).tables.Apart :=
      hkeeps.apart (.start t) hstart _ (hbefore.map _)
    exact ((hlevel hbefore).call happ.1 hfree hapart archives hc).1

/-- One item is rejected, timed out and read again; another one is committed, removed from the
archive, and appended anew. -/
theorem archives_independence_cycle :
    let minutes (n : Int) : Action := .clock (.start (.clamp (n * 60000000000)))
    let calls (l : List Call) : List Action := l.map (.call .plain)
    let actions := calls [.append ⟨⟨1⟩, .zero, 3⟩, .readItems 10, .reject noArchives ⟨1⟩ "refused",
        .append ⟨⟨2⟩, .zero, 3⟩, .readItems 10, .commit noArchives ⟨2⟩] ++ minutes 3 ::
      calls [.requeue .default 10, .readItems 10] ++ minutes 9 ::
      calls [.recoverTimedOut noArchives .default 10] ++ minutes 1500 ::
      calls [.removeCompleted noArchives .default 10, .append ⟨⟨2⟩, .zero, 3⟩]
    let kept (done : List Action) := (Backend.start (.clamp 0)).run (done.map (.on ⟨true, true⟩))
    let bare (done : List Action) := (Backend.start (.clamp 0)).run (done.map (.on noArchives))
    (bare (actions.take 6)).tables.items = (kept (actions.take 6)).tables.items ∧
    (kept (actions.take 6)).tables.completed.keys = [⟨2⟩] ∧
    (kept (actions.take 6)).tables.broken.keys = [⟨1⟩] ∧
    (bare (actions.take 6)).tables.completed.keys = [] ∧
    (bare actions).tables.items = (kept actions).tables.items ∧
    (bare actions).tables.items.keys = [⟨1⟩, ⟨2⟩] ∧
    (Application.plain.run (.commit noArchives ⟨2⟩) (bare (actions.take 5))).1 =
      (Application.plain.run (.commit ⟨true, true⟩ ⟨2⟩) (kept (actions.take 5))).1 := by
  intro minutes calls actions kept bare
  have hcalls {l : List Call} (h : ∀ c ∈ l, purges c = false) : ∀ a ∈ calls l, a.Unaware :=
    List.forall_mem_map.2 fun c hc => ⟨Application.plain_unaware, h c hc⟩
  have hunaware : ∀ a ∈ actions, a.Unaware := by
    simp only [actions, List.forall_mem_append, List.forall_mem_cons]
    exact ⟨⟨⟨hcalls (by decide), trivial, hcalls (by decide)⟩, trivial, hcalls (by decide)⟩,
      trivial, hcalls (by decide)⟩
  obtain ⟨hitems, hanswers⟩ := archives_independence (.clamp 0) ⟨true, true⟩ actions hunaware
    (by decide +kernel)
  exact ⟨hitems _ (List.take_prefix _ _), by decide +kernel, by decide +kernel, by decide +kernel,
    hitems _ List.prefix_rfl, by decide +kernel,
    hanswers _ .plain (.commit noArchives ⟨2⟩) (List.take_prefix 6 actions) rfl⟩

end WorkQueue.Memory
