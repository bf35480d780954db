import WorkQueue.Memory.Backend
import WorkQueue.Proofs.Batch
import WorkQueue.Proofs.Hook

/-!
Units of work that an application takes part in. Its steps run inside commits and removals, on the
unit that the call has open, and may write to the tables as well; whatever they write is taken back
with the rest of the unit.
-/

namespace WorkQueue.Memory

open Queue Operation

/-- What an application runs inside commits and removals. `S` relates a unit to what such a step may
make of it. -/
structure Collaborator (S : UnitOfWork → UnitOfWork → Prop) where
  hook : Backend → Except Cause Unit × Backend
  purge : List ItemId → Backend → Except StoreError UInt64 × Backend
  hook_unit : ∀ {b u}, b.engine = .busy u → ∃ v, (hook b).2.engine = .busy v ∧
    (∀ t, u.Undoes t → v.Undoes t) ∧ S u v
  purge_unit : ∀ ids {b u}, b.engine = .busy u → ∃ v, (purge ids b).2.engine = .busy v ∧
    (∀ t, u.Undoes t → v.Undoes t) ∧ S u v

/-- Steps that leave alone what `view` shows of the tables. -/
structure Leaves {γ : Type} (view : Tables → γ) (u v : UnitOfWork) : Prop where
  now : v.now = u.now
  same : view v.tables = view u.tables

abbrev LeavesRows := Leaves Tables.items

abbrev LeavesRow (id : ItemId) := Leaves fun t => t.items.get? id

def Spares (S : UnitOfWork → UnitOfWork → Prop) (id : ItemId) : Prop :=
  ∀ u v, S u v → LeavesRow id u v

theorem spares_rows (id : ItemId) : Spares LeavesRows id :=
  fun _ _ h => ⟨h.now, congrArg (·.get? id) h.same⟩

theorem spares_row (id : ItemId) : Spares (LeavesRow id) id := fun _ _ h => h

def isPurge : StoreCall → Bool
  | .purge _ => true
  | _ => false

/-- The tables that `view` shows answer what a queue asks for, and what an application asks for
itself does nothing to them. -/
structure InMemory {X : Effects} {σ : Type} (answer : Answers X σ) (view : σ → Backend) : Prop where
  begin : ∀ s, Prod.map id view (answer .begin s) = (view s).begin
  store : ∀ c s, Prod.map id view (answer (.store c) s) = (view s).perform c
  commit : ∀ s, Prod.map id view (answer .commit s) = (view s).commit
  rollback : ∀ s, Prod.map id view (answer .rollback s) = (view s).rollback
  emit : ∀ e s, view (answer (.emit e) s).2 = (view s).emit e
  note : ∀ n s, view (answer (.note n) s).2 = (view s).write (.notice n)
  app : ∀ r s, (view (answer (.app r) s).2).engine = (view s).engine

theorem InMemory.of_answer {X : Effects} {app : (r : X.Request) → Backend → X.Answer r × Backend}
    (happ : ∀ r b, (app r b).2.engine = b.engine) :
    InMemory (Backend.answer app) (fun b => b) where
  begin _ := rfl
  store _ _ := rfl
  commit _ := rfl
  rollback _ := rfl
  emit _ _ := rfl
  note _ _ := rfl
  app := happ

namespace Collaborator

variable {S : UnitOfWork → UnitOfWork → Prop}

def serve (g : Collaborator S) : Answers hookCall Backend
  | .store (.purge ids), b => g.purge ids b
  | r, b => b.answer (fun _ => g.hook) r

def run (g : Collaborator S) (c : Call) (b : Backend) : Except QueueError Reply × Backend :=
  (c.program .call).exec g.serve b

def plain {γ : Type} (view : Tables → γ) : Collaborator (Leaves view) where
  hook b := (.ok (), b)
  purge _ b := (.ok 0, b)
  hook_unit hb := ⟨_, hb, fun _ => id, rfl, rfl⟩
  purge_unit _ _ _ hb := ⟨_, hb, fun _ => id, rfl, rfl⟩

section Steps

variable {X : Effects}

theorem perform_busy {b : Backend} {u : UnitOfWork} (hb : b.engine = .busy u) (c : StoreCall) :
    (b.perform c).1 = (u.perform c).1 ∧ (b.perform c).2.engine = .busy (u.perform c).2 := by
  cases c <;> simp [Backend.perform, Backend.write, hb, Engine.perform]

theorem run_hook_unit {σ : Type} {answer : Answers X σ} {view : σ → Backend}
    (h : InMemory answer view) (hook : Hook X) {s : σ} {u : UnitOfWork}
    (hu : (view s).engine = .busy u) :
    ∃ v, (view (hook.run answer s).2).engine = .busy v ∧
      (∀ t, u.Undoes t → v.Undoes t) ∧ v.now = u.now := by
  induction hook generalizing s u with
  | done result => exact ⟨u, hu, fun _ => id, rfl⟩
  | ask r next ih =>
    cases r with
    | store c =>
      have hstate : view (answer (.store c) s).2 = ((view s).perform c).2 :=
        congrArg Prod.snd (h.store c s)
      obtain ⟨v, hv, hundo, hnow⟩ := ih _ (hstate ▸ (perform_busy hu c).2)
      exact ⟨v, hv, fun t ht => hundo t (ht.perform c), hnow.trans (u.perform_now c)⟩
    | app r => exact ih _ ((h.app r s).trans hu)

variable {answer : (r : X.Request) → Backend → X.Answer r × Backend} {γ : Type}
  {view : Tables → γ} {hook : Hook X}

def of (hanswer : ∀ r b, (answer r b).2.engine = b.engine)
    (h : ∀ {b u v}, b.engine = .busy u →
      (hook.run (Backend.answer answer) b).2.engine = .busy v → view v.tables = view u.tables) :
    Collaborator (Leaves view) where
  hook := hook.run (Backend.answer answer)
  purge ids b := b.perform (.purge ids)
  hook_unit hb := by
    obtain ⟨v, hv, hundo, hnow⟩ := run_hook_unit (.of_answer hanswer) hook hb
    exact ⟨v, hv, hundo, hnow, h hb hv⟩
  purge_unit _ _ _ hb := ⟨_, (perform_busy hb _).2, fun _ => id, rfl, rfl⟩

theorem exec_program (hanswer : ∀ r b, (answer r b).2.engine = b.engine)
    (h : ∀ {b u v}, b.engine = .busy u →
      (hook.run (Backend.answer answer) b).2.engine = .busy v → view v.tables = view u.tables)
    (c : Call) (b : Backend) :
    (c.program hook).exec (Backend.answer answer) b = (of hanswer h).run c b := by
  have same : Answers.withHook (Backend.answer answer) hook = (of hanswer h).serve := by
    funext r b
    cases r with
    | store c => cases c <;> rfl
    | _ => rfl
  rw [run, ← same]
  exact (c.mirrors _ _ b).1

end Steps

section Serve

variable (g : Collaborator S) {b : Backend} {u : UnitOfWork}

theorem serve_store (hb : b.engine = .busy u) {c : StoreCall} (hc : isPurge c = false) :
    ∃ b', g.serve (.store c) b = ((u.perform c).1, b') ∧ b'.engine = .busy (u.perform c).2 := by
  have served : g.serve (.store c) b = b.perform c := by
    cases c with
    | purge ids => cases hc
    | _ => rfl
  obtain ⟨hanswer, hengine⟩ := perform_busy hb c
  exact ⟨(b.perform c).2, served.trans (Prod.ext hanswer rfl), hengine⟩

theorem exec_runHook (subject : Subject) (b : Backend) :
    (runHook subject .call).exec g.serve b =
      ((g.hook b).1.mapError (.preCommit subject), (g.hook b).2) := exec_attempt _ _ _ _

theorem exec_store_bind {g : Collaborator S} {α : Type} {subject : Subject} {c : StoreCall}
    {a : c.Answer} {b' : Backend} (h : g.serve (.store c) b = (.ok a, b'))
    (f : c.Answer → Operation hookCall α) :
    (store subject c >>= f).exec g.serve b = (f a).exec g.serve b' := by
  rw [exec_bind, exec_store, h]
  rfl

theorem exec_bind_pure {α β : Type} (op : Operation hookCall α) (a : β) (b : Backend) :
    ((op >>= fun _ => pure a).exec g.serve b).1 = (op.exec g.serve b).1.map fun _ => a :=
  congrArg Prod.fst (exec_then g.serve op a b)

end Serve

end Collaborator

/-- The unit as it is, or after a step of an application where there is one. -/
inductive Beside (S : UnitOfWork → UnitOfWork → Prop) (step : Bool) (u : UnitOfWork) :
    UnitOfWork → Prop
  | alone : Beside S step u u
  | step {v} (h : step = true) (hS : S u v) : Beside S step u v

theorem Beside.leaves {γ : Type} {view : Tables → γ} {S : UnitOfWork → UnitOfWork → Prop}
    {step : Bool} {u v : UnitOfWork} (h : Beside S step u v)
    (hS : ∀ u v, S u v → Leaves view u v) : Leaves view u v := by
  cases h with
  | alone => exact ⟨rfl, rfl⟩
  | step _ h => exact hS _ _ h

/-- What an operation makes of the unit that is open: whatever it is, it can be taken back, and
where the operation succeeds, `R` tells what it is. -/
structure Does {S : UnitOfWork → UnitOfWork → Prop} (g : Collaborator S) {α : Type}
    (op : Operation hookCall α) (R : UnitOfWork → α → UnitOfWork → Prop) : Prop where
  busy : ∀ {b u}, b.engine = .busy u → ∃ v, (op.exec g.serve b).2.engine = .busy v ∧
    (∀ t, u.Undoes t → v.Undoes t) ∧ ∀ a, (op.exec g.serve b).1 = .ok a → R u a v

theorem demote_ne_zero_iff (u : UnitOfWork) (id : ItemId) :
    (u.demote id).1 ≠ 0 ↔ u.tables.status? id = some .processing := by
  simp only [UnitOfWork.demote, Tables.status?]
  cases u.tables.items.get? id with
  | none => simp
  | some row => by_cases h : row.status = .processing <;> simp [h]

namespace Does

variable {S : UnitOfWork → UnitOfWork → Prop} {g : Collaborator S} {α β : Type}

theorem mono {op : Operation hookCall α} {R R' : UnitOfWork → α → UnitOfWork → Prop}
    (h : Does g op R) (hR : ∀ {u a v}, R u a v → R' u a v) : Does g op R' where
  busy hb := by
    obtain ⟨v, hv, hundo, h⟩ := h.busy hb
    exact ⟨v, hv, hundo, fun a ha => hR (h a ha)⟩

theorem pure (a : α) : Does g (pure a) fun u x v => x = a ∧ v = u where
  busy hb := ⟨_, hb, fun _ => id, fun _ hx => ⟨(Except.ok.inj hx).symm, rfl⟩⟩

theorem throw (e : QueueError) (R : UnitOfWork → α → UnitOfWork → Prop) :
    Does g (throw e) R where
  busy hb := ⟨_, hb, fun _ => id, nofun⟩

theorem note (n : Notice) : Does g (note n) fun u _ v => v = u where
  busy hb := ⟨_, hb, fun _ => id, fun _ _ => rfl⟩

theorem bind {op : Operation hookCall α} {f : α → Operation hookCall β}
    {R : UnitOfWork → α → UnitOfWork → Prop} {R' : α → UnitOfWork → β → UnitOfWork → Prop}
    (h : Does g op R) (hf : ∀ a, Does g (f a) (R' a)) :
    Does g (op >>= f) fun u b w => ∃ a v, R u a v ∧ R' a v b w where
  busy {b u} hb := by
    obtain ⟨v, hv, hundo, hR⟩ := h.busy hb
    rw [exec_bind]
    generalize op.exec g.serve b = ended at hv hR
    obtain ⟨_ | a, b'⟩ := ended
    · exact ⟨v, hv, hundo, nofun⟩
    · obtain ⟨w, hw, hundo', hR'⟩ := (hf a).busy hv
      exact ⟨w, hw, fun t ht => hundo' t (hundo t ht), fun x hx => ⟨a, v, hR a rfl, hR' x hx⟩⟩

theorem ite {p : Prop} [Decidable p] {op op' : Operation hookCall α}
    {R R' : UnitOfWork → α → UnitOfWork → Prop} (h : Does g op R) (h' : Does g op' R') :
    Does g (if p then op else op') fun u a v => if p then R u a v else R' u a v := by
  split
  · exact h
  · exact h'

theorem purge (subject : Subject) (ids : List ItemId) :
    Does g (store subject (.purge ids)) fun u _ v => S u v where
  busy {b u} hb := by
    obtain ⟨v, hv, hundo, hS⟩ := g.purge_unit ids hb
    exact ⟨v, hv, hundo, fun _ _ => hS⟩

theorem runHook (subject : Subject) : Does g (runHook subject .call) fun u _ v => S u v where
  busy {b u} hb := by
    obtain ⟨v, hv, hundo, hS⟩ := g.hook_unit hb
    rw [g.exec_runHook]
    exact ⟨v, hv, hundo, fun _ _ => hS⟩

theorem store (subject : Subject) (c : StoreCall) (hc : isPurge c = false) :
    Does g (store subject c) fun u a v => u.perform c = (.ok a, v) where
  busy {b u} hb := by
    obtain ⟨b', hserve, hb'⟩ := g.serve_store hb hc
    rw [exec_store, hserve]
    refine ⟨(u.perform c).2, hb', fun t ht => ht.perform c, fun a ha => ?_⟩
    generalize u.perform c = done at ha
    obtain ⟨_ | x, v⟩ := done
    · cases ha
    · cases ha
      rfl

theorem retention (r : Retention) (ids : List ItemId) :
    Does g (Queue.purge r ids) fun u _ v => Beside S r.purges u v := by
  refine (ite ((purge _ ids).bind fun _ => note _) (pure ())).mono ?_
  intro u _ v h
  split at h
  · next hpurges =>
    obtain ⟨_, w, hS, rfl⟩ := h
    exact .step (Bool.and_eq_true_iff.1 hpurges).1 hS
  · rw [h.2]
    exact .alone

theorem archive (archives : Archives) (id : ItemId) :
    Does g
      (if archives.completed then Operation.store (.item id) (.complete id) else Pure.pure ())
      fun u _ v => if archives.completed then u.complete id = (.ok (), v) else v = u := by
  split
  · exact store _ (.complete id) rfl
  · exact (pure ()).mono fun h => h.2

theorem commitWrites (archives : Archives) (id : ItemId) :
    Does g (commitWrites archives id .call) fun u _ w => ∃ v, S u v ∧
      v.tables.status? id = some .processing ∧
        if archives.completed then (v.removeItem id).complete id = (.ok (), w)
        else w = v.removeItem id := by
  refine ((runHook _).bind fun _ => (store _ (.delete id .processing) rfl).bind fun deleted =>
    ite ((throw _ fun _ (_ : Unit) _ => False).bind fun _ => archive archives id)
      (archive archives id)).mono ?_
  rintro u _ w ⟨_, v, hS, deleted, v', hdelete, h⟩
  simp only [UnitOfWork.perform, UnitOfWork.delete] at hdelete
  split at hdelete
  · next hstatus =>
    cases hdelete
    exact ⟨v, hS, hstatus, h⟩
  · cases hdelete
    obtain ⟨_, _, hfalse, _⟩ := h
    exact hfalse.elim

theorem record {p : Prop} [Decidable p] (subject : Subject) (rows : List Failure) (a : α) :
    Does g (if p then (do
        Operation.store subject (.recordFailures rows)
        return a)
      else Pure.pure a) fun u x v => x = a ∧ v = if p then u.recordFailures rows else u := by
  split
  · refine ((store subject (.recordFailures rows) rfl).bind fun _ => pure a).mono ?_
    rintro u _ v ⟨_, _, h, rfl, rfl⟩
    cases h
    exact ⟨rfl, rfl⟩
  · exact pure a

theorem rejectWrites (archives : Archives) (id : ItemId) (cause : String) :
    Does g (rejectWrites archives id cause) fun u demoted v =>
      (demoted = true ↔ u.tables.status? id = some .processing) ∧
        v = if archives.broken then (u.demote id).2.recordFailures [⟨id, cause⟩]
          else (u.demote id).2 := by
  refine ((store _ (.demote id) rfl).bind fun _ => record _ _ _).mono ?_
  intro u demoted v h
  obtain ⟨count, w, h, rfl, rfl⟩ := h
  cases h
  refine ⟨?_, rfl⟩
  exact bne_iff_ne.trans (demote_ne_zero_iff u id)

end Does

inductive Works (u : UnitOfWork) : Call → Reply → UnitOfWork → Prop
  | append {item v} (h : u.insert [item] = (.ok (), v)) : Works u (.append item) .done v
  | appends {items v} (h : u.insert items = (.ok (), v)) : Works u (.appends items) .done v
  | readItems {limit} : Works u (.readItems limit) (.ids (u.claim limit).1) (u.claim limit).2
  | cancelItems {ids} : Works u (.cancelItems ids) .done (u.release ids).2
  | commit {archives id v} (hstatus : u.tables.status? id = some .processing)
    (hv : if archives.completed then (u.removeItem id).complete id = (.ok (), v)
      else v = u.removeItem id) : Works u (.commit archives id) .done v
  | reject {archives id cause v}
    (hv : v = if archives.broken then (u.demote id).2.recordFailures [⟨id, cause⟩]
      else (u.demote id).2) : Works u (.reject archives id cause) .done v
  | recoverTimedOut {archives w limit ids v v'} (h : u.recover w.timeout limit = (.ok ids, v))
    (hv : v' = if archives.broken && !ids.isEmpty then
        v.recordFailures (ids.map fun id => ⟨id, timeoutCause⟩) else v) :
    Works u (.recoverTimedOut archives w limit) (.ids ids) v'
  | requeue {w limit ids v} (h : u.requeue w.delay limit = (.ok ids, v)) :
    Works u (.requeue w limit) (.ids ids) v
  | removeExhausted {limit} :
    Works u (.removeExhausted limit) (.ids (u.discard limit).1) (u.discard limit).2
  | removeCompleted {archives r limit ids v}
    (h : u.expireCompleted r.completedExpiry limit = (.ok ids, v)) :
    Works u (.removeCompleted archives r limit) (.ids ids) v
  | removeBroken {archives r limit ids v}
    (h : u.expireBroken r.brokenExpiry limit = (.ok ids, v)) :
    Works u (.removeBroken archives r limit) (.ids ids) v

def hooks : Call → Bool
  | .commit .. => true
  | _ => false

def purges : Call → Bool
  | .removeCompleted _ r _ | .removeBroken _ r _ => r.purges
  | _ => false

def eventOf (u : UnitOfWork) (r : Reply) : Call → Event
  | .append item => .of .append (.id item.id)
  | .appends items => .of .appends (.ids (items.map (·.id)))
  | .readItems _ => .of .readItems (.count (UInt64.ofNat r.items.length))
  | .cancelItems ids => .of .cancelItems (.count (UInt64.ofNat ids.length))
  | .commit _ id => .of .commit (.id id)
  | .reject _ id _ =>
    if u.tables.status? id = some .processing then .of .reject (.id id)
    else .of .rejectSkipped (.id id)
  | .recoverTimedOut .. => .of .recoverTimedOut (.count (UInt64.ofNat r.items.length))
  | .requeue .. => .of .requeue (.count (UInt64.ofNat r.items.length))
  | .removeExhausted _ => .of .removeExhausted (.count (UInt64.ofNat r.items.length))
  | .removeCompleted .. => .of .removeCompleted (.count (UInt64.ofNat r.items.length))
  | .removeBroken .. => .of .removeBroken (.count (UInt64.ofNat r.items.length))

theorem Does.work {S : UnitOfWork → UnitOfWork → Prop} (g : Collaborator S) (c : Call) :
    Does g (c.work .call) fun u report w => ∃ u' v, Beside S (hooks c) u u' ∧
      Works u' c report.reply v ∧ Beside S (purges c) v w ∧
      Event.of report.activity report.data = eventOf u' report.reply c := by
  cases c with
  | append item =>
    refine ((store _ (.insert [item]) rfl).bind fun _ => pure _).mono ?_
    rintro u _ v ⟨_, _, h, rfl, rfl⟩
    exact ⟨u, v, .alone, .append h, .alone, rfl⟩
  | appends items =>
    refine ((store _ (.insert items) rfl).bind fun _ => pure _).mono ?_
    rintro u _ v ⟨_, _, h, rfl, rfl⟩
    exact ⟨u, v, .alone, .appends h, .alone, rfl⟩
  | readItems limit =>
    refine ((store _ (.claim limit) rfl).bind fun _ => pure _).mono ?_
    rintro u _ v ⟨_, _, h, rfl, rfl⟩
    cases h
    exact ⟨u, _, .alone, .readItems, .alone, rfl⟩
  | cancelItems ids =>
    refine ((store _ (.release ids) rfl).bind fun _ => pure _).mono ?_
    rintro u _ v ⟨_, _, h, rfl, rfl⟩
    cases h
    exact ⟨u, _, .alone, .cancelItems, .alone, rfl⟩
  | commit archives id =>
    refine ((commitWrites archives id).bind fun _ => pure _).mono ?_
    rintro u _ w ⟨_, _, ⟨v, hS, hstatus, hw⟩, rfl, rfl⟩
    exact ⟨v, w, .step rfl hS, .commit hstatus hw, .alone, rfl⟩
  | reject archives id cause =>
    refine ((rejectWrites archives id cause).bind fun _ => pure _).mono ?_
    rintro u _ v ⟨demoted, _, ⟨hdemoted, hv⟩, rfl, rfl⟩
    refine ⟨u, v, .alone, ?_, .alone, ?_⟩
    · cases demoted <;> exact .reject hv
    · cases demoted <;> simp [eventOf, ← hdemoted]
  | recoverTimedOut archives w limit =>
    refine (((store _ (.recover w.timeout limit) rfl).bind fun _ => record _ _ _).bind
      fun _ => pure _).mono ?_
    rintro u _ v ⟨_, _, ⟨_, _, h, rfl, rfl⟩, rfl, rfl⟩
    exact ⟨u, _, .alone, .recoverTimedOut h rfl, .alone, rfl⟩
  | requeue w limit =>
    refine ((store _ (.requeue w.delay limit) rfl).bind fun _ => pure _).mono ?_
    rintro u _ v ⟨_, _, h, rfl, rfl⟩
    exact ⟨u, v, .alone, .requeue h, .alone, rfl⟩
  | removeExhausted limit =>
    refine ((store _ (.discard limit) rfl).bind fun _ => pure _).mono ?_
    rintro u _ v ⟨_, _, h, rfl, rfl⟩
    cases h
    exact ⟨u, _, .alone, .removeExhausted, .alone, rfl⟩
  | removeCompleted archives r limit =>
    refine ((store _ (.expireCompleted r.completedExpiry limit) rfl).bind fun ids =>
      (retention r ids).bind fun _ => pure _).mono ?_
    rintro u _ w ⟨_, v, h, _, _, hpurged, rfl, rfl⟩
    exact ⟨u, v, .alone, .removeCompleted h, hpurged, rfl⟩
  | removeBroken archives r limit =>
    refine ((store _ (.expireBroken r.brokenExpiry limit) rfl).bind fun ids =>
      (retention r ids).bind fun _ => pure _).mono ?_
    rintro u _ w ⟨_, v, h, _, _, hpurged, rfl, rfl⟩
    exact ⟨u, v, .alone, .removeBroken h, hpurged, rfl⟩

end WorkQueue.Memory
