import WorkQueue.Proofs.Outcome

/-!
Runs of calls on the in-memory tables. A unit of work holds the tables from its begin to its end, so
the calls of any number of clients take effect one after the other. A call that fails leaves the
tables alone; one that succeeds leaves them as the writes of its unit make them.
-/

namespace WorkQueue.Memory

open Queue Operation

theorem exists_enters {σ α : Type} {f : σ → α → σ} {p : σ → Prop} {s : σ} {l : List α} (h : ¬p s)
    (hend : p (l.foldl f s)) : ∃ x a y, l = x ++ a :: y ∧ ¬p (x.foldl f s) ∧
      ∀ done, done <+: y → p (done.foldl f (f (x.foldl f s) a)) := by
  induction l using List.reverseRecOn with
  | nil => exact absurd hend h
  | append_singleton l a ih =>
    rw [List.foldl_concat] at hend
    by_cases hl : p (l.foldl f s)
    · obtain ⟨x, a', y, rfl, hx, hy⟩ := ih hl
      refine ⟨x, a', y ++ [a], by simp, hx, fun done hdone => ?_⟩
      rcases List.prefix_concat_iff.1 hdone with rfl | hdone
      · simpa using hend
      · exact hy done hdone
    · refine ⟨l, a, [], rfl, hl, fun done hdone => ?_⟩
      rw [List.prefix_nil.1 hdone]
      exact hend

theorem exists_leaves {σ α : Type} {f : σ → α → σ} {p : σ → Prop} {s : σ} (l : List α) (h : p s) :
    (∀ done, done <+: l → p (done.foldl f s)) ∨ ∃ x a y, l = x ++ a :: y ∧
      (∀ done, done <+: x → p (done.foldl f s)) ∧ ¬p (f (x.foldl f s) a) := by
  induction l using List.reverseRecOn with
  | nil =>
    left
    intro done hdone
    rw [List.prefix_nil.1 hdone]
    exact h
  | append_singleton l a ih =>
    rcases ih with hl | ⟨x, a', y, rfl, hx, hlost⟩
    · by_cases hend : p (f (l.foldl f s) a)
      · left
        intro done hdone
        rcases List.prefix_concat_iff.1 hdone with rfl | hdone
        · rw [List.foldl_concat]
          exact hend
        · exact hl done hdone
      · exact .inr ⟨l, a, [], rfl, hl, hend⟩
    · exact .inr ⟨x, a', y ++ [a], by simp, hx, hlost⟩

/-- What an application runs inside commits and removals. It may do anything but touch the tables of
the queue. -/
structure Application where
  hook : Backend → Except Cause Unit × Backend
  purge : List ItemId → Backend → Except StoreError UInt64 × Backend
  hook_engine : ∀ b, (hook b).2.engine = b.engine
  purge_engine : ∀ ids b, (purge ids b).2.engine = b.engine

def Application.plain : Application where
  hook b := (.ok (), b)
  purge _ b := (.ok 0, b)
  hook_engine _ := rfl
  purge_engine _ _ := rfl

namespace Application

def serve (app : Application) : Answers hookCall Backend
  | .store (.purge ids), b => app.purge ids b
  | r, b => b.answer (fun _ => app.hook) r

def run (app : Application) (c : Call) (b : Backend) : Except QueueError Reply × Backend :=
  (c.program .call).exec app.serve b

section Step

variable {X : Effects} (answer : (r : X.Request) → Backend → X.Answer r × Backend) (hook : Hook X)

theorem purge_keeps_engine (ids : List ItemId) (b : Backend) :
    (b.perform (.purge ids)).2.engine = b.engine := by
  cases h : b.engine <;>
    simp [Backend.perform, Backend.write, Engine.perform, h, UnitOfWork.perform]

def of (h : ∀ b, (hook.run (Backend.answer answer) b).2.engine = b.engine) : Application where
  hook := hook.run (Backend.answer answer)
  purge ids b := b.perform (.purge ids)
  hook_engine := h
  purge_engine := purge_keeps_engine

theorem exec_program (h : ∀ b, (hook.run (Backend.answer answer) b).2.engine = b.engine) (c : Call)
    (b : Backend) :
    (c.program hook).exec (Backend.answer answer) b = (of answer hook h).run c b := by
  have same : Answers.withHook (Backend.answer answer) hook = (of answer hook h).serve := by
    funext r b
    cases r with
    | store c => cases c <;> rfl
    | _ => rfl
  rw [run, ← same]
  exact (c.mirrors _ _ b).1

end Step

end Application

inductive Took (now : Instant) (t : Tables) (c : Call) : Except QueueError Reply → Tables → Prop
  | failed {e} : Took now t c (.error e) t
  | spared {r} (h : c.isIdle = true) : Took now t c (.ok r) t
  | worked {r u} (h : Works (.begin t now) c r u) : Took now t c (.ok r) u.tables

def Application.collaborator (app : Application) : Collaborator Eq where
  hook := app.hook
  purge := app.purge
  hook_unit {b u} hb := ⟨u, (app.hook_engine b).trans hb, fun _ => id, rfl⟩
  purge_unit ids b u hb := ⟨u, (app.purge_engine ids b).trans hb, fun _ => id, rfl⟩

theorem Outcome.took {now : Instant} {t t' : Tables} {c : Call} {result : Except QueueError Reply}
    {events : List Event} (h : Outcome Eq now t c result events t') : Took now t c result t' := by
  have same {step : Bool} {u v : UnitOfWork} (h : Beside Eq step u v) : u = v := by
    cases h with
    | alone => rfl
    | step _ h => exact h
  cases h with
  | failed => exact .failed
  | spared _ hidle => exact .spared hidle
  | worked _ before works after =>
    cases same before
    cases same after
    exact .worked works

theorem Application.run_took (app : Application) {c : Call} {b : Backend} {t : Tables}
    (hb : b.engine = .idle t) :
    ∃ t', (app.run c b).2.engine = .idle t' ∧ Took b.clock.now t c (app.run c b).1 t' := by
  obtain ⟨t', hengine, h⟩ := app.collaborator.run_outcome hb (c := c)
  exact ⟨t', hengine, h.took⟩

inductive Action
  | call (app : Application) (c : Call)
  | clock (k : Clock)

namespace Backend

def after (b : Backend) : Action → Backend
  | .call app c => (app.run c b).2
  | .clock k => { b with clock := k }

def run (b : Backend) (actions : List Action) : Backend := actions.foldl after b

def tables (b : Backend) : Tables := b.engine.tables

def status? (b : Backend) (id : ItemId) : Option Status := b.tables.status? id

def Free (b : Backend) : Prop := b.engine = .idle b.tables

theorem Free.start (t : Instant) : (start t).Free := rfl

variable {b : Backend}

theorem run_append (b : Backend) (actions more : List Action) :
    b.run (actions ++ more) = (b.run actions).run more := List.foldl_append

theorem Free.took (h : b.Free) (app : Application) (c : Call) :
    (app.run c b).2.Free ∧ Took b.clock.now b.tables c (app.run c b).1 (app.run c b).2.tables := by
  obtain ⟨t, ht, htook⟩ := app.run_took (c := c) h
  have htables : (app.run c b).2.tables = t := congrArg Engine.tables ht
  rw [← htables] at ht htook
  exact ⟨ht, htook⟩

theorem Free.after (h : b.Free) (a : Action) : (b.after a).Free := by
  cases a with
  | call app c => exact (h.took app c).1
  | clock k => exact h

theorem Free.run (h : b.Free) (actions : List Action) : (b.run actions).Free := by
  induction actions generalizing b with
  | nil => exact h
  | cons a actions ih => exact ih (h.after a)

theorem exists_step {p : Backend → Prop} {actions : List Action} (h : p b)
    (hend : ¬p (b.run actions)) : ∃ x a y, actions = x ++ a :: y ∧ p (b.run x) ∧
      ¬p ((b.run x).after a) := by
  obtain ⟨x, a, y, hsplit, hx, hy⟩ := exists_enters (p := fun b => ¬p b) (not_not_intro h) hend
  exact ⟨x, a, y, hsplit, not_not.1 hx, hy [] (List.nil_prefix)⟩

end Backend

end WorkQueue.Memory
