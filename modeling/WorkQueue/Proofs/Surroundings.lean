import WorkQueue.Proofs.Collaborator

/-!
Answers from the in-memory tables to a queue whose application has a state of its own. Whatever that
state is, a call comes to what it comes to on the tables alone, for some application.
-/

namespace WorkQueue

variable {σ τ : Type} {view : σ → τ}

theorem Program.run_seen {E : Effects} {α : Type} {answer : (r : E.Request) → σ → E.Answer r × σ}
    {answer' : (r : E.Request) → τ → E.Answer r × τ}
    (h : ∀ r s, Prod.map id view (answer r s) = answer' r (view s)) (p : Program E α) (s : σ) :
    Prod.map id view (p.run answer s) = p.run answer' (view s) := by
  induction p generalizing s with
  | done a => rfl
  | ask r next ih =>
    have hanswer : (answer r s).1 = (answer' r (view s)).1 := congrArg Prod.fst (h r s)
    have hstate : view (answer r s).2 = (answer' r (view s)).2 := congrArg Prod.snd (h r s)
    rw [run, run, ih, hanswer, hstate]

def Seen {X : Effects} {α : Type} (view : σ → τ) (answer : Answers X σ) (answer' : Answers X τ)
    (op : Operation X α) (s : σ) : Prop :=
  Prod.map id view (op.exec answer s) = op.exec answer' (view s)

namespace Seen

open Operation

section Parts

variable {X : Effects} {α β : Type} {answer : Answers X σ} {answer' : Answers X τ} {s : σ}

theorem bind {op : Operation X α} {f : α → Operation X β} (h : Seen view answer answer' op s)
    (hf : ∀ a, Seen view answer answer' (f a) (op.exec answer s).2) :
    Seen view answer answer' (op >>= f) s := by
  rw [Seen] at h
  rw [Seen, exec_bind, exec_bind, ← h]
  generalize op.exec answer s = ended at hf
  obtain ⟨_ | a, t⟩ := ended
  · rfl
  · exact hf a

theorem outcome {op : Operation X α} (h : Seen view answer answer' op s) :
    Seen view answer answer' (outcome op) s := by
  rw [Seen] at h
  rw [Seen, exec_outcome, exec_outcome, ← h]
  rfl

end Parts

section Call

variable {α : Type} {answer : Answers hookCall σ} {answer' : Answers hookCall τ}

theorem of_mirrors
    (h : ∀ r s, r ≠ .app () → Prod.map id view (answer r s) = answer' r (view s))
    {op : Operation hookCall α}
    (hop : ∀ {ρ : Type} (answer : Answers hookCall ρ), Mirrors answer (.done (.ok ())) op op)
    (s : σ) : Seen view answer answer' op s := by
  rw [Seen, (hop answer s).1, (hop answer' (view s)).1]
  refine Program.run_seen (E := queueEffects hookCall) (fun r s => ?_) op.run s
  cases r with
  | app r => rfl
  | _ => exact h _ s nofun

theorem commit (h : ∀ r s, r ≠ .app () → Prod.map id view (answer r s) = answer' r (view s))
    {s : σ} (hhook : Prod.map id view (answer (.app ()) (answer .begin s).2) =
      answer' (.app ()) (view (answer .begin s).2)) (archives : Archives) (id : ItemId) :
    Seen view answer answer' ((Queue.Call.commit archives id).program .call) s := by
  rw [Queue.Call.program_eq]
  cases (Queue.Call.commit archives id).fault? with
  | some e => rfl
  | none =>
    have complete {ρ : Type} (answer : Answers hookCall ρ) : Mirrors answer (.done (.ok ()))
        (if archives.completed then store (.item id) (.complete id) else pure ())
        (if archives.completed then store (.item id) (.complete id) else pure ()) :=
      .ite (.store _ (.complete id)) (.pure ())
    have hooked : Seen view answer answer' (runHook (.item id) .call) (answer .begin s).2 := by
      rw [Seen, runHook, exec_attempt, exec_attempt]
      exact congrArg (Prod.map (Except.mapError _) fun t => t) hhook
    refine bind ?_ fun r => of_mirrors h (fun _ => .announce r) _
    refine bind (of_mirrors h (fun _ => .begin) s) fun _ => bind (outcome ?_) fun result => ?_
    · refine bind (bind hooked fun _ => of_mirrors h (fun _ => ?_) _) fun _ =>
        of_mirrors h (fun _ => .pure _) _
      exact (Mirrors.store _ (.delete id .processing)).bind fun _ =>
        .ite ((Mirrors.throw _).bind fun _ => complete _) (complete _)
    · cases result with
      | ok report => exact of_mirrors h (fun _ => Mirrors.commit.bind fun _ => .pure report) _
      | error e => exact of_mirrors h (fun _ => .rollback e) _

end Call

end Seen

namespace Memory

open Queue

open Classical in
/-- An application whose step ends with `ended` in the state `b`, and does nothing elsewhere. -/
noncomputable def Collaborator.once {S : UnitOfWork → UnitOfWork → Prop} (hS : ∀ u, S u u)
    (b : Backend) (ended : Except Cause Unit × Backend)
    (h : ∀ u, b.engine = .busy u → ∃ v, ended.2.engine = .busy v ∧
      (∀ t, u.Undoes t → v.Undoes t) ∧ S u v) : Collaborator S where
  hook b' := if b' = b then ended else (.ok (), b')
  purge ids b' := b'.perform (.purge ids)
  hook_unit {b' u} hb := by
    by_cases hb' : b' = b
    · rw [if_pos hb']
      exact h u (hb' ▸ hb)
    · rw [if_neg hb']
      exact ⟨u, hb, fun _ => id, hS u⟩
  purge_unit _ _ u hb := ⟨_, (Collaborator.perform_busy hb _).2, fun _ => id, hS u⟩

theorem program_of_not_hooks {X : Effects} {c : Call} (h : hooks c = false) (hook hook' : Hook X) :
    c.program hook = c.program hook' := by
  cases c with
  | commit archives id => cases h
  | _ => rfl

namespace InMemory

variable {X : Effects} {answer : Answers X σ} {view : σ → Backend}

theorem withHook (h : InMemory answer view) (hook : Hook X) {S : UnitOfWork → UnitOfWork → Prop}
    {g : Collaborator S} (hg : g.purge = fun ids b => b.perform (.purge ids)) :
    ∀ r s, r ≠ .app () → Prod.map id view (answer.withHook hook r s) = g.serve r (view s) := by
  intro r s hr
  cases r with
  | begin => exact h.begin s
  | store c =>
    cases c with
    | purge ids => exact (h.store _ s).trans (congrFun (congrFun hg ids) (view s)).symm
    | _ => exact h.store _ s
  | commit => exact h.commit s
  | rollback => exact h.rollback s
  | emit e => exact congrArg (Prod.mk ()) (h.emit e s)
  | note n => exact congrArg (Prod.mk ()) (h.note n s)
  | app r => exact absurd rfl hr

theorem exec_program {γ : Type} {shown : Tables → γ} (h : InMemory answer view) {hook : Hook X}
    (hleaves : ∀ s u v, (view s).engine = .busy u → (view (hook.run answer s).2).engine = .busy v →
      shown v.tables = shown u.tables) (c : Call) (s : σ) :
    ∃ g : Collaborator (Leaves shown),
      Prod.map id view ((c.program hook).exec answer s) = g.run c (view s) := by
  rw [(c.mirrors answer hook s).1]
  let begun := (answer .begin s).2
  have hunit : ∀ u, (view begun).engine = .busy u →
      ∃ v, (view (hook.run answer begun).2).engine = .busy v ∧
        (∀ t, u.Undoes t → v.Undoes t) ∧ Leaves shown u v := by
    intro u hu
    obtain ⟨v, hv, hundo, hnow⟩ := Collaborator.run_hook_unit h hook hu
    exact ⟨v, hv, hundo, hnow, hleaves begun u v hu hv⟩
  -- The hook may go by more than the tables, so the application is made for this one run of it.
  let g : Collaborator (Leaves shown) := .once (fun _ => ⟨rfl, rfl⟩) (view begun)
    (Prod.map id view (hook.run answer begun)) hunit
  have hqueue := h.withHook hook (g := g) rfl
  refine ⟨g, ?_⟩
  cases hc : hooks c with
  | false =>
    refine Seen.of_mirrors hqueue (fun answer => ?_) s
    have hmirrors := c.mirrors answer (.done (.ok ()))
    rwa [program_of_not_hooks hc _ .call] at hmirrors
  | true =>
    cases c with
    | commit archives id => exact Seen.commit hqueue (if_pos rfl).symm archives id
    | _ => cases hc

end InMemory

end Memory

end WorkQueue
