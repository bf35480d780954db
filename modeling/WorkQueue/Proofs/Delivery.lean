import WorkQueue.Proofs.Columns
import WorkQueue.Proofs.Discipline

/-!
A queue on a server. What it sends is a frame of transactions around statements with numbers in
them; a number that does not cross, on the way there or on the way back, ends the unit of work that
it was meant for, and nothing is told of it.
-/

namespace WorkQueue

theorem Program.answered {E : Effects} {α σ : Type} {answer : (r : E.Request) → σ → E.Answer r × σ}
    {p : Program E α} {s : σ} {x : Exchange E} (hx : x ∈ p.trace answer s) :
    ∃ t, x.2 = (answer x.1 t).1 := by
  induction p generalizing s with
  | done a => cases hx
  | ask r next ih =>
    rcases List.mem_cons.1 hx with rfl | hx
    · exact ⟨s, rfl⟩
    · exact ih _ hx

namespace Expands

variable {X : Effects} {σ : Type} {answer : Answers X σ} {hook : Hook X}
  {full : List (Exchange (queueEffects X))} {steps : List Queue.Step}

theorem kind_of_mem_trace (hook : Hook X) {s : σ} {x : Exchange (queueEffects X)}
    (hx : x ∈ hook.trace answer s) : x.1.kind = .work := by
  induction hook generalizing s with
  | done result => cases hx
  | ask r next ih =>
    cases r with
    | store c | app r =>
      rcases List.mem_cons.1 hx with rfl | hx
      · rfl
      · exact ih _ hx

theorem kind (h : Expands answer hook full steps) {x : Exchange (queueEffects X)} (hx : x ∈ full) :
    x.1.kind = .work ∨ ∃ y ∈ steps, x.1.kind = y.kind := by
  induction h with
  | nil => cases hx
  | hook _ ih =>
    rcases List.mem_append.1 hx with hx | hx
    · exact .inl (kind_of_mem_trace _ hx)
    · exact (ih hx).imp_right fun ⟨y, hy, hkind⟩ => ⟨y, List.mem_cons_of_mem _ hy, hkind⟩
  | begin _ ih | store _ ih | commit _ ih | rollback _ ih | emit _ ih | note _ ih =>
    rcases List.mem_cons.1 hx with rfl | hx
    · exact .inr ⟨_, List.mem_cons_self, rfl⟩
    · exact (ih hx).imp_right fun ⟨y, hy, hkind⟩ => ⟨y, List.mem_cons_of_mem _ hy, hkind⟩

end Expands

namespace Queue

open Operation

namespace Call

def opening : Call → StoreCall
  | append item => .insert [item]
  | appends items => .insert items
  | readItems limit => .claim limit
  | cancelItems ids => .release ids
  | commit _ id => .delete id .processing
  | reject _ id _ => .demote id
  | recoverTimedOut _ w limit => .recover w.timeout limit
  | requeue w limit => .requeue w.delay limit
  | removeExhausted limit => .discard limit
  | removeCompleted _ r limit => .expireCompleted r.completedExpiry limit
  | removeBroken _ r limit => .expireBroken r.brokenExpiry limit

variable {σ : Type}

/-- The state from which a call turns to the tables: its unit is begun, and in a commit the
application's step has been run. -/
inductive Enters (answer : Answers hookCall σ) : Call → σ → σ → Prop
  | commit {archives id s t u} (hbegin : answer .begin s = (.ok (), t))
    (hhook : answer (.app ()) t = (.ok (), u)) : Enters answer (.commit archives id) s u
  | other {c s t} (hother : ∀ archives id, c ≠ .commit archives id)
    (hbegin : answer .begin s = (.ok (), t)) : Enters answer c s t

variable {answer : Answers hookCall σ} {c : Call} {s t u : σ}

theorem work_eq (hother : ∀ archives id, c ≠ .commit archives id) :
    ∃ rest, c.work .call =
      (Operation.store c.subject c.opening >>= rest : Operation hookCall _) := by
  cases c with
  | commit archives id => exact absurd rfl (hother archives id)
  | reject => exact ⟨_, bind_assoc _ _ _⟩
  | recoverTimedOut => exact ⟨_, bind_assoc _ _ _⟩
  | _ => exact ⟨_, rfl⟩

theorem work_commit_eq (archives : Archives) (id : ItemId) :
    ∃ rest, (commit archives id).work .call = (runHook (.item id) .call >>= fun _ =>
      Operation.store (.item id) (.delete id .processing) >>= rest : Operation hookCall _) :=
  ⟨_, (bind_assoc _ _ _).trans (congrArg _ (funext fun _ => bind_assoc _ _ _))⟩

theorem Enters.work (h : Enters answer c s t) : ∃ begun, answer .begin s = (.ok (), begun) ∧
    ∃ before rest, (c.work .call).exec answer begun =
        (Operation.store c.subject c.opening >>= rest).exec answer t ∧
      (c.work .call).trace answer begun =
        before ++ (Operation.store c.subject c.opening >>= rest).trace answer t := by
  cases h with
  | other hother hbegin =>
    obtain ⟨rest, hwork⟩ := work_eq hother
    exact ⟨t, hbegin, [], rest, by rw [hwork], by rw [hwork]; rfl⟩
  | @commit archives id _ begun _ hbegin hhook =>
    have hexec : (runHook (.item id) .call).exec answer begun = (.ok (), t) := by
      rw [runHook, exec_attempt]
      exact congrArg (Prod.map (Except.mapError _) fun t => t) hhook
    obtain ⟨rest, hwork⟩ := work_commit_eq archives id
    refine ⟨begun, hbegin, (runHook (.item id) .call).trace answer begun, rest, ?_, ?_⟩
    · rw [hwork, exec_bind, hexec]
      rfl
    · rw [hwork, trace_bind, hexec]
      rfl

theorem Enters.program_eq (hfault : c.fault? = none) (hidle : c.isIdle = false) :
    c.program .call = (inUnit (c.work .call) >>= announce : Operation hookCall Reply) := by
  rw [Call.program_eq, hfault, hidle]
  rfl

end Call

inductive TakenBack : List Step → Prop
  | mk {body notes a} (hbody : ∀ y ∈ body, y.kind = .work ∨ y.kind = .note)
    (hnotes : ∀ y ∈ notes, y.kind = .note) :
    TakenBack (⟨.begin, .ok ()⟩ :: (body ++ ⟨.rollback, a⟩ :: notes))

theorem TakenBack.kind {steps : List Step} (h : TakenBack steps) :
    ∀ y ∈ steps, y.kind ≠ .commit ∧ y.kind ≠ .event := by
  obtain ⟨hbody, hnotes⟩ := h
  intro y hy
  simp only [List.mem_cons, List.mem_append] at hy
  rcases hy with rfl | hy | rfl | hy
  · exact ⟨nofun, nofun⟩
  · rcases hbody y hy with hkind | hkind <;> rw [hkind] <;> exact ⟨nofun, nofun⟩
  · exact ⟨nofun, nofun⟩
  · rw [hnotes y hy]
    exact ⟨nofun, nofun⟩

end Queue

namespace Sql

open Queue Operation Connection

def Statement.isFrame (s : Statement) : Bool :=
  s = beginning || s = committing || s = rollingBack

namespace Connection

def frame (k : Connection) : List Statement := k.sent.filter Statement.isFrame

variable (k : Connection)

section App

variable {X : Effects} {app : (r : X.Request) → Connection → X.Answer r × Connection}

def serve (app : (r : X.Request) → Connection → X.Answer r × Connection) (hook : Hook X) :
    Answers hookCall Connection := Answers.withHook (answer app) hook

end App

end Connection

end Sql

end WorkQueue
