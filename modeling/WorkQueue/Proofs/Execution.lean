import Mathlib
import WorkQueue.Queue.Storage

namespace WorkQueue

abbrev Exchange (E : Effects) := (r : E.Request) × E.Answer r

namespace Program

variable {E : Effects} {α β σ : Type}

def trace (answer : (r : E.Request) → σ → E.Answer r × σ) : Program E α → σ → List (Exchange E)
  | done _, _ => []
  | ask r next, s => ⟨r, (answer r s).1⟩ :: (next (answer r s).1).trace answer (answer r s).2

theorem trace_bind (answer : (r : E.Request) → σ → E.Answer r × σ) (p : Program E α)
    (f : α → Program E β) (s : σ) :
    (p.bind f).trace answer s =
      p.trace answer s ++ (f (p.run answer s).1).trace answer (p.run answer s).2 := by
  induction p generalizing s with
  | done a => rfl
  | ask r next ih => simp only [bind, trace, run, ih, List.cons_append]

end Program

abbrev Answers (X : Effects) (σ : Type) := (r : QueueRequest X) → σ → r.Answer × σ

namespace Operation

variable {X : Effects} {α β σ : Type} (answer : Answers X σ)

def exec (op : Operation X α) (s : σ) : Except QueueError α × σ :=
  Program.run (E := queueEffects X) answer op.run s

def trace (op : Operation X α) (s : σ) : List (Exchange (queueEffects X)) :=
  Program.trace (E := queueEffects X) answer op.run s

@[simp] theorem exec_pure (a : α) (s : σ) :
    exec answer (pure a : Operation X α) s = (.ok a, s) := rfl

@[simp] theorem trace_pure (a : α) (s : σ) :
    trace answer (pure a : Operation X α) s = [] := rfl

theorem exec_bind (op : Operation X α) (f : α → Operation X β) (s : σ) :
    exec answer (op >>= f) s = match exec answer op s with
      | (.ok a, s') => exec answer (f a) s'
      | (.error e, s') => (.error e, s') := by
  refine (Program.run_bind (E := queueEffects X) answer op.run _ s).trans ?_
  simp only [exec]
  generalize Program.run (E := queueEffects X) answer op.run s = ended
  obtain ⟨_ | _, _⟩ := ended <;> rfl

theorem exec_then (op : Operation X α) (a : β) (s : σ) :
    exec answer (op >>= fun _ => pure a) s =
      ((exec answer op s).1.map fun _ => a, (exec answer op s).2) := by
  rw [exec_bind]
  obtain ⟨_ | _, _⟩ := exec answer op s <;> rfl

theorem trace_bind (op : Operation X α) (f : α → Operation X β) (s : σ) :
    trace answer (op >>= f) s = trace answer op s ++ match exec answer op s with
      | (.ok a, s') => trace answer (f a) s'
      | (.error _, _) => [] := by
  refine (Program.trace_bind (E := queueEffects X) answer op.run _ s).trans ?_
  unfold trace exec
  congr 1
  generalize Program.run (E := queueEffects X) answer op.run s = ended
  obtain ⟨_ | _, _⟩ := ended <;> rfl

theorem exec_attempt {ε : Type} (p : Program (queueEffects X) (Except ε α)) (f : ε → QueueError)
    (s : σ) :
    exec answer (attempt p f) s =
      ((Program.run (E := queueEffects X) answer p s).1.mapError f,
        (Program.run (E := queueEffects X) answer p s).2) :=
  Program.run_bind (E := queueEffects X) answer p _ s

theorem trace_attempt {ε : Type} (p : Program (queueEffects X) (Except ε α)) (f : ε → QueueError)
    (s : σ) :
    trace answer (attempt p f) s = Program.trace (E := queueEffects X) answer p s :=
  (Program.trace_bind (E := queueEffects X) answer p _ s).trans (List.append_nil _)

@[simp] theorem exec_store (subject : Subject) (c : StoreCall) (s : σ) :
    exec answer (store subject c : Operation X c.Answer) s =
      ((answer (.store c) s).1.mapError (.storage subject), (answer (.store c) s).2) := rfl

@[simp] theorem trace_store (subject : Subject) (c : StoreCall) (s : σ) :
    trace answer (store subject c : Operation X c.Answer) s =
      [⟨.store c, (answer (.store c) s).1⟩] := rfl

@[simp] theorem exec_begin (s : σ) :
    exec answer (begin : Operation X Unit) s =
      ((answer .begin s).1.mapError (.storage .table), (answer .begin s).2) := rfl

@[simp] theorem trace_begin (s : σ) :
    trace answer (begin : Operation X Unit) s = [⟨.begin, (answer .begin s).1⟩] := rfl

@[simp] theorem exec_commit (s : σ) :
    exec answer (commit : Operation X Unit) s =
      ((answer .commit s).1.mapError (.storage .table), (answer .commit s).2) := rfl

@[simp] theorem trace_commit (s : σ) :
    trace answer (commit : Operation X Unit) s = [⟨.commit, (answer .commit s).1⟩] := rfl

@[simp] theorem exec_outcome (op : Operation X α) (s : σ) :
    exec answer (outcome op) s = (.ok (exec answer op s).1, (exec answer op s).2) :=
  Program.run_bind (E := queueEffects X) answer op.run _ s

@[simp] theorem trace_outcome (op : Operation X α) (s : σ) :
    trace answer (outcome op) s = trace answer op s :=
  (Program.trace_bind (E := queueEffects X) answer op.run _ s).trans (List.append_nil _)

theorem exec_rollback (cause : QueueError) (s : σ) :
    exec answer (rollback cause : Operation X α) s = (.error cause,
      match answer .rollback s with
      | (.ok (), t) => t
      | (.error again, t) => (answer (.note (.rollbackFailed cause again)) t).2) := by
  unfold exec rollback
  simp only [ExceptT.run_mk, request, bind, Program.bind, Program.run]
  obtain ⟨_ | _, t⟩ := answer .rollback s <;> rfl

theorem trace_rollback (cause : QueueError) (s : σ) :
    trace answer (rollback cause : Operation X α) s = ⟨.rollback, (answer .rollback s).1⟩ ::
      match (answer .rollback s).1 with
      | .ok () => []
      | .error again => [⟨.note (.rollbackFailed cause again), ()⟩] := by
  unfold trace rollback
  simp only [ExceptT.run_mk, request, bind, Program.bind, Program.trace]
  obtain ⟨_ | _, t⟩ := answer .rollback s <;> rfl

theorem outcome_map (f : α → β) (op : Operation X α) :
    outcome (f <$> op) = Except.map f <$> outcome op := by
  apply ExceptT.ext
  simp only [outcome, ExceptT.run_lift, ExceptT.run_map, Functor.map_map]
  rfl

theorem map_rollback (f : α → β) (cause : QueueError) :
    f <$> (rollback cause : Operation X α) = rollback cause := by
  apply ExceptT.ext
  simp only [rollback, ExceptT.run_map, ExceptT.run_mk, map_bind]
  congr 1
  funext result
  cases result with
  | ok _ => rfl
  | error again => exact (map_bind _ _ _).trans rfl

theorem inUnit_map (f : α → β) (body : Operation X α) :
    inUnit (f <$> body) = f <$> inUnit body := by
  simp only [inUnit, outcome_map, map_bind, bind_map_left]
  congr 1
  funext _
  congr 1
  funext result
  cases result with
  | ok a => simp only [Except.map, map_bind, map_pure]
  | error e => exact (map_rollback f e).symm

theorem exec_inUnit (body : Operation X α) (s : σ) :
    exec answer (inUnit body) s = match answer .begin s with
      | (.error e, t) => (.error (.storage .table e), t)
      | (.ok (), t) => match exec answer body t with
        | (.error e, t) => exec answer (rollback e) t
        | (.ok a, t) => match answer .commit t with
          | (.error e, t) => (.error (.storage .table e), t)
          | (.ok (), t) => (.ok a, t) := by
  rw [inUnit, exec_bind, exec_begin]
  obtain ⟨_ | _, t⟩ := answer .begin s
  · rfl
  · simp only [Except.mapError, exec_bind, exec_outcome]
    obtain ⟨_ | a, t⟩ := exec answer body t
    · rfl
    · simp only [exec_bind, exec_commit, exec_pure]
      obtain ⟨_ | _, t⟩ := answer .commit t <;> rfl

theorem trace_inUnit (body : Operation X α) (s : σ) :
    trace answer (inUnit body) s = ⟨.begin, (answer .begin s).1⟩ :: match answer .begin s with
      | (.error _, _) => []
      | (.ok (), t) => trace answer body t ++ match exec answer body t with
        | (.error e, t) => trace answer (rollback e : Operation X α) t
        | (.ok _, t) => [⟨.commit, (answer .commit t).1⟩] := by
  rw [inUnit, trace_bind, exec_begin, trace_begin]
  obtain ⟨_ | _, t⟩ := answer .begin s
  · rfl
  · simp only [Except.mapError, trace_bind, exec_outcome, trace_outcome]
    obtain ⟨_ | a, t⟩ := exec answer body t
    · rfl
    · simp only [trace_bind, exec_commit, trace_commit, trace_pure]
      obtain ⟨_ | _, t⟩ := answer .commit t <;> rfl

end Operation

end WorkQueue
