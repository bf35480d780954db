import WorkQueue.Proofs.Call
import WorkQueue.Proofs.Execution

namespace WorkQueue

def hookCall : Effects := ⟨Unit, fun _ => Except Cause Unit⟩

def Hook.call : Hook hookCall := .ask (HookRequest.app ()) .done

variable {X : Effects} {α β σ : Type}

def Hook.run (hook : Hook X) (answer : Answers X σ) : σ → Except Cause Unit × σ :=
  Program.run (E := queueEffects X) answer (hook.mapRequests HookRequest.toQueue)

def Hook.trace (hook : Hook X) (answer : Answers X σ) : σ → List (Exchange (queueEffects X)) :=
  Program.trace (E := queueEffects X) answer (hook.mapRequests HookRequest.toQueue)

def Answers.withHook (answer : Answers X σ) (hook : Hook X) : Answers hookCall σ
  | .begin, s => answer .begin s
  | .store c, s => answer (.store c) s
  | .commit, s => answer .commit s
  | .rollback, s => answer .rollback s
  | .emit e, s => answer (.emit e) s
  | .note n, s => answer (.note n) s
  | .app (), s => hook.run answer s

/-- What was asked for in full, beside the same with each run of the step `hook` as one exchange. -/
inductive Expands (answer : Answers X σ) (hook : Hook X) :
    List (Exchange (queueEffects X)) → List (Exchange (queueEffects hookCall)) → Prop
  | nil : Expands answer hook [] []
  | begin {a full steps} : Expands answer hook full steps →
    Expands answer hook (⟨.begin, a⟩ :: full) (⟨.begin, a⟩ :: steps)
  | store {c a full steps} : Expands answer hook full steps →
    Expands answer hook (⟨.store c, a⟩ :: full) (⟨.store c, a⟩ :: steps)
  | commit {a full steps} : Expands answer hook full steps →
    Expands answer hook (⟨.commit, a⟩ :: full) (⟨.commit, a⟩ :: steps)
  | rollback {a full steps} : Expands answer hook full steps →
    Expands answer hook (⟨.rollback, a⟩ :: full) (⟨.rollback, a⟩ :: steps)
  | emit {e full steps} : Expands answer hook full steps →
    Expands answer hook (⟨.emit e, ()⟩ :: full) (⟨.emit e, ()⟩ :: steps)
  | note {n full steps} : Expands answer hook full steps →
    Expands answer hook (⟨.note n, ()⟩ :: full) (⟨.note n, ()⟩ :: steps)
  | hook {s full steps} : Expands answer hook full steps →
    Expands answer hook (hook.trace answer s ++ full) (⟨.app (), (hook.run answer s).1⟩ :: steps)

variable {answer : Answers X σ} {hook : Hook X}

theorem Expands.append {full full' : List (Exchange (queueEffects X))}
    {steps steps' : List (Exchange (queueEffects hookCall))} (h : Expands answer hook full steps)
    (h' : Expands answer hook full' steps') :
    Expands answer hook (full ++ full') (steps ++ steps') := by
  induction h with
  | nil => exact h'
  | begin _ ih => exact ih.begin
  | store _ ih => exact ih.store
  | commit _ ih => exact ih.commit
  | rollback _ ih => exact ih.rollback
  | emit _ ih => exact ih.emit
  | note _ ih => exact ih.note
  | hook _ ih =>
    rw [List.append_assoc]
    exact ih.hook

def Mirrors (answer : Answers X σ) (hook : Hook X) (op : Operation X α)
    (outer : Operation hookCall α) : Prop :=
  ∀ s, op.exec answer s = outer.exec (answer.withHook hook) s ∧
    Expands answer hook (op.trace answer s) (outer.trace (answer.withHook hook) s)

namespace Mirrors

open Operation

theorem bind {op : Operation X α} {outer : Operation hookCall α} {f : α → Operation X β}
    {outerf : α → Operation hookCall β} (h : Mirrors answer hook op outer)
    (hf : ∀ a, Mirrors answer hook (f a) (outerf a)) :
    Mirrors answer hook (op >>= f) (outer >>= outerf) := by
  intro s
  obtain ⟨hexec, htrace⟩ := h s
  rw [exec_bind, exec_bind, trace_bind, trace_bind, hexec]
  obtain ⟨_ | a, t⟩ := outer.exec (answer.withHook hook) s
  · exact ⟨rfl, htrace.append .nil⟩
  · exact ⟨(hf a t).1, htrace.append (hf a t).2⟩

theorem pure (a : α) : Mirrors answer hook (pure a) (pure a) := fun _ => ⟨rfl, .nil⟩

theorem throw (e : QueueError) :
    Mirrors answer hook (throw e : Operation X α) (throw e : Operation hookCall α) :=
  fun _ => ⟨rfl, .nil⟩

theorem store (subject : Subject) (c : StoreCall) :
    Mirrors answer hook (store subject c) (store subject c) := fun _ => ⟨rfl, .store .nil⟩

theorem note (n : Notice) : Mirrors answer hook (note n) (note n) := fun _ => ⟨rfl, .note .nil⟩

theorem emit (a : Activity) (data : EventData) :
    Mirrors answer hook (emit a data) (emit a data) := fun _ => ⟨rfl, .emit .nil⟩

theorem begin : Mirrors answer hook begin begin := fun _ => ⟨rfl, .begin .nil⟩

theorem commit : Mirrors answer hook commit commit := fun _ => ⟨rfl, .commit .nil⟩

theorem outcome {op : Operation X α} {outer : Operation hookCall α}
    (h : Mirrors answer hook op outer) : Mirrors answer hook (outcome op) (outcome outer) := by
  intro s
  rw [exec_outcome, exec_outcome, trace_outcome, trace_outcome, (h s).1]
  exact ⟨rfl, (h s).2⟩

theorem rollback (cause : QueueError) :
    Mirrors answer hook (rollback cause : Operation X α)
      (rollback cause : Operation hookCall α) := by
  intro s
  rw [exec_rollback, exec_rollback, trace_rollback, trace_rollback]
  simp only [Answers.withHook]
  obtain ⟨_ | _, t⟩ := answer .rollback s
  · exact ⟨rfl, .rollback (.note .nil)⟩
  · exact ⟨rfl, .rollback .nil⟩

theorem inUnit {op : Operation X α} {outer : Operation hookCall α}
    (h : Mirrors answer hook op outer) : Mirrors answer hook (inUnit op) (inUnit outer) := by
  refine begin.bind fun _ => h.outcome.bind fun result => ?_
  cases result with
  | ok a => exact commit.bind fun _ => pure a
  | error e => exact rollback e

theorem runHook (subject : Subject) :
    Mirrors answer hook (runHook subject hook) (runHook subject .call) := by
  intro s
  rw [Operation.runHook, exec_attempt, trace_attempt, Operation.runHook, exec_attempt]
  have run : Expands answer hook (hook.trace answer s ++ []) _ := .hook (s := s) .nil
  rw [List.append_nil] at run
  exact ⟨rfl, run⟩

theorem ite {p : Prop} [Decidable p] {op op' : Operation X α} {outer outer' : Operation hookCall α}
    (h : Mirrors answer hook op outer) (h' : Mirrors answer hook op' outer') :
    Mirrors answer hook (if p then op else op') (if p then outer else outer') := by
  split
  · exact h
  · exact h'

theorem purge (r : Retention) (ids : List ItemId) :
    Mirrors answer hook (Queue.purge r ids) (Queue.purge r ids) :=
  ite ((store _ (.purge ids)).bind fun _ => note _) (pure ())

theorem announce (r : Queue.Call.Report) :
    Mirrors answer hook (Queue.Call.announce r) (Queue.Call.announce r) := by
  obtain ⟨_ | n, activity, data, reply⟩ := r
  · exact (emit activity data).bind fun _ => pure reply
  · exact (note n).bind fun _ => (emit activity data).bind fun _ => pure reply

theorem work (c : Queue.Call) : Mirrors answer hook (c.work hook) (c.work .call) := by
  cases c with
  | append item => exact (store _ (.insert [item])).bind fun _ => pure _
  | appends items => exact (store _ (.insert items)).bind fun _ => pure _
  | readItems limit => exact (store _ (.claim limit)).bind fun _ => pure _
  | cancelItems ids => exact (store _ (.release ids)).bind fun _ => pure _
  | commit archives id =>
    refine bind ?_ fun _ => pure _
    refine (runHook _).bind fun _ => (store _ (.delete id .processing)).bind fun deleted => ?_
    have complete : Mirrors answer hook
        (if archives.completed then Operation.store (.item id) (.complete id) else Pure.pure ())
        (if archives.completed then Operation.store (.item id) (.complete id) else Pure.pure ()) :=
      ite (store _ (.complete id)) (pure ())
    exact ite ((throw _).bind fun _ => complete) complete
  | reject archives id cause =>
    refine bind ?_ fun _ => pure _
    refine (store _ (.demote id)).bind fun _ => ?_
    exact ite ((store _ (.recordFailures _)).bind fun _ => pure _) (pure _)
  | recoverTimedOut archives w limit =>
    refine bind ?_ fun _ => pure _
    refine (store _ (.recover w.timeout limit)).bind fun _ => ?_
    exact ite ((store _ (.recordFailures _)).bind fun _ => pure _) (pure _)
  | requeue w limit => exact (store _ (.requeue w.delay limit)).bind fun _ => pure _
  | removeExhausted limit => exact (store _ (.discard limit)).bind fun _ => pure _
  | removeCompleted archives r limit =>
    exact (store _ (.expireCompleted r.completedExpiry limit)).bind fun ids =>
      (purge r ids).bind fun _ => pure _
  | removeBroken archives r limit =>
    exact (store _ (.expireBroken r.brokenExpiry limit)).bind fun ids =>
      (purge r ids).bind fun _ => pure _

theorem spare (c : Queue.Call) : Mirrors answer hook c.spare c.spare := by
  cases c with
  | appends items => exact (note .nothingToAppend).bind fun _ => pure _
  | _ => exact pure _

end Mirrors

/-- A call with an application's step inside comes to the same, and asks for the same, as one that
asks for the step as a whole. -/
theorem Queue.Call.mirrors (answer : Answers X σ) (hook : Hook X) (c : Queue.Call) :
    Mirrors answer hook (c.program hook) (c.program .call) := by
  rw [program_eq, program_eq]
  cases c.fault? with
  | some e => exact .throw e
  | none => exact .ite (.spare c) ((Mirrors.work c).inUnit.bind .announce)

end WorkQueue
