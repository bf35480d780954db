import WorkQueue.Proofs.Execution
import WorkQueue.Queue.Append
import WorkQueue.Queue.Recovery
import WorkQueue.Queue.Retention
import WorkQueue.Queue.Settlement

namespace WorkQueue

namespace Queue

open Operation

inductive Reply
  | done
  | ids (l : List ItemId)
deriving DecidableEq

def Reply.items : Reply → List ItemId
  | done => []
  | ids l => l

inductive Call
  | append (item : Item)
  | appends (items : List Item)
  | readItems (limit : UInt32)
  | cancelItems (ids : List ItemId)
  | commit (archives : Archives) (id : ItemId)
  | reject (archives : Archives) (id : ItemId) (cause : String)
  | recoverTimedOut (archives : Archives) (w : RecoveryWindows) (limit : UInt32)
  | requeue (w : RecoveryWindows) (limit : UInt32)
  | removeExhausted (limit : UInt32)
  | removeCompleted (archives : Archives) (r : Retention) (limit : UInt32)
  | removeBroken (archives : Archives) (r : Retention) (limit : UInt32)
deriving DecidableEq

namespace Call

def program {X : Effects} (hook : Hook X) : Call → Operation X Reply
  | append item => do
    Queue.append item
    return .done
  | appends items => do
    Queue.appends items
    return .done
  | readItems limit => return .ids (← Queue.readItems limit)
  | cancelItems ids => do
    Queue.cancelItems ids
    return .done
  | commit archives id => do
    Queue.commit archives id hook
    return .done
  | reject archives id cause => do
    Queue.reject archives id cause
    return .done
  | recoverTimedOut archives w limit => return .ids (← Queue.recoverTimedOut archives w limit)
  | requeue w limit => return .ids (← Queue.requeue w limit)
  | removeExhausted limit => return .ids (← Queue.removeExhausted limit)
  | removeCompleted archives r limit => return .ids (← Queue.removeCompleted archives r limit)
  | removeBroken archives r limit => return .ids (← Queue.removeBroken archives r limit)

def items : Call → List Item
  | append item => [item]
  | appends items => items
  | _ => []

def on (archives : Archives) : Call → Call
  | commit _ id => commit archives id
  | reject _ id cause => reject archives id cause
  | recoverTimedOut _ w limit => recoverTimedOut archives w limit
  | removeCompleted _ r limit => removeCompleted archives r limit
  | removeBroken _ r limit => removeBroken archives r limit
  | c => c

def subject : Call → Subject
  | append item => .item item.id
  | appends items => insertSubject items
  | commit _ id | reject _ id _ => .item id
  | _ => .table

def fault? : Call → Option QueueError
  | append item =>
    match item.validate with
    | .ok () => none
    | .error fault => some (.invalidInput fault)
  | appends items =>
    (firstInvalid items).map fun (index, item, fault) => .invalidBatchItem index item.id fault
  | cancelItems ids => if ids.any (·.isZero) then some (.invalidInput .zeroId) else none
  | commit _ id | reject _ id _ => if id.isZero then some (.invalidInput .zeroId) else none
  | readItems limit | recoverTimedOut _ _ limit | requeue _ limit | removeExhausted limit =>
    if limit == 0 then some (.invalidInput .zeroLimit) else none
  | removeCompleted archives _ limit =>
    if archives.completed && limit == 0 then some (.invalidInput .zeroLimit) else none
  | removeBroken archives _ limit =>
    if archives.broken && limit == 0 then some (.invalidInput .zeroLimit) else none

/-- Whether there is nothing to do for the storage: nothing to append or to hand back, or no archive
to clean. -/
def isIdle : Call → Bool
  | appends items => items.isEmpty
  | cancelItems ids => ids.isEmpty
  | removeCompleted archives _ _ => !archives.completed
  | removeBroken archives _ _ => !archives.broken
  | _ => false

def spare {X : Effects} : Call → Operation X Reply
  | appends _ => do
    note .nothingToAppend
    return .done
  | removeCompleted .. | removeBroken .. => return .ids []
  | _ => return .done

structure Report where
  notice? : Option Notice
  activity : Activity
  data : EventData
  reply : Reply
deriving DecidableEq

def Report.count (a : Activity) (ids : List ItemId) : Report :=
  ⟨none, a, .count (UInt64.ofNat ids.length), .ids ids⟩

def announce {X : Effects} (r : Report) : Operation X Reply := do
  if let some n := r.notice? then note n
  emit r.activity r.data
  return r.reply

def work {X : Effects} (hook : Hook X) : Call → Operation X Report
  | append item => do
    store (.item item.id) (.insert [item])
    return ⟨none, .append, .id item.id, .done⟩
  | appends items => do
    store (insertSubject items) (.insert items)
    return ⟨none, .appends, .ids (items.map (·.id)), .done⟩
  | readItems limit => return .count .readItems (← store .table (.claim limit))
  | cancelItems ids => do
    let released : UInt64 ← store .table (.release ids)
    let missing := if released.toNat < ids.length then
      some (.notProcessing (ids.length - released.toNat) ids.length) else none
    return ⟨missing, .cancelItems, .count (UInt64.ofNat ids.length), .done⟩
  | commit archives id => do
    commitWrites archives id hook
    return ⟨none, .commit, .id id, .done⟩
  | reject archives id cause => do
    let demoted ← rejectWrites archives id cause
    return if demoted then ⟨none, .reject, .id id, .done⟩
      else ⟨some (.attemptKept id), .rejectSkipped, .id id, .done⟩
  | recoverTimedOut archives w limit => do
    let ids ← recoverWrites archives w.timeout limit
    return { Report.count .recoverTimedOut ids with
      notice? := if ids.isEmpty then none else some (.reclaimed ids.length) }
  | requeue w limit => return .count .requeue (← store .table (.requeue w.delay limit))
  | removeExhausted limit => return .count .removeExhausted (← store .table (.discard limit))
  | removeCompleted _ r limit => do
    let ids : List ItemId ← store .table (.expireCompleted r.completedExpiry limit)
    purge r ids
    return .count .removeCompleted ids
  | removeBroken _ r limit => do
    let ids : List ItemId ← store .table (.expireBroken r.brokenExpiry limit)
    purge r ids
    return .count .removeBroken ids

theorem exec_announce {X : Effects} {σ : Type} (answer : Answers X σ) (r : Report) (s : σ) :
    ((announce r).exec answer s).1 = .ok r.reply := by
  obtain ⟨_ | n, activity, data, reply⟩ := r <;> rfl

theorem announce_inUnit {X : Effects} {α : Type} (body : Operation X α) (f : α → Report) :
    (inUnit body >>= fun a => announce (f a)) =
      inUnit (body >>= fun a => pure (f a)) >>= announce := by
  rw [bind_pure_comp, inUnit_map, bind_map_left]

section Form

variable {X : Effects} {α : Type}

theorem throw_if_bind {β : Type} (p : Prop) [Decidable p] (e : QueueError) (op : Operation X α)
    (f : α → Operation X β) :
    (if p then throw e else op) >>= f = if p then throw e else op >>= f := by
  split <;> rfl

theorem checkId_bind (id : ItemId) (f : Unit → Operation X α) :
    checkId id >>= f = if id.isZero then throw (.invalidInput .zeroId) else f () :=
  throw_if_bind _ _ _ _

theorem checkLimit_bind (limit : UInt32) (f : Unit → Operation X α) :
    checkLimit limit >>= f =
      if limit == 0 then throw (.invalidInput .zeroLimit) else f () :=
  throw_if_bind _ _ _ _

theorem batch_announce (a : Activity) (limit : UInt32) (batch : Operation X (List ItemId)) :
    (do
      let ids ← (do
        checkLimit limit
        let ids ← inUnit batch
        emitCount a ids.length
        return ids)
      return Reply.ids ids) =
    if limit == 0 then throw (.invalidInput .zeroLimit)
    else inUnit (batch >>= fun ids => pure (Report.count a ids)) >>= announce := by
  rw [← announce_inUnit]
  simp only [checkLimit_bind, throw_if_bind, bind_assoc, pure_bind]
  rfl

theorem expire_announce (a : Activity) (limit : UInt32) (r : Retention)
    (batch : Operation X (List ItemId)) :
    (do
      let ids ← (do
        checkLimit limit
        let ids ← expire r batch
        emitCount a ids.length
        return ids)
      return Reply.ids ids) =
    if limit == 0 then throw (.invalidInput .zeroLimit)
    else (inUnit do
      let ids ← batch
      purge r ids
      return Report.count a ids) >>= announce := by
  refine (batch_announce a limit _).trans ?_
  simp only [bind_assoc, pure_bind]

def guarded (fault? : Option QueueError) (op : Operation X α) : Operation X α :=
  match fault? with
  | some e => throw e
  | none => op

theorem if_eq_guarded (p : Prop) [Decidable p] (e : QueueError) (op : Operation X α) :
    (if p then throw e else op) = guarded (if p then some e else none) op := by
  split <;> rfl

/-- Every call has one form: it checks what it is given, works in one unit of work, and then tells
what it did. -/
theorem program_eq (hook : Hook X) (c : Call) :
    c.program hook = guarded c.fault? (if c.isIdle then c.spare
      else inUnit (c.work hook) >>= announce) := by
  cases c with
  | append item =>
    simp only [program, Queue.append, fault?]
    cases item.validate with
    | error fault => rfl
    | ok valid =>
      refine Eq.trans ?_ (announce_inUnit _ _)
      exact bind_assoc (insert [item]) _ _
  | appends items =>
    simp only [program, Queue.appends, fault?]
    by_cases hitems : items.isEmpty
    · rw [List.isEmpty_iff.1 hitems]
      rfl
    · rw [if_neg hitems]
      cases firstInvalid items with
      | some bad => rfl
      | none =>
        refine Eq.trans ?_ (if_neg hitems).symm
        refine Eq.trans ?_ (announce_inUnit _ _)
        exact bind_assoc (insert items) _ _
  | readItems limit => exact (batch_announce _ _ _).trans (if_eq_guarded _ _ _)
  | cancelItems ids =>
    simp only [program, Queue.cancelItems]
    by_cases hids : ids.isEmpty
    · rw [List.isEmpty_iff.1 hids]
      rfl
    · rw [if_neg hids]
      refine Eq.trans ?_ (if_eq_guarded _ _ _)
      by_cases hzero : ids.any (·.isZero)
      · rw [if_pos hzero, if_pos hzero]
        rfl
      · rw [if_neg hzero, if_neg hzero, isIdle, if_neg hids]
        refine Eq.trans ?_ (announce_inUnit _ _)
        simp only [bind_assoc]
        congr 1
        -- The report already holds the notice that the call would decide on after its unit.
        funext released
        by_cases h : released.toNat < ids.length
        · simp only [h, if_true]
          rfl
        · simp only [h, if_false]
          rfl
  | commit archives id =>
    simp only [program, Queue.commit, checkId_bind, throw_if_bind, bind_assoc]
    refine Eq.trans ?_ (if_eq_guarded _ _ _)
    congr 1
    refine Eq.trans ?_ (announce_inUnit _ _)
    rfl
  | reject archives id cause =>
    simp only [program, Queue.reject, checkId_bind, throw_if_bind, bind_assoc]
    refine Eq.trans ?_ (if_eq_guarded _ _ _)
    congr 1
    refine Eq.trans ?_ (announce_inUnit _ _)
    congr 1
    funext demoted
    cases demoted <;> rfl
  | recoverTimedOut archives w limit =>
    simp only [program, Queue.recoverTimedOut, checkLimit_bind, throw_if_bind, bind_assoc]
    refine Eq.trans ?_ (if_eq_guarded _ _ _)
    congr 1
    refine Eq.trans ?_ (announce_inUnit _ _)
    congr 1
    funext ids
    cases ids <;> rfl
  | requeue w limit => exact (batch_announce _ _ _).trans (if_eq_guarded _ _ _)
  | removeExhausted limit => exact (batch_announce _ _ _).trans (if_eq_guarded _ _ _)
  | removeCompleted archives r limit =>
    obtain ⟨_ | _, broken⟩ := archives
    · rfl
    · exact (expire_announce _ _ _ _).trans (if_eq_guarded _ _ _)
  | removeBroken archives r limit =>
    obtain ⟨completed, _ | _⟩ := archives
    · rfl
    · exact (expire_announce _ _ _ _).trans (if_eq_guarded _ _ _)

end Form

end Call

end Queue

end WorkQueue
