import WorkQueue.Proofs.Call
import WorkQueue.Queue.Worker

/-!
What a worker does, call by call, whoever answers its calls. It holds on to items in an orderly way:
what a claim hands out is handled one after the other, and every item is settled after its handler
call, or handed back, before the next claim.
-/

namespace WorkQueue

open Queue

inductive DutyRequest
  | stopping
  | call (c : Call)
  | handle (id : ItemId)
  | note (n : Notice)

def DutyRequest.Answer : DutyRequest → Type
  | stopping => Bool
  | call _ => Except QueueError Reply
  | handle _ => Handling
  | note _ => Unit

def dutyEffects : Effects := ⟨DutyRequest, DutyRequest.Answer⟩

abbrev Duty := Program dutyEffects

theorem Program.mapRequests_bind {E F : Effects} {α β : Type}
    (f : (r : E.Request) → Program F (E.Answer r)) (p : Program E α) (g : α → Program E β) :
    (p >>= g).mapRequests f = p.mapRequests f >>= fun a => (g a).mapRequests f := by
  induction p with
  | done a => rfl
  | ask r next ih =>
    refine Eq.trans ?_ (bind_assoc _ _ _).symm
    exact congrArg (f r).bind (funext ih)

namespace Duty

def stopping : Duty Bool := .ask DutyRequest.stopping .done

def call (c : Call) : Duty (Except QueueError Reply) := .ask (DutyRequest.call c) .done

def handle (id : ItemId) : Duty Handling := .ask (DutyRequest.handle id) .done

def note (n : Notice) : Duty Unit := .ask (DutyRequest.note n) .done

def perform (c : Call) : Duty (Except QueueError Unit) := do
  return (← call c).map fun _ => ()

end Duty

namespace Worker

variable {X : Effects} (w : Worker X)

def settleDuty (id : ItemId) : Handling → Duty (Bool × Except QueueError Unit)
  | .succeeded => do
    return (true, ← Duty.perform (.commit w.archives id))
  | .stopped (.notStarted reason) => do
    Duty.note (.itemNotStarted id reason)
    return (false, ← Duty.perform (.cancelItems [id]))
  | .stopped (.failed cause) => do
    Duty.note (.itemFailed id cause)
    return (true, ← Duty.perform (.reject w.archives id cause.message))
  | .timedOut => do
    let cause := timeoutMessage w.config.handleTimeout
    Duty.note (.itemTimedOut id cause)
    return (true, ← Duty.perform (.reject w.archives id cause))

def processDuty (id : ItemId) : Duty Bool := do
  let (settles, result) ← w.settleDuty id (← Duty.handle id)
  match result with
  | .ok () => return settles
  | .error e =>
    if e.isStatusMismatch then Duty.note (.itemReclaimed id)
    else Duty.note (.settlementFailed id e)
    return false

def processAllDuty {X : Effects} (w : Worker X) (settled : Nat) :
    List ItemId → Duty (Except QueueError Nat)
  | [] => return .ok settled
  | id :: rest => do
    if ← Duty.stopping then
      Duty.note (.batchReturned w.index (rest.length + 1))
      return (← Duty.perform (.cancelItems (id :: rest))).map fun _ => settled
    else
      let done ← w.processDuty id
      w.processAllDuty (if done then settled + 1 else settled) rest

def pollOnceDuty : Duty (Except QueueError Nat) := do
  match ← Duty.call (.readItems w.readLimit) with
  | .ok r => w.processAllDuty 0 r.items
  | .error e => return .error e

def duty : Duty Turn := do
  if ← Duty.stopping then
    Duty.note (.workerStopped w.index)
    return .stop
  match ← w.pollOnceDuty with
  | .ok 0 => return .pause w.config.pollInterval
  | .ok settled =>
    Duty.note (.workerSettled w.index settled)
    return .again
  | .error e =>
    Duty.note (.pollFailed w.index e)
    return .pause w.config.errorBackoff

def startDuty : Duty Turn := do
  Duty.note (.workerStarted w.index)
  w.duty

section Expand

def hook : Call → Hook X
  | .commit _ id => w.handler.preCommit id
  | _ => .done (.ok ())

def expand : (r : DutyRequest) → Program (queueEffects X) r.Answer
  | .stopping => w.stopping
  | .call c => (c.program (w.hook c)).run
  | .handle id => w.handler.handle id
  | .note n => Operation.request (.note n)

theorem expand_bind {α β : Type} (d : Duty α) (f : α → Duty β) :
    (d >>= f).mapRequests w.expand =
      d.mapRequests w.expand >>= fun a => (f a).mapRequests w.expand :=
  Program.mapRequests_bind _ d f

@[simp] theorem expand_pure {α : Type} (a : α) :
    (pure a : Duty α).mapRequests w.expand = pure a := rfl

@[simp] theorem expand_stopping : Duty.stopping.mapRequests w.expand = w.stopping :=
  Program.bind_done _

@[simp] theorem expand_handle (id : ItemId) :
    (Duty.handle id).mapRequests w.expand = w.handler.handle id := Program.bind_done _

@[simp] theorem expand_note (n : Notice) :
    (Duty.note n).mapRequests w.expand = Operation.request (.note n) := Program.bind_done _

@[simp] theorem expand_call (c : Call) :
    (Duty.call c).mapRequests w.expand = (c.program (w.hook c)).run := Program.bind_done _

theorem expand_perform {c : Call} {op : Operation X Unit}
    (h : c.program (w.hook c) = op >>= fun _ => pure .done) :
    (Duty.perform c).mapRequests w.expand = op.run := by
  rw [Duty.perform, expand_bind, expand_call, h]
  refine (bind_assoc op.run _ _).trans ?_
  conv_rhs => rw [← bind_pure op.run]
  refine bind_congr fun result => ?_
  cases result <;> rfl

@[simp] theorem expand_commit (archives : Archives) (id : ItemId) :
    (Duty.perform (.commit archives id)).mapRequests w.expand =
      (Queue.commit archives id (w.handler.preCommit id)).run := w.expand_perform rfl

@[simp] theorem expand_cancelItems (ids : List ItemId) :
    (Duty.perform (.cancelItems ids)).mapRequests w.expand = (Queue.cancelItems ids).run :=
  w.expand_perform rfl

@[simp] theorem expand_reject (archives : Archives) (id : ItemId) (cause : String) :
    (Duty.perform (.reject archives id cause)).mapRequests w.expand =
      (Queue.reject archives id cause).run := w.expand_perform rfl

theorem settle_eq (id : ItemId) (handling : Handling) :
    (w.settleDuty id handling).mapRequests w.expand = w.settle id handling := by
  cases handling with
  | succeeded => simp only [settleDuty, settle, expand_bind, expand_pure, expand_commit]
  | stopped e =>
    cases e with
    | notStarted reason =>
      simp only [settleDuty, settle, expand_bind, expand_note, expand_pure,
        expand_cancelItems]
    | failed cause =>
      simp only [settleDuty, settle, expand_bind, expand_note, expand_pure, expand_reject]
  | timedOut => simp only [settleDuty, settle, expand_bind, expand_note, expand_pure, expand_reject]

theorem process_eq (id : ItemId) : (w.processDuty id).mapRequests w.expand = w.process id := by
  simp only [processDuty, process, expand_bind, expand_handle, settle_eq]
  refine bind_congr fun handling => bind_congr fun settlement => ?_
  obtain ⟨settles, result⟩ := settlement
  cases result with
  | ok u => rfl
  | error e =>
    by_cases h : e.isStatusMismatch
    · simp only [h, if_true, expand_bind, expand_note, expand_pure]
    · simp only [h, Bool.false_eq_true, if_false, expand_bind, expand_note, expand_pure]

theorem processAll_eq (settled : Nat) (ids : List ItemId) :
    (w.processAllDuty settled ids).mapRequests w.expand = (w.processAll settled ids).run := by
  induction ids generalizing settled with
  | nil => rfl
  | cons id rest ih =>
    simp only [processAllDuty, processAll, expand_bind, expand_stopping, ExceptT.run_bind_lift]
    refine bind_congr fun told => ?_
    cases told with
    | true =>
      simp only [if_true, expand_bind, expand_note, expand_cancelItems, Operation.note]
      refine bind_congr fun _ => bind_congr fun result => ?_
      cases result <;> rfl
    | false =>
      simp only [Bool.false_eq_true, if_false, expand_bind, process_eq, ih, ExceptT.run_bind_lift]

theorem pollOnce_eq : w.pollOnceDuty.mapRequests w.expand = w.pollOnce.run := by
  simp only [pollOnceDuty, pollOnce, expand_bind, expand_call, Call.program]
  refine (bind_assoc (Queue.readItems w.readLimit).run _ _).trans (bind_congr fun result => ?_)
  cases result with
  | ok ids => exact w.processAll_eq 0 ids
  | error e => rfl

theorem turn_eq : w.duty.mapRequests w.expand = w.turn := by
  simp only [duty, turn, expand_bind, expand_stopping]
  refine bind_congr fun told => ?_
  cases told with
  | true => simp only [if_true, expand_bind, expand_note, expand_pure]
  | false =>
    simp only [Bool.false_eq_true, if_false, expand_bind, pollOnce_eq]
    refine bind_congr fun result => ?_
    rcases result with e | (_ | settled)
    · simp only [expand_bind, expand_note, expand_pure]
    · rfl
    · simp only [expand_bind, expand_note, expand_pure]

theorem start_eq : w.startDuty.mapRequests w.expand = w.start := by
  simp only [startDuty, start, expand_bind, expand_note, turn_eq]

end Expand

end Worker

/-- The items that a call takes out of the hands of its caller. -/
def Queue.Call.settled : Call → List ItemId
  | .cancelItems ids => ids
  | .commit _ id | .reject _ id _ => [id]
  | _ => []

/-- The items that a worker has claimed and not settled: one that was handled, and those that it has
not come to. -/
structure Load where
  handled : Option ItemId
  pending : List ItemId

def Load.none : Load := ⟨.none, []⟩

def Load.items (l : Load) : List ItemId := l.handled.toList ++ l.pending

def claimed : Except QueueError Reply → List ItemId
  | .ok r => r.items
  | .error _ => []

/-- A program that begins with the items of one load and ends with those of another. -/
inductive Carries (limit : UInt32) {α : Type} : Load → Duty α → Load → Prop
  | done {l a} : Carries limit l (.done a) l
  | stopping {l l' next} (h : ∀ told, Carries limit l (next told) l') :
    Carries limit l (.ask DutyRequest.stopping next) l'
  | note {l l' n next} (h : Carries limit l (next ()) l') :
    Carries limit l (.ask (DutyRequest.note n) next) l'
  | read {l' next} (h : ∀ result, Carries limit ⟨none, claimed result⟩ (next result) l') :
    Carries limit .none (.ask (DutyRequest.call (.readItems limit)) next) l'
  | handle {id rest l' next} (h : ∀ handling, Carries limit ⟨some id, rest⟩ (next handling) l') :
    Carries limit ⟨none, id :: rest⟩ (.ask (DutyRequest.handle id) next) l'
  | settle {id rest c l' next} (hc : c.settled = [id])
    (h : ∀ result, Carries limit ⟨none, rest⟩ (next result) l') :
    Carries limit ⟨some id, rest⟩ (.ask (DutyRequest.call c) next) l'
  | handBack {ids l' next} (h : ∀ result, Carries limit .none (next result) l') :
    Carries limit ⟨none, ids⟩ (.ask (DutyRequest.call (.cancelItems ids)) next) l'

namespace Carries

variable {limit : UInt32} {α β : Type} {l l' l'' : Load}

theorem bind {d : Duty α} {f : α → Duty β} (h : Carries limit l d l')
    (hf : ∀ a, Carries limit l' (f a) l'') : Carries limit l (d >>= f) l'' := by
  induction h with
  | done => exact hf _
  | stopping _ ih => exact .stopping fun told => ih told hf
  | note _ ih => exact .note (ih hf)
  | read _ ih => exact .read fun result => ih result hf
  | handle _ ih => exact .handle fun handling => ih handling hf
  | settle hc _ ih => exact .settle hc fun result => ih result hf
  | handBack _ ih => exact .handBack fun result => ih result hf

theorem notice (n : Notice) : Carries limit l (Duty.note n) l := .note .done

theorem perform {id : ItemId} {rest : List ItemId} {c : Call} (hc : c.settled = [id]) :
    Carries limit ⟨some id, rest⟩ (Duty.perform c) ⟨none, rest⟩ := .settle hc fun _ => .done

end Carries

namespace Worker

variable {X : Effects} (w : Worker X) {limit : UInt32}

theorem carries_settle (id : ItemId) (rest : List ItemId) (handling : Handling) :
    Carries limit ⟨some id, rest⟩ (w.settleDuty id handling) ⟨none, rest⟩ := by
  cases handling with
  | succeeded => exact (Carries.perform rfl).bind fun _ => .done
  | stopped e =>
    cases e with
    | notStarted reason =>
      exact (Carries.notice _).bind fun _ => (Carries.perform rfl).bind fun _ => .done
    | failed cause =>
      exact (Carries.notice _).bind fun _ => (Carries.perform rfl).bind fun _ => .done
  | timedOut => exact (Carries.notice _).bind fun _ => (Carries.perform rfl).bind fun _ => .done

theorem carries_process (id : ItemId) (rest : List ItemId) :
    Carries limit ⟨none, id :: rest⟩ (w.processDuty id) ⟨none, rest⟩ := by
  refine .handle fun handling => ?_
  refine (w.carries_settle id rest handling).bind fun settlement => ?_
  obtain ⟨settles, result⟩ := settlement
  cases result with
  | ok u => exact .done
  | error e =>
    dsimp only
    split
    · exact (Carries.notice _).bind fun _ => .done
    · exact (Carries.notice _).bind fun _ => .done

theorem carries_processAll (settled : Nat) (ids : List ItemId) :
    Carries limit ⟨none, ids⟩ (w.processAllDuty settled ids) .none := by
  induction ids generalizing settled with
  | nil => exact .done
  | cons id rest ih =>
    refine .stopping fun told => ?_
    cases told with
    | true => exact (Carries.notice _).bind fun _ => .handBack fun _ => .done
    | false => exact (w.carries_process id rest).bind fun done => ih _

theorem carries_pollOnce : Carries w.readLimit .none w.pollOnceDuty .none := by
  refine .read fun result => ?_
  cases result with
  | ok r => exact w.carries_processAll 0 r.items
  | error e => exact .done

theorem carries_duty : Carries w.readLimit .none w.duty .none := by
  refine .stopping fun told => ?_
  cases told with
  | true => exact (Carries.notice _).bind fun _ => .done
  | false =>
    refine w.carries_pollOnce.bind fun result => ?_
    rcases result with e | (_ | settled)
    · exact (Carries.notice _).bind fun _ => .done
    · exact .done
    · exact (Carries.notice _).bind fun _ => .done

theorem carries_startDuty : Carries w.readLimit .none w.startDuty .none := .note w.carries_duty

end Worker

end WorkQueue
