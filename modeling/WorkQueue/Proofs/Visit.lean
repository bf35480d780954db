import WorkQueue.Proofs.Cell
import WorkQueue.Proofs.Duty

namespace WorkQueue

open Queue Memory

theorem Program.run_mapRequests {E F : Effects} {α σ : Type}
    (answer : (r : F.Request) → σ → F.Answer r × σ)
    (f : (r : E.Request) → Program F (E.Answer r)) (p : Program E α) (s : σ) :
    (p.mapRequests f).run answer s = p.run (fun r => (f r).run answer) s := by
  induction p generalizing s with
  | done a => rfl
  | ask r next ih =>
    rw [mapRequests, run_bind, ih]
    rfl

abbrev Serves (σ : Type) := (r : DutyRequest) → σ → r.Answer × σ

namespace Duty

variable {α β σ : Type} (serve : Serves σ)

def run (d : Duty α) (s : σ) : α × σ := Program.run (E := dutyEffects) serve d s

def trace (d : Duty α) (s : σ) : List (Exchange dutyEffects) :=
  Program.trace (E := dutyEffects) serve d s

theorem run_bind (d : Duty α) (f : α → Duty β) (s : σ) :
    run serve (d >>= f) s = run serve (f (run serve d s).1) (run serve d s).2 :=
  Program.run_bind (E := dutyEffects) serve d f s

theorem trace_bind (d : Duty α) (f : α → Duty β) (s : σ) :
    trace serve (d >>= f) s =
      trace serve d s ++ trace serve (f (run serve d s).1) (run serve d s).2 :=
  Program.trace_bind (E := dutyEffects) serve d f s

theorem asked {r : DutyRequest} {answer : r.Answer} {s s' : σ} (h : serve r s = (answer, s'))
    (f : r.Answer → Duty α) :
    run serve ((.ask r .done : Duty r.Answer) >>= f) s = run serve (f answer) s' ∧
      trace serve ((.ask r .done : Duty r.Answer) >>= f) s =
        ⟨r, answer⟩ :: trace serve (f answer) s' := by
  have hrun : run serve ((.ask r .done : Duty r.Answer) >>= f) s =
      run serve (f (serve r s).1) (serve r s).2 := rfl
  have htrace : trace serve ((.ask r .done : Duty r.Answer) >>= f) s =
      ⟨r, (serve r s).1⟩ :: trace serve (f (serve r s).1) (serve r s).2 := rfl
  rw [hrun, htrace, h]
  exact ⟨rfl, rfl⟩

end Duty

def DutyRequest.matters : DutyRequest → Bool
  | note _ => false
  | _ => true

structure Visit where
  id : ItemId
  handling : Handling
  result : Except QueueError Reply

def Handling.counts : Handling → Bool
  | .stopped (.notStarted _) => false
  | _ => true

def Visit.counts (v : Visit) : Bool := v.handling.counts && v.result.isOk

namespace Worker

variable {X : Effects} {σ : Type} (w : Worker X)

def serve (answer : Answers X σ) : Serves σ := fun r => (w.expand r).run answer

theorem exec_pollOnce (answer : Answers X σ) (s : σ) :
    w.pollOnce.exec answer s = w.pollOnceDuty.run (w.serve answer) s := by
  rw [Operation.exec, ← w.pollOnce_eq]
  exact Program.run_mapRequests _ _ _ _

def closing (id : ItemId) : Bool × Except QueueError Unit → Duty Bool
  | (settles, .ok ()) => return settles
  | (_, .error e) => do
    if e.isStatusMismatch then Duty.note (.itemReclaimed id)
    else Duty.note (.settlementFailed id e)
    return false

theorem processDuty_eq (id : ItemId) :
    w.processDuty id =
      Duty.handle id >>= fun handling => w.settleDuty id handling >>= closing id := by
  refine congrArg (Duty.handle id >>= ·) (funext fun handling => ?_)
  refine congrArg (w.settleDuty id handling >>= ·) (funext fun settlement => ?_)
  obtain ⟨settles, e | _⟩ := settlement <;> rfl

theorem run_processDuty (serve : Serves σ) (id : ItemId) (s : σ) :
    (w.processDuty id).run serve s =
      let handled : Handling × σ := serve (.handle id) s
      let settled := (w.settleDuty id handled.1).run serve handled.2
      (closing id settled.1).run serve settled.2 := by
  rw [processDuty_eq, Duty.run_bind, Duty.run_bind]
  rfl

theorem trace_processDuty (serve : Serves σ) (id : ItemId) (s : σ) :
    (w.processDuty id).trace serve s =
      let handled : Handling × σ := serve (.handle id) s
      let settled := (w.settleDuty id handled.1).run serve handled.2
      ⟨.handle id, handled.1⟩ :: ((w.settleDuty id handled.1).trace serve handled.2 ++
        (closing id settled.1).trace serve settled.2) := by
  rw [processDuty_eq, Duty.trace_bind, Duty.trace_bind]
  rfl

section Loop

variable (serve : Serves σ) (settled : Nat) (id : ItemId) (rest : List ItemId) (s : σ)

def handBack (settled : Nat) (ids : List ItemId) : Duty (Except QueueError Nat) := do
  Duty.note (.batchReturned w.index ids.length)
  return (← Duty.perform (.cancelItems ids)).map fun _ => settled

theorem pollOnceDuty_read {serve : Serves σ} {s s' : σ} {ids : List ItemId}
    (h : (serve (.call (.readItems w.readLimit)) s : Except QueueError Reply × σ) =
      (.ok (.ids ids), s')) :
    w.pollOnceDuty.run serve s = (w.processAllDuty 0 ids).run serve s' ∧
      w.pollOnceDuty.trace serve s =
        ⟨.call (.readItems w.readLimit), .ok (.ids ids)⟩ ::
          (w.processAllDuty 0 ids).trace serve s' :=
  Duty.asked serve h _

theorem processAllDuty_cons : w.processAllDuty settled (id :: rest) = Duty.stopping >>= fun told =>
    if told then w.handBack settled (id :: rest)
    else w.processDuty id >>= fun done =>
      w.processAllDuty (if done then settled + 1 else settled) rest := rfl

variable {serve s} {s' : σ}

theorem processAllDuty_told (h : (serve .stopping s : Bool × σ) = (true, s')) :
    (w.processAllDuty settled (id :: rest)).run serve s =
        (w.handBack settled (id :: rest)).run serve s' ∧
      (w.processAllDuty settled (id :: rest)).trace serve s =
        ⟨.stopping, true⟩ :: (w.handBack settled (id :: rest)).trace serve s' := by
  rw [processAllDuty_cons]
  exact Duty.asked serve h _

theorem processAllDuty_untold (h : (serve .stopping s : Bool × σ) = (false, s')) :
    let processed := (w.processDuty id).run serve s'
    let settled' := if processed.1 then settled + 1 else settled
    (w.processAllDuty settled (id :: rest)).run serve s =
        (w.processAllDuty settled' rest).run serve processed.2 ∧
      (w.processAllDuty settled (id :: rest)).trace serve s =
        ⟨.stopping, false⟩ :: ((w.processDuty id).trace serve s' ++
          (w.processAllDuty settled' rest).trace serve processed.2) := by
  intro processed settled'
  rw [processAllDuty_cons]
  obtain ⟨hrun, htrace⟩ := Duty.asked serve h fun told : Bool =>
    if told then w.handBack settled (id :: rest)
    else w.processDuty id >>= fun done =>
      w.processAllDuty (if done then settled + 1 else settled) rest
  exact ⟨hrun.trans (Duty.run_bind serve _ _ s'),
    htrace.trans (congrArg (_ :: ·) (Duty.trace_bind serve _ _ s'))⟩

end Loop

def cause? : Handling → Option String
  | .stopped (.failed cause) => some cause.message
  | .timedOut => some (timeoutMessage w.config.handleTimeout)
  | _ => none

def settling (id : ItemId) : Handling → Call
  | .succeeded => .commit w.archives id
  | .stopped (.notStarted _) => .cancelItems [id]
  | .stopped (.failed cause) => .reject w.archives id cause.message
  | .timedOut => .reject w.archives id (timeoutMessage w.config.handleTimeout)

def visitSteps (v : Visit) : List (Exchange dutyEffects) :=
  [⟨.stopping, false⟩, ⟨.handle v.id, v.handling⟩, ⟨.call (w.settling v.id v.handling), v.result⟩]

/-- What became of an item that was ready `before` it was claimed: `after` is what the tables hold
of it once it was handled and the call that settles it was answered with `result`. -/
inductive Accounted (before : Cell) : Handling → Except QueueError Reply → Cell → Prop
  | committed (time) : Accounted before .succeeded (.ok .done) (before.commit w.archives time)
  | unsettled (e since) : Accounted before .succeeded (.error e)
      { before with row := some ⟨.processing, before.attempts, since⟩ }
  | notStarted (reason time) : Accounted before (.stopped (.notStarted reason)) (.ok .done)
      { before with row := some ⟨.ready, before.attempts, time⟩ }
  | rejected {handling cause} (hcause : w.cause? handling = some cause) (time) :
    Accounted before handling (.ok .done)
      { before with
        row := some ⟨.retry, before.attempts - 1, time⟩
        entries := if w.archives.broken then some (before.entries.getD [] ++ [⟨cause, time⟩])
          else before.entries }

/-- How a worker goes through the batch `ids`: the items that it visits, what it asks for, and what
becomes of what the tables hold of the items. -/
structure Account (ids : List ItemId) (visits : List Visit) (steps : List (Exchange dutyEffects))
    (before after : ItemId → Cell) : Prop where
  visited : visits.map (·.id) = ids.take visits.length
  steps : steps.filter (·.1.matters) = visits.flatMap w.visitSteps ++
    if visits.length < ids.length then
      [⟨.stopping, true⟩, ⟨.call (.cancelItems (ids.drop visits.length)), .ok .done⟩]
    else []
  settled : ∀ v ∈ visits, w.Accounted (before v.id) v.handling v.result (after v.id)
  returned : ∀ id ∈ ids.drop visits.length, ∃ time,
    after id = { before id with row := some ⟨.ready, (before id).attempts, time⟩ }

namespace Account

variable {w} {ids : List ItemId} {visits : List Visit} {steps : List (Exchange dutyEffects)}
  {before after : ItemId → Cell}

theorem nil : w.Account [] [] [] before after where
  visited := rfl
  steps := rfl
  settled := nofun
  returned := nofun

theorem stopped (hne : ids ≠ []) (hsteps : steps.filter (·.1.matters) =
      [⟨.stopping, true⟩, ⟨.call (.cancelItems ids), .ok .done⟩])
    (hreturned : ∀ id ∈ ids, ∃ time,
      after id = { before id with row := some ⟨.ready, (before id).attempts, time⟩ }) :
    w.Account ids [] steps before after where
  visited := rfl
  steps := hsteps.trans (if_pos (List.length_pos_iff.2 hne)).symm
  settled := nofun
  returned := hreturned

theorem cons {v : Visit} {rest : List ItemId} {first : List (Exchange dutyEffects)}
    (hfirst : first.filter (·.1.matters) = w.visitSteps v)
    (hsettled : w.Accounted (before v.id) v.handling v.result (after v.id))
    (h : w.Account rest visits steps before after) :
    w.Account (v.id :: rest) (v :: visits) (first ++ steps) before after where
  visited := congrArg (v.id :: ·) h.visited
  steps := by
    rw [List.filter_append, hfirst, h.steps, List.flatMap_cons, List.append_assoc]
    simp only [List.length_cons, Nat.add_lt_add_iff_right]
    rfl
  settled := List.forall_mem_cons.2 ⟨hsettled, h.settled⟩
  returned := h.returned

end Account

end Worker

end WorkQueue
