import WorkQueue.Proofs.History

/-!
Rows and the present. However an application takes part, a row that is not ready carries the time of
a unit of work that was open before, so a clock that never goes back has passed it.
-/

namespace WorkQueue.Memory

open Queue

inductive Performs : UnitOfWork → UnitOfWork → Prop
  | done {u} : Performs u u
  | call {u v} (c : StoreCall) (h : Performs (u.perform c).2 v) : Performs u v

theorem Performs.now {u v : UnitOfWork} (h : Performs u v) : v.now = u.now := by
  induction h with
  | done => rfl
  | call c _ ih => exact ih.trans (UnitOfWork.perform_now _ c)

namespace Collaborator

variable {X : Effects} {answer : (r : X.Request) → Backend → X.Answer r × Backend}

theorem run_hook_performs (hanswer : ∀ r b, (answer r b).2.engine = b.engine) (hook : Hook X)
    {b : Backend} {u : UnitOfWork} (hb : b.engine = .busy u) :
    ∃ v, (hook.run (Backend.answer answer) b).2.engine = .busy v ∧
      (∀ t, u.Undoes t → v.Undoes t) ∧ Performs u v := by
  induction hook generalizing b u with
  | done result => exact ⟨u, hb, fun _ => id, .done⟩
  | ask r next ih =>
    cases r with
    | store c =>
      obtain ⟨v, hv, hundo, hperforms⟩ := ih _ (perform_busy hb c).2
      exact ⟨v, hv, fun t ht => hundo t (ht.perform c), .call c hperforms⟩
    | app r => exact ih _ ((hanswer r b).trans hb)

def performing (hanswer : ∀ r b, (answer r b).2.engine = b.engine) (hook : Hook X) :
    Collaborator Performs where
  hook := hook.run (Backend.answer answer)
  purge ids b := b.perform (.purge ids)
  hook_unit := run_hook_performs hanswer hook
  purge_unit _ _ _ hb := ⟨_, (perform_busy hb _).2, fun _ => id, .done⟩

def making (calls : List StoreCall) : Collaborator Performs :=
  @performing hookCall (fun _ b => (.ok (), b)) (fun _ _ => rfl)
    (calls.foldr (fun c hook => .ask (HookRequest.store c) fun _ => hook) (.done (.ok ())))

end Collaborator

/-- No row but a ready one carries a time after `now`. -/
def Timely (now : Instant) (t : Tables) : Prop :=
  ∀ id row, t.items.get? id = some row → row.status ≠ .ready → row.time ≤ now

section Timely

variable {now now' : Instant} {t t' : Tables} {u v : UnitOfWork}

theorem Timely.mono (h : Timely now t) (hle : now ≤ now') : Timely now' t :=
  fun id row hrow hstatus => Int.le_trans (h id row hrow hstatus) hle

theorem Timely.congr (h : Timely now t) (hitems : t'.items = t.items) : Timely now t' := by
  intro id row hrow
  rw [hitems] at hrow
  exact h id row hrow

theorem Timely.putItem {id : ItemId} {row : Row} (h : Timely now u.tables)
    (hrow : row.status ≠ .ready → row.time ≤ now) : Timely now (u.putItem id row).tables := by
  intro k other hother hstatus
  simp only [UnitOfWork.putItem, Table.get?_put] at hother
  split at hother
  · cases hother
    exact hrow hstatus
  · exact h k other hother hstatus

theorem Timely.removeItem (h : Timely now u.tables) (id : ItemId) :
    Timely now (u.removeItem id).tables := by
  intro k other hother hstatus
  simp only [UnitOfWork.removeItem, Table.get?_erase] at hother
  split at hother
  · cases hother
  · exact h k other hother hstatus

theorem Timely.transitionAll (h : Timely u.now u.tables) (target : Status) (ids : List ItemId) :
    Timely u.now (u.transitionAll target ids).tables := by
  intro id row hrow hstatus
  rw [UnitOfWork.get?_transitionAll] at hrow
  split at hrow
  · obtain ⟨before, -, rfl⟩ := Option.map_eq_some_iff.1 hrow
    exact Int.le_refl _
  · exact h id row hrow hstatus

theorem Timely.insertRows (h : Timely u.now u.tables) (items : List Item) :
    Timely u.now (u.insertRows items).2.tables := by
  induction items generalizing u with
  | nil => exact h
  | cons item rest ih =>
    simp only [UnitOfWork.insertRows]
    split
    · exact h
    · exact ih (h.putItem fun hready => absurd rfl hready)

theorem Timely.perform (h : Timely u.now u.tables) (c : StoreCall) :
    Timely u.now (u.perform c).2.tables := by
  cases c with
  | insert items =>
    simp only [UnitOfWork.perform, UnitOfWork.insert]
    split
    · exact h
    · exact h.insertRows items
  | claim limit => exact h.transitionAll _ _
  | release ids => exact h.transitionAll _ _
  | delete id status =>
    simp only [UnitOfWork.perform, UnitOfWork.delete]
    split
    · exact h.removeItem id
    · exact h
  | demote id =>
    simp only [UnitOfWork.perform, UnitOfWork.demote]
    split
    · split
      · exact h.putItem fun _ => Int.le_refl _
      · exact h
    · exact h
  | recover timeout limit =>
    simp only [UnitOfWork.perform, UnitOfWork.recover]
    split
    · exact h
    · exact h.transitionAll _ _
  | requeue delay limit =>
    simp only [UnitOfWork.perform, UnitOfWork.requeue]
    split
    · exact h
    · exact h.transitionAll _ _
  | discard limit =>
    intro id row hrow hstatus
    simp only [UnitOfWork.perform, UnitOfWork.discard, Prod.map, id_eq] at hrow
    rw [UnitOfWork.get?_foldl_removeItem] at hrow
    split at hrow
    · cases hrow
    · exact h id row hrow hstatus
  | complete id =>
    simp only [UnitOfWork.perform, UnitOfWork.complete]
    split
    · exact h
    · exact h.congr rfl
  | expireCompleted expiry limit =>
    simp only [UnitOfWork.perform, UnitOfWork.expireCompleted]
    split
    · exact h
    · exact h.congr (UnitOfWork.foldl_removeCompleted_items _ _)
  | recordFailures rows => exact h.congr (u.recordFailures_items rows)
  | expireBroken expiry limit =>
    simp only [UnitOfWork.perform, UnitOfWork.expireBroken]
    split
    · exact h
    · exact h.congr (UnitOfWork.foldl_removeBroken_items _ _)
  | purge ids => exact h

theorem Performs.timely (h : Performs u v) (hu : Timely u.now u.tables) :
    Timely v.now v.tables := by
  induction h with
  | done => exact hu
  | @call u v c _ ih =>
    apply ih
    rw [u.perform_now c]
    exact hu.perform c

theorem Beside.performs {step : Bool} (h : Beside Performs step u v) : Performs u v := by
  cases h with
  | alone => exact .done
  | step _ h => exact h

theorem Works.timely {c : Call} {r : Reply} (h : Works u c r v) (hu : Timely u.now u.tables) :
    Timely u.now v.tables := by
  intro id row hrow hstatus
  have hchange := h.change id
  rw [hrow] at hchange
  generalize hbefore : u.tables.items.get? id = before at hchange
  cases hchange with
  | same => exact hu id row hbefore hstatus
  | inserted _ _ _ => exact absurd rfl hstatus
  | _ => exact Int.le_refl _

theorem recordFailures_now (u : UnitOfWork) (rows : List Failure) :
    (u.recordFailures rows).now = u.now := u.perform_now (.recordFailures rows)

theorem now_of_recorded {p : Prop} [Decidable p] {rows : List Failure}
    (h : v = if p then u.recordFailures rows else u) : v.now = u.now := by
  rw [h]
  split
  · exact recordFailures_now u rows
  · rfl

theorem Works.now_eq {c : Call} {r : Reply} (h : Works u c r v) : v.now = u.now := by
  cases h with
  | @append item _ h => exact (congrArg (·.2.now) h).symm.trans (u.perform_now (.insert [item]))
  | @appends items _ h => exact (congrArg (·.2.now) h).symm.trans (u.perform_now (.insert items))
  | readItems => exact u.transitionAll_now _ _
  | cancelItems => exact u.transitionAll_now _ _
  | commit _ hv =>
    split at hv
    · rw [(UnitOfWork.complete_ok hv).2]
      rfl
    · rw [hv]
      rfl
  | @reject archives id _ _ hv => exact (now_of_recorded hv).trans (u.perform_now (.demote id))
  | recoverTimedOut h hv =>
    rw [now_of_recorded hv, (UnitOfWork.recover_ok h).1, UnitOfWork.transitionAll_now]
  | requeue h => rw [(UnitOfWork.requeue_ok h).1, UnitOfWork.transitionAll_now]
  | @removeExhausted limit => exact u.perform_now (.discard limit)
  | @removeCompleted _ r limit _ _ h =>
    exact (congrArg (·.2.now) h).symm.trans (u.perform_now (.expireCompleted r.completedExpiry limit))
  | @removeBroken _ r limit _ _ h =>
    exact (congrArg (·.2.now) h).symm.trans (u.perform_now (.expireBroken r.brokenExpiry limit))

theorem Outcome.timely {c : Call} {result : Except QueueError Reply} {events : List Event}
    (h : Outcome Performs now t c result events t') (ht : Timely now t) : Timely now t' := by
  cases h with
  | failed => exact ht
  | spared _ _ => exact ht
  | @worked u v w r _ before works after =>
    have hu : Timely u.now u.tables := before.performs.timely (u := .begin t now) ht
    have hv : Timely v.now v.tables := works.now_eq.symm ▸ works.timely hu
    have hnow : w.now = now :=
      (after.performs.now.trans works.now_eq).trans before.performs.now
    exact hnow ▸ after.performs.timely hv

end Timely

namespace Backend

variable {b : Backend}

theorem timely_start (now t : Instant) : Timely now (start t).tables := by
  intro id row hrow
  cases (row?_start t id).symm.trans hrow

/-- A run in which the clock never goes back. -/
def Onward {S : UnitOfWork → UnitOfWork → Prop} (b : Backend) : List (Act S) → Prop
  | [] => True
  | a :: acts => b.clock.now ≤ (b.act a).clock.now ∧ (b.act a).Onward acts

instance Onward.decidable {S : UnitOfWork → UnitOfWork → Prop} (b : Backend) :
    (acts : List (Act S)) → Decidable (b.Onward acts)
  | [] => inferInstanceAs (Decidable True)
  | a :: acts =>
    have := Onward.decidable (b.act a) acts
    inferInstanceAs (Decidable (_ ∧ _))

theorem Free.timely_act (h : b.Free) (ht : Timely b.clock.now b.tables) {a : Act Performs}
    (hclock : b.clock.now ≤ (b.act a).clock.now) :
    Timely (b.act a).clock.now (b.act a).tables := by
  cases a with
  | clock k => exact ht.mono hclock
  | call g c => exact ((h.outcome g c).2.timely ht).mono hclock

theorem Onward.timely {acts : List (Act Performs)} (honward : b.Onward acts) (h : b.Free)
    (ht : Timely b.clock.now b.tables) :
    Timely (b.play acts).clock.now (b.play acts).tables := by
  induction acts generalizing b with
  | nil => exact ht
  | cons a acts ih => exact ih honward.2 (h.act a) (h.timely_act ht honward.1)

end Backend

end WorkQueue.Memory
