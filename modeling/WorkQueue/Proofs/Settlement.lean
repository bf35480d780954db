import WorkQueue.Proofs.Run

namespace WorkQueue.Memory

open Queue Operation

theorem complete_answer (u : UnitOfWork) (id : ItemId) : (u.complete id).1 =
    if u.tables.completed.contains id then .error (.duplicateCompleted id) else .ok () := by
  rw [UnitOfWork.complete]
  split <;> rfl

def commitAnswer (archives : Archives) (id : ItemId) :
    Except Cause Unit × Backend → Except QueueError Unit
  | (.error e, _) => .error (.preCommit (.item id) e)
  | (.ok (), b) =>
    if b.status? id ≠ some .processing then .error (.statusMismatch (.item id) .processing)
    else if archives.completed && b.tables.completed.contains id then
      .error (.storage (.item id) (.duplicateCompleted id))
    else .ok ()

theorem commitAnswer_of_ne (archives : Archives) {id : ItemId}
    {hooked : Except Cause Unit × Backend} (h : hooked.2.status? id ≠ some .processing) :
    commitAnswer archives id hooked = .error (match hooked.1 with
      | .error e => .preCommit (.item id) e
      | .ok () => .statusMismatch (.item id) .processing) := by
  obtain ⟨_ | _, b⟩ := hooked
  · rfl
  · exact if_pos h

theorem commitAnswer_of_eq {archives : Archives} {id : ItemId}
    {hooked : Except Cause Unit × Backend} (hok : hooked.1 = .ok ())
    (h : hooked.2.status? id = some .processing)
    (hfree : (archives.completed && hooked.2.tables.completed.contains id) = false) :
    commitAnswer archives id hooked = .ok () := by
  obtain ⟨_, b⟩ := hooked
  cases hok
  simp only [commitAnswer, h, hfree]
  rfl

namespace Collaborator

variable {S : UnitOfWork → UnitOfWork → Prop} (g : Collaborator S) {b : Backend} {t : Tables}
  {u : UnitOfWork} {id : ItemId}

theorem exec_commitWrites (hb : b.engine = .busy u) (archives : Archives) :
    ((commitWrites archives id .call).exec g.serve b).1 =
      commitAnswer archives id (g.hook b) := by
  obtain ⟨v, hv, -, -⟩ := g.hook_unit hb
  rw [commitWrites, exec_bind, g.exec_runHook]
  generalize g.hook b = hooked at hv ⊢
  obtain ⟨e | _, b'⟩ := hooked
  · rfl
  · replace hv : b'.engine = .busy v := hv
    have htables : b'.tables = v.tables := congrArg Engine.tables hv
    obtain ⟨b'', hdelete, hb''⟩ := g.serve_store hv (c := .delete id .processing) rfl
    simp only [commitAnswer, Backend.status?, htables]
    by_cases hstatus : v.tables.status? id = some .processing
    · have hdeleted : v.delete id .processing = (1, v.removeItem id) := if_pos hstatus
      simp only [UnitOfWork.perform, hdeleted, Prod.map, id_eq] at hdelete hb''
      refine (congrArg Prod.fst (exec_store_bind hdelete _)).trans ?_
      rw [if_neg (not_not_intro hstatus)]
      change ((if archives.completed then store (.item id) (.complete id) else pure ()).exec g.serve
        b'').1 = _
      cases archives.completed with
      | false => rfl
      | true =>
        obtain ⟨_, hcomplete, -⟩ := g.serve_store hb'' (c := .complete id) rfl
        rw [if_pos rfl, exec_store, hcomplete]
        simp only [UnitOfWork.perform, complete_answer, UnitOfWork.removeItem, Bool.true_and]
        split <;> rfl
    · have hdeleted : v.delete id .processing = (0, v) := if_neg hstatus
      simp only [UnitOfWork.perform, hdeleted, Prod.map] at hdelete
      refine (congrArg Prod.fst (exec_store_bind hdelete _)).trans ?_
      rw [if_pos hstatus]
      rfl

theorem run_commit (hb : b.engine = .idle t) (hid : id.isZero = false) (archives : Archives) :
    (g.run (.commit archives id) b).1 =
      (commitAnswer archives id (g.hook b.begin.2)).map fun _ => .done := by
  have hfault : (Call.commit archives id).fault? = none := by simp [Call.fault?, hid]
  rw [run_result hb hfault rfl, Call.work, exec_bind_pure, g.exec_commitWrites (begin_engine hb)]
  cases commitAnswer archives id (g.hook b.begin.2) <;> rfl

theorem run_reject (hb : b.engine = .idle t) (hid : id.isZero = false) (archives : Archives)
    (cause : String) : (g.run (.reject archives id cause) b).1 = .ok .done := by
  have hfault : (Call.reject archives id cause).fault? = none := by simp [Call.fault?, hid]
  have hrejected : ∃ demoted b',
      (rejectWrites archives id cause).exec g.serve b.begin.2 = (.ok demoted, b') := by
    obtain ⟨b', hdemote, hb'⟩ := g.serve_store (begin_engine hb) (c := .demote id) rfl
    obtain ⟨b'', hrecord, -⟩ := g.serve_store hb' (c := .recordFailures [⟨id, cause⟩]) rfl
    simp only [UnitOfWork.perform, Prod.map] at hdemote hrecord
    have hfirst : (rejectWrites archives id cause).exec g.serve b.begin.2 = _ :=
      exec_store_bind hdemote _
    rw [hfirst]
    split
    · exact ⟨_, _, exec_store_bind hrecord _⟩
    · exact ⟨_, _, rfl⟩
  obtain ⟨demoted, b', hrejected⟩ := hrejected
  rw [run_result hb hfault rfl, Call.work, exec_bind, hrejected]
  cases demoted <;> rfl

theorem run_cancelItems (hb : b.engine = .idle t) (hid : id.isZero = false) :
    (g.run (.cancelItems [id]) b).1 = .ok .done := by
  have hfault : (Call.cancelItems [id]).fault? = none := by simp [Call.fault?, hid]
  obtain ⟨b', hrelease, -⟩ := g.serve_store (begin_engine hb) (c := .release [id]) rfl
  simp only [UnitOfWork.perform, Prod.map] at hrelease
  have hreleased : ((Call.cancelItems [id]).work .call).exec g.serve b.begin.2 = _ :=
    exec_store_bind hrelease _
  rw [run_result hb hfault rfl, hreleased]
  rfl

end Collaborator

end WorkQueue.Memory
