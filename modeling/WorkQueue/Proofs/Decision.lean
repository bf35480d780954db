import WorkQueue.Proofs.Settlement
import WorkQueue.Proofs.Sweep

namespace WorkQueue.Memory

open Queue Operation

namespace Tables

def Archived (t : Tables) (archives : Archives) (id : ItemId) : Prop :=
  archives.completed = true ∧ t.completed.contains id = true

def settle (t : Tables) (archives : Archives) (id : ItemId) (now : Instant) : Tables where
  items := t.items.erase id
  completed := if archives.completed then t.completed.put id now else t.completed
  broken := t.broken

end Tables

/-- How a commit that began at `now` on the tables `before` ends with `result` and the tables
`after`, by how its hook ended and what it left of the tables. -/
structure Decides (archives : Archives) (id : ItemId) (now : Instant) (before : Tables)
    (hooked : Except Cause Unit) (left : Tables) (result : Except QueueError Unit)
    (after : Tables) : Prop where
  zero : result = .error (.invalidInput .zeroId) ↔ id.isZero = true
  hook : id.isZero = false →
    ∀ cause, result = .error (.preCommit (.item id) cause) ↔ hooked = .error cause
  status : id.isZero = false → hooked = .ok () →
    (result = .error (.statusMismatch (.item id) .processing) ↔
      left.status? id ≠ some .processing)
  archive : id.isZero = false → hooked = .ok () → left.status? id = some .processing →
    (result = .error (.storage (.item id) (.duplicateCompleted id)) ↔ left.Archived archives id)
  done : id.isZero = false → hooked = .ok () → left.status? id = some .processing →
    (result = .ok () ↔ ¬left.Archived archives id)
  settled : result = .ok () → after = left.settle archives id now
  kept : ∀ e, result = .error e → after = before

namespace Decides

variable {archives : Archives} {id : ItemId} {now : Instant} {before left : Tables}

theorem of_zero {hooked : Except Cause Unit} (hid : id.isZero = true) :
    Decides archives id now before hooked left (.error (.invalidInput .zeroId)) before := by
  constructor <;> simp [hid]

theorem of_hook {cause : Cause} (hid : id.isZero = false) :
    Decides archives id now before (.error cause) left (.error (.preCommit (.item id) cause))
      before := by
  constructor <;> simp [hid]

theorem of_status (hid : id.isZero = false) (hstatus : left.status? id ≠ some .processing) :
    Decides archives id now before (.ok ()) left
      (.error (.statusMismatch (.item id) .processing)) before := by
  constructor <;> simp [hid, hstatus]

theorem of_archive (hid : id.isZero = false) (hstatus : left.status? id = some .processing)
    (harchived : left.Archived archives id) :
    Decides archives id now before (.ok ()) left
      (.error (.storage (.item id) (.duplicateCompleted id))) before := by
  constructor <;> simp [hid, hstatus, harchived]

theorem of_done (hid : id.isZero = false) (hstatus : left.status? id = some .processing)
    (hfree : ¬left.Archived archives id) :
    Decides archives id now before (.ok ()) left (.ok ()) (left.settle archives id now) := by
  constructor <;> simp [hid, hstatus, hfree]

end Decides

section Commit

variable {S : UnitOfWork → UnitOfWork → Prop} {g : Collaborator S} {b hooked : Backend}
  {v : UnitOfWork} {archives : Archives} {id : ItemId}

theorem Collaborator.exec_commitWrites_settled (hhook : g.hook b = (.ok (), hooked))
    (hv : hooked.engine = .busy v) (hstatus : v.tables.status? id = some .processing)
    (hfree : ¬v.tables.Archived archives id) :
    ∃ w, w.tables = v.tables.settle archives id v.now ∧
      (commitWrites archives id .call).exec g.serve b =
        (.ok (), { hooked with engine := .busy w }) := by
  have hdelete : v.perform (.delete id .processing) = (.ok (1 : UInt64), v.removeItem id) := by
    rw [UnitOfWork.perform, UnitOfWork.delete, if_pos hstatus]
    rfl
  have hrest : (commitWrites archives id .call).exec g.serve b =
      (if archives.completed then store (.item id) (.complete id) else pure ()).exec g.serve
        { hooked with engine := .busy (v.removeItem id) } := by
    rw [commitWrites, exec_bind, g.exec_runHook, hhook]
    exact exec_store_ok hv (c := .delete id .processing) rfl hdelete _
  rw [hrest, Tables.settle]
  cases hcompleted : archives.completed with
  | false => exact ⟨v.removeItem id, rfl, rfl⟩
  | true =>
    have hnone : (v.removeItem id).tables.completed.contains id = false := by
      simpa [Tables.Archived, hcompleted, UnitOfWork.removeItem] using hfree
    have hcomplete := serve_store_eq (g := g)
      (b := { hooked with engine := .busy (v.removeItem id) }) rfl (c := .complete id) rfl
    simp only [UnitOfWork.perform, UnitOfWork.complete, hnone] at hcomplete
    refine ⟨(v.removeItem id).putCompleted id v.now, rfl, ?_⟩
    rw [if_pos rfl, exec_store, hcomplete]
    rfl

theorem Backend.Free.run_commit_settled (h : b.Free) (hid : id.isZero = false)
    (hhook : g.hook b.begin.2 = (.ok (), hooked)) (hv : hooked.engine = .busy v)
    (hstatus : v.tables.status? id = some .processing) (hfree : ¬v.tables.Archived archives id) :
    (g.run (.commit archives id) b).1 = .ok .done ∧
      (g.run (.commit archives id) b).2.tables = v.tables.settle archives id v.now := by
  have hfault : (Call.commit archives id).fault? = none := by simp [Call.fault?, hid]
  obtain ⟨w, hw, hwrites⟩ := Collaborator.exec_commitWrites_settled hhook hv hstatus hfree
  have hwork : ((Call.commit archives id).work .call).exec g.serve b.begin.2 =
      (.ok ⟨none, .commit, .id id, .done⟩, { hooked with engine := .busy w }) := by
    rw [Call.work, exec_bind, hwrites]
    rfl
  obtain ⟨hresult, hengine, -⟩ := Collaborator.run_unit h hfault rfl hwork
  exact ⟨hresult, (congrArg Engine.tables hengine).trans hw⟩

theorem Backend.Free.decides (h : b.Free) (g : Collaborator S)
    (hS : ∀ u v, S u v → v.now = u.now) (archives : Archives) (id : ItemId) :
    Decides archives id b.clock.now b.tables (g.hook b.begin.2).1 (g.hook b.begin.2).2.tables
      ((g.run (.commit archives id) b).1.map fun _ => ())
      (g.run (.commit archives id) b).2.tables := by
  cases hid : id.isZero with
  | true =>
    have hrun : g.run (.commit archives id) b = (.error (.invalidInput .zeroId), b) := by
      rw [Collaborator.run, Call.program_eq, Call.fault?, if_pos hid]
      rfl
    rw [hrun]
    exact .of_zero hid
  | false =>
    obtain ⟨v, hv, -, hunit⟩ := g.hook_unit (Collaborator.begin_engine h)
    have hnow : v.now = b.clock.now := hS _ _ hunit
    have hresult := g.run_commit h hid archives
    have hkept := fun {e} => h.outcome_error (g := g) (c := .commit archives id) (e := e)
    generalize hhooked : g.hook b.begin.2 = ended at hv hresult ⊢
    obtain ⟨hookResult, hooked⟩ := ended
    have hleft : hooked.tables = v.tables := congrArg Engine.tables hv
    cases hookResult with
    | error cause =>
      rw [hresult, (hkept hresult).2]
      exact .of_hook hid
    | ok _ =>
      by_cases hstatus : v.tables.status? id = some .processing
      · by_cases hfree : v.tables.Archived archives id
        · rw [← hleft] at hstatus hfree
          have harchived : (archives.completed && hooked.tables.completed.contains id) = true :=
            Bool.and_eq_true_iff.2 hfree
          have hfails : commitAnswer archives id (.ok (), hooked) =
              .error (.storage (.item id) (.duplicateCompleted id)) :=
            (if_neg (not_not_intro hstatus)).trans (if_pos harchived)
          rw [hfails] at hresult
          rw [hresult, (hkept hresult).2]
          exact .of_archive hid hstatus hfree
        · obtain ⟨hdone, htables⟩ := h.run_commit_settled hid hhooked hv hstatus hfree
          rw [hdone, htables, hnow, hleft]
          exact .of_done hid hstatus hfree
      · rw [← hleft] at hstatus
        have hfails : commitAnswer archives id (.ok (), hooked) =
            .error (.statusMismatch (.item id) .processing) := if_pos hstatus
        rw [hfails] at hresult
        rw [hresult, (hkept hresult).2]
        exact .of_status hid hstatus

end Commit

def Collaborator.within {X : Effects} {answer : (r : X.Request) → Backend → X.Answer r × Backend}
    (hanswer : ∀ r b, (answer r b).2.engine = b.engine) (hook : Hook X) :
    Collaborator (Leaves fun _ => ()) :=
  @Collaborator.of X answer Unit (fun _ => ()) hook hanswer fun _ _ => rfl

theorem Collaborator.exec_within {X : Effects}
    {answer : (r : X.Request) → Backend → X.Answer r × Backend}
    (hanswer : ∀ r b, (answer r b).2.engine = b.engine) (hook : Hook X) (c : Call) (b : Backend) :
    (c.program hook).exec (Backend.answer answer) b = (within hanswer hook).run c b :=
  exec_program hanswer (fun _ _ => rfl) c b

/-- A commit is decided by its hook, then by the row as the hook left it, then by the archive as the
hook left it. -/
theorem commit_decides {X : Effects} (answer : (r : X.Request) → Backend → X.Answer r × Backend)
    (hanswer : ∀ r b, (answer r b).2.engine = b.engine) (hook : Hook X) (archives : Archives)
    (id : ItemId) {b : Backend} (hb : b.Free) :
    let hooked := hook.run (Backend.answer answer) b.begin.2
    let ended := (Queue.commit archives id hook).exec (Backend.answer answer) b
    Decides archives id b.clock.now b.tables hooked.1 hooked.2.tables ended.1 ended.2.tables := by
  intro hooked ended
  have hdecides := hb.decides (.within hanswer hook) (fun _ _ h => h.now) archives id
  rw [← Collaborator.exec_within] at hdecides
  have hprogram : ((Call.commit archives id).program hook).exec (Backend.answer answer) b =
      (ended.1.map fun _ => .done, ended.2) :=
    exec_then (Backend.answer answer) (Queue.commit archives id hook) Reply.done b
  rw [hprogram] at hdecides
  have hback : (ended.1.map fun _ => Reply.done).map (fun _ => ()) = ended.1 := by
    cases ended.1 <;> rfl
  rwa [hback] at hdecides

/-- A hook that waits a second and inserts a follow-up. The item is archived with the time at which
its commit began. -/
theorem commit_decides_followUp :
    let X : Effects := ⟨Duration, fun _ => Unit⟩
    let answer := fun (d : Duration) (b : Backend) => ((), { b with clock := b.clock.advance d })
    let hook : Hook X := .ask (.app (Duration.ofSeconds 1)) fun _ =>
      .ask (.store (.insert [⟨⟨2⟩, .zero, 3⟩])) fun _ => .done (.ok ())
    let g : Collaborator LeavesRows := .plain _
    let b := (Backend.start (.clamp 0)).play
      [.call g (.append ⟨⟨1⟩, .zero, 3⟩), .call g (.readItems 10)]
    let hooked := hook.run (Backend.answer answer) b.begin.2
    let ended := (Queue.commit ⟨true, true⟩ ⟨1⟩ hook).exec (Backend.answer answer) b
    b.Free ∧ Decides ⟨true, true⟩ ⟨1⟩ b.clock.now b.tables hooked.1 hooked.2.tables ended.1
        ended.2.tables ∧
      ended.1 = .ok () ∧ ended.2.clock.now = .clamp 1000000000 ∧
      ended.2.tables.completed.rows = [(⟨1⟩, .clamp 0)] ∧
      ended.2.tables.items.rows = [(⟨2⟩, ⟨.ready, 3, .clamp 0⟩)] := by
  intro X answer hook g b hooked ended
  have hb : b.Free := (Backend.Free.start (.clamp 0)).play _
  refine ⟨hb, commit_decides answer (fun _ _ => rfl) hook ⟨true, true⟩ ⟨1⟩ hb, ?_⟩
  decide +kernel

end WorkQueue.Memory
