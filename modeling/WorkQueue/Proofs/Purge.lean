import WorkQueue.Proofs.Deadline
import WorkQueue.Proofs.Location

namespace WorkQueue.Memory

open Queue Operation

/-- What was handed over to be purged so far, with the backend as it was at that moment. -/
abbrev Handed := List (List ItemId × Backend)

def handOver : QueueRequest hookCall → Backend → Handed → Handed
  | .store (.purge ids), b, handed => handed ++ [(ids, b)]
  | _, _, handed => handed

def watch (answer : Answers hookCall Backend) : Answers hookCall (Backend × Handed) :=
  fun r s => ((answer r s.1).1, (answer r s.1).2, handOver r s.1 s.2)

section Watch

variable {α : Type} (answer : Answers hookCall Backend)

theorem exec_watch (op : Operation hookCall α) (s : Backend × Handed) :
    (op.exec (watch answer) s).1 = (op.exec answer s.1).1 ∧
      (op.exec (watch answer) s).2.1 = (op.exec answer s.1).2 := by
  unfold exec
  generalize op.run = p
  induction p generalizing s with
  | done result => exact ⟨rfl, rfl⟩
  | ask r next ih => exact ih _ _

theorem exec_rollback_watch (e : QueueError) (s : Backend × Handed) :
    ((rollback e : Operation hookCall Call.Report).exec (watch answer) s).2.2 = s.2 := by
  rw [exec_rollback]
  have hkept : (watch answer .rollback s).2.2 = s.2 := rfl
  generalize watch answer .rollback s = rolled at hkept
  obtain ⟨_ | _, _⟩ := rolled
  · exact hkept
  · exact hkept

theorem exec_announce_watch (r : Call.Report) (s : Backend × Handed) :
    ((Call.announce r).exec (watch answer) s).2.2 = s.2 := by
  obtain ⟨_ | n, activity, data, reply⟩ := r <;> rfl

theorem exec_inUnit_watch (body : Operation hookCall Call.Report) (s : Backend × Handed) :
    ((inUnit body >>= Call.announce).exec (watch answer) s).2.2 =
      match (answer .begin s.1).1 with
      | .ok () => (body.exec (watch answer) ((answer .begin s.1).2, s.2)).2.2
      | .error _ => s.2 := by
  rw [exec_bind, exec_inUnit]
  have hbegin : watch answer .begin s = ((answer .begin s.1).1, (answer .begin s.1).2, s.2) := rfl
  rw [hbegin]
  cases (answer .begin s.1).1 with
  | error e => rfl
  | ok _ =>
    dsimp only
    generalize body.exec (watch answer) ((answer .begin s.1).2, s.2) = ended
    obtain ⟨e | report, t⟩ := ended
    · have hrolled := exec_rollback_watch answer e t
      dsimp only
      generalize (rollback e : Operation hookCall Call.Report).exec (watch answer) t = rolled
        at hrolled
      obtain ⟨_ | _, _⟩ := rolled
      · exact hrolled
      · exact (exec_announce_watch answer _ _).trans hrolled
    · have hkept : (watch answer .commit t).2.2 = t.2 := rfl
      dsimp only
      generalize watch answer .commit t = committed at hkept
      obtain ⟨_ | _, _⟩ := committed
      · exact hkept
      · exact (exec_announce_watch answer _ _).trans hkept

theorem exec_purge_watch (r : Retention) (ids : List ItemId) (s : Backend × Handed) :
    ((purge r ids).exec (watch answer) s).2.2 =
      if r.purges && !ids.isEmpty then s.2 ++ [(ids, s.1)] else s.2 := by
  rw [purge]
  split
  · have hhanded : (watch answer (.store (.purge ids)) s).2.2 = s.2 ++ [(ids, s.1)] := rfl
    have hexec := exec_bind (watch answer) (store .table (.purge ids))
      (fun rows : UInt64 => note (.purged rows ids.length)) s
    refine (congrArg (fun ended => ended.2.2) hexec).trans ?_
    rw [exec_store]
    generalize watch answer (.store (.purge ids)) s = served at hhanded
    obtain ⟨_ | _, _⟩ := served
    · exact hhanded
    · exact hhanded
  · rfl

theorem mem_exec_purge_watch {r : Retention} {ids : List ItemId} {report : α}
    {s : Backend × Handed} {x : List ItemId × Backend}
    (hx : x ∈ ((purge r ids >>= fun _ => pure report).exec (watch answer) s).2.2) :
    x ∈ s.2 ∨ x = (ids, s.1) := by
  have hpurged := exec_purge_watch answer r ids s
  rw [exec_bind] at hx
  generalize (purge r ids).exec (watch answer) s = ended at hx hpurged
  have hmem : x ∈ ended.2.2 := by
    obtain ⟨_ | _, _⟩ := ended
    · exact hx
    · exact hx
  rw [hpurged] at hmem
  split at hmem
  · simpa using hmem
  · exact .inl hmem

end Watch

namespace Collaborator

variable {S : UnitOfWork → UnitOfWork → Prop} (g : Collaborator S)

def handed (c : Call) (b : Backend) : Handed :=
  ((c.program .call).exec (watch g.serve) (b, [])).2.2

variable {g} {b : Backend} {c : Call}

theorem handed_eq (h : b.Free) (hfault : c.fault? = none) (hidle : c.isIdle = false) :
    g.handed c b = ((c.work .call).exec (watch g.serve) (b.begin.2, [])).2.2 := by
  have hbegin : (g.serve .begin b).1 = .ok () := congrArg Prod.fst (begin_eq h)
  rw [handed, Call.program_eq, hfault, hidle]
  refine (exec_inUnit_watch g.serve (c.work .call) (b, [])).trans ?_
  rw [hbegin]
  rfl

theorem handed_eq_nil (h : c.fault? ≠ none ∨ c.isIdle = true) : g.handed c b = [] := by
  rw [handed, Call.program_eq]
  cases hfault : c.fault? with
  | some e => rfl
  | none =>
    have hidle := h.resolve_left (not_not_intro hfault)
    simp only [Call.guarded, hidle, if_true]
    cases c with
    | _ => rfl

theorem mem_handed_expire {u : UnitOfWork} (hb : b.engine = .busy u) {e : StoreCall}
    (he : isPurge e = false) {r : Retention} {ids : e.Answer → List ItemId}
    {report : e.Answer → Call.Report} {x : List ItemId × Backend}
    (hx : x ∈ ((store .table e >>= fun a => Queue.purge r (ids a) >>= fun _ => pure (report a)).exec
      (watch g.serve) (b, [])).2.2) :
    ∃ a v, u.perform e = (.ok a, v) ∧ x.1 = ids a ∧ x.2.engine = .busy v := by
  obtain ⟨b', hserve, hb'⟩ := g.serve_store hb he
  have hwatch : watch g.serve (.store e) (b, []) = ((u.perform e).1, b', []) := by
    cases e with
    | purge l => cases he
    | _ => exact congrArg (fun z => (z.1, z.2, ([] : Handed))) hserve
  rw [exec_bind, exec_store, hwatch] at hx
  generalize u.perform e = done at hx hb'
  obtain ⟨_ | a, v⟩ := done
  · cases hx
  · rcases mem_exec_purge_watch g.serve hx with hnil | rfl
    · cases hnil
    · exact ⟨a, v, rfl, rfl, hb'⟩

theorem work_of_handed (h : b.Free) {x : List ItemId × Backend} (hx : x ∈ g.handed c b) :
    x ∈ ((c.work .call).exec (watch g.serve) (b.begin.2, [])).2.2 := by
  by_cases hworks : c.fault? = none ∧ c.isIdle = false
  · rwa [handed_eq h hworks.1 hworks.2] at hx
  · rw [handed_eq_nil (by simpa [imp_iff_not_or] using hworks)] at hx
    cases hx

section Expired

variable {archives : Archives} {r : Retention} {limit : UInt32} {ids : List ItemId} {b' : Backend}

theorem handed_removeCompleted (h : b.Free)
    (hmem : (ids, b') ∈ g.handed (.removeCompleted archives r limit) b) :
    b'.tables.items = b.tables.items ∧ ∀ id ∈ ids, ∃ entry,
      b.tables.completed.get? id = some entry ∧
        Expired b.clock.now r.completedExpiry entry := by
  obtain ⟨_, v, hexpired, rfl, hv⟩ := mem_handed_expire (begin_engine h)
    (e := .expireCompleted r.completedExpiry limit) rfl (work_of_handed h hmem)
  obtain ⟨time, htime, hids⟩ := UnitOfWork.expireCompleted_expired hexpired
  have hitems : b'.tables.items = v.tables.items := congrArg (·.tables.items) hv
  rw [hitems, UnitOfWork.expireCompleted_ok hexpired, UnitOfWork.foldl_removeCompleted_items]
  refine ⟨rfl, fun id hid => ?_⟩
  obtain ⟨entry, hentry, hle⟩ := hids id hid
  exact ⟨entry, hentry, .of_deadline htime hle⟩

theorem handed_removeBroken (h : b.Free)
    (hmem : (ids, b') ∈ g.handed (.removeBroken archives r limit) b) :
    b'.tables.items = b.tables.items ∧ ∀ id ∈ ids, b.tables.failures id ≠ [] ∧
      ∀ e ∈ b.tables.failures id, Expired b.clock.now r.brokenExpiry e.time := by
  obtain ⟨_, v, hexpired, rfl, hv⟩ := mem_handed_expire (begin_engine h)
    (e := .expireBroken r.brokenExpiry limit) rfl (work_of_handed h hmem)
  obtain ⟨time, htime, hids⟩ := UnitOfWork.expireBroken_expired hexpired
  have hitems : b'.tables.items = v.tables.items := congrArg (·.tables.items) hv
  rw [hitems, UnitOfWork.expireBroken_ok hexpired, UnitOfWork.foldl_removeBroken_items]
  refine ⟨rfl, fun id hid => ?_⟩
  obtain ⟨hsome, hall⟩ := hids id hid
  exact ⟨hsome, fun e he => .of_deadline htime (hall e he)⟩

end Expired

end Collaborator

def Fails (id : ItemId) (r : Reply) : Call → Prop
  | .reject _ key _ => key = id
  | .recoverTimedOut .. => id ∈ r.items
  | _ => False

section Failures

variable {u v : UnitOfWork} {c : Call} {r : Reply} {id : ItemId} {e : FailureEntry}

theorem mem_failures_of_broken {t t' : Tables} (h : t'.broken = t.broken)
    (he : e ∈ t'.failures id) : e ∈ t.failures id := by
  rw [Tables.failures, h] at he
  exact he

theorem mem_failures_of_recorded {p : Prop} [Decidable p] {w : UnitOfWork} {rows : List Failure}
    (hbroken : w.tables.broken = u.tables.broken) (hnow : w.now = u.now)
    (hv : v = if p then w.recordFailures rows else w) (he : e ∈ v.tables.failures id) :
    e ∈ u.tables.failures id ∨ e.time = u.now ∧ id ∈ rows.map (·.id) := by
  rw [hv] at he
  split at he
  · rcases UnitOfWork.mem_failures_recordFailures he with hbefore | ⟨htime, hid⟩
    · exact .inl (mem_failures_of_broken hbroken hbefore)
    · exact .inr ⟨htime.trans hnow, hid⟩
  · exact .inl (mem_failures_of_broken hbroken he)

def writesFailures : Call → Bool
  | .reject .. | .recoverTimedOut .. | .removeBroken .. => true
  | _ => false

theorem Works.broken_eq (h : Works u c r v) (hc : writesFailures c = false) :
    v.tables.broken = u.tables.broken := by
  cases h with
  | @append item _ h => exact (congrArg (·.2.tables.broken) h).symm.trans (u.insert_broken [item])
  | @appends items _ h => exact (congrArg (·.2.tables.broken) h).symm.trans (u.insert_broken items)
  | readItems => exact u.transitionAll_broken _ _
  | cancelItems => exact u.transitionAll_broken _ _
  | commit _ hv =>
    split at hv
    · rw [(UnitOfWork.complete_ok hv).2]
      rfl
    · rw [hv]
      rfl
  | requeue h => rw [(UnitOfWork.requeue_ok h).1, u.transitionAll_broken]
  | removeExhausted => exact u.foldl_removeItem_broken _
  | removeCompleted h => rw [UnitOfWork.expireCompleted_ok h, u.foldl_removeCompleted_broken]
  | _ => cases hc

theorem Works.failures (h : Works u c r v) (he : e ∈ v.tables.failures id) :
    e ∈ u.tables.failures id ∨ e.time = u.now ∧ Fails id r c := by
  have hworks := h
  cases h with
  | @reject archives key cause _ hv =>
    have hnow := u.perform_now (.demote key)
    refine (mem_failures_of_recorded (u.demote_broken key) hnow hv he).imp_right ?_
    intro ⟨htime, hid⟩
    exact ⟨htime, (List.mem_singleton.1 hid).symm⟩
  | @recoverTimedOut archives w limit ids v' _ h hv =>
    have hmoved := (UnitOfWork.recover_ok h).1
    have hbroken : v'.tables.broken = u.tables.broken := by rw [hmoved, u.transitionAll_broken]
    have hnow : v'.now = u.now := by rw [hmoved, u.transitionAll_now]
    refine (mem_failures_of_recorded hbroken hnow hv he).imp_right ?_
    intro ⟨htime, hid⟩
    have hmem : id ∈ ids := by simpa using hid
    exact ⟨htime, hmem⟩
  | removeBroken h =>
    rw [UnitOfWork.expireBroken_ok h] at he
    exact .inl (UnitOfWork.mem_failures_foldl_removeBroken he)
  | _ => exact .inl (mem_failures_of_broken (hworks.broken_eq rfl) he)

end Failures

theorem Took.failures {now : Instant} {t t' : Tables} {c : Call}
    {result : Except QueueError Reply} {id : ItemId} {e : FailureEntry}
    (h : Took now t c result t') (he : e ∈ t'.failures id) :
    e ∈ t.failures id ∨ e.time = now ∧ ∃ r, result = .ok r ∧ Fails id r c := by
  cases h with
  | failed => exact .inl he
  | spared _ => exact .inl he
  | worked h => exact (h.failures he).imp_right fun ⟨htime, hfails⟩ => ⟨htime, _, rfl, hfails⟩

namespace Backend

variable {b : Backend} {id : ItemId}

theorem Free.exists_failure (h : b.Free) {actions : List Action} {e : FailureEntry}
    (hstart : e ∉ b.tables.failures id) (hend : e ∈ (b.run actions).tables.failures id) :
    ∃ x app c y r, actions = x ++ .call app c :: y ∧ (app.run c (b.run x)).1 = .ok r ∧
      Fails id r c ∧ e.time = (b.run x).clock.now := by
  obtain ⟨x, a, y, rfl, hx, hafter⟩ := exists_step (p := fun b => e ∉ b.tables.failures id) hstart
    (not_not_intro hend)
  cases a with
  | clock k => exact absurd hx hafter
  | call app c =>
    have htook := ((h.run x).took app c).2
    rcases htook.failures (not_not.1 hafter) with hbefore | ⟨htime, r, hr, hfails⟩
    · exact absurd hbefore hx
    · exact ⟨x, app, c, y, r, rfl, hr, hfails, htime⟩

end Backend

theorem apart_start (t : Instant) : (Backend.start t).tables.Apart := fun _ _ => rfl

theorem Tables.Apart.status?_eq_none {t : Tables} (h : t.Apart) {id : ItemId} {entry : Instant}
    (hentry : t.completed.get? id = some entry) : t.status? id = none := by
  have hcompleted := Table.contains_iff.2 ⟨entry, hentry⟩
  cases hrow : t.items.get? id with
  | none => simp [Tables.status?, hrow]
  | some row =>
    have hout := h id (Table.contains_iff.2 ⟨row, hrow⟩)
    exact absurd hcompleted (Bool.eq_false_iff.1 hout)

/-- No row of the queue has changed when something is handed over to be purged. Completed items that
are handed over are expired, and none of them is active unless one in the archive was appended
again. Items that are handed over for their failures have some, all of them expired and each
recorded by a call of the run at its time; such an item may well be active. -/
theorem purge_expired (t : Instant) (actions : List Action) (app : Application)
    (archives : Archives) (r : Retention) (limit : UInt32) :
    let b := (Backend.start t).run actions
    (∀ ids b', (ids, b') ∈ app.collaborator.handed (.removeCompleted archives r limit) b →
      b'.tables.items = b.tables.items ∧ ∀ id ∈ ids,
        (∃ entry, b.tables.completed.get? id = some entry ∧
          Expired b.clock.now r.completedExpiry entry) ∧
        (KeepsOut (.start t) actions → b'.status? id = none)) ∧
    ∀ ids b', (ids, b') ∈ app.collaborator.handed (.removeBroken archives r limit) b →
      b'.tables.items = b.tables.items ∧ ∀ id ∈ ids, b.tables.failures id ≠ [] ∧
        ∀ e ∈ b.tables.failures id, Expired b.clock.now r.brokenExpiry e.time ∧
          ∃ x app c y r', actions = x ++ .call app c :: y ∧
            (app.run c ((Backend.start t).run x)).1 = .ok r' ∧ Fails id r' c ∧
            e.time = ((Backend.start t).run x).clock.now := by
  intro b
  have hfree : b.Free := (Backend.Free.start t).run actions
  constructor
  · intro ids b' hmem
    obtain ⟨hitems, hexpired⟩ := Collaborator.handed_removeCompleted hfree hmem
    refine ⟨hitems, fun id hid => ⟨hexpired id hid, fun hkeeps => ?_⟩⟩
    have hapart : b.tables.Apart := hkeeps.apart (.start t) (apart_start t) actions List.prefix_rfl
    obtain ⟨entry, hentry, -⟩ := hexpired id hid
    rw [Backend.status?, Tables.status?, hitems]
    exact hapart.status?_eq_none hentry
  · intro ids b' hmem
    obtain ⟨hitems, hexpired⟩ := Collaborator.handed_removeBroken hfree hmem
    refine ⟨hitems, fun id hid => ?_⟩
    obtain ⟨hsome, hall⟩ := hexpired id hid
    have hstart (e : FailureEntry) : e ∉ (Backend.start t).tables.failures id := List.not_mem_nil
    exact ⟨hsome, fun e he => ⟨hall e he, (Backend.Free.start t).exists_failure (hstart e) he⟩⟩

theorem Handed.exists_of_map_eq {handed : Handed} {ids : List ItemId}
    (h : handed.map (·.1) = [ids]) : ∃ b, (ids, b) ∈ handed := by
  have hmem : ids ∈ handed.map (·.1) := h ▸ List.mem_singleton_self ids
  obtain ⟨⟨_, b⟩, hb, rfl⟩ := List.mem_map.1 hmem
  exact ⟨b, hb⟩

/-- Three days after one item was committed and another rejected, both have expired. -/
theorem purge_expired_both :
    let call := Action.call .plain
    let r := { Retention.default with purges := true }
    let actions := [call (.append ⟨⟨1⟩, .zero, 3⟩), call (.readItems 10),
      call (.commit ⟨true, true⟩ ⟨1⟩), call (.append ⟨⟨2⟩, .zero, 3⟩), call (.readItems 10),
      call (.reject ⟨true, true⟩ ⟨2⟩ "boom"), .clock ⟨.clamp 260000000000000, 0⟩]
    let b := (Backend.start (.clamp 0)).run actions
    KeepsOut (.start (.clamp 0)) actions ∧
      (∃ b', ([⟨1⟩], b') ∈ Application.plain.collaborator.handed
        (.removeCompleted ⟨true, true⟩ r 10) b ∧ b'.status? ⟨1⟩ = none) ∧
      ∃ b', ([⟨2⟩], b') ∈ Application.plain.collaborator.handed
          (.removeBroken ⟨true, true⟩ r 10) b ∧
        b'.status? ⟨2⟩ = some .retry ∧ b.tables.failures ⟨2⟩ ≠ [] ∧
        ∀ e ∈ b.tables.failures ⟨2⟩, e.time.nanos + r.brokenExpiry.nanos ≤ b.clock.now.nanos := by
  intro call r actions b
  have hkeeps : KeepsOut (.start (.clamp 0)) actions := by decide +kernel
  have hcompleted : (Application.plain.collaborator.handed
      (.removeCompleted ⟨true, true⟩ r 10) b).map (·.1) = [[⟨1⟩]] := by
    decide +kernel
  have hbroken : (Application.plain.collaborator.handed
      (.removeBroken ⟨true, true⟩ r 10) b).map (·.1) = [[⟨2⟩]] := by
    decide +kernel
  have hexpired := purge_expired (.clamp 0) actions .plain ⟨true, true⟩ r 10
  obtain ⟨b₁, hmem₁⟩ := Handed.exists_of_map_eq hcompleted
  obtain ⟨b₂, hmem₂⟩ := Handed.exists_of_map_eq hbroken
  obtain ⟨-, hone⟩ := hexpired.1 _ b₁ hmem₁
  obtain ⟨hitems, htwo⟩ := hexpired.2 _ b₂ hmem₂
  obtain ⟨hsome, hall⟩ := htwo ⟨2⟩ (List.mem_singleton_self _)
  refine ⟨hkeeps, ⟨b₁, hmem₁, (hone ⟨1⟩ (List.mem_singleton_self _)).2 hkeeps⟩, b₂, hmem₂, ?_,
    hsome, fun e he => (hall e he).1.aged (by decide +kernel)⟩
  rw [Backend.status?, Tables.status?, hitems]
  decide +kernel

/-- An item that waits in retry is purged once its failure expires. -/
theorem purged_while_active :
    let call := Action.call .plain
    let b := (Backend.start (.clamp 0)).run [call (.append ⟨⟨1⟩, .zero, 3⟩), call (.readItems 10),
      call (.reject ⟨true, true⟩ ⟨1⟩ "boom"), .clock ⟨.clamp 260000000000000, 0⟩]
    (Application.plain.collaborator.handed
      (.removeBroken ⟨true, true⟩ { Retention.default with purges := true } 10) b).map
        (fun x => (x.1, x.2.status? ⟨1⟩)) = [([⟨1⟩], some .retry)] := by
  decide +kernel

end WorkQueue.Memory
