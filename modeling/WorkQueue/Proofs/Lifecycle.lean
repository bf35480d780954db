import WorkQueue.Proofs.Run

/-!
What a call makes of a single row. A row comes in ready, goes through processing and retry, and
leaves; every call moves it along one edge of this cycle or not at all.
-/

namespace WorkQueue.Memory

open Queue

/-- How a call that begins at `now` and is answered may change the row of `id`. -/
inductive Change (now : Instant) (id : ItemId) : Call → Reply → Option Row → Option Row → Prop
  | same {c r row} : Change now id c r row row
  | inserted {c r item time} (hmem : item ∈ c.items) (hid : item.id = id)
    (htime : visibleAt now item.readyDelay = .ok time) :
    Change now id c r none (some ⟨.ready, item.retryAttempts, time⟩)
  | claimed {limit ids row} (hid : id ∈ ids) (hstatus : row.status = .ready)
    (htime : row.time ≤ now) : Change now id (.readItems limit) (.ids ids) (some row)
      (some { row with status := .processing, time := now })
  | released {ids r row} (hid : id ∈ ids) (hstatus : row.status = .processing) :
    Change now id (.cancelItems ids) r (some row)
      (some { row with status := .ready, time := now })
  | committed {archives r row} (hstatus : row.status = .processing) :
    Change now id (.commit archives id) r (some row) none
  | rejected {archives cause r row} (hstatus : row.status = .processing) :
    Change now id (.reject archives id cause) r (some row)
      (some ⟨.retry, if row.attempts = 0 then 0 else row.attempts - 1, now⟩)
  | recovered {archives w limit ids row} (hid : id ∈ ids) (hstatus : row.status = .processing) :
    Change now id (.recoverTimedOut archives w limit) (.ids ids) (some row)
      (some { row with status := .retry, time := now })
  | requeued {w limit ids row} (hid : id ∈ ids) (hstatus : row.status = .retry)
    (hattempts : row.attempts ≠ 0) : Change now id (.requeue w limit) (.ids ids) (some row)
      (some { row with status := .ready, time := now })
  | discarded {limit ids row} (hid : id ∈ ids) (hstatus : row.status = .retry)
    (hattempts : row.attempts = 0) :
    Change now id (.removeExhausted limit) (.ids ids) (some row) none

section Change

variable {u v : UnitOfWork} {now : Instant} {c : Call} {r : Reply} {id : ItemId}

theorem Change.insert {items : List Item} (h : u.insert items = (.ok (), v))
    (hitems : ∀ item ∈ items, item ∈ c.items) (id : ItemId) :
    Change u.now id c r (u.tables.items.get? id) (v.tables.items.get? id) := by
  rcases UnitOfWork.get?_insertRows (UnitOfWork.insert_ok h) id with
    ⟨_, hsame⟩ | ⟨item, hmem, hid, time, htime, hrow⟩
  · rw [hsame]
    exact .same
  · have hnone := (UnitOfWork.insert_fresh h).2 id (hid ▸ List.mem_map_of_mem hmem)
    rw [hnone, hrow]
    exact .inserted (hitems item hmem) hid htime

theorem Change.transitionAll {target : Status} {ids : List ItemId}
    (h : ∀ row, id ∈ ids → u.tables.items.get? id = some row →
      Change u.now id c r (some row) (some { row with status := target, time := u.now })) :
    Change u.now id c r (u.tables.items.get? id)
      ((u.transitionAll target ids).tables.items.get? id) := by
  rw [UnitOfWork.get?_transitionAll]
  split
  · next hid =>
    cases hrow : u.tables.items.get? id with
    | none => exact .same
    | some row => exact h row hid hrow
  · exact .same

theorem row_of_mem_oldest {limit : UInt32} {p : Row → Bool} {t : Table Row} {row : Row}
    (h : id ∈ oldest limit (eligible p t)) (hrow : t.get? id = some row) : p row = true := by
  obtain ⟨other, hother, hp⟩ := mem_oldest_eligible h
  rw [hother] at hrow
  cases hrow
  exact hp

theorem Works.reject_items {archives : Archives} {cause : String}
    (h : Works u (.reject archives id cause) r v) :
    v.tables.items = (u.demote id).2.tables.items := by
  cases h with
  | reject hv =>
    rw [hv]
    split
    · rw [UnitOfWork.recordFailures_items]
    · rfl

theorem Works.recover_items {archives : Archives} {w : RecoveryWindows} {limit : UInt32}
    (h : Works u (.recoverTimedOut archives w limit) r v) :
    v.tables.items = (u.transitionAll .retry r.items).tables.items := by
  cases h with
  | recoverTimedOut h hv =>
    rw [hv, (UnitOfWork.recover_ok h).1]
    split
    · rw [UnitOfWork.recordFailures_items]
      rfl
    · rfl

theorem Works.change (h : Works u c r v) (id : ItemId) :
    Change u.now id c r (u.tables.items.get? id) (v.tables.items.get? id) := by
  cases h with
  | append h =>
    apply Change.insert h
    intro item hmem
    exact hmem
  | appends h =>
    apply Change.insert h
    intro item hmem
    exact hmem
  | readItems =>
    refine .transitionAll fun row hid hrow => ?_
    have hp := row_of_mem_oldest hid hrow
    rw [Bool.and_eq_true, beq_iff_eq, decide_eq_true_eq] at hp
    exact .claimed hid hp.1 hp.2
  | cancelItems =>
    refine .transitionAll fun row hid hrow => ?_
    obtain ⟨hasked, hheld⟩ := List.mem_filter.1 hid
    have hstatus : row.status = .processing := by simpa [Tables.status?, hrow] using hheld
    exact .released hasked hstatus
  | @commit archives key _ hstatus hv =>
    have hitems : v.tables.items = u.tables.items.erase key := by
      split at hv
      · rw [(UnitOfWork.complete_ok hv).2]
        rfl
      · rw [hv]
        rfl
    rw [hitems, Table.get?_erase]
    split
    · next hid =>
      subst hid
      obtain ⟨row, hrow, hprocessing⟩ := Option.map_eq_some_iff.1 hstatus
      rw [hrow]
      exact .committed hprocessing
    · exact .same
  | @reject archives key cause _ hv =>
    rw [Works.reject_items (.reject hv)]
    simp only [UnitOfWork.demote]
    split
    · next row hrow =>
      split
      · next hstatus =>
        simp only [UnitOfWork.putItem, Table.get?_put]
        split
        · next hid =>
          subst hid
          rw [hrow]
          exact .rejected hstatus
        · exact .same
      · exact .same
    · exact .same
  | @recoverTimedOut archives w limit ids v' _ h hv =>
    obtain ⟨-, time, -, hids⟩ := UnitOfWork.recover_ok h
    rw [Works.recover_items (.recoverTimedOut h hv)]
    refine .transitionAll fun row hid hrow => ?_
    have hp := row_of_mem_oldest (hids ▸ hid) hrow
    rw [Bool.and_eq_true, beq_iff_eq] at hp
    exact .recovered hid hp.1
  | requeue h =>
    obtain ⟨rfl, time, -, hids⟩ := UnitOfWork.requeue_ok h
    refine .transitionAll fun row hid hrow => ?_
    have hp := row_of_mem_oldest (hids ▸ hid) hrow
    rw [Bool.and_eq_true, Bool.and_eq_true, beq_iff_eq, bne_iff_ne] at hp
    exact .requeued hid hp.1.1 hp.2
  | removeExhausted =>
    rw [UnitOfWork.discard, UnitOfWork.get?_foldl_removeItem]
    split
    · next hid =>
      obtain ⟨row, hrow, hp⟩ := mem_oldest_eligible hid
      rw [Bool.and_eq_true, beq_iff_eq, beq_iff_eq] at hp
      rw [hrow]
      exact .discarded hid hp.1 hp.2
    · exact .same
  | removeCompleted h =>
    rw [UnitOfWork.expireCompleted_ok h, UnitOfWork.foldl_removeCompleted_items]
    exact .same
  | removeBroken h =>
    rw [UnitOfWork.expireBroken_ok h, UnitOfWork.foldl_removeBroken_items]
    exact .same

end Change

theorem Took.change {now : Instant} {t t' : Tables} {c : Call} {r : Reply}
    (h : Took now t c (.ok r) t') (id : ItemId) :
    Change now id c r (t.items.get? id) (t'.items.get? id) := by
  cases h with
  | spared _ => exact .same
  | worked h => exact h.change id

namespace Backend

def row? (b : Backend) (id : ItemId) : Option Row := b.tables.items.get? id

theorem status?_eq (b : Backend) (id : ItemId) : b.status? id = (b.row? id).map (·.status) := rfl

theorem Free.change {b : Backend} (h : b.Free) {a : Action} {id : ItemId}
    (hrow : (b.after a).row? id ≠ b.row? id) : ∃ app c r, a = .call app c ∧
      (app.run c b).1 = .ok r ∧ Change b.clock.now id c r (b.row? id) ((b.after a).row? id) := by
  cases a with
  | clock k => exact absurd rfl hrow
  | call app c =>
    have htook := (h.took app c).2
    change (app.run c b).2.tables.items.get? id ≠ b.tables.items.get? id at hrow
    cases hresult : (app.run c b).1 with
    | ok r =>
      rw [hresult] at htook
      exact ⟨app, c, r, rfl, hresult, htook.change id⟩
    | error e =>
      rw [hresult] at htook
      generalize (app.run c b).2.tables = t' at htook hrow
      cases htook
      exact absurd rfl hrow

end Backend

end WorkQueue.Memory
