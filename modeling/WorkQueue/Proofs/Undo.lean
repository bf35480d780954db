import WorkQueue.Memory.Engine
import WorkQueue.Proofs.Lookup

/-!
Taking back what a unit of work wrote. However often its rows are written, replaying the log brings
back the tables that the unit began with, and the log leaves no trace in a unit that is committed.
-/

namespace WorkQueue.Memory

inductive Write
  | putItem (id : ItemId) (row : Row)
  | removeItem (id : ItemId)
  | putCompleted (id : ItemId) (time : Instant)
  | removeCompleted (id : ItemId)
  | pushBroken (id : ItemId) (entry : FailureEntry)
  | removeBroken (id : ItemId)
deriving DecidableEq

def Tables.write (t : Tables) : Write → Tables
  | .putItem id row => { t with items := t.items.put id row }
  | .removeItem id => { t with items := t.items.erase id }
  | .putCompleted id time => { t with completed := t.completed.put id time }
  | .removeCompleted id => { t with completed := t.completed.erase id }
  | .pushBroken id entry => { t with broken := t.broken.put id (t.failures id ++ [entry]) }
  | .removeBroken id => { t with broken := t.broken.erase id }

def UnitOfWork.write (u : UnitOfWork) : Write → UnitOfWork
  | .putItem id row => u.putItem id row
  | .removeItem id => u.removeItem id
  | .putCompleted id time => u.putCompleted id time
  | .removeCompleted id => u.removeCompleted id
  | .pushBroken id entry => u.pushBroken id entry
  | .removeBroken id => u.removeBroken id

def Engine.write : Engine → List Write → Engine
  | idle t, _ => idle t
  | busy u, ws => busy (ws.foldl .write u)

section Log

variable {α : Type} {prior table : Table α} {log : Table (Option α)}

/-- The log holds what the rows were in `prior`, for every row in which `table` differs from it. -/
structure Logged (prior table : Table α) (log : Table (Option α)) : Prop where
  kept : ∀ {id v}, log.get? id = some v → prior.get? id = v
  untouched : ∀ {id}, log.get? id = none → table.get? id = prior.get? id

theorem Logged.start (t : Table α) : Logged t t .empty where
  kept h := by simp at h
  untouched _ := rfl

theorem get?_logPrior (log : Table (Option α)) (table : Table α) (id k : ItemId) :
    (logPrior log table id).get? k =
      if k = id then some ((log.get? id).getD (table.get? id)) else log.get? k := by
  simp only [logPrior]
  by_cases hid : log.contains id = true
  · obtain ⟨v, hv⟩ := Table.contains_iff.1 hid
    by_cases hk : k = id <;> simp [hid, hv, hk]
  · have hnone : log.get? id = none := by simpa [Table.contains] using hid
    by_cases hk : k = id <;> simp [hid, hnone, hk]

theorem Logged.step (h : Logged prior table log) {id : ItemId} {table' : Table α}
    (frame : ∀ k, k ≠ id → table'.get? k = table.get? k) :
    Logged prior table' (logPrior log table id) where
  kept {k v} hv := by
    rw [get?_logPrior] at hv
    by_cases hk : k = id
    · subst hk
      rw [if_pos rfl] at hv
      -- Only the first write to a row is logged, when the row is still the one in `prior`.
      cases hlog : log.get? k with
      | none =>
        rw [hlog] at hv
        rw [← h.untouched hlog]
        exact Option.some.inj hv
      | some w =>
        rw [hlog] at hv
        rw [h.kept hlog]
        exact Option.some.inj hv
    · rw [if_neg hk] at hv
      exact h.kept hv
  untouched {k} hk := by
    rw [get?_logPrior] at hk
    split at hk
    · cases hk
    · next hne => rw [frame k hne, h.untouched hk]

theorem Logged.put (h : Logged prior table log) (id : ItemId) (a : α) :
    Logged prior (table.put id a) (logPrior log table id) :=
  h.step fun k hk => by simp [hk]

theorem Logged.erase (h : Logged prior table log) (id : ItemId) :
    Logged prior (table.erase id) (logPrior log table id) :=
  h.step fun k hk => by simp [hk]

theorem get?_restoreRow (table : Table α) (entry : ItemId × Option α) (k : ItemId) :
    (restoreRow table entry).get? k = if k = entry.1 then entry.2 else table.get? k := by
  obtain ⟨id, v⟩ := entry
  cases v <;> simp [restoreRow]

/-- Later rows of the log have other keys, so none of them undoes what the first one restored. -/
theorem get?_foldl_restoreRow {rows : List (ItemId × Option α)} (h : Rows.Sorted rows)
    (table : Table α) (k : ItemId) :
    (rows.foldl restoreRow table).get? k = (Rows.get? k rows).getD (table.get? k) := by
  induction rows generalizing table with
  | nil => rfl
  | cons r rest ih =>
    obtain ⟨hr, hrest⟩ := List.pairwise_cons.1 h
    rw [List.foldl_cons, ih hrest, get?_restoreRow]
    by_cases hk : k = r.1
    · subst hk
      have hnone : Rows.get? r.1 rest = none :=
        Rows.get?_eq_none_iff.2 fun row hrow e => Nat.lt_irrefl _ (e ▸ hr row hrow)
      simp [Rows.get?, hnone]
    · simp [Rows.get?, hk]

theorem Logged.restore (h : Logged prior table log) : restore table log = prior := by
  apply Table.ext
  intro k
  rw [Memory.restore, get?_foldl_restoreRow log.sorted]
  change (log.get? k).getD (table.get? k) = prior.get? k
  cases hlog : log.get? k with
  | none => exact h.untouched hlog
  | some v => exact (h.kept hlog).symm

end Log

namespace UnitOfWork

structure Undoes (t : Tables) (u : UnitOfWork) : Prop where
  items : Logged t.items u.tables.items u.undo.items
  completed : Logged t.completed u.tables.completed u.undo.completed
  broken : Logged t.broken u.tables.broken u.undo.broken

theorem Undoes.begin (t : Tables) (now : Instant) : Undoes t (.begin t now) :=
  ⟨.start _, .start _, .start _⟩

theorem Undoes.rolledBack {t : Tables} {u : UnitOfWork} (h : Undoes t u) : u.rolledBack = t := by
  rw [UnitOfWork.rolledBack, h.items.restore, h.completed.restore, h.broken.restore]

theorem Undoes.write {t : Tables} {u : UnitOfWork} (h : Undoes t u) (w : Write) :
    Undoes t (u.write w) := by
  cases w with
  | putItem id row => exact ⟨h.items.put id row, h.completed, h.broken⟩
  | removeItem id => exact ⟨h.items.erase id, h.completed, h.broken⟩
  | putCompleted id time => exact ⟨h.items, h.completed.put id time, h.broken⟩
  | removeCompleted id => exact ⟨h.items, h.completed.erase id, h.broken⟩
  | pushBroken id entry => exact ⟨h.items, h.completed, h.broken.put id _⟩
  | removeBroken id => exact ⟨h.items, h.completed, h.broken.erase id⟩

theorem Undoes.foldl {α : Type} {f : UnitOfWork → α → UnitOfWork}
    (hf : ∀ {u} a, Undoes t u → Undoes t (f u a)) (h : Undoes t u) (l : List α) :
    Undoes t (l.foldl f u) := by
  induction l generalizing u with
  | nil => exact h
  | cons a l ih => exact ih (hf a h)

theorem Undoes.writes {t : Tables} {u : UnitOfWork} (h : Undoes t u) (ws : List Write) :
    Undoes t (ws.foldl .write u) :=
  h.foldl (fun w h => h.write w) ws

theorem Undoes.transition (h : Undoes t u) (target : Status) (id : ItemId) :
    Undoes t (u.transition target id) := by
  simp only [UnitOfWork.transition]
  split
  · exact h.write (.putItem _ _)
  · exact h

theorem Undoes.transitionAll (h : Undoes t u) (target : Status) (ids : List ItemId) :
    Undoes t (u.transitionAll target ids) :=
  h.foldl (fun id h => h.transition target id) ids

theorem Undoes.insertRows (h : Undoes t u) (items : List Item) :
    Undoes t (u.insertRows items).2 := by
  induction items generalizing u with
  | nil => exact h
  | cons item rest ih =>
    simp only [UnitOfWork.insertRows]
    split
    · exact h
    · exact ih (h.write (.putItem _ _))

theorem Undoes.recordFailures (h : Undoes t u) (rows : List Failure) :
    Undoes t (u.recordFailures rows) :=
  h.foldl (fun _ h => h.write (.pushBroken _ _)) rows

theorem Undoes.perform (h : Undoes t u) (c : StoreCall) : Undoes t (u.perform c).2 := by
  cases c with
  | insert items =>
    change Undoes t (u.insert items).2
    simp only [UnitOfWork.insert]
    split
    · exact h
    · exact h.insertRows items
  | claim limit => exact h.transitionAll .processing _
  | release ids => exact h.transitionAll .ready _
  | delete id status =>
    change Undoes t (u.delete id status).2
    simp only [UnitOfWork.delete]
    split
    · exact h.write (.removeItem id)
    · exact h
  | demote id =>
    change Undoes t (u.demote id).2
    simp only [UnitOfWork.demote]
    split
    · split
      · exact h.write (.putItem _ _)
      · exact h
    · exact h
  | recover timeout limit =>
    change Undoes t (u.recover timeout limit).2
    simp only [UnitOfWork.recover]
    split
    · exact h
    · exact h.transitionAll .retry _
  | requeue delay limit =>
    change Undoes t (u.requeue delay limit).2
    simp only [UnitOfWork.requeue]
    split
    · exact h
    · exact h.transitionAll .ready _
  | discard limit => exact h.foldl (fun id h => h.write (.removeItem id)) _
  | complete id =>
    change Undoes t (u.complete id).2
    simp only [UnitOfWork.complete]
    split
    · exact h
    · exact h.write (.putCompleted _ _)
  | expireCompleted expiry limit =>
    change Undoes t (u.expireCompleted expiry limit).2
    simp only [UnitOfWork.expireCompleted]
    split
    · exact h
    · exact h.foldl (fun id h => h.write (.removeCompleted id)) _
  | recordFailures rows => exact h.recordFailures rows
  | expireBroken expiry limit =>
    change Undoes t (u.expireBroken expiry limit).2
    simp only [UnitOfWork.expireBroken]
    split
    · exact h
    · exact h.foldl (fun id h => h.write (.removeBroken id)) _
  | purge ids => exact h

theorem write_tables (u : UnitOfWork) (w : Write) : (u.write w).tables = u.tables.write w := by
  cases w <;> rfl

theorem writes_tables (u : UnitOfWork) (ws : List Write) :
    (ws.foldl write u).tables = ws.foldl Tables.write u.tables := by
  induction ws generalizing u with
  | nil => rfl
  | cons w ws ih => rw [List.foldl_cons, ih, write_tables, List.foldl_cons]

end UnitOfWork

/-- A unit that is rolled back or let go after any of its writes leaves the tables as they were when
it began; one that is committed leaves them as its writes alone make them. -/
theorem Engine.rollback_exact (t : Tables) (now : Instant) (ws : List Write) :
    let opened := ((idle t).begin now).2
    (∀ n, (opened.write (ws.take n)).rollback = (.ok (), idle t) ∧
      (opened.write (ws.take n)).drop = idle t) ∧
    (opened.write ws).commit = (.ok (), idle (ws.foldl Tables.write t)) := by
  intro opened
  have busy_of (ws : List Write) : opened.write ws = busy (ws.foldl .write (.begin t now)) := rfl
  constructor
  · intro n
    have h := ((UnitOfWork.Undoes.begin t now).writes (ws.take n)).rolledBack
    rw [busy_of, rollback, drop, h]
    exact ⟨rfl, rfl⟩
  · rw [busy_of, commit, UnitOfWork.writes_tables]
    rfl

end WorkQueue.Memory
