import WorkQueue.Proofs.Decision
import WorkQueue.Proofs.Exclusion
import WorkQueue.Proofs.Selection

namespace WorkQueue.Memory

open Queue Operation

structure Cell where
  row : Option Row
  completed : Option Instant
  entries : Option (List FailureEntry)
deriving DecidableEq

namespace Cell

def status? (c : Cell) : Option Status := c.row.map (·.status)

def attempts (c : Cell) : UInt32 := (c.row.map (·.attempts)).getD 0

def enter (target : Status) (now : Instant) (c : Cell) : Cell :=
  { c with row := c.row.map (entering target now) }

def release (now : Instant) (c : Cell) : Cell :=
  if c.status? = some .processing then c.enter .ready now else c

def demote (now : Instant) (c : Cell) : Cell :=
  if c.status? = some .processing then
    { c with row := c.row.map fun row =>
        ⟨.retry, if row.attempts = 0 then 0 else row.attempts - 1, now⟩ }
  else c

def note (e : FailureEntry) (c : Cell) : Cell :=
  { c with entries := some (c.entries.getD [] ++ [e]) }

def reject (archives : Archives) (cause : String) (now : Instant) (c : Cell) : Cell :=
  if archives.broken then (c.demote now).note ⟨cause, now⟩ else c.demote now

def commit (archives : Archives) (now : Instant) (c : Cell) : Cell where
  row := none
  completed := if archives.completed then some now else c.completed
  entries := c.entries

end Cell

namespace Tables

def cell (t : Tables) (id : ItemId) : Cell :=
  ⟨t.items.get? id, t.completed.get? id, t.broken.get? id⟩

@[simp] theorem status?_cell (t : Tables) (id : ItemId) : (t.cell id).status? = t.status? id := rfl

theorem ext_cell {t t' : Tables} (h : ∀ id, t.cell id = t'.cell id) : t = t' := by
  obtain ⟨items, completed, broken⟩ := t
  obtain ⟨items', completed', broken'⟩ := t'
  obtain rfl : items = items' := Table.ext fun id => congrArg Cell.row (h id)
  obtain rfl : completed = completed' := Table.ext fun id => congrArg Cell.completed (h id)
  obtain rfl : broken = broken' := Table.ext fun id => congrArg Cell.entries (h id)
  rfl

theorem cell_settle (t : Tables) (archives : Archives) (id : ItemId) (now : Instant) (k : ItemId) :
    (t.settle archives id now).cell k =
      if k = id then (t.cell k).commit archives now else t.cell k := by
  by_cases hk : k = id
  · cases hcompleted : archives.completed <;> simp [cell, settle, Cell.commit, hk, hcompleted]
  · cases hcompleted : archives.completed <;> simp [cell, settle, hk, hcompleted]

end Tables

namespace UnitOfWork

theorem cell_transitionAll (u : UnitOfWork) (target : Status) (ids : List ItemId) (id : ItemId) :
    (u.transitionAll target ids).tables.cell id =
      if id ∈ ids then (u.tables.cell id).enter target u.now else u.tables.cell id := by
  rw [Tables.cell, get?_transitionAll, transitionAll_completed, transitionAll_broken]
  by_cases hid : id ∈ ids
  · rw [if_pos hid, if_pos hid]
    rfl
  · rw [if_neg hid, if_neg hid]
    rfl

theorem cell_release (u : UnitOfWork) (ids : List ItemId) (id : ItemId) :
    (u.release ids).2.tables.cell id =
      if id ∈ ids then (u.tables.cell id).release u.now else u.tables.cell id := by
  refine (u.cell_transitionAll .ready _ id).trans ?_
  by_cases hstatus : u.tables.status? id = some .processing
  · simp [Cell.release, hstatus]
  · simp [Cell.release, hstatus]

theorem demote_of_ne {u : UnitOfWork} {id : ItemId} (h : u.tables.status? id ≠ some .processing) :
    (u.demote id).2 = u := by
  rw [demote]
  split
  · next row hrow =>
    have hstatus : row.status ≠ .processing := by simpa [Tables.status?, hrow] using h
    rw [if_neg hstatus]
  · rfl

theorem cell_demote (u : UnitOfWork) (id k : ItemId) :
    (u.demote id).2.tables.cell k =
      if k = id then (u.tables.cell k).demote u.now else u.tables.cell k := by
  by_cases hstatus : u.tables.status? id = some .processing
  · obtain ⟨row, hrow, hprocessing⟩ := Option.map_eq_some_iff.1 hstatus
    by_cases hk : k = id
    · subst hk
      have hcell : (u.tables.cell k).status? = some .processing := hstatus
      rw [if_pos rfl, Cell.demote, if_pos hcell]
      simp [demote, Tables.cell, putItem, hrow, hprocessing]
    · simp [demote, Tables.cell, putItem, hrow, hprocessing, hk]
  · rw [demote_of_ne hstatus]
    by_cases hk : k = id
    · subst hk
      rw [if_pos rfl, Cell.demote]
      exact (if_neg hstatus).symm
    · rw [if_neg hk]

theorem cell_pushBroken (u : UnitOfWork) (id : ItemId) (e : FailureEntry) (k : ItemId) :
    (u.pushBroken id e).tables.cell k =
      if k = id then (u.tables.cell k).note e else u.tables.cell k := by
  by_cases hk : k = id <;> simp [Tables.cell, pushBroken, Cell.note, Tables.failures, hk]

theorem cell_reject (u : UnitOfWork) (archives : Archives) (id : ItemId) (cause : String)
    (k : ItemId) :
    (if archives.broken then (u.demote id).2.recordFailures [⟨id, cause⟩]
      else (u.demote id).2).tables.cell k =
      if k = id then (u.tables.cell k).reject archives cause u.now else u.tables.cell k := by
  rw [Cell.reject]
  cases archives.broken with
  | false => exact u.cell_demote id k
  | true =>
    have hnow : (u.demote id).2.now = u.now := u.perform_now (.demote id)
    refine ((u.demote id).2.cell_pushBroken id ⟨cause, (u.demote id).2.now⟩ k).trans ?_
    rw [u.cell_demote id k, hnow]
    by_cases hk : k = id <;> simp [hk]

end UnitOfWork

section Outcome

variable {S : UnitOfWork → UnitOfWork → Prop} {now : Instant} {t t' : Tables} {r : Reply}
  {events : List Event}

theorem Outcome.read {limit : UInt32} (h : Outcome S now t (.readItems limit) (.ok r) events t') :
    r.items.Nodup ∧ (∀ id ∈ r.items, t.status? id = some .ready) ∧
      ∀ id, t'.cell id = if id ∈ r.items then (t.cell id).enter .processing now else t.cell id := by
  cases h with
  | spared _ hidle => cases hidle
  | worked _ before works after =>
    cases before.eq
    cases after.eq
    obtain ⟨-, hnodup, hready⟩ := works.readItems_spec
    refine ⟨hnodup, fun id hid => (hready id hid).1, ?_⟩
    cases works with
    | readItems => exact (UnitOfWork.begin t now).cell_transitionAll .processing _

theorem Outcome.cancelled {ids : List ItemId}
    (h : Outcome S now t (.cancelItems ids) (.ok r) events t') :
    (∀ id, t'.cell id = if id ∈ ids then (t.cell id).release now else t.cell id) ∧
      (ids ≠ [] → events = [.of .cancelItems (.count (UInt64.ofNat ids.length))]) := by
  cases h with
  | spared _ hidle =>
    obtain rfl : ids = [] := List.isEmpty_iff.1 hidle
    exact ⟨fun _ => rfl, fun hne => absurd rfl hne⟩
  | worked _ before works after =>
    cases before.eq
    cases after.eq
    cases works with
    | cancelItems => exact ⟨(UnitOfWork.begin t now).cell_release ids, fun _ => rfl⟩

theorem Outcome.rejected {archives : Archives} {id : ItemId} {cause : String}
    (h : Outcome S now t (.reject archives id cause) (.ok r) events t') :
    (∀ k, t'.cell k = if k = id then (t.cell k).reject archives cause now else t.cell k) ∧
      events = [if t.status? id = some .processing then .of .reject (.id id)
        else .of .rejectSkipped (.id id)] := by
  cases h with
  | spared _ hidle => cases hidle
  | worked _ before works after =>
    cases before.eq
    cases after.eq
    cases works with
    | reject hv =>
      subst hv
      exact ⟨(UnitOfWork.begin t now).cell_reject archives id cause, rfl⟩

theorem Outcome.committed {archives : Archives} {id : ItemId}
    (h : Outcome S now t (.commit archives id) (.ok r) events t') :
    events = [.of .commit (.id id)] := by
  cases h with
  | spared _ hidle => cases hidle
  | worked _ _ _ _ => rfl

end Outcome

section Run

variable {S : UnitOfWork → UnitOfWork → Prop} {g : Collaborator S} {b : Backend}

theorem Backend.Free.run_cancelItems (h : b.Free) {ids : List ItemId}
    (hfault : (Call.cancelItems ids).fault? = none) :
    (g.run (.cancelItems ids) b).1 = .ok .done := by
  cases hidle : (Call.cancelItems ids).isIdle with
  | true =>
    rw [Collaborator.run, Call.program_eq, hfault, hidle]
    rfl
  | false => exact (Collaborator.run_single h hfault hidle (e := .release ids) rfl rfl rfl).1

end Run

end WorkQueue.Memory
