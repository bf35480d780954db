import WorkQueue.Proofs.Sweep
import WorkQueue.Proofs.Trail

namespace WorkQueue.Memory

namespace Candidate

def Before (a b : Candidate) : Prop :=
  a.time < b.time ∨ a.time = b.time ∧ a.id.value < b.id.value

theorem before_iff {a b : Candidate} : a.Before b ↔ a.time.nanos < b.time.nanos ∨
    a.time.nanos = b.time.nanos ∧ a.id.value.toNat < b.id.value.toNat :=
  or_congr Iff.rfl (and_congr ⟨congrArg _, Instant.ext⟩ UInt64.lt_iff_toNat_lt)

theorem le_iff {a b : Candidate} : a.le b = true ↔ a.time.nanos < b.time.nanos ∨
    a.time.nanos = b.time.nanos ∧ a.id.value.toNat ≤ b.id.value.toNat := by
  rw [le, Bool.or_eq_true, Bool.and_eq_true, decide_eq_true_iff, decide_eq_true_iff, beq_iff_eq]
  exact or_congr Iff.rfl (and_congr ⟨congrArg _, Instant.ext⟩ UInt64.le_iff_toNat_le)

instance : Std.Irrefl Before where
  irrefl a h := by
    rw [before_iff] at h
    omega

instance : Std.Antisymm Before where
  antisymm a b h h' := by
    rw [before_iff] at h h'
    omega

theorem Before.of_le {a b : Candidate} (h : a.le b = true) (hid : a.id ≠ b.id) : a.Before b := by
  have hvalue : a.id.value.toNat ≠ b.id.value.toNat :=
    fun heq => hid (congrArg ItemId.mk (UInt64.toNat_inj.1 heq))
  rw [le_iff] at h
  rw [before_iff]
  omega

end Candidate

structure InOrder (P : Candidate → Prop) (due : List Candidate) : Prop where
  mem : ∀ c, c ∈ due ↔ P c
  sorted : due.Pairwise Candidate.Before
  distinct : (due.map (·.id)).Nodup

theorem InOrder.unique {P : Candidate → Prop} {due due' : List Candidate} (h : InOrder P due)
    (h' : InOrder P due') : due = due' :=
  h.sorted.eq_of_mem_iff h'.sorted fun c => (h.mem c).trans (h'.mem c).symm

theorem inOrder_mergeSort {P : Candidate → Prop} {candidates : List Candidate}
    (hmem : ∀ c, c ∈ candidates ↔ P c) (hdistinct : (candidates.map (·.id)).Nodup) :
    InOrder P (candidates.mergeSort Candidate.le) := by
  have hperm := List.mergeSort_perm candidates Candidate.le
  have hdistinct' : ((candidates.mergeSort Candidate.le).map (·.id)).Nodup :=
    (hperm.map _).nodup_iff.2 hdistinct
  have hle : (candidates.mergeSort Candidate.le).Pairwise fun a b => a.le b = true := by
    refine List.pairwise_mergeSort (fun a b c hab hbc => ?_) (fun a b => ?_) candidates
    · rw [Candidate.le_iff] at *
      omega
    · rw [Bool.or_eq_true, Candidate.le_iff, Candidate.le_iff]
      omega
  refine ⟨fun c => hperm.mem_iff.trans (hmem c), ?_, hdistinct'⟩
  exact (hle.and (List.pairwise_map.1 hdistinct')).imp fun h => .of_le h.1 h.2

structure Newest (entries : List FailureEntry) (time : Instant) : Prop where
  attained : ∃ e ∈ entries, e.time = time
  upper : ∀ e ∈ entries, e.time ≤ time

theorem Newest.unique {entries : List FailureEntry} {time time' : Instant}
    (h : Newest entries time) (h' : Newest entries time') : time = time' := by
  obtain ⟨e, he, rfl⟩ := h.attained
  obtain ⟨e', he', rfl⟩ := h'.attained
  exact Instant.ext (Int.le_antisymm (h'.upper e he) (h.upper e' he'))

theorem foldl_latest_attained (entries : List FailureEntry) (time : Instant) :
    entries.foldl (fun time e => time.latest e.time) time = time ∨
      ∃ e ∈ entries, e.time = entries.foldl (fun time e => time.latest e.time) time := by
  induction entries generalizing time with
  | nil => exact .inl rfl
  | cons e entries ih =>
    rw [List.foldl_cons]
    rcases ih (time.latest e.time) with hfirst | ⟨later, hmem, htime⟩
    · rw [hfirst, Instant.latest]
      split
      · exact .inr ⟨e, List.mem_cons_self, rfl⟩
      · exact .inl rfl
    · exact .inr ⟨later, List.mem_cons_of_mem _ hmem, htime⟩

theorem newest_cons (e : FailureEntry) (entries : List FailureEntry) : ∃ time,
    UnitOfWork.newest (e :: entries) = some time ∧ Newest (e :: entries) time := by
  refine ⟨_, rfl, ?_, UnitOfWork.le_newest rfl⟩
  rcases foldl_latest_attained entries e.time with hfirst | ⟨later, hmem, htime⟩
  · exact ⟨e, List.mem_cons_self, hfirst.symm⟩
  · exact ⟨later, List.mem_cons_of_mem _ hmem, htime⟩

theorem newest_eq_some_iff {entries : List FailureEntry} {time : Instant} :
    UnitOfWork.newest entries = some time ↔ Newest entries time := by
  cases entries with
  | nil => exact ⟨nofun, fun h => absurd h.attained (by simp)⟩
  | cons e entries =>
    obtain ⟨last, hlast, hnewest⟩ := newest_cons e entries
    rw [hlast, Option.some_inj]
    constructor
    · rintro rfl
      exact hnewest
    · exact hnewest.unique

inductive Batch
  | claim
  | recover (timeout : Duration)
  | requeue (delay : Duration)
  | discard
  | expireCompleted (expiry : Duration)
  | expireBroken (expiry : Duration)

structure Fate where
  row : Option Row → Option Row := id
  completed : Option Instant → Option Instant := id
  entries : Option (List FailureEntry) → Option (List FailureEntry) := id

structure Fate.Meets (f : Fate) (ids : List ItemId) (t t' : Tables) : Prop where
  items : ∀ id, t'.items.get? id = if id ∈ ids then f.row (t.items.get? id) else t.items.get? id
  completed : ∀ id, t'.completed.get? id =
    if id ∈ ids then f.completed (t.completed.get? id) else t.completed.get? id
  broken : ∀ id, t'.broken.get? id =
    if id ∈ ids then f.entries (t.broken.get? id) else t.broken.get? id

namespace Fate

variable {f : Fate} {ids ids' : List ItemId} {t t' t'' : Tables}

theorem Meets.none (f : Fate) (t : Tables) : f.Meets [] t t where
  items _ := rfl
  completed _ := rfl
  broken _ := rfl

theorem Meets.unique (h : f.Meets ids t t') (h' : f.Meets ids t t'') : t' = t'' := by
  obtain ⟨items, completed, broken⟩ := t'
  obtain ⟨items', completed', broken'⟩ := t''
  obtain rfl : items = items' := Table.ext fun id => (h.items id).trans (h'.items id).symm
  obtain rfl : completed = completed' :=
    Table.ext fun id => (h.completed id).trans (h'.completed id).symm
  obtain rfl : broken = broken' := Table.ext fun id => (h.broken id).trans (h'.broken id).symm
  rfl

theorem ite_mem_append {α : Type} {φ : Option α → Option α} {a a' a'' : Option α} {id : ItemId}
    (h : a' = if id ∈ ids then φ a else a) (h' : a'' = if id ∈ ids' then φ a' else a')
    (hdisjoint : id ∈ ids → id ∉ ids') : a'' = if id ∈ ids ++ ids' then φ a else a := by
  by_cases hmem : id ∈ ids
  · rw [if_pos hmem] at h
    rw [if_neg (hdisjoint hmem), h] at h'
    rw [h', if_pos (List.mem_append_left _ hmem)]
  · rw [if_neg hmem] at h
    rw [h', h]
    simp [hmem]

theorem Meets.append (h : f.Meets ids t t') (h' : f.Meets ids' t' t'')
    (hdisjoint : ids.Disjoint ids') : f.Meets (ids ++ ids') t t'' where
  items id := ite_mem_append (h.items id) (h'.items id) (@hdisjoint id)
  completed id := ite_mem_append (h.completed id) (h'.completed id) (@hdisjoint id)
  broken id := ite_mem_append (h.broken id) (h'.broken id) (@hdisjoint id)

end Fate

namespace Batch

def bound (now : Instant) : Batch → Except StoreError Instant
  | claim | discard => .ok now
  | recover d | requeue d | expireCompleted d | expireBroken d => deadline now d

/-- What a batch is for: an item and the time that its place in the order goes by. -/
def Due (t : Tables) (bound : Instant) : Batch → Candidate → Prop
  | claim, c => ∃ row, t.items.get? c.id = some row ∧ row.time = c.time ∧ visible bound row = true
  | recover _, c => ∃ row, t.items.get? c.id = some row ∧ row.time = c.time ∧
    overdue bound row = true
  | requeue _, c => ∃ row, t.items.get? c.id = some row ∧ row.time = c.time ∧
    rested bound row = true
  | discard, c => ∃ row, t.items.get? c.id = some row ∧ row.time = c.time ∧ exhausted row = true
  | expireCompleted _, c => t.completed.get? c.id = some c.time ∧ c.time ≤ bound
  | expireBroken _, c => Newest (t.failures c.id) c.time ∧ c.time ≤ bound

def fate (now : Instant) : Batch → Fate
  | claim => { row := Option.map (entering .processing now) }
  | recover _ => { row := Option.map (entering .retry now) }
  | requeue _ => { row := Option.map (entering .ready now) }
  | discard => { row := fun _ => none }
  | expireCompleted _ => { completed := fun _ => none }
  | expireBroken _ => { entries := fun _ => none }

def take (u : UnitOfWork) (limit : UInt32) :
    Batch → Except StoreError (List ItemId) × UnitOfWork
  | claim => u.perform (.claim limit)
  | recover d => u.perform (.recover d limit)
  | requeue d => u.perform (.requeue d limit)
  | discard => u.perform (.discard limit)
  | expireCompleted d => u.perform (.expireCompleted d limit)
  | expireBroken d => u.perform (.expireBroken d limit)

theorem due_congr {t t' : Tables} {bound : Instant} {batch : Batch} {c : Candidate}
    (hitems : t'.items.get? c.id = t.items.get? c.id)
    (hcompleted : t'.completed.get? c.id = t.completed.get? c.id)
    (hbroken : t'.broken.get? c.id = t.broken.get? c.id) :
    batch.Due t' bound c ↔ batch.Due t bound c := by
  cases batch <;> simp only [Due, Tables.failures, hitems, hcompleted, hbroken]

end Batch

section Candidates

variable {t : Tables} {bound : Instant} {c : Candidate}

theorem mem_eligible_iff {p : Row → Bool} {items : Table Row} : c ∈ eligible p items ↔
    ∃ row, items.get? c.id = some row ∧ row.time = c.time ∧ p row = true := by
  constructor
  · intro h
    obtain ⟨⟨id, row⟩, hmem, rfl⟩ := List.mem_map.1 h
    obtain ⟨hmem, hp⟩ := List.mem_filter.1 hmem
    exact ⟨row, Table.get?_eq_some_iff.2 hmem, rfl, hp⟩
  · rintro ⟨row, hrow, htime, hp⟩
    refine List.mem_map.2 ⟨(c.id, row), List.mem_filter.2 ⟨Table.get?_eq_some_iff.1 hrow, hp⟩, ?_⟩
    rw [htime]

theorem mem_completed_iff :
    c ∈ (t.completed.rows.filter fun row => row.2 ≤ bound).map (fun row => ⟨row.2, row.1⟩) ↔
      t.completed.get? c.id = some c.time ∧ c.time ≤ bound := by
  rw [Table.get?_eq_some_iff]
  constructor
  · intro h
    obtain ⟨⟨id, time⟩, hmem, rfl⟩ := List.mem_map.1 h
    simpa using hmem
  · intro h
    exact List.mem_map.2 ⟨(c.id, c.time), List.mem_filter.2 ⟨h.1, decide_eq_true h.2⟩, rfl⟩

def expired? (bound : Instant) (row : ItemId × List FailureEntry) : Option Candidate :=
  match UnitOfWork.newest row.2 with
  | some time => if time ≤ bound then some ⟨time, row.1⟩ else none
  | none => none

theorem expired?_eq_some_iff {row : ItemId × List FailureEntry} :
    expired? bound row = some c ↔ Newest row.2 c.time ∧ row.1 = c.id ∧ c.time ≤ bound := by
  rw [← newest_eq_some_iff, expired?]
  cases UnitOfWork.newest row.2 with
  | none => simp
  | some time =>
    obtain ⟨ctime, cid⟩ := c
    simp only [Option.ite_none_right_eq_some, Option.some_inj, Candidate.mk.injEq]
    constructor
    · rintro ⟨hle, rfl, rfl⟩
      exact ⟨rfl, rfl, hle⟩
    · rintro ⟨rfl, rfl, hle⟩
      exact ⟨hle, rfl, rfl⟩

theorem mem_broken_iff : c ∈ t.broken.rows.filterMap (expired? bound) ↔
    Newest (t.failures c.id) c.time ∧ c.time ≤ bound := by
  rw [List.mem_filterMap]
  constructor
  · rintro ⟨row, hmem, hexpired⟩
    obtain ⟨hnewest, hid, hle⟩ := expired?_eq_some_iff.1 hexpired
    have hrow : t.broken.get? c.id = some row.2 := by
      rw [Table.get?_eq_some_iff, ← hid]
      exact hmem
    rw [Tables.failures, hrow]
    exact ⟨hnewest, hle⟩
  · rintro ⟨hnewest, hle⟩
    obtain ⟨e, he, -⟩ := hnewest.attained
    cases hrow : t.broken.get? c.id with
    | none => simp [Tables.failures, hrow] at he
    | some entries =>
      rw [Tables.failures, hrow] at hnewest
      exact ⟨(c.id, entries), Table.get?_eq_some_iff.1 hrow,
        expired?_eq_some_iff.2 ⟨hnewest, rfl, hle⟩⟩

theorem nodup_completed (t : Tables) (bound : Instant) :
    (((t.completed.rows.filter fun row => row.2 ≤ bound).map
      fun row => (⟨row.2, row.1⟩ : Candidate)).map (·.id)).Nodup := by
  rw [List.map_map]
  exact t.completed.sorted.nodup_keys.sublist (List.filter_sublist.map _)

theorem ids_expired?_sublist (bound : Instant) (rows : List (ItemId × List FailureEntry)) :
    ((rows.filterMap (expired? bound)).map (·.id)).Sublist (rows.map (·.1)) := by
  induction rows with
  | nil => exact .slnil
  | cons row rows ih =>
    cases hexpired : expired? bound row with
    | none =>
      rw [List.filterMap_cons_none hexpired]
      exact ih.cons _
    | some c =>
      rw [List.filterMap_cons_some hexpired, List.map_cons, ← (expired?_eq_some_iff.1 hexpired).2.1]
      exact ih.cons_cons _

theorem nodup_broken (t : Tables) (bound : Instant) :
    ((t.broken.rows.filterMap (expired? bound)).map (·.id)).Nodup :=
  t.broken.sorted.nodup_keys.sublist (ids_expired?_sublist bound t.broken.rows)

end Candidates

namespace UnitOfWork

variable (u : UnitOfWork) (ids : List ItemId)

theorem transitionAll_meets (target : Status) :
    Fate.Meets { row := Option.map (entering target u.now) } ids u.tables
      (u.transitionAll target ids).tables where
  items id := u.get?_transitionAll target ids id
  completed id := by rw [u.transitionAll_completed]; exact (ite_self _).symm
  broken id := by rw [u.transitionAll_broken]; exact (ite_self _).symm

theorem removeItem_meets :
    Fate.Meets { row := fun _ => none } ids u.tables (ids.foldl removeItem u).tables where
  items id := u.get?_foldl_removeItem ids id
  completed id := by rw [foldl_removeItem_completed]; exact (ite_self _).symm
  broken id := by rw [foldl_removeItem_broken]; exact (ite_self _).symm

theorem removeCompleted_meets :
    Fate.Meets { completed := fun _ => none } ids u.tables
      (ids.foldl removeCompleted u).tables where
  items id := by rw [foldl_removeCompleted_items]; exact (ite_self _).symm
  completed id := u.get?_foldl_removeCompleted ids id
  broken id := by rw [foldl_removeCompleted_broken]; exact (ite_self _).symm

theorem removeBroken_meets :
    Fate.Meets { entries := fun _ => none } ids u.tables (ids.foldl removeBroken u).tables where
  items id := by rw [foldl_removeBroken_items]; exact (ite_self _).symm
  completed id := by rw [foldl_removeBroken_completed]; exact (ite_self _).symm
  broken id := u.get?_foldl_removeBroken ids id

end UnitOfWork

structure Batch.Selects (u : UnitOfWork) (batch : Batch) (bound : Instant)
    (candidates : List Candidate) : Prop where
  mem : ∀ c, c ∈ candidates ↔ batch.Due u.tables bound c
  distinct : (candidates.map (·.id)).Nodup
  takes : ∀ limit, ∃ v, batch.take u limit = (.ok (oldest limit candidates), v) ∧
    (batch.fate u.now).Meets (oldest limit candidates) u.tables v.tables

section Batch

variable {u : UnitOfWork} {batch : Batch}

theorem Batch.take_error {e : StoreError} (h : batch.bound u.now = .error e) (limit : UInt32) :
    batch.take u limit = (.error e, u) := by
  cases batch with
  | claim | discard => cases h
  | recover d | requeue d | expireCompleted d | expireBroken d =>
    simp only [Batch.bound] at h
    simp only [Batch.take, UnitOfWork.perform, UnitOfWork.recover, UnitOfWork.requeue,
      UnitOfWork.expireCompleted, UnitOfWork.expireBroken, h]

theorem Batch.selects {bound : Instant} (h : batch.bound u.now = .ok bound) :
    ∃ candidates, batch.Selects u bound candidates := by
  cases batch with
  | claim =>
    cases h
    exact ⟨_, fun _ => mem_eligible_iff, nodup_eligible _ _,
      fun _ => ⟨_, rfl, u.transitionAll_meets _ _⟩⟩
  | recover d =>
    refine ⟨_, fun _ => mem_eligible_iff, nodup_eligible (overdue bound) _, fun _ => ⟨_, ?_,
      u.transitionAll_meets _ _⟩⟩
    simp only [Batch.bound] at h
    simp only [Batch.take, UnitOfWork.perform, UnitOfWork.recover, h]
    rfl
  | requeue d =>
    refine ⟨_, fun _ => mem_eligible_iff, nodup_eligible (rested bound) _, fun _ => ⟨_, ?_,
      u.transitionAll_meets _ _⟩⟩
    simp only [Batch.bound] at h
    simp only [Batch.take, UnitOfWork.perform, UnitOfWork.requeue, h]
    rfl
  | discard =>
    exact ⟨_, fun _ => mem_eligible_iff, nodup_eligible exhausted _,
      fun _ => ⟨_, rfl, u.removeItem_meets _⟩⟩
  | expireCompleted d =>
    refine ⟨_, fun _ => mem_completed_iff, nodup_completed u.tables bound, fun _ => ⟨_, ?_,
      u.removeCompleted_meets _⟩⟩
    simp only [Batch.bound] at h
    simp only [Batch.take, UnitOfWork.perform, UnitOfWork.expireCompleted, h]
  | expireBroken d =>
    refine ⟨_, fun _ => mem_broken_iff, nodup_broken u.tables bound, fun _ => ⟨_, ?_,
      u.removeBroken_meets _⟩⟩
    simp only [Batch.bound] at h
    simp only [Batch.take, UnitOfWork.perform, UnitOfWork.expireBroken, h]
    rfl

theorem Batch.take_ok {bound : Instant} (h : batch.bound u.now = .ok bound) :
    ∃ due, InOrder (batch.Due u.tables bound) due ∧ ∀ limit, ∃ v,
      batch.take u limit = (.ok ((due.take limit.toNat).map (·.id)), v) ∧
        (batch.fate u.now).Meets ((due.take limit.toNat).map (·.id)) u.tables v.tables := by
  obtain ⟨candidates, hselects⟩ := Batch.selects h
  exact ⟨_, inOrder_mergeSort hselects.mem hselects.distinct, hselects.takes⟩

end Batch

/-- How a batch splits the items that it is for into those it takes and those it leaves. -/
structure Batch.Splits (u : UnitOfWork) (batch : Batch) (limit : UInt32)
    (due taken left : List Candidate) (v : UnitOfWork) : Prop where
  split : due = taken ++ left
  full : taken.length = min limit.toNat due.length
  first : ∀ c ∈ taken, ∀ other ∈ left, c.Before other
  answer : batch.take u limit = (.ok (taken.map (·.id)), v)
  meets : (batch.fate u.now).Meets (taken.map (·.id)) u.tables v.tables

/-- A batch whose window is in range takes the first of the items it is for, as many as its limit
lets it, and changes nothing but these. A smaller limit takes a first part of what a larger one
takes. -/
theorem batches_oldest_first (u : UnitOfWork) (batch : Batch) :
    match batch.bound u.now with
    | .error e => ∀ limit, batch.take u limit = (.error e, u)
    | .ok bound => ∃ due, InOrder (batch.Due u.tables bound) due ∧
      ∀ limit, ∃ taken left v, batch.Splits u limit due taken left v ∧
        ∀ smaller ≤ limit, ∃ ids, (batch.take u smaller).1 = .ok ids ∧
          ids <+: taken.map (·.id) := by
  split
  · next e hbound => exact fun limit => Batch.take_error hbound limit
  · next bound hbound =>
    obtain ⟨due, hdue, htake⟩ := Batch.take_ok hbound
    refine ⟨due, hdue, fun limit => ?_⟩
    obtain ⟨v, hv, hmeets⟩ := htake limit
    refine ⟨due.take limit.toNat, due.drop limit.toNat, v, ⟨?_, List.length_take, ?_, hv, hmeets⟩,
      fun smaller hle => ?_⟩
    · exact (List.take_append_drop _ _).symm
    · have hsorted := hdue.sorted
      rw [← List.take_append_drop limit.toNat due, List.pairwise_append] at hsorted
      exact hsorted.2.2
    · obtain ⟨w, hw, -⟩ := htake smaller
      exact ⟨_, congrArg Prod.fst hw,
        (List.take_prefix_take_left (UInt32.le_iff_toNat_le.1 hle)).map _⟩

end WorkQueue.Memory
