import Mathlib
import WorkQueue.Proofs.Batch

namespace WorkQueue.Memory

def Tables.changed (t t' : Tables) : List ItemId :=
  (t.items.rows.filter fun row => t'.items.get? row.1 != some row.2).map (·.1)

/-- Those of `ids` that were in processing are ready, with their attempts, and everything else is
as before. -/
structure Released (now : Instant) (ids : List ItemId) (t t' : Tables) : Prop where
  rows : ∀ id ∈ ids, ∀ row, t.items.get? id = some row → row.status = .processing →
    t'.items.get? id = some ⟨.ready, row.attempts, now⟩
  others : ∀ id, ¬(id ∈ ids ∧ t.status? id = some .processing) →
    t'.items.get? id = t.items.get? id
  completed : t'.completed = t.completed
  broken : t'.broken = t.broken

theorem Tables.mem_changed {t t' : Tables} {id : ItemId} : id ∈ t.changed t' ↔
    ∃ row, t.items.get? id = some row ∧ t'.items.get? id ≠ some row := by
  rw [changed, List.mem_map]
  constructor
  · rintro ⟨⟨key, row⟩, hmem, rfl⟩
    obtain ⟨hmem, hne⟩ := List.mem_filter.1 hmem
    exact ⟨row, Table.get?_eq_some_iff.2 hmem, bne_iff_ne.1 hne⟩
  · rintro ⟨row, hrow, hne⟩
    exact ⟨(id, row), List.mem_filter.2 ⟨Table.get?_eq_some_iff.1 hrow, bne_iff_ne.2 hne⟩, rfl⟩

theorem Tables.nodup_changed (t t' : Tables) : (t.changed t').Nodup :=
  t.items.sorted.nodup_keys.sublist (List.filter_sublist.map _)

namespace Released

variable {now : Instant} {ids ids' : List ItemId} {t t' t'' : Tables}

theorem congr (h : Released now ids t t') (hmem : ∀ id, id ∈ ids' ↔ id ∈ ids) :
    Released now ids' t t' where
  rows id hid := h.rows id ((hmem id).1 hid)
  others id hid := h.others id fun hid' => hid ⟨(hmem id).2 hid'.1, hid'.2⟩
  completed := h.completed
  broken := h.broken

theorem unique (h : Released now ids t t') (h' : Released now ids t t'') : t' = t'' := by
  have hitems : t'.items = t''.items := by
    refine Table.ext fun id => ?_
    by_cases hid : id ∈ ids ∧ t.status? id = some .processing
    · obtain ⟨row, hrow, hstatus⟩ := Option.map_eq_some_iff.1 hid.2
      rw [h.rows id hid.1 row hrow hstatus, h'.rows id hid.1 row hrow hstatus]
    · rw [h.others id hid, h'.others id hid]
  have hcompleted := h.completed.trans h'.completed.symm
  have hbroken := h.broken.trans h'.broken.symm
  cases t'
  cases t''
  cases hitems
  cases hcompleted
  cases hbroken
  rfl

theorem mem_changed (h : Released now ids t t') (id : ItemId) :
    id ∈ t.changed t' ↔ id ∈ ids ∧ t.status? id = some .processing := by
  rw [Tables.mem_changed]
  constructor
  · rintro ⟨row, hrow, hchanged⟩
    by_contra hnot
    exact hchanged ((h.others id hnot).trans hrow)
  · rintro ⟨hmem, hstatus⟩
    obtain ⟨row, hrow, hprocessing⟩ := Option.map_eq_some_iff.1 hstatus
    refine ⟨row, hrow, fun hsame => ?_⟩
    have hready := (h.rows id hmem row hrow hprocessing).symm.trans hsame
    rw [← Option.some.inj hready] at hprocessing
    cases hprocessing

end Released

namespace UnitOfWork

def named (u : UnitOfWork) (ids : List ItemId) : List ItemId :=
  ids.filter fun id => u.tables.status? id == some .processing

variable {u : UnitOfWork} {ids : List ItemId}

theorem mem_named {id : ItemId} :
    id ∈ u.named ids ↔ id ∈ ids ∧ u.tables.status? id = some .processing := by
  rw [named, List.mem_filter, beq_iff_eq]

theorem nodup_named_iff : (u.named ids).Nodup ↔
    ∀ id, u.tables.status? id = some .processing → ids.count id ≤ 1 := by
  rw [List.nodup_iff_count_le_one]
  refine forall_congr' fun id => ?_
  by_cases hstatus : u.tables.status? id = some .processing
  · have hcount : (u.named ids).count id = ids.count id :=
      List.count_filter (by simpa using hstatus)
    rw [hcount]
    exact ⟨fun h _ => h, fun h => h hstatus⟩
  · have hnot : id ∉ u.named ids := fun hmem => hstatus (mem_named.1 hmem).2
    rw [List.count_eq_zero_of_not_mem hnot]
    exact iff_of_true (Nat.zero_le 1) fun h => absurd h hstatus

theorem release_tables (u : UnitOfWork) (ids : List ItemId) :
    Released u.now ids u.tables (u.release ids).2.tables where
  rows id hmem row hrow hstatus := by
    have hnamed : id ∈ u.named ids := by
      rw [mem_named, Tables.status?, hrow]
      exact ⟨hmem, congrArg some hstatus⟩
    refine (u.get?_transitionAll .ready (u.named ids) id).trans ?_
    rw [if_pos hnamed, hrow]
    rfl
  others id hother := by
    have hnot : id ∉ u.named ids := fun hnamed => hother (mem_named.1 hnamed)
    exact (u.get?_transitionAll .ready (u.named ids) id).trans (if_neg hnot)
  completed := u.transitionAll_completed _ _
  broken := u.transitionAll_broken _ _

theorem toNat_release (h : ids.length < 2 ^ 64) :
    (u.release ids).1.toNat = (u.named ids).length :=
  UInt64.toNat_ofNat_of_lt' (Nat.lt_of_le_of_lt (List.length_filter_le _ _) h)

theorem changed_perm_dedup (u : UnitOfWork) (ids : List ItemId) :
    (u.tables.changed (u.release ids).2.tables).Perm (u.named ids).dedup := by
  refine (List.perm_ext_iff_of_nodup (Tables.nodup_changed _ _) (List.nodup_dedup _)).2 fun id => ?_
  rw [(u.release_tables ids).mem_changed, List.mem_dedup, mem_named]

end UnitOfWork

/-- A release hands back the rows in processing that are named, the same ones for all lists with the
same members. Its answer is how many names in the list are those of such rows, which is how many
rows it changes exactly if no row in processing is named twice. -/
theorem release_counts_rows_iff (u : UnitOfWork) (ids : List ItemId)
    (hlength : ids.length < 2 ^ 64) :
    let released := u.release ids
    Released u.now ids u.tables released.2.tables ∧
    (∀ ids', (∀ id, id ∈ ids' ↔ id ∈ ids) → (u.release ids').2.tables = released.2.tables) ∧
    (∀ ids' : List ItemId, ids'.Perm ids → (u.release ids').1 = released.1) ∧
    released.1.toNat = ids.countP (fun id => u.tables.status? id == some .processing) ∧
    (released.1.toNat = (u.tables.changed released.2.tables).length ↔
      ∀ id, u.tables.status? id = some .processing → ids.count id ≤ 1) := by
  intro released
  refine ⟨u.release_tables ids, fun ids' hmem => ?_, fun ids' hperm => ?_, ?_, ?_⟩
  · exact ((u.release_tables ids').congr fun id => (hmem id).symm).unique (u.release_tables ids)
  · exact congrArg UInt64.ofNat (hperm.filter _).length_eq
  · rw [UnitOfWork.toNat_release hlength, List.countP_eq_length_filter]
    rfl
  · rw [UnitOfWork.toNat_release hlength, (u.changed_perm_dedup ids).length_eq,
      ← UnitOfWork.nodup_named_iff, ← List.dedup_eq_self]
    constructor
    · exact fun h => (List.dedup_sublist _).eq_of_length h.symm
    · exact fun h => congrArg List.length h.symm

/-- A row in processing that is named once, and one that is not in processing named twice. -/
theorem release_counts_rows_once :
    let u := ((UnitOfWork.begin .empty (.clamp 0)).insert [⟨⟨1⟩, .zero, 3⟩]).2.claim 10 |>.2
    let ids : List ItemId := [⟨2⟩, ⟨1⟩, ⟨2⟩]
    ids.length < 2 ^ 64 ∧ (u.release ids).1.toNat = 1 ∧
      (u.release ids).1.toNat = (u.tables.changed (u.release ids).2.tables).length := by
  intro u ids
  have hlength : ids.length < 2 ^ 64 := by decide
  have hcounts := release_counts_rows_iff u ids hlength
  have hanswer : (u.release ids).1.toNat = 1 := by decide +kernel
  refine ⟨hlength, hanswer, hcounts.2.2.2.2.2 fun id hstatus => ?_⟩
  by_cases hid : id = ⟨2⟩
  · subst hid
    revert hstatus
    decide +kernel
  · have hcount : ids.count id = [(⟨1⟩ : ItemId)].count id := by
      simp [ids, List.count_cons, Ne.symm hid]
    rw [hcount]
    exact List.count_le_length

/-- One row that is named twice is changed once and counted twice. -/
theorem release_counts_names :
    let u := ((UnitOfWork.begin .empty (.clamp 0)).insert [⟨⟨1⟩, .zero, 3⟩]).2.claim 10 |>.2
    (u.release [⟨1⟩, ⟨1⟩]).1 = 2 ∧ u.tables.changed (u.release [⟨1⟩, ⟨1⟩]).2.tables = [⟨1⟩] ∧
      (u.release [⟨1⟩]).1 = 1 := by
  decide +kernel

end WorkQueue.Memory
