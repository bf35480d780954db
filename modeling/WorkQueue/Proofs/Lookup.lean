import WorkQueue.Table

namespace WorkQueue

variable {α : Type}

namespace Rows

theorem get?_eq_none_iff {id : ItemId} {rows : List (ItemId × α)} :
    get? id rows = none ↔ ∀ row ∈ rows, row.1 ≠ id := by
  induction rows with
  | nil => simp [get?]
  | cons r rest ih =>
    obtain ⟨k, b⟩ := r
    by_cases h : id = k
    · simp [get?, h]
    · simp [get?, h, ih, Ne.symm h]

theorem Sorted.get?_eq_some_iff {rows : List (ItemId × α)} (h : Sorted rows) {id : ItemId} {a : α} :
    get? id rows = some a ↔ (id, a) ∈ rows := by
  induction rows with
  | nil => simp [get?]
  | cons r rest ih =>
    obtain ⟨k, b⟩ := r
    obtain ⟨hk, hrest⟩ := List.pairwise_cons.1 h
    by_cases hid : id = k
    · subst hid
      have hnot : (id, a) ∉ rest := fun hmem => Nat.lt_irrefl _ (hk (id, a) hmem)
      simp [get?, hnot, eq_comm]
    · simp [get?, hid, ih hrest]

theorem Sorted.nodup_keys {rows : List (ItemId × α)} (h : Sorted rows) :
    (rows.map (·.1)).Nodup := by
  apply List.Pairwise.map _ _ h
  intro a b hab heq
  rw [heq] at hab
  exact Nat.lt_irrefl _ hab

theorem Sorted.nodup {rows : List (ItemId × α)} (h : Sorted rows) : rows.Nodup :=
  List.Pairwise.of_map Prod.fst (fun _ _ hne heq => hne (congrArg Prod.fst heq)) h.nodup_keys

theorem Sorted.ext {rows others : List (ItemId × α)} (h : Sorted rows) (h' : Sorted others)
    (heq : ∀ id, get? id rows = get? id others) : rows = others := by
  refine List.Perm.eq_of_pairwise (fun _ _ _ _ hab hba => absurd hba (Nat.lt_asymm hab)) h h' ?_
  refine (List.perm_ext_iff_of_nodup h.nodup h'.nodup).2 fun row => ?_
  obtain ⟨id, a⟩ := row
  rw [← h.get?_eq_some_iff, ← h'.get?_eq_some_iff, heq]

end Rows

namespace Table

theorem ext {t u : Table α} (h : ∀ id, t.get? id = u.get? id) : t = u :=
  ext_rows (t.sorted.ext u.sorted h)

theorem get?_eq_some_iff {t : Table α} {id : ItemId} {a : α} :
    t.get? id = some a ↔ (id, a) ∈ t.rows :=
  t.sorted.get?_eq_some_iff

theorem contains_iff {t : Table α} {id : ItemId} :
    t.contains id = true ↔ ∃ a, t.get? id = some a := by
  simp [contains, Option.isSome_iff_exists]

@[simp] theorem contains_erase (t : Table α) (id k : ItemId) :
    (t.erase id).contains k = (!decide (k = id) && t.contains k) := by
  by_cases h : k = id <;> simp [contains, h]

theorem nodup_keys (t : Table α) : t.keys.Nodup := t.sorted.nodup_keys

theorem mem_keys {t : Table α} {id : ItemId} : id ∈ t.keys ↔ t.get? id ≠ none := by
  rw [Option.ne_none_iff_exists', keys, List.mem_map]
  constructor
  · rintro ⟨⟨key, a⟩, hmem, rfl⟩
    exact ⟨a, get?_eq_some_iff.2 hmem⟩
  · rintro ⟨a, ha⟩
    exact ⟨(id, a), get?_eq_some_iff.1 ha, rfl⟩

end Table

end WorkQueue
