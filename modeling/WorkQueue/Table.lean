import WorkQueue.Item

namespace WorkQueue

variable {α β : Type}

def Rows.Sorted (rows : List (ItemId × α)) : Prop :=
  rows.Pairwise fun a b => a.1.value.toNat < b.1.value.toNat

structure Table (α : Type) where
  rows : List (ItemId × α)
  sorted : Rows.Sorted rows

namespace Rows

def put (id : ItemId) (a : α) : List (ItemId × α) → List (ItemId × α)
  | [] => [(id, a)]
  | (k, b) :: rest =>
    if id.value.toNat < k.value.toNat then (id, a) :: (k, b) :: rest
    else if id = k then (id, a) :: rest
    else (k, b) :: put id a rest

def get? (id : ItemId) : List (ItemId × α) → Option α
  | [] => none
  | (k, b) :: rest => if id = k then some b else get? id rest

def erase (id : ItemId) (rows : List (ItemId × α)) : List (ItemId × α) :=
  rows.filter fun row => row.1 ≠ id

theorem mem_put {id : ItemId} {a : α} {rows : List (ItemId × α)} {row : ItemId × α}
    (h : row ∈ put id a rows) : row = (id, a) ∨ row ∈ rows := by
  induction rows with
  | nil => simpa [put] using h
  | cons r rest ih =>
    obtain ⟨k, b⟩ := r
    unfold put at h
    split at h
    · simpa using h
    · split at h
      · rcases List.mem_cons.1 h with h | h
        · exact .inl h
        · exact .inr (List.mem_cons_of_mem _ h)
      · rcases List.mem_cons.1 h with h | h
        · exact .inr (h ▸ List.mem_cons_self)
        · exact (ih h).imp_right (List.mem_cons_of_mem _)

theorem get?_put (id k : ItemId) (a : α) (rows : List (ItemId × α)) :
    get? k (put id a rows) = if k = id then some a else get? k rows := by
  induction rows with
  | nil => rfl
  | cons r rest ih =>
    obtain ⟨j, b⟩ := r
    unfold put
    split
    · rfl
    · split
      · next h =>
        subst h
        by_cases hk : k = id <;> simp [get?, hk]
      · next h =>
        simp only [get?, ih]
        by_cases hj : k = j
        · subst hj
          simp [Ne.symm h]
        · simp [hj]

theorem get?_erase (id k : ItemId) (rows : List (ItemId × α)) :
    get? k (erase id rows) = if k = id then none else get? k rows := by
  induction rows with
  | nil => simp [erase, get?]
  | cons r rest ih =>
    obtain ⟨j, b⟩ := r
    by_cases hj : j = id
    · subst hj
      by_cases hk : k = j <;> simp_all [erase, get?]
    · by_cases hk : k = j
      · subst hk
        simp [erase, get?, hj]
      · simp_all [erase, get?]

theorem Sorted.put {rows : List (ItemId × α)} (h : Sorted rows) (id : ItemId) (a : α) :
    Sorted (put id a rows) := by
  induction rows with
  | nil => exact List.pairwise_singleton _ _
  | cons r rest ih =>
    obtain ⟨k, b⟩ := r
    have hrest := List.pairwise_cons.1 h
    unfold Rows.put
    split
    · next hlt =>
      refine List.pairwise_cons.2 ⟨fun row hrow => ?_, h⟩
      rcases List.mem_cons.1 hrow with rfl | hrow
      · exact hlt
      · exact Nat.lt_trans hlt (hrest.1 row hrow)
    · split
      · next heq =>
        exact List.pairwise_cons.2 ⟨fun row hrow => heq ▸ hrest.1 row hrow, hrest.2⟩
      · next hlt hne =>
        refine List.pairwise_cons.2 ⟨fun row hrow => ?_, ih hrest.2⟩
        rcases mem_put hrow with rfl | hrow
        · have : id.value.toNat ≠ k.value.toNat := fun e =>
            hne (by cases id; cases k; simpa using UInt64.toNat_inj.1 e)
          show k.value.toNat < id.value.toNat
          omega
        · exact hrest.1 row hrow

end Rows

namespace Table

def empty : Table α := ⟨[], .nil⟩

def get? (t : Table α) (id : ItemId) : Option α := Rows.get? id t.rows

def contains (t : Table α) (id : ItemId) : Bool := (t.get? id).isSome

def put (t : Table α) (id : ItemId) (a : α) : Table α := ⟨Rows.put id a t.rows, t.sorted.put id a⟩

def erase (t : Table α) (id : ItemId) : Table α := ⟨Rows.erase id t.rows, t.sorted.filter _⟩

def keys (t : Table α) : List ItemId := t.rows.map (·.1)

def size (t : Table α) : Nat := t.rows.length

@[simp] theorem get?_empty (id : ItemId) : (empty : Table α).get? id = none := rfl

@[simp] theorem get?_put (t : Table α) (id k : ItemId) (a : α) :
    (t.put id a).get? k = if k = id then some a else t.get? k :=
  Rows.get?_put id k a t.rows

@[simp] theorem get?_erase (t : Table α) (id k : ItemId) :
    (t.erase id).get? k = if k = id then none else t.get? k :=
  Rows.get?_erase id k t.rows

theorem ext_rows {t u : Table α} (h : t.rows = u.rows) : t = u := by
  cases t; cases u; cases h; rfl

end Table

end WorkQueue
