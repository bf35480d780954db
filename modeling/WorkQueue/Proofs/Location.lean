import WorkQueue.Proofs.Lifecycle

/-!
Where an item is. Commits move items from the active rows to the archive of completed items, and no
call but one brings an item to both places: an append does not look into the archive.
-/

namespace WorkQueue.Memory

open Queue

inductive Archived (now : Instant) (id : ItemId) :
    Call → Reply → Option Instant → Option Instant → Prop
  | same {c r entry} : Archived now id c r entry entry
  | completed {archives r} (harchive : archives.completed = true) :
    Archived now id (.commit archives id) r none (some now)
  | expired {archives retention limit ids time} (hid : id ∈ ids) :
    Archived now id (.removeCompleted archives retention limit) (.ids ids) (some time) none

section Calls

variable {u v : UnitOfWork} {c : Call} {r : Reply}

theorem Archived.of_eq {now : Instant} {id : ItemId} {t t' : Table Instant} (h : t' = t) :
    Archived now id c r (t.get? id) (t'.get? id) := h ▸ .same

theorem Works.archived (h : Works u c r v) (id : ItemId) :
    Archived u.now id c r (u.tables.completed.get? id) (v.tables.completed.get? id) := by
  cases h with
  | append h =>
    exact .of_eq ((congrArg (·.2.tables.completed) h).symm.trans (u.insert_completed _))
  | appends h =>
    exact .of_eq ((congrArg (·.2.tables.completed) h).symm.trans (u.insert_completed _))
  | readItems => exact .of_eq (u.transitionAll_completed _ _)
  | cancelItems => exact .of_eq (u.transitionAll_completed _ _)
  | commit hstatus hv =>
    split at hv
    · next harchive =>
      obtain ⟨hfree, rfl⟩ := UnitOfWork.complete_ok hv
      simp only [UnitOfWork.putCompleted, UnitOfWork.removeItem, Table.get?_put]
      split
      · next hid =>
        subst hid
        have hnone : u.tables.completed.get? id = none := by
          simpa [Table.contains, UnitOfWork.removeItem] using hfree
        rw [hnone]
        exact .completed harchive
      · exact .same
    · exact .of_eq (by rw [hv]; rfl)
  | @reject archives key cause _ hv =>
    refine .of_eq ?_
    rw [hv, ← u.demote_completed key]
    split
    · rw [UnitOfWork.recordFailures_completed]
    · rfl
  | @recoverTimedOut archives w limit ids v' _ h hv =>
    refine .of_eq ?_
    rw [hv, (UnitOfWork.recover_ok h).1, ← u.transitionAll_completed .retry ids]
    split
    · rw [UnitOfWork.recordFailures_completed]
    · rfl
  | requeue h =>
    refine .of_eq ?_
    rw [(UnitOfWork.requeue_ok h).1, UnitOfWork.transitionAll_completed]
  | removeExhausted => exact .of_eq (u.foldl_removeItem_completed _)
  | removeCompleted h =>
    rw [UnitOfWork.expireCompleted_ok h, UnitOfWork.get?_foldl_removeCompleted]
    split
    · next hid =>
      cases u.tables.completed.get? id with
      | none => exact .same
      | some time => exact .expired hid
    · exact .same
  | removeBroken h =>
    refine .of_eq ?_
    rw [UnitOfWork.expireBroken_ok h, UnitOfWork.foldl_removeBroken_completed]

theorem Works.committed {archives : Archives} {id : ItemId}
    (h : Works u (.commit archives id) r v) : v.tables.items.contains id = false := by
  cases h with
  | commit hstatus hv =>
    split at hv
    · rw [(UnitOfWork.complete_ok hv).2]
      simp [UnitOfWork.putCompleted, UnitOfWork.removeItem]
    · rw [hv]
      simp [UnitOfWork.removeItem]

theorem Works.inserted (h : Works u c r v) {item : Item} (hmem : item ∈ c.items) :
    v.tables.items.contains item.id = true := by
  have insert {items : List Item} (h : u.insert items = (.ok (), v)) (hmem : item ∈ items) :
      v.tables.items.contains item.id = true := by
    rcases UnitOfWork.get?_insertRows (UnitOfWork.insert_ok h) item.id with
      ⟨hnot, _⟩ | ⟨_, _, _, _, _, hrow⟩
    · exact absurd (List.mem_map_of_mem hmem) hnot
    · exact Table.contains_iff.2 ⟨_, hrow⟩
  cases h with
  | append h => exact insert h hmem
  | appends h => exact insert h hmem
  | _ => cases hmem

end Calls

def Tables.Apart (t : Tables) : Prop :=
  ∀ id, t.items.contains id = true → t.completed.contains id = false

section Apart

variable {now : Instant} {t t' : Tables} {c : Call} {r : Reply}

theorem Works.apart {u v : UnitOfWork} (h : Works u c r v) (hapart : u.tables.Apart)
    (hfresh : ∀ item ∈ c.items, u.tables.completed.contains item.id = false) :
    v.tables.Apart := by
  intro id hactive
  cases hcompleted : v.tables.completed.contains id with
  | false => rfl
  | true =>
    have hbefore : u.tables.completed.contains id = true := by
      obtain ⟨entry, hentry⟩ := Table.contains_iff.1 hcompleted
      have harchived := h.archived id
      rw [hentry] at harchived
      -- A commit is what brings an entry in, and it takes the row out.
      generalize hprior : u.tables.completed.get? id = prior at harchived
      cases harchived with
      | same => exact Table.contains_iff.2 ⟨entry, hprior⟩
      | completed _ => exact absurd hactive (Bool.eq_false_iff.1 h.committed)
    have hnone : u.tables.items.get? id = none := by
      cases hrow : u.tables.items.get? id with
      | none => rfl
      | some row =>
        exact absurd hbefore (Bool.eq_false_iff.1 (hapart id (Table.contains_iff.2 ⟨row, hrow⟩)))
    -- A row that is there now and was not before was brought in.
    have hchange := h.change id
    obtain ⟨row, hrow⟩ := Table.contains_iff.1 hactive
    rw [hnone, hrow] at hchange
    cases hchange with
    | inserted hmem hid _ => exact absurd hbefore (Bool.eq_false_iff.1 (hid ▸ hfresh _ hmem))

theorem Works.not_apart {u v : UnitOfWork} (h : Works u c r v) {item : Item}
    (hmem : item ∈ c.items) (hcompleted : u.tables.completed.contains item.id = true) :
    ¬v.tables.Apart := by
  intro hapart
  have hfree := hapart item.id (h.inserted hmem)
  have hsame : v.tables.completed.get? item.id = u.tables.completed.get? item.id := by
    have harchived := h.archived item.id
    generalize u.tables.completed.get? item.id = entry at harchived ⊢
    generalize v.tables.completed.get? item.id = entry' at harchived ⊢
    cases harchived with
    | same => rfl
    | _ => cases hmem
  rw [Table.contains, hsame] at hfree
  exact absurd hcompleted (Bool.eq_false_iff.1 hfree)

end Apart

def KeepsOut (b : Backend) (actions : List Action) : Prop :=
  ∀ x app c y, actions = x ++ .call app c :: y → ∀ r, (app.run c (b.run x)).1 = .ok r →
    ∀ item ∈ c.items, (b.run x).tables.completed.contains item.id = false

theorem Took.apart {now : Instant} {t t' : Tables} {c : Call} {result : Except QueueError Reply}
    (h : Took now t c result t') (hapart : t.Apart) (hfresh : ∀ r, result = .ok r →
      ∀ item ∈ c.items, t.completed.contains item.id = false) : t'.Apart := by
  cases h with
  | failed => exact hapart
  | spared _ => exact hapart
  | worked h => exact h.apart hapart (hfresh _ rfl)

theorem Took.not_apart {now : Instant} {t t' : Tables} {c : Call} {r : Reply}
    (h : Took now t c (.ok r) t') {item : Item} (hmem : item ∈ c.items)
    (hcompleted : t.completed.contains item.id = true) : ¬t'.Apart := by
  cases h with
  | worked h => exact h.not_apart hmem hcompleted
  | spared hidle =>
    cases c with
    | appends items =>
      rw [List.isEmpty_iff.1 hidle] at hmem
      cases hmem
    | append item => cases hidle
    | _ => cases hmem

theorem Backend.Free.apart_after {b : Backend} (h : b.Free) (hapart : b.tables.Apart) {a : Action}
    {actions : List Action} (hkeeps : KeepsOut b (a :: actions)) : (b.after a).tables.Apart := by
  cases a with
  | clock k => exact hapart
  | call app c => exact (h.took app c).2.apart hapart (hkeeps [] app c actions rfl)

theorem KeepsOut.tail {b : Backend} {a : Action} {actions : List Action}
    (h : KeepsOut b (a :: actions)) : KeepsOut (b.after a) actions :=
  fun x app c y hsplit => h (a :: x) app c y (congrArg (a :: ·) hsplit)

def Action.KeepsOut (b : Backend) : Action → Prop
  | .call app c => (app.run c b).1.isOk = true →
    ∀ item ∈ c.items, b.tables.completed.contains item.id = false
  | .clock _ => True

instance Action.KeepsOut.decidable (b : Backend) : (a : Action) → Decidable (a.KeepsOut b)
  | .call app c => inferInstanceAs (Decidable ((app.run c b).1.isOk = true →
    ∀ item ∈ c.items, b.tables.completed.contains item.id = false))
  | .clock _ => inferInstanceAs (Decidable True)

theorem keepsOut_cons {b : Backend} {a : Action} {actions : List Action} :
    KeepsOut b (a :: actions) ↔ a.KeepsOut b ∧ KeepsOut (b.after a) actions := by
  constructor
  · intro h
    refine ⟨?_, h.tail⟩
    cases a with
    | clock k => trivial
    | call app c =>
      intro hok
      cases hresult : (app.run c b).1 with
      | error e =>
        rw [hresult] at hok
        cases hok
      | ok r => exact h [] app c actions rfl r hresult
  · rintro ⟨ha, h⟩ x app c y hsplit r hr
    cases x with
    | nil =>
      cases hsplit
      exact ha (by rw [show (app.run c b).1 = .ok r from hr]; rfl)
    | cons first x =>
      cases hsplit
      exact h x app c y rfl r hr

instance KeepsOut.decidable (b : Backend) : (actions : List Action) → Decidable (KeepsOut b actions)
  | [] => isTrue fun x _ _ _ hsplit => by cases x <;> cases hsplit
  | a :: actions =>
    have := KeepsOut.decidable (b.after a) actions
    decidable_of_iff _ keepsOut_cons.symm

theorem KeepsOut.apart {b : Backend} {actions : List Action} (h : KeepsOut b actions)
    (hfree : b.Free) (hapart : b.tables.Apart) :
    ∀ done, done <+: actions → (b.run done).tables.Apart := by
  induction actions generalizing b with
  | nil =>
    intro done hdone
    rw [List.prefix_nil.1 hdone]
    exact hapart
  | cons a actions ih =>
    intro done hdone
    cases done with
    | nil => exact hapart
    | cons a' done =>
      obtain ⟨rfl, hrest⟩ := List.cons_prefix_cons.1 hdone
      exact ih h.tail (hfree.after a') (hfree.apart_after hapart h) done hrest

/-- Items are never active and completed at the same time exactly if no append of the run takes one
that is in the archive. -/
theorem apart_iff_keepsOut (t : Instant) (actions : List Action) :
    (∀ done, done <+: actions → ((Backend.start t).run done).tables.Apart) ↔
      KeepsOut (.start t) actions := by
  constructor
  · intro h x app c y hsplit r hr item hmem
    have hfree := (Backend.Free.start t).run x
    cases hcompleted : ((Backend.start t).run x).tables.completed.contains item.id with
    | false => rfl
    | true =>
      have htook := (hfree.took app c).2
      rw [hr] at htook
      have hprefix : x ++ [.call app c] <+: actions :=
        ⟨y, (List.append_assoc x [_] y).trans hsplit.symm⟩
      have hapart := h _ hprefix
      rw [Backend.run_append] at hapart
      exact absurd hapart (htook.not_apart hmem hcompleted)
  · intro h
    exact h.apart (.start t) nofun

/-- An item that is appended again after it was committed is in both places. -/
theorem not_apart_appendedAgain : ¬((Backend.start (.clamp 0)).run
    [.call .plain (.append ⟨⟨1⟩, .zero, 3⟩), .call .plain (.readItems 10),
      .call .plain (.commit ⟨true, true⟩ ⟨1⟩),
      .call .plain (.append ⟨⟨1⟩, .zero, 3⟩)]).tables.Apart := by
  intro h
  exact absurd (h ⟨1⟩ (by decide +kernel)) (by decide +kernel)

end WorkQueue.Memory
