import WorkQueue.Proofs.Waiting

/-!
What an insert makes of the tables of an open unit. Ids that occur twice are looked for before the
first row is written, but delays are counted row by row, so a delay that is too long may stop an
insert halfway. Whoever goes on in the unit then keeps the rows that came first.
-/

namespace WorkQueue.Memory

open Queue Operation

theorem nanos_later (now : Instant) (d : Duration) :
    (now.later d).nanos = min (now.nanos + d.nanos) Instant.last.nanos := by
  have hlower := now.lower
  have hstart : Instant.first.nanos ≤ now.nanos + d.nanos := by
    change (-8334601228800000000000 : Int) ≤ _
    omega
  by_cases hend : now.nanos + d.nanos ≤ Instant.last.nanos
  · rw [Instant.later, clamp_nanos hstart hend, Int.min_eq_left hend]
  · have hafter : Instant.last.nanos < now.nanos + d.nanos := Int.not_le.1 hend
    have hlast : now.later d = Instant.last :=
      (dif_neg (Int.not_lt.2 hstart)).trans (dif_pos hafter)
    rw [hlast, Int.min_eq_right (Int.le_of_lt hafter)]

def UnitOfWork.bring (u : UnitOfWork) (item : Item) : UnitOfWork :=
  u.putItem item.id ⟨.ready, item.retryAttempts, u.now.later item.readyDelay⟩

theorem UnitOfWork.get?_bring (u : UnitOfWork) (item : Item) (id : ItemId) :
    (u.bring item).tables.items.get? id =
      if id = item.id then some ⟨.ready, item.retryAttempts, u.now.later item.readyDelay⟩
      else u.tables.items.get? id :=
  Table.get?_put _ _ _ _

structure Brings (now : Instant) (items : List Item) (t t' : Tables) : Prop where
  rows : ∀ item ∈ items, ∃ time, t'.items.get? item.id = some ⟨.ready, item.retryAttempts, time⟩ ∧
    time.nanos = min (now.nanos + item.readyDelay.nanos) Instant.last.nanos
  others : ∀ id ∉ items.map (·.id), t'.items.get? id = t.items.get? id
  completed : t'.completed = t.completed
  broken : t'.broken = t.broken

namespace Brings

variable {now : Instant} {items : List Item} {item : Item} {t t' : Tables}

theorem none (now : Instant) (t : Tables) : Brings now [] t t where
  rows := nofun
  others _ _ := rfl
  completed := rfl
  broken := rfl

theorem eq_of_none (h : Brings now [] t t') : t' = t := by
  obtain ⟨items, completed, broken⟩ := t
  obtain ⟨-, hothers, hcompleted, hbroken⟩ := h
  obtain ⟨items', completed', broken'⟩ := t'
  cases hcompleted
  cases hbroken
  obtain rfl : items' = items := Table.ext fun id => hothers id nofun
  rfl

theorem cons {u : UnitOfWork} (hitem : item.id ∉ items.map (·.id))
    (h : Brings u.now items (u.bring item).tables t') :
    Brings u.now (item :: items) u.tables t' where
  rows := by
    refine List.forall_mem_cons.2 ⟨⟨_, ?_, nanos_later _ _⟩, h.rows⟩
    rw [h.others item.id hitem, u.get?_bring, if_pos rfl]
  others id hid := by
    rw [List.map_cons, List.mem_cons, not_or] at hid
    rw [h.others id hid.2, u.get?_bring, if_neg hid.1]
  completed := h.completed
  broken := h.broken

end Brings

namespace UnitOfWork

structure Fresh (u : UnitOfWork) (items : List Item) : Prop where
  distinct : (items.map (·.id)).Nodup
  absent : ∀ id ∈ items.map (·.id), u.tables.items.get? id = none

inductive Insertion (u : UnitOfWork) (items : List Item) : Except StoreError Unit → Tables → Prop
  | done {t} (hfresh : u.Fresh items) (hrange : ∀ item ∈ items, item.readyDelay.isWindow = true)
    (h : Brings u.now items u.tables t) : Insertion u items (.ok ()) t
  | refused {id} (hfresh : ¬u.Fresh items) :
    Insertion u items (.error (.duplicateItem id)) u.tables
  | stopped {before bad after t} (hfresh : u.Fresh items) (hitems : items = before ++ bad :: after)
    (hrange : ∀ item ∈ before, item.readyDelay.isWindow = true)
    (hbad : bad.readyDelay.isWindow = false) (h : Brings u.now before u.tables t) :
    Insertion u items (.error .windowTooLong) t

def AllOrNothing (u : UnitOfWork) (items : List Item) : Prop :=
  (u.insert items).1 = .ok () ∧ Brings u.now items u.tables (u.insert items).2.tables ∨
    (∃ e, (u.insert items).1 = .error e) ∧ (u.insert items).2.tables = u.tables

/-- Items that may all be inserted but for the delays of some, the first one not among them. -/
structure Interrupted (u : UnitOfWork) (items : List Item) : Prop where
  fresh : u.Fresh items
  starts : ∃ item ∈ items.head?, item.readyDelay.isWindow = true
  breaks : ∃ item ∈ items, item.readyDelay.isWindow = false

variable {u : UnitOfWork} {items : List Item}

theorem fresh_iff : u.Fresh items ↔ u.duplicate? [] (items.map (·.id)) = none := by
  rw [duplicate?_eq_none_iff]
  constructor
  · intro h
    exact ⟨h.distinct, fun id hid => ⟨by simp [Table.contains, h.absent id hid], nofun⟩⟩
  · intro h
    exact ⟨h.1, fun id hid => by simpa [Table.contains] using (h.2 id hid).1⟩

section Step

variable {item : Item} {rest : List Item}

theorem Fresh.bring (h : u.Fresh (item :: rest)) : (u.bring item).Fresh rest := by
  obtain ⟨hitem, hrest⟩ := List.nodup_cons.1 h.distinct
  refine ⟨hrest, fun id hid => ?_⟩
  have hne : id ≠ item.id := by
    rintro rfl
    exact hitem hid
  rw [u.get?_bring, if_neg hne]
  exact h.absent id (List.mem_cons_of_mem _ hid)

theorem insertRows_cons (hwindow : item.readyDelay.isWindow = true) :
    u.insertRows (item :: rest) = (u.bring item).insertRows rest := by
  have htime : visibleAt u.now item.readyDelay = .ok (u.now.later item.readyDelay) :=
    if_pos hwindow
  rw [insertRows, htime]
  rfl

theorem insertRows_cons_error (hwindow : item.readyDelay.isWindow = false) :
    u.insertRows (item :: rest) = (.error .windowTooLong, u) := by
  have hstop : visibleAt u.now item.readyDelay = .error .windowTooLong := by
    rw [visibleAt, hwindow]
    rfl
  rw [insertRows, hstop]

theorem Insertion.cons {answer : Except StoreError Unit} {t : Tables} (h : u.Fresh (item :: rest))
    (hwindow : item.readyDelay.isWindow = true) (hrest : (u.bring item).Insertion rest answer t) :
    u.Insertion (item :: rest) answer t := by
  have hitem : item.id ∉ rest.map (·.id) := (List.nodup_cons.1 h.distinct).1
  cases hrest with
  | done _ hrange hbrings =>
    exact .done h (List.forall_mem_cons.2 ⟨hwindow, hrange⟩) (.cons hitem hbrings)
  | refused hnot => exact absurd h.bring hnot
  | @stopped before bad after _ _ hitems hrange hbad hbrings =>
    have hbefore : item.id ∉ before.map (·.id) := by
      intro hmem
      rw [hitems, List.map_append] at hitem
      exact hitem (List.mem_append_left _ hmem)
    have hsplit : item :: rest = (item :: before) ++ bad :: after := congrArg (item :: ·) hitems
    exact .stopped h hsplit (List.forall_mem_cons.2 ⟨hwindow, hrange⟩) hbad (.cons hbefore hbrings)

end Step

theorem Fresh.insertion (h : u.Fresh items) :
    u.Insertion items (u.insertRows items).1 (u.insertRows items).2.tables := by
  induction items generalizing u with
  | nil => exact .done h nofun (.none _ _)
  | cons item rest ih =>
    cases hwindow : item.readyDelay.isWindow with
    | false =>
      rw [insertRows_cons_error hwindow]
      exact .stopped h (List.nil_append (item :: rest)).symm nofun hwindow (.none _ _)
    | true =>
      rw [insertRows_cons hwindow]
      exact .cons h hwindow (ih h.bring)

theorem insertion (u : UnitOfWork) (items : List Item) :
    u.Insertion items (u.insert items).1 (u.insert items).2.tables := by
  rw [insert]
  cases hduplicate : u.duplicate? [] (items.map (·.id)) with
  | none => exact (fresh_iff.2 hduplicate).insertion
  | some id => exact .refused fun h => by simp [fresh_iff.1 h] at hduplicate

theorem Insertion.allOrNothing {answer : Except StoreError Unit} {t : Tables}
    (h : u.Insertion items answer t) (hwhole : ¬u.Interrupted items) :
    answer = .ok () ∧ Brings u.now items u.tables t ∨ (∃ e, answer = .error e) ∧ t = u.tables := by
  cases h with
  | done _ _ hbrings => exact .inl ⟨rfl, hbrings⟩
  | refused _ => exact .inr ⟨⟨_, rfl⟩, rfl⟩
  | @stopped before bad after _ hfresh hitems hrange hbad hbrings =>
    cases before with
    | nil => exact .inr ⟨⟨_, rfl⟩, hbrings.eq_of_none⟩
    | cons first before =>
      refine absurd ⟨hfresh, ⟨first, ?_, hrange first List.mem_cons_self⟩, bad, ?_, hbad⟩ hwhole
      · rw [hitems]
        rfl
      · rw [hitems]
        simp

theorem Insertion.halfway {answer : Except StoreError Unit} {t : Tables}
    (h : u.Insertion items answer t) (hinterrupted : u.Interrupted items) :
    answer = .error .windowTooLong ∧ t ≠ u.tables := by
  obtain ⟨hfresh, ⟨first, hhead, hfirst⟩, broken, hmem, hbroken⟩ := hinterrupted
  cases h with
  | done _ hrange _ => exact absurd (hrange broken hmem) (by simp [hbroken])
  | refused hnot => exact absurd hfresh hnot
  | @stopped before bad after _ _ hitems hrange hbad hbrings =>
    refine ⟨rfl, fun hsame => ?_⟩
    cases before with
    | nil =>
      obtain rfl : bad = first := by simpa [hitems] using hhead
      simp [hfirst] at hbad
    | cons other before =>
      -- The first row is written, and there was none before.
      obtain ⟨time, hrow, -⟩ := hbrings.rows other List.mem_cons_self
      have habsent := hfresh.absent other.id (by simp [hitems])
      rw [hsame, habsent] at hrow
      cases hrow

end UnitOfWork

/-- An insert brings all of its items, is refused, or stops at the first delay that is too long with
the rows before it written. It is all or nothing unless that happens after the first row. -/
theorem insertion_all_or_nothing_iff (u : UnitOfWork) (items : List Item) :
    u.Insertion items (u.insert items).1 (u.insert items).2.tables ∧
      (u.AllOrNothing items ↔ ¬u.Interrupted items) := by
  have hinsertion := u.insertion items
  refine ⟨hinsertion, fun hall hinterrupted => ?_, fun hwhole => hinsertion.allOrNothing hwhole⟩
  obtain ⟨herror, hchanged⟩ := hinsertion.halfway hinterrupted
  rcases hall with ⟨hok, -⟩ | ⟨-, hsame⟩
  · cases herror.symm.trans hok
  · exact hchanged hsame

/-- The first item of an insert that fails stays in the unit, and the commit of another item whose
hook goes on after the error makes it a row of its own. -/
theorem insertion_cut_short :
    let X : Effects := ⟨Unit, fun _ => Unit⟩
    let answer := fun (_ : Unit) (b : Backend) => ((), b)
    let items : List Item :=
      [⟨⟨2⟩, .zero, 1⟩, ⟨⟨3⟩, .ofSeconds 9223372036854776, 1⟩, ⟨⟨4⟩, .zero, 1⟩]
    let hook : Hook X := .ask (.store (.insert items)) fun _ => .done (.ok ())
    let g : Collaborator LeavesRows := .plain _
    let b := (Backend.start (.clamp 0)).play
      [.call g (.append ⟨⟨1⟩, .zero, 3⟩), .call g (.readItems 10)]
    let ended := (Queue.commit ⟨true, true⟩ ⟨1⟩ hook).exec (Backend.answer answer) b
    let u := UnitOfWork.begin b.tables b.clock.now
    (u.insert items).1 = .error .windowTooLong ∧ ¬u.AllOrNothing items ∧ ended.1 = .ok () ∧
      ended.2.tables.items.rows = [(⟨2⟩, ⟨.ready, 1, .clamp 0⟩)] := by
  intro X answer items hook g b ended u
  have hanswer : (u.insert items).1 = .error .windowTooLong := by decide +kernel
  have hrow : (u.insert items).2.tables.status? ⟨2⟩ = some .ready := by decide +kernel
  have hnone : u.tables.status? ⟨2⟩ = none := by decide +kernel
  refine ⟨hanswer, ?_, by decide +kernel, by decide +kernel⟩
  rintro (⟨hok, -⟩ | ⟨-, hsame⟩)
  · cases hanswer.symm.trans hok
  · rw [hsame, hnone] at hrow
    cases hrow

end WorkQueue.Memory
