import WorkQueue.Proofs.Lifecycle

namespace WorkQueue.Memory

open Queue

variable {S : UnitOfWork → UnitOfWork → Prop}

section Outcome

variable {now : Instant} {t t' : Tables} {c : Call} {r : Reply} {events : List Event} {id : ItemId}

theorem Outcome.of_error {e : QueueError} (h : Outcome S now t c (.error e) events t') :
    events = [] ∧ t' = t := by
  cases h with
  | failed => exact ⟨rfl, rfl⟩

theorem Outcome.fault?_of_ok (h : Outcome S now t c (.ok r) events t') : c.fault? = none := by
  cases h with
  | spared hfault _ => exact hfault
  | worked hfault _ _ _ => exact hfault

theorem Outcome.change (h : Outcome S now t c (.ok r) events t') (hS : Spares S id) :
    Change now id c r (t.items.get? id) (t'.items.get? id) := by
  cases h with
  | spared _ _ => exact .same
  | worked _ before works after =>
    have hbefore := before.leaves hS
    have hchange := works.change id
    rw [hbefore.now, hbefore.same] at hchange
    rw [(after.leaves hS).same]
    exact hchange

end Outcome

inductive Act (S : UnitOfWork → UnitOfWork → Prop)
  | call (g : Collaborator S) (c : Call)
  | clock (k : Clock)

def Act.plain {γ : Type} {view : Tables → γ} (c : Call) : Act (Leaves view) :=
  .call (.plain view) c

namespace Backend

def act (b : Backend) : Act S → Backend
  | .call g c => (g.run c b).2
  | .clock k => { b with clock := k }

def play (b : Backend) (acts : List (Act S)) : Backend := acts.foldl act b

def actEvents (b : Backend) : Act S → List Event
  | .call g c => g.events c b
  | .clock _ => []

def events (b : Backend) : List (Act S) → List Event
  | [] => []
  | a :: acts => b.actEvents a ++ (b.act a).events acts

variable {b : Backend} {id : ItemId}

@[simp] theorem play_cons (b : Backend) (a : Act S) (acts : List (Act S)) :
    b.play (a :: acts) = (b.act a).play acts := rfl

@[simp] theorem play_append (b : Backend) (acts more : List (Act S)) :
    b.play (acts ++ more) = (b.play acts).play more := List.foldl_append

theorem Free.outcome (h : b.Free) (g : Collaborator S) (c : Call) :
    (g.run c b).2.Free ∧ Outcome S b.clock.now b.tables c (g.run c b).1 (g.events c b)
      (g.run c b).2.tables := by
  obtain ⟨t, ht, houtcome⟩ := g.run_outcome (c := c) h
  have htables : (g.run c b).2.tables = t := congrArg Engine.tables ht
  rw [← htables] at ht houtcome
  exact ⟨ht, houtcome⟩

theorem Free.outcome_ok (h : b.Free) {g : Collaborator S} {c : Call} {r : Reply}
    (hr : (g.run c b).1 = .ok r) :
    Outcome S b.clock.now b.tables c (.ok r) (g.events c b) (g.run c b).2.tables :=
  hr ▸ (h.outcome g c).2

theorem Free.outcome_error (h : b.Free) {g : Collaborator S} {c : Call} {e : QueueError}
    (he : (g.run c b).1 = .error e) : g.events c b = [] ∧ (g.run c b).2.tables = b.tables := by
  have houtcome := (h.outcome g c).2
  rw [he] at houtcome
  exact houtcome.of_error

theorem Free.act (h : b.Free) (a : Act S) : (b.act a).Free := by
  cases a with
  | call g c => exact (h.outcome g c).1
  | clock k => exact h

theorem Free.play (h : b.Free) (acts : List (Act S)) : (b.play acts).Free := by
  induction acts generalizing b with
  | nil => exact h
  | cons a acts ih => exact ih (h.act a)

theorem Free.act_row (h : b.Free) (hS : Spares S id) (a : Act S) :
    (b.act a).row? id = b.row? id ∨ ∃ g c r, a = .call g c ∧ (g.run c b).1 = .ok r ∧
      c.fault? = none ∧ Change b.clock.now id c r (b.row? id) ((b.act a).row? id) := by
  cases a with
  | clock k => exact .inl rfl
  | call g c =>
    cases hresult : (g.run c b).1 with
    | error e => exact .inl (congrArg (·.items.get? id) (h.outcome_error hresult).2)
    | ok r =>
      have houtcome := h.outcome_ok hresult
      exact .inr ⟨g, c, r, rfl, hresult, houtcome.fault?_of_ok, houtcome.change hS⟩

end Backend

/-- A row of `id`, if there is one, has a proper id, and without attempts it is in retry. -/
structure Regular (id : ItemId) (row? : Option Row) : Prop where
  id : ∀ row, row? = some row → id.isZero = false
  spent : ∀ row, row? = some row → row.attempts = 0 → row.status = .retry

section Regular

variable {now : Instant} {c : Call} {r : Reply} {id : ItemId}

theorem Regular.absent (id : ItemId) : Regular id none := by
  constructor <;> simp

theorem Regular.present {row : Row} (hid : id.isZero = false)
    (hspent : row.attempts = 0 → row.status = .retry) : Regular id (some row) where
  id _ _ := hid
  spent _ h := by
    cases h
    exact hspent

theorem validate_ok {item : Item} (h : item.validate = .ok ()) :
    item.id.isZero = false ∧ item.retryAttempts ≠ 0 := by
  simp only [Item.validate] at h
  split at h
  · cases h
  · next hid =>
    split at h
    · cases h
    · next hattempts => exact ⟨Bool.eq_false_iff.2 hid, fun hzero => hattempts (by simp [hzero])⟩

theorem fault?_eq_none {item : Item} (h : c.fault? = none) (hmem : item ∈ c.items) :
    item.validate = .ok () := by
  cases c with
  | append other =>
    cases List.mem_singleton.1 hmem
    simp only [Call.fault?] at h
    split at h
    · next hvalid => exact hvalid
    · cases h
  | appends items =>
    simp only [Call.fault?, Option.map_eq_none_iff, firstInvalid, List.head?_eq_none_iff,
      List.filterMap_eq_nil_iff] at h
    obtain ⟨index, hindex⟩ := List.mem_iff_getElem?.1 hmem
    have hvalid := h _ (List.mk_mem_zipIdx_iff_getElem?.2 hindex)
    dsimp only at hvalid
    split at hvalid
    · next hok => exact hok
    · cases hvalid
  | _ => cases hmem

theorem Change.regular {row row' : Option Row} (h : Change now id c r row row')
    (hfault : c.fault? = none) (hrow : Regular id row) : Regular id row' := by
  cases h with
  | same => exact hrow
  | inserted hmem hid _ =>
    obtain ⟨hzero, hattempts⟩ := validate_ok (fault?_eq_none hfault hmem)
    exact .present (hid ▸ hzero) fun h => absurd h hattempts
  | claimed _ hstatus _ | released _ hstatus =>
    -- The attempts are kept, and a row without any would be in retry.
    have hkept := fun h => hstatus.symm.trans (hrow.spent _ rfl h)
    exact .present (hrow.id _ rfl) fun h => absurd (hkept h) (by decide)
  | rejected _ => exact .present (hrow.id _ rfl) fun _ => rfl
  | recovered _ _ => exact .present (hrow.id _ rfl) fun _ => rfl
  | requeued _ _ hattempts => exact .present (hrow.id _ rfl) fun h => absurd h hattempts
  | committed _ => exact .absent id
  | discarded _ _ _ => exact .absent id

def KeepsRegular (S : UnitOfWork → UnitOfWork → Prop) (id : ItemId) : Prop :=
  ∀ u v, S u v → Regular id (u.tables.items.get? id) → Regular id (v.tables.items.get? id)

theorem Spares.keepsRegular (h : Spares S id) : KeepsRegular S id := by
  intro u v hS hrow
  have hsame : v.tables.items.get? id = u.tables.items.get? id := (h u v hS).same
  exact hsame ▸ hrow

theorem Beside.regular {step : Bool} {u v : UnitOfWork} (h : Beside S step u v)
    (hS : KeepsRegular S id) (hrow : Regular id (u.tables.items.get? id)) :
    Regular id (v.tables.items.get? id) := by
  cases h with
  | alone => exact hrow
  | step _ h => exact hS _ _ h hrow

theorem Outcome.regular {t t' : Tables} {events : List Event}
    (h : Outcome S now t c (.ok r) events t') (hS : KeepsRegular S id)
    (hrow : Regular id (t.items.get? id)) : Regular id (t'.items.get? id) := by
  cases h with
  | spared _ _ => exact hrow
  | worked hfault before works after =>
    exact after.regular hS ((works.change id).regular hfault (before.regular hS hrow))

end Regular

namespace Backend

variable {b : Backend} {id : ItemId}

structure Sound (b : Backend) (id : ItemId) : Prop where
  free : b.Free
  regular : Regular id (b.row? id)

theorem row?_start (t : Instant) (id : ItemId) : (start t).row? id = none := rfl

theorem Sound.start (t : Instant) (id : ItemId) : (start t).Sound id :=
  ⟨.start t, row?_start t id ▸ .absent id⟩

theorem Sound.act_keeps (h : b.Sound id) (hS : KeepsRegular S id) (a : Act S) :
    (b.act a).Sound id where
  free := h.free.act a
  regular := by
    cases a with
    | clock k => exact h.regular
    | call g c =>
      cases hresult : (g.run c b).1 with
      | error e =>
        have hsame : (b.act (.call g c)).row? id = b.row? id :=
          congrArg (·.items.get? id) (h.free.outcome_error hresult).2
        rw [hsame]
        exact h.regular
      | ok r => exact (h.free.outcome_ok hresult).regular hS h.regular

theorem Sound.play_keeps (h : b.Sound id) (hS : KeepsRegular S id) (acts : List (Act S)) :
    (b.play acts).Sound id := by
  induction acts generalizing b with
  | nil => exact h
  | cons a acts ih => exact ih (h.act_keeps hS a)

theorem Sound.act (h : b.Sound id) (hS : Spares S id) (a : Act S) : (b.act a).Sound id :=
  h.act_keeps hS.keepsRegular a

theorem Sound.play (h : b.Sound id) (hS : Spares S id) (acts : List (Act S)) :
    (b.play acts).Sound id := h.play_keeps hS.keepsRegular acts

end Backend

end WorkQueue.Memory
