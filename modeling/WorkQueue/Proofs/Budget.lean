import WorkQueue.Proofs.Conformance

namespace WorkQueue.Memory

open Queue

variable {S : UnitOfWork → UnitOfWork → Prop}

def rejection (id : ItemId) : Event := .of .reject (.id id)

def rejections (id : ItemId) (events : List Event) : Nat := events.count (rejection id)

@[simp] theorem rejections_append (id : ItemId) (events more : List Event) :
    rejections id (events ++ more) = rejections id events + rejections id more := List.count_append

/-- What was granted to an item is used up by its row and the rejections told of it. -/
def Balanced (granted told : Nat) : Option Row → Prop
  | some row => row.attempts.toNat + told = granted
  | none => told ≤ granted

theorem Balanced.le {granted told : Nat} {row : Option Row} (h : Balanced granted told row) :
    told ≤ granted := by
  cases row with
  | none => exact h
  | some row => exact Nat.le.intro ((Nat.add_comm _ _).trans h)

def charge (id : ItemId) (row : Option Row) : Call → Nat
  | .reject _ key _ => if key = id ∧ row.map (·.status) = some .processing then 1 else 0
  | _ => 0

section Step

variable {u v : UnitOfWork} {now : Instant} {t t' : Tables} {c : Call} {r : Reply}
  {events : List Event} {id : ItemId} {granted n : Nat}

theorem rejections_eventOf (u : UnitOfWork) (r : Reply) (c : Call) (id : ItemId) :
    rejections id [eventOf u r c] = charge id (u.tables.items.get? id) c := by
  cases c with
  | reject archives key cause =>
    by_cases hkey : key = id
    · subst hkey
      by_cases hstatus : u.tables.status? key = some .processing <;>
        simp_all [rejections, rejection, eventOf, charge, Tables.status?, Event.of, Activity.name]
    · simp only [rejections, rejection, eventOf, charge, hkey, false_and, if_false]
      split <;> simp [Event.of, hkey]
  | _ => simp [rejections, rejection, eventOf, charge, Event.of, Activity.name]

theorem charge_eq_zero {row : Option Row} (h : ¬Moves id row r c) : charge id row c = 0 := by
  cases c with
  | reject archives key cause =>
    apply if_neg
    intro ⟨hkey, hstatus⟩
    exact h ⟨hkey.symm, hstatus⟩
  | _ => rfl

theorem Outcome.rejections_eq (h : Outcome S now t c (.ok r) events t') (hS : Spares S id) :
    rejections id events = charge id (t.items.get? id) c := by
  cases h with
  | spared _ hidle => exact (charge_eq_zero (r := r) (not_moves_of_isIdle hidle _)).symm
  | worked _ before _ _ =>
    rw [rejections_eventOf, (before.leaves hS).same]
    rfl

theorem toNat_sub_one {n : UInt32} (h : n ≠ 0) : (n - 1).toNat + 1 = n.toNat := by
  have hpos : n.toNat ≠ 0 := fun hzero => h (UInt32.toNat_inj.1 hzero)
  have hle : 1 ≤ n := by
    rw [UInt32.le_iff_toNat_le]
    exact Nat.one_le_iff_ne_zero.2 hpos
  rw [UInt32.toNat_sub_of_le _ _ hle]
  exact Nat.succ_pred hpos

theorem Edge.balanced {row row' : Option Row} (h : Edge now id c row row')
    (hclosed : id ∉ c.items.map (·.id)) (hbalanced : Balanced granted n row) :
    Balanced granted (n + charge id row c) row' := by
  cases h with
  | appended hmem hid _ => exact absurd (hid ▸ List.mem_map_of_mem hmem) hclosed
  | committed => exact hbalanced.le
  | discarded => exact hbalanced.le
  | @rejected _ _ attempts _ h =>
    have hone := toNat_sub_one h
    simp only [Balanced, charge] at hbalanced ⊢
    simp
    omega
  | _ => exact hbalanced

theorem Outcome.balanced {result : Except QueueError Reply}
    (h : Outcome S now t c result events t') (hS : Spares S id)
    (hrow : Regular id (t.items.get? id))
    (hclosed : ∀ r, result = .ok r → id ∉ c.items.map (·.id))
    (hbalanced : Balanced granted n (t.items.get? id)) :
    Balanced granted (n + rejections id events) (t'.items.get? id) := by
  cases result with
  | error e =>
    obtain ⟨rfl, rfl⟩ := h.of_error
    exact hbalanced
  | ok r =>
    rw [h.rejections_eq hS]
    obtain ⟨hmoved, hkept⟩ := h.conforms hS hrow
    by_cases hmoves : Moves id (t.items.get? id) r c
    · exact (hmoved hmoves).balanced (hclosed r rfl) hbalanced
    · rw [charge_eq_zero hmoves, hkept hmoves]
      exact hbalanced

theorem Works.nodup_items (h : Works u c r v) : (c.items.map (·.id)).Nodup := by
  cases h with
  | append h => exact (UnitOfWork.insert_fresh h).1
  | appends h => exact (UnitOfWork.insert_fresh h).1
  | _ => exact List.nodup_nil

theorem Works.brought (h : Works u c r v) {item : Item} (hmem : item ∈ c.items) :
    ∃ row, v.tables.items.get? item.id = some row ∧ row.attempts = item.retryAttempts := by
  obtain ⟨row, hrow⟩ := Table.contains_iff.1 (h.inserted hmem)
  refine ⟨row, hrow, ?_⟩
  have hchange := h.change item.id
  rw [h.fresh hmem, hrow] at hchange
  cases hchange with
  | @inserted _ _ other _ hother hid _ =>
    rw [List.inj_on_of_nodup_map h.nodup_items hother hmem hid]

theorem moves_of_mem {item : Item} (h : item ∈ c.items) (row : Option Row) :
    Moves item.id row r c := by
  cases c with
  | append other => exact List.mem_singleton.1 h ▸ rfl
  | appends items => exact ⟨item, h, rfl⟩
  | _ => cases h

theorem Outcome.brought {item : Item} (h : Outcome S now t c (.ok r) events t')
    (hS : Spares S item.id) (hmem : item ∈ c.items) :
    t.items.get? item.id = none ∧
      ∃ row, t'.items.get? item.id = some row ∧ row.attempts = item.retryAttempts := by
  cases h with
  | spared _ hidle => exact absurd (moves_of_mem hmem none) (not_moves_of_isIdle (r := r) hidle none)
  | worked _ before works after =>
    rw [(after.leaves hS).same, ← show _ = t.items.get? item.id from (before.leaves hS).same]
    exact ⟨works.fresh hmem, works.brought hmem⟩

theorem Edge.discarded_of_spent {row : Row} {row' : Option Row} (h : Edge now id c (some row) row')
    (hstatus : row.status = .retry) (hattempts : row.attempts = 0) :
    ∃ limit, c = .removeExhausted limit ∧ row' = none := by
  cases h with
  | requeued h => exact absurd hattempts h
  | discarded => exact ⟨_, rfl, rfl⟩
  | _ => cases hstatus

end Step

namespace Backend

def Brings (b : Backend) (id : ItemId) : Act S → Prop
  | .call g c => id ∈ c.items.map (·.id) ∧ ∃ r, (g.run c b).1 = .ok r
  | .clock _ => False

def Closed (b : Backend) (id : ItemId) (acts : List (Act S)) : Prop :=
  ∀ x a y, acts = x ++ a :: y → ¬(b.play x).Brings id a

/-- The latest step of a run from `b` that brought the item in, by the state that it led to and what
came since then. -/
inductive LastBrought (b : Backend) (item : Item) : List (Act S) → Backend → List (Act S) → Prop
  | intro {x g c r since} (hmem : item ∈ c.items) (hok : (g.run c (b.play x)).1 = .ok r)
    (hclosed : ((b.play x).act (.call g c)).Closed item.id since) :
    LastBrought b item (x ++ .call g c :: since) ((b.play x).act (.call g c)) since

section Balance

variable {b : Backend} {id : ItemId} {granted n : Nat} {a : Act S} {acts : List (Act S)}

theorem Closed.tail (h : b.Closed id (a :: acts)) : (b.act a).Closed id acts :=
  fun x a' y hsplit => h (a :: x) a' y (congrArg (a :: ·) hsplit)

theorem Sound.balanced_act (h : b.Sound id) (hS : Spares S id) (hclosed : ¬b.Brings id a)
    (hbalanced : Balanced granted n (b.row? id)) :
    Balanced granted (n + rejections id (b.actEvents a)) ((b.act a).row? id) := by
  cases a with
  | clock k => exact hbalanced
  | call g c =>
    refine (h.free.outcome g c).2.balanced hS h.regular ?_ hbalanced
    intro r hr hmem
    exact hclosed ⟨hmem, r, hr⟩

theorem Sound.balanced_play (h : b.Sound id) (hS : Spares S id) (hclosed : b.Closed id acts)
    (hbalanced : Balanced granted n (b.row? id)) :
    Balanced granted (n + rejections id (b.events acts)) ((b.play acts).row? id) := by
  -- What was told before the rest of the run is part of `n`.
  induction acts generalizing b n with
  | nil => exact hbalanced
  | cons a acts ih =>
    have hnow := h.balanced_act hS (hclosed [] a acts rfl) hbalanced
    rw [events, rejections_append, ← Nat.add_assoc]
    exact ih (h.act hS a) hclosed.tail hnow

theorem Free.row?_of_brings (h : b.Free) (hS : Spares S id) (hbrings : b.Brings id a) :
    b.row? id = none := by
  cases a with
  | clock k => exact hbrings.elim
  | call g c =>
    obtain ⟨hid, r, hr⟩ := hbrings
    obtain ⟨item, hmem, rfl⟩ := List.mem_map.1 hid
    have houtcome := (h.outcome g c).2
    rw [hr] at houtcome
    exact (houtcome.brought hS hmem).1

theorem Sound.exists_lastBrought (h : b.Sound id) (hS : Spares S id) (hnone : b.row? id = none)
    (hend : (b.play acts).row? id ≠ none) :
    ∃ item b' since, item.id = id ∧ LastBrought b item acts b' since := by
  obtain ⟨x, a, y, rfl, hx, hy⟩ :=
    exists_enters (p := fun b : Backend => b.row? id ≠ none) (not_not_intro hnone) hend
  have hsound := h.play hS x
  have hbefore : (b.play x).row? id = none := not_not.1 hx
  have hafter : ((b.play x).act a).row? id ≠ none := hy [] List.nil_prefix
  rcases hsound.act_edge hS a with hsame | ⟨g, c, r, rfl, hr, -, hedge⟩
  · exact absurd (hsame.trans hbefore) hafter
  · rw [hbefore] at hedge
    generalize ((b.play x).act (.call g c)).row? id = row at hedge
    cases hedge with
    | @appended _ item _ hmem hid _ =>
      refine ⟨item, _, y, hid, .intro hmem hr ?_⟩
      rw [hid]
      -- The row is there all the time since, so nothing brings the item in again.
      intro y' a' z hsplit hbrings
      exact hy y' ⟨a' :: z, hsplit.symm⟩ ((hsound.free.act _).play y' |>.row?_of_brings hS hbrings)

theorem LastBrought.balanced {item : Item} {b' : Backend} {since : List (Act S)}
    (h : LastBrought b item acts b' since) (hsound : b.Sound item.id) (hS : Spares S item.id) :
    Balanced item.retryAttempts.toNat (rejections item.id (b'.events since))
      ((b.play acts).row? item.id) := by
  cases h with
  | @intro x g c r _ hmem hok hclosed =>
    have hbefore := hsound.play hS x
    have houtcome := (hbefore.free.outcome g c).2
    rw [hok] at houtcome
    obtain ⟨-, row, hbrought, hattempts⟩ := houtcome.brought hS hmem
    have hstart : Balanced item.retryAttempts.toNat 0
        (((b.play x).act (.call g c)).row? item.id) := by
      rw [show ((b.play x).act (.call g c)).row? item.id = some row from hbrought]
      exact congrArg UInt32.toNat hattempts
    have hend := (hbefore.act hS (.call g c)).balanced_play hS hclosed hstart
    rw [Nat.zero_add] at hend
    rw [play_append]
    exact hend

structure Exhausted (S : UnitOfWork → UnitOfWork → Prop) (b : Backend) (id : ItemId) (row : Row) :
    Prop where
  retry : row.status = .retry
  unclaimed : ∀ (g : Collaborator S) limit r,
    (g.run (.readItems limit) b).1 = .ok r → id ∉ r.items
  unpromoted : ∀ (g : Collaborator S) w limit r,
    (g.run (.requeue w limit) b).1 = .ok r → id ∉ r.items
  stays : ∀ more : List (Act S), (∀ done, done <+: more → (b.play done).row? id = some row) ∨
    ∃ x g limit y r, more = x ++ .call g (.removeExhausted limit) :: y ∧
      (∀ done, done <+: x → (b.play done).row? id = some row) ∧
      (g.run (.removeExhausted limit) (b.play x)).1 = .ok r ∧ id ∈ r.items ∧
      (g.run (.removeExhausted limit) (b.play x)).2.row? id = none

structure Ledger (b : Backend) (acts : List (Act S)) (id : ItemId) : Prop where
  balance : ∀ row, (b.play acts).row? id = some row → ∃ item b' since, item.id = id ∧
    LastBrought b item acts b' since ∧
      row.attempts.toNat + rejections id (b'.events since) = item.retryAttempts.toNat
  bounded : ∀ item b' since, item.id = id → LastBrought b item acts b' since →
    rejections id (b'.events since) ≤ item.retryAttempts.toNat
  charged : ∀ (g : Collaborator S) archives cause r row,
    (g.run (.reject archives id cause) (b.play acts)).1 = .ok r →
    (b.play acts).row? id = some row → row.status = .processing →
      ∃ row', (g.run (.reject archives id cause) (b.play acts)).2.row? id = some row' ∧
        row'.attempts.toNat + 1 = row.attempts.toNat
  exhausted : ∀ row, (b.play acts).row? id = some row → row.attempts = 0 →
    Exhausted S (b.play acts) id row

theorem Sound.charged (h : b.Sound id) (hS : Spares S id) {g : Collaborator S}
    {archives : Archives} {cause : String} {r : Reply} {row : Row}
    (hr : (g.run (.reject archives id cause) b).1 = .ok r) (hrow : b.row? id = some row)
    (hstatus : row.status = .processing) :
    ∃ row', (g.run (.reject archives id cause) b).2.row? id = some row' ∧
      row'.attempts.toNat + 1 = row.attempts.toNat := by
  have hmoves : Moves id (some row) r (.reject archives id cause) := ⟨rfl, congrArg some hstatus⟩
  obtain ⟨_, hrow', hedge⟩ := h.edge hS hr hrow hmoves
  cases hedge with
  | rejected hattempts => exact ⟨_, hrow', toNat_sub_one hattempts⟩

theorem Sound.exhausted (h : b.Sound id) (hS : Spares S id) {row : Row}
    (hrow : b.row? id = some row) (hattempts : row.attempts = 0) : Exhausted S b id row := by
  have hretry := h.regular.spent row hrow hattempts
  have only {g : Collaborator S} {c : Call} {r : Reply} (hr : (g.run c b).1 = .ok r)
      (hmoves : Moves id (some row) r c) : ∃ limit, c = .removeExhausted limit := by
    obtain ⟨_, -, hedge⟩ := h.edge hS hr hrow hmoves
    obtain ⟨limit, hc, -⟩ := hedge.discarded_of_spent hretry hattempts
    exact ⟨limit, hc⟩
  refine ⟨hretry, ?_, ?_, ?_⟩
  · intro g limit r hr hmem
    obtain ⟨_, hc⟩ := only hr hmem
    cases hc
  · intro g w limit r hr hmem
    obtain ⟨_, hc⟩ := only hr hmem
    cases hc
  · intro more
    -- The first step after which the row is another one has to be the removal.
    rcases exists_leaves (f := Backend.act) (p := fun b : Backend => b.row? id = some row) more hrow
      with hall | ⟨x, a, y, rfl, hx, hlost⟩
    · exact .inl hall
    · have hthere : (b.play x).row? id = some row := hx x List.prefix_rfl
      rcases (h.play hS x).act_edge hS a with hsame | ⟨g, c, r, rfl, hr, hmoves, hedge⟩
      · exact absurd (hsame.trans hthere) hlost
      · rw [hthere] at hedge
        obtain ⟨limit, rfl, hnone⟩ := hedge.discarded_of_spent hretry hattempts
        exact .inr ⟨x, g, limit, y, r, rfl, hx, hr, hmoves, hnone⟩

end Balance

end Backend

/-- In every state of a run the account of every item is right. -/
theorem retry_ledger (t : Instant) (acts : List (Act LeavesRows)) (id : ItemId) :
    (Backend.start t).Ledger acts id := by
  have hstart := Backend.Sound.start t id
  have hS := spares_rows id
  refine ⟨?_, ?_, ?_, ?_⟩
  · intro row hrow
    have hend : ((Backend.start t).play acts).row? id ≠ none := by simp [hrow]
    obtain ⟨item, b', since, rfl, hlast⟩ :=
      hstart.exists_lastBrought hS (Backend.row?_start t id) hend
    have hbalanced := hlast.balanced hstart hS
    rw [hrow] at hbalanced
    exact ⟨item, b', since, rfl, hlast, hbalanced⟩
  · rintro item b' since rfl hlast
    exact (hlast.balanced hstart hS).le
  · intro g archives cause r row
    exact (hstart.play hS acts).charged hS
  · intro row
    exact (hstart.play hS acts).exhausted hS

end WorkQueue.Memory
