import WorkQueue.Proofs.Budget
import WorkQueue.Proofs.Census

namespace WorkQueue.Memory

open Queue

variable {S : UnitOfWork → UnitOfWork → Prop}

section Step

variable {now : Instant} {t t' : Tables} {c : Call} {events : List Event} {id : ItemId}

theorem Outcome.stock {result : Except QueueError Reply} (h : Outcome S now t c result events t')
    (hS : ∀ id, Spares S id) (hregular : ∀ id, Regular id (t.items.get? id)) :
    t'.items.size + tally Category.committed.has events +
        tally Activity.removeExhausted.is events =
      t.items.size + tally Category.appended.has events := by
  cases result with
  | error e =>
    obtain ⟨rfl, rfl⟩ := h.of_error
    rfl
  | ok r =>
    have hrows := h.population_eq hS hregular fun _ => true
    rw [population_true, population_true] at hrows
    rw [h.tally_eq hS hregular (p := Category.committed.has) (by decide),
      h.tally_eq hS hregular (p := Activity.removeExhausted.is) (by decide),
      h.tally_eq hS hregular (p := Category.appended.has) (by decide)]
    cases c with
    | _ => simpa [route, activity, Category.has, Category.ofName?, Activity.is, Activity.name]
      using hrows

theorem Edge.taken {row row' : Option Row} (h : Edge now id c row row') (hrow : row ≠ none)
    (hrow' : row' = none) :
    (∃ archives, c = .commit archives id) ∨ ∃ limit, c = .removeExhausted limit := by
  cases h with
  | appended _ _ _ => exact absurd rfl hrow
  | committed => exact .inl ⟨_, rfl⟩
  | discarded => exact .inr ⟨_, rfl⟩
  | _ => cases hrow'

end Step

namespace Backend

inductive Takes (b : Backend) (id : ItemId) : Act S → Prop
  | committed {g archives r} (hr : (g.run (.commit archives id) b).1 = .ok r) :
    b.Takes id (.call g (.commit archives id))
  | removed {g limit r} (hr : (g.run (.removeExhausted limit) b).1 = .ok r) (hmem : id ∈ r.items) :
    b.Takes id (.call g (.removeExhausted limit))

variable {b : Backend} {id : ItemId}

theorem Sound.stays (h : b.Sound id) (hS : Spares S id) (hrow : b.row? id ≠ none)
    (acts : List (Act S)) : (b.play acts).row? id ≠ none ∨
      ∃ x a y, acts = x ++ a :: y ∧ (b.play x).Takes id a := by
  rcases exists_leaves (f := Backend.act) (p := fun b : Backend => b.row? id ≠ none) acts hrow with
    hall | ⟨x, a, y, rfl, hx, hlost⟩
  · exact .inl (hall acts List.prefix_rfl)
  · have hthere : (b.play x).row? id ≠ none := hx x List.prefix_rfl
    have hgone : ((b.play x).act a).row? id = none := not_not.1 hlost
    rcases (h.play hS x).act_edge hS a with hsame | ⟨g, c, r, rfl, hr, hmoves, hedge⟩
    · exact absurd (hsame.symm.trans hgone) hthere
    · refine .inr ⟨x, .call g c, y, rfl, ?_⟩
      rcases hedge.taken hthere hgone with ⟨archives, rfl⟩ | ⟨limit, rfl⟩
      · exact .committed hr
      · exact .removed hr hmoves

theorem stock_act (h : ∀ id, b.Sound id) (hS : ∀ id, Spares S id) (a : Act S) :
    (b.act a).tables.items.size + tally Category.committed.has (b.actEvents a) +
        tally Activity.removeExhausted.is (b.actEvents a) =
      b.tables.items.size + tally Category.appended.has (b.actEvents a) := by
  cases a with
  | clock k => rfl
  | call g c => exact ((h ⟨0⟩).free.outcome g c).2.stock hS fun id => (h id).regular

theorem stock_play (h : ∀ id, b.Sound id) (hS : ∀ id, Spares S id) (acts : List (Act S)) :
    (b.play acts).tables.items.size + tally Category.committed.has (b.events acts) +
        tally Activity.removeExhausted.is (b.events acts) =
      b.tables.items.size + tally Category.appended.has (b.events acts) := by
  induction acts generalizing b with
  | nil => rfl
  | cons a acts ih =>
    have hfirst := stock_act h hS a
    have hrest := ih fun id => (h id).act (hS id) a
    rw [events, tally_append, tally_append, tally_append]
    change ((b.act a).play acts).tables.items.size + _ + _ = _
    omega

end Backend

/-- No item is lost: what a call of a run brought in is there, or a later step took it out, and as
many items were told of as appended as there are rows and were told of as committed or removed for
want of attempts. -/
theorem no_item_lost (t : Instant) (acts : List (Act LeavesRows)) (hquiet : ∀ a ∈ acts, a.Quiet) :
    let b := (Backend.start t).play acts
    let m := b.metrics
    (∀ x g c since r item, acts = x ++ .call g c :: since →
      (g.run c ((Backend.start t).play x)).1 = .ok r → item ∈ c.items →
        b.row? item.id ≠ none ∨ ∃ y a z, since = y ++ a :: z ∧
          ((Backend.start t).play (x ++ .call g c :: y)).Takes item.id a) ∧
    m.appended =
      UInt64.ofNat b.tables.items.size + m.committed + m.itemsOf .removeExhausted ∧
    -- The totals did not wrap if the items told of as appended are fewer than 2^64.
    (tally Category.appended.has ((Backend.start t).events acts) < 2 ^ 64 → m.appended.toNat =
      b.tables.items.size + m.committed.toNat + (m.itemsOf .removeExhausted).toNat) := by
  intro b m
  have hstart := Backend.Sound.start t
  have hstock := Backend.stock_play hstart spares_rows acts
  have happended : m.appended = UInt64.ofNat _ := Backend.counter_play t hquiet .appended
  have hcommitted : m.committed = UInt64.ofNat _ := Backend.counter_play t hquiet .committed
  have hremoved : m.itemsOf .removeExhausted = UInt64.ofNat _ :=
    Backend.itemsOf_play t hquiet .removeExhausted
  have hempty : (Backend.start t).tables.items.size = 0 := rfl
  rw [hempty, Nat.zero_add] at hstock
  refine ⟨?_, ?_, ?_⟩
  · rintro x g c since r item rfl hr hmem
    have hsound := (hstart item.id).play (spares_rows _) x
    obtain ⟨-, row, hrow, -⟩ := (hsound.free.outcome_ok hr).brought (spares_rows _) hmem
    have hthere : (((Backend.start t).play x).act (.call g c)).row? item.id ≠ none := by
      rw [show (((Backend.start t).play x).act (.call g c)).row? item.id = some row from hrow]
      exact Option.some_ne_none row
    have hstays := (hsound.act (spares_rows _) (.call g c)).stays (spares_rows _) hthere since
    simpa only [b, Backend.play_append, Backend.play_cons] using hstays
  · rw [happended, hcommitted, hremoved, ← hstock, UInt64.ofNat_add, UInt64.ofNat_add]
  · intro hfits
    rw [← hstock] at hfits
    rw [happended, hcommitted, hremoved, ← hstock, UInt64.toNat_ofNat_of_lt' hfits,
      UInt64.toNat_ofNat_of_lt' (Nat.lt_of_le_of_lt (by omega) hfits),
      UInt64.toNat_ofNat_of_lt' (Nat.lt_of_le_of_lt (by omega) hfits)]

/-- One item that is committed, one that runs out of attempts, and one that is still there. -/
theorem no_item_lost_settled :
    let acts : List (Act LeavesRows) := [.append ⟨⟨1⟩, .zero, 3⟩, .readItems 10,
      .commit ⟨true, true⟩ ⟨1⟩, .append ⟨⟨2⟩, .zero, 1⟩, .readItems 10,
      .reject ⟨true, true⟩ ⟨2⟩ "boom", .removeExhausted 10, .appends [⟨⟨3⟩, .zero, 3⟩]].map .plain
    let b := (Backend.start (.clamp 0)).play acts
    (∀ a ∈ acts, a.Quiet) ∧ b.metrics.appended = 3 ∧ b.tables.items.size = 1 ∧
      b.metrics.appended.toNat = b.tables.items.size + b.metrics.committed.toNat +
        (b.metrics.itemsOf .removeExhausted).toNat := by
  intro acts b
  have hquiet : ∀ a ∈ acts, a.Quiet := Act.plain_quiet
  have hfits : tally Category.appended.has ((Backend.start (.clamp 0)).events acts) < 2 ^ 64 := by
    decide +kernel
  obtain ⟨-, -, hexact⟩ := no_item_lost (.clamp 0) acts hquiet
  exact ⟨hquiet, by decide +kernel, by decide +kernel, hexact hfits⟩

end WorkQueue.Memory
