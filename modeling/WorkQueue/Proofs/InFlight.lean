import WorkQueue.Proofs.Census

namespace WorkQueue.Memory

open Queue

variable {S : UnitOfWork → UnitOfWork → Prop}

def asked : Call → List ItemId
  | .cancelItems ids => ids
  | _ => []

section Step

variable {u : UnitOfWork} {now : Instant} {t t' : Tables} {c : Call} {r : Reply}
  {events : List Event}

theorem Outcome.inFlight (h : Outcome S now t c (.ok r) events t') (hS : ∀ id, Spares S id)
    (hregular : ∀ id, Regular id (t.items.get? id)) :
    (t'.itemsIn .processing).length + tally Category.committed.has events +
        tally Category.rejected.has events + tally Category.recovered.has events +
        (held t.items (asked c)).length =
      (t.itemsIn .processing).length + tally Category.claimed.has events := by
  have hrows := h.population_eq hS hregular (· == .processing)
  rw [population_status, population_status] at hrows
  rw [h.tally_eq hS hregular (p := Category.committed.has) (by decide),
    h.tally_eq hS hregular (p := Category.rejected.has) (by decide),
    h.tally_eq hS hregular (p := Category.recovered.has) (by decide),
    h.tally_eq hS hregular (p := Category.claimed.has) (by decide)]
  cases c with
  | cancelItems ids =>
    simpa [route, activity, Category.has, Category.ofName?, Activity.name, asked, movers] using hrows
  | _ =>
    simpa [route, activity, Category.has, Category.ofName?, Activity.name, asked, held] using hrows

theorem tally_cancel_eventOf (u : UnitOfWork) (r : Reply) (c : Call) :
    UInt64.ofNat (tally Activity.cancelItems.is [eventOf u r c]) =
      UInt64.ofNat (asked c).length := by
  cases c with
  | reject archives id cause =>
    simp only [eventOf, asked, tally_cons, tally_nil, Nat.add_zero]
    split <;> rfl
  | cancelItems ids =>
    have htold : tally Activity.cancelItems.is [eventOf u r (.cancelItems ids)] =
        (UInt64.ofNat ids.length).toNat := by
      simp [eventOf, Event.of, Activity.is, Event.items, EventData.items]
    rw [htold, UInt64.ofNat_toNat]
    rfl
  | _ => rfl

theorem Outcome.tally_cancel (h : Outcome S now t c (.ok r) events t') :
    UInt64.ofNat (tally Activity.cancelItems.is events) = UInt64.ofNat (asked c).length := by
  cases h with
  | worked _ _ _ _ => exact tally_cancel_eventOf _ _ _
  | spared _ hidle =>
    cases c with
    | cancelItems ids => rw [List.isEmpty_iff.1 hidle]; rfl
    | _ => rfl

end Step

namespace Backend

def releases (b : Backend) : Act S → List ItemId
  | .call g c => if (g.run c b).1.isOk then asked c else []
  | .clock _ => []

def handedBack (b : Backend) : List (Act S) → Nat
  | [] => 0
  | a :: acts => (held b.tables.items (b.releases a)).length + (b.act a).handedBack acts

def AccountsFor (b : Backend) (back : UInt64) : Prop :=
  b.metrics.claimed = UInt64.ofNat (b.tables.itemsIn .processing).length + b.metrics.committed +
    b.metrics.rejected + b.metrics.recovered + back

instance (b : Backend) (back : UInt64) : Decidable (b.AccountsFor back) :=
  inferInstanceAs (Decidable (_ = _))

section Run

variable {b : Backend} {t : Instant} {acts : List (Act S)}

theorem releases_of_ok {g : Collaborator S} {c : Call} {r : Reply}
    (hr : (g.run c b).1 = .ok r) : b.releases (.call g c) = asked c := by
  rw [releases, hr]
  rfl

theorem releases_of_error {g : Collaborator S} {c : Call} {e : QueueError}
    (he : (g.run c b).1 = .error e) : b.releases (.call g c) = [] := by
  rw [releases, he]
  rfl

theorem inFlight_act (h : ∀ id, b.Sound id) (hS : ∀ id, Spares S id) (a : Act S) :
    ((b.act a).tables.itemsIn .processing).length + tally Category.committed.has (b.actEvents a) +
        tally Category.rejected.has (b.actEvents a) +
        tally Category.recovered.has (b.actEvents a) +
        (held b.tables.items (b.releases a)).length =
      (b.tables.itemsIn .processing).length + tally Category.claimed.has (b.actEvents a) := by
  cases a with
  | clock k => rfl
  | call g c =>
    have hfree := (h ⟨0⟩).free
    cases hresult : (g.run c b).1 with
    | error e =>
      obtain ⟨hevents, htables⟩ := hfree.outcome_error hresult
      simp only [actEvents, act, hevents, htables, releases_of_error hresult]
      rfl
    | ok r =>
      rw [releases_of_ok hresult]
      exact (hfree.outcome_ok hresult).inFlight hS fun id => (h id).regular

theorem inFlight_play (h : ∀ id, b.Sound id) (hS : ∀ id, Spares S id) (acts : List (Act S)) :
    ((b.play acts).tables.itemsIn .processing).length +
        tally Category.committed.has (b.events acts) +
        tally Category.rejected.has (b.events acts) +
        tally Category.recovered.has (b.events acts) + b.handedBack acts =
      (b.tables.itemsIn .processing).length + tally Category.claimed.has (b.events acts) := by
  induction acts generalizing b with
  | nil => rfl
  | cons a acts ih =>
    have hfirst := inFlight_act h hS a
    have hrest := ih fun id => (h id).act (hS id) a
    simp only [events, tally_append, handedBack, play_cons]
    omega

theorem accountsFor_handedBack (hS : ∀ id, Spares S id) (hquiet : ∀ a ∈ acts, a.Quiet) :
    ((start t).play acts).AccountsFor (UInt64.ofNat ((start t).handedBack acts)) := by
  have hrows := inFlight_play (Sound.start t) hS acts
  have hempty : ((start t).tables.itemsIn .processing).length = 0 := rfl
  rw [hempty, Nat.zero_add] at hrows
  have hclaimed := counter_play t hquiet .claimed
  have hcommitted := counter_play t hquiet .committed
  have hrejected := counter_play t hquiet .rejected
  have hrecovered := counter_play t hquiet .recovered
  simp only [Metrics.counter] at hclaimed hcommitted hrejected hrecovered
  rw [AccountsFor, hclaimed, hcommitted, hrejected, hrecovered, ← hrows]
  simp only [UInt64.ofNat_add]

theorem accountsFor_iff (hS : ∀ id, Spares S id) (hquiet : ∀ a ∈ acts, a.Quiet) (back : UInt64) :
    ((start t).play acts).AccountsFor back ↔
      back = UInt64.ofNat ((start t).handedBack acts) := by
  have haccounts := accountsFor_handedBack (t := t) hS hquiet
  unfold AccountsFor at haccounts ⊢
  rw [haccounts]
  exact (UInt64.add_right_inj _).trans eq_comm

theorem handedBack_concat (b : Backend) (acts : List (Act S)) (a : Act S) :
    b.handedBack (acts ++ [a]) =
      b.handedBack acts + (held (b.play acts).tables.items ((b.play acts).releases a)).length := by
  induction acts generalizing b with
  | nil => exact Nat.add_comm _ _
  | cons a' acts ih => simp only [List.cons_append, handedBack, ih, play_cons, Nat.add_assoc]

theorem Free.tally_cancel (h : b.Free) (a : Act S) :
    UInt64.ofNat (tally Activity.cancelItems.is (b.actEvents a)) =
      UInt64.ofNat (b.releases a).length := by
  cases a with
  | clock k => rfl
  | call g c =>
    cases hresult : (g.run c b).1 with
    | error e =>
      rw [releases_of_error hresult, actEvents, (h.outcome_error hresult).1]
      rfl
    | ok r =>
      rw [releases_of_ok hresult]
      exact (h.outcome_ok hresult).tally_cancel

def Faithful (b : Backend) (a : Act S) : Prop :=
  UInt64.ofNat (b.releases a).length =
    UInt64.ofNat (held b.tables.items (b.releases a)).length

theorem faithful_iff {a : Act S} : b.Faithful a ↔ ∀ g ids r, a = .call g (.cancelItems ids) →
    (g.run (.cancelItems ids) b).1 = .ok r →
      UInt64.ofNat ids.length = UInt64.ofNat (held b.tables.items ids).length := by
  constructor
  · rintro h g ids r rfl hr
    rw [Faithful, releases_of_ok hr] at h
    exact h
  · intro h
    cases a with
    | clock k => rfl
    | call g c =>
      cases hresult : (g.run c b).1 with
      | error e =>
        rw [Faithful, releases_of_error hresult]
        rfl
      | ok r =>
        rw [Faithful, releases_of_ok hresult]
        cases c with
        | cancelItems ids => exact h g ids r rfl hresult
        | _ => rfl

theorem Free.tally_cancel_iff (h : b.Free) :
    (∀ done, done <+: acts → UInt64.ofNat (tally Activity.cancelItems.is (b.events done)) =
      UInt64.ofNat (b.handedBack done)) ↔
    ∀ x a y, acts = x ++ a :: y → (b.play x).Faithful a := by
  have hconcat (x : List (Act S)) (a : Act S) :
      UInt64.ofNat (tally Activity.cancelItems.is (b.events (x ++ [a]))) =
        UInt64.ofNat (tally Activity.cancelItems.is (b.events x)) +
          UInt64.ofNat ((b.play x).releases a).length := by
    rw [events_append, tally_append, UInt64.ofNat_add, ← (h.play x).tally_cancel a]
    simp only [events, List.append_nil]
  constructor
  · rintro hall x a y rfl
    have hbefore := hall x ⟨a :: y, rfl⟩
    have hafter := hall (x ++ [a]) ⟨y, by simp⟩
    rw [hconcat, handedBack_concat, UInt64.ofNat_add, hbefore] at hafter
    exact (UInt64.add_right_inj _).1 hafter
  · intro hall done
    induction done using List.reverseRecOn with
    | nil => exact fun _ => rfl
    | append_singleton done a ih =>
      rintro ⟨y, rfl⟩
      have hbefore := ih ⟨a :: y, by simp⟩
      have hstep := hall done a y (by simp)
      rw [hconcat, handedBack_concat, UInt64.ofNat_add, hbefore, hstep]

end Run

end Backend

/-- In every state of a run the items told of as claimed are those in processing, those told of as
committed, rejected or recovered, and those handed back. What cancels tell can stand for the last of
these in every state exactly if every cancel of the run is asked for as many items as it hands back,
none of them twice and all of them in processing. -/
theorem in_flight_ledger (t : Instant) (acts : List (Act LeavesRows))
    (hquiet : ∀ a ∈ acts, a.Quiet) :
    let b := Backend.start t
    (b.play acts).AccountsFor (UInt64.ofNat (b.handedBack acts)) ∧
    ((∀ done, done <+: acts →
        (b.play done).AccountsFor ((b.play done).metrics.itemsOf .cancelItems)) ↔
      ∀ x g ids r y, acts = x ++ .call g (.cancelItems ids) :: y →
        (g.run (.cancelItems ids) (b.play x)).1 = .ok r →
          UInt64.ofNat ids.length = UInt64.ofNat (held (b.play x).tables.items ids).length) := by
  intro b
  refine ⟨Backend.accountsFor_handedBack spares_rows hquiet, ?_⟩
  have htold : (∀ done, done <+: acts →
      (b.play done).AccountsFor ((b.play done).metrics.itemsOf .cancelItems)) ↔
      ∀ done, done <+: acts → UInt64.ofNat (tally Activity.cancelItems.is (b.events done)) =
        UInt64.ofNat (b.handedBack done) := by
    refine forall_congr' fun done => imp_congr_right fun hdone => ?_
    have hquiet' : ∀ a ∈ done, a.Quiet := fun a ha => hquiet a (hdone.subset ha)
    rw [Backend.accountsFor_iff spares_rows hquiet', Backend.itemsOf_play t hquiet']
  rw [htold, (Backend.Free.start t).tally_cancel_iff]
  constructor
  · intro hall x g ids r y hsplit hr
    exact Backend.faithful_iff.1 (hall x _ y hsplit) g ids r rfl hr
  · intro hall x a y hsplit
    refine Backend.faithful_iff.2 ?_
    rintro g ids r rfl hr
    exact hall x g ids r y hsplit hr

/-- A claim that is handed back. -/
theorem in_flight_ledger_handedBack :
    let acts : List (Act LeavesRows) :=
      [.append ⟨⟨1⟩, .zero, 3⟩, .readItems 10, .cancelItems [⟨1⟩]].map .plain
    let b := Backend.start (.clamp 0)
    (∀ a ∈ acts, a.Quiet) ∧ b.handedBack acts = 1 ∧ (b.play acts).AccountsFor 1 := by
  intro acts b
  have hquiet : ∀ a ∈ acts, a.Quiet := Act.plain_quiet
  have hback : b.handedBack acts = 1 := by decide +kernel
  have haccounts := (in_flight_ledger (.clamp 0) acts hquiet).1
  rw [hback] at haccounts
  exact ⟨hquiet, hback, haccounts⟩

/-- A cancel of an item that is not in processing tells of one item and hands back none. -/
theorem cancel_tells_unheld :
    let acts : List (Act LeavesRows) :=
      [.append ⟨⟨1⟩, .zero, 3⟩, .cancelItems [⟨1⟩]].map .plain
    let b := (Backend.start (.clamp 0)).play acts
    ¬b.AccountsFor (b.metrics.itemsOf .cancelItems) := by
  decide +kernel

end WorkQueue.Memory
