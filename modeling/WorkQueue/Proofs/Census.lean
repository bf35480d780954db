import WorkQueue.Proofs.Conformance
import WorkQueue.Proofs.Totals

namespace WorkQueue.Memory

open Queue

section Eligible

variable {p : Row → Bool} {t t' : Table Row} {id : ItemId}

theorem mem_ids_eligible : id ∈ (eligible p t).map (·.id) ↔ (t.get? id).any p = true := by
  rw [ids_eligible, Option.any_eq_true]
  simp [Table.get?_eq_some_iff]

theorem length_eligible_true (t : Table Row) : (eligible (fun _ => true) t).length = t.size := by
  simp [eligible, Table.size]

theorem length_eligible_le (p : Row → Bool) (t : Table Row) : (eligible p t).length ≤ t.size := by
  rw [eligible, List.length_map]
  exact List.length_filter_le _ _

theorem length_eligible_add {ids : List ItemId} (hids : ids.Nodup)
    (hnew : ∀ id ∈ ids, (t.get? id).any p = false ∧ (t'.get? id).any p = true)
    (hkept : ∀ id, id ∉ ids → (t'.get? id).any p = (t.get? id).any p) :
    (eligible p t').length = (eligible p t).length + ids.length := by
  have hdisjoint : List.Disjoint ((eligible p t).map (·.id)) ids := by
    intro id hold hmem
    rw [mem_ids_eligible, (hnew id hmem).1] at hold
    cases hold
  have hperm : ((eligible p t').map (·.id)).Perm ((eligible p t).map (·.id) ++ ids) := by
    have hnodup := List.Nodup.append (nodup_eligible p t) hids hdisjoint
    refine (List.perm_ext_iff_of_nodup (nodup_eligible p t') hnodup).2 fun id => ?_
    rw [List.mem_append, mem_ids_eligible, mem_ids_eligible]
    by_cases hmem : id ∈ ids
    · simp [hmem, hnew id hmem]
    · simp [hmem, hkept id hmem]
  simpa using hperm.length_eq

theorem length_eligible_congr (h : ∀ id, (t'.get? id).any p = (t.get? id).any p) :
    (eligible p t').length = (eligible p t).length :=
  length_eligible_add List.nodup_nil nofun fun id _ => h id

end Eligible

def population (q : Status → Bool) (t : Tables) : Nat :=
  (eligible (fun row => q row.status) t.items).length

theorem population_true (t : Tables) : population (fun _ => true) t = t.items.size :=
  length_eligible_true t.items

theorem population_status (s : Status) (t : Tables) :
    population (· == s) t = (t.itemsIn s).length := by
  simp [population, Tables.itemsIn, eligible]

def held (t : Table Row) (ids : List ItemId) : List ItemId :=
  ids.dedup.filter fun id => (t.get? id).any (·.status == .processing)

/-- The rows that a call moves that is answered with `r`. -/
def movers (t : Table Row) (r : Reply) : Call → List ItemId
  | .append item => [item.id]
  | .appends items => items.map (·.id)
  | .readItems _ | .recoverTimedOut .. | .requeue .. | .removeExhausted _ => r.items
  | .cancelItems ids => held t ids
  | .commit _ id => [id]
  | .reject _ id _ => if (t.get? id).any (·.status == .processing) then [id] else []
  | .removeCompleted .. | .removeBroken .. => []

def route : Call → Option Status × Option Status
  | .append _ | .appends _ => (none, some .ready)
  | .readItems _ => (some .ready, some .processing)
  | .cancelItems _ => (some .processing, some .ready)
  | .commit .. => (some .processing, none)
  | .reject .. | .recoverTimedOut .. => (some .processing, some .retry)
  | .requeue .. => (some .retry, some .ready)
  | .removeExhausted _ => (some .retry, none)
  | .removeCompleted .. | .removeBroken .. => (none, none)

section Movers

variable {S : UnitOfWork → UnitOfWork → Prop} {u v : UnitOfWork} {now : Instant} {t t' : Tables}
  {c : Call} {r : Reply} {events : List Event} {id : ItemId}

theorem any_processing_iff {row : Option Row} :
    row.any (·.status == .processing) = true ↔ row.map (·.status) = some .processing := by
  cases row <;> simp

theorem mem_movers {t : Table Row} : id ∈ movers t r c ↔ Moves id (t.get? id) r c := by
  cases c with
  | append item => exact List.mem_singleton.trans eq_comm
  | appends items => exact List.mem_map
  | cancelItems ids =>
    rw [movers, held, List.mem_filter, List.mem_dedup, any_processing_iff, Moves]
  | commit archives key => exact List.mem_singleton
  | reject archives key cause =>
    rw [movers, Moves, ← any_processing_iff]
    split
    · next h =>
      rw [List.mem_singleton]
      exact ⟨fun hid => ⟨hid, hid ▸ h⟩, And.left⟩
    · next h =>
      refine iff_of_false List.not_mem_nil ?_
      rintro ⟨rfl, hprocessing⟩
      exact h hprocessing
  | removeCompleted archives retention limit => exact iff_of_false List.not_mem_nil False.elim
  | removeBroken archives retention limit => exact iff_of_false List.not_mem_nil False.elim
  | _ => exact Iff.rfl

theorem Works.nodup_movers (h : Works u c r v) : (movers u.tables.items r c).Nodup := by
  cases h with
  | append h => exact List.nodup_singleton _
  | appends h => exact (UnitOfWork.insert_fresh h).1
  | readItems => exact nodup_oldest (nodup_eligible _ _)
  | cancelItems => exact (List.nodup_dedup _).filter _
  | commit _ _ => exact List.nodup_singleton _
  | reject _ =>
    rw [movers]
    split
    · exact List.nodup_singleton _
    · exact List.nodup_nil
  | recoverTimedOut h _ =>
    obtain ⟨-, time, -, rfl⟩ := UnitOfWork.recover_ok h
    exact nodup_oldest (nodup_eligible _ _)
  | requeue h =>
    obtain ⟨-, time, -, rfl⟩ := UnitOfWork.requeue_ok h
    exact nodup_oldest (nodup_eligible _ _)
  | removeExhausted => exact nodup_oldest (nodup_eligible _ _)
  | removeCompleted _ => exact List.nodup_nil
  | removeBroken _ => exact List.nodup_nil

theorem movers_of_isIdle (h : c.isIdle = true) (t : Table Row) : movers t r c = [] :=
  List.eq_nil_iff_forall_not_mem.2 fun _ hmem => not_moves_of_isIdle h _ (mem_movers.1 hmem)

theorem Beside.items_eq {step : Bool} (h : Beside S step u v) (hS : ∀ id, Spares S id) :
    v.tables.items = u.tables.items :=
  Table.ext fun id => (h.leaves (hS id)).same

theorem Outcome.nodup_movers (h : Outcome S now t c (.ok r) events t')
    (hS : ∀ id, Spares S id) : (movers t.items r c).Nodup := by
  cases h with
  | spared _ hidle =>
    rw [movers_of_isIdle hidle]
    exact List.nodup_nil
  | worked _ before works _ =>
    rw [← show _ = t.items from before.items_eq hS]
    exact works.nodup_movers

theorem Edge.route_eq {row row' : Option Row} (h : Edge now id c row row') :
    row.map (·.status) = (route c).1 ∧ row'.map (·.status) = (route c).2 := by
  cases h with
  | appended hmem _ _ =>
    cases c with
    | append _ => exact ⟨rfl, rfl⟩
    | appends _ => exact ⟨rfl, rfl⟩
    | _ => cases hmem
  | _ => exact ⟨rfl, rfl⟩

theorem any_status (q : Status → Bool) (row : Option Row) :
    row.any (fun row => q row.status) = (row.map (·.status)).any q := by
  cases row <;> rfl

theorem Outcome.population_eq (h : Outcome S now t c (.ok r) events t')
    (hS : ∀ id, Spares S id) (hregular : ∀ id, Regular id (t.items.get? id))
    (q : Status → Bool) :
    population q t' + (if (route c).1.any q then (movers t.items r c).length else 0) =
      population q t + if (route c).2.any q then (movers t.items r c).length else 0 := by
  have hnodup := h.nodup_movers hS
  have hmoved : ∀ id ∈ movers t.items r c,
      (t.items.get? id).any (fun row => q row.status) = (route c).1.any q ∧
        (t'.items.get? id).any (fun row => q row.status) = (route c).2.any q := by
    intro id hmem
    obtain ⟨hbefore, hafter⟩ := ((h.conforms (hS id) (hregular id)).1 (mem_movers.1 hmem)).route_eq
    rw [any_status, any_status, hbefore, hafter]
    exact ⟨rfl, rfl⟩
  have hkept : ∀ id, id ∉ movers t.items r c → t'.items.get? id = t.items.get? id := by
    intro id hmem
    exact (h.conforms (hS id) (hregular id)).2 fun hmoves => hmem (mem_movers.2 hmoves)
  unfold population
  cases hbefore : (route c).1.any q <;> cases hafter : (route c).2.any q
  case false.true =>
    rw [hbefore, hafter] at hmoved
    simpa using length_eligible_add hnodup hmoved fun id hid => by rw [hkept id hid]
  case true.false =>
    rw [hbefore, hafter] at hmoved
    have hback := length_eligible_add hnodup (fun id hid => (hmoved id hid).symm)
      fun id hid => by rw [hkept id hid]
    simpa using hback.symm
  all_goals
    rw [length_eligible_congr fun id => ?_]
    by_cases hid : id ∈ movers t.items r c
    · rw [(hmoved id hid).1, (hmoved id hid).2, hbefore, hafter]
    · rw [hkept id hid]

theorem Edge.isZero {row row' : Option Row} (h : Edge now id c row row')
    (hfault : c.fault? = none) (hrow : Regular id row) : id.isZero = false := by
  cases h with
  | appended hmem hid _ => exact hid ▸ (validate_ok (fault?_eq_none hfault hmem)).1
  | _ => exact hrow.id _ rfl

theorem length_lt_of_nodup {ids : List ItemId} (hnodup : ids.Nodup)
    (h : ∀ id ∈ ids, id.isZero = false) : ids.length < 2 ^ 64 := by
  -- Zero is an id as well, and it is none of them.
  have hzero : (⟨0⟩ : ItemId) ∉ ids := fun hmem => absurd (h _ hmem) (by decide)
  have hinj : Function.Injective fun id : ItemId => id.value.toNat := by
    intro id id' heq
    cases id
    cases id'
    exact congrArg ItemId.mk (UInt64.toNat_inj.1 heq)
  have hvalues : ((⟨0⟩ :: ids).map fun id : ItemId => id.value.toNat).Nodup :=
    (List.nodup_cons.2 ⟨hzero, hnodup⟩).map hinj
  have hbelow : ((⟨0⟩ :: ids).map fun id : ItemId => id.value.toNat) ⊆ List.range (2 ^ 64) := by
    intro n hn
    obtain ⟨id, -, rfl⟩ := List.mem_map.1 hn
    exact List.mem_range.2 id.value.toNat_lt
  have hlength := (hvalues.subperm hbelow).length_le
  rw [List.length_map, List.length_cons, List.length_range] at hlength
  exact hlength

theorem Outcome.length_movers_lt (h : Outcome S now t c (.ok r) events t')
    (hS : ∀ id, Spares S id) (hregular : ∀ id, Regular id (t.items.get? id)) :
    (movers t.items r c).length < 2 ^ 64 := by
  apply length_lt_of_nodup (h.nodup_movers hS)
  intro id hmem
  have hedge := (h.conforms (hS id) (hregular id)).1 (mem_movers.1 hmem)
  exact hedge.isZero h.fault?_of_ok (hregular id)

def activity : Call → Activity
  | .append _ => .append
  | .appends _ => .appends
  | .readItems _ => .readItems
  | .cancelItems _ => .cancelItems
  | .commit .. => .commit
  | .reject .. => .reject
  | .recoverTimedOut .. => .recoverTimedOut
  | .requeue .. => .requeue
  | .removeExhausted _ => .removeExhausted
  | .removeCompleted .. => .removeCompleted
  | .removeBroken .. => .removeBroken

def Unmoved : List Activity := [.rejectSkipped, .cancelItems, .removeCompleted, .removeBroken]

theorem tally_eventOf {p : String → Bool} (hp : ∀ a ∈ Unmoved, p a.name = false)
    (hlt : (movers u.tables.items r c).length < 2 ^ 64) : tally p [eventOf u r c] =
      if p (activity c).name then (movers u.tables.items r c).length else 0 := by
  simp only [Unmoved, List.forall_mem_cons] at hp
  obtain ⟨hskipped, hcancel, hcompleted, hbroken, -⟩ := hp
  simp only [tally_cons, tally_nil, Nat.add_zero]
  have hcount := UInt64.toNat_ofNat_of_lt' hlt
  cases c with
  | cancelItems ids => simp [eventOf, activity, Event.of, hcancel]
  | removeCompleted archives retention limit => simp [eventOf, activity, Event.of, hcompleted]
  | removeBroken archives retention limit => simp [eventOf, activity, Event.of, hbroken]
  | reject archives id cause =>
    have hprocessing : (u.tables.items.get? id).any (·.status == .processing) = true ↔
        u.tables.status? id = some .processing := any_processing_iff
    simp only [eventOf, movers, activity, hprocessing]
    split
    · rfl
    · simp [Event.of, hskipped]
  | append item => rfl
  | commit archives id => rfl
  | appends items =>
    simp only [movers, List.length_map] at hcount
    simp [eventOf, activity, movers, Event.of, Event.items, EventData.items, hcount]
  | _ =>
    simp only [movers] at hcount
    simp only [eventOf, movers, Event.of, Event.items, EventData.items, hcount]
    rfl

theorem Outcome.tally_eq (h : Outcome S now t c (.ok r) events t') (hS : ∀ id, Spares S id)
    (hregular : ∀ id, Regular id (t.items.get? id)) {p : String → Bool}
    (hp : ∀ a ∈ Unmoved, p a.name = false) :
    tally p events = if p (activity c).name then (movers t.items r c).length else 0 := by
  have hlt := h.length_movers_lt hS hregular
  cases h with
  | spared _ hidle => simp [movers_of_isIdle hidle]
  | worked _ before _ _ =>
    have hitems : _ = t.items := before.items_eq hS
    rw [← hitems] at hlt ⊢
    exact tally_eventOf hp hlt

end Movers

end WorkQueue.Memory
