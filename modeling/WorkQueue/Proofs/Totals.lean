import WorkQueue.Proofs.Book
import WorkQueue.Proofs.History

namespace WorkQueue

def tally (p : String → Bool) (events : List Event) : Nat :=
  weighed (fun e => e.items.toNat) (fun e => p e.name) events

section Tally

variable (p : String → Bool)

@[simp] theorem tally_nil : tally p [] = 0 := rfl

@[simp] theorem tally_cons (e : Event) (events : List Event) :
    tally p (e :: events) = (if p e.name then e.items.toNat else 0) + tally p events :=
  weighed_cons _ _ e events

@[simp] theorem tally_append (events more : List Event) :
    tally p (events ++ more) = tally p events + tally p more :=
  weighed_append _ _ events more

end Tally

def Category.has (k : Category) (name : String) : Bool := ofName? name == some k

def Activity.is (a : Activity) (name : String) : Bool := name == a.name

namespace Metrics

def counter (m : Metrics) : Category → UInt64
  | .appended => m.appended
  | .claimed => m.claimed
  | .committed => m.committed
  | .rejected => m.rejected
  | .recovered => m.recovered
  | .removed => m.removed

def itemsIn (name : String) (operations : List OperationTotals) : UInt64 :=
  ((operations.find? (·.name == name)).map (·.items)).getD 0

def itemsOf (m : Metrics) (a : Activity) : UInt64 := ((m.operation? a.name).map (·.items)).getD 0

def Ordered (operations : List OperationTotals) : Prop := operations.Pairwise (·.name < ·.name)

section Record

variable (m : Metrics) (e : Event)

theorem counter_addTo (n : UInt64) (touched : Option Category) (k : Category) :
    (m.addTo n touched).counter k = m.counter k + if touched == some k then n else 0 := by
  cases touched with
  | none => cases k <;> simp [addTo, counter]
  | some k' => cases k' <;> cases k <;> simp [addTo, counter]

theorem counter_record (k : Category) :
    (m.record e).counter k = m.counter k + if k.has e.name then e.items else 0 := by
  rw [Category.has, ← counter_addTo]
  cases k <;> rfl

theorem mem_countCall {name : String} {n : UInt64} {operations : List OperationTotals}
    {t : OperationTotals} (h : t ∈ countCall name n operations) :
    t.name = name ∨ ∃ t' ∈ operations, t'.name = t.name := by
  induction operations with
  | nil =>
    cases List.mem_singleton.1 h
    exact .inl rfl
  | cons s rest ih =>
    unfold countCall at h
    split at h
    · rcases List.mem_cons.1 h with rfl | h
      · exact .inl rfl
      · exact .inr ⟨t, h, rfl⟩
    · split at h
      · rcases List.mem_cons.1 h with rfl | h
        · exact .inl rfl
        · exact .inr ⟨t, List.mem_cons_of_mem _ h, rfl⟩
      · rcases List.mem_cons.1 h with rfl | h
        · exact .inr ⟨t, List.mem_cons_self, rfl⟩
        · refine (ih h).imp_right ?_
          rintro ⟨t', hmem, hname⟩
          exact ⟨t', List.mem_cons_of_mem _ hmem, hname⟩

theorem Ordered.countCall {operations : List OperationTotals} (h : Ordered operations)
    (name : String) (n : UInt64) : Ordered (countCall name n operations) := by
  induction operations with
  | nil => exact List.pairwise_singleton _ _
  | cons t rest ih =>
    obtain ⟨hfirst, hrest⟩ := List.pairwise_cons.1 h
    unfold Metrics.countCall
    split
    · next hlt =>
      refine List.pairwise_cons.2 ⟨fun t' hmem => ?_, h⟩
      rcases List.mem_cons.1 hmem with rfl | hmem
      · exact hlt
      · exact String.lt_trans hlt (hfirst t' hmem)
    · next hge =>
      split
      · next heq =>
        subst heq
        exact List.pairwise_cons.2 ⟨hfirst, hrest⟩
      · next hne =>
        refine List.pairwise_cons.2 ⟨fun t' hmem => ?_, ih hrest⟩
        rcases mem_countCall hmem with hname | ⟨t'', hmem, hname⟩
        · rw [hname]
          exact lt_of_le_of_ne (not_lt.1 hge) (Ne.symm hne)
        · exact hname ▸ hfirst t'' hmem

theorem itemsIn_cons (name : String) (t : OperationTotals) (rest : List OperationTotals) :
    itemsIn name (t :: rest) = if t.name = name then t.items else itemsIn name rest := by
  by_cases h : t.name = name <;> simp [itemsIn, h]

theorem itemsIn_eq_zero {name : String} {operations : List OperationTotals}
    (h : ∀ t ∈ operations, t.name ≠ name) : itemsIn name operations = 0 := by
  have hnone : operations.find? (·.name == name) = none := by simpa using h
  rw [itemsIn, hnone]
  rfl

theorem Ordered.itemsIn_countCall {operations : List OperationTotals} (h : Ordered operations)
    (name other : String) (n : UInt64) :
    itemsIn other (Metrics.countCall name n operations) =
      itemsIn other operations + if name = other then n else 0 := by
  induction operations with
  | nil =>
    rw [Metrics.countCall, itemsIn_cons, itemsIn_eq_zero (List.forall_mem_nil _), UInt64.zero_add]
  | cons t rest ih =>
    obtain ⟨hfirst, hrest⟩ := List.pairwise_cons.1 h
    unfold Metrics.countCall
    split
    · next hlt =>
      rw [itemsIn_cons]
      split
      · next hname =>
        -- All the names that follow are greater, so there was no entry of this name.
        subst hname
        have hlater : ∀ t' ∈ t :: rest, t'.name ≠ name := by
          intro t' hmem heq
          rcases List.mem_cons.1 hmem with rfl | hmem
          · exact String.lt_irrefl _ (heq ▸ hlt)
          · exact String.lt_irrefl _ (heq ▸ String.lt_trans hlt (hfirst t' hmem))
        rw [itemsIn_eq_zero hlater, UInt64.zero_add]
      · rw [UInt64.add_zero]
    · split
      · next heq =>
        subst heq
        simp only [itemsIn_cons]
        split <;> simp
      · next hne =>
        simp only [itemsIn_cons, ih hrest]
        split
        · next hname => simp [← hname, hne]
        · rfl

theorem ordered_record (h : Ordered m.operations) : Ordered (m.record e).operations :=
  h.countCall _ _

theorem itemsOf_record (h : Ordered m.operations) (a : Activity) :
    (m.record e).itemsOf a = m.itemsOf a + if a.is e.name then e.items else 0 := by
  have hcounted := h.itemsIn_countCall e.name a.name e.items
  simp only [Activity.is, beq_iff_eq]
  exact hcounted

end Record

theorem ofNat_ite_toNat (p : Bool) (n : UInt64) :
    UInt64.ofNat (if p then n.toNat else 0) = if p then n else 0 := by
  cases p <;> simp

theorem counter_foldl (m : Metrics) (events : List Event) (k : Category) :
    (events.foldl record m).counter k = m.counter k + UInt64.ofNat (tally k.has events) := by
  induction events generalizing m with
  | nil => simp
  | cons e events ih =>
    rw [List.foldl_cons, ih, counter_record, tally_cons, UInt64.ofNat_add, ofNat_ite_toNat,
      UInt64.add_assoc]

theorem itemsOf_foldl {m : Metrics} (h : Ordered m.operations) (events : List Event)
    (a : Activity) :
    (events.foldl record m).itemsOf a = m.itemsOf a + UInt64.ofNat (tally a.is events) := by
  induction events generalizing m with
  | nil => simp
  | cons e events ih =>
    rw [List.foldl_cons, ih (ordered_record m e h), itemsOf_record m e h, tally_cons,
      UInt64.ofNat_add, ofNat_ite_toNat, UInt64.add_assoc]

end Metrics

namespace Memory

open Queue Operation

variable {S : UnitOfWork → UnitOfWork → Prop}

/-- An application whose steps leave the totals alone: these are fed by the queue only. -/
structure Collaborator.Quiet (g : Collaborator S) : Prop where
  hook : ∀ b, (g.hook b).2.metrics = b.metrics
  purge : ∀ ids b, (g.purge ids b).2.metrics = b.metrics

theorem Collaborator.plain_quiet {γ : Type} (view : Tables → γ) : (plain view).Quiet where
  hook _ := rfl
  purge _ _ := rfl

def Act.Quiet : Act S → Prop
  | .call g _ => g.Quiet
  | .clock _ => True

theorem Act.plain_quiet {γ : Type} {view : Tables → γ} {calls : List Call} :
    ∀ a ∈ calls.map (.plain : Call → Act (Leaves view)), a.Quiet := by
  simp only [List.forall_mem_map]
  intro c _
  exact Collaborator.plain_quiet view

section Quiet

variable {g : Collaborator S}

theorem Collaborator.Quiet.serve (h : g.Quiet) (r : QueueRequest hookCall) (b : Backend) :
    (g.serve r b).2.metrics =
      (emitted? ⟨r, (g.serve r b).1⟩).toList.foldl Metrics.record b.metrics := by
  cases r with
  | begin => rfl
  | store c =>
    cases c with
    | purge ids => exact h.purge ids b
    | _ => rfl
  | commit => rfl
  | rollback => rfl
  | emit e => rfl
  | note n => rfl
  | app r => exact h.hook b

theorem Collaborator.Quiet.exec (h : g.Quiet) {α : Type} (op : Operation hookCall α)
    (b : Backend) : (op.exec g.serve b).2.metrics =
      ((op.trace g.serve b).filterMap emitted?).foldl Metrics.record b.metrics := by
  unfold Operation.exec Operation.trace
  generalize op.run = p
  induction p generalizing b with
  | done result => rfl
  | ask r next ih =>
    have hserve := h.serve r b
    have hrest := ih (g.serve r b).1 (g.serve r b).2
    rw [hserve, ← List.foldl_append] at hrest
    simp only [Program.run, Program.trace, List.filterMap_cons]
    rw [hrest]
    cases emitted? ⟨r, (g.serve r b).1⟩ <;> rfl

end Quiet

namespace Backend

variable {b : Backend}

@[simp] theorem events_append (b : Backend) (acts more : List (Act S)) :
    b.events (acts ++ more) = b.events acts ++ (b.play acts).events more := by
  induction acts generalizing b with
  | nil => rfl
  | cons a acts ih =>
    rw [List.cons_append, events, events, ih, List.append_assoc]
    rfl

theorem metrics_act (b : Backend) {a : Act S} (h : a.Quiet) :
    (b.act a).metrics = (b.actEvents a).foldl Metrics.record b.metrics := by
  cases a with
  | call g c => exact Collaborator.Quiet.exec h _ b
  | clock k => rfl

theorem metrics_play (b : Backend) {acts : List (Act S)} (h : ∀ a ∈ acts, a.Quiet) :
    (b.play acts).metrics = (b.events acts).foldl Metrics.record b.metrics := by
  induction acts generalizing b with
  | nil => rfl
  | cons a acts ih =>
    obtain ⟨ha, hacts⟩ := List.forall_mem_cons.1 h
    rw [events, List.foldl_append, ← metrics_act b ha]
    exact ih (b.act a) hacts

theorem counter_play (t : Instant) {acts : List (Act S)} (h : ∀ a ∈ acts, a.Quiet)
    (k : Category) : ((start t).play acts).metrics.counter k =
      UInt64.ofNat (tally k.has ((start t).events acts)) := by
  rw [metrics_play _ h, Metrics.counter_foldl]
  cases k <;> exact UInt64.zero_add _

theorem itemsOf_play (t : Instant) {acts : List (Act S)} (h : ∀ a ∈ acts, a.Quiet)
    (a : Activity) : ((start t).play acts).metrics.itemsOf a =
      UInt64.ofNat (tally a.is ((start t).events acts)) := by
  have hordered : Metrics.Ordered (start t).metrics.operations := List.Pairwise.nil
  rw [metrics_play _ h, Metrics.itemsOf_foldl hordered]
  exact UInt64.zero_add _

end Backend

end Memory

end WorkQueue
