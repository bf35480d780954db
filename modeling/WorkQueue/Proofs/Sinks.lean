import WorkQueue.Event.Counters
import WorkQueue.Proofs.Totals

namespace WorkQueue

open Book

namespace Event

def size (e : Event) : Nat := e.data.size

theorem items_eq (e : Event) : e.items = .ofNat e.size := by
  obtain ⟨source, name, _ | _ | _⟩ := e
  · exact UInt64.ofNat_toNat.symm
  · rfl
  · rfl

def labels (e : Event) : String ×ₗ String := toLex (e.name, e.source)

end Event

inductive Counted {T K : Type} (key : T → K) (k : K) (again : T → T) (new : T) :
    List T → List T → Prop
  | again (before t after) (hkey : key t = k) (h : ∀ s ∈ before ++ after, key s ≠ k) :
    Counted key k again new (before ++ t :: after) (before ++ again t :: after)
  | first (before after) (h : ∀ s ∈ before ++ after, key s ≠ k) :
    Counted key k again new (before ++ after) (before ++ new :: after)

def column {T K : Type} (key : T → K) (value : T → UInt64) (entries : List T) : Book K :=
  entries.map fun t => (key t, value t)

theorem Counted.entered {T K : Type} {key : T → K} {k : K} {again : T → T} {new : T}
    {entries entries' : List T} (h : Counted key k again new entries entries') {value : T → UInt64}
    {n : UInt64} (hagain : ∀ t, key (again t) = key t ∧ value (again t) = value t + n)
    (hnew : key new = k ∧ value new = n) :
    Entered k n (column key value entries) (column key value entries') := by
  have hother {before after : List T} (h : ∀ s ∈ before ++ after, key s ≠ k) :
      ∀ l ∈ column key value before ++ column key value after, l.1 ≠ k := by
    rw [column, column, ← List.map_append]
    exact List.forall_mem_map.2 h
  cases h with
  | again before t after hkey h =>
    have hentry : (key (again t), value (again t)) = (k, value t + n) := by
      rw [(hagain t).1, (hagain t).2, hkey]
    simp only [column, List.map_append, List.map_cons, hentry, hkey]
    exact .again (hother h)
  | first before after h =>
    simp only [column, List.map_append, List.map_cons, hnew.1, hnew.2]
    exact .first (hother h)

namespace Metrics

theorem counted_countCall {operations : List OperationTotals} (h : Ordered operations)
    (name : String) (n : UInt64) : Counted OperationTotals.name name
      (fun t => { t with calls := t.calls + 1, items := t.items + n }) ⟨name, 1, n⟩ operations
      (countCall name n operations) := by
  induction operations with
  | nil => exact .first [] [] nofun
  | cons t rest ih =>
    obtain ⟨hfirst, hrest⟩ := List.pairwise_cons.1 h
    unfold countCall
    split
    · next hlt =>
      refine .first [] (t :: rest) fun s hs => ?_
      rcases List.mem_cons.1 hs with rfl | hs
      · exact hlt.ne'
      · exact (hlt.trans (hfirst s hs)).ne'
    · split
      · next heq =>
        subst heq
        exact .again [] t rest rfl fun s hs => (hfirst s hs).ne'
      · next hne =>
        have hother : t.name ≠ name := Ne.symm hne
        have hcounted := ih hrest
        generalize countCall name n rest = counted at hcounted
        cases hcounted with
        | again before s after hkey hothers =>
          exact .again (t :: before) s after hkey (List.forall_mem_cons.2 ⟨hother, hothers⟩)
        | first before after hothers =>
          exact .first (t :: before) after (List.forall_mem_cons.2 ⟨hother, hothers⟩)

theorem ofEvents_concat (events : List Event) (e : Event) :
    ofEvents (events ++ [e]) = (ofEvents events).record e := by
  simp [ofEvents]

theorem kept (events : List Event) : Ordered (ofEvents events).operations ∧
    Kept Event.name (fun _ => 1) events
      (column OperationTotals.name (·.calls) (ofEvents events).operations) ∧
    Kept Event.name Event.size events
      (column OperationTotals.name (·.items) (ofEvents events).operations) := by
  induction events using List.reverseRecOn with
  | nil => exact ⟨.nil, .nil, .nil⟩
  | append_singleton events e ih =>
    obtain ⟨hordered, hcalls, hitems⟩ := ih
    have hcounted := counted_countCall hordered e.name e.items
    rw [ofEvents_concat]
    refine ⟨hordered.countCall _ _, .snoc hcalls ?_, .snoc hitems ?_⟩
    · exact hcounted.entered (fun _ => ⟨rfl, rfl⟩) ⟨rfl, rfl⟩
    · exact hcounted.entered (fun t => ⟨rfl, congrArg (t.items + ·) e.items_eq⟩) ⟨rfl, e.items_eq⟩

end Metrics

namespace LabelledTotals

def labels (t : LabelledTotals) : String ×ₗ String := toLex (t.operation, t.source)

theorem key_of_labels {t : LabelledTotals} {e : Event} (h : t.labels = e.labels) :
    t.key = seriesKey e.name e.source := by
  obtain ⟨hname, hsource⟩ := Prod.mk.inj (toLex.injective h)
  rw [key, hname, hsource]

end LabelledTotals

namespace Counters

def Ordered (c : Counters) : Prop := c.Pairwise (·.labels < ·.labels)

variable {c : Counters}

theorem insert_split (new : LabelledTotals) (h : Ordered c)
    (hnew : ∀ t ∈ c, t.labels ≠ new.labels) :
    ∃ before after, c = before ++ after ∧ c.insert new = before ++ new :: after ∧
      (∀ t ∈ before, t.labels < new.labels) ∧ ∀ t ∈ after, new.labels < t.labels := by
  induction c with
  | nil => exact ⟨[], [], rfl, rfl, nofun, nofun⟩
  | cons t rest ih =>
    obtain ⟨hfirst, hrest⟩ := List.pairwise_cons.1 h
    obtain ⟨hne, hother⟩ := List.forall_mem_cons.1 hnew
    have hlt : new.operation < t.operation ∨ new.operation = t.operation ∧ new.source < t.source ↔
        new.labels < t.labels := by
      rw [LabelledTotals.labels, LabelledTotals.labels, Prod.Lex.toLex_lt_toLex]
    rw [insert, if_congr hlt rfl rfl]
    split
    · next hlt =>
      exact ⟨[], t :: rest, rfl, rfl, nofun,
        List.forall_mem_cons.2 ⟨hlt, fun s hs => hlt.trans (hfirst s hs)⟩⟩
    · next hge =>
      obtain ⟨before, after, hsplit, hinsert, hbefore, hafter⟩ := ih hrest hother
      refine ⟨t :: before, after, congrArg _ hsplit, congrArg _ hinsert, ?_, hafter⟩
      exact List.forall_mem_cons.2 ⟨lt_of_le_of_ne (not_lt.1 hge) hne, hbefore⟩

theorem Ordered.others {before after : Counters} {t : LabelledTotals}
    (h : Ordered (before ++ t :: after)) : ∀ s ∈ before ++ after, s.labels ≠ t.labels := by
  obtain ⟨-, hrest, hacross⟩ := List.pairwise_append.1 h
  intro s hs
  rcases List.mem_append.1 hs with hs | hs
  · exact (hacross s hs t List.mem_cons_self).ne
  · exact ((List.pairwise_cons.1 hrest).1 s hs).ne'

section Record

variable {e : Event}

def again (e : Event) (t : LabelledTotals) : LabelledTotals :=
  { t with calls := t.calls + 1, items := t.items + e.items }

theorem counted_record (h : Ordered c)
    (hsame : ∀ t ∈ c, t.key = seriesKey e.name e.source ↔ t.labels = e.labels) :
    Ordered (record e c) ∧ Counted LabelledTotals.labels e.labels (again e)
      ⟨e.name, e.source, 1, e.items⟩ c (record e c) := by
  by_cases hany : c.any (·.key == seriesKey e.name e.source) = true
  · have hrecord : record e c =
        c.map fun t => if t.key = seriesKey e.name e.source then again e t else t := if_pos hany
    obtain ⟨t, ht, htkey⟩ := List.any_eq_true.1 hany
    have hlabels := (hsame t ht).1 (eq_of_beq htkey)
    rw [hrecord]
    refine ⟨List.pairwise_map.2 (List.Pairwise.imp (fun {s u} hlt => ?_) h), ?_⟩
    · split <;> split <;> exact hlt
    · obtain ⟨before, after, rfl⟩ := List.append_of_mem ht
      have hothers : ∀ s ∈ before ++ after, s.labels ≠ e.labels := hlabels ▸ h.others
      have hkept {l : Counters} (hl : l ⊆ before ++ after) :
          l.map (fun t => if t.key = seriesKey e.name e.source then again e t else t) = l := by
        refine (List.map_congr_left fun s hs => if_neg fun hkey => ?_).trans (List.map_id l)
        have hmem : s ∈ before ++ t :: after := by
          have hs := hl hs
          simp only [List.mem_append, List.mem_cons] at hs ⊢
          tauto
        exact hothers s (hl hs) ((hsame s hmem).1 hkey)
      rw [List.map_append, List.map_cons, if_pos (eq_of_beq htkey),
        hkept (List.subset_append_left _ _), hkept (List.subset_append_right _ _)]
      exact .again before t after hlabels hothers
  · have hrecord : record e c = c.insert ⟨e.name, e.source, 1, e.items⟩ := if_neg hany
    have hother : ∀ t ∈ c, t.labels ≠ e.labels := fun t ht hlabels =>
      hany (List.any_eq_true.2 ⟨t, ht, beq_iff_eq.2 ((hsame t ht).2 hlabels)⟩)
    obtain ⟨before, after, rfl, hinsert, hbefore, hafter⟩ :=
      insert_split ⟨e.name, e.source, 1, e.items⟩ h hother
    obtain ⟨hfirst, hrest, hacross⟩ := List.pairwise_append.1 h
    rw [hrecord, hinsert]
    refine ⟨List.pairwise_append.2 ⟨hfirst, List.pairwise_cons.2 ⟨hafter, hrest⟩, ?_⟩,
      .first before after hother⟩
    exact fun t ht => List.forall_mem_cons.2 ⟨hbefore t ht, hacross t ht⟩

end Record

theorem ofEvents_concat (events : List Event) (e : Event) :
    ofEvents (events ++ [e]) = record e (ofEvents events) := by
  simp [ofEvents]

end Counters

def OneSeries (events : List Event) : Prop :=
  ∀ e ∈ events, ∀ e' ∈ events,
    seriesKey e.name e.source = seriesKey e'.name e'.source → e.labels = e'.labels

namespace Counters

theorem kept {events : List Event} (h : OneSeries events) : Ordered (ofEvents events) ∧
    Kept Event.labels (fun _ => 1) events
      (column LabelledTotals.labels (·.calls) (ofEvents events)) ∧
    Kept Event.labels Event.size events
      (column LabelledTotals.labels (·.items) (ofEvents events)) := by
  induction events using List.reverseRecOn with
  | nil => exact ⟨.nil, .nil, .nil⟩
  | append_singleton events e ih =>
    have hbefore : OneSeries events := fun e he e' he' =>
      h e (List.mem_append_left _ he) e' (List.mem_append_left _ he')
    obtain ⟨hordered, hcalls, hitems⟩ := ih hbefore
    have hsame : ∀ t ∈ ofEvents events,
        t.key = seriesKey e.name e.source ↔ t.labels = e.labels := by
      intro t ht
      obtain ⟨e', he', hlabels⟩ := (hcalls.exists_line_iff t.labels).1
        ⟨_, List.mem_map.2 ⟨t, ht, rfl⟩, rfl⟩
      refine ⟨fun hkey => hlabels.symm.trans ?_, LabelledTotals.key_of_labels⟩
      have hsource := (LabelledTotals.key_of_labels hlabels.symm).symm.trans hkey
      exact h e' (List.mem_append_left _ he') e List.mem_concat_self hsource
    obtain ⟨hordered, hcounted⟩ := counted_record hordered hsame
    rw [ofEvents_concat]
    refine ⟨hordered, .snoc hcalls ?_, .snoc hitems ?_⟩
    · exact hcounted.entered (fun _ => ⟨rfl, rfl⟩) ⟨rfl, rfl⟩
    · exact hcounted.entered (fun t => ⟨rfl, congrArg (t.items + ·) e.items_eq⟩) ⟨rfl, e.items_eq⟩

end Counters

section Shown

variable {events events' : List Event} {name : String}

def Metrics.shown (value : OperationTotals → UInt64) (m : Metrics) (name : String) : UInt64 :=
  ((m.operation? name).map value).getD 0

def Counters.shown (value : LabelledTotals → UInt64) (c : Counters) (name : String) : Nat :=
  ((c.filter (·.operation == name)).map fun t => (value t).toNat).sum

def Counters.sampled (family : String) (c : Counters) (name : String) : Nat :=
  ((c.samples.filter fun s => s.family == family && s.operation == name).map
    (·.value.toNat)).sum

theorem Metrics.exists_operation_iff :
    (∃ t ∈ (ofEvents events).operations, t.name = name) ↔ ∃ e ∈ events, e.name = name := by
  simpa [column] using (kept events).2.1.exists_line_iff name

theorem Metrics.operation?_eq_none_iff :
    (ofEvents events).operation? name = none ↔ ∀ e ∈ events, e.name ≠ name := by
  have hseen : (¬∃ t ∈ (ofEvents events).operations, t.name = name) ↔
      ¬∃ e ∈ events, e.name = name := not_congr exists_operation_iff
  simpa [operation?] using hseen

theorem Metrics.shown_eq {value : OperationTotals → UInt64} {weight : Event → Nat}
    (h : Kept Event.name weight events (column OperationTotals.name value
      (ofEvents events).operations)) :
    (ofEvents events).shown value name = .ofNat (weighed weight (·.name == name) events) := by
  rw [shown, operation?]
  cases hfind : (ofEvents events).operations.find? (·.name == name) with
  | none =>
    rw [weighed_eq_zero]
    · rfl
    · simpa using operation?_eq_none_iff.1 hfind
  | some t =>
    have hname : t.name = name := by simpa using List.find?_some hfind
    have hline : (name, value t) ∈ column OperationTotals.name value (ofEvents events).operations :=
      List.mem_map.2 ⟨t, List.mem_of_find?_eq_some hfind, by rw [hname]⟩
    exact (h.mem_iff.1 hline).2

theorem sumIn_column {T K : Type} (key : T → K) (value : T → UInt64) (p : K → Bool)
    (entries : List T) : sumIn p (column key value entries) =
      ((entries.filter fun t => p (key t)).map fun t => (value t).toNat).sum := by
  simp [sumIn, column, List.filter_map, Function.comp_def]

theorem Counters.shown_eq {value : LabelledTotals → UInt64} {weight : Event → Nat}
    (h : Kept Event.labels weight events (column LabelledTotals.labels value (ofEvents events)))
    (hsmall : weighed weight (·.name == name) events < 2 ^ 64) :
    (ofEvents events).shown value name = weighed weight (·.name == name) events := by
  have hsum := h.sumIn_eq (p := fun k => (ofLex k).1 == name) hsmall
  rw [sumIn_column] at hsum
  exact hsum

theorem nearestDouble_of_lt {n : Nat} (h : n < 2 ^ 53) : nearestDouble n = n := by
  have hlog : n.log2 + 1 - 53 = 0 := by
    rcases Nat.eq_zero_or_pos n with rfl | hn
    · rfl
    · have hlt := (Nat.log2_lt hn.ne').2 h
      omega
  simp [nearestDouble, hlog, Nat.mod_one]

theorem sampleValue_of_lt {n : UInt64} (h : n.toNat < 2 ^ 53) : sampleValue n = n := by
  have hsize : n.toNat ≤ UInt64.size - 1 := Nat.le_pred_of_lt n.toNat_lt
  rw [sampleValue, nearestDouble_of_lt h, Nat.min_eq_left hsize, UInt64.ofNat_toNat]

theorem Counters.sum_sampled {value : LabelledTotals → UInt64} {c : Counters}
    (h : c.shown value name < 2 ^ 53) :
    ((c.filter (·.operation == name)).map fun t => (sampleValue (value t)).toNat).sum =
      c.shown value name := by
  refine congrArg List.sum (List.map_congr_left fun t ht => ?_)
  have hle : (value t).toNat ≤ c.shown value name :=
    List.le_sum_of_mem (List.mem_map_of_mem ht)
  rw [sampleValue_of_lt (hle.trans_lt h)]

theorem Counters.sampled_calls {c : Counters} (h : c.shown (·.calls) name < 2 ^ 53) :
    c.sampled "mrqueue_operations_total" name = c.shown (·.calls) name := by
  rw [← sum_sampled h]
  simp [sampled, samples, List.filter_map, Function.comp_def]

theorem Counters.sampled_items {c : Counters} (h : c.shown (·.items) name < 2 ^ 53) :
    c.sampled "mrqueue_items_total" name = c.shown (·.items) name := by
  rw [← sum_sampled h]
  simp [sampled, samples, List.filter_map, Function.comp_def]

end Shown

section Categories

def Category.operations : Category → List Activity
  | appended => [.append, .appends]
  | claimed => [.readItems]
  | committed => [.commit]
  | rejected => [.reject]
  | recovered => [.recoverTimedOut]
  | removed => [.removeExhausted, .removeCompleted, .removeBroken]

def Category.names (k : Category) : List String := k.operations.map Activity.name

theorem Category.has_eq (k : Category) (name : String) : k.has name = k.names.contains name := by
  rw [Bool.eq_iff_iff, has, beq_iff_eq, List.contains_iff_mem, names, ofName?]
  split_ifs with happended hclaimed hcommitted hrejected hrecovered hremoved
  · rcases happended with rfl | rfl <;> cases k <;> decide
  · subst hclaimed
    cases k <;> decide
  · subst hcommitted
    cases k <;> decide
  · subst hrejected
    cases k <;> decide
  · subst hrecovered
    cases k <;> decide
  · rcases hremoved with rfl | rfl | rfl <;> cases k <;> decide
  · cases k <;> simp_all [operations]

theorem Metrics.counter_eq (events : List Event) (k : Category) :
    (ofEvents events).counter k =
      .ofNat (weighed Event.size (fun e => k.names.contains e.name) events) := by
  induction events using List.reverseRecOn with
  | nil => cases k <;> rfl
  | append_singleton events e ih =>
    rw [ofEvents_concat, counter_record, ih, weighed_append, weighed_singleton, UInt64.ofNat_add,
      Category.has_eq, e.items_eq]
    split <;> rfl

end Categories

section Orders

variable {events events' : List Event}

theorem eq_of_columns {T K : Type} {key : T → K} {value more : T → UInt64}
    (hsame : ∀ t t', key t = key t' → value t = value t' → more t = more t' → t = t')
    {entries entries' : List T} (hvalue : column key value entries = column key value entries')
    (hmore : column key more entries = column key more entries') : entries = entries' := by
  have hboth := congrArg₂ List.zip hvalue hmore
  simp only [column, List.zip_map'] at hboth
  refine List.map_injective_iff.2 (fun t t' h => ?_) hboth
  simp only [Prod.mk.injEq] at h
  exact hsame t t' h.1.1 h.1.2 h.2.2

theorem Metrics.eq_of_counter {m m' : Metrics} (hcounter : ∀ k, m.counter k = m'.counter k)
    (hoperations : m.operations = m'.operations) : m = m' := by
  cases m
  cases m'
  simp only [Metrics.mk.injEq]
  exact ⟨hcounter .appended, hcounter .claimed, hcounter .committed, hcounter .rejected,
    hcounter .recovered, hcounter .removed, hoperations⟩

theorem Metrics.ofEvents_perm (h : events.Perm events') : ofEvents events = ofEvents events' := by
  obtain ⟨hordered, hcalls, hitems⟩ := kept events
  obtain ⟨hordered', hcalls', hitems'⟩ := kept events'
  refine eq_of_counter (fun k => ?_) (eq_of_columns ?_
    (hcalls.eq_of_perm h hcalls' (List.pairwise_map.2 hordered) (List.pairwise_map.2 hordered'))
    (hitems.eq_of_perm h hitems' (List.pairwise_map.2 hordered) (List.pairwise_map.2 hordered')))
  · rw [counter_eq, counter_eq, weighed_perm _ _ h]
  · rintro ⟨_, _, _⟩ ⟨_, _, _⟩ rfl rfl rfl
    rfl

theorem OneSeries.perm (h : OneSeries events) (hperm : events.Perm events') : OneSeries events' :=
  fun e he e' he' => h e (hperm.mem_iff.2 he) e' (hperm.mem_iff.2 he')

theorem Counters.ofEvents_perm (hseries : OneSeries events) (h : events.Perm events') :
    ofEvents events = ofEvents events' := by
  obtain ⟨hordered, hcalls, hitems⟩ := kept hseries
  obtain ⟨hordered', hcalls', hitems'⟩ := kept (hseries.perm h)
  refine eq_of_columns (fun t t' hlabels hcalls hitems => ?_)
    (hcalls.eq_of_perm h hcalls' (List.pairwise_map.2 hordered) (List.pairwise_map.2 hordered'))
    (hitems.eq_of_perm h hitems' (List.pairwise_map.2 hordered) (List.pairwise_map.2 hordered'))
  obtain ⟨operation, source, calls, items⟩ := t
  obtain ⟨hoperation, hsource⟩ := Prod.mk.inj (toLex.injective hlabels)
  subst hoperation hsource hcalls hitems
  rfl

end Orders

theorem weighed_one (p : Event → Bool) (events : List Event) :
    weighed (fun _ => 1) p events = events.countP p := by
  simp [weighed, List.countP_eq_length_filter]

structure SinksAgree (events : List Event) (name : String) : Prop where
  silent : (Metrics.ofEvents events).operation? name = none ↔ ∀ e ∈ events, e.name ≠ name
  calls : events.countP (·.name == name) < 2 ^ 64 →
    ((Metrics.ofEvents events).shown (·.calls) name).toNat = events.countP (·.name == name) ∧
    (Counters.ofEvents events).shown (·.calls) name = events.countP (·.name == name)
  items : weighed Event.size (·.name == name) events < 2 ^ 64 →
    ((Metrics.ofEvents events).shown (·.items) name).toNat =
      weighed Event.size (·.name == name) events ∧
    (Counters.ofEvents events).shown (·.items) name = weighed Event.size (·.name == name) events
  /-- Samples are exact up to the precision of a double. -/
  sampledCalls : events.countP (·.name == name) < 2 ^ 53 →
    (Counters.ofEvents events).sampled "mrqueue_operations_total" name =
      events.countP (·.name == name)
  sampledItems : weighed Event.size (·.name == name) events < 2 ^ 53 →
    (Counters.ofEvents events).sampled "mrqueue_items_total" name =
      weighed Event.size (·.name == name) events

structure CategoryAgrees (events : List Event) (k : Category) : Prop where
  counter : ((Metrics.ofEvents events).counter k).toNat =
    weighed Event.size (fun e => k.names.contains e.name) events
  operations : ((Metrics.ofEvents events).counter k).toNat =
    (((Metrics.ofEvents events).operations.filter fun t => k.names.contains t.name).map
      (·.items.toNat)).sum

variable {events : List Event}

theorem shown_agree {weight : Event → Nat} {value : OperationTotals → UInt64}
    {value' : LabelledTotals → UInt64}
    (h : Kept Event.name weight events
      (column OperationTotals.name value (Metrics.ofEvents events).operations))
    (h' : Kept Event.labels weight events
      (column LabelledTotals.labels value' (Counters.ofEvents events)))
    {name : String} (hsmall : weighed weight (·.name == name) events < 2 ^ 64) :
    ((Metrics.ofEvents events).shown value name).toNat = weighed weight (·.name == name) events ∧
      (Counters.ofEvents events).shown value' name = weighed weight (·.name == name) events := by
  rw [Metrics.shown_eq h, UInt64.toNat_ofNat_of_lt' hsmall]
  exact ⟨rfl, Counters.shown_eq h' hsmall⟩

theorem sinksAgree (h : OneSeries events) (name : String) : SinksAgree events name := by
  obtain ⟨-, hcalls, hitems⟩ := Metrics.kept events
  obtain ⟨-, hcalls', hitems'⟩ := Counters.kept h
  refine ⟨Metrics.operation?_eq_none_iff, ?_, shown_agree hitems hitems', ?_, fun hsmall => ?_⟩
  · rw [← weighed_one]
    exact shown_agree hcalls hcalls'
  · rw [← weighed_one]
    intro hsmall
    have hshown := (shown_agree hcalls hcalls' (hsmall.trans (by decide))).2
    rw [Counters.sampled_calls (hshown ▸ hsmall), hshown]
  · have hshown := (shown_agree hitems hitems' (hsmall.trans (by decide))).2
    rw [Counters.sampled_items (hshown ▸ hsmall), hshown]

theorem categoryAgrees (k : Category)
    (hsmall : weighed Event.size (fun e => k.names.contains e.name) events < 2 ^ 64) :
    CategoryAgrees events k := by
  have hcounter : ((Metrics.ofEvents events).counter k).toNat =
      weighed Event.size (fun e => k.names.contains e.name) events := by
    rw [Metrics.counter_eq, UInt64.toNat_ofNat_of_lt' hsmall]
  have hsum := (Metrics.kept events).2.2.sumIn_eq hsmall
  rw [sumIn_column] at hsum
  exact ⟨hcounter, hcounter.trans hsum.symm⟩

/-- The totals and the counters agree on every operation, and each counter of a category with the
operations in it, as long as what they count fits into 64 bits. None of it depends on the order of
the events. -/
theorem sinks_agree (hseries : OneSeries events) :
    (∀ name, SinksAgree events name) ∧
    (∀ k : Category, weighed Event.size (fun e => k.names.contains e.name) events < 2 ^ 64 →
      CategoryAgrees events k) ∧
    ∀ events', events.Perm events' → Metrics.ofEvents events' = Metrics.ofEvents events ∧
      Counters.ofEvents events' = Counters.ofEvents events :=
  ⟨sinksAgree hseries, categoryAgrees, fun _ h =>
    ⟨(Metrics.ofEvents_perm h).symm, (Counters.ofEvents_perm hseries h).symm⟩⟩

/-- Appends from two sources, and an operation that no category is about. -/
theorem sinks_agree_appends :
    let events : List Event := [⟨"s", "Append", .id ⟨1⟩⟩, ⟨"t", "Append", .ids [⟨2⟩, ⟨3⟩]⟩,
      ⟨"s", "Other", .count 0⟩]
    OneSeries events ∧ ((Metrics.ofEvents events).shown (·.items) "Append").toNat = 3 ∧
      (Counters.ofEvents events).shown (·.items) "Append" = 3 := by
  intro events
  have hseries : OneSeries events := by unfold OneSeries; decide +kernel
  exact ⟨hseries, ((sinks_agree hseries).1 "Append").items (by decide +kernel)⟩

end WorkQueue
