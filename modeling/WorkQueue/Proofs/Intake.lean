import WorkQueue.Proofs.Insertion

namespace WorkQueue

structure Item.Proper (item : Item) : Prop where
  id : item.id.value ≠ 0
  attempts : item.retryAttempts ≠ 0

inductive Item.Faulty (item : Item) : InputFault → Prop
  | id (h : item.id.value = 0) : Faulty item .zeroId
  | attempts (hid : item.id.value ≠ 0) (h : item.retryAttempts = 0) : Faulty item .zeroAttempts

section Validate

variable {item : Item} {fault : InputFault}

theorem Item.validate_eq_ok_iff : item.validate = .ok () ↔ item.Proper := by
  by_cases hid : item.id.value = 0
  · have hnot : ¬item.Proper := fun h => h.id hid
    simp [validate, ItemId.isZero, hid, hnot]
  · by_cases hattempts : item.retryAttempts = 0
    · have hnot : ¬item.Proper := fun h => h.attempts hattempts
      simp [validate, ItemId.isZero, hid, hattempts, hnot]
    · have hproper : item.Proper := ⟨hid, hattempts⟩
      simp [validate, ItemId.isZero, hid, hattempts, hproper]

theorem Item.validate_eq_error_iff : item.validate = .error fault ↔ item.Faulty fault := by
  constructor
  · intro h
    by_cases hid : item.id.value = 0
    · simp only [validate, ItemId.isZero, hid, beq_self_eq_true, if_true] at h
      cases h
      exact .id hid
    · by_cases hattempts : item.retryAttempts = 0
      · simp [validate, ItemId.isZero, hid, hattempts] at h
        cases h
        exact .attempts hid hattempts
      · rw [validate_eq_ok_iff.2 ⟨hid, hattempts⟩] at h
        cases h
  · rintro (hid | ⟨hid, hattempts⟩)
    · simp [validate, ItemId.isZero, hid]
    · simp [validate, ItemId.isZero, hid, hattempts]

end Validate

namespace Queue

inductive FirstFault : List Item → Nat → Item → InputFault → Prop
  | intro {before item after fault} (hbefore : ∀ other ∈ before, Item.Proper other)
    (h : item.Faulty fault) : FirstFault (before ++ item :: after) before.length item fault

inductive Obstructed (t : Memory.Tables) (items : List Item) : Prop
  | repeated (h : ¬(items.map (·.id)).Nodup)
  | active {item} (hmem : item ∈ items) (h : t.items.get? item.id ≠ none)
  | tooLong {item} (hmem : item ∈ items) (h : Duration.longestWindow < item.readyDelay.nanos)

def place (entry : Item × Nat) : Option (Nat × Item × InputFault) :=
  match entry.1.validate with
  | .ok () => none
  | .error fault => some (entry.2, entry.1, fault)

theorem place_eq_none_iff {entry : Item × Nat} : place entry = none ↔ entry.1.Proper := by
  rw [← Item.validate_eq_ok_iff, place]
  cases entry.1.validate <;> simp

theorem place_eq_some_iff {entry : Item × Nat} {index : Nat} {item : Item} {fault : InputFault} :
    place entry = some (index, item, fault) ↔ entry = (item, index) ∧ item.Faulty fault := by
  obtain ⟨other, n⟩ := entry
  rw [← Item.validate_eq_error_iff, place, Prod.mk.injEq]
  constructor
  · intro h
    split at h
    · cases h
    · next hvalidate =>
      cases h
      exact ⟨⟨rfl, rfl⟩, hvalidate⟩
  · rintro ⟨⟨rfl, rfl⟩, h⟩
    simp [h]

section Items

variable {items : List Item}

theorem forall_place_eq_none_iff (n : Nat) :
    (∀ entry ∈ items.zipIdx n, place entry = none) ↔ ∀ item ∈ items, Item.Proper item := by
  simp only [place_eq_none_iff]
  constructor
  · intro h item hmem
    rw [← List.zipIdx_map_fst n items, List.mem_map] at hmem
    obtain ⟨entry, hentry, rfl⟩ := hmem
    exact h entry hentry
  · exact fun h entry hmem => h entry.1 (List.fst_mem_of_mem_zipIdx hmem)

theorem firstInvalid_eq_findSome? (items : List Item) :
    firstInvalid items = items.zipIdx.findSome? place := List.head?_filterMap

theorem firstInvalid_eq_none_iff :
    firstInvalid items = none ↔ ∀ item ∈ items, Item.Proper item := by
  rw [firstInvalid_eq_findSome?, List.findSome?_eq_none_iff, forall_place_eq_none_iff]

theorem firstInvalid_eq_some_iff {index : Nat} {item : Item} {fault : InputFault} :
    firstInvalid items = some (index, item, fault) ↔ FirstFault items index item fault := by
  rw [firstInvalid_eq_findSome?, List.findSome?_eq_some_iff]
  constructor
  · rintro ⟨places, entry, rest, hsplit, hplace, hplaces⟩
    obtain ⟨rfl, hfault⟩ := place_eq_some_iff.1 hplace
    obtain ⟨before, tail, rfl, rfl, htail⟩ := List.zipIdx_eq_append_iff.1 hsplit
    obtain ⟨other, after, rfl, hother, -⟩ := List.zipIdx_eq_cons_iff.1 htail.symm
    rw [Nat.zero_add, Prod.mk.injEq] at hother
    obtain ⟨rfl, rfl⟩ := hother
    exact .intro ((forall_place_eq_none_iff 0).1 hplaces) hfault
  · intro h
    cases h with
    | @intro before _ after _ hbefore hfault =>
      refine ⟨before.zipIdx, (item, before.length), after.zipIdx (before.length + 1), ?_,
        place_eq_some_iff.2 ⟨rfl, hfault⟩, (forall_place_eq_none_iff 0).2 hbefore⟩
      rw [List.zipIdx_append, List.zipIdx_cons, Nat.zero_add]

end Items

namespace Call

theorem fault?_appends_eq_none_iff {items : List Item} :
    (appends items).fault? = none ↔ ∀ item ∈ items, Item.Proper item := by
  rw [← firstInvalid_eq_none_iff, fault?]
  exact Option.map_eq_none_iff

theorem fault?_append_eq_none_iff {item : Item} : (append item).fault? = none ↔ item.Proper := by
  rw [← Item.validate_eq_ok_iff, fault?]
  cases item.validate <;> simp

end Call

end Queue

namespace Memory

open Queue Operation

theorem UnitOfWork.Fresh.keys_perm {u : UnitOfWork} {items : List Item} {t : Tables}
    (hfresh : u.Fresh items) (h : Brings u.now items u.tables t) :
    t.items.keys.Perm (u.tables.items.keys ++ items.map (·.id)) := by
  have hdisjoint : u.tables.items.keys.Disjoint (items.map (·.id)) :=
    fun id hkey hid => Table.mem_keys.1 hkey (hfresh.absent id hid)
  refine (List.perm_ext_iff_of_nodup t.items.nodup_keys
    (u.tables.items.nodup_keys.append hfresh.distinct hdisjoint)).2 fun id => ?_
  rw [List.mem_append, Table.mem_keys, Table.mem_keys]
  by_cases hid : id ∈ items.map (·.id)
  · obtain ⟨item, hmem, rfl⟩ := List.mem_map.1 hid
    obtain ⟨time, hrow, -⟩ := h.rows item hmem
    simp [hrow, hid]
  · simp [h.others id hid, hid]

theorem obstructed_iff {u : UnitOfWork} {items : List Item} : Obstructed u.tables items ↔
    ¬(u.Fresh items ∧ ∀ item ∈ items, item.readyDelay.isWindow = true) := by
  constructor
  · rintro (hrepeated | ⟨hmem, hactive⟩ | ⟨hmem, hlong⟩) ⟨hfresh, hrange⟩
    · exact hrepeated hfresh.distinct
    · exact hactive (hfresh.absent _ (List.mem_map_of_mem hmem))
    · exact Nat.not_le.2 hlong (of_decide_eq_true (hrange _ hmem))
  · intro hnot
    by_contra hfree
    refine hnot ⟨⟨?_, fun id hid => ?_⟩, fun item hmem => decide_eq_true ?_⟩
    · by_contra hrepeated
      exact hfree (.repeated hrepeated)
    · obtain ⟨item, hmem, rfl⟩ := List.mem_map.1 hid
      by_contra hactive
      exact hfree (.active hmem hactive)
    · by_contra hlong
      exact hfree (.tooLong hmem (Nat.not_le.1 hlong))

theorem not_obstructed_nil {t : Tables} : ¬Obstructed t [] := by
  rintro (hrepeated | ⟨hmem, -⟩ | ⟨hmem, -⟩)
  · exact hrepeated List.nodup_nil
  · cases hmem
  · cases hmem

theorem insertSubject_eq_item_iff {items : List Item} {id : ItemId} :
    insertSubject items = .item id ↔ items.map (·.id) = [id] := by
  obtain _ | ⟨item, _ | ⟨other, rest⟩⟩ := items <;> simp [insertSubject]

/-- How an `appends` of `items` that begins at `now` on the tables `before` ends with `result` and
the tables `after`, and what it asks for on the way. -/
structure AppendsAll (now : Instant) (items : List Item) (before : Tables)
    (result : Except QueueError Reply) (steps : List Step) (after : Tables) : Prop where
  empty : items = [] → result = .ok .done ∧ after = before ∧ ∀ x ∈ steps, x.kind = .note
  invalid : ∀ index id fault, result = .error (.invalidBatchItem index id fault) ↔
    ∃ item, FirstFault items index item fault ∧ item.id = id
  unread : (∃ item ∈ items, ¬item.Proper) → steps = []
  storage : (∃ subject cause, result = .error (.storage subject cause)) ↔
    (∀ item ∈ items, item.Proper) ∧ Obstructed before items
  names : ∀ subject cause, result = .error (.storage subject cause) →
    ∀ id, subject = .item id ↔ items.map (·.id) = [id]
  done : result = .ok .done ↔ (∀ item ∈ items, item.Proper) ∧ ¬Obstructed before items
  event : result = .ok .done → items ≠ [] →
    steps.filterMap emitted? = [.of .appends (.ids (items.map (·.id)))]
  brings : result = .ok .done → Brings now items before after ∧
    after.items.keys.Perm (before.items.keys ++ items.map (·.id))
  kept : ∀ e, result = .error e → after = before ∧ steps.filterMap emitted? = []

namespace AppendsAll

variable {now : Instant} {items : List Item} {before after : Tables} {steps : List Step}

theorem not_firstFault (hproper : ∀ item ∈ items, item.Proper) (index : Nat) (item : Item)
    (fault : InputFault) : ¬FirstFault items index item fault := by
  intro h
  have hfirst := firstInvalid_eq_some_iff.2 h
  rw [firstInvalid_eq_none_iff.2 hproper] at hfirst
  cases hfirst

theorem of_invalid {index : Nat} {item : Item} {fault : InputFault}
    (h : firstInvalid items = some (index, item, fault)) :
    AppendsAll now items before (.error (.invalidBatchItem index item.id fault)) [] before := by
  have hnot : ¬∀ item ∈ items, item.Proper := by
    rw [← firstInvalid_eq_none_iff, h]
    exact nofun
  have hnonempty : items ≠ [] := by
    rintro rfl
    exact hnot nofun
  constructor
  case invalid =>
    intro index' id fault'
    simp only [← firstInvalid_eq_some_iff, h, Option.some_inj, Prod.mk.injEq, Except.error.injEq,
      QueueError.invalidBatchItem.injEq]
    constructor
    · rintro ⟨rfl, rfl, rfl⟩
      exact ⟨item, ⟨rfl, rfl, rfl⟩, rfl⟩
    · rintro ⟨_, ⟨rfl, rfl, rfl⟩, rfl⟩
      exact ⟨rfl, rfl, rfl⟩
  all_goals simp [hnot, hnonempty]

theorem of_nothing {n : Notice} : AppendsAll now [] before (.ok .done) [⟨.note n, ()⟩] before := by
  constructor
  case brings => exact fun _ => ⟨.none _ _, by simp⟩
  all_goals simp [not_obstructed_nil, not_firstFault (List.forall_mem_nil _)]
  rfl

theorem of_refused {cause : StoreError} (hproper : ∀ item ∈ items, item.Proper)
    (hobstructed : Obstructed before items) (hquiet : steps.filterMap emitted? = []) :
    AppendsAll now items before (.error (.storage (insertSubject items) cause)) steps before := by
  have hnonempty : items ≠ [] := by
    rintro rfl
    exact not_obstructed_nil hobstructed
  constructor
  case names =>
    rintro _ _ ⟨⟩ id
    exact insertSubject_eq_item_iff
  case storage => exact iff_of_true ⟨_, _, rfl⟩ ⟨hproper, hobstructed⟩
  case unread =>
    rintro ⟨item, hmem, hnot⟩
    exact absurd (hproper item hmem) hnot
  all_goals simp [not_firstFault hproper, hobstructed, hnonempty, hquiet]

theorem of_done {u : UnitOfWork} (hproper : ∀ item ∈ items, item.Proper)
    (hfresh : u.Fresh items) (hrange : ∀ item ∈ items, item.readyDelay.isWindow = true)
    (hnonempty : items ≠ [])
    (htold : steps.filterMap emitted? = [.of .appends (.ids (items.map (·.id)))])
    (hbrings : Brings u.now items u.tables after) :
    AppendsAll u.now items u.tables (.ok .done) steps after := by
  have hfree : ¬Obstructed u.tables items := fun h => obstructed_iff.1 h ⟨hfresh, hrange⟩
  constructor
  case unread =>
    rintro ⟨item, hmem, hnot⟩
    exact absurd (hproper item hmem) hnot
  case done => exact iff_of_true rfl ⟨hproper, hfree⟩
  case brings => exact fun _ => ⟨hbrings, hfresh.keys_perm hbrings⟩
  all_goals simp [not_firstFault hproper, hfree, hnonempty, htold]

end AppendsAll

theorem UnitOfWork.Insertion.obstructed {u : UnitOfWork} {items : List Item} {e : StoreError}
    {t : Tables} (h : u.Insertion items (.error e) t) : Obstructed u.tables items := by
  rw [obstructed_iff]
  rintro ⟨hfresh, hrange⟩
  cases h with
  | refused hnot => exact hnot hfresh
  | @stopped before bad after _ _ hitems _ hbad _ =>
    have hmem : bad ∈ items := by simp [hitems]
    exact Bool.eq_false_iff.1 hbad (hrange bad hmem)

section Run

variable {S : UnitOfWork → UnitOfWork → Prop} {g : Collaborator S} {b : Backend} {c : Call}
  {subject : Subject} {items : List Item} {report : Call.Report}

namespace Backend.Free

theorem run_insert_ok (hb : b.Free) (hfault : c.fault? = none) (hidle : c.isIdle = false)
    (hwork : c.work .call = store subject (.insert items) >>= fun _ => pure report)
    {v : UnitOfWork} (h : (UnitOfWork.begin b.tables b.clock.now).insert items = (.ok (), v)) :
    (g.run c b).1 = .ok report.reply ∧ (g.run c b).2.tables = v.tables ∧
      g.events c b = [.of report.activity report.data] := by
  have hended : (c.work .call).exec g.serve b.begin.2 = _ := hwork ▸ Collaborator.exec_store_ok
    (Collaborator.begin_engine hb) (c := .insert items) rfl h _
  obtain ⟨hresult, hengine, hevents⟩ := Collaborator.run_unit hb hfault hidle hended
  exact ⟨hresult, congrArg Engine.tables hengine, hevents⟩

theorem run_insert_error (hb : b.Free) (hfault : c.fault? = none) (hidle : c.isIdle = false)
    (hwork : c.work .call = store subject (.insert items) >>= fun _ => pure report)
    {cause : StoreError} {v : UnitOfWork}
    (h : (UnitOfWork.begin b.tables b.clock.now).insert items = (.error cause, v)) :
    (g.run c b).1 = .error (.storage subject cause) := by
  have hended : (c.work .call).exec g.serve b.begin.2 = _ := hwork ▸ Collaborator.exec_store_error
    (Collaborator.begin_engine hb) (c := .insert items) rfl h _
  exact (Collaborator.run_unit hb hfault hidle hended).1

theorem appendsAll (hb : b.Free) (g : Collaborator S) (items : List Item) :
    AppendsAll b.clock.now items b.tables (g.run (.appends items) b).1
      (((Call.appends items).program .call).trace g.serve b)
      (g.run (.appends items) b).2.tables := by
  cases hfirst : firstInvalid items with
  | some bad =>
    rw [Collaborator.run, Call.program_eq, Call.fault?, hfirst]
    exact .of_invalid hfirst
  | none =>
    have hproper := firstInvalid_eq_none_iff.1 hfirst
    cases hidle : items.isEmpty with
    | true =>
      obtain rfl := List.isEmpty_iff.1 hidle
      exact .of_nothing
    | false =>
      have hnonempty : items ≠ [] := by
        rintro rfl
        cases hidle
      have hfault := Call.fault?_appends_eq_none_iff.2 hproper
      have hinsertion := (UnitOfWork.begin b.tables b.clock.now).insertion items
      generalize hinsert : (UnitOfWork.begin b.tables b.clock.now).insert items = inserted
        at hinsertion
      obtain ⟨cause | _, v⟩ := inserted
      · have hresult := hb.run_insert_error (g := g) hfault hidle rfl hinsert
        obtain ⟨hevents, htables⟩ := hb.outcome_error hresult
        rw [hresult, htables]
        exact .of_refused hproper hinsertion.obstructed hevents
      · obtain ⟨hresult, htables, hevents⟩ := hb.run_insert_ok (g := g) hfault hidle rfl hinsert
        rw [hresult, htables]
        cases hinsertion with
        | done hfresh hrange hbrings =>
          exact .of_done hproper hfresh hrange hnonempty hevents hbrings

theorem run_fault (hb : b.Free) (g : Collaborator S) (h : c.fault? ≠ none) :
    (g.run c b).2.tables = b.tables := by
  obtain ⟨e, he⟩ := Option.ne_none_iff_exists'.1 h
  have hresult : (g.run c b).1 = .error e := by
    rw [Collaborator.run, Call.program_eq, he]
    rfl
  exact (hb.outcome_error hresult).2

theorem append_tables (hb : b.Free) (g : Collaborator S) (item : Item) :
    (g.run (.append item) b).2.tables = (g.run (.appends [item]) b).2.tables := by
  have hall : (Call.appends [item]).fault? = none ↔ item.Proper :=
    Call.fault?_appends_eq_none_iff.trans List.forall_mem_singleton
  by_cases hproper : item.Proper
  · have hfault := Call.fault?_append_eq_none_iff.2 hproper
    have hfault' := hall.2 hproper
    generalize hinsert : (UnitOfWork.begin b.tables b.clock.now).insert [item] = inserted
    obtain ⟨cause | _, v⟩ := inserted
    · have hone := hb.run_insert_error (g := g) hfault rfl rfl hinsert
      have hbatch := hb.run_insert_error (g := g) hfault' rfl rfl hinsert
      rw [(hb.outcome_error hone).2, (hb.outcome_error hbatch).2]
    · have hone := hb.run_insert_ok (g := g) hfault rfl rfl hinsert
      have hbatch := hb.run_insert_ok (g := g) hfault' rfl rfl hinsert
      rw [hone.2.1, hbatch.2.1]
  · rw [hb.run_fault g fun h => hproper (Call.fault?_append_eq_none_iff.1 h),
      hb.run_fault g fun h => hproper (hall.1 h)]

end Backend.Free

end Run

/-- An `appends` of any items, proper or not, new or not, on any tables. It comes to the first thing
that is wrong, looked for in this order: a fault of an item, then what keeps the items from being
inserted. If nothing is wrong each item becomes one ready row, and if something is, nothing happens
to the tables. -/
theorem appends_exact {S : UnitOfWork → UnitOfWork → Prop} (g : Collaborator S) {b : Backend}
    (hb : b.Free) :
    (∀ items, AppendsAll b.clock.now items b.tables (g.run (.appends items) b).1
      (((Call.appends items).program .call).trace g.serve b)
      (g.run (.appends items) b).2.tables) ∧
    ∀ item, (g.run (.append item) b).2.tables = (g.run (.appends [item]) b).2.tables :=
  ⟨hb.appendsAll g, hb.append_tables g⟩

/-- A queue that holds an item, and batches with another one, with a fault after the item that is
there, and with a new item before it. -/
theorem appends_exact_again :
    let g : Collaborator LeavesRows := .plain _
    let b := (Backend.start (.clamp 0)).play [.call g (.append ⟨⟨1⟩, .zero, 3⟩)]
    let run := fun items => g.run (.appends items) b
    b.Free ∧ (run [⟨⟨2⟩, .ofSeconds 5, 3⟩]).1 = .ok .done ∧
      (run [⟨⟨2⟩, .ofSeconds 5, 3⟩]).2.tables.items.keys = [⟨1⟩, ⟨2⟩] ∧
      (run [⟨⟨1⟩, .zero, 3⟩, ⟨⟨0⟩, .zero, 0⟩]).1 = .error (.invalidBatchItem 1 ⟨0⟩ .zeroId) ∧
      ∃ subject cause, (run [⟨⟨2⟩, .zero, 3⟩, ⟨⟨1⟩, .zero, 3⟩]).1 =
        .error (.storage subject cause) := by
  intro g b run
  have hb : b.Free := (Backend.Free.start (.clamp 0)).play _
  have hexact := (appends_exact g hb).1
  have hactive : b.tables.items.get? ⟨1⟩ ≠ none := by decide +kernel
  refine ⟨hb, by decide +kernel, by decide +kernel, ?_, ?_⟩
  · have hfirst : Item.Proper ⟨⟨1⟩, .zero, 3⟩ := ⟨by decide, by decide⟩
    exact ((hexact _).invalid 1 ⟨0⟩ _).2
      ⟨⟨⟨0⟩, .zero, 0⟩, .intro (List.forall_mem_singleton.2 hfirst) (.id rfl), rfl⟩
  · refine (hexact _).storage.2 ⟨?_, .active (List.mem_cons_of_mem _ List.mem_cons_self) hactive⟩
    exact List.forall_mem_cons.2 ⟨⟨by decide, by decide⟩,
      List.forall_mem_singleton.2 ⟨by decide, by decide⟩⟩

end Memory

end WorkQueue
