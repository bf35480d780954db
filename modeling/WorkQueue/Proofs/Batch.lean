import WorkQueue.Proofs.Undo

namespace WorkQueue.Memory

theorem length_oldest_le (limit : UInt32) (candidates : List Candidate) :
    (oldest limit candidates).length ≤ limit.toNat := by
  rw [oldest, List.length_map, List.length_take]
  exact Nat.min_le_left _ _

theorem mem_of_mem_oldest {limit : UInt32} {candidates : List Candidate} {id : ItemId}
    (h : id ∈ oldest limit candidates) : ∃ c ∈ candidates, c.id = id := by
  obtain ⟨c, hc, rfl⟩ := List.mem_map.1 h
  exact ⟨c, (List.mergeSort_perm _ _).mem_iff.1 (List.mem_of_mem_take hc), rfl⟩

theorem nodup_oldest {limit : UInt32} {candidates : List Candidate}
    (h : (candidates.map (·.id)).Nodup) : (oldest limit candidates).Nodup := by
  have sorted := ((List.mergeSort_perm candidates Candidate.le).map (·.id)).nodup_iff.2 h
  exact sorted.sublist ((List.take_sublist _ _).map _)

theorem ids_eligible (p : Row → Bool) (t : Table Row) :
    (eligible p t).map (·.id) = (t.rows.filter fun row => p row.2).map (·.1) := by
  rw [eligible, List.map_map]
  rfl

theorem mem_eligible {p : Row → Bool} {t : Table Row} {c : Candidate} (h : c ∈ eligible p t) :
    ∃ row, t.get? c.id = some row ∧ p row = true := by
  obtain ⟨⟨id, row⟩, hmem, rfl⟩ := List.mem_map.1 h
  obtain ⟨hmem, hp⟩ := List.mem_filter.1 hmem
  exact ⟨row, Table.get?_eq_some_iff.2 hmem, hp⟩

theorem nodup_eligible (p : Row → Bool) (t : Table Row) : ((eligible p t).map (·.id)).Nodup := by
  rw [ids_eligible]
  exact t.sorted.nodup_keys.sublist (List.filter_sublist.map _)

theorem mem_oldest_eligible {limit : UInt32} {p : Row → Bool} {t : Table Row} {id : ItemId}
    (h : id ∈ oldest limit (eligible p t)) : ∃ row, t.get? id = some row ∧ p row = true := by
  obtain ⟨c, hc, rfl⟩ := mem_of_mem_oldest h
  exact mem_eligible hc

theorem le_latest_left (a b : Instant) : a ≤ a.latest b := by
  rw [Instant.latest]
  split
  · assumption
  · exact Int.le_refl _

theorem le_latest_right (a b : Instant) : b ≤ a.latest b := by
  rw [Instant.latest]
  split
  · exact Int.le_refl _
  · next h => exact Int.le_of_lt (Int.not_le.1 h)

theorem le_foldl_latest {time : Instant} {entries : List FailureEntry} :
    time ≤ entries.foldl (fun time e => time.latest e.time) time ∧
      ∀ e ∈ entries, e.time ≤ entries.foldl (fun time e => time.latest e.time) time := by
  induction entries generalizing time with
  | nil => exact ⟨Int.le_refl _, by simp⟩
  | cons e entries ih =>
    obtain ⟨hnow, hrest⟩ := @ih (time.latest e.time)
    refine ⟨Int.le_trans (le_latest_left time e.time) hnow, ?_⟩
    rw [List.forall_mem_cons]
    exact ⟨Int.le_trans (le_latest_right time e.time) hnow, hrest⟩

namespace UnitOfWork

theorem foldl_frame {α γ : Type} (g : UnitOfWork → γ) {f : UnitOfWork → α → UnitOfWork}
    (hf : ∀ u a, g (f u a) = g u) (u : UnitOfWork) (l : List α) : g (l.foldl f u) = g u := by
  induction l generalizing u with
  | nil => rfl
  | cons a l ih => rw [List.foldl_cons, ih, hf]

theorem get?_transition (u : UnitOfWork) (target : Status) (id k : ItemId) :
    (u.transition target id).tables.items.get? k =
      if k = id then
        (u.tables.items.get? k).map fun row => { row with status := target, time := u.now }
      else u.tables.items.get? k := by
  simp only [transition]
  by_cases hk : k = id
  · subst hk
    cases hrow : u.tables.items.get? k with
    | none => simp [hrow]
    | some row => simp [putItem]
  · cases u.tables.items.get? id with
    | none => simp [hk]
    | some row => simp [putItem, hk]

@[simp] theorem transition_now (u : UnitOfWork) (target : Status) (id : ItemId) :
    (u.transition target id).now = u.now := by
  simp only [transition]
  split <;> rfl

@[simp] theorem transition_completed (u : UnitOfWork) (target : Status) (id : ItemId) :
    (u.transition target id).tables.completed = u.tables.completed := by
  simp only [transition]
  split <;> rfl

@[simp] theorem transitionAll_completed (u : UnitOfWork) (target : Status) (ids : List ItemId) :
    (u.transitionAll target ids).tables.completed = u.tables.completed :=
  foldl_frame (·.tables.completed) (fun u id => transition_completed u target id) u ids

theorem get?_transitionAll (u : UnitOfWork) (target : Status) (ids : List ItemId) (k : ItemId) :
    (u.transitionAll target ids).tables.items.get? k =
      if k ∈ ids then
        (u.tables.items.get? k).map fun row => { row with status := target, time := u.now }
      else u.tables.items.get? k := by
  induction ids generalizing u with
  | nil => rfl
  | cons id ids ih =>
    rw [transitionAll, List.foldl_cons]
    refine (ih (u.transition target id)).trans ?_
    rw [get?_transition, transition_now]
    by_cases hk : k = id
    · subst hk
      cases u.tables.items.get? k <;> simp
    · simp [hk]

theorem duplicate?_eq_none_iff {u : UnitOfWork} {seen ids : List ItemId} :
    u.duplicate? seen ids = none ↔
      ids.Nodup ∧ ∀ id ∈ ids, u.tables.items.contains id = false ∧ id ∉ seen := by
  induction ids generalizing seen with
  | nil => simp [duplicate?]
  | cons id ids ih =>
    cases hid : u.tables.items.contains id || seen.contains id with
    | true =>
      have hbad : ¬(u.tables.items.contains id = false ∧ id ∉ seen) := by
        intro ⟨hrow, hseen⟩
        simp [hrow, hseen] at hid
      simp only [duplicate?, hid, if_true, reduceCtorEq, false_iff]
      exact fun h => hbad (h.2 id List.mem_cons_self)
    | false =>
      obtain ⟨hrow, hseen⟩ : u.tables.items.contains id = false ∧ id ∉ seen := by
        simpa using hid
      simp only [duplicate?, hid, Bool.false_eq_true, if_false]
      rw [ih, List.nodup_cons, List.forall_mem_cons]
      constructor
      · intro ⟨hnodup, h⟩
        refine ⟨⟨fun hmem => (h id hmem).2 List.mem_cons_self, hnodup⟩, ⟨hrow, hseen⟩, ?_⟩
        exact fun k hk => ⟨(h k hk).1, fun hin => (h k hk).2 (List.mem_cons_of_mem _ hin)⟩
      · intro ⟨⟨hnot, hnodup⟩, _, h⟩
        refine ⟨hnodup, fun k hk => ⟨(h k hk).1, fun hin => ?_⟩⟩
        rcases List.mem_cons.1 hin with rfl | hin
        · exact hnot hk
        · exact (h k hk).2 hin

theorem insertRows_completed (u : UnitOfWork) (items : List Item) :
    (u.insertRows items).2.tables.completed = u.tables.completed := by
  induction items generalizing u with
  | nil => rfl
  | cons item rest ih =>
    simp only [insertRows]
    split
    · rfl
    · exact ih _

theorem get?_insertRows {u v : UnitOfWork} {items : List Item}
    (h : u.insertRows items = (.ok (), v)) (k : ItemId) :
    (k ∉ items.map (·.id) ∧ v.tables.items.get? k = u.tables.items.get? k) ∨
      ∃ item ∈ items, item.id = k ∧ ∃ time, visibleAt u.now item.readyDelay = .ok time ∧
        v.tables.items.get? k = some ⟨.ready, item.retryAttempts, time⟩ := by
  induction items generalizing u with
  | nil =>
    cases h
    exact .inl ⟨nofun, rfl⟩
  | cons item rest ih =>
    simp only [insertRows] at h
    split at h
    · cases h
    · next time htime =>
      rcases ih h with ⟨hnot, hsame⟩ | ⟨other, hmem, hother⟩
      · by_cases hk : k = item.id
        · refine .inr ⟨item, List.mem_cons_self, hk.symm, time, htime, ?_⟩
          rw [hsame, hk]
          simp [putItem]
        · refine .inl ⟨by simp [hk, hnot], ?_⟩
          rw [hsame]
          simp [putItem, hk]
      · exact .inr ⟨other, List.mem_cons_of_mem _ hmem, hother⟩

theorem insert_fresh {u v : UnitOfWork} {items : List Item} (h : u.insert items = (.ok (), v)) :
    (items.map (·.id)).Nodup ∧ ∀ id ∈ items.map (·.id), u.tables.items.get? id = none := by
  simp only [insert] at h
  split at h
  · cases h
  · next hnone =>
    obtain ⟨hnodup, hfresh⟩ := duplicate?_eq_none_iff.1 hnone
    refine ⟨hnodup, fun id hid => ?_⟩
    have hcontains := (hfresh id hid).1
    simpa [Table.contains] using hcontains

theorem insert_ok {u v : UnitOfWork} {items : List Item} (h : u.insert items = (.ok (), v)) :
    u.insertRows items = (.ok (), v) := by
  simp only [insert] at h
  split at h
  · cases h
  · exact h

theorem insert_completed (u : UnitOfWork) (items : List Item) :
    (u.insert items).2.tables.completed = u.tables.completed := by
  simp only [insert]
  split
  · rfl
  · exact insertRows_completed u items

theorem demote_completed (u : UnitOfWork) (id : ItemId) :
    (u.demote id).2.tables.completed = u.tables.completed := by
  simp only [demote]
  split
  · split <;> rfl
  · rfl

theorem get?_foldl_removeItem (u : UnitOfWork) (ids : List ItemId) (k : ItemId) :
    (ids.foldl removeItem u).tables.items.get? k =
      if k ∈ ids then none else u.tables.items.get? k := by
  induction ids generalizing u with
  | nil => rfl
  | cons id ids ih =>
    rw [List.foldl_cons, ih]
    by_cases hk : k = id <;> simp [removeItem, hk]

theorem get?_foldl_removeCompleted (u : UnitOfWork) (ids : List ItemId) (k : ItemId) :
    (ids.foldl removeCompleted u).tables.completed.get? k =
      if k ∈ ids then none else u.tables.completed.get? k := by
  induction ids generalizing u with
  | nil => rfl
  | cons id ids ih =>
    rw [List.foldl_cons, ih]
    by_cases hk : k = id <;> simp [removeCompleted, hk]

@[simp] theorem recordFailures_items (u : UnitOfWork) (rows : List Failure) :
    (u.recordFailures rows).tables.items = u.tables.items := by
  apply foldl_frame (·.tables.items)
  intro u row
  rfl

@[simp] theorem recordFailures_completed (u : UnitOfWork) (rows : List Failure) :
    (u.recordFailures rows).tables.completed = u.tables.completed := by
  apply foldl_frame (·.tables.completed)
  intro u row
  rfl

@[simp] theorem foldl_removeItem_completed (u : UnitOfWork) (ids : List ItemId) :
    (ids.foldl removeItem u).tables.completed = u.tables.completed := by
  apply foldl_frame (·.tables.completed)
  intro u id
  rfl

@[simp] theorem foldl_removeCompleted_items (u : UnitOfWork) (ids : List ItemId) :
    (ids.foldl removeCompleted u).tables.items = u.tables.items := by
  apply foldl_frame (·.tables.items)
  intro u id
  rfl

@[simp] theorem foldl_removeBroken_items (u : UnitOfWork) (ids : List ItemId) :
    (ids.foldl removeBroken u).tables.items = u.tables.items := by
  apply foldl_frame (·.tables.items)
  intro u id
  rfl

@[simp] theorem foldl_removeBroken_completed (u : UnitOfWork) (ids : List ItemId) :
    (ids.foldl removeBroken u).tables.completed = u.tables.completed := by
  apply foldl_frame (·.tables.completed)
  intro u id
  rfl

theorem complete_ok {u v : UnitOfWork} {id : ItemId} (h : u.complete id = (.ok (), v)) :
    u.tables.completed.contains id = false ∧ v = u.putCompleted id u.now := by
  simp only [complete] at h
  split at h
  · cases h
  · next hfree =>
    cases h
    exact ⟨Bool.eq_false_iff.2 hfree, rfl⟩

theorem recover_ok {u v : UnitOfWork} {timeout : Duration} {limit : UInt32} {ids : List ItemId}
    (h : u.recover timeout limit = (.ok ids, v)) : v = u.transitionAll .retry ids ∧
      ∃ time, deadline u.now timeout = .ok time ∧ ids = oldest limit
        (eligible (fun row => row.status == .processing && row.time < time) u.tables.items) := by
  simp only [recover] at h
  split at h
  · cases h
  · next time htime =>
    cases h
    exact ⟨rfl, time, htime, rfl⟩

theorem requeue_ok {u v : UnitOfWork} {delay : Duration} {limit : UInt32} {ids : List ItemId}
    (h : u.requeue delay limit = (.ok ids, v)) : v = u.transitionAll .ready ids ∧
      ∃ time, deadline u.now delay = .ok time ∧ ids = oldest limit (eligible
        (fun row => row.status == .retry && row.time ≤ time && row.attempts != 0)
          u.tables.items) := by
  simp only [requeue] at h
  split at h
  · cases h
  · next time htime =>
    cases h
    exact ⟨rfl, time, htime, rfl⟩

theorem expireCompleted_ok {u v : UnitOfWork} {expiry : Duration} {limit : UInt32}
    {ids : List ItemId} (h : u.expireCompleted expiry limit = (.ok ids, v)) :
    v = ids.foldl removeCompleted u := by
  simp only [expireCompleted] at h
  split at h
  · cases h
  · cases h
    rfl

theorem expireBroken_ok {u v : UnitOfWork} {expiry : Duration} {limit : UInt32}
    {ids : List ItemId} (h : u.expireBroken expiry limit = (.ok ids, v)) :
    v = ids.foldl removeBroken u := by
  simp only [expireBroken] at h
  split at h
  · cases h
  · cases h
    rfl

@[simp] theorem transitionAll_now (u : UnitOfWork) (target : Status) (ids : List ItemId) :
    (u.transitionAll target ids).now = u.now :=
  foldl_frame (·.now) (fun u id => transition_now u target id) u ids

theorem insertRows_now (u : UnitOfWork) (items : List Item) : (u.insertRows items).2.now = u.now := by
  induction items generalizing u with
  | nil => rfl
  | cons item rest ih =>
    simp only [insertRows]
    split
    · rfl
    · exact ih _

theorem perform_now (u : UnitOfWork) (c : StoreCall) : (u.perform c).2.now = u.now := by
  cases c with
  | insert items =>
    simp only [perform, insert]
    split
    · rfl
    · exact u.insertRows_now items
  | claim limit => exact u.transitionAll_now _ _
  | release ids => exact u.transitionAll_now _ _
  | delete id status =>
    simp only [perform, delete]
    split <;> rfl
  | demote id =>
    simp only [perform, demote]
    split
    · split <;> rfl
    · rfl
  | recover timeout limit =>
    simp only [perform, recover]
    split
    · rfl
    · exact u.transitionAll_now _ _
  | requeue delay limit =>
    simp only [perform, requeue]
    split
    · rfl
    · exact u.transitionAll_now _ _
  | discard limit =>
    apply foldl_frame (·.now)
    intro u id
    rfl
  | complete id =>
    simp only [perform, complete]
    split <;> rfl
  | expireCompleted expiry limit =>
    simp only [perform, expireCompleted]
    split
    · rfl
    · apply foldl_frame (·.now)
      intro u id
      rfl
  | recordFailures rows =>
    apply foldl_frame (·.now)
    intro u row
    rfl
  | expireBroken expiry limit =>
    simp only [perform, expireBroken]
    split
    · rfl
    · apply foldl_frame (·.now)
      intro u id
      rfl
  | purge ids => rfl

section Expiry

variable {u v : UnitOfWork} {expiry : Duration} {limit : UInt32} {ids : List ItemId}

theorem le_newest {entries : List FailureEntry} {time : Instant} (h : newest entries = some time) :
    ∀ e ∈ entries, e.time ≤ time := by
  cases entries with
  | nil => cases h
  | cons e entries =>
    cases h
    rw [List.forall_mem_cons]
    exact le_foldl_latest

theorem expireCompleted_expired (h : u.expireCompleted expiry limit = (.ok ids, v)) :
    ∃ time, deadline u.now expiry = .ok time ∧
      ∀ id ∈ ids, ∃ entry, u.tables.completed.get? id = some entry ∧ entry ≤ time := by
  simp only [expireCompleted] at h
  split at h
  · cases h
  · next time htime =>
    cases h
    refine ⟨time, htime, fun id hid => ?_⟩
    obtain ⟨c, hc, rfl⟩ := mem_of_mem_oldest hid
    obtain ⟨⟨key, entry⟩, hmem, rfl⟩ := List.mem_map.1 hc
    obtain ⟨hmem, hexpired⟩ := List.mem_filter.1 hmem
    exact ⟨entry, Table.get?_eq_some_iff.2 hmem, of_decide_eq_true hexpired⟩

theorem expireBroken_expired (h : u.expireBroken expiry limit = (.ok ids, v)) :
    ∃ time, deadline u.now expiry = .ok time ∧ ∀ id ∈ ids,
      u.tables.failures id ≠ [] ∧ ∀ e ∈ u.tables.failures id, e.time ≤ time := by
  simp only [expireBroken] at h
  split at h
  · cases h
  · next time htime =>
    cases h
    refine ⟨time, htime, fun id hid => ?_⟩
    obtain ⟨c, hc, rfl⟩ := mem_of_mem_oldest hid
    obtain ⟨⟨key, entries⟩, hmem, hexpired⟩ := List.mem_filterMap.1 hc
    dsimp only at hexpired
    split at hexpired
    · next last hlast =>
      obtain ⟨hle, hc⟩ := Option.ite_none_right_eq_some.1 hexpired
      cases hc
      have hentries : u.tables.failures key = entries := by
        rw [Tables.failures, Table.get?_eq_some_iff.2 hmem]
        rfl
      change u.tables.failures key ≠ [] ∧ ∀ e ∈ u.tables.failures key, e.time ≤ time
      rw [hentries]
      constructor
      · rintro rfl
        cases hlast
      · intro e he
        exact Int.le_trans (le_newest hlast e he) hle
    · cases hexpired

end Expiry

@[simp] theorem transition_broken (u : UnitOfWork) (target : Status) (id : ItemId) :
    (u.transition target id).tables.broken = u.tables.broken := by
  simp only [transition]
  split <;> rfl

@[simp] theorem transitionAll_broken (u : UnitOfWork) (target : Status) (ids : List ItemId) :
    (u.transitionAll target ids).tables.broken = u.tables.broken :=
  foldl_frame (·.tables.broken) (fun u id => transition_broken u target id) u ids

theorem insertRows_broken (u : UnitOfWork) (items : List Item) :
    (u.insertRows items).2.tables.broken = u.tables.broken := by
  induction items generalizing u with
  | nil => rfl
  | cons item rest ih =>
    simp only [insertRows]
    split
    · rfl
    · exact ih _

theorem insert_broken (u : UnitOfWork) (items : List Item) :
    (u.insert items).2.tables.broken = u.tables.broken := by
  simp only [insert]
  split
  · rfl
  · exact insertRows_broken u items

theorem demote_broken (u : UnitOfWork) (id : ItemId) :
    (u.demote id).2.tables.broken = u.tables.broken := by
  simp only [demote]
  split
  · split <;> rfl
  · rfl

@[simp] theorem foldl_removeItem_broken (u : UnitOfWork) (ids : List ItemId) :
    (ids.foldl removeItem u).tables.broken = u.tables.broken := by
  apply foldl_frame (·.tables.broken)
  intro u id
  rfl

@[simp] theorem foldl_removeCompleted_broken (u : UnitOfWork) (ids : List ItemId) :
    (ids.foldl removeCompleted u).tables.broken = u.tables.broken := by
  apply foldl_frame (·.tables.broken)
  intro u id
  rfl

theorem mem_failures_pushBroken {u : UnitOfWork} {id key : ItemId} {e entry : FailureEntry}
    (h : e ∈ (u.pushBroken key entry).tables.failures id) :
    e ∈ u.tables.failures id ∨ e = entry ∧ id = key := by
  by_cases hid : id = key
  · subst hid
    simpa [pushBroken, Tables.failures] using h
  · left
    simpa [pushBroken, Tables.failures, hid] using h

theorem mem_failures_recordFailures {u : UnitOfWork} {rows : List Failure} {id : ItemId}
    {e : FailureEntry} (h : e ∈ (u.recordFailures rows).tables.failures id) :
    e ∈ u.tables.failures id ∨ e.time = u.now ∧ id ∈ rows.map (·.id) := by
  induction rows generalizing u with
  | nil => exact .inl h
  | cons row rows ih =>
    rcases ih (u := u.pushBroken row.id ⟨row.error, u.now⟩) h with hpushed | ⟨htime, hid⟩
    · rcases mem_failures_pushBroken hpushed with hbefore | ⟨rfl, rfl⟩
      · exact .inl hbefore
      · exact .inr ⟨rfl, List.mem_cons_self⟩
    · exact .inr ⟨htime, List.mem_cons_of_mem _ hid⟩

theorem mem_failures_foldl_removeBroken {u : UnitOfWork} {ids : List ItemId} {id : ItemId}
    {e : FailureEntry} (h : e ∈ (ids.foldl removeBroken u).tables.failures id) :
    e ∈ u.tables.failures id := by
  induction ids generalizing u with
  | nil => exact h
  | cons key ids ih =>
    have hbefore := ih (u := u.removeBroken key) h
    by_cases hid : id = key
    · simp [removeBroken, Tables.failures, hid] at hbefore
    · simpa [removeBroken, Tables.failures, hid] using hbefore

end UnitOfWork

end WorkQueue.Memory
