import WorkQueue.Proofs.Lifecycle

namespace WorkQueue.Memory

open Queue

theorem Change.to_ready {now : Instant} {id : ItemId} {c : Call} {r : Reply} {row row' : Option Row}
    (h : Change now id c r row row') (hready : row'.map (·.status) = some .ready) :
    row.map (·.status) = some .ready ∨
      (∃ ids, c = .cancelItems ids ∧ id ∈ ids ∧ row.map (·.status) = some .processing) ∨
      (∃ w limit, c = .requeue w limit ∧ id ∈ r.items ∧ row.map (·.status) = some .retry) ∨
      (id ∈ c.items.map (·.id) ∧ row = none) := by
  cases h with
  | same => exact .inl hready
  | inserted hmem hid htime => exact .inr (.inr (.inr ⟨hid ▸ List.mem_map_of_mem hmem, rfl⟩))
  | released hid hstatus => exact .inr (.inl ⟨_, rfl, hid, congrArg some hstatus⟩)
  | requeued hid hstatus hattempts =>
    exact .inr (.inr (.inl ⟨_, _, rfl, hid, congrArg some hstatus⟩))
  | _ => cases hready

theorem Works.readItems_spec {u v : UnitOfWork} {limit : UInt32} {r : Reply}
    (h : Works u (.readItems limit) r v) : r.items.length ≤ limit.toNat ∧ r.items.Nodup ∧
      ∀ id ∈ r.items,
        u.tables.status? id = some .ready ∧ v.tables.status? id = some .processing := by
  cases h with
  | readItems =>
    refine ⟨length_oldest_le _ _, nodup_oldest (nodup_eligible _ _), fun id hid => ?_⟩
    change id ∈ oldest limit _ at hid
    obtain ⟨row, hrow, hp⟩ := mem_oldest_eligible hid
    rw [Bool.and_eq_true, beq_iff_eq] at hp
    constructor
    · rw [Tables.status?, hrow]
      exact congrArg some hp.1
    · rw [Tables.status?, UnitOfWork.claim, UnitOfWork.get?_transitionAll, if_pos hid, hrow]
      rfl

/-- The item was brought back between a backend `b` and the end of a run from it. -/
inductive Returned (b : Backend) (between : List Action) (id : ItemId) : Prop
  | released {x y app ids r} (split : between = x ++ .call app (.cancelItems ids) :: y)
    (ok : (app.run (.cancelItems ids) (b.run x)).1 = .ok r) (asked : id ∈ ids)
    (found : (b.run x).status? id = some .processing)
    (ready : ((b.run x).after (.call app (.cancelItems ids))).status? id = some .ready)
  | requeued {x y app w limit r} (split : between = x ++ .call app (.requeue w limit) :: y)
    (ok : (app.run (.requeue w limit) (b.run x)).1 = .ok r) (swept : id ∈ r.items)
    (found : (b.run x).status? id = some .retry)
    (ready : ((b.run x).after (.call app (.requeue w limit))).status? id = some .ready)
  | reinserted {x a y app c z r} (split : between = x ++ a :: y ++ .call app c :: z)
    (active : (b.run x).status? id ≠ none) (gone : ((b.run x).after a).status? id = none)
    (ok : (app.run c (b.run (x ++ a :: y))).1 = .ok r) (brought : id ∈ c.items.map (·.id))
    (absent : (b.run (x ++ a :: y)).status? id = none)
    (ready : ((b.run (x ++ a :: y)).after (.call app c)).status? id = some .ready)

theorem returned_of_ready {b : Backend} (h : b.Free) {between : List Action} {id : ItemId}
    (hprocessing : b.status? id = some .processing)
    (hready : (b.run between).status? id = some .ready) : Returned b between id := by
  have hstart : b.status? id ≠ some .ready := by
    rw [hprocessing]
    exact nofun
  -- The step that makes the row ready again can only be one of the three.
  obtain ⟨x, a, y, rfl, hx, hafter⟩ := Backend.exists_step
    (p := fun b => b.status? id ≠ some .ready) hstart (not_not_intro hready)
  replace hafter := Decidable.not_not.1 hafter
  have hchanged : ((b.run x).after a).row? id ≠ (b.run x).row? id := by
    intro heq
    rw [Backend.status?_eq, heq] at hafter
    exact hx hafter
  obtain ⟨app, c, r, rfl, hok, hchange⟩ := (h.run x).change hchanged
  obtain hsame | ⟨ids, rfl, hid, hfound⟩ | ⟨w, limit, rfl, hid, hfound⟩ | ⟨hid, habsent⟩ :=
    hchange.to_ready hafter
  · exact absurd hsame hx
  · exact .released rfl hok hid hfound hafter
  · exact .requeued rfl hok hid hfound hafter
  · -- An insert finds no row, so an earlier step took the row out.
    have hactive : b.status? id ≠ none := by
      rw [hprocessing]
      exact nofun
    have hgone : ¬(b.run x).status? id ≠ none := by
      rw [Backend.status?_eq, habsent]
      exact fun hne => hne rfl
    obtain ⟨x', a', y', rfl, hx', hafter'⟩ := Backend.exists_step
      (p := fun b => b.status? id ≠ none) hactive hgone
    exact .reinserted rfl hx' (Decidable.not_not.1 hafter') hok hid (Decidable.not_not.1 hgone)
      hafter

theorem Application.run_readItems {app : Application} {b : Backend} (h : b.Free) {limit : UInt32}
    {r : Reply} (hr : (app.run (.readItems limit) b).1 = .ok r) :
    r.items.length ≤ limit.toNat ∧ r.items.Nodup ∧ ∀ id ∈ r.items,
      b.status? id = some .ready ∧
        (app.run (.readItems limit) b).2.status? id = some .processing := by
  have htook := (h.took app (.readItems limit)).2
  rw [hr] at htook
  simp only [Backend.status?]
  generalize (app.run (.readItems limit) b).2.tables = t' at htook ⊢
  cases htook with
  | spared hidle => cases hidle
  | worked hworks => exact hworks.readItems_spec

/-- Items are handed out one claim at a time: a read takes ready items and puts them in processing,
and one that is handed out again by a later read was brought back in between. -/
theorem claims_exclusive (t : Instant) (before between : List Action) (app app' : Application)
    (limit limit' : UInt32) :
    let b := (Backend.start t).run before
    let read := app.run (.readItems limit) b
    let again := app'.run (.readItems limit') (read.2.run between)
    ∀ r, read.1 = .ok r →
      (r.items.length ≤ limit.toNat ∧ r.items.Nodup ∧ ∀ id ∈ r.items,
        b.status? id = some .ready ∧ read.2.status? id = some .processing) ∧
      ∀ r', again.1 = .ok r' → ∀ id ∈ r.items, id ∈ r'.items → Returned read.2 between id := by
  intro b read again r hr
  have hfree : b.Free := (Backend.Free.start t).run before
  have hfree' : read.2.Free := hfree.after (.call app (.readItems limit))
  have htaken := Application.run_readItems hfree hr
  refine ⟨htaken, fun r' hr' id hid hid' => ?_⟩
  have hagain := Application.run_readItems (hfree'.run between) hr'
  exact returned_of_ready hfree' (htaken.2.2 id hid).2 (hagain.2.2 id hid').1

/-- Two reads of an item that a consumer handed back. -/
theorem claims_exclusive_handedBack :
    let t : Instant := .clamp 0
    let call := Action.call .plain
    let item : Item := ⟨⟨1⟩, .zero, 3⟩
    let b := (Backend.start t).run [call (.append item)]
    let read := Application.plain.run (.readItems 10) b
    let again := Application.plain.run (.readItems 10) (read.2.run [call (.cancelItems [⟨1⟩])])
    read.1 = .ok (.ids [⟨1⟩]) ∧ again.1 = .ok (.ids [⟨1⟩]) ∧
      Returned read.2 [call (.cancelItems [⟨1⟩])] ⟨1⟩ := by
  intro t call item b read again
  have hread : read.1 = .ok (.ids [⟨1⟩]) := by decide +kernel
  have hagain : again.1 = .ok (.ids [⟨1⟩]) := by decide +kernel
  have exclusive := claims_exclusive t _ [call (.cancelItems [⟨1⟩])] _ .plain _ 10 _ hread
  exact ⟨hread, hagain, exclusive.2 _ hagain _ (by decide) (by decide)⟩

end WorkQueue.Memory
