import WorkQueue.Proofs.History
import WorkQueue.Proofs.Location

namespace WorkQueue.Memory

open Queue

/-- The edges of the cycle: the rows of `id` before and after a call at `now`. -/
inductive Edge (now : Instant) (id : ItemId) : Call → Option Row → Option Row → Prop
  | appended {c item visible} (hmem : item ∈ c.items) (hid : item.id = id)
    (hvisible : visibleAt now item.readyDelay = .ok visible) :
    Edge now id c none (some ⟨.ready, item.retryAttempts, visible⟩)
  | claimed {limit attempts time} : Edge now id (.readItems limit)
    (some ⟨.ready, attempts, time⟩) (some ⟨.processing, attempts, now⟩)
  | released {ids attempts time} : Edge now id (.cancelItems ids)
    (some ⟨.processing, attempts, time⟩) (some ⟨.ready, attempts, now⟩)
  | committed {archives attempts time} : Edge now id (.commit archives id)
    (some ⟨.processing, attempts, time⟩) none
  | rejected {archives cause attempts time} (h : attempts ≠ 0) :
    Edge now id (.reject archives id cause)
      (some ⟨.processing, attempts, time⟩) (some ⟨.retry, attempts - 1, now⟩)
  | recovered {archives w limit attempts time} : Edge now id (.recoverTimedOut archives w limit)
    (some ⟨.processing, attempts, time⟩) (some ⟨.retry, attempts, now⟩)
  | requeued {w limit attempts time} (h : attempts ≠ 0) : Edge now id (.requeue w limit)
    (some ⟨.retry, attempts, time⟩) (some ⟨.ready, attempts, now⟩)
  | discarded {limit time} : Edge now id (.removeExhausted limit) (some ⟨.retry, 0, time⟩) none

def Moves (id : ItemId) (row : Option Row) (r : Reply) : Call → Prop
  | .append item => item.id = id
  | .appends items => ∃ item ∈ items, item.id = id
  | .readItems _ | .recoverTimedOut .. | .requeue .. | .removeExhausted _ => id ∈ r.items
  | .cancelItems ids => id ∈ ids ∧ row.map (·.status) = some .processing
  | .commit _ key => id = key
  | .reject _ key _ => id = key ∧ row.map (·.status) = some .processing
  | .removeCompleted .. | .removeBroken .. => False

section Conformance

variable {u v : UnitOfWork} {now : Instant} {c : Call} {r : Reply} {id : ItemId}

theorem Change.moves {row row' : Option Row} (h : Change now id c r row row')
    (hrow : Regular id row) :
    row' = row ∨ Moves id row r c ∧ Edge now id c row row' := by
  cases h with
  | same => exact .inl rfl
  | @inserted _ _ item _ hmem hid htime =>
    refine .inr ⟨?_, .appended hmem hid htime⟩
    cases c with
    | append other => exact List.mem_singleton.1 hmem ▸ hid
    | appends items => exact ⟨item, hmem, hid⟩
    | _ => cases hmem
  | @claimed _ _ x hid hstatus htime =>
    cases x
    cases hstatus
    exact .inr ⟨hid, .claimed⟩
  | @released _ _ x hid hstatus =>
    cases x
    cases hstatus
    exact .inr ⟨⟨hid, rfl⟩, .released⟩
  | @committed _ _ x hstatus =>
    cases x
    cases hstatus
    exact .inr ⟨rfl, .committed⟩
  | @rejected _ _ _ x hstatus =>
    cases x
    cases hstatus
    have left := mt (hrow.spent _ rfl) (by simp)
    rw [if_neg left]
    exact .inr ⟨⟨rfl, rfl⟩, .rejected left⟩
  | @recovered _ _ _ _ x hid hstatus =>
    cases x
    cases hstatus
    exact .inr ⟨hid, .recovered⟩
  | @requeued _ _ _ x hid hstatus hattempts =>
    cases x
    cases hstatus
    exact .inr ⟨hid, .requeued hattempts⟩
  | @discarded _ _ x hid hstatus hattempts =>
    cases x
    cases hstatus
    cases hattempts
    exact .inr ⟨hid, .discarded⟩

theorem status?_of_mem_oldest {limit : UInt32} {p : Row → Bool} {t : Tables} {s : Status}
    (h : id ∈ oldest limit (eligible p t.items)) (hp : ∀ row, p row = true → row.status = s) :
    t.status? id = some s := by
  obtain ⟨row, hrow, heligible⟩ := mem_oldest_eligible h
  rw [Tables.status?, hrow]
  exact congrArg some (hp row heligible)

theorem status?_transitionAll {target s : Status} {ids : List ItemId} (hid : id ∈ ids)
    (hs : u.tables.status? id = some s) :
    (u.transitionAll target ids).tables.status? id = some target := by
  obtain ⟨row, hrow, -⟩ := Option.map_eq_some_iff.1 hs
  rw [Tables.status?, UnitOfWork.get?_transitionAll, if_pos hid, hrow]
  rfl

theorem status?_transitionAll_ne {target s : Status} {ids : List ItemId} (hid : id ∈ ids)
    (hs : u.tables.status? id = some s) (hne : target ≠ s) :
    (u.transitionAll target ids).tables.status? id ≠ u.tables.status? id := by
  rw [status?_transitionAll hid hs, hs]
  simpa using hne

theorem Works.fresh (h : Works u c r v) {item : Item} (hmem : item ∈ c.items) :
    u.tables.items.get? item.id = none := by
  cases h with
  | append h => exact (UnitOfWork.insert_fresh h).2 _ (List.mem_map_of_mem hmem)
  | appends h => exact (UnitOfWork.insert_fresh h).2 _ (List.mem_map_of_mem hmem)
  | _ => cases hmem

theorem Works.appended (h : Works u c r v) {item : Item} (hmem : item ∈ c.items) :
    v.tables.status? item.id ≠ u.tables.status? item.id := by
  obtain ⟨row, hrow⟩ := Table.contains_iff.1 (h.inserted hmem)
  simp [Tables.status?, hrow, h.fresh hmem]

theorem Works.moved (h : Works u c r v) (hmoves : Moves id (u.tables.items.get? id) r c) :
    v.tables.status? id ≠ u.tables.status? id := by
  have hworks := h
  cases h with
  | append _ => exact hmoves ▸ hworks.appended (List.mem_singleton_self _)
  | appends _ =>
    obtain ⟨item, hmem, rfl⟩ := hmoves
    exact hworks.appended hmem
  | readItems =>
    have hready := status?_of_mem_oldest (s := .ready) hmoves (by simp +contextual)
    exact status?_transitionAll_ne hmoves hready (by decide)
  | @cancelItems ids =>
    obtain ⟨hid, hstatus⟩ := hmoves
    have hheld : id ∈ ids.filter fun id => u.tables.status? id == some .processing := by
      simp [hid, Tables.status?, hstatus]
    exact status?_transitionAll_ne hheld hstatus (by decide)
  | commit hstatus _ =>
    cases hmoves
    have hnone : v.tables.status? id = none := by
      simpa [Table.contains, Tables.status?] using hworks.committed
    simp [hnone, hstatus]
  | reject _ =>
    obtain ⟨rfl, hstatus⟩ := hmoves
    obtain ⟨row, hrow, hprocessing⟩ := Option.map_eq_some_iff.1 hstatus
    simp [Tables.status?, hworks.reject_items, UnitOfWork.demote, UnitOfWork.putItem, hrow,
      hprocessing]
  | recoverTimedOut h _ =>
    obtain ⟨-, time, -, hids⟩ := UnitOfWork.recover_ok h
    have hprocessing := status?_of_mem_oldest (s := .processing) (hids ▸ hmoves)
      (by simp +contextual)
    rw [Tables.status?, hworks.recover_items]
    exact status?_transitionAll_ne hmoves hprocessing (by decide)
  | requeue h =>
    obtain ⟨rfl, time, -, hids⟩ := UnitOfWork.requeue_ok h
    have hretry := status?_of_mem_oldest (s := .retry) (hids ▸ hmoves) (by simp +contextual)
    exact status?_transitionAll_ne hmoves hretry (by decide)
  | @removeExhausted limit =>
    have hretry := status?_of_mem_oldest (s := .retry) hmoves (by simp +contextual)
    have hgone : (u.discard limit).2.tables.items.get? id = none :=
      (UnitOfWork.get?_foldl_removeItem u _ id).trans (if_pos hmoves)
    have hnone : (u.discard limit).2.tables.status? id = none := by simp [Tables.status?, hgone]
    simp [hnone, hretry]
  | removeCompleted _ => exact hmoves.elim
  | removeBroken _ => exact hmoves.elim

theorem Works.conforms (h : Works u c r v) (hrow : Regular id (u.tables.items.get? id)) :
    (Moves id (u.tables.items.get? id) r c →
      Edge u.now id c (u.tables.items.get? id) (v.tables.items.get? id)) ∧
    (¬Moves id (u.tables.items.get? id) r c →
      v.tables.items.get? id = u.tables.items.get? id) := by
  rcases (h.change id).moves hrow with hsame | ⟨hmoves, hedge⟩
  -- A row that the call moves has another status afterwards, so this one it does not move.
  · exact ⟨fun hmoves => absurd (congrArg (·.map (·.status)) hsame) (h.moved hmoves), fun _ => hsame⟩
  · exact ⟨fun _ => hedge, fun hstays => absurd hmoves hstays⟩

theorem not_moves_of_isIdle (h : c.isIdle = true) (row : Option Row) : ¬Moves id row r c := by
  cases c with
  | appends items =>
    rw [List.isEmpty_iff.1 h]
    simp [Moves]
  | cancelItems ids =>
    rw [List.isEmpty_iff.1 h]
    simp [Moves]
  | removeCompleted archives retention limit => exact False.elim
  | removeBroken archives retention limit => exact False.elim
  | _ => cases h

theorem Outcome.conforms {S : UnitOfWork → UnitOfWork → Prop} {t t' : Tables}
    {events : List Event} (h : Outcome S now t c (.ok r) events t') (hS : Spares S id)
    (hrow : Regular id (t.items.get? id)) :
    (Moves id (t.items.get? id) r c → Edge now id c (t.items.get? id) (t'.items.get? id)) ∧
    (¬Moves id (t.items.get? id) r c → t'.items.get? id = t.items.get? id) := by
  cases h with
  | spared _ hidle => exact ⟨fun h => absurd h (not_moves_of_isIdle hidle _), fun _ => rfl⟩
  | worked _ before works after =>
    have hbefore := before.leaves hS
    rw [← show _ = t.items.get? id from hbefore.same] at hrow ⊢
    rw [(after.leaves hS).same, ← show _ = now from hbefore.now]
    exact works.conforms hrow

end Conformance

namespace Backend

variable {S : UnitOfWork → UnitOfWork → Prop} {b : Backend} {id : ItemId}

theorem Sound.conforms (h : b.Sound id) (hS : Spares S id) {g : Collaborator S} {c : Call}
    {r : Reply} (hr : (g.run c b).1 = .ok r) :
    (Moves id (b.row? id) r c → Edge b.clock.now id c (b.row? id) ((g.run c b).2.row? id)) ∧
    (¬Moves id (b.row? id) r c → (g.run c b).2.row? id = b.row? id) := by
  have houtcome := (h.free.outcome g c).2
  rw [hr] at houtcome
  exact houtcome.conforms hS h.regular

theorem Sound.edge (h : b.Sound id) (hS : Spares S id) {g : Collaborator S} {c : Call} {r : Reply}
    {row : Option Row} (hr : (g.run c b).1 = .ok r) (hrow : b.row? id = row)
    (hmoves : Moves id row r c) :
    ∃ row', (g.run c b).2.row? id = row' ∧ Edge b.clock.now id c row row' := by
  subst hrow
  exact ⟨_, rfl, (h.conforms hS hr).1 hmoves⟩

theorem Sound.act_edge (h : b.Sound id) (hS : Spares S id) (a : Act S) :
    (b.act a).row? id = b.row? id ∨ ∃ g c r, a = .call g c ∧ (g.run c b).1 = .ok r ∧
      Moves id (b.row? id) r c ∧ Edge b.clock.now id c (b.row? id) ((b.act a).row? id) := by
  rcases h.free.act_row hS a with hsame | ⟨g, c, r, rfl, hr, -, hchange⟩
  · exact .inl hsame
  · rcases hchange.moves h.regular with hsame | ⟨hmoves, hedge⟩
    · exact .inl hsame
    · exact .inr ⟨g, c, r, rfl, hr, hmoves, hedge⟩

end Backend

/-- In every state of a run, a call that succeeds moves exactly the rows that it can be told to
move, each along an edge of the cycle, and one that fails changes no table. -/
theorem lifecycle_conformance (t : Instant) (acts : List (Act LeavesRows))
    (g : Collaborator LeavesRows) (c : Call) :
    let b := (Backend.start t).play acts
    let after := (g.run c b).2
    match (g.run c b).1 with
    | .ok r => ∀ id,
      (Moves id (b.row? id) r c → Edge b.clock.now id c (b.row? id) (after.row? id)) ∧
      (¬Moves id (b.row? id) r c → after.row? id = b.row? id)
    | .error _ => after.tables = b.tables := by
  intro b after
  split
  · next r hr =>
    intro id
    have hsound := (Backend.Sound.start t id).play (spares_rows id) acts
    exact hsound.conforms (spares_rows id) hr
  · next e he =>
    have hfree : b.Free := (Backend.Free.start t).play acts
    have houtcome := (hfree.outcome g c).2
    rw [he] at houtcome
    exact houtcome.of_error.2

end WorkQueue.Memory
