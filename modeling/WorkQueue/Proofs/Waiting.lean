import WorkQueue.Proofs.Budget
import WorkQueue.Proofs.Purge
import WorkQueue.Proofs.Sweep

/-!
How long items are left waiting. The time in a row is when the row becomes visible, was claimed or
entered retry, by its status, and no call touches a row before the window is over that began then.
-/

namespace WorkQueue.Memory

open Queue

abbrev LeavesTables := Leaves fun t : Tables => t

section Outcome

variable {S : UnitOfWork → UnitOfWork → Prop} {u v : UnitOfWork} {now : Instant} {t t' : Tables}
  {c : Call} {r : Reply} {events : List Event} {id : ItemId} {archives : Archives}
  {w : RecoveryWindows} {retention : Retention} {limit : UInt32}

theorem Outcome.appended {item : Item} (h : Outcome S now t c (.ok r) events t')
    (hS : Spares S item.id) (hmem : item ∈ c.items) :
    ∃ time, visibleAt now item.readyDelay = .ok time ∧
      t'.items.get? item.id = some ⟨.ready, item.retryAttempts, time⟩ := by
  have hchange := h.change hS
  obtain ⟨hnone, row, hrow, -⟩ := h.brought hS hmem
  rw [hnone, hrow] at hchange
  cases h with
  | spared _ hidle => exact absurd (moves_of_mem hmem none) (not_moves_of_isIdle (r := r) hidle none)
  | worked _ _ works _ =>
    cases hchange with
    | @inserted _ _ other time hother hid htime =>
      cases List.inj_on_of_nodup_map works.nodup_items hother hmem hid
      exact ⟨time, htime, hrow⟩

theorem Outcome.claimed (h : Outcome S now t (.readItems limit) (.ok r) events t')
    (hmem : id ∈ r.items) :
    ∃ row, t.items.get? id = some row ∧ row.status = .ready ∧ row.time ≤ now := by
  obtain ⟨row, hrow, hvisible⟩ := h.swept_read.picked hmem
  rw [visible, Bool.and_eq_true, beq_iff_eq, decide_eq_true_eq] at hvisible
  exact ⟨row, hrow, hvisible.1, hvisible.2⟩

theorem Outcome.timedOut (h : Outcome S now t (.recoverTimedOut archives w limit) (.ok r) events t')
    (hmem : id ∈ r.items) : ∃ row time, t.items.get? id = some row ∧ row.status = .processing ∧
      deadline now w.timeout = .ok time ∧ row.time < time := by
  obtain ⟨time, htime, hswept⟩ := h.swept_recover
  obtain ⟨row, hrow, hoverdue⟩ := hswept.picked hmem
  rw [overdue, Bool.and_eq_true, beq_iff_eq, decide_eq_true_eq] at hoverdue
  exact ⟨row, time, hrow, hoverdue.1, htime, hoverdue.2⟩

theorem Outcome.requeued (h : Outcome S now t (.requeue w limit) (.ok r) events t')
    (hmem : id ∈ r.items) : ∃ row time, t.items.get? id = some row ∧ row.status = .retry ∧
      deadline now w.delay = .ok time ∧ row.time ≤ time := by
  obtain ⟨time, htime, hswept⟩ := h.swept_requeue
  obtain ⟨row, hrow, hrested⟩ := hswept.picked hmem
  rw [rested, Bool.and_eq_true, Bool.and_eq_true, beq_iff_eq, decide_eq_true_eq] at hrested
  exact ⟨row, time, hrow, hrested.1.1, htime, hrested.1.2⟩

theorem Outcome.archived (h : Outcome LeavesTables now t c (.ok r) events t') (id : ItemId) :
    Archived now id c r (t.completed.get? id) (t'.completed.get? id) := by
  cases h with
  | spared _ _ => exact .same
  | worked _ before works after =>
    have hbefore := before.leaves fun _ _ h => h
    have harchived := works.archived id
    rw [hbefore.now, show _ = _ from hbefore.same] at harchived
    rw [(after.leaves fun _ _ h => h).same]
    exact harchived

end Outcome

variable {S : UnitOfWork → UnitOfWork → Prop}

namespace Backend

inductive Claims (id : ItemId) (b : Backend) : Act S → Prop
  | intro {g limit r} (hr : (g.run (.readItems limit) b).1 = .ok r) (hmem : id ∈ r.items) :
    Claims id b (.call g (.readItems limit))

inductive Archives (id : ItemId) (b : Backend) : Act S → Prop
  | intro {g archives r} (harchive : archives.completed = true)
    (hr : (g.run (.commit archives id) b).1 = .ok r) : Archives id b (.call g (.commit archives id))

section Latest

variable {b : Backend} {id : ItemId} {acts : List (Act S)}

theorem Sound.row_of_unclaimed (h : b.Sound id) (hS : Spares S id) {row : Row}
    (hrow : b.row? id = some row) (hready : row.status = .ready)
    (hunclaimed : ∀ x a y, acts = x ++ a :: y → ¬Claims id (b.play x) a) :
    (b.play acts).row? id = some row := by
  rcases exists_leaves (f := Backend.act) (p := fun b : Backend => b.row? id = some row) acts hrow
    with hall | ⟨x, a, y, rfl, hx, hlost⟩
  · exact hall acts List.prefix_rfl
  · have hthere : (b.play x).row? id = some row := hx x List.prefix_rfl
    rcases (h.play hS x).act_edge hS a with hsame | ⟨g, c, r, rfl, hr, hmoves, hedge⟩
    · exact absurd (hsame.trans hthere) hlost
    · rw [hthere] at hedge
      generalize ((b.play x).act (.call g c)).row? id = after at hedge
      cases hedge with
      | claimed => exact absurd (.intro hr hmoves) (hunclaimed x _ y rfl)
      | _ => cases hready

theorem Sound.visible (h : b.Sound id) (hS : Spares S id) {x since : List (Act S)}
    {g : Collaborator S} {c : Call} {r : Reply} {item : Item}
    (hr : (g.run c (b.play x)).1 = .ok r) (hmem : item ∈ c.items) (hid : item.id = id)
    (hunclaimed : ∀ y a z, since = y ++ a :: z → ¬Claims id (b.play (x ++ .call g c :: y)) a)
    (hrange : (b.play x).clock.now.nanos + item.readyDelay.nanos ≤ Instant.last.nanos) {a : Act S}
    (hclaims : Claims id (b.play (x ++ .call g c :: since)) a) :
    (b.play x).clock.now.nanos + item.readyDelay.nanos ≤
      (b.play (x ++ .call g c :: since)).clock.now.nanos := by
  subst hid
  have hbefore := h.play hS x
  obtain ⟨time, htime, hrow⟩ := (hbefore.free.outcome_ok hr).appended hS hmem
  simp only [play_append, play_cons] at hunclaimed hclaims ⊢
  have hafter := hbefore.act hS (.call g c)
  have hkept := hafter.row_of_unclaimed hS hrow rfl hunclaimed
  cases hclaims with
  | intro hr' hmem' =>
    obtain ⟨row, hrow', -, hle⟩ := ((hafter.play hS since).free.outcome_ok hr').claimed hmem'
    cases hrow'.symm.trans hkept
    rw [← nanos_visibleAt htime hrange]
    exact hle

end Latest

end Backend

end WorkQueue.Memory
