import WorkQueue.Proofs.Conformance
import WorkQueue.Proofs.Settlement

namespace WorkQueue.Memory

open Queue

variable {S : UnitOfWork → UnitOfWork → Prop}

section Edge

variable {now : Instant} {c : Call} {id : ItemId} {row row' : Option Row}

theorem Edge.claimed_of_processing (h : Edge now id c row row')
    (hafter : row'.map (·.status) = some .processing) : ∃ limit, c = .readItems limit := by
  cases h with
  | claimed => exact ⟨_, rfl⟩
  | _ => cases hafter

theorem Edge.retry_of_recovered {archives : Archives} {w : RecoveryWindows} {limit : UInt32}
    (h : Edge now id (.recoverTimedOut archives w limit) row row') :
    row'.map (·.status) = some .retry := by
  cases h with
  | appended hmem _ _ => cases hmem
  | recovered => rfl

end Edge

namespace Backend

/-- Nobody holds the item: a commit fails and changes nothing, and rejects and cancels leave the row
alone. -/
structure Unheld (S : UnitOfWork → UnitOfWork → Prop) (b : Backend) (id : ItemId) : Prop where
  commit : ∀ (g : Collaborator S) archives,
    (g.run (.commit archives id) b).2.tables = b.tables ∧
    (g.run (.commit archives id) b).1 = .error (match (g.hook b.begin.2).1 with
      | .error e => .preCommit (.item id) e
      | .ok () => .statusMismatch (.item id) .processing)
  reject : ∀ (g : Collaborator S) archives cause,
    (g.run (.reject archives id cause) b).2.row? id = b.row? id
  cancel : ∀ g : Collaborator S, (g.run (.cancelItems [id]) b).2.row? id = b.row? id

/-- Somebody holds the item, with `row`, and whoever settles it does so in his place. -/
structure Held (S : UnitOfWork → UnitOfWork → Prop) (b : Backend) (id : ItemId) (row : Row) :
    Prop where
  commit : ∀ (g : Collaborator S) archives, (g.hook b.begin.2).1 = .ok () →
    (archives.completed && (g.hook b.begin.2).2.tables.completed.contains id) = false →
    (g.run (.commit archives id) b).1 = .ok .done ∧
      (g.run (.commit archives id) b).2.row? id = none
  reject : ∀ (g : Collaborator S) archives cause,
    (g.run (.reject archives id cause) b).1 = .ok .done ∧ row.attempts ≠ 0 ∧
      (g.run (.reject archives id cause) b).2.row? id =
        some ⟨.retry, row.attempts - 1, b.clock.now⟩
  cancel : ∀ g : Collaborator S, (g.run (.cancelItems [id]) b).1 = .ok .done ∧
    (g.run (.cancelItems [id]) b).2.row? id = some ⟨.ready, row.attempts, b.clock.now⟩

inductive HandedOut (b : Backend) (id : ItemId) : List (Act S) → Prop
  | intro {x g limit r since} (hok : (g.run (.readItems limit) (b.play x)).1 = .ok r)
    (hmem : id ∈ r.items)
    (hsince : ∀ done, done <+: since →
      (((b.play x).act (.call g (.readItems limit))).play done).status? id = some .processing) :
    HandedOut b id (x ++ .call g (.readItems limit) :: since)

variable {b : Backend} {id : ItemId} {acts : List (Act S)}

theorem Sound.isZero_of_readItems (h : b.Sound id) (hS : Spares S id) {g : Collaborator S}
    {limit : UInt32} {r : Reply} (hr : (g.run (.readItems limit) b).1 = .ok r)
    (hmem : id ∈ r.items) : id.isZero = false := by
  obtain ⟨_, -, hedge⟩ := h.edge hS hr rfl hmem
  generalize hrow : b.row? id = row at hedge
  cases hedge with
  | appended hmem _ _ => cases hmem
  | claimed => exact h.regular.id _ hrow

theorem Free.hook_row (h : b.Free) (hS : Spares S id) (g : Collaborator S) :
    (g.hook b.begin.2).2.row? id = b.row? id := by
  obtain ⟨v, hv, -, hleft⟩ := g.hook_unit (Collaborator.begin_engine h)
  rw [row?, show (g.hook b.begin.2).2.tables = v.tables from congrArg Engine.tables hv]
  exact (hS _ _ hleft).same

theorem Free.hook_status (h : b.Free) (hS : Spares S id) (g : Collaborator S) :
    (g.hook b.begin.2).2.status? id = b.status? id := by
  rw [status?_eq, h.hook_row hS]
  rfl

theorem Sound.unheld (h : b.Sound id) (hS : Spares S id) (hid : id.isZero = false)
    (hstatus : b.status? id ≠ some .processing) : b.Unheld S id := by
  refine ⟨?_, ?_, ?_⟩
  · intro g archives
    have hresult := g.run_commit h.free hid archives
    rw [commitAnswer_of_ne archives (h.free.hook_status hS g ▸ hstatus)] at hresult
    have houtcome := (h.free.outcome g (.commit archives id)).2
    rw [hresult] at houtcome
    exact ⟨houtcome.of_error.2, hresult⟩
  · intro g archives cause
    apply (h.conforms hS (g.run_reject h.free hid archives cause)).2
    intro ⟨_, hprocessing⟩
    exact hstatus hprocessing
  · intro g
    apply (h.conforms hS (g.run_cancelItems h.free hid)).2
    intro ⟨_, hprocessing⟩
    exact hstatus hprocessing

theorem Sound.held (h : b.Sound id) (hS : Spares S id) {row : Row} (hrow : b.row? id = some row)
    (hprocessing : row.status = .processing) : b.Held S id row := by
  have hid := h.regular.id row hrow
  have hstatus : b.status? id = some .processing := by simp [status?_eq, hrow, hprocessing]
  obtain ⟨status, attempts, time⟩ := row
  cases hprocessing
  refine ⟨?_, ?_, ?_⟩
  · intro g archives hhook hfree
    have hresult := g.run_commit h.free hid archives
    rw [commitAnswer_of_eq hhook ((h.free.hook_status hS g).trans hstatus) hfree] at hresult
    obtain ⟨_, hrow', hedge⟩ := h.edge hS hresult hrow rfl
    cases hedge with
    | committed => exact ⟨hresult, hrow'⟩
  · intro g archives cause
    have hresult := g.run_reject h.free hid archives cause
    obtain ⟨_, hrow', hedge⟩ := h.edge hS hresult hrow ⟨rfl, rfl⟩
    cases hedge with
    | rejected hattempts => exact ⟨hresult, hattempts, hrow'⟩
  · intro g
    have hresult := g.run_cancelItems h.free hid
    obtain ⟨_, hrow', hedge⟩ := h.edge hS hresult hrow ⟨List.mem_singleton_self id, rfl⟩
    cases hedge with
    | released => exact ⟨hresult, hrow'⟩

theorem Sound.handedOut (h : b.Sound id) (hS : Spares S id)
    (hstart : b.status? id ≠ some .processing)
    (hend : (b.play acts).status? id = some .processing) : b.HandedOut id acts := by
  obtain ⟨x, a, y, rfl, hx, hy⟩ :=
    exists_enters (p := fun b : Backend => b.status? id = some .processing) hstart hend
  have hafter : ((b.play x).act a).status? id = some .processing := hy [] List.nil_prefix
  rcases (h.play hS x).act_edge hS a with hsame | ⟨g, c, r, rfl, hr, hmoves, hedge⟩
  · rw [status?_eq, hsame] at hafter
    exact absurd hafter hx
  · obtain ⟨limit, rfl⟩ := hedge.claimed_of_processing hafter
    exact .intro hr hmoves hy

end Backend

/-- After an item was taken back from its consumer by the timeout, calls of that consumer come to
nothing while nobody holds it. When somebody does it was handed out again since, and then they are
taken for calls of its new holder. -/
theorem late_settlement {id : ItemId} (t : Instant)
    (before between since : List (Act (LeavesRow id))) (reader sweeper : Collaborator (LeavesRow id))
    (limit limit' : UInt32) (archives : Archives) (w : RecoveryWindows) :
    let b := (Backend.start t).play before
    let read := reader.run (.readItems limit) b
    let swept := sweeper.run (.recoverTimedOut archives w limit') (read.2.play between)
    let late := swept.2.play since
    ∀ r r', read.1 = .ok r → id ∈ r.items → swept.1 = .ok r' → id ∈ r'.items →
      (late.status? id ≠ some .processing → late.Unheld (LeavesRow id) id) ∧
      ∀ row, late.row? id = some row → row.status = .processing →
        swept.2.HandedOut id since ∧ late.Held (LeavesRow id) id row := by
  intro b read swept late r r' hr hmem hr' hmem'
  have hS := spares_row id
  have hb : b.Sound id := (Backend.Sound.start t id).play hS before
  have hbetween := (hb.act hS (.call reader (.readItems limit))).play hS between
  have hswept := hbetween.act hS (.call sweeper (.recoverTimedOut archives w limit'))
  have hlate : late.Sound id := hswept.play hS since
  constructor
  · exact hlate.unheld hS (hb.isZero_of_readItems hS hr hmem)
  · intro row hrow hprocessing
    have hretry : swept.2.status? id = some .retry :=
      ((hbetween.conforms hS hr').1 hmem').retry_of_recovered
    have hstart : swept.2.status? id ≠ some .processing := by
      simp [hretry]
    have hend : late.status? id = some .processing := by
      simp [Backend.status?_eq, hrow, hprocessing]
    exact ⟨hswept.handedOut hS hstart hend, hlate.held hS hrow hprocessing⟩

/-- The same consumer is late twice: while its item waits in retry, and after it was read again. -/
theorem late_settlement_readAgain :
    let g : Collaborator (LeavesRow ⟨1⟩) := .plain fun t => t.items.get? ⟨1⟩
    let minutes (n : Int) : Act (LeavesRow ⟨1⟩) := .clock ⟨.clamp (n * 60000000000), 0⟩
    let b := (Backend.start (.clamp 0)).play [.call g (.append ⟨⟨1⟩, .zero, 3⟩)]
    let read := g.run (.readItems 10) b
    let swept := g.run (.recoverTimedOut ⟨true, true⟩ .default 10) (read.2.play [minutes 6])
    let since := [minutes 9, .call g (.requeue .default 10), .call g (.readItems 10)]
    read.1 = .ok (.ids [⟨1⟩]) ∧ swept.1 = .ok (.ids [⟨1⟩]) ∧
      swept.2.Unheld (LeavesRow ⟨1⟩) ⟨1⟩ ∧ swept.2.HandedOut ⟨1⟩ since ∧
      (swept.2.play since).Held (LeavesRow ⟨1⟩) ⟨1⟩ ⟨.processing, 3, .clamp 540000000000⟩ := by
  intro g minutes b read swept since
  have hread : read.1 = .ok (.ids [⟨1⟩]) := by decide +kernel
  have hswept : swept.1 = .ok (.ids [⟨1⟩]) := by decide +kernel
  have hwaits : swept.2.status? ⟨1⟩ ≠ some .processing := by decide +kernel
  have hrow : (swept.2.play since).row? ⟨1⟩ = some ⟨.processing, 3, .clamp 540000000000⟩ := by
    decide +kernel
  have late := fun since => @late_settlement ⟨1⟩ (.clamp 0) _ _ since g g 10 10 _ _ _ _ hread
    (by decide) hswept (by decide)
  exact ⟨hread, hswept, (late []).1 hwaits, (late since).2 _ hrow rfl⟩

/-- A consumer that came back too late commits the item of another one. -/
theorem stale_commit_succeeds :
    let g : Collaborator (LeavesRow ⟨1⟩) := .plain fun t => t.items.get? ⟨1⟩
    let minutes (n : Int) : Act (LeavesRow ⟨1⟩) := .clock ⟨.clamp (n * 60000000000), 0⟩
    let b := (Backend.start (.clamp 0)).play [.call g (.append ⟨⟨1⟩, .zero, 3⟩)]
    let read := g.run (.readItems 10) b
    let swept := g.run (.recoverTimedOut ⟨true, true⟩ .default 10) (read.2.play [minutes 6])
    let requeued := g.run (.requeue .default 10) (swept.2.play [minutes 9])
    let again := g.run (.readItems 10) requeued.2
    read.1 = .ok (.ids [⟨1⟩]) ∧ swept.1 = .ok (.ids [⟨1⟩]) ∧ requeued.1 = .ok (.ids [⟨1⟩]) ∧
      again.1 = .ok (.ids [⟨1⟩]) ∧
      (g.run (.commit ⟨true, true⟩ ⟨1⟩) again.2).1 = .ok .done ∧
      (g.run (.commit ⟨true, true⟩ ⟨1⟩) again.2).2.row? ⟨1⟩ = none := by
  decide +kernel

end WorkQueue.Memory
