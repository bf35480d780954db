import WorkQueue.Proofs.Cell

namespace WorkQueue

theorem Program.run_keeps {E : Effects} {α σ γ : Type}
    {answer : (r : E.Request) → σ → E.Answer r × σ} {view : σ → γ}
    (h : ∀ r s, view (answer r s).2 = view s) (p : Program E α) (s : σ) :
    view (p.run answer s).2 = view s := by
  induction p generalizing s with
  | done a => rfl
  | ask r next ih => exact (ih _ _).trans (h r s)

namespace Memory

open Queue Operation

inductive Settlement
  | commit (archives : Archives) (id : ItemId)
  | reject (archives : Archives) (id : ItemId) (cause : String)
  | cancel (ids : List ItemId)

namespace Settlement

def call : Settlement → Call
  | commit archives id => .commit archives id
  | reject archives id cause => .reject archives id cause
  | cancel ids => .cancelItems ids

def act {γ : Type} (view : Tables → γ) (s : Settlement) : Act (Leaves view) := .plain s.call

def ids : Settlement → List ItemId
  | commit _ id | reject _ id _ => [id]
  | cancel ids => ids

def Apart (s s' : Settlement) : Prop := s.ids.Disjoint s'.ids

def refusal? (look : ItemId → Cell) : Settlement → Option QueueError
  | commit archives id =>
    if (look id).status? ≠ some .processing then some (.statusMismatch (.item id) .processing)
    else if archives.completed && (look id).completed.isSome then
      some (.storage (.item id) (.duplicateCompleted id))
    else none
  | reject .. | cancel _ => none

def error? (look : ItemId → Cell) (s : Settlement) : Option QueueError :=
  s.call.fault?.or (s.refusal? look)

def answer (look : ItemId → Cell) (s : Settlement) : Except QueueError Reply :=
  match s.error? look with
  | some e => .error e
  | none => .ok .done

def tells (look : ItemId → Cell) : Settlement → List Event
  | commit _ id => [.of .commit (.id id)]
  | reject _ id _ => [if (look id).status? = some .processing then .of .reject (.id id)
      else .of .rejectSkipped (.id id)]
  | cancel ids => if ids = [] then [] else [.of .cancelItems (.count (UInt64.ofNat ids.length))]

def events (look : ItemId → Cell) (s : Settlement) : List Event :=
  if s.error? look = none then s.tells look else []

def settle (now : Instant) : Settlement → Cell → Cell
  | commit archives _ => Cell.commit archives now
  | reject archives _ cause => Cell.reject archives cause now
  | cancel _ => Cell.release now

def apply (now : Instant) (look : ItemId → Cell) (s : Settlement) (id : ItemId) : Cell :=
  if s.error? look = none ∧ id ∈ s.ids then s.settle now (look id) else look id

def Commute (now : Instant) (s s' : Settlement) : Prop :=
  ∀ look, s'.apply now (s.apply now look) = s.apply now (s'.apply now look)

instance {now : Instant} : Std.Symm (Commute now) where
  symm _ _ h look := (h look).symm

section Locality

variable {now : Instant} {look look' : ItemId → Cell} {s s' : Settlement} {id : ItemId}

theorem refusal?_congr (h : ∀ id ∈ s.ids, look' id = look id) :
    s.refusal? look' = s.refusal? look := by
  cases s with
  | commit archives id => rw [refusal?, refusal?, h id (List.mem_singleton_self id)]
  | reject archives id cause => rfl
  | cancel ids => rfl

theorem error?_congr (h : ∀ id ∈ s.ids, look' id = look id) : s.error? look' = s.error? look := by
  rw [error?, error?, refusal?_congr h]

theorem answer_congr (h : ∀ id ∈ s.ids, look' id = look id) : s.answer look' = s.answer look := by
  rw [answer, answer, error?_congr h]

theorem tells_congr (h : ∀ id ∈ s.ids, look' id = look id) : s.tells look' = s.tells look := by
  cases s with
  | commit archives id => rfl
  | reject archives id cause => rw [tells, tells, h id (List.mem_singleton_self id)]
  | cancel ids => rfl

theorem events_congr (h : ∀ id ∈ s.ids, look' id = look id) : s.events look' = s.events look := by
  rw [events, events, error?_congr h, tells_congr h]

theorem of_commit {t : Tables} {archives : Archives}
    (h : (commit archives id).error? t.cell = none) :
    t.status? id = some .processing ∧ ¬t.Archived archives id := by
  obtain ⟨-, h⟩ := Option.or_eq_none_iff.1 h
  rw [refusal?] at h
  split at h
  · cases h
  · next hstatus =>
    split at h
    · cases h
    · next hfree => exact ⟨not_not.1 hstatus, fun h => hfree (Bool.and_eq_true_iff.2 h)⟩

theorem apply_of_not_mem (h : id ∉ s.ids) : s.apply now look id = look id :=
  if_neg fun hmem => h hmem.2

theorem apply_congr (h : ∀ id ∈ s.ids, look' id = look id) (hid : look' id = look id) :
    s.apply now look' id = s.apply now look id := by
  rw [apply, apply, error?_congr h, hid]

theorem Apart.symm (h : s.Apart s') : s'.Apart s := List.Disjoint.symm h

theorem Apart.apply_apply (h : s.Apart s') (hid : id ∈ s.ids) :
    s.apply now (s'.apply now look) id = s.apply now look id :=
  apply_congr (fun _ hmem => apply_of_not_mem (h hmem)) (apply_of_not_mem (h hid))

theorem Apart.commute (h : s.Apart s') (now : Instant) : s.Commute now s' := by
  intro look
  funext id
  by_cases hid : id ∈ s.ids
  · rw [h.apply_apply hid, apply_of_not_mem (h hid)]
  · rw [apply_of_not_mem hid]
    by_cases hid' : id ∈ s'.ids
    · exact h.symm.apply_apply hid'
    · rw [apply_of_not_mem hid', apply_of_not_mem hid', apply_of_not_mem hid]

theorem foldl_apply_of_apart {before : List Settlement} (h : ∀ s' ∈ before, s'.Apart s)
    (hid : id ∈ s.ids) : before.foldl (apply now) look id = look id := by
  induction before generalizing look with
  | nil => rfl
  | cons s' before ih =>
    obtain ⟨hs', hbefore⟩ := List.forall_mem_cons.1 h
    rw [List.foldl_cons, ih hbefore, apply_of_not_mem fun hmem => hs' hmem hid]

theorem foldl_apply_perm {l l' : List Settlement} (hapart : l.Pairwise Apart)
    (hperm : l'.Perm l) : l'.foldl (apply now) look = l.foldl (apply now) look := by
  have hcommute : l.Pairwise (Commute now) := hapart.imp fun h => h.commute now
  refine (hperm.symm.foldl_eq' (fun s hs s' hs' look => ?_) look).symm
  exact hcommute.forall_of_forall (fun _ _ _ => rfl) hs hs' look

end Locality

end Settlement

theorem Collaborator.plain_clock {γ : Type} (view : Tables → γ) (c : Call) (b : Backend) :
    ((plain view).run c b).2.clock = b.clock := by
  have hkeeps (r : QueueRequest hookCall) (b : Backend) :
      ((plain view).serve r b).2.clock = b.clock := by
    cases r with
    | store c => cases c <;> rfl
    | _ => rfl
  exact Program.run_keeps hkeeps _ b

namespace Backend

variable {γ : Type} {view : Tables → γ} {b : Backend} {s : Settlement}

structure Settles (view : Tables → γ) (b : Backend) (s : Settlement) : Prop where
  answer : ((Collaborator.plain view).run s.call b).1 = s.answer b.tables.cell
  events : (Collaborator.plain view).events s.call b = s.events b.tables.cell
  cells : ((Collaborator.plain view).run s.call b).2.tables.cell =
    s.apply b.clock.now b.tables.cell

theorem Settles.of_error (h : b.Free) {e : QueueError} (herror : s.error? b.tables.cell = some e)
    (hresult : ((Collaborator.plain view).run s.call b).1 = .error e) : b.Settles view s := by
  obtain ⟨hevents, htables⟩ := h.outcome_error hresult
  constructor
  · rw [hresult, Settlement.answer, herror]
  · simp [hevents, Settlement.events, herror]
  · funext id
    simp [htables, Settlement.apply, herror]

theorem Settles.of_ok (hok : s.error? b.tables.cell = none)
    (hresult : ((Collaborator.plain view).run s.call b).1 = .ok .done)
    (hevents : (Collaborator.plain view).events s.call b = s.tells b.tables.cell)
    (hcells : ∀ id, ((Collaborator.plain view).run s.call b).2.tables.cell id =
      if id ∈ s.ids then s.settle b.clock.now (b.tables.cell id) else b.tables.cell id) :
    b.Settles view s := by
  constructor
  · rw [hresult, Settlement.answer, hok]
  · rw [hevents, Settlement.events, if_pos hok]
  · funext id
    simp [hcells, Settlement.apply, hok]

theorem commitAnswer_eq (b : Backend) (archives : Archives) (id : ItemId) :
    commitAnswer archives id (.ok (), b) =
      match (Settlement.commit archives id).refusal? b.tables.cell with
      | some e => .error e
      | none => .ok () := by
  have hstatus : b.status? id = (b.tables.cell id).status? := rfl
  have hcontains : b.tables.completed.contains id = (b.tables.cell id).completed.isSome := rfl
  rw [commitAnswer, Settlement.refusal?, hstatus, hcontains]
  by_cases hprocessing : (b.tables.cell id).status? = some .processing
  · rw [if_neg (not_not_intro hprocessing), if_neg (not_not_intro hprocessing)]
    cases archives.completed && (b.tables.cell id).completed.isSome <;> rfl
  · rw [if_pos hprocessing, if_pos hprocessing]

theorem answer_commit (b : Backend) (archives : Archives) {id : ItemId} (hid : id.isZero = false) :
    (Settlement.commit archives id).answer b.tables.cell =
      (commitAnswer archives id (.ok (), b)).map fun _ => .done := by
  have hfault : (Call.commit archives id).fault? = none := by simp [Call.fault?, hid]
  rw [Settlement.answer, Settlement.error?, Settlement.call, hfault, Option.none_or,
    commitAnswer_eq]
  cases (Settlement.commit archives id).refusal? b.tables.cell <;> rfl

theorem Free.settles_commit (h : b.Free) {archives : Archives} {id : ItemId}
    (hid : id.isZero = false) : b.Settles view (.commit archives id) := by
  have hbusy := Collaborator.begin_engine h
  have htables : b.begin.2.tables = b.tables := by rw [tables, hbusy]; rfl
  have hresult := (Collaborator.plain view).run_commit h hid archives
  replace hresult : ((Collaborator.plain view).run (.commit archives id) b).1 =
      (Settlement.commit archives id).answer b.tables.cell := by
    rw [hresult, ← htables, answer_commit _ _ hid]
    rfl
  cases herror : (Settlement.commit archives id).error? b.tables.cell with
  | some e =>
    refine .of_error h herror (hresult.trans ?_)
    rw [Settlement.answer, herror]
  | none =>
    obtain ⟨hstatus, hfree⟩ := Settlement.of_commit herror
    obtain ⟨hdone, hsettled⟩ :=
      h.run_commit_settled (g := .plain view) hid rfl hbusy hstatus hfree
    refine .of_ok herror hdone (h.outcome_ok hdone).committed fun k => ?_
    refine (congrArg (·.cell k) hsettled).trans ?_
    simp only [Settlement.ids, List.mem_singleton]
    exact Tables.cell_settle _ _ _ _ _

theorem Free.settles_reject (h : b.Free) {archives : Archives} {id : ItemId} {cause : String}
    (hid : id.isZero = false) : b.Settles view (.reject archives id cause) := by
  have hfault : (Call.reject archives id cause).fault? = none := by simp [Call.fault?, hid]
  have hresult := (Collaborator.plain view).run_reject h hid archives cause
  obtain ⟨hcells, hevents⟩ := (h.outcome_ok hresult).rejected
  refine .of_ok ?_ hresult hevents fun k => ?_
  · rw [Settlement.error?, Settlement.call, hfault]
    rfl
  · simp only [Settlement.ids, List.mem_singleton]
    exact hcells k

theorem Free.settles_cancel (h : b.Free) {ids : List ItemId}
    (hfault : (Call.cancelItems ids).fault? = none) : b.Settles view (.cancel ids) := by
  have hresult := h.run_cancelItems (g := .plain view) hfault
  obtain ⟨hcells, hevents⟩ := (h.outcome_ok hresult).cancelled
  refine .of_ok ?_ hresult ?_ hcells
  · rw [Settlement.error?, Settlement.call, hfault]
    rfl
  · by_cases hids : ids = []
    · subst hids
      rfl
    · exact (hevents hids).trans (if_neg hids).symm

theorem Free.settles (h : b.Free) (view : Tables → γ) (s : Settlement) : b.Settles view s := by
  cases hfault : s.call.fault? with
  | some e =>
    refine .of_error h (e := e) ?_ ?_
    · rw [Settlement.error?.eq_def, hfault]
      rfl
    · rw [Collaborator.run, Call.program_eq, hfault]
      rfl
  | none =>
    cases s with
    | commit archives id =>
      have hid : id.isZero = false := by simpa [Settlement.call, Call.fault?] using hfault
      exact h.settles_commit hid
    | reject archives id cause =>
      have hid : id.isZero = false := by simpa [Settlement.call, Call.fault?] using hfault
      exact h.settles_reject hid
    | cancel ids => exact h.settles_cancel hfault

theorem Free.play_settlements (h : b.Free) (view : Tables → γ) (l : List Settlement) :
    (b.play (l.map (Settlement.act view))).tables.cell =
        l.foldl (Settlement.apply b.clock.now) b.tables.cell ∧
      (b.play (l.map (Settlement.act view))).clock = b.clock := by
  induction l generalizing b with
  | nil => exact ⟨rfl, rfl⟩
  | cons s l ih =>
    have hclock : (b.act (s.act view)).clock = b.clock := Collaborator.plain_clock view s.call b
    have hcells : (b.act (s.act view)).tables.cell = s.apply b.clock.now b.tables.cell :=
      (h.settles view s).cells
    rw [List.map_cons, play_cons, List.foldl_cons, ← hcells, ← hclock]
    exact ih (h.act _)

end Backend

/-- Settlements that name different items may come in any order. They leave the same tables, and
each of them is answered and tells what it would if it were the only one. -/
theorem settlements_commute {b : Backend} (hb : b.Free) {l l' : List Settlement}
    (hapart : l.Pairwise Settlement.Apart) (hperm : l'.Perm l) :
    let g : Collaborator LeavesRows := .plain _
    let play (l : List Settlement) := b.play (l.map (Settlement.act Tables.items))
    (play l').tables = (play l).tables ∧
    ∀ before s after, l' = before ++ s :: after →
      (g.run s.call (play before)).1 = (g.run s.call b).1 ∧
        g.events s.call (play before) = g.events s.call b := by
  intro g play
  constructor
  · have hcells := hb.play_settlements Tables.items
    refine Tables.ext_cell fun id => congrFun ?_ id
    rw [(hcells l').1, (hcells l).1, Settlement.foldl_apply_perm hapart hperm]
  · rintro before s after rfl
    have hapart' : (before ++ s :: after).Pairwise Settlement.Apart :=
      hperm.pairwise_iff Settlement.Apart.symm |>.2 hapart
    have hbefore : ∀ s' ∈ before, s'.Apart s := fun s' hs' =>
      (List.pairwise_append.1 hapart').2.2 s' hs' s List.mem_cons_self
    have hlook : ∀ id ∈ s.ids, (play before).tables.cell id = b.tables.cell id := by
      intro id hid
      rw [(hb.play_settlements Tables.items before).1]
      exact Settlement.foldl_apply_of_apart hbefore hid
    have hthere := (hb.play (before.map (Settlement.act Tables.items))).settles Tables.items s
    have halone := hb.settles Tables.items s
    constructor
    · exact hthere.answer.trans ((Settlement.answer_congr hlook).trans halone.answer.symm)
    · exact hthere.events.trans ((Settlement.events_congr hlook).trans halone.events.symm)

/-- A commit, a commit that fails, a reject and a cancel, and the same in the opposite order. -/
theorem settlements_commute_reversed :
    let g : Collaborator LeavesRows := .plain _
    let archives : Archives := ⟨true, true⟩
    let claim (id : ItemId) := [.append ⟨id, .zero, 3⟩, .readItems 10].map (Act.call g)
    let b := (Backend.start (.clamp 0)).play (claim ⟨1⟩ ++ claim ⟨2⟩ ++ claim ⟨3⟩)
    let l : List Settlement :=
      [.commit archives ⟨1⟩, .commit archives ⟨4⟩, .reject archives ⟨2⟩ "late", .cancel [⟨3⟩, ⟨5⟩]]
    let play (l : List Settlement) := b.play (l.map (Settlement.act Tables.items))
    b.Free ∧ l.Pairwise Settlement.Apart ∧ l.reverse.Perm l ∧
      (play l.reverse).tables = (play l).tables ∧
      (play l).tables.items.rows =
        [(⟨2⟩, ⟨.retry, 2, .clamp 0⟩), (⟨3⟩, ⟨.ready, 3, .clamp 0⟩)] ∧
      (g.run (.commit archives ⟨1⟩) (play (l.reverse.take 3))).1 = .ok .done := by
  intro g archives claim b l play
  have hb : b.Free := (Backend.Free.start (.clamp 0)).play _
  have hapart : l.Pairwise Settlement.Apart := by
    simp [l, Settlement.Apart, Settlement.ids]
  have hperm : l.reverse.Perm l := l.reverse_perm
  obtain ⟨htables, hanswers⟩ := settlements_commute hb hapart hperm
  refine ⟨hb, hapart, hperm, htables, by decide +kernel, ?_⟩
  refine (hanswers (l.reverse.take 3) (.commit archives ⟨1⟩) [] rfl).1.trans ?_
  decide +kernel

end Memory

end WorkQueue
