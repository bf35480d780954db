import WorkQueue.Proofs.Chore

namespace WorkQueue.Memory

open Queue

def Collaborator.series {S : UnitOfWork → UnitOfWork → Prop} (g : Collaborator S)
    (call : UInt32 → Call) (b : Backend) :
    List UInt32 → List (Except QueueError Reply) × Backend
  | [] => ([], b)
  | limit :: limits =>
    let rest := g.series call (g.run (call limit) b).2 limits
    ((g.run (call limit) b).1 :: rest.1, rest.2)

def parts : List UInt32 → List Candidate → List (List ItemId)
  | [], _ => []
  | limit :: limits, due =>
    (due.take limit.toNat).map (·.id) :: parts limits (due.drop limit.toNat)

theorem flatten_parts (limits : List UInt32) (due : List Candidate) :
    (parts limits due).flatten = (due.take (limits.map UInt32.toNat).sum).map (·.id) := by
  induction limits generalizing due with
  | nil => rfl
  | cons limit limits ih =>
    rw [parts, List.flatten_cons, ih, ← List.map_append, ← List.take_add]
    rfl

theorem parts_nil (limits : List UInt32) : parts limits [] = limits.map fun _ => [] := by
  induction limits with
  | nil => rfl
  | cons limit limits ih => rw [parts, List.take_nil, List.drop_nil, ih]; rfl

namespace Chore

variable {S : UnitOfWork → UnitOfWork → Prop} {g : Collaborator S} {chore : Chore} {b : Backend}
  {limits : List UInt32}

theorem series_ok {bound : Instant} {due : List Candidate} (hb : b.Free)
    (hpurges : ∀ limit, purges (chore.call limit) = false) (hlimits : ∀ limit ∈ limits, limit ≠ 0)
    (hbound : chore.bound b.clock.now = .ok bound) (hdue : InOrder (chore.Due b.tables bound) due) :
    ∃ b', g.series chore.call b limits = ((parts limits due).map fun ids => .ok (.ids ids), b') ∧
      chore.Did due (limits.map UInt32.toNat).sum b b' := by
  induction limits generalizing b due with
  | nil => exact ⟨b, rfl, hb, rfl, .none _ _⟩
  | cons limit limits ih =>
    rw [List.forall_mem_cons] at hlimits
    obtain ⟨b', hrun, hdid⟩ := run_due (g := g) hb hpurges hlimits.1 hbound hdue
    obtain ⟨b'', hseries, hdid'⟩ := ih hdid.free hlimits.2 (by rw [hdid.clock, hbound])
      (hdid.rest hdue)
    refine ⟨b'', ?_, hdid.trans hdid' hdue.distinct⟩
    rw [Collaborator.series, hrun, hseries]
    rfl

theorem series_error {e : StoreError} (hb : b.Free) (hlimits : ∀ limit ∈ limits, limit ≠ 0)
    (hbound : chore.bound b.clock.now = .error e) :
    (g.series chore.call b limits).1 = limits.map (fun _ => .error (.storage .table e)) ∧
      (g.series chore.call b limits).2.tables = b.tables := by
  induction limits generalizing b with
  | nil => exact ⟨rfl, rfl⟩
  | cons limit limits ih =>
    rw [List.forall_mem_cons] at hlimits
    obtain ⟨b', hrun, hfree, hclock, htables⟩ := run_error (g := g) hb hlimits.1 hbound
    obtain ⟨hanswers, hsame⟩ := ih hfree hlimits.2 (by rw [hclock, hbound])
    rw [Collaborator.series, hrun, List.map_cons, hanswers, hsame]
    exact ⟨rfl, htables⟩

theorem series_done {bound : Instant} (hb : b.Free)
    (hpurges : ∀ limit, purges (chore.call limit) = false) (hlimits : ∀ limit ∈ limits, limit ≠ 0)
    (hbound : chore.bound b.clock.now = .ok bound) (hdone : InOrder (chore.Due b.tables bound) []) :
    (g.series chore.call b limits).1 = limits.map (fun _ => .ok (.ids [])) ∧
      (g.series chore.call b limits).2.tables = b.tables := by
  obtain ⟨b', hseries, hdid⟩ := series_ok (g := g) hb hpurges hlimits hbound hdone
  have hmeets := hdid.meets
  rw [List.take_nil] at hmeets
  rw [hseries, parts_nil, List.map_map]
  exact ⟨rfl, hmeets.unique (.none _ _)⟩

theorem series_empty (hb : b.Free) (hpurges : ∀ limit, purges (chore.call limit) = false)
    {limit : UInt32} (hlimits : ∀ other ∈ limit :: limits, other ≠ 0)
    (hempty : (g.run (chore.call limit) b).1 = .ok (.ids [])) :
    (g.series chore.call b (limit :: limits)).1 = (limit :: limits).map (fun _ => .ok (.ids [])) ∧
      (g.series chore.call b (limit :: limits)).2.tables = b.tables := by
  have hlimit : limit ≠ 0 := hlimits limit List.mem_cons_self
  cases hbound : chore.bound b.clock.now with
  | error e =>
    obtain ⟨b', hrun, -⟩ := run_error (g := g) hb hlimit hbound
    rw [hrun] at hempty
    cases hempty
  | ok bound =>
    obtain ⟨due, hdue, hrun⟩ := run_ok (g := g) hb hpurges hbound
    obtain ⟨b', hrun, -⟩ := hrun limit hlimit
    rw [hrun] at hempty
    have htaken : due.take limit.toNat = [] := by simpa using hempty
    have hpos : limit.toNat ≠ 0 := fun hzero => hlimit (UInt32.toNat_inj.1 hzero)
    obtain rfl : due = [] := (List.take_eq_nil_iff.1 htaken).resolve_left hpos
    exact series_done hb hpurges hlimits hbound hdue

theorem add_ne_zero {m n : UInt32} (hm : m ≠ 0) (hsum : m.toNat + n.toNat < 2 ^ 32) :
    (m + n).toNat = m.toNat + n.toNat ∧ m + n ≠ 0 := by
  have htotal : (m + n).toNat = m.toNat + n.toNat := by
    rw [UInt32.toNat_add, Nat.mod_eq_of_lt hsum]
  refine ⟨htotal, fun hzero => hm (UInt32.toNat_inj.1 ?_)⟩
  rw [hzero] at htotal
  exact (Nat.add_eq_zero_iff.1 htotal.symm).1

theorem run_add {bound : Instant} {m n : UInt32} (hb : b.Free)
    (hpurges : ∀ limit, purges (chore.call limit) = false) (hm : m ≠ 0) (hn : n ≠ 0)
    (hsum : m.toNat + n.toNat < 2 ^ 32) (hbound : chore.bound b.clock.now = .ok bound) :
    ∃ ids ids' b' b'' whole, g.run (chore.call m) b = (.ok (.ids ids), b') ∧
      g.run (chore.call n) b' = (.ok (.ids ids'), b'') ∧
      g.run (chore.call (m + n)) b = (.ok (.ids (ids ++ ids')), whole) ∧
      b''.tables = whole.tables := by
  obtain ⟨htotal, hnonzero⟩ := add_ne_zero hm hsum
  obtain ⟨due, hdue, hrun⟩ := run_ok (g := g) hb hpurges hbound
  obtain ⟨b', hfirst, hdid⟩ := hrun m hm
  obtain ⟨b'', hsecond, hdid'⟩ := run_due (g := g) hdid.free hpurges hn
    (by rw [hdid.clock, hbound]) (hdid.rest hdue)
  obtain ⟨whole, hwhole, hdid''⟩ := hrun (m + n) hnonzero
  rw [htotal] at hwhole hdid''
  rw [List.take_add, List.map_append] at hwhole
  exact ⟨_, _, b', b'', whole, hfirst, hsecond, hwhole,
    (hdid.trans hdid' hdue.distinct).meets.unique hdid''.meets⟩

theorem run_add_error {e : StoreError} {m n : UInt32} (hb : b.Free) (hm : m ≠ 0) (hn : n ≠ 0)
    (hsum : m.toNat + n.toNat < 2 ^ 32) (hbound : chore.bound b.clock.now = .error e) :
    ∃ b' b'' whole, g.run (chore.call m) b = (.error (.storage .table e), b') ∧
      g.run (chore.call n) b' = (.error (.storage .table e), b'') ∧
      g.run (chore.call (m + n)) b = (.error (.storage .table e), whole) ∧
      b'.tables = b.tables ∧ b''.tables = b.tables ∧ whole.tables = b.tables := by
  obtain ⟨b', hfirst, hfree, hclock, htables⟩ := run_error (g := g) hb hm hbound
  obtain ⟨b'', hsecond, -, -, htables'⟩ := run_error (g := g) hfree hn (by rw [hclock, hbound])
  obtain ⟨whole, hwhole, -, -, hsame⟩ := run_error (g := g) hb (add_ne_zero hm hsum).2 hbound
  exact ⟨b', b'', whole, hfirst, hsecond, hwhole, htables, htables'.trans htables, hsame⟩

end Chore

structure Chore.Divides {S : UnitOfWork → UnitOfWork → Prop} (g : Collaborator S) (chore : Chore)
    (b : Backend) : Prop where
  halves : ∀ m n, m ≠ 0 → n ≠ 0 → m.toNat + n.toNat < 2 ^ 32 →
    let first := g.run (chore.call m) b
    let second := g.run (chore.call n) first.2
    let whole := g.run (chore.call (m + n)) b
    second.2.tables = whole.2.tables ∧
    match chore.bound b.clock.now with
    | .ok _ => ∃ ids ids', first.1 = .ok (.ids ids) ∧ second.1 = .ok (.ids ids') ∧
      whole.1 = .ok (.ids (ids ++ ids'))
    | .error e => first.1 = .error (.storage .table e) ∧ second.1 = .error (.storage .table e) ∧
      whole.1 = .error (.storage .table e) ∧ first.2.tables = b.tables ∧ second.2.tables = b.tables
  parts : match chore.bound b.clock.now with
    | .ok bound => ∃ due, InOrder (chore.Due b.tables bound) due ∧
      ∀ limits, (∀ limit ∈ limits, limit ≠ 0) →
        let total := (limits.map UInt32.toNat).sum
        let series := g.series chore.call b limits
        series.1 = (Memory.parts limits due).map (fun ids => .ok (.ids ids)) ∧
        (Memory.parts limits due).flatten = (due.take total).map (·.id) ∧
        (chore.fate b.clock.now).Meets ((due.take total).map (·.id)) b.tables series.2.tables ∧
        InOrder (chore.Due series.2.tables bound) (due.drop total)
    | .error e => ∀ limits, (∀ limit ∈ limits, limit ≠ 0) →
      let series := g.series chore.call b limits
      series.1 = limits.map (fun _ => .error (.storage .table e)) ∧ series.2.tables = b.tables
  ends : ∀ limit limits, (∀ other ∈ limit :: limits, other ≠ 0) →
    (g.run (chore.call limit) b).1 = .ok (.ids []) →
    let series := g.series chore.call b (limit :: limits)
    series.1 = (limit :: limits).map (fun _ => .ok (.ids [])) ∧ series.2.tables = b.tables

/-- In whatever state the calls find the tables, batches split, as long as the application has no
rows to purge. -/
theorem batches_split {S : UnitOfWork → UnitOfWork → Prop} (g : Collaborator S) (chore : Chore)
    (hpurges : ∀ limit, purges (chore.call limit) = false) {b : Backend} (hb : b.Free) :
    chore.Divides g b where
  halves m n hm hn hsum := by
    cases hbound : chore.bound b.clock.now with
    | ok bound =>
      obtain ⟨ids, ids', b', b'', w, hfirst, hsecond, hwhole, htables⟩ :=
        Chore.run_add (g := g) hb hpurges hm hn hsum hbound
      simp only [hfirst, hsecond, hwhole]
      exact ⟨htables, ids, ids', rfl, rfl, rfl⟩
    | error e =>
      obtain ⟨b', b'', w, hfirst, hsecond, hwhole, hsame, hsame', hsame''⟩ :=
        Chore.run_add_error (g := g) hb hm hn hsum hbound
      simp only [hfirst, hsecond, hwhole, hsame, hsame', hsame'', and_self]
  parts := by
    cases hbound : chore.bound b.clock.now with
    | ok bound =>
      obtain ⟨due, hdue, -⟩ := Chore.run_ok (g := g) hb hpurges hbound
      refine ⟨due, hdue, fun limits hlimits => ?_⟩
      obtain ⟨b', hseries, hdid⟩ := Chore.series_ok (g := g) hb hpurges hlimits hbound hdue
      simp only [hseries]
      exact ⟨trivial, flatten_parts limits due, hdid.meets, hdid.rest hdue⟩
    | error e => exact fun limits hlimits => Chore.series_error hb hlimits hbound
  ends limit limits hlimits hempty := Chore.series_empty hb hpurges hlimits hempty

/-- Three items that time out together are swept up in two calls, and a third one finds nothing. -/
theorem batches_split_timedOut :
    let g : Collaborator LeavesRows := .plain _
    let chore := Chore.recoverTimedOut ⟨true, true⟩ .default
    let append (n : UInt64) := Act.call g (.append ⟨⟨n⟩, .zero, 3⟩)
    let read := Act.call g (.readItems 10)
    let b := (Backend.start (.clamp 0)).play
      [append 3, read, append 1, read, append 2, read, .clock ⟨.clamp 301000000000, 0⟩]
    let second := g.run (chore.call 2) (g.run (chore.call 2) b).2
    let whole := g.run (chore.call (2 + 2)) b
    b.Free ∧ second.2.tables = whole.2.tables ∧ (g.series chore.call b [2, 2, 1]).1 =
      [.ok (.ids [⟨1⟩, ⟨2⟩]), .ok (.ids [⟨3⟩]), .ok (.ids [])] := by
  intro g chore append read b second whole
  have hb : b.Free := (Backend.Free.start (.clamp 0)).play _
  have hbound : chore.bound b.clock.now = .ok (.clamp 1000000000) := by decide +kernel
  obtain ⟨halves, drains, -⟩ := batches_split g chore (fun _ => rfl) hb
  rw [hbound] at drains
  obtain ⟨due, hdue, hseries⟩ := drains
  have hcandidates : eligible (overdue (.clamp 1000000000)) b.tables.items =
      [⟨.clamp 0, ⟨1⟩⟩, ⟨.clamp 0, ⟨2⟩⟩, ⟨.clamp 0, ⟨3⟩⟩] := by
    decide +kernel
  have hsorted := inOrder_mergeSort (P := chore.Due b.tables (.clamp 1000000000))
    (fun c => mem_eligible_iff.trans (and_iff_right rfl).symm)
    (nodup_eligible (overdue (.clamp 1000000000)) b.tables.items)
  rw [hcandidates, List.mergeSort_of_pairwise (by decide)] at hsorted
  rw [hdue.unique hsorted] at hseries
  exact ⟨hb, (halves 2 2 (by decide) (by decide) (by decide)).1,
    (hseries [2, 2, 1] (by simp)).1⟩

end WorkQueue.Memory
