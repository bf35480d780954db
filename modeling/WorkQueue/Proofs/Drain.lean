import WorkQueue.Proofs.Timeliness
import WorkQueue.Proofs.Waiting

namespace WorkQueue.Memory

open Queue

variable {S : UnitOfWork → UnitOfWork → Prop}

/-- A call is made again and again, each time by the clock and with the limit of the next step, until
it is answered with no items. -/
def Collaborator.drain (g : Collaborator S) (call : UInt32 → Call) (b : Backend) :
    List (Clock × UInt32) → Option Backend
  | [] => none
  | (k, limit) :: steps =>
    let b := { b with clock := k }
    match (g.run (call limit) b).1 with
    | .error _ => none
    | .ok r =>
      if r.items = [] then some (g.run (call limit) b).2
      else g.drain call (g.run (call limit) b).2 steps

/-- Positive limits, and clocks that do not go back behind `now` or one another and show what `P`
holds of. -/
def Schedule (P : Instant → Prop) (now : Instant) : List (Clock × UInt32) → Prop
  | [] => True
  | (k, limit) :: steps => limit ≠ 0 ∧ now ≤ k.now ∧ P k.now ∧ Schedule P k.now steps

instance Schedule.decidable {P : Instant → Prop} [DecidablePred P] (now : Instant) :
    (steps : List (Clock × UInt32)) → Decidable (Schedule P now steps)
  | [] => inferInstanceAs (Decidable True)
  | (k, _) :: steps =>
    have := Schedule.decidable (P := P) k.now steps
    inferInstanceAs (Decidable (_ ∧ _ ∧ _ ∧ _))

/-- What may become of a row that is swept up: it is done with, as it has no attempts left, or it is
one that `R` describes and `q` does not pick again. -/
inductive Settled (R : Row → Prop) (q : Row → Bool) (row : Row) : Option Row → Prop
  | removed (h : row.attempts = 0) : Settled R q row none
  | moved {after} (hrow : R after) (hdone : q after = false) (hkept : after.attempts = row.attempts) :
    Settled R q row (some after)

structure Settles (g : Collaborator S) (call : UInt32 → Call) (P : Instant → Prop)
    (R : Instant → Row → Prop) (q : Row → Bool) : Prop where
  later : ∀ {now now' row}, now ≤ now' → R now row → R now' row
  sweeps : ∀ {now}, P now → ∃ p f, Sweeps g call now p f ∧ (∀ row, R now row → p row = q row) ∧
    ∀ row, R now row → q row = true → Settled (R now) q row (f row)

namespace Backend

variable {b b' b'' : Backend}

def Keeps (b b' : Backend) : Prop :=
  ∀ id row, b.row? id = some row → row.attempts ≠ 0 →
    ∃ row', b'.row? id = some row' ∧ row'.attempts = row.attempts

theorem Keeps.trans (h : b.Keeps b') (h' : b'.Keeps b'') : b.Keeps b'' := by
  intro id row hrow hattempts
  obtain ⟨row', hrow', hsame⟩ := h id row hrow hattempts
  obtain ⟨row'', hrow'', hsame'⟩ := h' id row' hrow' (hsame ▸ hattempts)
  exact ⟨row'', hrow'', hsame'.trans hsame⟩

def Rows (b : Backend) (R : Instant → Row → Prop) : Prop :=
  ∀ id row, b.row? id = some row → R b.clock.now row

structure Drained (R : Instant → Row → Prop) (q : Row → Bool) (b b' : Backend) : Prop where
  free : b'.Free
  onward : b.clock.now ≤ b'.clock.now
  rows : b'.Rows R
  done : ∀ id row, b'.row? id = some row → q row = false
  keeps : b.Keeps b'

end Backend

section Settles

variable {g : Collaborator S} {call : UInt32 → Call} {P : Instant → Prop}
  {R : Instant → Row → Prop} {q : Row → Bool} {b : Backend}

section Settled

variable {R : Row → Prop} {row after : Row} {row' : Option Row}

theorem Settled.described (h : Settled R q row (some after)) : R after := by
  cases h with
  | moved hrow _ _ => exact hrow

theorem Settled.not_any (h : Settled R q row row') : row'.any q = false := by
  cases h with
  | removed _ => rfl
  | moved _ hdone _ => exact hdone

theorem Settled.kept (h : Settled R q row row') (hattempts : row.attempts ≠ 0) :
    ∃ after, row' = some after ∧ after.attempts = row.attempts := by
  cases h with
  | removed hzero => exact absurd hzero hattempts
  | moved _ _ hkept => exact ⟨_, rfl, hkept⟩

end Settled

theorem Settles.step (h : Settles g call P R q) {limit : UInt32} (hb : b.Free)
    (hrows : b.Rows R) (hP : P b.clock.now) (hlimit : limit ≠ 0) :
    ∃ r b', g.run (call limit) b = (.ok r, b') ∧ b'.Free ∧ b'.clock = b.clock ∧ b'.Rows R ∧
      b.Keeps b' ∧ (r.items = [] → ∀ id row, b'.row? id = some row → q row = false) ∧
      (eligible q b'.tables.items).length + r.items.length =
        (eligible q b.tables.items).length := by
  obtain ⟨p, f, hsweeps, hpq, hsettled⟩ := h.sweeps hP
  obtain ⟨r, hr, hclock, hswept⟩ := hsweeps hb rfl hlimit
  have hfree := (hb.outcome g (call limit)).1
  generalize g.run (call limit) b = ended at hr hclock hswept hfree
  obtain ⟨_, b'⟩ := ended
  cases hr
  replace hswept := hswept.congr fun id row hrow => hpq row (hrows id row hrow)
  have hrows' : b'.Rows R := by
    intro id row hrow
    rw [show b'.clock = b.clock from hclock]
    rcases hswept.back hrow with hsame | ⟨before, hbefore, hq, hf⟩
    · exact hrows id row hsame
    · exact (hf ▸ hsettled before (hrows id before hbefore) hq).described
  have hkeeps : b.Keeps b' := by
    intro id row hrow hattempts
    rcases hswept.forth hrow with hsame | ⟨hq, hf⟩
    · exact ⟨row, hsame, rfl⟩
    · obtain ⟨after, hafter, hkept⟩ := (hsettled row (hrows id row hrow) hq).kept hattempts
      exact ⟨after, hf.trans hafter, hkept⟩
  refine ⟨r, b', rfl, hfree, hclock, hrows', hkeeps, fun hnil id row hrow => ?_, ?_⟩
  · exact (hnil ▸ hswept : Swept q f limit _ _ []).none_left hlimit hrow
  · exact hswept.length fun id row hrow hq => (hsettled row (hrows id row hrow) hq).not_any

theorem Settles.ends (h : Settles g call P R q) {steps : List (Clock × UInt32)} (hb : b.Free)
    (hrows : b.Rows R) (hsteps : Schedule P b.clock.now steps)
    (hlength : (eligible q b.tables.items).length < steps.length) :
    ∃ b', g.drain call b steps = some b' ∧ b.Drained R q b' := by
  -- Each call but the last makes the rows that are to be settled fewer.
  induction steps generalizing b with
  | nil => cases hlength
  | cons step steps ih =>
    obtain ⟨k, limit⟩ := step
    obtain ⟨hlimit, honward, hP, hsteps⟩ := hsteps
    have hstarted : ({ b with clock := k } : Backend).Rows R :=
      fun id row hrow => h.later honward (hrows id row hrow)
    obtain ⟨r, b', hrun, hb', hclock, hrows', hkeeps, hnil, hcount⟩ :=
      h.step (b := { b with clock := k }) hb hstarted hP hlimit
    change b'.clock = k at hclock
    change _ = (eligible q b.tables.items).length at hcount
    simp only [Collaborator.drain, hrun]
    split
    · next hempty => exact ⟨b', rfl, hb', hclock ▸ honward, hrows', hnil hempty, hkeeps⟩
    · next hsome =>
      have hpos := List.length_pos_iff.2 hsome
      rw [List.length_cons] at hlength
      obtain ⟨last, hlast, hdrained⟩ := ih hb' hrows' (hclock ▸ hsteps) (by omega)
      exact ⟨last, hlast, hdrained.free, Int.le_trans (hclock ▸ honward) hdrained.onward,
        hdrained.rows, hdrained.done, Backend.Keeps.trans hkeeps hdrained.keeps⟩

end Settles

section Recovery

variable {now s : Instant} {w : RecoveryWindows} {row : Row}

structure ClaimedBy (s now : Instant) (row : Row) : Prop where
  claimed : row.status = .processing → row.time ≤ s
  past : row.status ≠ .ready → row.time ≤ now

structure RetriedBy (s : Instant) (row : Row) : Prop where
  unclaimed : row.status ≠ .processing
  retried : row.status = .retry → row.time ≤ s

structure Retried (row : Row) : Prop where
  unclaimed : row.status ≠ .processing
  spent : row.status = .retry → row.attempts = 0

theorem overdue_eq (hrow : ClaimedBy s now row) {time : Instant}
    (hlt : s.nanos < time.nanos) : overdue time row = (row.status == .processing) := by
  cases hstatus : row.status == .processing with
  | false => simp [overdue, hstatus]
  | true =>
    have hclaimed : row.time ≤ s := hrow.claimed (beq_iff_eq.1 hstatus)
    have hbefore : row.time < time := Int.lt_of_le_of_lt hclaimed hlt
    simp [overdue, hstatus, hbefore]

theorem settles_recover (g : Collaborator S) (archives : Archives) (w : RecoveryWindows)
    (s : Instant) : Settles g (.recoverTimedOut archives w)
      (fun now => s.nanos + w.timeout.nanos < now.nanos) (ClaimedBy s)
      fun row => row.status == .processing where
  later hle hrow := ⟨hrow.claimed, fun hready => Int.le_trans (hrow.past hready) hle⟩
  sweeps := by
    intro now hnow
    obtain ⟨time, htime, hnanos⟩ := deadline_of_le (Int.le_of_lt hnow)
    refine ⟨_, _, sweeps_recover g archives htime, fun row hrow => ?_, fun row _ _ => ?_⟩
    · exact overdue_eq hrow (by omega)
    · exact .moved ⟨nofun, fun _ => Int.le_refl _⟩ rfl rfl

theorem rested_eq (hrow : RetriedBy s row) {time : Instant} (hle : s.nanos ≤ time.nanos) :
    rested time row = (row.status == .retry && row.attempts != 0) := by
  cases hstatus : row.status == .retry with
  | false => simp [rested, hstatus]
  | true =>
    have hretried : row.time ≤ s := hrow.retried (beq_iff_eq.1 hstatus)
    have hbefore : row.time ≤ time := Int.le_trans hretried hle
    simp [rested, hstatus, hbefore]

theorem settles_requeue (g : Collaborator S) (w : RecoveryWindows) (s : Instant) :
    Settles g (.requeue w) (fun now => s.nanos + w.delay.nanos ≤ now.nanos)
      (fun _ => RetriedBy s) fun row => row.status == .retry && row.attempts != 0 where
  later _ hrow := hrow
  sweeps := by
    intro now hnow
    obtain ⟨time, htime, hnanos⟩ := deadline_of_le hnow
    refine ⟨_, _, sweeps_requeue g htime, fun row hrow => ?_, fun row _ _ => ?_⟩
    · exact rested_eq hrow (by omega)
    · exact .moved ⟨nofun, nofun⟩ rfl rfl

theorem settles_discard (g : Collaborator S) :
    Settles g .removeExhausted (fun _ => True) (fun _ => Retried) exhausted where
  later _ hrow := hrow
  sweeps := by
    intro now _
    refine ⟨_, _, sweeps_discard g now, fun _ _ => rfl, fun row _ hexhausted => .removed ?_⟩
    rw [exhausted, Bool.and_eq_true, beq_iff_eq, beq_iff_eq] at hexhausted
    exact hexhausted.2

end Recovery

/-- However a queue was used under a clock that does not go back, three loops make every row ready
again, except those without attempts, which they remove: first what is in processing is timed out,
then what is in retry is brought back, and last what is exhausted is removed. None of the loops takes
more than one call over the number of rows. -/
theorem recovery_complete (t : Instant) (acts : List (Act Performs))
    (honward : (Backend.start t).Onward acts) (g : Collaborator S) (archives : Archives)
    (w : RecoveryWindows) :
    let b := (Backend.start t).play acts
    ∀ first, b.tables.items.size < first.length →
      Schedule (fun now => b.clock.now.nanos + w.timeout.nanos < now.nanos) b.clock.now first →
    ∃ b₁, g.drain (.recoverTimedOut archives w) b first = some b₁ ∧ b.Keeps b₁ ∧
      (∀ id row, b₁.row? id = some row → row.status ≠ .processing) ∧
    ∀ second, b₁.tables.items.size < second.length →
      Schedule (fun now => b₁.clock.now.nanos + w.delay.nanos ≤ now.nanos) b₁.clock.now second →
    ∃ b₂, g.drain (.requeue w) b₁ second = some b₂ ∧ b₁.Keeps b₂ ∧
      (∀ id row, b₂.row? id = some row → row.status = .retry → row.attempts = 0) ∧
    ∀ third, b₂.tables.items.size < third.length →
      Schedule (fun _ => True) b₂.clock.now third →
    ∃ b₃, g.drain .removeExhausted b₂ third = some b₃ ∧ b₂.Keeps b₃ ∧
      ∀ id row, b₃.row? id = some row → row.status = .ready := by
  intro b first hlength hfirst
  have htimely : Timely b.clock.now b.tables := honward.timely (.start t) (Backend.timely_start _ t)
  -- Every claim lies in the past, so whatever is in processing is overdue in the first loop.
  have hrows : b.Rows (ClaimedBy b.clock.now) := by
    intro id row hrow
    exact ⟨fun hstatus => htimely id row hrow (by simp [hstatus]), htimely id row hrow⟩
  obtain ⟨b₁, hb₁, hdone⟩ := (settles_recover g archives w b.clock.now).ends
    ((Backend.Free.start t).play acts) hrows hfirst
    (Nat.lt_of_le_of_lt (length_eligible_le _ _) hlength)
  have hunclaimed : ∀ id row, b₁.row? id = some row → row.status ≠ .processing := by
    intro id row hrow
    simpa using hdone.done id row hrow
  refine ⟨b₁, hb₁, hdone.keeps, hunclaimed, fun second hlength₁ hsecond => ?_⟩
  -- The sweeps of the first loop may have stamped rows as late as its last call.
  have hrows₁ : b₁.Rows fun _ => RetriedBy b₁.clock.now := by
    intro id row hrow
    exact ⟨hunclaimed id row hrow, fun hstatus => (hdone.rows id row hrow).past (by simp [hstatus])⟩
  obtain ⟨b₂, hb₂, hdone₁⟩ := (settles_requeue g w b₁.clock.now).ends hdone.free hrows₁ hsecond
    (Nat.lt_of_le_of_lt (length_eligible_le _ _) hlength₁)
  have hspent : ∀ id row, b₂.row? id = some row → row.status = .retry → row.attempts = 0 := by
    intro id row hrow hstatus
    simpa [hstatus] using hdone₁.done id row hrow
  refine ⟨b₂, hb₂, hdone₁.keeps, hspent, fun third hlength₂ hthird => ?_⟩
  have hrows₂ : b₂.Rows fun _ => Retried :=
    fun id row hrow => ⟨(hdone₁.rows id row hrow).unclaimed, hspent id row hrow⟩
  obtain ⟨b₃, hb₃, hdone₂⟩ := (settles_discard g).ends hdone₁.free hrows₂ hthird
    (Nat.lt_of_le_of_lt (length_eligible_le _ _) hlength₂)
  refine ⟨b₃, hb₃, hdone₂.keeps, fun id row hrow => ?_⟩
  have hrested := hdone₂.rows id row hrow
  cases hstatus : row.status with
  | ready => rfl
  | processing => exact absurd hstatus hrested.unclaimed
  | retry =>
    have hkept := hdone₂.done id row hrow
    simp [exhausted, hstatus, hrested.spent hstatus] at hkept

/-- One item was rejected for the last time, and another was put in and claimed while a third was
committed. -/
theorem recovery_complete_stranded :
    let second : Int := 1000000000
    let worker := Collaborator.making [.insert [⟨⟨2⟩, .ofSeconds 0, 2⟩], .claim 10]
    let acts := [.call worker (.append ⟨⟨1⟩, .ofSeconds 0, 1⟩), .call worker (.readItems 10),
      .call worker (.reject ⟨true, true⟩ ⟨1⟩ "late"),
      .call worker (.append ⟨⟨3⟩, .ofSeconds 0, 1⟩), .call worker (.readItems 10),
      .call worker (.commit ⟨true, true⟩ ⟨3⟩)]
    let b := (Backend.start (.clamp 0)).play acts
    let steps (n : Int) := List.replicate 3 (Clock.start (.clamp (n * second)), (10 : UInt32))
    b.tables.items.rows.map (fun row => (row.1.value, row.2.status, row.2.attempts)) =
      [(1, .retry, 0), (2, .processing, 2)] ∧
    ∃ b₁ b₂ b₃, worker.drain (.recoverTimedOut ⟨true, true⟩ .default) b (steps 301) = some b₁ ∧
      worker.drain (.requeue .default) b₁ (steps 421) = some b₂ ∧
      worker.drain .removeExhausted b₂ (steps 421) = some b₃ ∧ b.Keeps b₃ ∧
      ∀ id row, b₃.row? id = some row → row.status = .ready := by
  intro second worker acts b steps
  have hrows : b.tables.items.rows.map (fun row => (row.1.value, row.2.status, row.2.attempts)) =
      [(1, .retry, 0), (2, .processing, 2)] := by
    decide +kernel
  have honward : (Backend.start (.clamp 0)).Onward acts := by decide +kernel
  obtain ⟨b₁, hb₁, hkeeps₁, -, hrest₁⟩ := recovery_complete (.clamp 0) acts honward worker
    ⟨true, true⟩ .default (steps 301) (by decide +kernel) (by decide +kernel)
  have hsize₁ : (worker.drain (.recoverTimedOut ⟨true, true⟩ .default) b (steps 301)).map
      (fun b => (b.clock.now, b.tables.items.size)) = some (.clamp (301 * second), 2) := by
    decide +kernel
  rw [hb₁] at hsize₁
  obtain ⟨hnow₁, hcount₁⟩ := Prod.mk.inj (Option.some.inj hsize₁)
  obtain ⟨b₂, hb₂, hkeeps₂, -, hrest₂⟩ := hrest₁ (steps 421) (by rw [hcount₁]; decide)
    (by rw [hnow₁]; decide +kernel)
  have hsize₂ : ((worker.drain (.recoverTimedOut ⟨true, true⟩ .default) b (steps 301)).bind
      fun b => worker.drain (.requeue .default) b (steps 421)).map
      (fun b => (b.clock.now, b.tables.items.size)) = some (.clamp (421 * second), 2) := by
    decide +kernel
  rw [hb₁, Option.bind_some, hb₂] at hsize₂
  obtain ⟨hnow₂, hcount₂⟩ := Prod.mk.inj (Option.some.inj hsize₂)
  obtain ⟨b₃, hb₃, hkeeps₃, hready⟩ := hrest₂ (steps 421) (by rw [hcount₂]; decide)
    (by rw [hnow₂]; decide +kernel)
  exact ⟨hrows, b₁, b₂, b₃, hb₁, hb₂, hb₃, hkeeps₁.trans (hkeeps₂.trans hkeeps₃), hready⟩

end WorkQueue.Memory
