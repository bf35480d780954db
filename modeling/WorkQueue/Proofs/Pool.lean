import WorkQueue.Proofs.Duty
import WorkQueue.Proofs.Waiting

/-!
Workers that share a queue with its sweeps. An item that was claimed can be claimed again only after
the timeout and the delay of the queue, so a worker that gets through its batch in this time is
alone with each of its items.
-/

namespace WorkQueue

open Queue

def DutyRequest.hurries : DutyRequest → Bool
  | .call (.readItems _) | .handle _ => true
  | _ => false

def Queue.Call.KeepsTo (w : RecoveryWindows) : Call → Prop
  | .recoverTimedOut _ v _ | .requeue v _ => v = w
  | _ => True

instance (w : RecoveryWindows) : (c : Call) → Decidable (c.KeepsTo w)
  | .recoverTimedOut _ v _ | .requeue v _ => inferInstanceAs (Decidable (v = w))
  | .append _ | .appends _ | .readItems _ | .cancelItems _ | .commit .. | .reject ..
  | .removeExhausted _ | .removeCompleted .. | .removeBroken .. => isTrue trivial

theorem Queue.Call.keepsTo_of_settled {c : Call} {id : ItemId} (h : c.settled = [id])
    (w : RecoveryWindows) : c.KeepsTo w := by
  cases c with
  | recoverTimedOut archives v limit => cases h
  | requeue v limit => cases h
  | _ => trivial

theorem DutyRequest.hurries_of_settled {c : Call} {id : ItemId} (h : c.settled = [id]) :
    (DutyRequest.call c).hurries = false := by
  cases c with
  | readItems limit => cases h
  | _ => rfl

theorem Carries.call {limit : UInt32} {α : Type} {l l' : Load} {c : Call}
    {next : Except QueueError Reply → Duty α}
    (h : Carries limit l (.ask (DutyRequest.call c) next) l') (w : RecoveryWindows) :
    c.KeepsTo w ∧ ∀ id ∈ c.settled, id ∈ l.items := by
  cases h with
  | read _ => exact ⟨trivial, nofun⟩
  | settle hc _ =>
    refine ⟨Call.keepsTo_of_settled hc w, fun id hid => ?_⟩
    rw [hc] at hid
    exact List.mem_append_left _ hid
  | handBack _ => exact ⟨trivial, fun id hid => hid⟩

theorem Carries.eq_of_handle {limit : UInt32} {α : Type} {l l' : Load} {id : ItemId}
    {next : Handling → Duty α} (h : Carries limit l (.ask (DutyRequest.handle id) next) l') :
    ∃ rest, l = ⟨none, id :: rest⟩ := by
  cases h with
  | @handle id rest _ _ _ => exact ⟨rest, rfl⟩

theorem Carries.eq_of_done {limit : UInt32} {α : Type} {l l' : Load} {a : α}
    (h : Carries limit l (.done a) l') : l = l' := by
  cases h
  rfl

namespace Memory

inductive Kept (timeout : Duration) (since : Instant) : Option Row → Prop
  | processing {attempts} (h : attempts ≠ 0) :
    Kept timeout since (some ⟨.processing, attempts, since⟩)
  | retry {attempts time} (h : attempts ≠ 0) (hlate : since.nanos + timeout.nanos < time.nanos) :
    Kept timeout since (some ⟨.retry, attempts, time⟩)

theorem Kept.not_ready {timeout : Duration} {since : Instant} {row : Option Row}
    (h : Kept timeout since row) : row.map (·.status) ≠ some .ready := by
  cases h <;> exact nofun

namespace Backend

variable {S : UnitOfWork → UnitOfWork → Prop} {b : Backend} {id : ItemId} {w : RecoveryWindows}
  {since : Instant}

theorem Sound.kept (h : b.Sound id) (hS : Spares S id) {g : Collaborator S} {c : Call}
    (hc : c.KeepsTo w) (hsettled : id ∉ c.settled)
    (hnow : b.clock.now.nanos ≤ since.nanos + (w.timeout.nanos + w.delay.nanos : Nat))
    (hkept : Kept w.timeout since (b.row? id)) : Kept w.timeout since ((g.run c b).2.row? id) := by
  rcases h.act_edge hS (.call g c) with hsame | ⟨g', c', r, heq, hr, hmoves, hedge⟩
  · exact hsame.symm ▸ hkept
  · cases heq
    change Edge _ _ _ _ ((g.run c b).2.row? id) at hedge
    generalize hrow : b.row? id = row at hkept hedge hmoves
    generalize (g.run c b).2.row? id = row' at hedge
    have houtcome := h.free.outcome_ok hr
    cases hkept with
    | processing hattempts =>
      cases hedge with
      | released => exact absurd hmoves.1 hsettled
      | committed => exact absurd (List.mem_singleton_self id) hsettled
      | rejected _ => exact absurd (List.mem_singleton_self id) hsettled
      | recovered =>
        cases hc
        obtain ⟨row, time, hrow', -, htime, hlt⟩ := houtcome.timedOut hmoves
        cases hrow'.symm.trans hrow
        exact .retry hattempts (lt_of_lt_deadline htime hlt)
    | @retry attempts entered hattempts hlate =>
      cases hedge with
      | discarded => exact absurd rfl hattempts
      | requeued _ =>
        cases hc
        obtain ⟨row, time, hrow', -, htime, hle⟩ := houtcome.requeued hmoves
        cases hrow'.symm.trans hrow
        have hfirst : Instant.first.nanos < entered.nanos := by
          have hlower : Instant.first.nanos ≤ since.nanos := since.lower
          omega
        have hwaited : entered.nanos + w.delay.nanos ≤ b.clock.now.nanos :=
          le_of_first_lt htime hle hfirst
        omega

theorem Sound.handed (h : b.Sound id) (hS : Spares S id) {g : Collaborator S} {limit : UInt32}
    (hmem : id ∈ claimed (g.run (.readItems limit) b).1) (timeout : Duration) :
    b.status? id = some .ready ∧
      Kept timeout b.clock.now ((g.run (.readItems limit) b).2.row? id) := by
  cases hresult : (g.run (.readItems limit) b).1 with
  | error e =>
    rw [hresult] at hmem
    cases hmem
  | ok r =>
    rw [hresult] at hmem
    obtain ⟨row', hrow', hedge⟩ := h.edge hS hresult rfl hmem
    rw [hrow']
    generalize hrow : b.row? id = row at hedge
    cases hedge with
    | appended hmem _ _ => cases hmem
    | claimed =>
      refine ⟨congrArg (Option.map Row.status) hrow, .processing fun hzero => ?_⟩
      exact absurd (h.regular.spent _ hrow hzero) nofun

theorem Free.read_clock (h : b.Free) {g : Collaborator S} {limit : UInt32}
    (hne : claimed (g.run (.readItems limit) b).1 ≠ []) :
    (g.run (.readItems limit) b).2.clock = b.clock := by
  cases hresult : (g.run (.readItems limit) b).1 with
  | error e => exact absurd (by rw [hresult]; rfl) hne
  | ok r =>
    have hfault := (h.outcome_ok hresult).fault?_of_ok
    exact (Collaborator.run_single h hfault rfl (e := .claim limit) rfl rfl rfl).2

theorem Free.read_spec (h : b.Free) (g : Collaborator S) (limit : UInt32) :
    (claimed (g.run (.readItems limit) b).1).length ≤ limit.toNat ∧
      (claimed (g.run (.readItems limit) b).1).Nodup := by
  cases hresult : (g.run (.readItems limit) b).1 with
  | error e => exact ⟨Nat.zero_le _, .nil⟩
  | ok r =>
    have hswept := (h.outcome_ok hresult).swept_read
    change r.items.length ≤ _ ∧ r.items.Nodup
    rw [hswept.taken]
    exact ⟨length_oldest_le _ _, nodup_oldest (nodup_eligible _ _)⟩

/-- Answers a request of a worker that is told `told`, whose calls are `g`'s, and whose handler
calls come to `handling`. -/
def attend (told : Bool) (g : Collaborator S) (handling : Handling) (b : Backend) :
    (r : DutyRequest) → r.Answer × Backend
  | .stopping => (told, b)
  | .call c => g.run c b
  | .handle _ => (handling, b)
  | .note n => ((), b.write (.notice n))

theorem Sound.attend (h : b.Sound id) (hS : Spares S id) {told : Bool} {g : Collaborator S}
    {handling : Handling} (r : DutyRequest) : (b.attend told g handling r).2.Sound id := by
  cases r with
  | call c => exact h.act hS (.call g c)
  | _ => exact ⟨h.free, h.regular⟩

end Backend

/-- Workers of a queue with its settings, and the most that passes in a turn between a claim or a
handler call and the next handler call, or the end of the turn. -/
structure Crew (X : Effects) (n : Nat) where
  config : QueueConfig
  worker : Fin n → Worker X
  readLimit_eq : ∀ i, (worker i).readLimit = config.limits.readItems
  config_eq : ∀ i, (worker i).config = config.worker
  slack : Duration

/-- A worker with what is left of its turn, and the time in nanoseconds by which it goes on with it,
if there is one. -/
structure Member where
  program : Duty Turn
  due : Option Int

def Member.atRest (program : Duty Turn) : Member := ⟨program, none⟩

def Member.handling? (m : Member) : Option ItemId :=
  match m.program with
  | .ask (DutyRequest.handle id) _ => some id
  | _ => none

theorem Member.program_of_handling {m : Member} {id : ItemId} (h : m.handling? = some id) :
    ∃ next, m.program = .ask (DutyRequest.handle id) next := by
  unfold handling? at h
  split at h
  · next hprogram =>
    cases h
    exact ⟨_, hprogram⟩
  · cases h

structure Pool (n : Nat) where
  backend : Backend
  members : Fin n → Member

/-- What can happen to a pool: a worker takes a step, or is gone for good; somebody else makes a
call; time passes. -/
inductive Deed (n : Nat)
  | step (i : Fin n) (told : Bool) (g : Collaborator LeavesRows) (handling : Handling)
  | leave (i : Fin n)
  | visit (g : Collaborator LeavesRows) (c : Call)
  | clock (k : Clock)

namespace Crew

variable {X : Effects} {n : Nat} (crew : Crew X n)

/-- A member that goes on with `program`, after a request that was answered at `now` to one that had
time until `due`. -/
def goOn (now : Instant) (r : DutyRequest) (due : Option Int) (program : Duty Turn) : Member where
  program := program
  due := match program with
    | .done _ => none
    | .ask (DutyRequest.handle _) _ =>
      some (now.nanos + crew.config.worker.handleTimeout.nanos)
    | .ask _ _ => if r.hurries then some (now.nanos + crew.slack.nanos) else due

def start (t : Instant) : Pool n := ⟨.start t, fun i => .atRest (crew.worker i).startDuty⟩

def after (p : Pool n) : Deed n → Pool n
  | .step i told g handling =>
    match (p.members i).program with
    | .done .stop => p
    | .done _ => { p with members := Function.update p.members i (.atRest (crew.worker i).duty) }
    | .ask r next =>
      let (x, b) := p.backend.attend told g handling r
      ⟨b, Function.update p.members i (crew.goOn b.clock.now r (p.members i).due (next x))⟩
  | .leave i => { p with members := Function.update p.members i (.atRest (.done .stop)) }
  | .visit g c => { p with backend := (g.run c p.backend).2 }
  | .clock k => { p with backend := { p.backend with clock := k } }

def run (p : Pool n) (deeds : List (Deed n)) : Pool n := deeds.foldl crew.after p

def Permits : Deed n → Prop
  | .visit _ c => c.settled = [] ∧ c.KeepsTo crew.config.recoveryWindows
  | _ => True

def InTime (p : Pool n) (d : Deed n) : Prop :=
  p.backend.clock.now ≤ (crew.after p d).backend.clock.now ∧
    ∀ i, ∀ due ∈ (p.members i).due, (crew.after p d).backend.clock.now.nanos ≤ due

def Orderly (crew : Crew X n) (p : Pool n) : List (Deed n) → Prop
  | [] => True
  | d :: deeds => crew.Permits d ∧ crew.InTime p d ∧ crew.Orderly (crew.after p d) deeds

instance : (d : Deed n) → Decidable (crew.Permits d)
  | .visit _ c => inferInstanceAs (Decidable (c.settled = [] ∧ _))
  | .step .. | .leave _ | .clock _ => isTrue trivial

instance (p : Pool n) (d : Deed n) : Decidable (crew.InTime p d) :=
  inferInstanceAs (Decidable (_ ∧ ∀ _, ∀ _ ∈ _, _))

instance decidableOrderly : (p : Pool n) → (deeds : List (Deed n)) →
    Decidable (crew.Orderly p deeds)
  | _, [] => isTrue trivial
  | p, d :: deeds =>
    have := decidableOrderly (crew.after p d) deeds
    inferInstanceAs (Decidable (_ ∧ _ ∧ _))

def pace : Nat := crew.config.worker.handleTimeout.nanos + crew.slack.nanos

/-- How long nobody else can claim an item. -/
def reach : Nat := crew.config.retryTimeout.nanos + crew.config.retryDelay.nanos

/-- Whoever claims a batch gets through it while nobody else can claim its items. -/
def KeepsUp : Prop :=
  crew.slack.nanos + crew.config.limits.readItems.toNat * crew.pace ≤ crew.reach

/-- A member holds the items of a load that it claimed at `since`, and is in time with them. -/
structure Holds (b : Backend) (m : Member) (l : Load) (since : Instant) : Prop where
  carries : Carries crew.config.limits.readItems l m.program .none
  nodup : l.items.Nodup
  kept : ∀ id ∈ l.items, Kept crew.config.retryTimeout since (b.row? id)
  timely : l.items ≠ [] → ∃ due, m.due = some due ∧
    due + (l.pending.length * crew.pace : Nat) ≤ since.nanos + crew.reach +
      if m.handling?.isSome then (crew.config.worker.handleTimeout.nanos : Int) else 0

variable {crew} {b : Backend} {m : Member} {l : Load} {since : Instant}

theorem Holds.nothing (b : Backend) (since : Instant)
    (h : Carries crew.config.limits.readItems .none m.program .none) :
    crew.Holds b m .none since :=
  ⟨h, .nil, nofun, fun hne => absurd rfl hne⟩

theorem Holds.pending_of_handling (h : crew.Holds b m l since) {id : ItemId}
    (hid : m.handling? = some id) : ∃ rest, l = ⟨none, id :: rest⟩ := by
  obtain ⟨next, hprogram⟩ := Member.program_of_handling hid
  have hcarries := h.carries
  rw [hprogram] at hcarries
  exact hcarries.eq_of_handle

theorem Holds.now_le (h : crew.Holds b m l since) (hdue : ∀ due ∈ m.due, b.clock.now.nanos ≤ due)
    (hne : l.items ≠ []) : b.clock.now.nanos ≤ since.nanos + crew.reach := by
  obtain ⟨due, hdue', hle⟩ := h.timely hne
  have hnow : b.clock.now.nanos ≤ due := hdue due hdue'
  cases hhandling : m.handling? with
  | none =>
    simp only [hhandling, Option.isSome_none, Bool.false_eq_true, if_false] at hle
    omega
  | some id =>
    obtain ⟨rest, rfl⟩ := h.pending_of_handling hhandling
    simp only [hhandling, Option.isSome_some, if_true, List.length_cons, Nat.succ_mul, pace] at hle
    omega

theorem Holds.bystand (h : crew.Holds b m l since) (hsound : ∀ id, b.Sound id)
    (hdue : ∀ due ∈ m.due, b.clock.now.nanos ≤ due) {g : Collaborator LeavesRows} {c : Call}
    (hc : c.KeepsTo crew.config.recoveryWindows) (hsettled : ∀ id ∈ l.items, id ∉ c.settled) :
    crew.Holds (g.run c b).2 m l since :=
  { h with
    kept := fun id hid => (hsound id).kept (spares_rows id) hc (hsettled id hid)
      (h.now_le hdue (List.ne_nil_of_mem hid)) (h.kept id hid) }

theorem Holds.attended (h : crew.Holds b m l since) (hsound : ∀ id, b.Sound id)
    (hdue : ∀ due ∈ m.due, b.clock.now.nanos ≤ due) {told : Bool} {g : Collaborator LeavesRows}
    {handling : Handling} {r : DutyRequest} (hcall : ∀ c, r = .call c →
      c.KeepsTo crew.config.recoveryWindows ∧ ∀ id ∈ l.items, id ∉ c.settled) :
    crew.Holds (b.attend told g handling r).2 m l since := by
  cases r with
  | call c =>
    obtain ⟨hc, hsettled⟩ := hcall c rfl
    exact h.bystand hsound hdue hc hsettled
  | _ => exact ⟨h.carries, h.nodup, h.kept, h.timely⟩

theorem goOn_holds {now : Instant} {r : DutyRequest} {due : Option Int} {program : Duty Turn}
    (hcarries : Carries crew.config.limits.readItems l program .none) (hnodup : l.items.Nodup)
    (hkept : ∀ id ∈ l.items, Kept crew.config.retryTimeout since (b.row? id))
    (hbase : l.items ≠ [] → ∃ base,
      (if r.hurries then some (now.nanos + crew.slack.nanos) else due) = some base ∧
      now.nanos ≤ base ∧
      base + (l.pending.length * crew.pace : Nat) ≤ since.nanos + crew.reach) :
    crew.Holds b (crew.goOn now r due program) l since := by
  refine ⟨hcarries, hnodup, hkept, fun hne => ?_⟩
  obtain ⟨base, hsome, hnow, hle⟩ := hbase hne
  cases program with
  | done a =>
    rw [hcarries.eq_of_done] at hne
    exact absurd rfl hne
  | ask r' next =>
    cases r' with
    | handle id =>
      refine ⟨_, rfl, ?_⟩
      simp only [goOn, Member.handling?, Option.isSome_some, if_true]
      omega
    | _ => exact ⟨base, hsome, by simpa [goOn, Member.handling?] using hle⟩

theorem Holds.timely_of_call (h : crew.Holds b m l since) (hhandling : m.handling? = none)
    (hne : l.items ≠ []) : ∃ due, m.due = some due ∧
      due + (l.pending.length * crew.pace : Nat) ≤ since.nanos + crew.reach := by
  simpa [hhandling] using h.timely hne

theorem goOn_read (hkeepsUp : crew.KeepsUp) (hsound : ∀ id, b.Sound id)
    (g : Collaborator LeavesRows) {due : Option Int}
    {next : Except QueueError Reply → Duty Turn} (hnext : ∀ result,
      Carries crew.config.limits.readItems ⟨none, claimed result⟩ (next result) .none) :
    let read := g.run (.readItems crew.config.limits.readItems) b
    crew.Holds read.2 (crew.goOn read.2.clock.now (.call (.readItems crew.config.limits.readItems))
        due (next read.1)) ⟨none, claimed read.1⟩ b.clock.now ∧
      ∀ id ∈ claimed read.1, b.status? id = some .ready := by
  intro read
  have hfree := (hsound ⟨0⟩).free
  obtain ⟨hlength, hnodup⟩ := hfree.read_spec g crew.config.limits.readItems
  have hhanded (id : ItemId) (hid : id ∈ claimed read.1) :=
    (hsound id).handed (spares_rows id) hid crew.config.retryTimeout
  refine ⟨goOn_holds (hnext _) hnodup (fun id hid => (hhanded id hid).2) fun hne => ?_,
    fun id hid => (hhanded id hid).1⟩
  have hclock : read.2.clock = b.clock := hfree.read_clock hne
  have hbatch : (claimed read.1).length * crew.pace ≤
    crew.config.limits.readItems.toNat * crew.pace := Nat.mul_le_mul_right crew.pace hlength
  unfold KeepsUp at hkeepsUp
  refine ⟨_, rfl, by omega, ?_⟩
  rw [hclock]
  dsimp only
  omega

theorem Holds.goOn_handled {id : ItemId} {rest : List ItemId} {next : Handling → Duty Turn}
    (h : crew.Holds b m ⟨none, id :: rest⟩ since) (hid : m.handling? = some id)
    (hdue : ∀ due ∈ m.due, b.clock.now.nanos ≤ due) {handling : Handling}
    (hnext : Carries crew.config.limits.readItems ⟨some id, rest⟩ (next handling) .none) :
    crew.Holds b (crew.goOn b.clock.now (.handle id) m.due (next handling)) ⟨some id, rest⟩
      since := by
  refine goOn_holds hnext h.nodup h.kept fun hne => ?_
  obtain ⟨due, hsome, hle⟩ := h.timely hne
  have hleft : b.clock.now.nanos ≤ due := hdue due hsome
  have hpace : crew.pace = crew.config.worker.handleTimeout.nanos + crew.slack.nanos := rfl
  simp only [hid, Option.isSome_some, if_true, List.length_cons, Nat.succ_mul] at hle
  refine ⟨_, rfl, by omega, ?_⟩
  dsimp only
  omega

theorem Holds.step (h : crew.Holds b m l since) (hkeepsUp : crew.KeepsUp)
    (hsound : ∀ id, b.Sound id) {told : Bool} {g : Collaborator LeavesRows} {handling : Handling}
    {r : DutyRequest} {next : r.Answer → Duty Turn} (hprogram : m.program = .ask r next)
    (hlater : b.clock.now ≤ (b.attend told g handling r).2.clock.now)
    (hdue : ∀ due ∈ m.due, (b.attend told g handling r).2.clock.now.nanos ≤ due) :
    ∃ l' since', crew.Holds (b.attend told g handling r).2
        (crew.goOn (b.attend told g handling r).2.clock.now r m.due
          (next (b.attend told g handling r).1)) l' since' ∧
      ∀ id ∈ l'.items, id ∈ l.items ∨ b.status? id = some .ready := by
  have hcarries := h.carries
  have hhandling : m.handling? = Member.handling? ⟨.ask r next, m.due⟩ := by
    rw [Member.handling?, hprogram]
    rfl
  rw [hprogram] at hcarries
  cases hcarries with
  | stopping hnext =>
    refine ⟨l, since, goOn_holds (hnext told) h.nodup h.kept fun hne => ?_, fun id => .inl⟩
    obtain ⟨due, hsome, hle⟩ := h.timely_of_call hhandling hne
    exact ⟨due, hsome, hdue due hsome, hle⟩
  | note hnext =>
    refine ⟨l, since, goOn_holds hnext h.nodup h.kept fun hne => ?_, fun id => .inl⟩
    obtain ⟨due, hsome, hle⟩ := h.timely_of_call hhandling hne
    exact ⟨due, hsome, hdue due hsome, hle⟩
  | read hnext =>
    obtain ⟨hholds, hready⟩ := goOn_read hkeepsUp hsound g hnext
    exact ⟨_, _, hholds, fun id hid => .inr (hready id hid)⟩
  | handle hnext =>
    exact ⟨_, since, h.goOn_handled hhandling hdue (hnext handling), fun id => .inl⟩
  | @settle id rest c _ _ hc hnext =>
    obtain ⟨hmem, hnodup⟩ : id ∉ rest ∧ rest.Nodup := List.nodup_cons.1 h.nodup
    have hnow : b.clock.now.nanos ≤ since.nanos + crew.reach :=
      h.now_le (fun due hd => le_trans hlater (hdue due hd)) (List.cons_ne_nil _ _)
    refine ⟨⟨none, rest⟩, since, goOn_holds (hnext _) hnodup (fun k hk => ?_) fun _ => ?_,
      fun k hk => .inl (List.mem_cons_of_mem id hk)⟩
    · have hother : k ∉ c.settled := by
        rw [hc]
        exact fun hid => hmem (List.mem_singleton.1 hid ▸ hk)
      exact (hsound k).kept (spares_rows k) (w := crew.config.recoveryWindows)
        (Call.keepsTo_of_settled hc _) hother hnow (h.kept k (List.mem_cons_of_mem id hk))
    · obtain ⟨due, hsome, hle⟩ := h.timely_of_call hhandling (List.cons_ne_nil _ _)
      rw [DutyRequest.hurries_of_settled hc]
      exact ⟨due, hsome, hdue due hsome, hle⟩
  | handBack hnext =>
    exact ⟨.none, since, .nothing _ _ (hnext _), nofun⟩

structure Safe (crew : Crew X n) (p : Pool n) (load : Fin n → Load) (since : Fin n → Instant) :
    Prop where
  sound : ∀ id, p.backend.Sound id
  holds : ∀ i, crew.Holds p.backend (p.members i) (load i) (since i)
  apart : ∀ i j, i ≠ j → (load i).items.Disjoint (load j).items
  inTime : ∀ i, ∀ due ∈ (p.members i).due, p.backend.clock.now.nanos ≤ due

variable {p : Pool n} {load : Fin n → Load} {times : Fin n → Instant}

theorem Safe.start (crew : Crew X n) (t : Instant) :
    crew.Safe (crew.start t) (fun _ => .none) (fun _ => t) where
  sound id := .start t id
  holds i := .nothing _ _ (crew.readLimit_eq i ▸ (crew.worker i).carries_startDuty)
  apart _ _ _ := List.disjoint_nil_left _
  inTime _ := nofun

theorem Safe.update (h : crew.Safe p load times) {i : Fin n} (hsound : ∀ id, b.Sound id)
    (hothers : ∀ j, j ≠ i → crew.Holds b (p.members j) (load j) (times j))
    (hmember : crew.Holds b m l since) (hapart : ∀ j, j ≠ i → l.items.Disjoint (load j).items)
    (hinTime : ∀ j, j ≠ i → ∀ due ∈ (p.members j).due, b.clock.now.nanos ≤ due)
    (hdue : ∀ due ∈ m.due, b.clock.now.nanos ≤ due) :
    crew.Safe ⟨b, Function.update p.members i m⟩ (Function.update load i l)
      (Function.update times i since) where
  sound := hsound
  holds j := by
    by_cases hj : j = i
    · subst hj
      simpa using hmember
    · simpa [hj] using hothers j hj
  apart j k hjk := by
    by_cases hj : j = i
    · subst hj
      simpa [hjk.symm] using hapart k hjk.symm
    · by_cases hk : k = i
      · subst hk
        simpa [hj] using (hapart j hj).symm
      · simpa [hj, hk] using h.apart j k hjk
  inTime j := by
    by_cases hj : j = i
    · subst hj
      simpa using hdue
    · simpa [hj] using hinTime j hj

theorem goOn_inTime {now : Instant} {r : DutyRequest} {due : Option Int} {program : Duty Turn}
    (h : ∀ d ∈ due, now.nanos ≤ d) : ∀ d ∈ (crew.goOn now r due program).due, now.nanos ≤ d := by
  intro d hd
  simp only [goOn] at hd
  split at hd
  · cases hd
  · cases hd
    omega
  · split at hd
    · cases hd
      omega
    · exact h d hd

theorem Safe.step (h : crew.Safe p load times) (hkeepsUp : crew.KeepsUp) {i : Fin n} {told : Bool}
    {g : Collaborator LeavesRows} {handling : Handling}
    (htime : crew.InTime p (.step i told g handling)) :
    ∃ load times, crew.Safe (crew.after p (.step i told g handling)) load times := by
  have hcarries := (h.holds i).carries
  cases hprogram : (p.members i).program with
  | done turn =>
    rw [hprogram] at hcarries
    by_cases hturn : turn = .stop
    · have hafter : crew.after p (.step i told g handling) = p := by
        simp only [after, hprogram, hturn]
      exact ⟨load, times, hafter.symm ▸ h⟩
    · -- A new turn begins with nothing in its hands, as the last one ended.
      have hafter : crew.after p (.step i told g handling) =
          ⟨p.backend, Function.update p.members i (.atRest (crew.worker i).duty)⟩ := by
        simp only [after, hprogram]
      have hduty : Carries crew.config.limits.readItems .none (crew.worker i).duty .none :=
        crew.readLimit_eq i ▸ (crew.worker i).carries_duty
      rw [hafter]
      exact ⟨_, _, h.update h.sound (fun j _ => h.holds j) (.nothing _ (times i) hduty)
        (fun _ _ => List.disjoint_nil_left _) (fun j _ => h.inTime j) nofun⟩
  | ask r next =>
    have hafter : crew.after p (.step i told g handling) =
        ⟨(p.backend.attend told g handling r).2, Function.update p.members i
          (crew.goOn (p.backend.attend told g handling r).2.clock.now r (p.members i).due
            (next (p.backend.attend told g handling r).1))⟩ := by
      simp only [after, hprogram]
    rw [InTime, hafter] at htime
    obtain ⟨hlater, hdue⟩ := htime
    rw [hafter]
    obtain ⟨l', since', hmember, hfrom⟩ :=
      (h.holds i).step hkeepsUp h.sound hprogram hlater (hdue i)
    rw [hprogram] at hcarries
    refine ⟨_, _, h.update (fun id => (h.sound id).attend (spares_rows id) r) (fun j hj => ?_)
      hmember (fun j hj id hid hid' => ?_) (fun j _ => hdue j) (goOn_inTime (hdue i))⟩
    · refine (h.holds j).attended h.sound (h.inTime j) fun c hc => ?_
      subst hc
      obtain ⟨hkeeps, hown⟩ := hcarries.call crew.config.recoveryWindows
      exact ⟨hkeeps, fun id hid hsettled => h.apart i j hj.symm (hown id hsettled) hid⟩
    · rcases hfrom id hid with hheld | hready
      · exact h.apart i j hj.symm hheld hid'
      · exact ((h.holds j).kept id hid').not_ready hready

theorem Safe.after (h : crew.Safe p load times) (hkeepsUp : crew.KeepsUp) {d : Deed n}
    (hpermits : crew.Permits d) (htime : crew.InTime p d) :
    ∃ load times, crew.Safe (crew.after p d) load times := by
  cases d with
  | step i told g handling => exact h.step hkeepsUp htime
  | leave i =>
    exact ⟨_, _, h.update h.sound (fun j _ => h.holds j) (.nothing _ (times i) .done)
      (fun _ _ => List.disjoint_nil_left _) (fun j _ => h.inTime j) nofun⟩
  | visit g c =>
    obtain ⟨hsettled, hc⟩ := hpermits
    refine ⟨load, times, fun id => (h.sound id).act (spares_rows id) (.call g c), fun i => ?_,
      h.apart, htime.2⟩
    exact (h.holds i).bystand h.sound (h.inTime i) hc fun id _ => hsettled ▸ List.not_mem_nil
  | clock k =>
    exact ⟨load, times, fun id => (h.sound id).act (spares_rows id) (.clock k), fun i =>
      ⟨(h.holds i).carries, (h.holds i).nodup, (h.holds i).kept, (h.holds i).timely⟩, h.apart,
      htime.2⟩

theorem Safe.run (h : crew.Safe p load times) (hkeepsUp : crew.KeepsUp) {deeds : List (Deed n)}
    (horderly : crew.Orderly p deeds) :
    ∃ load times, crew.Safe (crew.run p deeds) load times := by
  induction deeds generalizing p load times with
  | nil => exact ⟨load, times, h⟩
  | cons d deeds ih =>
    obtain ⟨hpermits, htime, hrest⟩ := horderly
    obtain ⟨load', times', h'⟩ := h.after hkeepsUp hpermits htime
    exact ih h' hrest

theorem Safe.alone (h : crew.Safe p load times) {i j : Fin n} {id : ItemId}
    (hi : (p.members i).handling? = some id) (hj : (p.members j).handling? = some id) : i = j := by
  by_contra hne
  obtain ⟨rest, hload⟩ := (h.holds i).pending_of_handling hi
  obtain ⟨rest', hload'⟩ := (h.holds j).pending_of_handling hj
  have hid : id ∈ (load i).items := by simp [hload, Load.items]
  have hid' : id ∈ (load j).items := by simp [hload', Load.items]
  exact h.apart i j hne hid hid'

def plain (config : QueueConfig) (slack : Duration) (n : Nat) : Crew hookCall n where
  config := config
  worker i := {
    index := i
    archives := ⟨true, true⟩
    readLimit := config.limits.readItems
    config := config.worker
    handler := ⟨fun _ => .done .succeeded, fun _ => .done (.ok ())⟩
    stopping := .done false }
  readLimit_eq _ := rfl
  config_eq _ := rfl
  slack := slack

end Crew

/-- Workers that get through their batches within the timeout and the delay of the queue are never
two inside their handlers for one item, whatever the sweeps do in between. -/
theorem handlers_exclusive {X : Effects} {n : Nat} (crew : Crew X n)
    (hbudget : crew.slack.nanos + crew.config.limits.readItems.toNat *
        (crew.config.worker.handleTimeout.nanos + crew.slack.nanos) ≤
      crew.config.retryTimeout.nanos + crew.config.retryDelay.nanos)
    (t : Instant) (deeds : List (Deed n)) (horderly : crew.Orderly (crew.start t) deeds) :
    (∀ i, (crew.worker i).startDuty.mapRequests (crew.worker i).expand = (crew.worker i).start ∧
      (crew.worker i).duty.mapRequests (crew.worker i).expand = (crew.worker i).turn) ∧
    ∀ i j id, ((crew.run (crew.start t) deeds).members i).handling? = some id →
      ((crew.run (crew.start t) deeds).members j).handling? = some id → i = j := by
  obtain ⟨load, times, hsafe⟩ := (Crew.Safe.start crew t).run hbudget horderly
  refine ⟨fun i => ⟨(crew.worker i).start_eq, (crew.worker i).turn_eq⟩, fun i j id hi hj => ?_⟩
  exact hsafe.alone hi hj

/-- A worker inside its handler, and another one that has just found nothing to claim. -/
theorem handlers_exclusive_second :
    let config : QueueConfig := { QueueConfig.default with
      limits := { BatchLimits.default with readItems := 5 } }
    let crew := Crew.plain config (.ofSeconds 20) 2
    let second : Int := 1000000000
    let wait (s : Int) : Deed 2 := .clock (.start (.clamp (s * second)))
    let visit (c : Call) : Deed 2 := .visit (.plain _) c
    let go (i : Fin 2) : Deed 2 := .step i false (.plain _) .succeeded
    let deeds := [visit (.append ⟨⟨1⟩, .zero, 3⟩), go 0, go 0, go 0, wait 20, go 0, wait 80,
      visit (.recoverTimedOut ⟨true, true⟩ config.recoveryWindows 10),
      visit (.requeue config.recoveryWindows 10), go 1, go 1, go 1]
    let pool := crew.run (crew.start (.clamp 0)) deeds
    crew.slack.nanos + config.limits.readItems.toNat *
        (config.worker.handleTimeout.nanos + crew.slack.nanos) ≤
      config.retryTimeout.nanos + config.retryDelay.nanos ∧
    crew.Orderly (crew.start (.clamp 0)) deeds ∧ (pool.members 0).handling? = some ⟨1⟩ ∧
      ∀ j, (pool.members j).handling? = some ⟨1⟩ → 0 = j := by
  intro config crew second wait visit go deeds pool
  have hbudget : crew.slack.nanos + config.limits.readItems.toNat *
      (config.worker.handleTimeout.nanos + crew.slack.nanos) ≤
        config.retryTimeout.nanos + config.retryDelay.nanos := by
    decide +kernel
  have horderly : crew.Orderly (crew.start (.clamp 0)) deeds := by decide +kernel
  have hinside : (pool.members 0).handling? = some ⟨1⟩ := by decide +kernel
  have hexclusive := handlers_exclusive crew hbudget (.clamp 0) deeds horderly
  exact ⟨hbudget, horderly, hinside, fun j hj => hexclusive.2 0 j ⟨1⟩ hinside hj⟩

/-- An accepted configuration under which two workers are inside their handlers for one item: its
handler calls may take longer than the timeout and the delay together. -/
theorem handlers_overlap :
    let config : QueueConfig := { QueueConfig.default with
      retryTimeout := .ofSeconds 30
      retryDelay := .ofSeconds 20
      limits := { BatchLimits.default with readItems := 1 } }
    let crew := Crew.plain config .zero 2
    let second : Int := 1000000000
    let wait (s : Int) : Deed 2 := .clock (.start (.clamp (s * second)))
    let visit (c : Call) : Deed 2 := .visit (.plain _) c
    let go (i : Fin 2) : Deed 2 := .step i false (.plain _) .succeeded
    let deeds := [visit (.append ⟨⟨1⟩, .zero, 3⟩), go 0, go 0, go 0, go 0, wait 31,
      visit (.recoverTimedOut ⟨true, true⟩ config.recoveryWindows 10), wait 51,
      visit (.requeue config.recoveryWindows 10), go 1, go 1, go 1, go 1]
    let pool := crew.run (crew.start (.clamp 0)) deeds
    config.validate = .ok () ∧ crew.Orderly (crew.start (.clamp 0)) deeds ∧
      (pool.members 0).handling? = some ⟨1⟩ ∧ (pool.members 1).handling? = some ⟨1⟩ := by
  decide +kernel

end Memory

end WorkQueue
