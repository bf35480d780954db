import WorkQueue.Proofs.Purge
import WorkQueue.Proofs.Timeliness

namespace WorkQueue.Memory

open Queue

variable {S : UnitOfWork → UnitOfWork → Prop}

abbrev LeavesFailures := Leaves Tables.broken

def noted (id : ItemId) (now : Instant) (r : Reply) : Call → List FailureEntry
  | .reject _ key cause => if key = id then [⟨cause, now⟩] else []
  | .recoverTimedOut .. => if id ∈ r.items then [⟨timeoutCause, now⟩] else []
  | _ => []

def Removes (id : ItemId) (r : Reply) : Call → Prop
  | .removeBroken .. => id ∈ r.items
  | _ => False

def stored : List FailureEntry → Option (List FailureEntry)
  | [] => none
  | e :: entries => some (e :: entries)

@[simp] theorem getD_stored (l : List FailureEntry) : (stored l).getD [] = l := by
  cases l <;> rfl

theorem stored_ne_nil (l : List FailureEntry) : stored l ≠ some [] := by
  cases l <;> exact nofun

theorem stored_concat (l : List FailureEntry) (e : FailureEntry) :
    stored (l ++ [e]) = some (l ++ [e]) := by
  cases l <;> rfl

section Archive

variable {u v : UnitOfWork} {c : Call} {r : Reply} {id : ItemId} {l : List FailureEntry}

theorem Tables.failures_eq {t : Tables} (h : t.broken.get? id = stored l) : t.failures id = l := by
  rw [failures, h, getD_stored]

theorem UnitOfWork.get?_recordFailures {rows : List Failure}
    (h : u.tables.broken.get? id = stored l) :
    (u.recordFailures rows).tables.broken.get? id =
      stored (l ++ (rows.filter (·.id = id)).map fun row => ⟨row.error, u.now⟩) := by
  induction rows generalizing u l with
  | nil => rw [List.filter_nil, List.map_nil, List.append_nil, ← h]; rfl
  | cons row rows ih =>
    by_cases hid : row.id = id
    · have hpushed : (u.pushBroken row.id ⟨row.error, u.now⟩).tables.broken.get? id =
          stored (l ++ [⟨row.error, u.now⟩]) := by
        rw [stored_concat, ← Tables.failures_eq h]
        simp [pushBroken, hid]
      refine (ih hpushed).trans ?_
      simp [hid, pushBroken]
    · have hkept : (u.pushBroken row.id ⟨row.error, u.now⟩).tables.broken.get? id = stored l := by
        rw [← h]
        simp [pushBroken, Ne.symm hid]
      refine (ih hkept).trans ?_
      simp [hid, pushBroken]

theorem UnitOfWork.get?_foldl_removeBroken (u : UnitOfWork) (ids : List ItemId) (k : ItemId) :
    (ids.foldl removeBroken u).tables.broken.get? k =
      if k ∈ ids then none else u.tables.broken.get? k := by
  induction ids generalizing u with
  | nil => rfl
  | cons id ids ih =>
    rw [List.foldl_cons, ih]
    by_cases hk : k = id <;> simp [removeBroken, hk]

theorem filter_timedOut {ids : List ItemId} (h : ids.Nodup) (id : ItemId) :
    (ids.map fun k => Failure.mk k timeoutCause).filter (·.id = id) =
      if id ∈ ids then [⟨id, timeoutCause⟩] else [] := by
  induction ids with
  | nil => rfl
  | cons k ids ih =>
    obtain ⟨hk, hids⟩ := List.nodup_cons.1 h
    rw [List.map_cons, List.filter_cons, ih hids]
    by_cases hid : k = id
    · subst hid
      simp [hk]
    · simp [hid, Ne.symm hid]

theorem Works.nodup_recovered {archives : Archives} {w : RecoveryWindows} {limit : UInt32}
    (h : Works u (.recoverTimedOut archives w limit) r v) : r.items.Nodup := by
  cases h with
  | recoverTimedOut h hv =>
    obtain ⟨-, time, -, rfl⟩ := UnitOfWork.recover_ok h
    exact nodup_oldest (nodup_eligible _ _)

theorem Works.cleared (h : Works u c r v) (hr : Removes id r c) :
    v.tables.broken.get? id = none := by
  cases h with
  | removeBroken h =>
    rw [UnitOfWork.expireBroken_ok h, UnitOfWork.get?_foldl_removeBroken]
    exact if_pos hr
  | _ => exact hr.elim

theorem Works.noted {completed : Bool} (h : Works u c r v) (hmade : c.on ⟨completed, true⟩ = c)
    (hkept : ¬Removes id r c) (hu : u.tables.broken.get? id = stored l) :
    v.tables.broken.get? id = stored (l ++ noted id u.now r c) := by
  have hworks := h
  cases h with
  | @reject archives key cause _ hv =>
    cases hmade
    have hnow : (u.demote key).2.now = u.now := u.perform_now (.demote key)
    have hbroken : (u.demote key).2.tables.broken.get? id = stored l := by rw [u.demote_broken, hu]
    rw [hv, if_pos rfl, UnitOfWork.get?_recordFailures hbroken, hnow]
    by_cases hid : key = id <;> simp [Memory.noted, hid]
  | @recoverTimedOut archives w limit ids v' _ h hv =>
    cases hmade
    have hmoved := (UnitOfWork.recover_ok h).1
    have hnow : v'.now = u.now := by rw [hmoved, u.transitionAll_now]
    have hbroken : v'.tables.broken.get? id = stored l := by
      rw [hmoved, u.transitionAll_broken, hu]
    have hnodup : ids.Nodup := hworks.nodup_recovered
    -- Where nothing is recovered, nothing is recorded either way.
    have hrecorded : v = v'.recordFailures (ids.map fun id => ⟨id, timeoutCause⟩) := by
      cases ids <;> exact hv
    rw [hrecorded, UnitOfWork.get?_recordFailures hbroken, filter_timedOut hnodup, hnow]
    by_cases hid : id ∈ ids <;> simp [Memory.noted, Reply.items, hid]
  | @removeBroken archives retention limit ids _ h =>
    have hout : id ∉ ids := hkept
    rw [UnitOfWork.expireBroken_ok h, UnitOfWork.get?_foldl_removeBroken, if_neg hout, hu]
    simp [Memory.noted]
  | _ =>
    rw [hworks.broken_eq rfl, hu]
    simp [Memory.noted]

end Archive

section Outcome

variable {now : Instant} {t t' : Tables} {c : Call} {r : Reply} {events : List Event} {id : ItemId}
  {l : List FailureEntry}

theorem noted_of_isIdle {completed : Bool} (now : Instant) (h : c.isIdle = true)
    (hmade : c.on ⟨completed, true⟩ = c) :
    ¬Removes id r c ∧ noted id now r c = [] := by
  cases c with
  | reject => cases h
  | recoverTimedOut => cases h
  | removeBroken =>
    cases hmade
    cases h
  | _ => exact ⟨not_false, rfl⟩

theorem leaves_failures (u v : UnitOfWork) (h : LeavesFailures u v) : LeavesFailures u v := h

theorem Outcome.cleared {completed : Bool} (h : Outcome LeavesFailures now t c (.ok r) events t')
    (hmade : c.on ⟨completed, true⟩ = c) (hr : Removes id r c) : t'.broken.get? id = none := by
  cases h with
  | spared _ hidle => exact absurd hr (noted_of_isIdle now hidle hmade).1
  | worked _ _ works after =>
    rw [show _ = _ from (after.leaves leaves_failures).same]
    exact works.cleared hr

theorem Outcome.noted {completed : Bool} (h : Outcome LeavesFailures now t c (.ok r) events t')
    (hmade : c.on ⟨completed, true⟩ = c) (hkept : ¬Removes id r c)
    (ht : t.broken.get? id = stored l) : t'.broken.get? id = stored (l ++ noted id now r c) := by
  cases h with
  | spared _ hidle =>
    rw [(noted_of_isIdle now hidle hmade).2, List.append_nil]
    exact ht
  | worked _ before works after =>
    have hbefore := before.leaves leaves_failures
    rw [show _ = _ from (after.leaves leaves_failures).same, ← show _ = now from hbefore.now]
    apply works.noted hmade hkept
    rw [show _ = t.broken from hbefore.same]
    exact ht

end Outcome

def Act.MadeOn (archives : Archives) : Act S → Prop
  | .call _ c => c.on archives = c
  | .clock _ => True

instance Act.MadeOn.decidable (archives : Archives) : (a : Act S) → Decidable (a.MadeOn archives)
  | .call _ c => inferInstanceAs (Decidable (c.on archives = c))
  | .clock _ => inferInstanceAs (Decidable True)

namespace Backend

def notes (b : Backend) (id : ItemId) : Act S → List FailureEntry
  | .call g c =>
    match (g.run c b).1 with
    | .ok r => noted id b.clock.now r c
    | .error _ => []
  | .clock _ => []

def Clears (b : Backend) (id : ItemId) : Act S → Prop
  | .call g c => ∃ r, (g.run c b).1 = .ok r ∧ Removes id r c
  | .clock _ => False

def trail (b : Backend) (id : ItemId) : List (Act S) → List FailureEntry
  | [] => []
  | a :: acts => b.notes id a ++ (b.act a).trail id acts

def Uncleared (b : Backend) (id : ItemId) (acts : List (Act S)) : Prop :=
  ∀ x a y, acts = x ++ a :: y → ¬(b.play x).Clears id a

/-- What came in a run from `b` since the entries of `id` were last removed, with the state that it
began in. -/
inductive SinceCleared (b : Backend) (id : ItemId) : List (Act S) → Backend → List (Act S) → Prop
  | never {acts} (h : b.Uncleared id acts) : SinceCleared b id acts b acts
  | cleared {x a since} (hclears : (b.play x).Clears id a)
    (h : ((b.play x).act a).Uncleared id since) :
    SinceCleared b id (x ++ a :: since) ((b.play x).act a) since

section Trail

variable {b : Backend} {id : ItemId} {a : Act S} {acts : List (Act S)}

theorem Uncleared.cons (ha : ¬b.Clears id a) (h : (b.act a).Uncleared id acts) :
    b.Uncleared id (a :: acts) := by
  intro x a' y hsplit
  cases x with
  | nil =>
    cases hsplit
    exact ha
  | cons first x =>
    cases hsplit
    exact h x a' y rfl

theorem Uncleared.tail (h : b.Uncleared id (a :: acts)) : (b.act a).Uncleared id acts :=
  fun x a' y hsplit => h (a :: x) a' y (congrArg (a :: ·) hsplit)

theorem exists_sinceCleared (b : Backend) (id : ItemId) (acts : List (Act S)) :
    ∃ b' since, b.SinceCleared id acts b' since := by
  induction acts generalizing b with
  | nil => exact ⟨b, [], .never fun x a y hsplit => by simp at hsplit⟩
  | cons a acts ih =>
    obtain ⟨b', since, h⟩ := ih (b.act a)
    cases h with
    | cleared hclears h => exact ⟨_, _, .cleared (x := a :: _) hclears h⟩
    | never h =>
      by_cases ha : b.Clears id a
      · exact ⟨_, _, .cleared (x := []) ha h⟩
      · exact ⟨_, _, .never (h.cons ha)⟩

end Trail

section Run

variable {b : Backend} {id : ItemId} {a : Act LeavesFailures} {acts : List (Act LeavesFailures)}
  {completed : Bool} {l : List FailureEntry}

theorem Free.noted_act (h : b.Free) (hmade : a.MadeOn ⟨completed, true⟩)
    (hkept : ¬b.Clears id a) (hb : b.tables.broken.get? id = stored l) :
    (b.act a).tables.broken.get? id = stored (l ++ b.notes id a) := by
  cases a with
  | clock k => exact hb.trans (congrArg stored (List.append_nil l).symm)
  | call g c =>
    simp only [notes]
    cases hresult : (g.run c b).1 with
    | error e =>
      rw [List.append_nil]
      exact (congrArg (·.broken.get? id) (h.outcome_error hresult).2).trans hb
    | ok r =>
      exact (h.outcome_ok hresult).noted hmade (fun hr => hkept ⟨r, hresult, hr⟩) hb

theorem Free.cleared_act (h : b.Free) (hmade : a.MadeOn ⟨completed, true⟩)
    (hclears : b.Clears id a) : (b.act a).tables.broken.get? id = none := by
  cases a with
  | clock k => exact hclears.elim
  | call g c =>
    obtain ⟨r, hresult, hr⟩ := hclears
    exact (h.outcome_ok hresult).cleared hmade hr

theorem Free.noted_play (h : b.Free) (hmade : ∀ a ∈ acts, a.MadeOn ⟨completed, true⟩)
    (hun : b.Uncleared id acts) (hb : b.tables.broken.get? id = stored l) :
    (b.play acts).tables.broken.get? id = stored (l ++ b.trail id acts) := by
  induction acts generalizing b l with
  | nil => rw [trail, List.append_nil]; exact hb
  | cons a acts ih =>
    obtain ⟨ha, hacts⟩ := List.forall_mem_cons.1 hmade
    rw [trail, ← List.append_assoc]
    exact ih (h.act a) hacts hun.tail (h.noted_act ha (hun [] a acts rfl) hb)

theorem SinceCleared.stored {b' : Backend} {since : List (Act LeavesFailures)}
    (hsince : b.SinceCleared id acts b' since) (h : b.Free)
    (hmade : ∀ a ∈ acts, a.MadeOn ⟨completed, true⟩) (hb : b.tables.broken.get? id = none) :
    (b.play acts).tables.broken.get? id = stored (b'.trail id since) := by
  cases hsince with
  | never hun => exact h.noted_play (l := []) hmade hun hb
  | @cleared x a since hclears hun =>
    obtain ⟨ha, hrest⟩ := List.forall_mem_cons.1 (List.forall_mem_append.1 hmade).2
    rw [play_append, play_cons]
    exact ((h.play x).act a).noted_play (l := []) hrest hun ((h.play x).cleared_act ha hclears)

end Run

section Order

variable {b : Backend} {id : ItemId} {a : Act S} {acts : List (Act S)}

theorem time_of_mem_notes {e : FailureEntry} (h : e ∈ b.notes id a) : e.time = b.clock.now := by
  cases a with
  | clock k => cases h
  | call g c =>
    simp only [notes] at h
    split at h
    · next r _ =>
      cases c with
      | reject archives key cause =>
        simp only [noted] at h
        split at h
        · rw [List.mem_singleton.1 h]
        · cases h
      | recoverTimedOut archives w limit =>
        simp only [noted] at h
        split at h
        · rw [List.mem_singleton.1 h]
        · cases h
      | _ => cases h
    · cases h

theorem length_notes_le (b : Backend) (id : ItemId) (a : Act S) : (b.notes id a).length ≤ 1 := by
  cases a with
  | clock k => exact Nat.zero_le 1
  | call g c =>
    simp only [notes]
    split
    · next r _ =>
      cases c with
      | reject archives key cause =>
        simp only [noted]
        split <;> simp
      | recoverTimedOut archives w limit =>
        simp only [noted]
        split <;> simp
      | _ => exact Nat.zero_le 1
    · exact Nat.zero_le 1

theorem Onward.le_trail (h : b.Onward acts) : ∀ e ∈ b.trail id acts, b.clock.now ≤ e.time := by
  induction acts generalizing b with
  | nil => simp [trail]
  | cons a acts ih =>
    intro e he
    rcases List.mem_append.1 he with he | he
    · exact Int.le_of_eq (congrArg Instant.nanos (time_of_mem_notes he).symm)
    · exact Int.le_trans h.1 (ih h.2 e he)

theorem Onward.trail_sorted (h : b.Onward acts) :
    (b.trail id acts).Pairwise fun e e' => e.time ≤ e'.time := by
  induction acts generalizing b with
  | nil => exact .nil
  | cons a acts ih =>
    refine List.pairwise_append.2 ⟨?_, ih h.2, ?_⟩
    · have hshort := b.length_notes_le id a
      generalize b.notes id a = notes at hshort
      cases notes with
      | nil => exact .nil
      | cons e rest =>
        rw [List.eq_nil_of_length_eq_zero (Nat.le_zero.1 (Nat.le_of_succ_le_succ hshort))]
        exact List.pairwise_singleton _ e
    · intro e he e' he'
      rw [time_of_mem_notes he]
      exact Int.le_trans h.1 (h.2.le_trail e' he')

theorem Onward.suffix {before : List (Act S)} (h : b.Onward (before ++ acts)) :
    (b.play before).Onward acts := by
  induction before generalizing b with
  | nil => exact h
  | cons a before ih => exact ih h.2

theorem SinceCleared.onward {b' : Backend} {since : List (Act S)}
    (hsince : b.SinceCleared id acts b' since) (h : b.Onward acts) : b'.Onward since := by
  cases hsince with
  | never => exact h
  | cleared => exact h.suffix.2

end Order

end Backend

/-- The archive of failures holds what the rejects and the timeouts of an item noted down since its
entries were last removed: all of it, once each, in the order of the calls, and so in order of time
unless the clock went back. -/
theorem failure_trail (t : Instant) (completed : Bool) (acts : List (Act LeavesFailures))
    (hmade : ∀ a ∈ acts, a.MadeOn ⟨completed, true⟩) (id : ItemId) :
    let b := (Backend.start t).play acts
    (∃ b' since, (Backend.start t).SinceCleared id acts b' since ∧
      b.tables.failures id = b'.trail id since) ∧
    b.tables.broken.get? id ≠ some [] ∧
    ((Backend.start t).Onward acts →
      (b.tables.failures id).Pairwise fun e e' => e.time ≤ e'.time) := by
  intro b
  obtain ⟨b', since, hsince⟩ := (Backend.start t).exists_sinceCleared id acts
  have hstored : b.tables.broken.get? id = stored (b'.trail id since) :=
    hsince.stored (.start t) hmade rfl
  have hfailures : b.tables.failures id = b'.trail id since := Tables.failures_eq hstored
  refine ⟨⟨b', since, hsince, hfailures⟩, ?_, ?_⟩
  · rw [hstored]
    exact stored_ne_nil _
  · intro honward
    rw [hfailures]
    exact (hsince.onward honward).trail_sorted

/-- An item is rejected, rejected once more while nobody holds it, and timed out. Its entries are
removed together, and what is noted down later starts anew. -/
theorem failure_trail_cycle :
    let b := Backend.start (.clamp 0)
    let days (n : Int) : Instant := .clamp (n * 86400000000000)
    let failed : List (Act LeavesFailures) :=
      [.plain (.append ⟨⟨1⟩, .zero, 3⟩), .plain (.readItems 10),
        .plain (.reject ⟨true, true⟩ ⟨1⟩ "refused"),
        .plain (.reject ⟨true, true⟩ ⟨1⟩ "refused again"),
        .clock (.start (days 1)), .plain (.requeue .default 10), .plain (.readItems 10),
        .clock (.start (days 2)), .plain (.recoverTimedOut ⟨true, true⟩ .default 10)]
    let acts := failed ++ [.clock (.start (days 6)),
      .plain (.removeBroken ⟨true, true⟩ .default 10), .plain (.reject ⟨true, true⟩ ⟨1⟩ "late")]
    (b.play failed).tables.failures ⟨1⟩ =
      [⟨"refused", days 0⟩, ⟨"refused again", days 0⟩, ⟨timeoutCause, days 2⟩] ∧
    ((b.play failed).tables.failures ⟨1⟩).Pairwise (fun e e' => e.time ≤ e'.time) ∧
    (b.play acts).tables.failures ⟨1⟩ = [⟨"late", days 6⟩] ∧
    ∃ b' since, b.SinceCleared ⟨1⟩ acts b' since ∧ b'.trail ⟨1⟩ since = [⟨"late", days 6⟩] := by
  intro b days failed acts
  have hlate : (b.play acts).tables.failures ⟨1⟩ = [⟨"late", days 6⟩] := by decide +kernel
  have hfailed := failure_trail (.clamp 0) true failed (by decide +kernel) ⟨1⟩
  obtain ⟨⟨b', since, hsince, htrail⟩, -, -⟩ :=
    failure_trail (.clamp 0) true acts (by decide +kernel) ⟨1⟩
  refine ⟨by decide +kernel, hfailed.2.2 (by decide +kernel), hlate, b', since, hsince, ?_⟩
  rw [← htrail]
  exact hlate

end WorkQueue.Memory
