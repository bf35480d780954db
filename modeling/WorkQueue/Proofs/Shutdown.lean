import WorkQueue.Proofs.Later

namespace WorkQueue.Session.Machine

inductive Launched : List Nat → Machine → Prop
  | pool {m m' : Machine} {run : Nat} {pool : PoolScript} {tasks : List Nat}
      (h : m.spawnPool run pool = (.ok tasks, m')) : Launched tasks m'
  | maintenance {m m' : Machine} {plan : Maintenance} {tasks : List Nat}
      (h : m.spawnMaintenance plan = (.ok tasks, m')) : Launched tasks m'

/-- Whether a wait comes back. It does not if the session has no end, or if there is nothing left
that could happen. -/
def comesBack (p : Machine → Bool) (deadline : Option Nat) : Nat → Machine → Bool
  | 0, _ => false
  | fuel + 1, m =>
    let m := m.runRound
    p m ||
      if !m.ready.isEmpty then comesBack p deadline fuel m
      else
        match m.nextWake? deadline with
        | none => false
        | some time =>
          let m := m.passTo time
          p m || comesBack p deadline fuel m

def Returns : List Nat → Machine → Prop
  | [], _ => True
  | i :: rest, m => (m.isOver i || comesBack (·.isOver i) none horizon m) = true ∧
    ((awaitTask i m).isCrashed i = false → Returns rest (awaitTask i m))

def Finished (m : Machine) (i : Nat) : Prop := m.isOver i = true ∧ m.isCrashed i = false

structure Joined (part : String) (tasks : List Nat) (m : Machine) : Prop where
  ok_iff : (m.shutdown part tasks).1 = .ok () ↔
    ∀ i ∈ tasks, (m.shutdown part tasks).2.isCrashed i = false
  finished : (m.shutdown part tasks).1 = .ok () → ∀ i ∈ tasks, (m.shutdown part tasks).2.Finished i
  /-- Tasks after the first one that broke down are not waited for. -/
  failed : ∀ e, (m.shutdown part tasks).1 = .error e →
    e = .internal s!"{part} join error: a task has broken down" ∧
    ∃ before i after, tasks = before ++ i :: after ∧
      (∀ j ∈ before, (m.shutdown part tasks).2.Finished j) ∧
      (m.shutdown part tasks).2.isCrashed i = true ∧
      (m.shutdown part tasks).2 = ((tasks.foldl tell m).join (before ++ [i])).2
  over_iff : (∀ i ∈ tasks, (m.shutdown part tasks).2.isOver i = true) ↔
    ∀ before i after, tasks = before ++ i :: after →
      (∀ j ∈ before, (m.shutdown part tasks).2.Finished j) →
      (m.shutdown part tasks).2.isCrashed i = true →
      ∀ j ∈ after, (m.shutdown part tasks).2.isOver j = true
  still : ∀ i ∈ tasks, (m.shutdown part tasks).2.isOver i = true →
    ∀ m', Later (m.shutdown part tasks).2 m' → m'.isOver i = true ∧ m'.runTask i = m'

section Tasks

variable {m m' : Machine} {i : Nat}

theorem runTask_of_isOver (h : m.isOver i = true) : m.runTask i = m := by
  unfold runTask
  cases ht : m.tasks[i]? with
  | none => rfl
  | some t =>
    have hover : t.isOver = true := by simpa [isOver, ht] using h
    cases hstate : t.state <;> simp_all [Task.isOver]

theorem isOver_of_isCrashed (h : m.isCrashed i = true) : m.isOver i = true := by
  rw [isCrashed, Option.any_eq_true] at h
  obtain ⟨t, ht, hcrashed⟩ := h
  rw [isOver, ht, Option.all_some]
  cases hstate : t.state <;> simp_all [Task.isOver, Task.isCrashed]

theorem Later.lt_length (h : Later m m') (hi : i < m.tasks.length) : i < m'.tasks.length := by
  obtain ⟨t', ht', -⟩ := h.keeps (S := fun _ => True) i _ (List.getElem?_eq_getElem hi)
  exact (List.getElem?_eq_some_iff.1 ht').1

theorem Later.isOver (h : Later m m') (hi : i < m.tasks.length) (hover : m.isOver i = true) :
    m'.isOver i = true ∧ m'.isCrashed i = m.isCrashed i := by
  have ht := List.getElem?_eq_getElem hi
  obtain ⟨t', ht', hstate⟩ := h.keeps (S := fun _ => True) i _ ht
  have hover' : m.tasks[i].isOver = true := by simpa [Machine.isOver, ht] using hover
  have hsame := hstate trivial hover'
  simp only [Machine.isOver, isCrashed, ht, ht', Option.all_some, Option.any_some, Task.isOver,
    Task.isCrashed, hsame, and_true] at hover ⊢
  exact hover

theorem Later.finished (h : Later m m') (hi : i < m.tasks.length) (hfinished : m.Finished i) :
    m'.Finished i := by
  obtain ⟨hover, hcrashed⟩ := h.isOver hi hfinished.1
  exact ⟨hover, hcrashed.trans hfinished.2⟩

theorem awaitFrom_comesBack {p : Machine → Bool} {deadline : Option Nat} {fuel : Nat}
    (h : comesBack p deadline fuel m = true) : p (awaitFrom p deadline fuel m) = true := by
  induction fuel generalizing m with
  | zero => cases h
  | succ fuel ih =>
    simp only [comesBack, Bool.or_eq_true] at h
    rw [awaitFrom]
    simp only
    split
    · next hp => exact hp
    · next hp =>
      replace h := h.resolve_left hp
      split
      · next hready =>
        rw [if_pos hready] at h
        exact ih h
      · next hready =>
        rw [if_neg hready] at h
        split
        · next hwake => simp [hwake] at h
        · next time hwake =>
          simp only [hwake, Bool.or_eq_true] at h
          split
          · next hp' => exact hp'
          · next hp' => exact ih (h.resolve_left hp')

theorem isOver_awaitTask (hi : i < m.tasks.length)
    (h : (m.isOver i || comesBack (·.isOver i) none horizon m) = true) :
    (awaitTask i m).isOver i = true := by
  by_cases hover : m.isOver i = true
  · exact ((later_awaitTask i m).isOver hi hover).1
  · rw [awaitTask, if_neg hover]
    rw [Bool.or_eq_true] at h
    exact awaitFrom_comesBack (p := (·.isOver i)) (h.resolve_left hover)

theorem length_spawn (m : Machine) (t : Task) : (m.spawn t).tasks.length = m.tasks.length + 1 :=
  List.length_append

theorem length_foldl_spawn {β : Type} (task : β → Task) (l : List β) (m : Machine) :
    (l.foldl (fun m b => m.spawn (task b)) m).tasks.length = m.tasks.length + l.length := by
  induction l generalizing m with
  | nil => rfl
  | cons b l ih =>
    rw [List.foldl_cons, ih, length_spawn, List.length_cons]
    omega

theorem Launched.lt_length {tasks : List Nat} (h : Launched tasks m) :
    ∀ i ∈ tasks, i < m.tasks.length := by
  cases h with
  | pool h =>
    unfold spawnPool at h
    split at h
    · cases h
    · cases h
      intro i hi
      obtain ⟨index, hindex, rfl⟩ := List.mem_map.1 hi
      simp only [write, length_foldl_spawn, List.length_range]
      exact Nat.add_lt_add_left (List.mem_range.1 hindex) _
  | maintenance h =>
    unfold spawnMaintenance at h
    split at h
    · cases h
    · cases h
      simp only [length_spawn, List.forall_mem_cons, List.not_mem_nil, false_imp_iff, implies_true,
        and_true]
      omega

end Tasks

section Join

variable {m : Machine} {tasks : List Nat}

theorem join_eq_true (hreturns : Returns tasks m) (hlt : ∀ i ∈ tasks, i < m.tasks.length)
    (h : (m.join tasks).1 = true) : ∀ i ∈ tasks, (m.join tasks).2.Finished i := by
  induction tasks generalizing m with
  | nil => nofun
  | cons i rest ih =>
    have hlater := later_awaitTask i m
    rw [List.forall_mem_cons] at hlt
    rw [join_cons] at h ⊢
    split at h
    · cases h
    · next hcrashed =>
      have hregular : (awaitTask i m).isCrashed i = false := by simpa using hcrashed
      have hfinished : (awaitTask i m).Finished i :=
        ⟨isOver_awaitTask hlt.1 hreturns.1, hregular⟩
      rw [if_neg hcrashed, List.forall_mem_cons]
      refine ⟨?_, ih (hreturns.2 hregular) (fun j hj => hlater.lt_length (hlt.2 j hj)) h⟩
      exact (later_join rest _).finished (hlater.lt_length hlt.1) hfinished

theorem join_eq_false (hreturns : Returns tasks m) (hlt : ∀ i ∈ tasks, i < m.tasks.length)
    (h : (m.join tasks).1 = false) : ∃ before i after, tasks = before ++ i :: after ∧
      (∀ j ∈ before, (m.join tasks).2.Finished j) ∧ (m.join tasks).2.isCrashed i = true ∧
      (m.join tasks).2 = (m.join (before ++ [i])).2 := by
  induction tasks generalizing m with
  | nil => cases h
  | cons i rest ih =>
    have hlater := later_awaitTask i m
    rw [List.forall_mem_cons] at hlt
    rw [join_cons] at h ⊢
    split at h
    · next hcrashed =>
      rw [if_pos hcrashed]
      refine ⟨[], i, rest, rfl, nofun, hcrashed, ?_⟩
      rw [List.nil_append, join_cons, if_pos hcrashed]
    · next hcrashed =>
      have hregular : (awaitTask i m).isCrashed i = false := by simpa using hcrashed
      have hfinished : (awaitTask i m).Finished i :=
        ⟨isOver_awaitTask hlt.1 hreturns.1, hregular⟩
      rw [if_neg hcrashed]
      obtain ⟨before, j, after, rfl, hbefore, hj, hstop⟩ :=
        ih (hreturns.2 hregular) (fun j hj => hlater.lt_length (hlt.2 j hj)) h
      refine ⟨i :: before, j, after, rfl, ?_, hj, ?_⟩
      · rw [List.forall_mem_cons]
        exact ⟨(later_join _ _).finished (hlater.lt_length hlt.1) hfinished, hbefore⟩
      · rw [List.cons_append, join_cons, if_neg hcrashed, hstop]

theorem shutdown_eq (part : String) (tasks : List Nat) (m : Machine) : m.shutdown part tasks =
    (bif ((tasks.foldl tell m).join tasks).1 then .ok ()
      else .error (.internal s!"{part} join error: a task has broken down"),
     ((tasks.foldl tell m).join tasks).2) := by
  unfold shutdown
  simp only
  split <;> simp [*]

end Join

/-- A shutdown succeeds if and only if no task broke down, and then all are over. One that fails has
waited for the tasks up to the first one that broke down, and for no other. -/
theorem shutdown_joins {part : String} {tasks : List Nat} {m₀ m : Machine}
    (hlaunched : Launched tasks m₀) (hlater : Later m₀ m)
    (hreturns : Returns tasks (tasks.foldl tell m)) : Joined part tasks m := by
  have hlt (i : Nat) (hi : i ∈ tasks) : i < (tasks.foldl tell m).tasks.length :=
    ((later_tellAll tasks m).after hlater).lt_length (hlaunched.lt_length i hi)
  have hjoined := later_join tasks (tasks.foldl tell m)
  have heq := shutdown_eq part tasks m
  have hstate : (m.shutdown part tasks).2 = ((tasks.foldl tell m).join tasks).2 := by rw [heq]
  have hstill : ∀ i ∈ tasks, (m.shutdown part tasks).2.isOver i = true →
      ∀ m', Later (m.shutdown part tasks).2 m' → m'.isOver i = true ∧ m'.runTask i = m' := by
    intro i hi hover m' hafter
    have hi' := hjoined.lt_length (hlt i hi)
    rw [← hstate] at hi'
    have hover' := (hafter.isOver hi' hover).1
    exact ⟨hover', runTask_of_isOver hover'⟩
  have hrest {before after : List Nat} {i j : Nat} (h : tasks = before ++ i :: after)
      (hj : j ∈ after) : j ∈ tasks :=
    h ▸ List.mem_append_right before (List.mem_cons_of_mem i hj)
  cases hresult : ((tasks.foldl tell m).join tasks).1 with
  | true =>
    have hall := join_eq_true hreturns hlt hresult
    rw [← hstate] at hall
    have hok : (m.shutdown part tasks).1 = .ok () := by
      rw [heq, hresult]
      rfl
    exact {
      ok_iff := iff_of_true hok fun i hi => (hall i hi).2
      finished := fun _ => hall
      failed := fun e he => absurd he (by simp [hok])
      over_iff := iff_of_true (fun i hi => (hall i hi).1)
        fun _ _ _ h _ _ j hj => (hall j (hrest h hj)).1
      still := hstill }
  | false =>
    obtain ⟨before, i, after, htasks, hbefore, hi, hstop⟩ := join_eq_false hreturns hlt hresult
    rw [← hstate] at hbefore hi hstop
    have herror : (m.shutdown part tasks).1 = .error
        (.internal s!"{part} join error: a task has broken down") := by
      rw [heq, hresult]
      rfl
    have hmem : i ∈ tasks := htasks ▸ List.mem_append_right before List.mem_cons_self
    have hover (hafter : ∀ j ∈ after, (m.shutdown part tasks).2.isOver j = true) :
        ∀ j ∈ tasks, (m.shutdown part tasks).2.isOver j = true := by
      intro j hj
      rw [htasks, List.mem_append, List.mem_cons] at hj
      rcases hj with hj | rfl | hj
      · exact (hbefore j hj).1
      · exact isOver_of_isCrashed hi
      · exact hafter j hj
    exact {
      ok_iff := iff_of_false (by simp [herror]) fun hnone => by simp [hnone i hmem] at hi
      finished := fun hok => absurd hok (by simp [herror])
      failed := fun e he =>
        ⟨by simpa [herror, eq_comm] using he, before, i, after, htasks, hbefore, hi, hstop⟩
      over_iff := ⟨fun hall _ _ _ h _ _ j hj => hall j (hrest h hj),
        fun h => hover (h before i after htasks hbefore hi)⟩
      still := hstill }

/-- Two workers that take one item at a time. The first item is handled as `first` says; the second
one is visible after 50 milliseconds, and its handler takes half a second. -/
def pairOfWorkers (first : Behaviour) : Except QueueError (List Nat) × Machine :=
  let setup : Setup := {
    start := .clamp 0
    config := .default
    archives := ⟨true, true⟩
    purges := false
    direct := false
    observed := true
    faulty := false
    ticking := false
    attention := .none }
  let m := ((start setup).play (.appends [⟨⟨1⟩, .zero, 3⟩, ⟨⟨2⟩, .ofMillis 50, 3⟩])).2
  let script : HandlerScript := ⟨[(⟨1⟩, [first]), (⟨2⟩, [⟨.ok, 500, "", .none⟩])], []⟩
  let config := { WorkerConfig.default with workers := 2, pollInterval := .ofMillis 50 }
  { m with handlers := [⟨script, [], 0, []⟩] }.spawnPool 0 ⟨1, config, false⟩

theorem launched_pairOfWorkers (first : Behaviour) : Launched [0, 1] (pairOfWorkers first).2 :=
  .pool (Prod.ext rfl rfl)

/-- The second worker is handling an item when the pool is shut down, and finishes it. -/
theorem shutdown_joins_pair :
    let m₀ := (pairOfWorkers .default).2
    let m := m₀.sleepUntil 100
    Launched [0, 1] m₀ ∧ Later m₀ m ∧ Returns [0, 1] ([0, 1].foldl tell m) ∧
    m.isOver 1 = false ∧ (m.shutdown "Worker" [0, 1]).1 = .ok () ∧
    (m.shutdown "Worker" [0, 1]).2.elapsed = 550 ∧
    (∀ i ∈ [0, 1], (m.shutdown "Worker" [0, 1]).2.Finished i) ∧
    ((m.shutdown "Worker" [0, 1]).2.inspect ⟨2⟩).completed = true := by
  intro m₀ m
  have hlaunched : Launched [0, 1] m₀ := launched_pairOfWorkers .default
  have hlater : Later m₀ m := later_sleepUntil m₀ 100
  have hreturns : Returns [0, 1] ([0, 1].foldl tell m) := by
    refine ⟨by decide +kernel, fun _ => ⟨by decide +kernel, fun _ => trivial⟩⟩
  have hjoined : Joined "Worker" [0, 1] m := shutdown_joins hlaunched hlater hreturns
  have hok := hjoined.ok_iff.2 (by decide +kernel)
  exact ⟨hlaunched, hlater, hreturns, by decide +kernel, hok, by decide +kernel,
    hjoined.finished hok, by decide +kernel⟩

/-- The first worker has broken down when the pool is shut down. The second one is left to itself,
and commits its item when the shutdown has long returned. -/
theorem shutdown_joins_runaway :
    let m₀ := (pairOfWorkers ⟨.crash, 0, "", .none⟩).2
    let m := m₀.sleepUntil 100
    let ended := m.shutdown "Worker" [0, 1]
    Launched [0, 1] m₀ ∧ Later m₀ m ∧ Returns [0, 1] ([0, 1].foldl tell m) ∧
    ended.1 = .error (.internal "Worker join error: a task has broken down") ∧
    ended.2.elapsed = 100 ∧
    ended.2.isOver 1 = false ∧ (ended.2.inspect ⟨2⟩).completed = false ∧
    ((ended.2.sleepUntil 600).inspect ⟨2⟩).completed = true := by
  intro m₀ m ended
  have hreturns : Returns [0, 1] ([0, 1].foldl tell m) := by
    refine ⟨by decide +kernel, fun hcrashed => ?_⟩
    exact absurd hcrashed (by decide +kernel)
  have hbroken : (([0, 1].foldl tell m).join [0, 1]).1 = false := by decide +kernel
  have herror : ended.1 = .error (.internal "Worker join error: a task has broken down") := by
    rw [show ended = _ from shutdown_eq "Worker" [0, 1] m, hbroken]
    rfl
  refine ⟨launched_pairOfWorkers _, later_sleepUntil m₀ 100, hreturns, herror, ?_⟩
  decide +kernel

end WorkQueue.Session.Machine
