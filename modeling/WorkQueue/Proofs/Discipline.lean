import WorkQueue.Proofs.Hook

/-!
How a call treats its storage when any answer may be a failure: it opens one unit of work, stops at
the first failure in it, ends it once, and tells of nothing that was not committed.
-/

namespace WorkQueue

namespace QueueRequest

inductive Kind
  | begin
  | work
  | commit
  | rollback
  | event
  | note
deriving DecidableEq

def Kind.isEnd (k : Kind) : Bool := k == commit || k == rollback

def Kind.isStorage (k : Kind) : Bool := k != event && k != note

variable {X : Effects}

def kind : QueueRequest X → Kind
  | begin => .begin
  | store _ | app _ => .work
  | commit => .commit
  | rollback => .rollback
  | emit _ => .event
  | note _ => .note

end QueueRequest

namespace Queue

open Operation

abbrev Step := Exchange (queueEffects hookCall)

def Step.request (x : Step) : QueueRequest hookCall := x.1

def Step.kind (x : Step) : QueueRequest.Kind := x.1.kind

def Step.commits : Step → Bool
  | ⟨.commit, .ok ()⟩ => true
  | _ => false

theorem Step.commits_of_kind {x : Step} (h : x.kind ≠ .commit) : x.commits = false := by
  obtain ⟨r, a⟩ := x
  cases r with
  | commit => exact absurd rfl h
  | _ => rfl

/-- The error that a call about `subject` ends with if the step is its first failure. A rollback is
to blame for nothing, and a delete is if it finds no row. -/
def blame (subject : Subject) : Step → Option QueueError
  | ⟨.begin, .error e⟩ | ⟨.commit, .error e⟩ => some (.storage .table e)
  | ⟨.store _, .error e⟩ => some (.storage subject e)
  | ⟨.store (.delete _ status), .ok deleted⟩ =>
    if (show UInt64 from deleted) = 0 then some (.statusMismatch subject status) else none
  | ⟨.app (), .error e⟩ => some (.preCommit subject e)
  | _ => none

/-- The items that a batch took, of those batches whose items are used further in their unit. -/
def Step.taken? : Step → Option (List ItemId)
  | ⟨.store (.recover ..), .ok ids⟩ | ⟨.store (.expireCompleted ..), .ok ids⟩
  | ⟨.store (.expireBroken ..), .ok ids⟩ => some ids
  | _ => none

def taken (steps : List Step) : List ItemId := (steps.findSome? Step.taken?).getD []

def requests (steps : List Step) : List (QueueRequest hookCall) :=
  (steps.filter (·.kind = .work)).map Step.request

def Call.agenda (c : Call) (ids : List ItemId) : List (QueueRequest hookCall) :=
  match c with
  | append item => [.store (.insert [item])]
  | appends items => [.store (.insert items)]
  | readItems limit => [.store (.claim limit)]
  | cancelItems named => [.store (.release named)]
  | commit archives id => .app () :: .store (.delete id .processing) ::
      if archives.completed then [.store (.complete id)] else []
  | reject archives id cause => .store (.demote id) ::
      if archives.broken then [.store (.recordFailures [⟨id, cause⟩])] else []
  | recoverTimedOut archives w limit => .store (.recover w.timeout limit) ::
      if archives.broken && !ids.isEmpty then
        [.store (.recordFailures (ids.map fun id => ⟨id, timeoutCause⟩))] else []
  | requeue w limit => [.store (.requeue w.delay limit)]
  | removeExhausted limit => [.store (.discard limit)]
  | removeCompleted _ r limit => .store (.expireCompleted r.completedExpiry limit) ::
      if r.purges && !ids.isEmpty then [.store (.purge ids)] else []
  | removeBroken _ r limit => .store (.expireBroken r.brokenExpiry limit) ::
      if r.purges && !ids.isEmpty then [.store (.purge ids)] else []

abbrev Agenda := List ItemId → List (QueueRequest hookCall)

def Passes (subject : Subject) (x : Step) : Prop :=
  (x.kind = .work ∨ x.kind = .note) ∧ blame subject x = none

/-- How an operation inside the unit may go: everything on its agenda is done and passes, or it ends
at once with the error that is to blame. -/
inductive Ends (subject : Subject) (agenda : Agenda) {α : Type} :
    List Step → Except QueueError α → Prop
  | passed {steps a} (h : ∀ x ∈ steps, Passes subject x)
    (hasked : requests steps = agenda (taken steps)) : Ends subject agenda steps (.ok a)
  | failed {steps x e} (h : ∀ y ∈ steps, Passes subject y) (hwork : x.kind = .work)
    (hblame : blame subject x = some e)
    (hasked : requests (steps ++ [x]) <+: agenda (taken (steps ++ [x]))) :
    Ends subject agenda (steps ++ [x]) (.error e)

structure FailStop (subject : Subject) (agenda : Agenda) {α : Type} (op : Operation hookCall α) :
    Prop where
  ends : ∀ {σ : Type} (answer : Answers hookCall σ) (s : σ),
    Ends subject agenda (op.trace answer s) (op.exec answer s).1

variable {subject : Subject} {agenda : Agenda} {α β : Type}

section Requests

variable {steps more : List Step} {x : Step}

theorem requests_append : requests (steps ++ more) = requests steps ++ requests more := by
  simp only [requests, List.filter_append, List.map_append]

theorem requests_eq_nil (h : ∀ x ∈ steps, x.kind ≠ .work) : requests steps = [] := by
  rw [requests, List.filter_eq_nil_iff.2 fun x hx => by simpa using h x hx]
  rfl

theorem requests_append_of (h : ∀ x ∈ more, x.kind ≠ .work) :
    requests (steps ++ more) = requests steps := by
  rw [requests_append, requests_eq_nil h, List.append_nil]

theorem mem_requests {r : QueueRequest hookCall} (h : r ∈ requests steps) :
    ∃ x ∈ steps, x.kind = .work ∧ x.request = r := by
  obtain ⟨x, hx, rfl⟩ := List.mem_map.1 h
  obtain ⟨hmem, hwork⟩ := List.mem_filter.1 hx
  exact ⟨x, hmem, of_decide_eq_true hwork, rfl⟩

theorem Step.taken?_of_kind (h : x.kind ≠ .work) : x.taken? = none := by
  obtain ⟨r, a⟩ := x
  cases r with
  | store call => exact absurd rfl h
  | _ => rfl

theorem taken_append_of (h : ∀ x ∈ more, x.kind ≠ .work) : taken (steps ++ more) = taken steps := by
  rw [taken, List.findSome?_append,
    List.findSome?_eq_none_iff.2 fun x hx => Step.taken?_of_kind (h x hx), Option.or_none]
  rfl

end Requests

theorem Step.kind_ne {x : Step} {k k' : QueueRequest.Kind} (h : x.kind = k) (hne : k ≠ k') :
    x.kind ≠ k' := h ▸ hne

theorem Passes.kind_ne {x : Step} {k : QueueRequest.Kind} (h : Passes subject x)
    (hwork : .work ≠ k) (hnote : .note ≠ k) : x.kind ≠ k := by
  obtain ⟨hkind | hkind, -⟩ := h
  · exact Step.kind_ne hkind hwork
  · exact Step.kind_ne hkind hnote

theorem blame_store_error (call : StoreCall) (e : StoreError) :
    blame subject ⟨.store call, .error e⟩ = some (.storage subject e) := by
  cases call <;> rfl

theorem Ends.of_passes {x : Step} {a : α} (h : Passes subject x)
    (hasked : requests [x] = agenda (taken [x])) : Ends subject agenda [x] (.ok a) :=
  .passed (fun _ hy => List.mem_singleton.1 hy ▸ h) hasked

theorem Ends.of_blame {x : Step} {e : QueueError} (hwork : x.kind = .work)
    (hblame : blame subject x = some e) (hasked : requests [x] <+: agenda (taken [x])) :
    Ends subject agenda [x] (.error e : Except QueueError α) :=
  @Ends.failed subject agenda α [] x e nofun hwork hblame hasked

theorem Ends.after {l l' : List (QueueRequest hookCall)} {before steps : List Step}
    {result : Except QueueError α} (hbefore : ∀ x ∈ before, Passes subject x)
    (hasked : requests before = l) (htaken : agenda (taken (before ++ steps)) = l ++ l')
    (h : Ends subject (fun _ => l') steps result) :
    Ends subject agenda (before ++ steps) result := by
  cases h with
  | passed hsteps hrest =>
    refine .passed (List.forall_mem_append.2 ⟨hbefore, hsteps⟩) ?_
    rw [requests_append, hasked, hrest, htaken]
  | failed hsteps hwork hblame hrest =>
    rw [← List.append_assoc] at htaken ⊢
    refine .failed (List.forall_mem_append.2 ⟨hbefore, hsteps⟩) hwork hblame ?_
    rw [htaken, List.append_assoc, requests_append, hasked]
    exact (List.prefix_append_right_inj l).2 hrest

namespace FailStop

theorem pure (a : α) : FailStop subject (fun _ => []) (pure a) := ⟨fun _ _ => .passed nofun rfl⟩

theorem note (n : Notice) : FailStop subject (fun _ => []) (note n) :=
  ⟨fun _ _ => .of_passes ⟨.inr rfl, rfl⟩ rfl⟩

theorem store (call : StoreCall) (h : ∀ a, blame subject ⟨.store call, .ok a⟩ = none) :
    FailStop subject (fun _ => [.store call]) (store subject call) := by
  constructor
  intro σ answer s
  rw [exec_store, trace_store]
  cases (answer (.store call) s).1 with
  | error e => exact .of_blame rfl (blame_store_error call e) List.prefix_rfl
  | ok a => exact .of_passes ⟨.inl rfl, h a⟩ rfl

theorem runHook : FailStop subject (fun _ => [.app ()]) (runHook subject .call) := by
  constructor
  intro σ answer s
  rw [Operation.runHook, exec_attempt, trace_attempt]
  simp only [Hook.call, Program.mapRequests, HookRequest.toQueue, Program.bind, Program.run,
    Program.trace]
  cases (answer (.app ()) s).1 with
  | error e => exact .of_blame rfl rfl List.prefix_rfl
  | ok a => exact .of_passes ⟨.inl rfl, rfl⟩ rfl

theorem map {op : Operation hookCall α} (h : FailStop subject agenda op) (f : α → β) :
    FailStop subject agenda (op >>= fun a => Pure.pure (f a)) := by
  constructor
  intro σ answer s
  have ends := h.ends answer s
  rw [exec_bind, trace_bind]
  generalize op.trace answer s = steps at ends
  generalize op.exec answer s = ended at ends
  obtain ⟨_ | a, t⟩ := ended
  · simp only [List.append_nil]
    cases ends with
    | failed hsteps hwork hblame hasked => exact .failed hsteps hwork hblame hasked
  · simp only [trace_pure, List.append_nil]
    cases ends with
    | passed hsteps hasked => exact .passed hsteps hasked

theorem bind {l l' : List (QueueRequest hookCall)} {op : Operation hookCall α}
    {f : α → Operation hookCall β} (h : FailStop subject (fun _ => l) op)
    (hf : ∀ a, FailStop subject (fun _ => l') (f a)) :
    FailStop subject (fun _ => l ++ l') (op >>= f) := by
  constructor
  intro σ answer s
  have first := h.ends answer s
  rw [exec_bind, trace_bind]
  generalize op.trace answer s = steps at first
  generalize op.exec answer s = ended at first
  obtain ⟨_ | a, t⟩ := ended
  · rw [List.append_nil]
    cases first with
    | failed hsteps hwork hblame hasked =>
      exact .failed hsteps hwork hblame (hasked.trans (List.prefix_append l l'))
  · cases first with
    | passed hsteps hasked => exact ((hf a).ends answer t).after hsteps hasked rfl

theorem ite {p : Prop} [Decidable p] {l l' : List (QueueRequest hookCall)}
    {op op' : Operation hookCall α} (h : FailStop subject (fun _ => l) op)
    (h' : FailStop subject (fun _ => l') op') :
    FailStop subject (fun _ => if p then l else l') (if p then op else op') := by
  split
  · exact h
  · exact h'

theorem batch {call : StoreCall} {ids : call.Answer → List ItemId}
    {l : List ItemId → List (QueueRequest hookCall)} {f : call.Answer → Operation hookCall α}
    (htaken : ∀ a, Step.taken? ⟨.store call, .ok a⟩ = some (ids a))
    (hblame : ∀ a, blame subject ⟨.store call, .ok a⟩ = none)
    (hf : ∀ a, FailStop subject (fun _ => l (ids a)) (f a)) :
    FailStop subject (fun ids => .store call :: l ids) (Operation.store subject call >>= f) := by
  constructor
  intro σ answer s
  rw [exec_bind, trace_bind, exec_store, trace_store]
  cases answer (.store call) s with
  | mk result t =>
    cases result with
    | error e => exact .of_blame rfl (blame_store_error call e) (List.prefix_append [_] _)
    | ok a =>
      have hpasses : ∀ x ∈ [(⟨.store call, .ok a⟩ : Step)], Passes subject x := fun x hx => by
        cases List.mem_singleton.1 hx
        exact ⟨.inl rfl, hblame a⟩
      refine ((hf a).ends answer t).after hpasses rfl ?_
      simp only [taken, List.cons_append, List.findSome?_cons, htaken, Option.getD_some]
      rfl

theorem delete {id : ItemId} {status : Status} {l : List (QueueRequest hookCall)}
    {f : (StoreCall.delete id status).Answer → Operation hookCall α}
    (hlost : f (0 : UInt64) = throw (.statusMismatch subject status))
    (hf : ∀ n : UInt64, n ≠ 0 → FailStop subject (fun _ => l) (f n)) :
    FailStop subject (fun _ => .store (.delete id status) :: l)
      (Operation.store subject (.delete id status) >>= f) := by
  constructor
  intro σ answer s
  rw [exec_bind, trace_bind, exec_store, trace_store]
  cases answer (.store (.delete id status)) s with
  | mk result t =>
    cases result with
    | error e => exact .of_blame rfl (blame_store_error _ e) (List.prefix_append [_] _)
    | ok deleted =>
      -- A delete that finds no row is a failure, although the storage answers it.
      by_cases hzero : deleted = (0 : UInt64)
      · subst hzero
        simp only [Except.mapError, hlost]
        exact .of_blame rfl rfl (List.prefix_append [_] _)
      · refine .after (fun x hx => ?_) rfl rfl ((hf deleted hzero).ends answer t)
        cases List.mem_singleton.1 hx
        exact ⟨.inl rfl, if_neg hzero⟩

theorem purge (r : Retention) (ids : List ItemId) : FailStop .table
    (fun _ => if r.purges && !ids.isEmpty then [.store (.purge ids)] else []) (purge r ids) :=
  ite ((store (.purge ids) fun _ => rfl).bind fun _ => note _) (pure ())

theorem commitWrites (archives : Archives) (id : ItemId) :
    FailStop (.item id) (Call.commit archives id).agenda (commitWrites archives id .call) := by
  refine runHook.bind fun _ => delete rfl fun n hn => ?_
  have hfound : ¬(n == 0) = true := by simpa using hn
  rw [if_neg hfound]
  exact ite (store (.complete id) fun _ => rfl) (pure ())

theorem work (c : Call) : FailStop c.subject c.agenda (c.work .call) := by
  cases c with
  | append item => exact (store (.insert [item]) fun _ => rfl).map _
  | appends items => exact (store (.insert items) fun _ => rfl).map _
  | readItems limit => exact (store (.claim limit) fun _ => rfl).map _
  | cancelItems ids => exact (store (.release ids) fun _ => rfl).map _
  | commit archives id => exact (commitWrites archives id).map _
  | reject archives id cause =>
    refine map ((store (.demote id) fun _ => rfl).bind fun _ => ?_) _
    exact ite ((store (.recordFailures _) fun _ => rfl).map _) (pure _)
  | recoverTimedOut archives w limit =>
    refine map (batch (fun _ => rfl) (fun _ => rfl) fun _ => ?_) _
    exact ite ((store (.recordFailures _) fun _ => rfl).map _) (pure _)
  | requeue w limit => exact (store (.requeue w.delay limit) fun _ => rfl).map _
  | removeExhausted limit => exact (store (.discard limit) fun _ => rfl).map _
  | removeCompleted archives r limit =>
    exact batch (fun _ => rfl) (fun _ => rfl) fun ids => (purge r ids).map _
  | removeBroken archives r limit =>
    exact batch (fun _ => rfl) (fun _ => rfl) fun ids => (purge r ids).map _

end FailStop

inductive UnitCourse (subject : Subject) (agenda : Agenda) {α : Type} :
    List Step → Except QueueError α → Prop
  | unopened {e} : UnitCourse subject agenda [⟨.begin, .error e⟩] (.error (.storage .table e))
  | rolledBack {body x e notes} {a : Except StoreError Unit} (hbody : ∀ y ∈ body, Passes subject y)
    (hwork : x.kind = .work) (hblame : blame subject x = some e)
    (hasked : requests (body ++ [x]) <+: agenda (taken (body ++ [x])))
    (hnotes : ∀ y ∈ notes, y.kind = .note) :
    UnitCourse subject agenda (⟨.begin, .ok ()⟩ :: (body ++ x :: ⟨.rollback, a⟩ :: notes))
      (.error e)
  | uncommitted {body e} (hbody : ∀ y ∈ body, Passes subject y)
    (hasked : requests body = agenda (taken body)) :
    UnitCourse subject agenda (⟨.begin, .ok ()⟩ :: (body ++ [⟨.commit, .error e⟩]))
      (.error (.storage .table e))
  | committed {body a} (hbody : ∀ y ∈ body, Passes subject y)
    (hasked : requests body = agenda (taken body)) :
    UnitCourse subject agenda (⟨.begin, .ok ()⟩ :: (body ++ [⟨.commit, .ok ()⟩])) (.ok a)

theorem FailStop.inUnit {body : Operation hookCall α} (h : FailStop subject agenda body) {σ : Type}
    (answer : Answers hookCall σ) (s : σ) :
    UnitCourse subject agenda ((inUnit body).trace answer s) ((inUnit body).exec answer s).1 := by
  rw [exec_inUnit, trace_inUnit]
  obtain ⟨_ | ⟨⟩, t⟩ := answer .begin s
  · exact .unopened
  · have inside := h.ends answer t
    dsimp only
    generalize body.trace answer t = steps at inside
    generalize body.exec answer t = ended at inside
    obtain ⟨_ | a, u⟩ := ended
    · cases inside with
      | failed hbody hwork hblame hasked =>
        simp only [exec_rollback, trace_rollback, List.append_assoc, List.singleton_append]
        refine .rolledBack hbody hwork hblame hasked fun y hy => ?_
        split at hy
        · cases hy
        · cases List.mem_singleton.1 hy
          rfl
    · cases inside with
      | passed hbody hasked =>
        dsimp only
        obtain ⟨_ | ⟨⟩, v⟩ := answer .commit u
        · exact .uncommitted hbody hasked
        · exact .committed hbody hasked

inductive Course (c : Call) : List Step → Except QueueError Reply → Prop
  | refused {e} (h : c.fault? = some e) : Course c [] (.error e)
  | spared {steps r} (h : c.fault? = none) (hidle : c.isIdle = true)
    (hsteps : ∀ x ∈ steps, x.kind = .note) : Course c steps (.ok r)
  | failed {steps e} (h : c.fault? = none) (hidle : c.isIdle = false)
    (hunit : UnitCourse c.subject c.agenda steps (.error e : Except QueueError Call.Report)) :
    Course c steps (.error e)
  | succeeded {steps notes event r report} (h : c.fault? = none) (hidle : c.isIdle = false)
    (hunit : UnitCourse c.subject c.agenda steps (.ok report : Except QueueError Call.Report))
    (hnotes : ∀ y ∈ notes, y.kind = .note) :
    Course c (steps ++ (notes ++ [⟨.emit event, ()⟩])) (.ok r)

section Course

variable {σ : Type} (answer : Answers hookCall σ)

theorem Call.trace_announce (r : Report) (s : σ) : ∃ notes : List Step,
    (∀ x ∈ notes, x.kind = .note) ∧
      (announce r).trace answer s = notes ++ [⟨.emit (.of r.activity r.data), ()⟩] := by
  obtain ⟨_ | n, activity, data, reply⟩ := r
  · exact ⟨[], nofun, rfl⟩
  · exact ⟨[⟨.note n, ()⟩], fun x hx => by cases List.mem_singleton.1 hx; rfl, rfl⟩

theorem Course.spare {c : Call} (h : c.fault? = none) (hidle : c.isIdle = true) (s : σ) :
    Course c (c.spare.trace answer s) (c.spare.exec answer s).1 := by
  have quiet : ∀ x ∈ ([] : List Step), x.kind = .note := nofun
  cases c with
  | appends items => exact .spared h hidle fun x hx => by cases List.mem_singleton.1 hx; rfl
  | _ => exact .spared h hidle quiet

theorem Course.program (c : Call) (s : σ) :
    Course c ((c.program .call).trace answer s) ((c.program .call).exec answer s).1 := by
  rw [Call.program_eq]
  cases hfault : c.fault? with
  | some e => exact .refused hfault
  | none =>
    cases hidle : c.isIdle with
    | true => exact .spare answer hfault hidle s
    | false =>
      have unit := (FailStop.work c).inUnit answer s
      simp only [Call.guarded, Bool.false_eq_true, if_false, exec_bind, trace_bind]
      generalize (Operation.inUnit (c.work .call)).trace answer s = steps at unit
      generalize (Operation.inUnit (c.work .call)).exec answer s = ended at unit
      obtain ⟨_ | report, t⟩ := ended
      · rw [List.append_nil]
        exact .failed hfault hidle unit
      · obtain ⟨notes, hnotes, htrace⟩ := Call.trace_announce answer report t
        dsimp only
        rw [Call.exec_announce, htrace]
        exact .succeeded hfault hidle unit hnotes

end Course

structure EndsOnce (subject : Subject) (rest : List Step) : Prop where
  begun : ∀ x ∈ rest, x.kind ≠ .begin
  once : rest.countP (·.kind.isEnd) = 1
  committed : (∃ x ∈ rest, x.kind = .commit) ↔ ∀ x ∈ rest, x.kind = .work → blame subject x = none
  halted : rest.Pairwise fun x y =>
    (blame subject x).isSome = true ∨ x.kind.isEnd = true → y.kind ≠ .work

/-- What is asked of the work in a unit: that it goes by its agenda, as far as it goes, and is done
before it is committed. -/
structure GoesBy (agenda : Agenda) (steps : List Step) : Prop where
  inOrder : requests steps <+: agenda (taken steps)
  whole : (∃ x ∈ steps, x.kind = .commit) → requests steps = agenda (taken steps)

/-- What is asked of a call with `steps` and `result`, whatever its requests were answered. -/
structure Disciplined (c : Call) (steps : List Step) (result : Except QueueError Reply) : Prop where
  refused : ∀ e, c.fault? = some e → steps = [] ∧ result = .error e
  spared : c.fault? = none → c.isIdle = true →
    (∀ x ∈ steps, x.kind = .note) ∧ ∃ r, result = .ok r
  opened : c.fault? = none → c.isIdle = false → ∃ a rest, steps = ⟨.begin, a⟩ :: rest ∧
    match a with
    | .ok () => EndsOnce c.subject rest
    | .error _ => rest = []
  work : GoesBy c.agenda steps
  error : ∀ e, result = .error e ↔ c.fault?.or (steps.findSome? (blame c.subject)) = some e
  ok : result.isOk = (c.fault?.isNone && (c.isIdle || steps.any Step.commits))
  event : steps.countP (·.kind == .event) =
    (result.isOk && steps.any (·.kind.isStorage)).toNat

section Passing

variable {steps : List Step} {x : Step}

theorem passes_of_note (h : ∀ x ∈ steps, x.kind = .note) (subject : Subject) :
    ∀ x ∈ steps, Passes subject x := by
  intro x hx
  refine ⟨.inr (h x hx), ?_⟩
  have hkind := h x hx
  obtain ⟨r, a⟩ := x
  cases r with
  | note n => rfl
  | _ => cases hkind

variable (h : ∀ x ∈ steps, Passes subject x)
include h

theorem countP_of_passes {p : QueueRequest.Kind → Bool} (hwork : p .work = false)
    (hnote : p .note = false) : steps.countP (fun x => p x.kind) = 0 := by
  refine List.countP_eq_zero.2 fun x hx => ?_
  obtain hkind | hkind := (h x hx).1
  · simp [hkind, hwork]
  · simp [hkind, hnote]

theorem findSome?_of_passes (rest : List Step) :
    (steps ++ rest).findSome? (blame subject) = rest.findSome? (blame subject) := by
  rw [List.findSome?_append, List.findSome?_eq_none_iff.2 fun x hx => (h x hx).2, Option.none_or]

theorem any_commits_of_passes : steps.any Step.commits = false := by
  refine List.any_eq_false.2 fun x hx => ?_
  rw [Step.commits_of_kind ((h x hx).kind_ne nofun nofun)]
  exact Bool.false_ne_true

omit h in
theorem halted_of_not_work (h : ∀ y ∈ steps, y.kind ≠ .work) : steps.Pairwise fun x y =>
    (blame subject x).isSome = true ∨ x.kind.isEnd = true → y.kind ≠ .work :=
  List.Pairwise.imp_of_mem (fun _ hy _ _ => h _ hy)
    (List.pairwise_of_forall (R := fun _ _ => True) fun _ _ => trivial)

theorem halted_of_passes {rest : List Step} (hrest : ∀ y ∈ rest, y.kind ≠ .work) :
    (steps ++ x :: rest).Pairwise fun x y =>
      (blame subject x).isSome = true ∨ x.kind.isEnd = true → y.kind ≠ .work := by
  induction steps with
  | nil => exact .cons (fun y hy _ => hrest y hy) (halted_of_not_work hrest)
  | cons z steps ih =>
    obtain ⟨⟨hkind, hblame⟩, hsteps⟩ := List.forall_mem_cons.1 h
    refine .cons (fun y _ hfail => ?_) (ih hsteps)
    rcases hkind with hkind | hkind <;> simp [hblame, hkind, QueueRequest.Kind.isEnd] at hfail

end Passing

theorem announced_kind {x : Step} (h : x.kind = .note ∨ x.kind = .event) :
    x.kind ≠ .begin ∧ x.kind ≠ .work ∧ x.kind.isEnd = false := by
  rcases h with h | h <;> rw [h] <;> decide

theorem EndsOnce.of_commit {body tail : List Step} {a : Except StoreError Unit}
    (hbody : ∀ y ∈ body, Passes subject y) (htail : ∀ y ∈ tail, y.kind = .note ∨ y.kind = .event) :
    EndsOnce subject (body ++ ⟨.commit, a⟩ :: tail) where
  begun x hx := by
    simp only [List.mem_append, List.mem_cons] at hx
    rcases hx with hx | rfl | hx
    · exact (hbody x hx).kind_ne nofun nofun
    · exact nofun
    · exact (announced_kind (htail x hx)).1
  once := by
    have hzero : tail.countP (·.kind.isEnd) = 0 :=
      List.countP_eq_zero.2 fun y hy => by simp [(announced_kind (htail y hy)).2.2]
    rw [List.countP_append, countP_of_passes hbody rfl rfl, List.countP_cons, hzero]
    rfl
  committed := by
    refine ⟨fun _ x hx hwork => ?_, fun _ => ⟨⟨.commit, a⟩, by simp, rfl⟩⟩
    simp only [List.mem_append, List.mem_cons] at hx
    rcases hx with hx | rfl | hx
    · exact (hbody x hx).2
    · cases hwork
    · exact absurd hwork (announced_kind (htail x hx)).2.1
  halted := halted_of_passes hbody fun y hy => (announced_kind (htail y hy)).2.1

theorem rolledBack_kind_ne {body notes : List Step} {x : Step} {a : Except StoreError Unit}
    (hbody : ∀ y ∈ body, Passes subject y) (hx : x.kind = .work)
    (hnotes : ∀ y ∈ notes, y.kind = .note) {k : QueueRequest.Kind} (hwork : .work ≠ k)
    (hnote : .note ≠ k) (hrollback : .rollback ≠ k) :
    ∀ y ∈ body ++ x :: ⟨.rollback, a⟩ :: notes, y.kind ≠ k := by
  intro y hy
  simp only [List.mem_append, List.mem_cons] at hy
  rcases hy with hy | rfl | rfl | hy
  · exact (hbody y hy).kind_ne hwork hnote
  · exact Step.kind_ne hx hwork
  · exact hrollback
  · exact Step.kind_ne (hnotes y hy) hnote

theorem EndsOnce.of_rollback {body notes : List Step} {x : Step} {e : QueueError}
    {a : Except StoreError Unit} (hbody : ∀ y ∈ body, Passes subject y) (hwork : x.kind = .work)
    (hblame : blame subject x = some e) (hnotes : ∀ y ∈ notes, y.kind = .note) :
    EndsOnce subject (body ++ x :: ⟨.rollback, a⟩ :: notes) where
  begun := rolledBack_kind_ne hbody hwork hnotes nofun nofun nofun
  once := by
    have hpasses := passes_of_note hnotes subject
    rw [List.countP_append, countP_of_passes hbody rfl rfl, List.countP_cons, List.countP_cons,
      countP_of_passes hpasses rfl rfl, hwork]
    rfl
  committed := by
    have huncommitted := rolledBack_kind_ne (k := .commit) (a := a) hbody hwork hnotes
      nofun nofun nofun
    refine ⟨fun ⟨y, hy, hcommit⟩ => ?_, fun h => ?_⟩
    · exact absurd hcommit (huncommitted y hy)
    · rw [h x (by simp) hwork] at hblame
      cases hblame
  halted := halted_of_passes hbody fun y hy => by
    rcases List.mem_cons.1 hy with rfl | hy
    · exact nofun
    · exact Step.kind_ne (hnotes y hy) nofun

theorem GoesBy.of_eq {steps : List Step} (h : requests steps = agenda (taken steps)) :
    GoesBy agenda steps := ⟨h ▸ List.prefix_rfl, fun _ => h⟩

theorem GoesBy.of_idle {steps : List Step} (hwork : ∀ x ∈ steps, x.kind ≠ .work)
    (hcommit : ∀ x ∈ steps, x.kind ≠ .commit) : GoesBy agenda steps where
  inOrder := requests_eq_nil hwork ▸ List.nil_prefix
  whole := fun ⟨x, hx, hkind⟩ => absurd hkind (hcommit x hx)

theorem GoesBy.of_commit {body tail : List Step} (hasked : requests body = agenda (taken body))
    (htail : ∀ y ∈ tail, y.kind ≠ .work) : GoesBy agenda (⟨.begin, .ok ()⟩ :: (body ++ tail)) := by
  refine .of_eq ?_
  change requests (body ++ tail) = agenda (taken (body ++ tail))
  rw [requests_append_of htail, taken_append_of htail, hasked]

theorem GoesBy.of_rollback {body notes : List Step} {x : Step} {a : Except StoreError Unit}
    (hbody : ∀ y ∈ body, Passes subject y) (hwork : x.kind = .work)
    (hasked : requests (body ++ [x]) <+: agenda (taken (body ++ [x])))
    (hnotes : ∀ y ∈ notes, y.kind = .note) :
    GoesBy agenda (⟨.begin, .ok ()⟩ :: (body ++ x :: ⟨.rollback, a⟩ :: notes)) where
  inOrder := by
    have hidle : ∀ y : Step, y ∈ (⟨.rollback, a⟩ : Step) :: notes → y.kind ≠ .work :=
      List.forall_mem_cons.2 ⟨nofun, fun y hy => Step.kind_ne (hnotes y hy) nofun⟩
    change requests (body ++ _) <+: agenda (taken (body ++ _))
    rwa [List.append_cons, requests_append_of hidle, taken_append_of hidle]
  whole := by
    have huncommitted := rolledBack_kind_ne (k := .commit) (a := a) hbody hwork hnotes
      nofun nofun nofun
    intro ⟨y, hy, hcommit⟩
    rcases List.mem_cons.1 hy with rfl | hy
    · cases hcommit
    · exact absurd hcommit (huncommitted y hy)

theorem disciplined_begun {c : Call} {rest : List Step} {result : Except QueueError Reply}
    (hfault : c.fault? = none) (hidle : c.isIdle = false) (hrest : EndsOnce c.subject rest)
    (herror : ∀ e, result = .error e ↔ rest.findSome? (blame c.subject) = some e)
    (hok : result.isOk = rest.any Step.commits)
    (hevent : rest.countP (·.kind == .event) = result.isOk.toNat)
    (hwork : GoesBy c.agenda (⟨.begin, .ok ()⟩ :: rest)) :
    Disciplined c (⟨.begin, .ok ()⟩ :: rest) result where
  refused e h := by simp [hfault] at h
  spared _ h := by simp [hidle] at h
  opened _ _ := ⟨.ok (), rest, rfl, hrest⟩
  work := hwork
  error e := by
    rw [hfault, herror e]
    rfl
  ok := by
    rw [hok, hfault, hidle]
    rfl
  event := by
    rw [List.countP_cons, hevent]
    cases result <;> rfl

theorem UnitCourse.disciplined {c : Call} {steps : List Step} {e : QueueError}
    (hfault : c.fault? = none) (hidle : c.isIdle = false)
    (h : UnitCourse c.subject c.agenda steps (.error e : Except QueueError Call.Report)) :
    Disciplined c steps (.error e) := by
  cases h with
  | @unopened cause =>
    exact {
      refused := fun e h => by simp [hfault] at h
      spared := fun _ h => by simp [hidle] at h
      opened := fun _ _ => ⟨.error cause, [], rfl, rfl⟩
      work := .of_idle (List.forall_mem_singleton.2 nofun) (List.forall_mem_singleton.2 nofun)
      error := fun e => by
        rw [hfault]
        simp only [List.findSome?_singleton, Option.none_or, blame, Except.error.injEq,
          Option.some.injEq]
      ok := by
        rw [hfault, hidle]
        rfl
      event := rfl
    }
  | @rolledBack _ _ _ _ a hbody hwork hblame hasked hnotes =>
    have hpasses := passes_of_note hnotes c.subject
    have honce := EndsOnce.of_rollback (a := a) hbody hwork hblame hnotes
    refine disciplined_begun hfault hidle honce (fun e => ?_) ?_ ?_
      (.of_rollback hbody hwork hasked hnotes)
    · rw [findSome?_of_passes hbody, List.findSome?_cons, hblame, Option.some.injEq,
        Except.error.injEq]
    · rw [List.any_append, any_commits_of_passes hbody, List.any_cons, List.any_cons,
        any_commits_of_passes hpasses, Step.commits_of_kind (Step.kind_ne hwork nofun)]
      rfl
    · rw [List.countP_append, countP_of_passes (p := (· == .event)) hbody rfl rfl, List.countP_cons,
        List.countP_cons, countP_of_passes (p := (· == .event)) hpasses rfl rfl, hwork]
      rfl
  | uncommitted hbody hasked =>
    refine disciplined_begun hfault hidle (.of_commit hbody nofun) (fun e => ?_) ?_ ?_
      (.of_commit hasked (List.forall_mem_singleton.2 nofun))
    · rw [findSome?_of_passes hbody, Except.error.injEq]
      exact Option.some.injEq _ _ ▸ Iff.rfl
    · rw [List.any_append, any_commits_of_passes hbody]
      rfl
    · rw [List.countP_append, countP_of_passes (p := (· == .event)) hbody rfl rfl]
      rfl

theorem Course.disciplined {c : Call} {steps : List Step} {result : Except QueueError Reply}
    (h : Course c steps result) : Disciplined c steps result := by
  cases h with
  | @refused e h =>
    exact {
      refused := fun e' h' => ⟨rfl, by rw [h] at h'; cases h'; rfl⟩
      spared := fun h' => by simp [h] at h'
      opened := fun h' => by simp [h] at h'
      work := .of_idle nofun nofun
      error := fun e' => by simp [h]
      ok := by rw [h]; rfl
      event := rfl }
  | spared h hidle hsteps =>
    have hpasses := passes_of_note hsteps c.subject
    exact {
      refused := fun e' h' => by simp [h] at h'
      spared := fun _ _ => ⟨hsteps, _, rfl⟩
      opened := fun _ h' => by simp [hidle] at h'
      work := .of_idle (fun x hx => Step.kind_ne (hsteps x hx) nofun) fun x hx =>
        Step.kind_ne (hsteps x hx) nofun
      error := fun e' => by
        rw [h, ← List.append_nil steps, findSome?_of_passes hpasses]
        exact ⟨nofun, nofun⟩
      ok := by rw [h, hidle]; rfl
      event := by
        have hnone : steps.any (·.kind.isStorage) = false :=
          List.any_eq_false.2 fun x hx => by rw [hsteps x hx]; decide
        rw [countP_of_passes (p := (· == .event)) hpasses rfl rfl, hnone]
        rfl }
  | failed hfault hidle hunit => exact hunit.disciplined hfault hidle
  | @succeeded _ notes event _ _ hfault hidle hunit hnotes =>
    cases hunit with
    | @committed body _ hbody hasked =>
      have hpasses := passes_of_note hnotes c.subject
      have htail : ∀ y ∈ notes ++ [(⟨.emit event, ()⟩ : Step)], y.kind = .note ∨ y.kind = .event :=
        List.forall_mem_append.2 ⟨fun y hy => .inl (hnotes y hy),
          List.forall_mem_singleton.2 (.inr rfl)⟩
      have hafter : ∀ y : Step, y ∈ (⟨.commit, .ok ()⟩ : Step) :: (notes ++ [⟨.emit event, ()⟩]) →
          y.kind ≠ .work :=
        List.forall_mem_cons.2 ⟨nofun, fun y hy => (announced_kind (htail y hy)).2.1⟩
      rw [List.cons_append, List.append_assoc, List.singleton_append]
      refine disciplined_begun hfault hidle (.of_commit hbody htail) (fun e => ?_) ?_ ?_
        (.of_commit hasked hafter)
      · rw [findSome?_of_passes hbody, List.findSome?_cons]
        change _ ↔ List.findSome? _ (_ ++ _) = _
        rw [findSome?_of_passes hpasses]
        exact ⟨nofun, nofun⟩
      · rw [List.any_append, any_commits_of_passes hbody]
        rfl
      · rw [List.countP_append, countP_of_passes (p := (· == .event)) hbody rfl rfl,
          List.countP_cons, List.countP_append,
          countP_of_passes (p := (· == .event)) hpasses rfl rfl]
        rfl

theorem Disciplined.unblamed {c : Call} {steps : List Step} {result : Except QueueError Reply}
    (h : Disciplined c steps result) (hcommit : ∃ x ∈ steps, x.kind = .commit) :
    ∀ x ∈ steps, x.kind = .work → blame c.subject x = none := by
  obtain ⟨y, hy, hkind⟩ := hcommit
  cases hfault : c.fault? with
  | some e =>
    rw [(h.refused e hfault).1] at hy
    cases hy
  | none =>
    cases hidle : c.isIdle with
    | true =>
      rw [(h.spared hfault hidle).1 y hy] at hkind
      cases hkind
    | false =>
      obtain ⟨a, rest, rfl, hrest⟩ := h.opened hfault hidle
      cases a with
      | error e =>
        subst hrest
        cases List.mem_singleton.1 hy
        cases hkind
      | ok a =>
        rcases List.mem_cons.1 hy with rfl | hy
        · cases hkind
        · exact List.forall_mem_cons.2 ⟨nofun, hrest.committed.1 ⟨y, hy, hkind⟩⟩

theorem Disciplined.passed {c : Call} {steps : List Step} {result : Except QueueError Reply}
    (h : Disciplined c steps result) (hcommit : ∃ x ∈ steps, x.kind = .commit)
    {r : QueueRequest hookCall} (hr : r ∈ c.agenda (taken steps)) :
    ∃ x ∈ steps, x.request = r ∧ blame c.subject x = none := by
  rw [← h.work.whole hcommit] at hr
  obtain ⟨x, hmem, hwork, hx⟩ := mem_requests hr
  exact ⟨x, hmem, hx, h.unblamed hcommit x hmem hwork⟩

theorem Disciplined.found {archives : Archives} {id : ItemId} {steps : List Step}
    {result : Except QueueError Reply} (h : Disciplined (.commit archives id) steps result)
    (hcommit : ∃ x ∈ steps, x.kind = .commit) : (⟨.app (), .ok ()⟩ : Step) ∈ steps ∧
      ∃ n : UInt64, n ≠ 0 ∧ (⟨.store (.delete id .processing), .ok n⟩ : Step) ∈ steps := by
  constructor
  · obtain ⟨⟨_, a⟩, hmem, rfl, hpasses⟩ := h.passed hcommit List.mem_cons_self
    cases a with
    | error e => cases hpasses
    | ok => exact hmem
  · obtain ⟨⟨_, a⟩, hmem, rfl, hpasses⟩ :=
      h.passed hcommit (List.mem_cons_of_mem _ List.mem_cons_self)
    cases a with
    | error e => cases hpasses
    | ok n => exact ⟨n, fun hzero => by simp [blame, hzero] at hpasses, hmem⟩

/-- Every call goes about its unit of work in the same way, whatever storage it runs on, whatever
the application's step does in it, and wherever a failure strikes. -/
theorem Call.unit_discipline {X : Effects} {σ : Type} (answer : Answers X σ) (hook : Hook X)
    (c : Call) (s : σ) :
    let steps : List Step := (c.program .call).trace (answer.withHook hook) s
    Expands answer hook ((c.program hook).trace answer s) steps ∧
      Disciplined c steps ((c.program hook).exec answer s).1 ∧
      ∀ archives id, c = .commit archives id → (∃ x ∈ steps, x.kind = .commit) →
        (⟨.app (), .ok ()⟩ : Step) ∈ steps ∧
          ∃ n : UInt64, n ≠ 0 ∧ (⟨.store (.delete id .processing), .ok n⟩ : Step) ∈ steps := by
  -- With the application's step as one exchange, only the shape of the call counts.
  obtain ⟨hexec, hexpands⟩ := c.mirrors answer hook s
  have hdisciplined := (Course.program (answer.withHook hook) c s).disciplined
  rw [hexec]
  refine ⟨hexpands, hdisciplined, ?_⟩
  rintro archives id rfl hcommit
  exact hdisciplined.found hcommit

end Queue

end WorkQueue
