import WorkQueue.Proofs.Collaborator
import WorkQueue.Proofs.Discipline

namespace WorkQueue

namespace Queue

def emitted? : Step → Option Event
  | ⟨.emit e, _⟩ => some e
  | _ => none

theorem emitted?_of_kind {x : Step} (h : x.kind ≠ .event) : emitted? x = none := by
  obtain ⟨r, a⟩ := x
  cases r with
  | emit e => exact absurd rfl h
  | _ => rfl

theorem filterMap_emitted? {steps : List Step} (h : ∀ x ∈ steps, x.kind ≠ .event) :
    steps.filterMap emitted? = [] := by
  rw [List.filterMap_eq_nil_iff]
  intro x hx
  exact emitted?_of_kind (h x hx)

theorem Passes.quiet {subject : Subject} {x : Step} (h : Passes subject x) : x.kind ≠ .event :=
  h.kind_ne nofun nofun

theorem UnitCourse.quiet {subject : Subject} {agenda : Agenda} {α : Type} {steps : List Step}
    {result : Except QueueError α} (h : UnitCourse subject agenda steps result) :
    ∀ x ∈ steps, x.kind ≠ .event := by
  intro x hx
  cases h with
  | unopened =>
    cases List.mem_singleton.1 hx
    exact nofun
  | rolledBack hbody hwork _ _ hnotes =>
    simp only [List.mem_cons, List.mem_append] at hx
    rcases hx with rfl | hx | rfl | rfl | hx
    · exact nofun
    · exact (hbody x hx).quiet
    · simp [hwork]
    · exact nofun
    · simp [hnotes x hx]
  | uncommitted hbody | committed hbody =>
    simp only [List.mem_cons, List.mem_append, List.not_mem_nil, or_false] at hx
    rcases hx with rfl | hx | rfl
    · exact nofun
    · exact (hbody x hx).quiet
    · exact nofun

end Queue

namespace Memory

open Queue Operation

/-- What a call on the tables `t` that begins at `now` is answered, what it emits, and what it makes
of the tables. -/
inductive Outcome (S : UnitOfWork → UnitOfWork → Prop) (now : Instant) (t : Tables) (c : Call) :
    Except QueueError Reply → List Event → Tables → Prop
  | failed {e} : Outcome S now t c (.error e) [] t
  | spared {r} (hfault : c.fault? = none) (hidle : c.isIdle = true) : Outcome S now t c (.ok r) [] t
  | worked {u v w r} (hfault : c.fault? = none) (before : Beside S (hooks c) (.begin t now) u)
    (works : Works u c r v) (after : Beside S (purges c) v w) :
    Outcome S now t c (.ok r) [eventOf u r c] w.tables

namespace Collaborator

variable {S : UnitOfWork → UnitOfWork → Prop} (g : Collaborator S)

def events (c : Call) (b : Backend) : List Event :=
  ((c.program .call).trace g.serve b).filterMap emitted?

theorem announce_engine (r : Call.Report) (b : Backend) :
    ((Call.announce r).exec g.serve b).2.engine = b.engine := by
  obtain ⟨_ | n, activity, data, reply⟩ := r <;> rfl

theorem announce_events (r : Call.Report) (b : Backend) :
    ((Call.announce r).trace g.serve b).filterMap emitted? = [.of r.activity r.data] := by
  obtain ⟨notes, hnotes, htrace⟩ := Call.trace_announce g.serve r b
  have quiet : notes.filterMap emitted? = [] := by
    apply filterMap_emitted?
    intro x hx
    simp [hnotes x hx]
  simp [htrace, quiet, emitted?]

theorem spare_outcome (c : Call) (b : Backend) : (c.spare.exec g.serve b).2.engine = b.engine ∧
    (c.spare.trace g.serve b).filterMap emitted? = [] ∧
      ∃ r, (c.spare.exec g.serve b).1 = .ok r := by
  cases c with
  | _ => exact ⟨rfl, rfl, _, rfl⟩

theorem begin_eq {b : Backend} {t : Tables} (hb : b.engine = .idle t) :
    b.begin = (.ok (), { b with engine := .busy (.begin t b.clock.now) }) := by
  rw [Backend.begin, Backend.beginAt, hb]
  rfl

theorem serve_begin {b : Backend} {t : Tables} (hb : b.engine = .idle t) :
    g.serve .begin b = (.ok (), b.begin.2) := by
  change b.begin = _
  rw [begin_eq hb]
  rfl

theorem serve_commit {b : Backend} {u : UnitOfWork} (hb : b.engine = .busy u) :
    g.serve .commit b =
      (.ok (), { b with engine := .idle u.tables }.write (.notice .unitCommitted)) := by
  change b.commit = _
  rw [Backend.commit, hb]
  rfl

theorem serve_rollback {b : Backend} {u : UnitOfWork} (hb : b.engine = .busy u) :
    g.serve .rollback b =
      (.ok (), { b with engine := .idle u.rolledBack }.write (.notice .unitRolledBack)) := by
  change b.rollback = _
  rw [Backend.rollback, hb]
  rfl

section Run

variable {g} {c : Call} {b : Backend} {t : Tables}

theorem begin_engine (hb : b.engine = .idle t) :
    b.begin.2.engine = .busy (.begin t b.clock.now) := by
  rw [begin_eq hb]

theorem run_unit (hb : b.engine = .idle t) (hfault : c.fault? = none) (hidle : c.isIdle = false)
    {result : Except QueueError Call.Report} {b' : Backend}
    (hwork : (c.work .call).exec g.serve b.begin.2 = (result, b')) :
    match result with
    | .error e => (g.run c b).1 = .error e ∧ (g.run c b).2.engine = .idle t ∧ g.events c b = []
    | .ok report => (g.run c b).1 = .ok report.reply ∧
      (g.run c b).2.engine = .idle b'.engine.tables ∧
      g.events c b = [.of report.activity report.data] := by
  have quiet := filterMap_emitted? ((FailStop.work c).inUnit g.serve b).quiet
  simp only [run, events, Call.program_eq, hfault, hidle, Call.guarded, Bool.false_eq_true,
    if_false, exec_bind, trace_bind, List.filterMap_append, quiet, List.nil_append, exec_inUnit,
    serve_begin g hb, hwork]
  obtain ⟨w, hw, hundo, -⟩ := (Does.work g c).busy (begin_engine hb)
  rw [hwork] at hw
  cases result with
  | error e =>
    -- The work stopped somewhere, and whatever it wrote until then is taken back.
    have hback : w.rolledBack = t := (hundo t (.begin t _)).rolledBack
    simp [exec_rollback, serve_rollback g hw, Backend.write, hback]
  | ok report =>
    have htables : b'.engine.tables = w.tables := congrArg Engine.tables hw
    simp [serve_commit g hw, announce_engine, announce_events, Call.exec_announce, Backend.write,
      htables]

theorem run_result (hb : b.engine = .idle t) (hfault : c.fault? = none) (hidle : c.isIdle = false) :
    (g.run c b).1 = ((c.work .call).exec g.serve b.begin.2).1.map (·.reply) := by
  generalize hended : (c.work .call).exec g.serve b.begin.2 = ended
  obtain ⟨e | report, b'⟩ := ended
  · exact (run_unit hb hfault hidle hended).1
  · exact (run_unit hb hfault hidle hended).1

theorem run_outcome (hb : b.engine = .idle t) :
    ∃ t', (g.run c b).2.engine = .idle t' ∧
      Outcome S b.clock.now t c (g.run c b).1 (g.events c b) t' := by
  cases hfault : c.fault? with
  | some e =>
    rw [run, events, Call.program_eq, hfault]
    exact ⟨t, hb, .failed⟩
  | none =>
    cases hidle : c.isIdle with
    | true =>
      obtain ⟨hengine, hevents, r, hr⟩ := spare_outcome g c b
      simp only [run, events, Call.program_eq, hfault, hidle, Call.guarded, if_true, hr, hevents]
      exact ⟨t, hengine.trans hb, .spared hfault hidle⟩
    | false =>
      obtain ⟨w, hw, -, hworks⟩ := (Does.work g c).busy (begin_engine hb)
      generalize hended : (c.work .call).exec g.serve b.begin.2 = ended at hw hworks
      obtain ⟨e | report, b'⟩ := ended
      · obtain ⟨hresult, hengine, hevents⟩ := run_unit hb hfault hidle hended
        rw [hresult, hevents]
        exact ⟨t, hengine, .failed⟩
      · obtain ⟨hresult, hengine, hevents⟩ := run_unit hb hfault hidle hended
        obtain ⟨u, v, hbefore, hv, hafter, htold⟩ := hworks report rfl
        rw [hresult, hevents, htold]
        refine ⟨w.tables, ?_, .worked hfault hbefore hv hafter⟩
        rw [hengine, hw]
        rfl

end Run

end Collaborator

end Memory

end WorkQueue
