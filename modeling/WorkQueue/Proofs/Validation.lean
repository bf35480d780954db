import WorkQueue.Queue.Maintenance

namespace WorkQueue

structure Rule where
  key : String
  reason : String
  broken : Bool

namespace Rule

def error (r : Rule) : QueueError := .config r.key r.reason

def check (rules : List Rule) : Except QueueError Unit :=
  match rules.find? (·.broken) with
  | some r => .error r.error
  | none => .ok ()

variable {rules later : List Rule} {e : QueueError}

theorem check_eq_ok_iff : check rules = .ok () ↔ ∀ r ∈ rules, r.broken = false := by
  rw [check]
  cases hfound : rules.find? (·.broken) with
  | none => simpa using hfound
  | some r => simpa using ⟨r, List.mem_of_find?_eq_some hfound, List.find?_some hfound⟩

theorem check_eq_error_iff : check rules = .error e ↔ ∃ before r after,
    rules = before ++ r :: after ∧ (∀ x ∈ before, x.broken = false) ∧ r.broken = true ∧
      e = r.error := by
  rw [check]
  constructor
  · intro h
    split at h
    · next r hfound =>
      cases h
      obtain ⟨hr, before, after, rfl, hbefore⟩ := List.find?_eq_some_iff_append.1 hfound
      exact ⟨before, r, after, rfl, by simpa using hbefore, hr, rfl⟩
    · cases h
  · rintro ⟨before, r, after, rfl, hbefore, hr, rfl⟩
    have hfound : (before ++ r :: after).find? (·.broken) = some r :=
      List.find?_eq_some_iff_append.2 ⟨hr, before, after, rfl, by simpa using hbefore⟩
    rw [hfound]

theorem check_append : check (rules ++ later) = check rules >>= fun _ => check later := by
  simp only [check, List.find?_append]
  cases rules.find? (·.broken) <;> rfl

end Rule

def BatchLimits.rules (l : BatchLimits) : List Rule :=
  l.entries.map fun (key, limit) => ⟨key, "limit value is zero", limit == 0⟩

def MaintenanceConfig.rules (m : MaintenanceConfig) : List Rule := [
  ⟨"maintenance.change_interval", "must be positive", m.changeInterval.isZero⟩,
  ⟨"maintenance.clean_interval", "must be positive", m.cleanInterval.isZero⟩]

def QueueConfig.rules (c : QueueConfig) : List Rule :=
  c.limits.rules ++
    ⟨"worker.workers", "at least one worker is required", c.worker.workers == 0⟩ ::
    ⟨"worker.handle_timeout", "must be positive", c.worker.handleTimeout.isZero⟩ ::
    c.maintenance.rules

theorem BatchLimits.validate_eq (l : BatchLimits) : l.validate = Rule.check l.rules := by
  rw [validate, Rule.check, rules, List.find?_map, Function.comp_def]
  cases l.entries.find? (·.2 == 0) <;> rfl

theorem MaintenanceConfig.validate_eq (m : MaintenanceConfig) :
    m.validate = Rule.check m.rules := by
  rw [validate, Rule.check, rules]
  cases hchange : m.changeInterval.isZero <;> cases hclean : m.cleanInterval.isZero <;> rfl

theorem QueueConfig.validate_eq (c : QueueConfig) : c.validate = Rule.check c.rules := by
  rw [validate, rules, Rule.check_append, ← BatchLimits.validate_eq]
  congr 1
  funext _
  rw [MaintenanceConfig.validate_eq]
  cases hworkers : c.worker.workers == 0 <;> cases htimeout : c.worker.handleTimeout.isZero <;> rfl

theorem Maintenance.validate_eq (m : Maintenance) :
    m.validate = Rule.check (m.limits.rules ++ m.config.rules) := by
  rw [validate, Rule.check_append, ← BatchLimits.validate_eq, ← MaintenanceConfig.validate_eq]

theorem Maintenance.positive_of_validate {m : Maintenance} (h : m.validate = .ok ()) :
    m.limits.readItems ≠ 0 ∧ m.limits.changeProcessingToRetry ≠ 0 ∧
      m.limits.changeRetryToReady ≠ 0 ∧ m.limits.removeItemsWithoutAttempts ≠ 0 ∧
      m.limits.removeCompletedItems ≠ 0 ∧ m.limits.removeBrokenItems ≠ 0 := by
  rw [validate_eq, Rule.check_eq_ok_iff, List.forall_mem_append] at h
  simpa [BatchLimits.rules, BatchLimits.entries] using h.1

end WorkQueue
