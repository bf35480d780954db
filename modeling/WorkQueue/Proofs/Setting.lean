import WorkQueue.Proofs.Trim
import WorkQueue.Proofs.Validation

namespace WorkQueue

def QueueConfig.checked (c : QueueConfig) : Except LoadError QueueConfig :=
  match c.validate with
  | .ok () => .ok c
  | .error e => .error (.refused e)

theorem QueueConfig.checked_eq (c : QueueConfig) :
    c.checked = c.validate.mapError .refused >>= fun _ => .ok c := by
  rw [checked]
  cases c.validate <;> rfl

structure Setting where
  name : String
  Value : Type
  read : List Char → Except ValueFault Value
  text : Value → List Char
  get : QueueConfig → Value
  set : QueueConfig → Value → QueueConfig

namespace Setting

def duration (name : String) (get : QueueConfig → Duration)
    (set : QueueConfig → Duration → QueueConfig) : Setting where
  name := name
  Value := Duration
  read cs := (Duration.read cs).mapError DurationError.valueFault
  text d := d.text.toList
  get := get
  set := set

def limit (name : String) (get : BatchLimits → UInt32) (set : BatchLimits → UInt32 → BatchLimits) :
    Setting where
  name := name
  Value := UInt32
  read cs := ((readNumber UInt32.size cs).map UInt32.ofNat).mapError NumberError.valueFault
  text n := Nat.toDigits 10 n.toNat
  get c := get c.limits
  set c n := { c with limits := set c.limits n }

def workers : Setting where
  name := "MRQUEUE_WORKERS"
  Value := UInt64
  read cs := ((readNumber UInt64.size cs).map UInt64.ofNat).mapError NumberError.valueFault
  text n := Nat.toDigits 10 n.toNat
  get c := c.worker.workers
  set c n := { c with worker.workers := n }

def all : List Setting := [
  duration "MRQUEUE_RETRY_TIMEOUT" (·.retryTimeout) fun c d => { c with retryTimeout := d },
  duration "MRQUEUE_RETRY_DELAY" (·.retryDelay) fun c d => { c with retryDelay := d },
  duration "MRQUEUE_COMPLETED_EXPIRY" (·.completedExpiry) fun c d =>
    { c with completedExpiry := d },
  duration "MRQUEUE_BROKEN_EXPIRY" (·.brokenExpiry) fun c d => { c with brokenExpiry := d },
  duration "MRQUEUE_POLL_INTERVAL" (·.worker.pollInterval) fun c d =>
    { c with worker.pollInterval := d },
  duration "MRQUEUE_POLL_JITTER" (·.worker.pollJitter) fun c d =>
    { c with worker.pollJitter := d },
  duration "MRQUEUE_ERROR_BACKOFF" (·.worker.errorBackoff) fun c d =>
    { c with worker.errorBackoff := d },
  duration "MRQUEUE_HANDLE_TIMEOUT" (·.worker.handleTimeout) fun c d =>
    { c with worker.handleTimeout := d },
  duration "MRQUEUE_CHANGE_INTERVAL" (·.maintenance.changeInterval) fun c d =>
    { c with maintenance.changeInterval := d },
  duration "MRQUEUE_CLEAN_INTERVAL" (·.maintenance.cleanInterval) fun c d =>
    { c with maintenance.cleanInterval := d },
  limit "MRQUEUE_READ_LIMIT" (·.readItems) fun l n => { l with readItems := n },
  limit "MRQUEUE_CHANGE_TIMEOUT_LIMIT" (·.changeProcessingToRetry) fun l n =>
    { l with changeProcessingToRetry := n },
  limit "MRQUEUE_CHANGE_RETRY_LIMIT" (·.changeRetryToReady) fun l n =>
    { l with changeRetryToReady := n },
  limit "MRQUEUE_REMOVE_WITHOUT_ATTEMPTS_LIMIT" (·.removeItemsWithoutAttempts) fun l n =>
    { l with removeItemsWithoutAttempts := n },
  limit "MRQUEUE_REMOVE_COMPLETED_LIMIT" (·.removeCompletedItems) fun l n =>
    { l with removeCompletedItems := n },
  limit "MRQUEUE_REMOVE_BROKEN_LIMIT" (·.removeBrokenItems) fun l n =>
    { l with removeBrokenItems := n },
  workers]

def toVariable (s : Setting) : Variable := ⟨s.name, fun cs c => (s.read cs).map (s.set c)⟩

/-- A value that is printed reads back, a field holds what it was last set to, and there is no
overrun but in a duration. -/
structure Lawful (s : Setting) : Prop where
  read_text : ∀ v, s.read (Text.trim (s.text v)) = .ok v
  get_set : ∀ c v, s.get (s.set c v) = v
  overrun : ∀ cs, s.read cs = .error .overrun → Duration.read cs = .error .overrun

def Apart (s t : Setting) : Prop := ∀ c v, t.get (s.set c v) = t.get c

section Table

variable {name : String}

theorem toVariable_duration (get : QueueConfig → Duration)
    (set : QueueConfig → Duration → QueueConfig) :
    (duration name get set).toVariable = .duration name set := by
  simp only [toVariable, duration, Variable.duration, Variable.mk.injEq, true_and]
  funext cs c
  cases Duration.read cs <;> rfl

theorem toVariable_limit (get : BatchLimits → UInt32) (set : BatchLimits → UInt32 → BatchLimits) :
    (limit name get set).toVariable = .limit name set := by
  simp only [toVariable, limit, Variable.limit, Variable.mk.injEq, true_and]
  funext cs c
  cases readNumber UInt32.size cs <;> rfl

theorem toVariable_workers : workers.toVariable = ⟨"MRQUEUE_WORKERS", fun cs c =>
    (readNumber UInt64.size cs).map (fun n => { c with worker.workers := UInt64.ofNat n })
      |>.mapError NumberError.valueFault⟩ := by
  simp only [toVariable, workers, Variable.mk.injEq, true_and]
  funext cs c
  cases readNumber UInt64.size cs <;> rfl

theorem map_toVariable_all : all.map toVariable = Variable.all := by
  simp only [all, List.map_cons, List.map_nil, toVariable_duration, toVariable_limit,
    toVariable_workers]
  rfl

theorem lawful_duration {get : QueueConfig → Duration}
    {set : QueueConfig → Duration → QueueConfig} (h : ∀ c d, get (set c d) = d) :
    (duration name get set).Lawful where
  read_text d := by
    simp only [duration, d.read_trim_text]
    rfl
  get_set := h
  overrun cs hread := by
    simp only [duration] at hread
    cases hd : Duration.read cs with
    | ok d => simp [hd, Except.mapError] at hread
    | error e => cases e <;> simp [hd, Except.mapError, DurationError.valueFault] at hread ⊢

theorem count_ne_overrun {α : Type} (n : Except NumberError Nat) (f : Nat → α) :
    (n.map f).mapError NumberError.valueFault ≠ .error .overrun := by
  cases n <;> simp [Except.map, Except.mapError, NumberError.valueFault]

theorem lawful_limit {get : BatchLimits → UInt32} {set : BatchLimits → UInt32 → BatchLimits}
    (h : ∀ l n, get (set l n) = n) : (limit name get set).Lawful where
  read_text n := by
    simp only [limit, readNumber_toDigits n.toNat_lt_size, Except.map, Except.mapError]
    exact congrArg Except.ok UInt32.ofNat_toNat
  get_set c n := h c.limits n
  overrun _ hread := absurd hread (count_ne_overrun _ _)

theorem lawful_workers : workers.Lawful where
  read_text n := by
    simp only [workers, readNumber_toDigits n.toNat_lt_size, Except.map, Except.mapError]
    exact congrArg Except.ok UInt64.ofNat_toNat
  get_set _ _ := rfl
  overrun _ hread := absurd hread (count_ne_overrun _ _)

theorem lawful_all : ∀ s ∈ all, s.Lawful := by
  simp only [all, List.forall_mem_cons, List.not_mem_nil, false_imp_iff, implies_true, and_true]
  refine ⟨?_, ?_, ?_, ?_, ?_, ?_, ?_, ?_, ?_, ?_, ?_, ?_, ?_, ?_, ?_, ?_, lawful_workers⟩
  iterate 10 exact lawful_duration fun _ _ => rfl
  all_goals exact lawful_limit fun _ _ => rfl

theorem nodup_names : (all.map Setting.name).Nodup := by decide

theorem apart_all : all.Pairwise fun s t => s.Apart t ∧ t.Apart s := by
  simp [all, Apart, duration, limit, workers]

theorem apart_of_ne {s t : Setting} (hs : s ∈ all) (ht : t ∈ all) (h : s ≠ t) : s.Apart t := by
  have : Std.Symm fun s t : Setting => s.Apart t ∧ t.Apart s := ⟨fun _ _ => And.symm⟩
  exact (apart_all.forall hs ht h).1

theorem ext_all {c c' : QueueConfig} (h : ∀ s ∈ all, s.get c = s.get c') : c = c' := by
  obtain ⟨_, _, _, _, ⟨⟩, ⟨⟩, ⟨⟩⟩ := c
  obtain ⟨_, _, _, _, ⟨⟩, ⟨⟩, ⟨⟩⟩ := c'
  simp only [all, duration, limit, workers, List.forall_mem_cons] at h
  simp [h]

end Table

section Loading

variable {s t : Setting} {ss : List Setting} {lookup : String → Option String} {c c' : QueueConfig}

def value? (lookup : String → Option String) (s : Setting) : Option s.Value :=
  (lookup s.name).bind fun raw => (s.read (Text.trim raw.toList)).toOption

def fault? (lookup : String → Option String) (s : Setting) : Option LoadError :=
  match lookup s.name with
  | none => none
  | some raw =>
    match s.read (Text.trim raw.toList) with
    | .ok _ => none
    | .error fault => some (fault.inVariable s.name)

def Overruns (lookup : String → Option String) (s : Setting) : Prop :=
  ∃ raw, lookup s.name = some raw ∧ s.read (Text.trim raw.toList) = .error .overrun

def put (lookup : String → Option String) (c : QueueConfig) (s : Setting) : QueueConfig :=
  match s.value? lookup with
  | none => c
  | some v => s.set c v

/-- What the variables say of the settings `ss`, and `c` elsewhere. -/
def overlay (lookup : String → Option String) (ss : List Setting) (c : QueueConfig) :
    QueueConfig :=
  ss.foldl (put lookup) c

def Holds (lookup : String → Option String) (c : QueueConfig) (s : Setting) : Prop :=
  match lookup s.name with
  | none => s.get c = s.get .default
  | some raw => s.read (Text.trim raw.toList) = .ok (s.get c)

theorem load_toVariable : Variable.load lookup c s.toVariable = match s.fault? lookup with
    | some e => .error e
    | none => .ok (s.put lookup c) := by
  simp only [Variable.load, toVariable, fault?, put, value?]
  cases lookup s.name with
  | none => rfl
  | some raw =>
    simp only [Option.bind_some]
    cases s.read (Text.trim raw.toList) <;> rfl

theorem foldlM_load : (ss.map toVariable).foldlM (Variable.load lookup) c =
    match ss.findSome? (fault? lookup) with
    | some e => .error e
    | none => .ok (overlay lookup ss c) := by
  induction ss generalizing c with
  | nil => rfl
  | cons s ss ih =>
    rw [List.map_cons, List.foldlM_cons, load_toVariable, List.findSome?_cons]
    cases s.fault? lookup with
    | some e => rfl
    | none => exact ih

theorem ofLookup_eq : QueueConfig.ofLookup lookup = match all.findSome? (fault? lookup) with
    | some e => .error e
    | none => (overlay lookup all .default).checked := by
  rw [QueueConfig.ofLookup, ← map_toVariable_all, foldlM_load]
  cases all.findSome? (fault? lookup) with
  | some e => rfl
  | none => exact (overlay lookup all .default).checked_eq.symm

theorem Lawful.get_put (h : s.Lawful) :
    s.get (s.put lookup c) = (s.value? lookup).getD (s.get c) := by
  rw [put]
  cases s.value? lookup with
  | none => rfl
  | some v => exact h.get_set c v

theorem Apart.get_put (h : t.Apart s) : s.get (t.put lookup c) = s.get c := by
  rw [put]
  cases t.value? lookup with
  | none => rfl
  | some v => exact h c v

theorem get_overlay_of_apart (h : ∀ t ∈ ss, t.Apart s) :
    s.get (overlay lookup ss c) = s.get c := by
  induction ss generalizing c with
  | nil => rfl
  | cons t ss ih =>
    rw [List.forall_mem_cons] at h
    exact (ih h.2).trans h.1.get_put

theorem get_overlay (hlawful : ∀ t ∈ ss, t.Lawful)
    (hapart : ss.Pairwise fun t t' => t.Apart t' ∧ t'.Apart t) (hs : s ∈ ss) :
    s.get (overlay lookup ss c) = (s.value? lookup).getD (s.get c) := by
  induction ss generalizing c with
  | nil => cases hs
  | cons t ss ih =>
    rw [List.pairwise_cons] at hapart
    rw [List.forall_mem_cons] at hlawful
    rcases List.mem_cons.1 hs with rfl | hs
    · exact (get_overlay_of_apart fun t ht => (hapart.1 t ht).2).trans hlawful.1.get_put
    · exact (ih hlawful.2 hapart.2 hs).trans (congrArg _ (hapart.1 s hs).1.get_put)

theorem holds_iff : s.Holds lookup c ↔
    s.fault? lookup = none ∧ s.get c = (s.value? lookup).getD (s.get .default) := by
  simp only [Holds, fault?, value?]
  cases lookup s.name with
  | none => simp
  | some raw =>
    cases hread : s.read (Text.trim raw.toList) with
    | error fault => simp [hread]
    | ok v => simp [hread, Except.toOption, eq_comm]

theorem holds_unique (h : ∀ s ∈ all, s.Holds lookup c) (h' : ∀ s ∈ all, s.Holds lookup c') :
    c = c' :=
  ext_all fun s hs => (holds_iff.1 (h s hs)).2.trans (holds_iff.1 (h' s hs)).2.symm

theorem holds_overlay (h : ∀ s ∈ all, s.fault? lookup = none) :
    ∀ s ∈ all, s.Holds lookup (overlay lookup all .default) := fun s hs =>
  holds_iff.2 ⟨h s hs, get_overlay lawful_all apart_all hs⟩

theorem named_iff {e : LoadError} (h : s.fault? lookup = some e) :
    (∃ reason, e = .refused (.config s.name reason)) ↔ ¬s.Overruns lookup := by
  simp only [fault?] at h
  cases hraw : lookup s.name with
  | none => simp [hraw] at h
  | some raw =>
    simp only [hraw] at h
    cases hread : s.read (Text.trim raw.toList) with
    | ok v => simp [hread] at h
    | error fault =>
      simp only [hread, Option.some.injEq] at h
      subst h
      cases fault <;> simp [Overruns, hraw, hread, ValueFault.inVariable]

theorem Lawful.overruns (h : s.Lawful) : s.Overruns lookup →
    ∃ raw, lookup s.name = some raw ∧ Duration.read (Text.trim raw.toList) = .error .overrun :=
  fun ⟨raw, hraw, hread⟩ => ⟨raw, hraw, h.overrun _ hread⟩

theorem eq_of_name (hs : s ∈ all) (ht : t ∈ all) (h : s.name = t.name) : s = t :=
  List.inj_on_of_nodup_map nodup_names hs ht h

theorem eq_set (hs : s ∈ all) (h : ∀ t ∈ all, t ≠ s → t.get c' = t.get c) :
    c' = s.set c (s.get c') := by
  refine ext_all fun t ht => ?_
  by_cases hne : t = s
  · cases hne
    exact ((lawful_all s hs).get_set c (s.get c')).symm
  · exact (h t ht hne).trans (apart_of_ne hs ht (Ne.symm hne) c _).symm

end Loading

end Setting

namespace QueueConfig

def Misread (lookup : String → Option String) (e : LoadError) : Prop :=
  ∃ before s after, Setting.all = before ++ s :: after ∧
    (∀ t ∈ before, t.fault? lookup = none) ∧ s.fault? lookup = some e

def Breaks (c : QueueConfig) (e : LoadError) : Prop :=
  ∃ before r after, c.rules = before ++ r :: after ∧ (∀ x ∈ before, x.broken = false) ∧
    r.broken = true ∧ e = .refused r.error

structure Decodes (lookup : String → Option String) : Prop where
  loaded : ∀ c, ofLookup lookup = .ok c ↔
    (∀ s ∈ Setting.all, s.Holds lookup c) ∧ c.validate = .ok ()
  failed : ∀ e, ofLookup lookup = .error e ↔
    Misread lookup e ∨ ∃ c, (∀ s ∈ Setting.all, s.Holds lookup c) ∧ c.Breaks e
  /-- The error names the variable, unless a sum overruns. -/
  named : ∀ s ∈ Setting.all, ∀ e, s.fault? lookup = some e →
    ((∃ reason, e = .refused (.config s.name reason)) ↔ ¬s.Overruns lookup)
  overrun : ∀ s ∈ Setting.all, s.Overruns lookup → ∃ raw, lookup s.name = some raw ∧
    Duration.read (Text.trim raw.toList) = .error .overrun
  separate : ∀ s ∈ Setting.all, ∀ lookup', (∀ name, name ≠ s.name → lookup' name = lookup name) →
    ∀ c c', ofLookup lookup = .ok c → ofLookup lookup' = .ok c' → c' = s.set c (s.get c')

def printed (c : QueueConfig) (name : String) : Option String :=
  (Setting.all.find? (·.name == name)).map fun s => String.ofList (s.text (s.get c))

section Outcomes

variable {lookup : String → Option String} {c : QueueConfig} {e : LoadError}

theorem misread_iff :
    Misread lookup e ↔ Setting.all.findSome? (Setting.fault? lookup) = some e := by
  rw [List.findSome?_eq_some_iff]
  constructor
  · rintro ⟨before, s, after, hall, hbefore, hs⟩
    exact ⟨before, s, after, hall, hs, hbefore⟩
  · rintro ⟨before, s, after, hall, hs, hbefore⟩
    exact ⟨before, s, after, hall, hbefore, hs⟩

theorem breaks_iff : c.Breaks e ↔ ∃ e', c.validate = .error e' ∧ e = .refused e' := by
  simp only [validate_eq, Rule.check_eq_error_iff]
  constructor
  · rintro ⟨before, r, after, hrules, hbefore, hr, rfl⟩
    exact ⟨r.error, ⟨before, r, after, hrules, hbefore, hr, rfl⟩, rfl⟩
  · rintro ⟨_, ⟨before, r, after, hrules, hbefore, hr, rfl⟩, rfl⟩
    exact ⟨before, r, after, hrules, hbefore, hr, rfl⟩

theorem ofLookup_cases (lookup : String → Option String) :
    (∃ e, Misread lookup e ∧ ofLookup lookup = .error e ∧
        ∀ c, ¬∀ s ∈ Setting.all, s.Holds lookup c) ∨
      ∃ c, (∀ s ∈ Setting.all, s.Holds lookup c) ∧ (∀ e, ¬Misread lookup e) ∧
        ofLookup lookup = c.checked := by
  rw [Setting.ofLookup_eq]
  cases hfault : Setting.all.findSome? (Setting.fault? lookup) with
  | some e =>
    obtain ⟨s, hs, hsome⟩ := List.exists_of_findSome?_eq_some hfault
    refine .inl ⟨e, misread_iff.2 hfault, rfl, fun c h => ?_⟩
    simp [(Setting.holds_iff.1 (h s hs)).1] at hsome
  | none =>
    refine .inr ⟨_, Setting.holds_overlay (by simpa using hfault), fun e he => ?_, rfl⟩
    simp [misread_iff, hfault] at he

theorem ofLookup_eq_ok_iff : ofLookup lookup = .ok c ↔
    (∀ s ∈ Setting.all, s.Holds lookup c) ∧ c.validate = .ok () := by
  obtain ⟨e, -, he, hnone⟩ | ⟨c', hc', -, heq⟩ := ofLookup_cases lookup
  · simp [he, hnone c]
  · rw [heq]
    constructor
    · intro h
      rw [checked] at h
      split at h
      · next hvalid =>
        cases h
        exact ⟨hc', hvalid⟩
      · cases h
    · rintro ⟨hc, hvalid⟩
      cases Setting.holds_unique hc' hc
      rw [checked, hvalid]

theorem ofLookup_eq_error_iff : ofLookup lookup = .error e ↔
    Misread lookup e ∨ ∃ c, (∀ s ∈ Setting.all, s.Holds lookup c) ∧ c.Breaks e := by
  obtain ⟨e', hmisread, he', hnone⟩ | ⟨c, hc, hread, heq⟩ := ofLookup_cases lookup
  · have hiff : Misread lookup e ↔ e' = e := by
      rw [misread_iff, misread_iff.1 hmisread, Option.some.injEq]
    simp [he', hiff, hnone]
  · have hunique : (∃ c, (∀ s ∈ Setting.all, s.Holds lookup c) ∧ c.Breaks e) ↔ c.Breaks e :=
      ⟨fun ⟨_, hc', h⟩ => Setting.holds_unique hc' hc ▸ h, fun h => ⟨c, hc, h⟩⟩
    rw [heq, hunique, or_iff_right (hread e), breaks_iff]
    rw [checked]
    cases c.validate <;> simp [eq_comm]

theorem get_eq_of_agree {s : Setting} {lookup' : String → Option String} {c' : QueueConfig}
    (h : lookup' s.name = lookup s.name) (hc : s.Holds lookup c) (hc' : s.Holds lookup' c') :
    s.get c' = s.get c := by
  have hvalue : s.value? lookup' = s.value? lookup := by rw [Setting.value?, Setting.value?, h]
  rw [(Setting.holds_iff.1 hc).2, (Setting.holds_iff.1 hc').2, hvalue]

theorem decodes (lookup : String → Option String) : Decodes lookup where
  loaded _ := ofLookup_eq_ok_iff
  failed _ := ofLookup_eq_error_iff
  named _ _ _ := Setting.named_iff
  overrun s hs := (Setting.lawful_all s hs).overruns
  separate s hs lookup' h c c' hc hc' := by
    refine Setting.eq_set hs fun t ht hne => ?_
    exact get_eq_of_agree (h t.name fun hname => hne (Setting.eq_of_name ht hs hname))
      ((ofLookup_eq_ok_iff.1 hc).1 t ht) ((ofLookup_eq_ok_iff.1 hc').1 t ht)

theorem printed_name {s : Setting} (hs : s ∈ Setting.all) :
    c.printed s.name = some (String.ofList (s.text (s.get c))) := by
  have hfound : Setting.all.find? (·.name == s.name) = some s := by
    cases hfind : Setting.all.find? (·.name == s.name) with
    | none => simpa using List.find?_eq_none.1 hfind s hs
    | some t =>
      rw [Setting.eq_of_name (List.mem_of_find?_eq_some hfind) hs
        (by simpa using List.find?_some hfind)]
  rw [printed, hfound, Option.map_some]

theorem holds_printed : ∀ s ∈ Setting.all, s.Holds c.printed c := by
  intro s hs
  rw [Setting.Holds, printed_name hs]
  simp only [String.toList_ofList]
  exact (Setting.lawful_all s hs).read_text _

end Outcomes

/-- Variables are decoded one by one, and those that a configuration is printed to load it. -/
theorem variables_decoded (lookup : String → Option String) : Decodes lookup ∧
    ∀ c : QueueConfig, c.validate = .ok () → ofLookup c.printed = .ok c :=
  ⟨decodes lookup, fun _ hvalid => ofLookup_eq_ok_iff.2 ⟨holds_printed, hvalid⟩⟩

theorem variables_decoded_default : QueueConfig.default.validate = .ok () ∧
    ofLookup QueueConfig.default.printed = .ok .default :=
  ⟨rfl, (variables_decoded QueueConfig.default.printed).2 .default rfl⟩

/-- The nanoseconds of this sum are one second more than there are. -/
theorem variables_decoded_overrun : ¬∀ lookup e, ofLookup lookup = .error e →
    ∃ key reason, e = .refused (.config key reason) := by
  intro h
  obtain ⟨_, _, he⟩ := h (fun name =>
    if name = "MRQUEUE_RETRY_TIMEOUT" then some "18446744073709551615s 1000ms" else none)
    (.overrun "MRQUEUE_RETRY_TIMEOUT") rfl
  cases he

end QueueConfig

end WorkQueue
