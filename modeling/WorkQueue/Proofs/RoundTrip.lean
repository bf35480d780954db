import WorkQueue.Config.Codec
import WorkQueue.Proofs.Spans

namespace WorkQueue

namespace Document

mutual

def only (keep : List String → Bool) : Document → Document
  | .object fields => .object (onlyFields keep fields)
  | d => d

def onlyFields (keep : List String → Bool) : List (String × Document) → List (String × Document)
  | [] => []
  | (name, d) :: rest =>
    if keep [name] then (name, only (fun path => keep (name :: path)) d) :: onlyFields keep rest
    else onlyFields keep rest

end

@[simp] theorem only_ofNat (keep : List String → Bool) (n : Nat) :
    (ofNat n).only keep = ofNat n := by
  simp [ofNat, only]

@[simp] theorem only_string (keep : List String → Bool) (s : String) :
    (string s).only keep = string s := by
  simp [only]

theorem natBelow_ofNat {n limit : Nat} (h : n < limit) (expected : String) :
    natBelow limit expected (.ofNat n) = .ok n := by
  have hrange : (0 : Int) ≤ n ∧ (n : Int) < limit := by omega
  simp [ofNat, natBelow, hrange]

@[simp] theorem u32_ofNat (n : UInt32) : (ofNat n.toNat).u32 = .ok n := by
  simp [u32, natBelow_ofNat n.toNat_lt]

@[simp] theorem u64_ofNat (n : UInt64) : (ofNat n.toNat).u64 = .ok n := by
  simp [u64, natBelow_ofNat n.toNat_lt]

@[simp] theorem size_ofNat (n : UInt64) : (ofNat n.toNat).size = .ok n := by
  simp [size, natBelow_ofNat n.toNat_lt]

end Document

@[simp] theorem Duration.only_document (keep : List String → Bool) (d : Duration) :
    d.document.only keep = d.document := Document.only_string keep d.text

@[simp] theorem Duration.decode_document (d : Duration) : Duration.decode d.document = .ok d := by
  simp [Duration.document, Duration.decode, Duration.parse_text]

namespace Shape

open Document

variable {σ : Type} {s : Shape σ} {keep : List String → Bool} {fields : List (String × Document)}
  {f : σ → σ}

inductive Reads (s : Shape σ) (keep : List String → Bool) :
    List (String × Document) → (σ → σ) → Prop
  | nil : Reads s keep [] id
  | cons {α : Type} {name d rest f} (get : σ → α) (set : σ → α → σ) (x : α)
    (hset : ∀ r, set r (get r) = r)
    (hread : ∀ r, s.readField r (name, d.only fun path => keep (name :: path)) = .ok (set r x))
    (hrest : Reads s keep rest f) :
    Reads s keep ((name, d) :: rest) fun r => f (set r (if keep [name] then x else get r))

theorem Reads.foldlM (h : s.Reads keep fields f) (r : σ) :
    (onlyFields keep fields).foldlM s.readField r = .ok (f r) := by
  induction h generalizing r with
  | nil => rfl
  | @cons α name d rest f get set x hset hread hrest ih =>
    simp only [onlyFields]
    split
    · rw [List.foldlM_cons, hread]
      exact ih _
    · rw [hset]
      exact ih r

theorem Reads.decode (h : s.Reads keep fields f) (hrequired : s.fields.find? (fun field =>
      field.required && ((onlyFields keep fields).lookup field.name).isNone) = none) :
    s.decode ((Document.object fields).only keep) = .ok (f s.initial) := by
  simp only [only, Shape.decode, h.foldlM, hrequired]
  rfl

end Shape

namespace BatchLimits

def pick (keep : List String → Bool) (l e : BatchLimits) : BatchLimits where
  readItems := if keep ["read_items"] then l.readItems else e.readItems
  changeProcessingToRetry :=
    if keep ["change_processing_to_retry"] then l.changeProcessingToRetry
    else e.changeProcessingToRetry
  changeRetryToReady :=
    if keep ["change_retry_to_ready"] then l.changeRetryToReady else e.changeRetryToReady
  removeItemsWithoutAttempts :=
    if keep ["remove_items_without_attempts"] then l.removeItemsWithoutAttempts
    else e.removeItemsWithoutAttempts
  removeCompletedItems :=
    if keep ["remove_completed_items"] then l.removeCompletedItems else e.removeCompletedItems
  removeBrokenItems :=
    if keep ["remove_broken_items"] then l.removeBrokenItems else e.removeBrokenItems

theorem decode_only (keep : List String → Bool) (l : BatchLimits) :
    shape.decode (l.document.only keep) = .ok (l.pick keep default) := by
  refine (Shape.Reads.decode (s := shape) (f := ?read) ?reads ?required).trans ?picked
  case reads =>
    refine .cons changeProcessingToRetry (fun l n => { l with changeProcessingToRetry := n })
        l.changeProcessingToRetry (fun _ => rfl) (fun _ => ?_) <|
      .cons changeRetryToReady (fun l n => { l with changeRetryToReady := n })
        l.changeRetryToReady (fun _ => rfl) (fun _ => ?_) <|
      .cons readItems (fun l n => { l with readItems := n }) l.readItems
        (fun _ => rfl) (fun _ => ?_) <|
      .cons removeBrokenItems (fun l n => { l with removeBrokenItems := n }) l.removeBrokenItems
        (fun _ => rfl) (fun _ => ?_) <|
      .cons removeCompletedItems (fun l n => { l with removeCompletedItems := n })
        l.removeCompletedItems (fun _ => rfl) (fun _ => ?_) <|
      .cons removeItemsWithoutAttempts (fun l n => { l with removeItemsWithoutAttempts := n })
        l.removeItemsWithoutAttempts (fun _ => rfl) (fun _ => ?_) .nil
    all_goals simp [Shape.readField, shape]
  case required => rfl
  case picked => rfl

end BatchLimits

namespace WorkerConfig

def pick (keep : List String → Bool) (w e : WorkerConfig) : WorkerConfig where
  workers := if keep ["workers"] then w.workers else e.workers
  pollInterval := if keep ["poll_interval"] then w.pollInterval else e.pollInterval
  pollJitter := if keep ["poll_jitter"] then w.pollJitter else e.pollJitter
  errorBackoff := if keep ["error_backoff"] then w.errorBackoff else e.errorBackoff
  handleTimeout := if keep ["handle_timeout"] then w.handleTimeout else e.handleTimeout

theorem decode_only (keep : List String → Bool) (w : WorkerConfig) :
    shape.decode (w.document.only keep) = .ok (w.pick keep default) := by
  refine (Shape.Reads.decode (s := shape) (f := ?read) ?reads ?required).trans ?picked
  case reads =>
    refine .cons errorBackoff (fun w d => { w with errorBackoff := d }) w.errorBackoff
        (fun _ => rfl) (fun _ => ?_) <|
      .cons handleTimeout (fun w d => { w with handleTimeout := d }) w.handleTimeout
        (fun _ => rfl) (fun _ => ?_) <|
      .cons pollInterval (fun w d => { w with pollInterval := d }) w.pollInterval
        (fun _ => rfl) (fun _ => ?_) <|
      .cons pollJitter (fun w d => { w with pollJitter := d }) w.pollJitter
        (fun _ => rfl) (fun _ => ?_) <|
      .cons workers (fun w n => { w with workers := n }) w.workers
        (fun _ => rfl) (fun _ => ?_) .nil
    all_goals simp [Shape.readField, shape]
  case required => rfl
  case picked => rfl

end WorkerConfig

namespace MaintenanceConfig

def pick (keep : List String → Bool) (m e : MaintenanceConfig) : MaintenanceConfig where
  changeInterval := if keep ["change_interval"] then m.changeInterval else e.changeInterval
  cleanInterval := if keep ["clean_interval"] then m.cleanInterval else e.cleanInterval

theorem decode_only (keep : List String → Bool) (m : MaintenanceConfig) :
    shape.decode (m.document.only keep) = .ok (m.pick keep default) := by
  refine (Shape.Reads.decode (s := shape) (f := ?read) ?reads ?required).trans ?picked
  case reads =>
    refine .cons changeInterval (fun m d => { m with changeInterval := d }) m.changeInterval
        (fun _ => rfl) (fun _ => ?_) <|
      .cons cleanInterval (fun m d => { m with cleanInterval := d }) m.cleanInterval
        (fun _ => rfl) (fun _ => ?_) .nil
    all_goals simp [Shape.readField, shape]
  case required => rfl
  case picked => rfl

end MaintenanceConfig

namespace QueueConfig

/-- The settings of `c` where `keep` accepts their paths, and those of `e` elsewhere. -/
def pick (keep : List String → Bool) (c e : QueueConfig) : QueueConfig where
  retryTimeout := if keep ["retry_timeout"] then c.retryTimeout else e.retryTimeout
  retryDelay := if keep ["retry_delay"] then c.retryDelay else e.retryDelay
  completedExpiry := if keep ["completed_expiry"] then c.completedExpiry else e.completedExpiry
  brokenExpiry := if keep ["broken_expiry"] then c.brokenExpiry else e.brokenExpiry
  limits :=
    if keep ["limits"] then c.limits.pick (fun path => keep ("limits" :: path)) e.limits
    else e.limits
  worker :=
    if keep ["worker"] then c.worker.pick (fun path => keep ("worker" :: path)) e.worker
    else e.worker
  maintenance :=
    if keep ["maintenance"] then
      c.maintenance.pick (fun path => keep ("maintenance" :: path)) e.maintenance
    else e.maintenance

theorem decode_only (keep : List String → Bool) (c : QueueConfig) :
    decode (c.document.only keep) = .ok (c.pick keep default) := by
  refine (Shape.Reads.decode (s := shape) (f := ?read) ?reads ?required).trans ?picked
  case reads =>
    refine .cons brokenExpiry (fun c d => { c with brokenExpiry := d }) c.brokenExpiry
        (fun _ => rfl) (fun _ => ?_) <|
      .cons completedExpiry (fun c d => { c with completedExpiry := d }) c.completedExpiry
        (fun _ => rfl) (fun _ => ?_) <|
      .cons limits (fun c l => { c with limits := l })
        (c.limits.pick (fun path => keep ("limits" :: path)) .default)
        (fun _ => rfl) (fun _ => ?_) <|
      .cons maintenance (fun c m => { c with maintenance := m })
        (c.maintenance.pick (fun path => keep ("maintenance" :: path)) .default)
        (fun _ => rfl) (fun _ => ?_) <|
      .cons retryDelay (fun c d => { c with retryDelay := d }) c.retryDelay
        (fun _ => rfl) (fun _ => ?_) <|
      .cons retryTimeout (fun c d => { c with retryTimeout := d }) c.retryTimeout
        (fun _ => rfl) (fun _ => ?_) <|
      .cons worker (fun c w => { c with worker := w })
        (c.worker.pick (fun path => keep ("worker" :: path)) .default)
        (fun _ => rfl) (fun _ => ?_) .nil
    all_goals simp [Shape.readField, shape, BatchLimits.decode_only, WorkerConfig.decode_only,
      MaintenanceConfig.decode_only]
  case required => rfl
  case picked => rfl

theorem decode_document (c : QueueConfig) : decode c.document = .ok c := by
  have hall : c.document.only (fun _ => true) = c.document := by
    simp [document, BatchLimits.document, WorkerConfig.document, MaintenanceConfig.document,
      Document.only, Document.onlyFields]
  rw [← hall, decode_only]
  rfl

end QueueConfig

@[simp] theorem ItemId.decode_document (id : ItemId) : decode id.document = .ok id := by
  simp [ItemId.document, ItemId.decode]

theorem Item.decode_document (item : Item) : decode item.document = .ok item := by
  simp [Item.document, Item.decode, Shape.decode, Shape.readField, Item.shape, List.lookup]
  rfl

theorem Failure.decode_document (row : Failure) : decode row.document = .ok row := by
  simp [Failure.document, Failure.decode, Shape.decode, Shape.readField, Failure.shape,
    Document.text, List.lookup]
  rfl

/-- Settings of which any fields were left out read back as they were in the fields that stayed, and
with their defaults in the others. What was written in full reads back as it was. -/
theorem documents_round_trip :
    (∀ (c : QueueConfig) (keep : List String → Bool),
      QueueConfig.decode (c.document.only keep) = .ok (c.pick keep .default)) ∧
    (∀ c : QueueConfig, QueueConfig.decode c.document = .ok c) ∧
    (∀ item : Item, Item.decode item.document = .ok item) ∧
    ∀ row : Failure, Failure.decode row.document = .ok row :=
  ⟨fun c keep => c.decode_only keep, QueueConfig.decode_document, Item.decode_document,
    Failure.decode_document⟩

end WorkQueue
