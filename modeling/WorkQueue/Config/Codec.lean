import WorkQueue.Config
import WorkQueue.Item.Codec

namespace WorkQueue

namespace BatchLimits

def shape : Shape BatchLimits where
  name := "struct BatchLimits"
  fields := [
    ⟨"read_items", false, fun d l => return { l with readItems := ← d.u32 }⟩,
    ⟨"change_processing_to_retry", false,
      fun d l => return { l with changeProcessingToRetry := ← d.u32 }⟩,
    ⟨"change_retry_to_ready", false, fun d l => return { l with changeRetryToReady := ← d.u32 }⟩,
    ⟨"remove_items_without_attempts", false,
      fun d l => return { l with removeItemsWithoutAttempts := ← d.u32 }⟩,
    ⟨"remove_completed_items", false,
      fun d l => return { l with removeCompletedItems := ← d.u32 }⟩,
    ⟨"remove_broken_items", false, fun d l => return { l with removeBrokenItems := ← d.u32 }⟩]
  initial := default

def document (l : BatchLimits) : Document := .object [
  ("change_processing_to_retry", .ofNat l.changeProcessingToRetry.toNat),
  ("change_retry_to_ready", .ofNat l.changeRetryToReady.toNat),
  ("read_items", .ofNat l.readItems.toNat),
  ("remove_broken_items", .ofNat l.removeBrokenItems.toNat),
  ("remove_completed_items", .ofNat l.removeCompletedItems.toNat),
  ("remove_items_without_attempts", .ofNat l.removeItemsWithoutAttempts.toNat)]

end BatchLimits

namespace WorkerConfig

def shape : Shape WorkerConfig where
  name := "struct WorkerConfig"
  fields := [
    ⟨"workers", false, fun d w => return { w with workers := ← d.size }⟩,
    ⟨"poll_interval", false, fun d w => return { w with pollInterval := ← Duration.decode d }⟩,
    ⟨"poll_jitter", false, fun d w => return { w with pollJitter := ← Duration.decode d }⟩,
    ⟨"error_backoff", false, fun d w => return { w with errorBackoff := ← Duration.decode d }⟩,
    ⟨"handle_timeout", false, fun d w => return { w with handleTimeout := ← Duration.decode d }⟩]
  initial := default

def document (w : WorkerConfig) : Document := .object [
  ("error_backoff", w.errorBackoff.document),
  ("handle_timeout", w.handleTimeout.document),
  ("poll_interval", w.pollInterval.document),
  ("poll_jitter", w.pollJitter.document),
  ("workers", .ofNat w.workers.toNat)]

end WorkerConfig

namespace MaintenanceConfig

def shape : Shape MaintenanceConfig where
  name := "struct MaintenanceConfig"
  fields := [
    ⟨"change_interval", false, fun d m => return { m with changeInterval := ← Duration.decode d }⟩,
    ⟨"clean_interval", false, fun d m => return { m with cleanInterval := ← Duration.decode d }⟩]
  initial := default

def document (m : MaintenanceConfig) : Document := .object [
  ("change_interval", m.changeInterval.document),
  ("clean_interval", m.cleanInterval.document)]

end MaintenanceConfig

namespace QueueConfig

def shape : Shape QueueConfig where
  name := "struct QueueConfig"
  fields := [
    ⟨"retry_timeout", false, fun d c => return { c with retryTimeout := ← Duration.decode d }⟩,
    ⟨"retry_delay", false, fun d c => return { c with retryDelay := ← Duration.decode d }⟩,
    ⟨"completed_expiry", false,
      fun d c => return { c with completedExpiry := ← Duration.decode d }⟩,
    ⟨"broken_expiry", false, fun d c => return { c with brokenExpiry := ← Duration.decode d }⟩,
    ⟨"limits", false, fun d c => return { c with limits := ← BatchLimits.shape.decode d }⟩,
    ⟨"worker", false, fun d c => return { c with worker := ← WorkerConfig.shape.decode d }⟩,
    ⟨"maintenance", false,
      fun d c => return { c with maintenance := ← MaintenanceConfig.shape.decode d }⟩]
  initial := default

def decode (d : Document) : Except DecodeError QueueConfig := shape.decode d

def document (c : QueueConfig) : Document := .object [
  ("broken_expiry", c.brokenExpiry.document),
  ("completed_expiry", c.completedExpiry.document),
  ("limits", c.limits.document),
  ("maintenance", c.maintenance.document),
  ("retry_delay", c.retryDelay.document),
  ("retry_timeout", c.retryTimeout.document),
  ("worker", c.worker.document)]

end QueueConfig

end WorkQueue
