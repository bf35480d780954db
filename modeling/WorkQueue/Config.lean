import WorkQueue.Error

namespace WorkQueue

structure BatchLimits where
  readItems : UInt32
  changeProcessingToRetry : UInt32
  changeRetryToReady : UInt32
  removeItemsWithoutAttempts : UInt32
  removeCompletedItems : UInt32
  removeBrokenItems : UInt32
deriving DecidableEq

structure WorkerConfig where
  workers : UInt64
  pollInterval : Duration
  pollJitter : Duration
  errorBackoff : Duration
  handleTimeout : Duration
deriving DecidableEq

structure MaintenanceConfig where
  changeInterval : Duration
  cleanInterval : Duration
deriving DecidableEq

structure QueueConfig where
  retryTimeout : Duration
  retryDelay : Duration
  completedExpiry : Duration
  brokenExpiry : Duration
  limits : BatchLimits
  worker : WorkerConfig
  maintenance : MaintenanceConfig
deriving DecidableEq

namespace BatchLimits

def default : BatchLimits := ⟨10, 100, 100, 100, 100, 100⟩

def entries (l : BatchLimits) : List (String × UInt32) := [
  ("limits.read_items", l.readItems),
  ("limits.change_processing_to_retry", l.changeProcessingToRetry),
  ("limits.change_retry_to_ready", l.changeRetryToReady),
  ("limits.remove_items_without_attempts", l.removeItemsWithoutAttempts),
  ("limits.remove_completed_items", l.removeCompletedItems),
  ("limits.remove_broken_items", l.removeBrokenItems)]

def validate (l : BatchLimits) : Except QueueError Unit :=
  match l.entries.find? (·.2 == 0) with
  | some (key, _) => .error (.config key "limit value is zero")
  | none => .ok ()

end BatchLimits

namespace WorkerConfig

def default : WorkerConfig where
  workers := 4
  pollInterval := .ofSeconds 1
  pollJitter := .ofMillis 250
  errorBackoff := .ofSeconds 5
  handleTimeout := .ofSeconds 60

end WorkerConfig

namespace MaintenanceConfig

def default : MaintenanceConfig := ⟨.ofSeconds 30, .ofSeconds 600⟩

def validate (m : MaintenanceConfig) : Except QueueError Unit :=
  if m.changeInterval.isZero then
    .error (.config "maintenance.change_interval" "must be positive")
  else if m.cleanInterval.isZero then
    .error (.config "maintenance.clean_interval" "must be positive")
  else .ok ()

end MaintenanceConfig

namespace QueueError

def noWorkers : QueueError := .config "worker.workers" "at least one worker is required"

end QueueError

namespace QueueConfig

def default : QueueConfig where
  retryTimeout := .ofSeconds 300
  retryDelay := .ofSeconds 120
  completedExpiry := .ofSeconds 86400
  brokenExpiry := .ofSeconds 259200
  limits := .default
  worker := .default
  maintenance := .default

def validate (c : QueueConfig) : Except QueueError Unit := do
  c.limits.validate
  if c.worker.workers == 0 then throw .noWorkers
  if c.worker.handleTimeout.isZero then
    throw (.config "worker.handle_timeout" "must be positive")
  c.maintenance.validate

end QueueConfig

end WorkQueue
