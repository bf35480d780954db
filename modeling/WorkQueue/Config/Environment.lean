import WorkQueue.Config
import WorkQueue.Time.DurationText

/-!
Settings from environment variables. A variable that is set overrides the default of its own
field; blanks around its value do not count.
-/

namespace WorkQueue

inductive NumberError
  | empty
  | invalidDigit
  | tooLarge
deriving DecidableEq

def NumberError.message : NumberError → String
  | empty => "cannot parse integer from empty string"
  | invalidDigit => "invalid digit found in string"
  | tooLarge => "number too large to fit in target type"

def readDigits (limit : Nat) : Nat → List Char → Except NumberError Nat
  | n, [] => .ok n
  | n, c :: rest =>
    if c.isDigit then
      let n := 10 * n + (c.toNat - '0'.toNat)
      if n < limit then readDigits limit n rest else .error .tooLarge
    else .error .invalidDigit

/-- A decimal number below `limit`; a plus sign may stand before it. -/
def readNumber (limit : Nat) : List Char → Except NumberError Nat
  | [] => .error .empty
  | ['+'] | ['-'] => .error .invalidDigit
  | '+' :: rest => readDigits limit 0 rest
  | cs => readDigits limit 0 cs

inductive ValueFault
  | unreadable (reason : String)
  | overrun
deriving DecidableEq

def DurationError.valueFault : DurationError → ValueFault
  | overrun => .overrun
  | e => .unreadable e.message

def NumberError.valueFault (e : NumberError) : ValueFault := .unreadable e.message

inductive LoadError
  | refused (e : QueueError)
  | overrun (name : String)
deriving DecidableEq

def ValueFault.inVariable (name : String) : ValueFault → LoadError
  | unreadable reason => .refused (.config name reason)
  | overrun => .overrun name

structure Variable where
  name : String
  assign : List Char → QueueConfig → Except ValueFault QueueConfig

namespace Variable

def duration (name : String) (set : QueueConfig → Duration → QueueConfig) : Variable :=
  ⟨name, fun cs c => (Duration.read cs).map (set c) |>.mapError DurationError.valueFault⟩

def limit (name : String) (set : BatchLimits → UInt32 → BatchLimits) : Variable :=
  ⟨name, fun cs c =>
    (readNumber UInt32.size cs).map (fun n => { c with limits := set c.limits (UInt32.ofNat n) })
      |>.mapError NumberError.valueFault⟩

def all : List Variable := [
  duration "MRQUEUE_RETRY_TIMEOUT" fun c d => { c with retryTimeout := d },
  duration "MRQUEUE_RETRY_DELAY" fun c d => { c with retryDelay := d },
  duration "MRQUEUE_COMPLETED_EXPIRY" fun c d => { c with completedExpiry := d },
  duration "MRQUEUE_BROKEN_EXPIRY" fun c d => { c with brokenExpiry := d },
  duration "MRQUEUE_POLL_INTERVAL" fun c d => { c with worker.pollInterval := d },
  duration "MRQUEUE_POLL_JITTER" fun c d => { c with worker.pollJitter := d },
  duration "MRQUEUE_ERROR_BACKOFF" fun c d => { c with worker.errorBackoff := d },
  duration "MRQUEUE_HANDLE_TIMEOUT" fun c d => { c with worker.handleTimeout := d },
  duration "MRQUEUE_CHANGE_INTERVAL" fun c d => { c with maintenance.changeInterval := d },
  duration "MRQUEUE_CLEAN_INTERVAL" fun c d => { c with maintenance.cleanInterval := d },
  limit "MRQUEUE_READ_LIMIT" fun l n => { l with readItems := n },
  limit "MRQUEUE_CHANGE_TIMEOUT_LIMIT" fun l n => { l with changeProcessingToRetry := n },
  limit "MRQUEUE_CHANGE_RETRY_LIMIT" fun l n => { l with changeRetryToReady := n },
  limit "MRQUEUE_REMOVE_WITHOUT_ATTEMPTS_LIMIT" fun l n =>
    { l with removeItemsWithoutAttempts := n },
  limit "MRQUEUE_REMOVE_COMPLETED_LIMIT" fun l n => { l with removeCompletedItems := n },
  limit "MRQUEUE_REMOVE_BROKEN_LIMIT" fun l n => { l with removeBrokenItems := n },
  ⟨"MRQUEUE_WORKERS", fun cs c => (readNumber UInt64.size cs).map
    (fun n => { c with worker.workers := UInt64.ofNat n }) |>.mapError NumberError.valueFault⟩]

def load (lookup : String → Option String) (c : QueueConfig) (v : Variable) :
    Except LoadError QueueConfig :=
  match lookup v.name with
  | none => .ok c
  | some raw => (v.assign (Text.trim raw.toList) c).mapError (·.inVariable v.name)

end Variable

def QueueConfig.ofLookup (lookup : String → Option String) : Except LoadError QueueConfig := do
  let c ← Variable.all.foldlM (Variable.load lookup) .default
  c.validate.mapError .refused
  return c

end WorkQueue
