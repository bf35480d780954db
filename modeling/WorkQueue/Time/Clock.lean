import WorkQueue.Time.Instant

namespace WorkQueue

structure Clock where
  hand : Instant
  elapsed : Nat
deriving DecidableEq

namespace Clock

def start (t : Instant) : Clock := ⟨t, 0⟩

def now (c : Clock) : Instant := .clamp (c.hand.nanos + c.elapsed * 1000000)

def advance (c : Clock) (d : Duration) : Clock := { c with hand := c.hand.later d }

def set (c : Clock) (t : Instant) : Clock := { c with hand := t }

inductive Move
  | advance (d : Duration)
  | set (t : Instant)
deriving DecidableEq

def move (c : Clock) : Move → Clock
  | .advance d => c.advance d
  | .set t => c.set t

def readings (c : Clock) : List Move → List Instant
  | [] => [c.now]
  | m :: rest => c.now :: (c.move m).readings rest

end Clock

end WorkQueue
