/-!
A broadcast channel: every subscriber sees what is sent after it joined. The channel holds a
bounded number of the latest messages; a subscriber that falls further behind is told how many it
missed and goes on with the oldest message still held.
-/

namespace WorkQueue

structure Channel (α : Type) where
  capacity : Nat
  sent : List α
  closed : Bool

/-- A subscriber's position: how many messages came before its next one. -/
structure Receiver where
  position : Nat
deriving DecidableEq

inductive Received (α : Type)
  | message (a : α)
  | lagged (missed : Nat)
  | pending
  | ended

namespace Channel

variable {α : Type}

def maxCapacity : Nat := 1 <<< 56

/-- A capacity of zero is refused; others are rounded up to a power of two. -/
def new? (capacity : Nat) : Option (Channel α) :=
  if capacity = 0 ∨ maxCapacity < capacity then none
  else some ⟨capacity.nextPowerOfTwo, [], false⟩

def send (c : Channel α) (a : α) : Channel α := { c with sent := a :: c.sent }

def close (c : Channel α) : Channel α := { c with closed := true }

def subscribe (c : Channel α) : Receiver := ⟨c.sent.length⟩

def oldest (c : Channel α) : Nat := c.sent.length - c.capacity

def receive (c : Channel α) (r : Receiver) : Received α × Receiver :=
  if r.position < c.oldest then (.lagged (c.oldest - r.position), ⟨c.oldest⟩)
  else
    match c.sent.reverse[r.position]? with
    | some a => (.message a, ⟨r.position + 1⟩)
    | none => (if c.closed then .ended else .pending, r)

/-- Receives like `receive`, but passes over the notice of missed messages. -/
def next (c : Channel α) (r : Receiver) : Received α × Receiver :=
  match c.receive r with
  | (.lagged _, r) => c.receive r
  | answer => answer

end Channel

end WorkQueue
