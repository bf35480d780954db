import WorkQueue.Time.Duration

namespace WorkQueue

structure Instant where
  nanos : Int
  lower : -8334601228800000000000 ≤ nanos
  upper : nanos ≤ 8210266876799999999999
deriving DecidableEq

namespace Instant

def first : Instant := ⟨-8334601228800000000000, by decide, by decide⟩

def last : Instant := ⟨8210266876799999999999, by decide, by decide⟩

def ofNanos? (n : Int) : Option Instant :=
  if h : -8334601228800000000000 ≤ n ∧ n ≤ 8210266876799999999999 then some ⟨n, h.1, h.2⟩ else none

def clamp (n : Int) : Instant :=
  if h₁ : n < -8334601228800000000000 then first
  else if h₂ : 8210266876799999999999 < n then last
  else ⟨n, by omega, by omega⟩

def wholeSeconds (t : Instant) : Int := t.nanos / 1000000000

def subsecNanos (t : Instant) : Nat := (t.nanos % 1000000000).toNat

instance : LE Instant := ⟨fun a b => a.nanos ≤ b.nanos⟩

instance : LT Instant := ⟨fun a b => a.nanos < b.nanos⟩

instance (a b : Instant) : Decidable (a ≤ b) := inferInstanceAs (Decidable (a.nanos ≤ b.nanos))

instance (a b : Instant) : Decidable (a < b) := inferInstanceAs (Decidable (a.nanos < b.nanos))

theorem ext {a b : Instant} (h : a.nanos = b.nanos) : a = b := by
  cases a; cases b; cases h; rfl

def latest (a b : Instant) : Instant := if a ≤ b then b else a

/-- The instant `t + d`, or the last one. -/
def later (t : Instant) (d : Duration) : Instant := clamp (t.nanos + d.nanos)

/-- The instant `t - d`, or the first one. -/
def earlier (t : Instant) (d : Duration) : Instant := clamp (t.nanos - d.nanos)

end Instant

/-- The longest window the engine can count from an instant: 2^63 - 1 milliseconds. -/
def Duration.longestWindow : Nat := 9223372036854775807 * 1000000

def Duration.isWindow (d : Duration) : Bool := d.nanos ≤ Duration.longestWindow

end WorkQueue
