namespace WorkQueue

def nanosPerSecond : Nat := 1000000000

structure Duration where
  nanos : Nat
  inRange : nanos < UInt64.size * nanosPerSecond
deriving DecidableEq

namespace Duration

theorem ext {d e : Duration} (h : d.nanos = e.nanos) : d = e := by
  cases d; cases e; cases h; rfl

def ofNanos? (n : Nat) : Option Duration :=
  if h : n < UInt64.size * nanosPerSecond then some ⟨n, h⟩ else none

def ofSeconds (s : UInt64) : Duration :=
  ⟨s.toNat * nanosPerSecond, by
    have := s.toNat_lt
    simp only [nanosPerSecond, UInt64.size]; omega⟩

def ofMillis (ms : UInt64) : Duration :=
  ⟨ms.toNat * 1000000, by
    have := ms.toNat_lt
    simp only [nanosPerSecond, UInt64.size]; omega⟩

def zero : Duration := ofSeconds 0

def microsecond : Duration := ⟨1000, by decide⟩

def isZero (d : Duration) : Bool := d.nanos == 0

def wholeSeconds (d : Duration) : Nat := d.nanos / nanosPerSecond

def subsecNanos (d : Duration) : Nat := d.nanos % nanosPerSecond

def ceilMillis (d : Duration) : Nat := (d.nanos + 999999) / 1000000

end Duration

end WorkQueue
