import WorkQueue.Event

namespace WorkQueue

namespace Text

def absorb (h : UInt64) (byte : UInt8) : UInt64 := (h ^^^ byte.toUInt64) * 0x100000001B3

/-- The 64-bit FNV-1a hash. -/
def fingerprint (s : String) : UInt64 := s.toUTF8.toList.foldl absorb 0xCBF29CE484222325

end Text

structure LabelledTotals where
  operation : String
  source : String
  calls : UInt64
  items : UInt64
deriving DecidableEq

structure Sample where
  family : String
  help : String
  operation : String
  source : String
  value : UInt64
deriving DecidableEq

/-- The nearest number with at most 53 significant binary digits, of two the even one. -/
def nearestDouble (n : Nat) : Nat :=
  let unit := 1 <<< (n.log2 + 1 - 53)
  let quotient := n / unit
  let excess := 2 * (n % unit)
  unit * (if excess < unit ∨ excess = unit ∧ quotient % 2 = 0 then quotient else quotient + 1)

def sampleValue (n : UInt64) : UInt64 := UInt64.ofNat (min (nearestDouble n.toNat) (UInt64.size - 1))

/-- The key that a series of samples is found by. Pairs of labels that share a key share the
series. -/
def seriesKey (operation source : String) : UInt64 := Text.fingerprint (source ++ operation)

def LabelledTotals.key (t : LabelledTotals) : UInt64 := seriesKey t.operation t.source

/-- One entry for each key, with the labels that came first, in order of operation, then of
source. -/
abbrev Counters := List LabelledTotals

namespace Counters

def insert (new : LabelledTotals) : Counters → Counters
  | [] => [new]
  | t :: rest =>
    if new.operation < t.operation ∨ new.operation = t.operation ∧ new.source < t.source then
      new :: t :: rest
    else t :: insert new rest

def record (e : Event) (c : Counters) : Counters :=
  let key := seriesKey e.name e.source
  if c.any (·.key == key) then
    c.map fun t =>
      if t.key = key then { t with calls := t.calls + 1, items := t.items + e.items } else t
  else c.insert ⟨e.name, e.source, 1, e.items⟩

def ofEvents (events : List Event) : Counters := events.foldl (fun c e => record e c) []

def samples (c : Counters) : List Sample :=
  c.map (fun t => ⟨"mrqueue_items_total", "Items touched by queue operations",
    t.operation, t.source, sampleValue t.items⟩) ++
  c.map (fun t => ⟨"mrqueue_operations_total", "Queue operations that emitted an event",
    t.operation, t.source, sampleValue t.calls⟩)

end Counters

/-- The families of counters a registry holds. A family is registered at most once. -/
structure Registry where
  families : List String

inductive RegistryError
  | duplicate
deriving DecidableEq

def RegistryError.message : RegistryError → String
  | duplicate => "Duplicate metrics collector registration attempted"

namespace Registry

def empty : Registry := ⟨[]⟩

def add (r : Registry) (family : String) : Except RegistryError Registry :=
  if family ∈ r.families then .error .duplicate else .ok ⟨family :: r.families⟩

def addCounters (r : Registry) : Except RegistryError Registry := do
  (← r.add "mrqueue_operations_total").add "mrqueue_items_total"

end Registry

end WorkQueue
