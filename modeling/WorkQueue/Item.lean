import WorkQueue.Time.Duration

namespace WorkQueue

structure ItemId where
  value : UInt64
deriving DecidableEq

namespace ItemId

def isZero (id : ItemId) : Bool := id.value == 0

def text (id : ItemId) : String := toString id.value

instance : LT ItemId := ⟨fun a b => a.value < b.value⟩

instance (a b : ItemId) : Decidable (a < b) := inferInstanceAs (Decidable (a.value < b.value))

end ItemId

inductive Status
  | ready
  | processing
  | retry
deriving DecidableEq

namespace Status

def all : List Status := [ready, processing, retry]

def label : Status → String
  | ready => "READY"
  | processing => "PROCESSING"
  | retry => "RETRY"

def ofLabel? (s : String) : Option Status := all.find? (·.label == s)

def code : Status → Int
  | ready => 1
  | processing => 2
  | retry => 3

def ofCode? (n : Int) : Option Status := all.find? (·.code == n)

end Status

structure Item where
  id : ItemId
  readyDelay : Duration
  retryAttempts : UInt32
deriving DecidableEq

structure Failure where
  id : ItemId
  error : String
deriving DecidableEq

end WorkQueue
