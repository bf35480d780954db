import WorkQueue.Session.Hook

namespace WorkQueue.Session

inductive Verdict
  | ok
  | notStarted
  | fail
  | crash
deriving DecidableEq

structure Behaviour where
  verdict : Verdict
  ms : Nat
  text : String
  hook : HookScript
deriving DecidableEq

/-- The behaviours for each item, one for each call, of which the last repeats; `other` are the
behaviours for items without any. -/
structure HandlerScript where
  items : List (ItemId × List Behaviour)
  other : List Behaviour
deriving DecidableEq

def Behaviour.default : Behaviour := ⟨.ok, 0, "", .none⟩

def nextBehaviour : List Behaviour → Behaviour × List Behaviour
  | [] => (.default, [])
  | [b] => (b, [b])
  | b :: rest => (b, rest)

namespace HandlerScript

def takeFrom (id : ItemId) :
    List (ItemId × List Behaviour) → Option (Behaviour × List (ItemId × List Behaviour))
  | [] => none
  | (k, bs) :: rest =>
    if k = id then
      let (b, bs) := nextBehaviour bs
      some (b, (k, bs) :: rest)
    else (takeFrom id rest).map fun (b, rest) => (b, (k, bs) :: rest)

def take (h : HandlerScript) (id : ItemId) : Behaviour × HandlerScript :=
  match takeFrom id h.items with
  | some (b, items) => (b, { h with items })
  | none =>
    let (b, other) := nextBehaviour h.other
    (b, { h with other })

end HandlerScript

structure Handlers where
  script : HandlerScript
  hooks : List (ItemId × HookScript)
  start : Nat
  calls : List (Nat × ItemId)

namespace Handlers

def call (h : Handlers) (now : Nat) (id : ItemId) : Behaviour × Handlers :=
  let (b, script) := h.script.take id
  (b, { h with script, calls := (now - h.start, id) :: h.calls })

/-- A new hook for an item takes the place of an earlier one, and serves all commits from then
on. -/
def offer (h : Handlers) (id : ItemId) (hook : HookScript) : Handlers :=
  { h with hooks := (id, hook) :: h.hooks.filter fun entry => entry.1 ≠ id }

def hookOf (h : Handlers) (id : ItemId) : HookScript := (h.hooks.lookup id).getD .none

end Handlers

def Behaviour.handling? (b : Behaviour) : Option Handling :=
  match b.verdict with
  | .ok => some .succeeded
  | .notStarted => some (.stopped (.notStarted b.text))
  | .fail => some (.stopped (.failed (.text b.text)))
  | .crash => none

/-- The time until a handler call is over for its worker, and what it came to by then. A call that
takes exactly as long as allowed is in time. -/
def Behaviour.within (b : Behaviour) (patience : Nat) : Nat × Option Handling :=
  let ms := min b.ms longestWait
  if ms ≤ patience then (ms, b.handling?) else (patience, some .timedOut)

end WorkQueue.Session
