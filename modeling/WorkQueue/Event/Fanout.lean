import WorkQueue.Event
import WorkQueue.Event.Broadcast

namespace WorkQueue

/-- What the listeners hear, in order of time; at one time the listeners come in their own order. -/
def Event.fanOut (listeners : Nat) (events : List Event) : List (Nat × Event) :=
  events.flatMap fun e => (List.range listeners).map fun i => (i, e)

inductive Feed
  | receiver
  | stream
deriving DecidableEq

structure Hub (α : Type) where
  channel : Channel α
  subscribers : List (Feed × Receiver)

namespace Hub

variable {α : Type}

def new? (capacity : Nat) : Option (Hub α) := (Channel.new? capacity).map (⟨·, []⟩)

def send (h : Hub α) (a : α) : Hub α := { h with channel := h.channel.send a }

def close (h : Hub α) : Hub α := { h with channel := h.channel.close }

def join (h : Hub α) (feed : Feed) : Option Nat × Hub α :=
  if h.channel.closed then (none, h)
  else (some h.subscribers.length,
    { h with subscribers := h.subscribers ++ [(feed, h.channel.subscribe)] })

def next? (h : Hub α) (i : Nat) : Option (Received α × Hub α) := do
  let (feed, receiver) ← h.subscribers[i]?
  let (received, receiver) := match feed with
    | .receiver => h.channel.receive receiver
    | .stream => h.channel.next receiver
  return (received, { h with subscribers := h.subscribers.set i (feed, receiver) })

end Hub

end WorkQueue
