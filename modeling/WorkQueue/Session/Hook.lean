import WorkQueue.Queue.Worker

namespace WorkQueue.Session

/-- No wait takes longer than thirty years. In milliseconds. -/
def longestWait : Nat := 30 * 365 * 86400 * 1000

inductive UnitStep
  | store (c : StoreCall)
  /-- Moves the session's clock, but not the time of the unit. -/
  | advance (d : Duration)
  | now
  | sleep (ms : Nat)
deriving DecidableEq

inductive UnitAnswer
  | done
  | count (n : UInt64)
  | ids (l : List ItemId)
  | instant (t : Instant)
  | failed (e : StoreError)
deriving DecidableEq

structure HookScript where
  steps : List UnitStep
  fail : Option String
deriving DecidableEq

inductive Request
  | store (c : StoreCall)
  | sleep (ms : Nat)
  | advance (d : Duration)
  | unitTime
  | keep (a : UnitAnswer)
  | handle (run : Nat) (id : ItemId)
  | offer (run : Nat) (id : ItemId) (hook : HookScript)
  | hookOf (run : Nat) (id : ItemId)
  | stopping
  | breakDown
deriving DecidableEq

def Request.Answer : Request → Type
  | store c => Except StoreError c.Answer
  | sleep _ | keep _ | offer .. => Unit
  | advance _ | unitTime => Instant
  | handle .. => Handling
  | hookOf .. => HookScript
  | stopping => Bool
  | breakDown => Empty

def effects : Effects := ⟨Request, Request.Answer⟩

def UnitAnswer.ofStore : (c : StoreCall) → Except StoreError c.Answer → UnitAnswer
  | .insert _, .ok () | .complete _, .ok () | .recordFailures _, .ok () => .done
  | .release _, .ok n | .delete .., .ok n | .demote _, .ok n | .purge _, .ok n => .count n
  | .claim _, .ok l | .recover .., .ok l | .requeue .., .ok l | .discard _, .ok l => .ids l
  | .expireCompleted .., .ok l | .expireBroken .., .ok l => .ids l
  | _, .error e => .failed e

namespace UnitStep

def ask (r : Request) : Program (hookEffects effects) r.Answer := .ask (HookRequest.app r) .done

def run : UnitStep → Program (hookEffects effects) UnitAnswer
  | store c => do return .ofStore c (← ask (.store c))
  | advance d => do return .instant (← ask (.advance d))
  | now => do return .instant (← ask .unitTime)
  | sleep ms => do
    ask (.sleep (min ms longestWait))
    return .done

end UnitStep

namespace HookScript

def none : HookScript := ⟨[], .none⟩

def runSteps (fail : Option String) : List UnitStep → Hook effects
  | [] =>
    match fail with
    | some text => return .error (.text text)
    | .none => return .ok ()
  | step :: rest => do
    let a ← step.run
    UnitStep.ask (.keep a)
    match a with
    | .failed e => return .error (.store e)
    | _ => runSteps fail rest

def run (h : HookScript) : Hook effects := runSteps h.fail h.steps

end HookScript

def handler (run : Nat) (plain : Bool) : Handler effects where
  handle := fun id => .ask (QueueRequest.app (.handle run id)) .done
  preCommit := fun id =>
    if plain then return .ok () else
    (UnitStep.ask (.hookOf run id)).bind HookScript.run

end WorkQueue.Session
