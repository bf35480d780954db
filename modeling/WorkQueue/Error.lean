import WorkQueue.Item
import WorkQueue.Text.Quoted

/-!
What can go wrong, as causes. The wording is in the functions named `message`; `sources` lists
the messages of the errors behind an error, nearest first.
-/

namespace WorkQueue

inductive SqlError
  | invalidIdentifier (text : String)
  | idOutOfRange (id : UInt64)
  | negativeId (id : Int)
  | attemptsOutOfRange (attempts : UInt32)
  | server (text : String)
deriving DecidableEq

def SqlError.message : SqlError → String
  | invalidIdentifier text => "invalid SQL identifier: " ++ Text.quoted text
  | idOutOfRange id => s!"item id {id} does not fit in BIGINT"
  | negativeId id => s!"negative item id {id} in queue table"
  | attemptsOutOfRange attempts => s!"retry attempts {attempts} do not fit in INTEGER"
  | server text => s!"error returned from database: {text}"

inductive StoreError
  | duplicateItem (id : ItemId)
  | duplicateCompleted (id : ItemId)
  | windowTooLong
  | unknownStatus (text : String)
  | reported (text : String)
  | sql (e : SqlError)
  | wrapped (e : StoreError)
deriving DecidableEq

namespace StoreError

def message : StoreError → String
  | duplicateItem id => s!"duplicate key: item {id.text}"
  | duplicateCompleted id => s!"duplicate key: completed item {id.text}"
  | windowTooLong => "Source duration value is out of range for the target type"
  | unknownStatus text => s!"unknown item status: {text}"
  | reported text => text
  | sql e => e.message
  | wrapped e => e.message

/-- A storage error says what the driver's own error says, so that text comes again as its
source. -/
def sources : StoreError → List String
  | wrapped e => e.message :: e.sources
  | e => [e.message]

end StoreError

inductive Cause
  | text (s : String)
  | store (e : StoreError)
deriving DecidableEq

namespace Cause

def message : Cause → String
  | text s => s
  | store e => e.message

def sources : Cause → List String
  | text _ => []
  | store e => e.sources

end Cause

inductive Subject
  | table
  | item (id : ItemId)
  | named (label : String)
deriving DecidableEq

def itemEntity : String := "mrqueue.Item"

def Subject.label : Subject → String
  | table => itemEntity
  | item id => s!"{itemEntity}[id={id.text}]"
  | named label => label

structure InputFault where
  field : String
  reason : String
deriving DecidableEq

namespace InputFault

def zeroLimit : InputFault := ⟨"limit", "limit value is zero"⟩

def zeroId : InputFault := ⟨"id", "id is zero"⟩

def zeroAttempts : InputFault := ⟨"retry_attempts", "RetryAttempts is zero"⟩

end InputFault

inductive QueueError
  | invalidInput (fault : InputFault)
  | invalidBatchItem (index : Nat) (id : ItemId) (fault : InputFault)
  | statusMismatch (subject : Subject) (expected : Status)
  | preCommit (subject : Subject) (cause : Cause)
  | storage (subject : Subject) (cause : StoreError)
  | config (key reason : String)
  | internal (text : String)
deriving DecidableEq

namespace QueueError

def message : QueueError → String
  | invalidInput f => s!"incorrect input data: {f.field}: {f.reason}"
  | invalidBatchItem index id f =>
    s!"incorrect input data: item[{index}] (id={id.text}): {f.field}: {f.reason}"
  | statusMismatch subject expected => s!"{subject.label} is not in status {expected.label}"
  | preCommit subject cause => s!"pre-commit hook failed for {subject.label}: {cause.message}"
  | storage subject cause => s!"storage operation failed for {subject.label}: {cause.message}"
  | config key reason => s!"invalid configuration for {key}: {reason}"
  | internal text => s!"Internal error: {text}"

def sources : QueueError → List String
  | preCommit _ cause => cause.message :: cause.sources
  | storage _ cause => cause.message :: cause.sources
  | _ => []

def isInput : QueueError → Bool
  | invalidInput _ | invalidBatchItem .. => true
  | _ => false

def isStorage : QueueError → Bool
  | storage .. => true
  | _ => false

def isStatusMismatch : QueueError → Bool
  | statusMismatch .. => true
  | _ => false

end QueueError

inductive HandleError
  | notStarted (reason : String)
  | failed (cause : Cause)
deriving DecidableEq

namespace HandleError

def message : HandleError → String
  | notStarted reason => s!"processing not started: {reason}"
  | failed cause => cause.message

def sources : HandleError → List String
  | notStarted _ => []
  | failed cause => cause.sources

end HandleError

def Item.validate (item : Item) : Except InputFault Unit :=
  if item.id.isZero then .error .zeroId
  else if item.retryAttempts == 0 then .error .zeroAttempts
  else .ok ()

end WorkQueue
