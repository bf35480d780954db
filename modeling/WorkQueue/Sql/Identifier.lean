import WorkQueue.Error

namespace WorkQueue.Sql

def startsIdentifier (c : Char) : Bool := c.isAlpha || c == '_'

def continuesIdentifier (c : Char) : Bool := c.isAlphanum || c == '_'

/-- An ASCII letter or an underscore, then at most 62 ASCII letters, digits or underscores. -/
def isIdentifier : List Char → Bool
  | [] => false
  | c :: rest => startsIdentifier c && rest.length ≤ 62 && rest.all continuesIdentifier

def segments : List Char → List (List Char)
  | [] => [[]]
  | c :: rest =>
    if c = '.' then [] :: segments rest
    else
      match segments rest with
      | [] => [[c]]
      | part :: parts => (c :: part) :: parts

def isTableName (cs : List Char) : Bool :=
  (segments cs).all isIdentifier && (segments cs).length ≤ 2

structure TableInfo where
  name : String
  key : String
  name_valid : isTableName name.toList = true
  key_valid : isIdentifier key.toList = true
deriving DecidableEq

namespace TableInfo

/-- A bad name counts before a bad key. -/
def new (name key : String) : Except SqlError TableInfo :=
  if hn : isTableName name.toList then
    if hk : isIdentifier key.toList then .ok ⟨name, key, hn, hk⟩
    else .error (.invalidIdentifier key)
  else .error (.invalidIdentifier name)

def indexName (t : TableInfo) (suffix : String) : String :=
  String.ofList ((segments t.name.toList).getLastD []) ++ "_" ++ suffix

end TableInfo

structure QueueTables where
  items : TableInfo
  completed : TableInfo
  broken : TableInfo
deriving DecidableEq

namespace QueueTables

def defaultKey : String := "item_id"

def default : QueueTables where
  items := ⟨"mrqueue_items", defaultKey, by decide, by decide⟩
  completed := ⟨"mrqueue_completed", defaultKey, by decide, by decide⟩
  broken := ⟨"mrqueue_broken", defaultKey, by decide, by decide⟩

def withPrefix (start : String) : Except SqlError QueueTables := do
  return {
    items := ← TableInfo.new (start ++ "_items") defaultKey
    completed := ← TableInfo.new (start ++ "_completed") defaultKey
    broken := ← TableInfo.new (start ++ "_broken") defaultKey }

end QueueTables

end WorkQueue.Sql
