namespace WorkQueue

inductive Document
  | null
  | bool (b : Bool)
  | whole (n : Int)
  | float (x : Float)
  | string (s : String)
  | array (items : List Document)
  | object (fields : List (String × Document))

namespace Document

instance : Inhabited Document := ⟨null⟩

/-- Puts a field in its place; a later field of the same name wins. -/
def insertField (name : String) (d : Document) : List (String × Document) → List (String × Document)
  | [] => [(name, d)]
  | (n, e) :: rest =>
    if name < n then (name, d) :: (n, e) :: rest
    else if name = n then (name, d) :: rest
    else (n, e) :: insertField name d rest

def ofFields (fields : List (String × Document)) : Document :=
  .object (fields.foldl (fun sorted (name, d) => insertField name d sorted) [])

def ofNat (n : Nat) : Document := .whole n

def field? (d : Document) (name : String) : Option Document :=
  match d with
  | .object fields => fields.lookup name
  | _ => none

end Document

end WorkQueue
