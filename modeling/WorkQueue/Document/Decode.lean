import WorkQueue.Decimal.Shortest
import WorkQueue.Document.Basic
import WorkQueue.Text.Quoted

namespace WorkQueue

inductive DecodeError
  | invalidType (found : Document) (expected : String)
  | invalidValue (found : Document) (expected : String)
  | missingField (name : String)
  | invalidLength (length : Nat) (expected : String)
  | unknownVariant (name : String) (known : List String)
  | overrun (text : String)

namespace Document

def kind : Document → String
  | null => "null"
  | bool b => s!"boolean `{b}`"
  | whole n => s!"integer `{n}`"
  | float x => s!"floating point `{Decimal.floatText x}`"
  | string s => "string " ++ Text.quoted s
  | array _ => "sequence"
  | object _ => "map"

end Document

def DecodeError.message : DecodeError → String
  | invalidType found expected => s!"invalid type: {found.kind}, expected {expected}"
  | invalidValue found expected => s!"invalid value: {found.kind}, expected {expected}"
  | missingField name => s!"missing field `{name}`"
  | invalidLength length expected => s!"invalid length {length}, expected {expected}"
  | unknownVariant name known =>
    s!"unknown variant `{name}`, expected one of " ++
      ", ".intercalate (known.map fun k => s!"`{k}`")
  | overrun text => "overflow in duration " ++ Text.quoted text

namespace Document

def natBelow (limit : Nat) (expected : String) : Document → Except DecodeError Nat
  | whole n => if 0 ≤ n ∧ n < limit then .ok n.toNat else .error (.invalidValue (whole n) expected)
  | d => .error (.invalidType d expected)

def u32 (d : Document) : Except DecodeError UInt32 :=
  return UInt32.ofNat (← d.natBelow UInt32.size "u32")

def u64 (d : Document) : Except DecodeError UInt64 :=
  return UInt64.ofNat (← d.natBelow UInt64.size "u64")

def size (d : Document) : Except DecodeError UInt64 :=
  return UInt64.ofNat (← d.natBelow UInt64.size "usize")

def text : Document → Except DecodeError String
  | string s => .ok s
  | d => .error (.invalidType d "a string")

end Document

/-- One field of a record: its name, whether it has to be given, and how it is read into a record
under construction. -/
structure Field (σ : Type) where
  name : String
  required : Bool
  read : Document → σ → Except DecodeError σ

structure Shape (σ : Type) where
  name : String
  fields : List (Field σ)
  initial : σ

namespace Shape

variable {σ : Type}

def readField (s : Shape σ) (record : σ) (entry : String × Document) : Except DecodeError σ :=
  match s.fields.find? (·.name == entry.1) with
  | some f => f.read entry.2 record
  | none => .ok record

def lengthExpected (s : Shape σ) : String := s!"{s.name} with {s.fields.length} elements"

def readElements (s : Shape σ) : Nat → List (Field σ) → List Document → σ → Except DecodeError σ
  | index, f :: fields, [], record =>
    if f.required then .error (.invalidLength index s.lengthExpected)
    else s.readElements (index + 1) fields [] record
  | index, f :: fields, d :: rest, record => do
    s.readElements (index + 1) fields rest (← f.read d record)
  | _, [], _, record => .ok record

def decode (s : Shape σ) : Document → Except DecodeError σ
  | .object fields => do
    let record ← fields.foldlM s.readField s.initial
    match s.fields.find? fun f => f.required && (fields.lookup f.name).isNone with
    | some f => .error (.missingField f.name)
    | none => .ok record
  | .array items => do
    let record ← s.readElements 0 s.fields items s.initial
    if items.length > s.fields.length then
      .error (.invalidLength items.length "fewer elements in array")
    else .ok record
  | d => .error (.invalidType d s.name)

end Shape

end WorkQueue
