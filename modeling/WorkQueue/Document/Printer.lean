import WorkQueue.Decimal.Shortest
import WorkQueue.Document.Basic

namespace WorkQueue.Document

def escaped (c : Char) : String :=
  match c with
  | '"' => "\\\""
  | '\\' => "\\\\"
  | _ =>
    if c.toNat < 0x20 then
      "\\u00" ++ (if c.toNat < 16 then "0" else "") ++ String.ofList (Nat.toDigits 16 c.toNat)
    else c.toString

def printString (s : String) : String := "\"" ++ String.join (s.toList.map escaped) ++ "\""

mutual

def print : Document → String
  | .null => "null"
  | .bool b => if b then "true" else "false"
  | .whole n => toString n
  | .float x => Decimal.floatText x
  | .string s => printString s
  | .array items => "[" ++ ",".intercalate (printItems items) ++ "]"
  | .object fields => "\x7b" ++ ",".intercalate (printFields fields) ++ "\x7d"

def printItems : List Document → List String
  | [] => []
  | d :: rest => print d :: printItems rest

def printFields : List (String × Document) → List String
  | [] => []
  | (name, d) :: rest => (printString name ++ ":" ++ print d) :: printFields rest

end

end WorkQueue.Document
