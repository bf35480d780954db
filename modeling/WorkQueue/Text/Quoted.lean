import WorkQueue.Text.Printable

namespace WorkQueue.Text

def hex (n : Nat) : String := String.ofList (Nat.toDigits 16 n)

def shortEscape? : Char → Option String
  | '"' => some "\\\""
  | '\\' => some "\\\\"
  | '\n' => some "\\n"
  | '\r' => some "\\r"
  | '\t' => some "\\t"
  | '\x00' => some "\\0"
  | _ => none

/-- A combining character would join whatever stands before it, so it does not stand for itself
either. -/
def escaped (c : Char) : String :=
  match shortEscape? c with
  | some e => e
  | none =>
    if isPrintable c && !isCombining c then c.toString
    else "\\u\x7b" ++ hex c.toNat ++ "\x7d"

def quoted (s : String) : String := "\"" ++ String.join (s.toList.map escaped) ++ "\""

end WorkQueue.Text
