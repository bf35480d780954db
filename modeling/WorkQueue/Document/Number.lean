import WorkQueue.Document.Basic

/-!
Numbers in JSON text. A whole number that fits 64 bits, with or without a sign, stays whole. Any
other number is made of the digits that fit a 64-bit word: they are rounded to binary64 first and
scaled by a power of ten after that, which rounds again.
-/

namespace WorkQueue.Document

def digitValue (c : Char) : Nat := c.toNat - '0'.toNat

def naturalOf (digits : List Char) : Nat := digits.foldl (fun n c => 10 * n + digitValue c) 0

def takeDigits : Nat → List Char → Nat × List Char
  | n, [] => (n, [])
  | n, c :: rest =>
    let next := 10 * n + digitValue c
    if next < UInt64.size then takeDigits next rest else (n, c :: rest)

structure Numeral where
  negative : Bool
  digits : List Char
  fraction : Option (List Char)
  exponent : Option Int

def powerOfTen (n : Nat) : Float := Float.ofScientific 1 false n

/-- The number `x * 10 ^ e`, rounded after every step. Too large a number is refused. -/
def scaleFloat (x : Float) (e : Int) : Option Float :=
  if e.natAbs ≤ 308 then
    if 0 ≤ e then
      let y := x * powerOfTen e.natAbs
      if y.isInf then none else some y
    else some (x / powerOfTen e.natAbs)
  else if x == 0.0 then some x
  else if 0 ≤ e then none
  else scaleFloat (x / powerOfTen 308) (e + 308)
termination_by (-e).toNat
decreasing_by omega

namespace Numeral

/-- Digits of the whole part that do not fit count as powers of ten, digits after the point that do
not fit are dropped. -/
def toFloat? (n : Numeral) : Option Float := do
  let fraction := n.fraction.getD []
  let (significand, uncounted) := takeDigits 0 n.digits
  let (significand, dropped) := takeDigits significand fraction
  let point := uncounted.length - ((fraction.length - dropped.length : Nat) : Int)
  let raised := n.exponent.getD 0
  let x := (UInt64.ofNat significand).toFloat
  let y ←
    if raised.natAbs < 1 <<< 31 then scaleFloat x (point + raised)
    else if significand = 0 ∨ raised < 0 then some 0.0
    else none
  return if n.negative then -y else y

/-- The number, if it is written without a point or an exponent and fits. There is no negative
zero among the whole numbers. -/
def toInt? (n : Numeral) : Option Int :=
  if n.fraction.isSome || n.exponent.isSome then none else
  let m := naturalOf n.digits
  if n.negative then if 0 < m ∧ m ≤ 1 <<< 63 then some (-(m : Int)) else none
  else if m < UInt64.size then some m else none

def document? (n : Numeral) : Option Document :=
  match n.toInt? with
  | some m => some (.whole m)
  | none => n.toFloat?.map .float

def readDigits? (cs : List Char) : Option (List Char × List Char) :=
  match cs.span Char.isDigit with
  | ([], _) => none
  | r => some r

def readFraction? : List Char → Option (Option (List Char) × List Char)
  | '.' :: rest => do
    let (digits, rest) ← readDigits? rest
    return (some digits, rest)
  | cs => some (none, cs)

def readSign : List Char → Int × List Char
  | '-' :: rest => (-1, rest)
  | '+' :: rest => (1, rest)
  | cs => (1, cs)

def readExponent? : List Char → Option (Option Int × List Char)
  | 'e' :: rest | 'E' :: rest => do
    let (sign, rest) := readSign rest
    let (digits, rest) ← readDigits? rest
    return (some (sign * naturalOf digits), rest)
  | cs => some (none, cs)

def read? (cs : List Char) : Option (Numeral × List Char) := do
  let (negative, cs) := match cs with
    | '-' :: rest => (true, rest)
    | _ => (false, cs)
  let (digits, cs) ← readDigits? cs
  if digits.length > 1 && digits.head? == some '0' then none else
  let (fraction, cs) ← readFraction? cs
  let (exponent, cs) ← readExponent? cs
  return (⟨negative, digits, fraction, exponent⟩, cs)

end Numeral

def readNumber (cs : List Char) : Option (Document × List Char) := do
  let (n, rest) ← Numeral.read? cs
  return (← n.document?, rest)

end WorkQueue.Document
