/-!
The shortest decimal that reads back as a given binary64 number: of the decimals with the fewest
digits inside the number's rounding interval, the one nearest to it.
-/

namespace WorkQueue.Decimal

structure Binary where
  mantissa : Nat
  exponent : Int

def Binary.ofBits (bits : UInt64) : Binary :=
  let fraction : Nat := bits.toNat % (1 <<< 52)
  let biased : Nat := (bits.toNat >>> 52) % (1 <<< 11)
  if biased = 0 then ⟨fraction, -1074⟩ else ⟨fraction + (1 <<< 52), (biased : Int) - 1075⟩

structure Digits where
  digits : Nat
  exponent : Int
deriving DecidableEq

def scaled (n : Nat) (e : Int) : Nat × Nat := (n * Nat.pow 10 e.toNat, Nat.pow 10 (-e).toNat)

/-- A number and the bounds of its rounding interval, as numerators over one denominator. The
bounds belong to the interval when the mantissa is even. -/
structure Interval where
  low : Nat
  value : Nat
  high : Nat
  denominator : Nat
  closed : Bool

/-- The neighbour below is closer at a power of two. -/
def Binary.interval (b : Binary) : Interval :=
  let narrow : Bool := b.mantissa = 1 <<< 52 ∧ b.exponent ≠ -1074
  let up := 1 <<< b.exponent.toNat
  { low := (4 * b.mantissa - if narrow then 1 else 2) * up
    value := 4 * b.mantissa * up
    high := (4 * b.mantissa + 2) * up
    denominator := 4 <<< (-b.exponent).toNat
    closed := b.mantissa % 2 = 0 }

def Interval.holds (i : Interval) (d : Digits) : Bool :=
  let (n, m) := scaled d.digits d.exponent
  if i.closed then i.low * m ≤ n * i.denominator && n * i.denominator ≤ i.high * m
  else i.low * m < n * i.denominator && n * i.denominator < i.high * m

def Interval.neighbours (i : Interval) (e : Int) : List Digits :=
  let (n, m) := scaled 1 e
  let unit := n * i.denominator
  let below := i.value * m / unit
  let rest := i.value * m % unit
  if 2 * rest < unit ∨ 2 * rest = unit ∧ below % 2 = 0 then [⟨below, e⟩, ⟨below + 1, e⟩]
  else [⟨below + 1, e⟩, ⟨below, e⟩]

def Interval.search (i : Interval) : Nat → Int → Digits
  | 0, e => (i.neighbours e).headD ⟨0, e⟩
  | n + 1, e =>
    match (i.neighbours e).find? fun d => d.digits > 0 && i.holds d with
    | some d => d
    | none => i.search n (e - 1)

def Binary.ceilExponent (b : Binary) : Int :=
  (((Nat.log2 b.mantissa : Int) + b.exponent + 1) * 30103 / 100000) + 1

def Binary.shortest (b : Binary) : Digits :=
  if b.mantissa = 0 then ⟨0, 0⟩ else
  b.interval.search 20 b.ceilExponent

/-- Scientific layout from `10 ^ 16` on and below `10 ^ -5`, positional in between. -/
def Digits.layout (d : Digits) : String :=
  let ds := toString d.digits
  let point : Int := ds.length + d.exponent
  let zeros (n : Nat) := String.ofList (List.replicate n '0')
  if d.digits = 0 then "0.0"
  else if 16 < point ∨ point < -4 then
    let fraction := String.ofList (ds.toList.drop 1)
    let e := (point - 1).natAbs
    String.ofList (ds.toList.take 1) ++ (if fraction.isEmpty then "" else "." ++ fraction) ++
      (if point - 1 < 0 then "e-" else "e+") ++ toString e
  else if 0 ≤ d.exponent then ds ++ zeros d.exponent.toNat ++ ".0"
  else if 0 < point then
    String.ofList (ds.toList.take point.toNat) ++ "." ++ String.ofList (ds.toList.drop point.toNat)
  else "0." ++ zeros (-point).toNat ++ ds

def floatText (x : Float) : String :=
  let sign := if x.toBits.toNat >>> 63 = 1 then "-" else ""
  sign ++ (Binary.ofBits x.toBits).shortest.layout

end WorkQueue.Decimal
