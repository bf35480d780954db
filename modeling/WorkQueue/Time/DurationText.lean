import WorkQueue.Time.Duration

namespace WorkQueue

namespace Text

/-- White space, as Unicode's `White_Space` property lists it. -/
def isBlank (c : Char) : Bool :=
  let n := c.toNat
  (9 ≤ n && n ≤ 13) || n == 0x20 || n == 0x85 || n == 0xA0 || n == 0x1680 ||
  (0x2000 ≤ n && n ≤ 0x200A) || n == 0x2028 || n == 0x2029 || n == 0x202F || n == 0x205F ||
  n == 0x3000

def trim (cs : List Char) : List Char :=
  ((cs.dropWhile isBlank).reverse.dropWhile isBlank).reverse

end Text

inductive DurationError
  | empty
  | numberExpected (offset : Nat)
  | invalidCharacter (offset : Nat)
  | tooLarge
  /-- The nanoseconds of a sum make up exactly one second more than there are. -/
  | overrun
  | unitMissing (count : Nat)
  | unknownUnit (name : String)
deriving DecidableEq

def DurationError.message : DurationError → String
  | empty => "value was empty"
  | numberExpected offset => s!"expected number at {offset}"
  | invalidCharacter offset => s!"invalid character at {offset}"
  | tooLarge => "number is too large or cannot be represented without a lack of precision " ++
      "(values below 1ns are not supported)"
  | overrun => "overflow of the seconds by a whole second of nanoseconds"
  | unitMissing count => s!"time unit needed, for example {count}sec or {count}ms"
  | unknownUnit name => s!"unknown time unit \"{name}\", supported units: " ++
      "ns, us/µs, ms, sec, min, hours, days, weeks, months, years (and few variations)"

inductive TimeUnit
  | nanosecond | microsecond | millisecond | second | minute | hour | day | week | month | year
deriving DecidableEq

namespace TimeUnit

def ofName? : String → Option TimeUnit
  | "nanos" | "nsec" | "ns" => some nanosecond
  | "usec" | "us" | "µs" => some microsecond
  | "millis" | "msec" | "ms" => some millisecond
  | "seconds" | "second" | "secs" | "sec" | "s" => some second
  | "minutes" | "minute" | "min" | "mins" | "m" => some minute
  | "hours" | "hour" | "hr" | "hrs" | "h" => some hour
  | "days" | "day" | "d" => some day
  | "weeks" | "week" | "wk" | "wks" | "w" => some week
  | "months" | "month" | "M" => some month
  | "years" | "year" | "yr" | "yrs" | "y" => some year
  | _ => none

def nanos : TimeUnit → Nat
  | nanosecond => 1
  | microsecond => 1000
  | millisecond => 1000000
  | second => 1000000000
  | minute => 60000000000
  | hour => 3600000000000
  | day => 86400000000000
  | week => 604800000000000
  | month => 2630016000000000
  | year => 31557600000000000

/-- The grain that whole counts of the unit are computed in: nanoseconds below a second,
seconds from there on. -/
def grain : TimeUnit → Nat
  | nanosecond | microsecond | millisecond => 1
  | _ => nanosPerSecond

/-- The grain that fractions of the unit have to fall on. A nanosecond has no fractions. -/
def fractionGrain? : TimeUnit → Option Nat
  | nanosecond => none
  | microsecond | millisecond | second | minute => some 1
  | _ => some nanosPerSecond

end TimeUnit

namespace Duration

def word (n : Nat) : Except DurationError Nat :=
  if n < UInt64.size then .ok n else .error .tooLarge

/-- Adds `count` grains. Neither the count nor the nanoseconds of the sum may overflow a word. -/
def addGrains (d : Duration) (grain count : Nat) : Except DurationError Duration := do
  let count ← word count
  if grain = 1 then discard <| word (d.subsecNanos + count)
  match ofNanos? (d.nanos + grain * count) with
  | some sum => .ok sum
  | none =>
    if grain = 1 ∧ d.subsecNanos + count = nanosPerSecond then .error .overrun
    else .error .tooLarge

structure Fraction where
  numerator : Nat
  denominator : Nat

def addSpan (d : Duration) (count : Nat) (fraction : Option Fraction) (unit : List Char) :
    Except DurationError Duration :=
  if unit.isEmpty then .error (.unitMissing count) else
  match TimeUnit.ofName? (String.ofList unit) with
  | none => .error (.unknownUnit (String.ofList unit))
  | some u => do
    let d ← d.addGrains u.grain (count * (u.nanos / u.grain))
    match fraction with
    | none => .ok d
    | some f =>
      match u.fractionGrain? with
      | none => .error .tooLarge
      | some grain => do
        let scaled ← word (f.numerator * (u.nanos / grain))
        if scaled % f.denominator = 0 then d.addGrains grain (scaled / f.denominator)
        else .error .tooLarge

/-- Where a reader stands: before a span, in its count, after its point, or in its unit, whose
letters are held last first. -/
inductive Place
  | start
  | between (since : Nat)
  | count (n : Nat)
  | fraction (n : Nat) (f : Fraction) (mark : Nat)
  | unit (n : Nat) (f : Option Fraction) (letters : List Char)

structure Reader where
  total : Duration
  offset : Nat
  place : Place

namespace Reader

def digit? (c : Char) : Option Nat :=
  if '0' ≤ c ∧ c ≤ '9' then some (c.toNat - '0'.toNat) else none

def isUnitLetter (c : Char) : Bool := c.isAlpha || c == 'µ'

def endFraction (f : Fraction) (mark : Nat) : Except DurationError Fraction :=
  if f.denominator = 1 then .error (.invalidCharacter mark) else .ok f

/-- Before a span blanks do not count. If there is no number, the error says where the search for
one began. -/
def awaitSpan (here : Place) (since : Nat) (c : Char) : Except DurationError Place :=
  if Text.isBlank c then .ok here else
  match digit? c with
  | some d => .ok (.count d)
  | none => .error (.numberExpected since)

def next (r : Reader) (c : Char) : Except DurationError (Duration × Place) :=
  match r.place with
  | .start => return (r.total, ← awaitSpan r.place 0 c)
  | .between since => return (r.total, ← awaitSpan r.place since c)
  | .count n =>
    match digit? c with
    | some d => return (r.total, .count (← word (10 * n + d)))
    | none =>
      if Text.isBlank c then .ok (r.total, .count n)
      else if isUnitLetter c then .ok (r.total, .unit n none [c])
      else if c = '.' then .ok (r.total, .fraction n ⟨0, 1⟩ r.offset)
      else .error (.invalidCharacter r.offset)
  | .fraction n f mark =>
    match digit? c with
    | some d => do
      let denominator ← word (10 * f.denominator)
      let numerator ← word (10 * f.numerator + d)
      return (r.total, .fraction n ⟨numerator, denominator⟩ (r.offset + c.utf8Size))
    | none =>
      if Text.isBlank c then .ok (r.total, .fraction n f (r.offset + c.utf8Size))
      else if isUnitLetter c then return (r.total, .unit n (some (← endFraction f mark)) [c])
      else .error (.invalidCharacter mark)
  | .unit n f letters =>
    if isUnitLetter c then .ok (r.total, .unit n f (c :: letters)) else
    match digit? c with
    | some d => return (← r.total.addSpan n f letters.reverse, .count d)
    | none =>
      if Text.isBlank c then
        return (← r.total.addSpan n f letters.reverse, .between (r.offset + c.utf8Size))
      else .error (.invalidCharacter r.offset)

def step (r : Reader) (c : Char) : Except DurationError Reader := do
  let (total, place) ← r.next c
  return ⟨total, r.offset + c.utf8Size, place⟩

def finish (r : Reader) : Except DurationError Duration :=
  match r.place with
  | .start => .error .empty
  | .between _ => .ok r.total
  | .count n => r.total.addSpan n none []
  | .fraction n f mark => do r.total.addSpan n (some (← endFraction f mark)) []
  | .unit n f letters => r.total.addSpan n f letters.reverse

end Reader

/-- A lone `0` needs no unit. -/
def read (cs : List Char) : Except DurationError Duration :=
  if cs = ['0'] then .ok zero else do
  (← cs.foldlM Reader.step ⟨zero, 0, .start⟩).finish

def parse (s : String) : Except DurationError Duration := read s.toList

def parts (d : Duration) : List (Nat × String) :=
  let plural (n : Nat) (name : String) := (n, if n > 1 then name ++ "s" else name)
  let s := d.wholeSeconds
  let n := d.subsecNanos
  [plural (s / 31557600) "year",
   plural (s % 31557600 / 2630016) "month",
   plural (s % 31557600 % 2630016 / 86400) "day",
   (s % 31557600 % 2630016 % 86400 / 3600, "h"),
   (s % 31557600 % 2630016 % 86400 % 3600 / 60, "m"),
   (s % 31557600 % 2630016 % 86400 % 60, "s"),
   (n / 1000000, "ms"),
   (n % 1000000 / 1000, "us"),
   (n % 1000, "ns")]

def text (d : Duration) : String :=
  if d.isZero then "0s" else
  " ".intercalate ((d.parts.filter (·.1 > 0)).map fun (n, name) => toString n ++ name)

def fractionDigits (n width : Nat) : String :=
  let digits := (toString (Nat.pow 10 width + n)).toList.drop 1
  let kept := (digits.reverse.dropWhile (· = '0')).reverse
  if kept.isEmpty then "" else "." ++ String.ofList kept

/-- One number in the largest of s, ms, µs and ns that leaves it at least one. -/
def brief (d : Duration) : String :=
  let s := d.wholeSeconds
  let n := d.subsecNanos
  if s > 0 then toString s ++ fractionDigits n 9 ++ "s"
  else if n ≥ 1000000 then toString (n / 1000000) ++ fractionDigits (n % 1000000) 6 ++ "ms"
  else if n ≥ 1000 then toString (n / 1000) ++ fractionDigits (n % 1000) 3 ++ "µs"
  else toString n ++ "ns"

end Duration

end WorkQueue
