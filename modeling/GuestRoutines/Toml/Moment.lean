import GuestRoutines.Number.Digits

/-!
# Dates and times

A moment is a date, a time of day, or both; only both together may say how far their clock is from
the common one. Moments are checked against the calendar when they are read, and are always written
in one way, whatever the way in which they were read.

## Main definitions

* `Toml.Moment` — dates and times
* `Toml.Moment.read?`, `Toml.Moment.parse?` — the moment at the start of a text, and the moment that
  a whole text spells
* `Toml.Moment.display` — the text of a moment
-/

namespace GuestRoutines.Toml

/-- A day of the calendar. -/
structure Date where
  year : Nat
  month : Nat
  day : Nat
  deriving DecidableEq, Repr

/-- A time of day; a minute may have a leap second. -/
structure Time where
  hour : Nat
  minute : Nat
  second : Nat
  nanosecond : Nat
  deriving DecidableEq, Repr

/-- How far a clock is from the common one. -/
inductive Offset where
  /-- It is the common clock. -/
  | zulu
  | minutes (n : Int)
  deriving DecidableEq, Repr

/-- A date, a time of day, or both. -/
inductive Moment where
  | date (d : Date)
  | time (t : Time)
  | both (d : Date) (t : Time) (offset : Option Offset)
  deriving DecidableEq, Repr

/-! ### Reading -/

/-- A number of exactly `n` digits, and what follows it. -/
def fixed? (n : Nat) (cs : List Char) : Option (Nat × List Char) :=
  let ds := cs.take n
  if ds.length = n ∧ ds.all Char.isDigit then some (Digits.value ds, cs.drop n) else none

/-- A number of two digits within bounds, and what follows it. -/
def bounded? (low high : Nat) (cs : List Char) : Option (Nat × List Char) :=
  (fixed? 2 cs).filter fun r => low ≤ r.1 ∧ r.1 ≤ high

/-- What follows a character at the start of a text. -/
def char? (c : Char) : List Char → Option (List Char)
  | d :: cs => if d = c then some cs else none
  | [] => none

/-- A year that has a twenty-ninth of February. -/
def isLeapYear (year : Nat) : Bool := year % 4 == 0 && (year % 100 != 0 || year % 400 == 0)

/-- The number of days of a month. -/
def daysIn (year month : Nat) : Nat :=
  if month = 2 then if isLeapYear year then 29 else 28
  else if month ∈ [4, 6, 9, 11] then 30
  else 31

/-- A date, and what follows it. -/
def Date.read? (cs : List Char) : Option (Date × List Char) := do
  let (year, cs) ← fixed? 4 cs
  let cs ← char? '-' cs
  let (month, cs) ← bounded? 1 12 cs
  let cs ← char? '-' cs
  let (day, cs) ← bounded? 1 (daysIn year month) cs
  return ({ year, month, day }, cs)

/-- The number of decimals of a second that are kept. -/
def secondPlaces : Nat := 9

/-- The decimals of a second, if there are any, and what follows them. Further decimals than are
kept are dropped. -/
def readNanosecond : List Char → Nat × List Char
  | '.' :: cs =>
    let (ds, rest) := Digits.span cs
    let kept := ds.take secondPlaces
    if ds = [] then (0, '.' :: cs)
    else (Digits.value kept * Digits.place (secondPlaces - kept.length), rest)
  | cs => (0, cs)

/-- A time of day, and what follows it. -/
def Time.read? (cs : List Char) : Option (Time × List Char) := do
  let (hour, cs) ← bounded? 0 23 cs
  let cs ← char? ':' cs
  let (minute, cs) ← bounded? 0 59 cs
  let cs ← char? ':' cs
  let (second, cs) ← bounded? 0 60 cs
  let (nanosecond, cs) := readNanosecond cs
  return ({ hour, minute, second, nanosecond }, cs)

/-- Hours and minutes of an offset in minutes, and what follows them. -/
def readHoursMinutes? (cs : List Char) : Option (Nat × List Char) := do
  let (hours, cs) ← bounded? 0 23 cs
  let cs ← char? ':' cs
  let (minutes, cs) ← bounded? 0 59 cs
  return (hours * 60 + minutes, cs)

/-- An offset, and what follows it. -/
def Offset.read? : List Char → Option (Offset × List Char)
  | 'Z' :: cs | 'z' :: cs => some (.zulu, cs)
  | '+' :: cs => (readHoursMinutes? cs).map fun (n, rest) => (.minutes n, rest)
  | '-' :: cs => (readHoursMinutes? cs).map fun (n, rest) => (.minutes (-n), rest)
  | _ => none

/-- What follows the mark between a date and a time. -/
def afterDateMark? : List Char → Option (List Char)
  | 'T' :: cs | 't' :: cs | ' ' :: cs => some cs
  | _ => none

namespace Moment

/-- The moment at the start of a text, and what follows it. A date that no time follows is a date
alone. -/
def read? (cs : List Char) : Option (Moment × List Char) :=
  match Date.read? cs with
  | none => (Time.read? cs).map fun (t, rest) => (time t, rest)
  | some (d, afterDate) =>
    match (afterDateMark? afterDate).bind Time.read? with
    | none => some (date d, afterDate)
    | some (t, afterTime) =>
      match Offset.read? afterTime with
      | none => some (both d t none, afterTime)
      | some (o, rest) => some (both d t (some o), rest)

/-- The moment that a text spells, if the whole text does. -/
def parse? (s : String) : Option Moment :=
  match read? s.toList with
  | some (m, []) => some m
  | _ => none

end Moment

/-! ### Writing -/

/-- A number in at least `width` digits. -/
def paddedText (width n : Nat) : String := String.ofList (Digits.padded width n)

def Date.display (d : Date) : String :=
  paddedText 4 d.year ++ "-" ++ paddedText 2 d.month ++ "-" ++ paddedText 2 d.day

/-- The decimals of a second, without zeros at their end; whole seconds have none. -/
def decimalsText (nanosecond : Nat) : String :=
  if nanosecond = 0 then ""
  else
    let ds := (Digits.padded secondPlaces nanosecond).reverse.dropWhile (· == '0')
    "." ++ String.ofList ds.reverse

def Time.display (t : Time) : String :=
  paddedText 2 t.hour ++ ":" ++ paddedText 2 t.minute ++ ":" ++ paddedText 2 t.second ++
    decimalsText t.nanosecond

def Offset.display : Offset → String
  | zulu => "Z"
  | minutes n =>
    (if n < 0 then "-" else "+") ++ paddedText 2 (n.natAbs / 60) ++ ":" ++
      paddedText 2 (n.natAbs % 60)

/-- The text of a moment. -/
def Moment.display : Moment → String
  | date d => d.display
  | time t => t.display
  | both d t offset => d.display ++ "T" ++ t.display ++ (offset.map Offset.display).getD ""

end GuestRoutines.Toml
