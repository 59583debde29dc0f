import AgentFleet.Time.Calendar
import AgentFleet.Text.Character

/-!
Points in time, and their written form after RFC 3339.

A time is written in UTC with the fewest of zero, three, six or nine digits of a second that are
exact. Reading is lenient: blanks may stand before each part, months, days and the like may have one
digit, the year may be signed or short, a blank or a small letter may stand for the `T`, the offset
may lack its colon, and its minus sign may be the mathematical one.
-/

namespace AgentFleet

/-- A point in time: whole seconds since 1970 in UTC, and nanoseconds. A leap second is the second
before it with a billion nanoseconds more. -/
structure Timestamp where
  seconds : Int
  nanos : Nat
  deriving DecidableEq, Repr

namespace Timestamp

def billion : Nat := 1000000000

def minYear : Int := -262143

def maxYear : Int := 262142

def secondsPerDay : Int := 86400

/-! ### Writing -/

def padded (width : Nat) (n : Nat) : String :=
  let digits := Nat.toDigits 10 n
  String.ofList (List.replicate (width - digits.length) '0' ++ digits)

/-- Four digits, and a sign only outside of them. -/
def yearText (year : Int) : String :=
  if 0 ≤ year ∧ year ≤ 9999 then padded 4 year.toNat
  else (if year < 0 then "-" else "+") ++ padded 4 year.natAbs

def fractionText (nanos : Nat) : String :=
  if nanos = 0 then ""
  else if nanos % 1000000 = 0 then "." ++ padded 3 (nanos / 1000000)
  else if nanos % 1000 = 0 then "." ++ padded 6 (nanos / 1000)
  else "." ++ padded 9 nanos

def text (t : Timestamp) : String :=
  let date := Date.ofDays (t.seconds / secondsPerDay)
  let second := (t.seconds % secondsPerDay).toNat
  let leap := decide (billion ≤ t.nanos)
  yearText date.year ++ "-" ++ padded 2 date.month ++ "-" ++ padded 2 date.day ++ "T"
    ++ padded 2 (second / 3600) ++ ":" ++ padded 2 (second / 60 % 60) ++ ":"
    ++ padded 2 (second % 60 + (if leap then 1 else 0))
    ++ fractionText (if leap then t.nanos - billion else t.nanos) ++ "Z"

/-! ### Reading -/

/-- The digits at the start of a text, at most `most` of them, and the rest. -/
def leadingDigits : Nat → List Char → List Nat × List Char
  | 0, cs => ([], cs)
  | _ + 1, [] => ([], [])
  | most + 1, c :: cs =>
    if '0' ≤ c ∧ c ≤ '9' then
      let (ds, rest) := leadingDigits most cs
      ((c.toNat - 48) :: ds, rest)
    else ([], c :: cs)

def numberOf (digits : List Nat) : Nat := digits.foldl (fun n d => n * 10 + d) 0

def number (most : Nat) (cs : List Char) : Option (Nat × List Char) :=
  match leadingDigits most cs with
  | ([], _) => none
  | (ds, rest) => some (numberOf ds, rest)

def spacedNumber (most : Nat) (cs : List Char) : Option (Nat × List Char) :=
  number most (Text.trimLeft cs)

def mark (c : Char) (cs : List Char) : Option (List Char) :=
  match Text.trimLeft cs with
  | d :: rest => if d = c then some rest else none
  | [] => none

/-- A year without a sign has at most four digits. -/
def readYear (cs : List Char) : Option (Int × List Char) :=
  match Text.trimLeft cs with
  | '-' :: rest => (number rest.length rest).map fun (n, rest) => (-(n : Int), rest)
  | '+' :: rest => (number rest.length rest).map fun (n, rest) => ((n : Int), rest)
  | cs => (number 4 cs).map fun (n, rest) => ((n : Int), rest)

/-- Reads a fraction of a second as nanoseconds; digits past the ninth are passed over. -/
def readFraction : List Char → Option (Nat × List Char)
  | '.' :: cs =>
    match leadingDigits 9 cs with
    | ([], _) => none
    | (ds, rest) =>
      some (numberOf ds * Nat.pow 10 (9 - ds.length), (leadingDigits rest.length rest).2)
  | cs => some (0, cs)

def twoDigits (cs : List Char) : Option (Nat × List Char) :=
  match leadingDigits 2 cs with
  | ([a, b], rest) => some (a * 10 + b, rest)
  | _ => none

/-- Reads hours and minutes of an offset after its sign; colons and blanks may stand between. -/
def readHoursMinutes (cs : List Char) : Option (Int × List Char) := do
  let (hours, cs) ← twoDigits cs
  let (minutes, cs) ← twoDigits (cs.dropWhile fun c => c = ':' || Text.isBlank c)
  if minutes < 60 ∧ hours < 24 then
    some ((hours * 3600 + minutes * 60 : Nat), cs)
  else none

def readOffset (cs : List Char) : Option (Int × List Char) :=
  match cs with
  | u :: t :: c :: rest =>
    if u.toLower = 'u' ∧ t.toLower = 't' ∧ c.toLower = 'c' then some (0, rest) else short cs
  | cs => short cs
where
  /-- Reads a letter for UTC, or a sign and a number. -/
  short : List Char → Option (Int × List Char)
    | 'Z' :: rest => some (0, rest)
    | 'z' :: rest => some (0, rest)
    | '+' :: rest => readHoursMinutes rest
    | '-' :: rest => (readHoursMinutes rest).map fun (s, rest) => (-s, rest)
    | '\u2212' :: rest => (readHoursMinutes rest).map fun (s, rest) => (-s, rest)
    | _ => none

def ofParts (date : Date) (hour minute second nanos : Nat) (offset : Int) : Option Timestamp :=
  if date.IsValid ∧ minYear ≤ date.year ∧ date.year ≤ maxYear ∧ hour < 24 ∧ minute < 60
      ∧ second ≤ 60 then
    let leap := second = 60
    let t : Timestamp :=
      { seconds := date.toDays * secondsPerDay
          + ((hour * 3600 + minute * 60 + (if leap then 59 else second) : Nat) : Int) - offset
        nanos := nanos + (if leap then billion else 0) }
    let year := (Date.ofDays (t.seconds / secondsPerDay)).year
    if minYear ≤ year ∧ year ≤ maxYear then some t else none
  else none

def isSeparator (c : Char) : Bool := c = 'T' || c = 't' || c = ' '

def ofChars? (cs : List Char) : Option Timestamp := do
  let (year, cs) ← readYear cs
  let cs ← mark '-' cs
  let (month, cs) ← spacedNumber 2 cs
  let cs ← mark '-' cs
  let (day, cs) ← spacedNumber 2 cs
  let cs ← match cs with
    | c :: rest => if isSeparator c then some rest else none
    | [] => none
  let (hour, cs) ← spacedNumber 2 cs
  let cs ← mark ':' cs
  let (minute, cs) ← spacedNumber 2 cs
  let cs ← mark ':' cs
  let (second, cs) ← spacedNumber 2 cs
  let (nanos, cs) ← readFraction cs
  let (offset, cs) ← readOffset (Text.trimLeft cs)
  if Text.trimLeft cs = [] then ofParts ⟨year, month, day⟩ hour minute second nanos offset else none

def ofText? (s : String) : Option Timestamp := ofChars? s.toList

end Timestamp

end AgentFleet
