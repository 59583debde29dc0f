import AgentFleet.Text.Character
import AgentFleet.Time.Calendar
import AgentFleet.Toml.Value

/-!
Strings, numbers and dates of TOML documents. A scanner takes what it recognizes off the start of
the text, or fails.
-/

namespace AgentFleet.Toml

abbrev Scan (α : Type) := StateT (List Char) Option α

namespace Scan

def fail {α : Type} : Scan α := fun _ => none

def orElse {α : Type} (p q : Scan α) : Scan α := fun cs =>
  match p cs with
  | some r => some r
  | none => q cs

def optional {α : Type} (p : Scan α) : Scan (Option α) := fun cs =>
  match p cs with
  | some (a, rest) => some (some a, rest)
  | none => some (none, cs)

def one (p : Char → Bool) : Scan Char
  | [] => none
  | c :: cs => if p c then some (c, cs) else none

def char (c : Char) : Scan Unit := discard (one (· = c))

def literal : List Char → Scan Unit
  | [] => pure ()
  | c :: cs => do
    char c
    literal cs

def many (p : Char → Bool) : Scan (List Char) := fun cs => some (cs.takeWhile p, cs.dropWhile p)

def isBlank (c : Char) : Bool := c = ' ' || c = '\t'

def blanks : Scan Unit := discard (many isBlank)

def newline : Scan Unit
  | '\n' :: cs => some ((), cs)
  | '\r' :: '\n' :: cs => some ((), cs)
  | _ => none

/-! ### Strings -/

/-- Whether a character may stand for itself in some string; tabs are the only control characters.
-/
def isPrintable (c : Char) : Bool := c = '\t' || (0x20 ≤ c.toNat && c.toNat ≠ 0x7F)

def hexNumber (digits : List Char) : Option Nat :=
  digits.foldlM (fun n c => (Text.hexValue? c).map (n * 16 + ·)) 0

def codePoint (n : Nat) : Scan Char := fun cs =>
  let digits := cs.take n
  if digits.length < n then none
  else match hexNumber digits with
    | some code => if code.isValidChar then some (Char.ofNat code, cs.drop n) else none
    | none => none

def escaped : Scan Char
  | 'b' :: cs => some ('\x08', cs)
  | 't' :: cs => some ('\t', cs)
  | 'n' :: cs => some ('\n', cs)
  | 'f' :: cs => some ('\x0c', cs)
  | 'r' :: cs => some ('\r', cs)
  | '"' :: cs => some ('"', cs)
  | '\\' :: cs => some ('\\', cs)
  | 'u' :: cs => codePoint 4 cs
  | 'U' :: cs => codePoint 8 cs
  | _ => none

/-- The characters of a basic string up to its closing quotation mark; `done` holds those before,
last one first, and `fuel` bounds the steps. -/
def basicFrom : Nat → List Char → Scan (List Char)
  | fuel + 1, done, c :: cs =>
    if c = '"' then some (done.reverse, cs)
    else if c = '\\' then
      match escaped cs with
      | some (d, rest) => basicFrom fuel (d :: done) rest
      | none => none
    else if isPrintable c then basicFrom fuel (c :: done) cs
    else none
  | _, _, _ => none

def literalFrom (done : List Char) : Scan (List Char)
  | [] => none
  | c :: cs =>
    if c = '\'' then some (done.reverse, cs)
    else if isPrintable c then literalFrom (c :: done) cs
    else none

def skipLines : List Char → List Char
  | '\r' :: '\n' :: cs => skipLines cs
  | '\n' :: cs => skipLines cs
  | ' ' :: cs => skipLines cs
  | '\t' :: cs => skipLines cs
  | cs => cs

def continued? (cs : List Char) : Option (List Char) :=
  (newline (cs.dropWhile isBlank)).map fun (_, rest) => skipLines rest

/-- The characters of a string of several lines. Up to two quotation marks may stand in it, and two
more before the three that close it. -/
def linesFrom (quote : Char) (escapes : Bool) : Nat → List Char → Scan (List Char)
  | fuel + 1, done, c :: cs =>
    if c = quote then
      let marks := ((c :: cs).takeWhile (· = quote)).length
      let kept := if marks < 3 then marks else min (marks - 3) 2
      let done := List.replicate kept quote ++ done
      if marks < 3 then linesFrom quote escapes fuel done ((c :: cs).drop marks)
      else some (done.reverse, (c :: cs).drop (kept + 3))
    else if c = '\\' ∧ escapes then
      match continued? cs with
      | some rest => linesFrom quote escapes fuel done rest
      | none =>
        match escaped cs with
        | some (d, rest) => linesFrom quote escapes fuel (d :: done) rest
        | none => none
    else if isPrintable c then linesFrom quote escapes fuel (c :: done) cs
    else
      match newline (c :: cs) with
      | some (_, rest) => linesFrom quote escapes fuel ('\n' :: done) rest
      | none => none
  | _, _, _ => none

/-- A string of several lines, after its opening marks; a line end just behind them is not part of
it. -/
def severalLines (quote : Char) (escapes : Bool) : Scan (List Char) := fun cs =>
  let rest := match newline cs with
    | some (_, rest) => rest
    | none => cs
  linesFrom quote escapes (rest.length + 1) [] rest

/-- A string of one line, as keys may be. -/
def line : Scan String
  | '"' :: cs => (String.ofList <$> basicFrom (cs.length + 1) []) cs
  | '\'' :: cs => (String.ofList <$> literalFrom []) cs
  | _ => none

def string : Scan String
  | '"' :: '"' :: '"' :: cs => (String.ofList <$> severalLines '"' true) cs
  | '\'' :: '\'' :: '\'' :: cs => (String.ofList <$> severalLines '\'' false) cs
  | cs => line cs

/-! ### Numbers -/

def isHexDigit (c : Char) : Bool := (Text.hexValue? c).isSome

def isOctalDigit (c : Char) : Bool := '0' ≤ c && c ≤ '7'

def isBinaryDigit (c : Char) : Bool := c = '0' || c = '1'

/-- Takes digits after a first one; a single underscore may stand between two. -/
def moreDigits (isDigit : Char → Bool) : List Char → List Char × List Char
  | '_' :: c :: cs =>
    if isDigit c then
      let (ds, rest) := moreDigits isDigit cs
      (c :: ds, rest)
    else ([], '_' :: c :: cs)
  | c :: cs =>
    if isDigit c then
      let (ds, rest) := moreDigits isDigit cs
      (c :: ds, rest)
    else ([], c :: cs)
  | [] => ([], [])

def digits (isDigit : Char → Bool) : Scan (List Char) := do
  let c ← one isDigit
  let ds ← fun cs => some (moreDigits isDigit cs)
  return c :: ds

def sign : Scan Bool := do
  match ← optional (one fun c => c = '+' || c = '-') with
  | some c => return c = '-'
  | none => return false

/-- The digits of a decimal integer: `0`, or digits that start with another one. -/
def wholeDigits : Scan (List Char)
  | '0' :: cs => some (['0'], cs)
  | cs => digits Text.isAsciiDigit cs

def valueOf (base : Nat) (ds : List Char) : Nat :=
  ds.foldl (fun n c => n * base + (Text.hexValue? c).getD 0) 0

def fitting (n : Int) : Scan Toml :=
  if -9223372036854775808 ≤ n ∧ n ≤ 9223372036854775807 then pure (.integer n) else fail

def based (base : Nat) (isDigit : Char → Bool) : Scan Toml := do
  fitting (valueOf base (← digits isDigit))

def integer : Scan Toml
  | '0' :: 'x' :: cs => based 16 isHexDigit cs
  | '0' :: 'o' :: cs => based 8 isOctalDigit cs
  | '0' :: 'b' :: cs => based 2 isBinaryDigit cs
  | cs => (do
      let negative ← sign
      let n := valueOf 10 (← wholeDigits)
      fitting (if negative then -n else n) : Scan Toml) cs

/-- An exponent, with whether it is negative. -/
def exponent : Scan (Bool × List Char) := do
  let _ ← one fun c => c = 'e' || c = 'E'
  return (← sign, ← digits Text.isAsciiDigit)

/-- The double nearest to a decimal. Exponents far out of range need no computing. -/
def nearest (ds : List Char) (exponent : Int) : Double :=
  let ds := ds.dropWhile (· = '0')
  if ds = [] then ⟨0⟩
  else if 400 < exponent + ds.length then .ofFloat (1 / 0)
  else if exponent + ds.length < -400 then ⟨0⟩
  else .ofDecimal (valueOf 10 ds) exponent

/-- A number with a fraction, an exponent, or both. One that is too large is refused, but only if it
is positive. -/
def decimal : Scan Toml := do
  let negative ← sign
  let whole ← wholeDigits
  let fraction ← optional (do char '.'; digits Text.isAsciiDigit)
  let exp ← optional exponent
  if fraction.isNone ∧ exp.isNone then fail
  else
    let fraction := fraction.getD []
    let exp : Int := match exp with
      | some (true, ds) => -valueOf 10 ds
      | some (false, ds) => valueOf 10 ds
      | none => 0
    let d := nearest (whole ++ fraction) (exp - fraction.length)
    if negative then return .float d.neg
    else if d.isFinite then return .float d
    else fail

def special : Scan Toml := do
  let negative ← sign
  let d : Double ← orElse (do literal ['i', 'n', 'f']; return .ofFloat (1 / 0))
    (do literal ['n', 'a', 'n']; return .ofFloat (0 / 0))
  return .float (if negative then d.neg else d)

/-! ### Dates -/

def number (n : Nat) : Scan Nat := fun cs =>
  let ds := cs.take n
  if ds.length = n ∧ ds.all Text.isAsciiDigit then some (valueOf 10 ds, cs.drop n) else none

def within (least most : Nat) : Scan Nat := do
  let n ← number 2
  if least ≤ n ∧ n ≤ most then return n else fail

def date : Scan Unit := do
  let year ← number 4
  char '-'
  let month ← within 1 12
  char '-'
  let day ← within 1 31
  if (Date.mk year month day).IsValid then return () else fail

/-- A time of day; digits of a second's fraction may be many. -/
def time : Scan Unit := do
  let _ ← within 0 23
  char ':'
  let _ ← within 0 59
  char ':'
  let _ ← within 0 60
  let _ ← optional (do
    char '.'
    let _ ← one Text.isAsciiDigit
    many Text.isAsciiDigit)

def offset : Scan Unit :=
  orElse (discard (one fun c => c = 'Z' || c = 'z')) do
    let _ ← one fun c => c = '+' || c = '-'
    let _ ← within 0 23
    char ':'
    let _ ← within 0 59

def datetime : Scan Toml := do
  orElse (do
      date
      let _ ← optional (do
        let _ ← one fun c => c = 'T' || c = 't' || c = ' '
        time
        optional offset))
    time
  return .datetime

/-! ### Scalars -/

/-- A value that is neither an array nor a table. -/
def scalar : Scan Toml
  | '"' :: cs => (Toml.string <$> string) ('"' :: cs)
  | '\'' :: cs => (Toml.string <$> string) ('\'' :: cs)
  | 't' :: cs => (do literal "true".toList; return .boolean true : Scan Toml) ('t' :: cs)
  | 'f' :: cs => (do literal "false".toList; return .boolean false : Scan Toml) ('f' :: cs)
  | cs => orElse datetime (orElse decimal (orElse special integer)) cs

end Scan

end AgentFleet.Toml
