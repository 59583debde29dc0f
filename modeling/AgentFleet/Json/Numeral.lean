import AgentFleet.Json.Value

/-!
Numerals and the numbers they stand for. Digits are gathered into 64 bits; digits that no longer fit
only scale the number. A numeral with a fraction, an exponent or too many digits stands for the
gathered integer, as a double, times or divided by a power of ten, as a double: two roundings, so
not always the double nearest to the numeral.
-/

namespace AgentFleet.Json

/-- A numeral in its parts; digits are given by their values. -/
structure Numeral where
  negative : Bool
  whole : List Nat
  fraction : Option (List Nat)
  /-- Whether the exponent is negative, and its digits. -/
  exponent : Option (Bool × List Nat)
  deriving Repr

def digit? (c : Char) : Option Nat :=
  if '0' ≤ c ∧ c ≤ '9' then some (c.toNat - 48) else none

def digits : List Char → List Nat × List Char
  | [] => ([], [])
  | c :: cs =>
    match digit? c with
    | some d => (d :: (digits cs).1, (digits cs).2)
    | none => ([], c :: cs)

def maxGathered : Nat := 18446744073709551615

/-- Gathers digits while the integer fits 64 bits; also the digits that are left over. -/
def gather (n : Nat) : List Nat → Nat × List Nat
  | [] => (n, [])
  | d :: ds => if n * 10 + d ≤ maxGathered then gather (n * 10 + d) ds else (n, d :: ds)

def powerOfTen (n : Nat) : Double := Double.ofDecimal 1 n

/-- `n * 10 ^ exponent`, `none` if it is too large. Powers beyond `10 ^ 308` are divided out in
steps. -/
def scale : Nat → Float → Int → Option Float
  | 0, f, _ => some f
  | steps + 1, f, exponent =>
    if 0 ≤ exponent then
      if exponent ≤ 308 then
        let scaled := f * (powerOfTen exponent.toNat).toFloat
        if scaled.isInf then none else some scaled
      else if f == 0 then some f else none
    else if -308 ≤ exponent then some (f / (powerOfTen (-exponent).toNat).toFloat)
    else if f == 0 then some f
    else scale steps (f / (powerOfTen 308).toFloat) (exponent + 308)

/-- The greatest exponent that is read; greater ones make a number infinite or zero. -/
def maxExponent : Nat := 2147483647

def signed (negative : Bool) (d : Double) : Double := if negative then d.neg else d

def scaled? (negative : Bool) (gathered : Nat) (exponent : Int) : Option Number :=
  (scale 4 (Double.ofUInt64 gathered.toUInt64).toFloat exponent).map fun f =>
    .double (signed negative (Double.ofFloat f))

/-- The number a numeral stands for, `none` if it is too large for a double. -/
def Numeral.number? (x : Numeral) : Option Number :=
  let (wholePart, dropped) := gather 0 x.whole
  if x.fraction.isNone ∧ x.exponent.isNone ∧ dropped = [] then
    if x.negative then
      if wholePart = 0 ∨ 9223372036854775808 < wholePart then
        some (.double (Double.ofUInt64 wholePart.toUInt64).neg)
      else some (.negative (Int64.ofInt (-wholePart)))
    else some (.natural wholePart.toUInt64)
  else
    let fraction := x.fraction.getD []
    let (gathered, left) := gather wholePart fraction
    let start : Int := (dropped.length : Int) - ((fraction.length - left.length : Nat) : Int)
    match x.exponent with
    | none => scaled? x.negative gathered start
    | some (down, ds) =>
      let e := ds.foldl (fun n d => n * 10 + d) 0
      if maxExponent < e then
        if gathered = 0 ∨ down then some (.double (signed x.negative ⟨0⟩)) else none
      else scaled? x.negative gathered (if down then start - e else start + e)

end AgentFleet.Json
