import AgentFleet.Decimal.Double

/-!
The shortest decimal that reads back as a given double. Every double is the nearest one to each real
of an interval around it; the interval's ends belong to it if the significand is even. Of the
decimals in the interval the ones with fewest digits count, and of those the nearest to the double.
A double may lie in the middle between two of them; then the rule for ties decides.

All comparisons are between natural numbers: the double is `value / unit`, and the interval runs
from `low / unit` to `high / unit`.
-/

namespace AgentFleet.Decimal

inductive Tie where
  | toEven
  | up
  deriving DecidableEq, Repr

/-- A positive rational, with the interval of the reals that round to it. -/
structure Rounding where
  unit : Nat
  low : Nat
  value : Nat
  high : Nat
  /-- Whether the interval's ends round to the value too. -/
  closed : Bool

/-- The neighbour below is only half as far away when the significand is the least one of its
exponent. -/
def Rounding.ofDouble (d : Double) : Rounding :=
  let m := d.significand
  let q := d.binaryExponent
  let scale := Nat.pow 2 q.toNat
  let below := if m = Double.leadingBit ∧ 1 < d.biasedExponent then 1 else 2
  { unit := 4 * Nat.pow 2 (-q).toNat
    low := (4 * m - below) * scale
    value := 4 * m * scale
    high := (4 * m + 2) * scale
    closed := m % 2 = 0 }

/-- The decimal `digits * 10 ^ exponent`. -/
structure Scientific where
  digits : Nat
  exponent : Int
  deriving DecidableEq, Repr

/-- Twice the distance of `digits * 10 ^ exponent` from the value, and whether it rounds to the
value; distances are in units of one common denominator for each exponent. -/
def Rounding.admits (r : Rounding) (digits : Nat) (exponent : Int) : Bool :=
  let x := digits * Nat.pow 10 exponent.toNat * r.unit
  let t := Nat.pow 10 (-exponent).toNat
  if r.closed then r.low * t ≤ x && x ≤ r.high * t else r.low * t < x && x < r.high * t

/-- The decimals of the grid with steps of `10 ^ exponent` just below (or at) and just above the
value: the one that rounds to the value, of two such the nearer, of two as near as `tie` says. -/
def Rounding.onGrid (r : Rounding) (tie : Tie) (exponent : Int) : Option Nat :=
  let step := Nat.pow 10 exponent.toNat * r.unit
  let v := r.value * Nat.pow 10 (-exponent).toNat
  let below := v / step
  let rest := v % step
  let above := below + 1
  match decide (0 < below) && r.admits below exponent, r.admits above exponent with
  | true, true =>
    if 2 * rest < step ∨ (2 * rest = step ∧ tie = .toEven ∧ below % 2 = 0) then some below
    else some above
  | true, false => some below
  | false, true => some above
  | false, false => none

/-- The least `n` at or above the given one with `value < 10 ^ (n + 1)` times `unit`; `fuel` bounds
the search. -/
def leadingExponent (r : Rounding) : Nat → Int → Int
  | 0, k => k
  | fuel + 1, k =>
    if r.value * Nat.pow 10 (-(k + 1)).toNat < r.unit * Nat.pow 10 (k + 1).toNat then k
    else leadingExponent r fuel (k + 1)

/-- Tries grids with `n`, `n + 1`, … digits; seventeen always suffice. -/
def Rounding.search (r : Rounding) (tie : Tie) (lead : Int) : Nat → Nat → Scientific
  | 0, n =>
    let exponent := lead - n + 1
    ⟨r.value * Nat.pow 10 (-exponent).toNat / (r.unit * Nat.pow 10 exponent.toNat), exponent⟩
  | fuel + 1, n =>
    match r.onGrid tie (lead - n + 1) with
    | some digits => ⟨digits, lead - n + 1⟩
    | none => r.search tie lead fuel (n + 1)

def Scientific.strip (s : Scientific) : Nat → Scientific
  | 0 => s
  | fuel + 1 =>
    if s.digits ≠ 0 ∧ s.digits % 10 = 0 then strip ⟨s.digits / 10, s.exponent + 1⟩ fuel else s

/-- The shortest decimal that reads back as the absolute value of a finite double; zero is `0`. -/
def shortest (tie : Tie) (d : Double) : Scientific :=
  if d.significand = 0 then ⟨0, 0⟩
  else
    let r := Rounding.ofDouble d
    (r.search tie (leadingExponent r 640 (-325)) 17 1).strip 20

end AgentFleet.Decimal
