/-!
Doubles: the 64-bit binary floating-point numbers, held as their bits so that equality is decidable
and tells the two zeros apart. A finite double is an integer times a power of two.
-/

namespace AgentFleet

structure Double where
  bits : UInt64
  deriving DecidableEq, Repr

namespace Double

def ofFloat (f : Float) : Double := ⟨f.toBits⟩

def toFloat (d : Double) : Float := Float.ofBits d.bits

/-- Whether the sign bit is set, as it is for the negative zero. -/
def isNegative (d : Double) : Bool := d.bits >>> 63 == 1

def biasedExponent (d : Double) : Nat := ((d.bits >>> 52) &&& 0x7FF).toNat

def fraction (d : Double) : Nat := (d.bits &&& 0xFFFFFFFFFFFFF).toNat

def isFinite (d : Double) : Bool := d.biasedExponent < 0x7FF

def isNaN (d : Double) : Bool := d.biasedExponent == 0x7FF && d.fraction != 0

/-- The worth of the bit that the significand of most doubles starts with, `2 ^ 52`. -/
def leadingBit : Nat := 4503599627370496

/-- The absolute value of a finite double is `significand * 2 ^ binaryExponent`. -/
def significand (d : Double) : Nat :=
  if d.biasedExponent = 0 then d.fraction else leadingBit + d.fraction

def binaryExponent (d : Double) : Int :=
  if d.biasedExponent = 0 then -1074 else (d.biasedExponent : Int) - 1075

def ofUInt64 (n : UInt64) : Double := ofFloat n.toFloat

/-- The natural number nearest to a quotient, ties to the even one. -/
def roundDiv (n d : Nat) : Nat :=
  let q := n / d
  let rest := n % d
  if d < 2 * rest ∨ (2 * rest = d ∧ q % 2 = 1) then q + 1 else q

/-- The greatest `e` with `2 ^ e ≤ n / d`, both positive. -/
def quotientLog2 (n d : Nat) : Int :=
  let e : Int := (n.log2 : Int) - d.log2
  if n * Nat.pow 2 (-e).toNat < d * Nat.pow 2 e.toNat then e - 1 else e

def infinityBits : Nat := 0x7FF0000000000000

/-- The double nearest to a quotient of natural numbers, ties to the even neighbour. The step
between doubles near it is `2 ^ q`, never less than `2 ^ -1074`; a significand that is rounded up to
the next power of two carries into the exponent, as it should. -/
def ofRatio (n d : Nat) : Double :=
  if n = 0 then ⟨0⟩
  else
    let q := max (quotientLog2 n d - 52) (-1074)
    let m := roundDiv (n * Nat.pow 2 (-q).toNat) (d * Nat.pow 2 q.toNat)
    ⟨(min ((q + 1074).toNat * leadingBit + m) infinityBits).toUInt64⟩

/-- The double nearest to `digits * 10 ^ exponent`, ties to the even neighbour. -/
def ofDecimal (digits : Nat) (exponent : Int) : Double :=
  ofRatio (digits * Nat.pow 10 exponent.toNat) (Nat.pow 10 (-exponent).toNat)

def neg (d : Double) : Double := ⟨d.bits ^^^ 0x8000000000000000⟩

end Double

end AgentFleet
