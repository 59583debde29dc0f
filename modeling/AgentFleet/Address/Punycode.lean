/-!
Domain labels in other scripts, written in ASCII by the rules of RFC 3492: the ASCII characters
first, then for each other character, in ascending order of code points, how far it is from the one
before.
-/

namespace AgentFleet.Address.Punycode

def digit (n : Nat) : Char := if n < 26 then Char.ofNat (97 + n) else Char.ofNat (22 + n)

def digitValue? (c : Char) : Option Nat :=
  if 'a' ≤ c ∧ c ≤ 'z' then some (c.toNat - 97)
  else if 'A' ≤ c ∧ c ≤ 'Z' then some (c.toNat - 65)
  else if '0' ≤ c ∧ c ≤ '9' then some (c.toNat - 22)
  else none

/-- Where the digits of a number may end: the bound of a digit's final values. -/
def threshold (place bias : Nat) : Nat :=
  if place ≤ bias then 1 else if bias + 26 ≤ place then 26 else place - bias

theorem threshold_bounds (place bias : Nat) :
    1 ≤ threshold place bias ∧ threshold place bias ≤ 26 := by
  unfold threshold
  split
  · omega
  · split <;> omega

/-- Divides a distance down until it is small; counts the divisions in steps of 36. -/
def settle (distance steps : Nat) : Nat × Nat :=
  if 455 < distance then settle (distance / 35) (steps + 36) else (distance, steps)
termination_by distance

/-- The bias for the next distance, after one of the given size to the `count`-th character. -/
def adapt (distance count : Nat) (first : Bool) : Nat :=
  let scaled := if first then distance / 700 else distance / 2
  let (rest, steps) := settle (scaled + scaled / count) 0
  steps + 36 * rest / (rest + 38)

def distanceDigits (bias place distance : Nat) : List Char :=
  let t := threshold place bias
  if distance < t then [digit distance]
  else digit (t + (distance - t) % (36 - t)) ::
    distanceDigits bias (place + 36) ((distance - t) / (36 - t))
termination_by distance
decreasing_by
  have h := threshold_bounds place bias
  have := Nat.div_le_self (distance - threshold place bias) (36 - threshold place bias)
  omega

structure State where
  /-- The digits so far, the last one first. -/
  digits : List Char
  distance : Nat
  bias : Nat
  /-- How many characters have been placed. -/
  placed : Nat

/-- Passes one place of the label while the character with code point `code` is placed. -/
def pass (ascii code : Nat) (s : State) (c : Char) : State :=
  if c.toNat < code then { s with distance := s.distance + 1 }
  else if c.toNat = code then
    { digits := (distanceDigits s.bias 36 s.distance).reverse ++ s.digits
      distance := 0
      bias := adapt s.distance (s.placed + 1) (s.placed = ascii)
      placed := s.placed + 1 }
  else s

/-- Places all characters; `codes` are their code points in ascending order, and `next` is the least
code point that may come. -/
def place (label : List Char) (ascii : Nat) : List Nat → Nat → State → State
  | [], _, s => s
  | code :: codes, next, s =>
    let s := { s with distance := s.distance + (code - next) * (s.placed + 1) }
    let s := label.foldl (pass ascii code) s
    place label ascii codes (code + 1) { s with distance := s.distance + 1 }

/-- The ASCII form of a label, without its mark `xn--`. -/
def encode (label : List Char) : List Char :=
  let ascii := label.filter (·.toNat < 128)
  let codes := ((label.filter (128 ≤ ·.toNat)).map Char.toNat).mergeSort.eraseDups
  let s := place label ascii.length codes 128 ⟨[], 0, 72, ascii.length⟩
  (if ascii.isEmpty then [] else ascii ++ ['-']) ++ s.digits.reverse

/-- Distances and the weights of their digits do not exceed this number. -/
def maxDistance : Nat := 4294967295

/-- Reads the digits of a distance: its value so far, and the weight of the next digit. -/
def readDistance (bias : Nat) : Nat → Nat → Nat → List Char → Option (Nat × List Char)
  | _, _, _, [] => none
  | place, value, weight, c :: cs => do
    let d ← digitValue? c
    let value := value + d * weight
    let t := threshold place bias
    if maxDistance < value then none
    else if d < t then some (value, cs)
    else if maxDistance < weight * (36 - t) then none
    else readDistance bias (place + 36) value (weight * (36 - t)) cs

/-- Reads distances and inserts their characters; `fuel` bounds their number. -/
def insertAll : Nat → Bool → List Char → Nat → Nat → Nat → List Char → Option (List Char)
  | _, _, label, _, _, _, [] => some label
  | 0, _, _, _, _, _, _ => none
  | fuel + 1, first, label, code, start, bias, cs => do
    let (position, rest) ← readDistance bias 36 start 1 cs
    let distance := position - start
    let count := label.length + 1
    let code := code + position / count
    if 0x10FFFF < code ∨ ¬ code.isValidChar then none
    else
      let place := position % count
      let label := label.take place ++ Char.ofNat code :: label.drop place
      insertAll fuel false label code (place + 1) (adapt distance count first) rest

def decode (cs : List Char) : Option (List Char) :=
  let behind := (cs.reverse.takeWhile (· ≠ '-')).reverse
  let ascii := if behind.length = cs.length then [] else cs.take (cs.length - behind.length - 1)
  insertAll behind.length true ascii 128 0 72 behind

end AgentFleet.Address.Punycode
