import AgentFleet.Text.CombiningClass
import AgentFleet.Text.Decomposition

/-!
The canonical composition of a text (Unicode normalization form C): texts that are the same have the
same one. Characters are decomposed as far as possible, marks are put in the order of their classes,
and what can be composed is composed.
-/

namespace AgentFleet.Text

/-! ### Syllables of Hangul -/

namespace Hangul

/-- The first syllable, the first leading consonant, the first vowel, and the code point before the
first trailing consonant. -/
def syllables : Nat := 0xAC00

def leads : Nat := 0x1100

def vowels : Nat := 0x1161

def trails : Nat := 0x11A7

/-- How many of each there are; no trailing consonant counts as one. -/
def leadCount : Nat := 19

def vowelCount : Nat := 21

def trailCount : Nat := 28

def decompose? (c : Char) : Option (List Char) :=
  let n := c.toNat - syllables
  if syllables ≤ c.toNat ∧ n < leadCount * vowelCount * trailCount then
    let lead := Char.ofNat (leads + n / (vowelCount * trailCount))
    let vowel := Char.ofNat (vowels + n / trailCount % vowelCount)
    let trail := n % trailCount
    some (if trail = 0 then [lead, vowel] else [lead, vowel, Char.ofNat (trails + trail)])
  else none

/-- The syllable of a leading consonant and a vowel, or of a syllable without a trailing consonant
and such a consonant. -/
def compose? (a b : Char) : Option Char :=
  let lead := a.toNat - leads
  let vowel := b.toNat - vowels
  let syllable := a.toNat - syllables
  let trail := b.toNat - trails
  if leads ≤ a.toNat ∧ lead < leadCount ∧ vowels ≤ b.toNat ∧ vowel < vowelCount then
    some (Char.ofNat (syllables + (lead * vowelCount + vowel) * trailCount))
  else if syllables ≤ a.toNat ∧ syllable < leadCount * vowelCount * trailCount
      ∧ syllable % trailCount = 0 ∧ trails < b.toNat ∧ trail < trailCount then
    some (Char.ofNat (a.toNat + trail))
  else none

end Hangul

/-! ### Decomposing -/

/-- The characters that a character is the same as by a table; `fuel` bounds how often the first one
is decomposed again. -/
def decomposeFrom (table : CodeTable Decomposition) : Nat → Char → List Char
  | 0, c => [c]
  | fuel + 1, c =>
    match table.range? c with
    | none => (Hangul.decompose? c).getD [c]
    | some ⟨_, _, .pair first second⟩ => decomposeFrom table fuel first ++ [second]
    | some ⟨_, _, .instead first (d :: more)⟩ => first :: d :: more
    | some ⟨low, _, .instead first []⟩ => [Char.ofNat (first.toNat + (c.toNat - low))]

/-- No character is decomposed more often than this. -/
def longestDecomposition : Nat := 8

def decompose (c : Char) : List Char := decomposeFrom decompositions longestDecomposition c

/-! ### Ordering -/

/-- Puts a mark before the marks that do not have a lower class. -/
def insertMark (c : Char) : List Char → List Char
  | [] => [c]
  | d :: ds =>
    if combiningClass d ≠ 0 ∧ combiningClass d < combiningClass c then d :: insertMark c ds
    else c :: d :: ds

/-- Sorts each run of marks by their classes; marks of one class keep their order. -/
def orderMarks (cs : List Char) : List Char :=
  cs.foldr (fun c rest => if combiningClass c = 0 then c :: rest else insertMark c rest) []

/-! ### Composing -/

def pairs : List ((Char × Char) × Char) :=
  decompositions.toList.filterMap fun r =>
    match r.value with
    | .pair first second => some ((first, second), Char.ofNat r.low)
    | .instead _ _ => none

/-- No character below this code point is the second one of a pair. -/
def leastSecond : Nat := 0x300

def composePair? (table : List ((Char × Char) × Char)) (first second : Char) : Option Char :=
  if second.toNat < leastSecond then none
  else match Hangul.compose? first second with
    | some c => some c
    | none => table.lookup (first, second)

/-- Composes a starter with what follows it. `marks` are the ones behind the starter that it has not
been composed with, the last one first; another mark reaches the starter only if it has a higher
class than the last of them. -/
def composeFrom (table : List ((Char × Char) × Char)) (starter : Char) (marks : List Char) :
    List Char → List Char
  | [] => starter :: marks.reverse
  | c :: cs =>
    let reaches := match marks with
      | [] => true
      | mark :: _ => combiningClass mark < combiningClass c
    match if reaches then composePair? table starter c else none with
    | some composed => composeFrom table composed marks cs
    | none =>
      if combiningClass c = 0 then starter :: (marks.reverse ++ composeFrom table c [] cs)
      else composeFrom table starter (c :: marks) cs

/-- Composes each starter with what follows it; marks before the first one stay. -/
def composeAll (cs : List Char) : List Char :=
  let isStarter := fun c => combiningClass c = 0
  cs.takeWhile (!isStarter ·) ++ match cs.dropWhile (!isStarter ·) with
    | [] => []
    | starter :: rest => composeFrom pairs starter [] rest

def compose (cs : List Char) : List Char := composeAll (orderMarks (cs.flatMap decompose))

end AgentFleet.Text
