import AgentFleet.Address.Domain.Direction
import AgentFleet.Address.Domain.Joining
import AgentFleet.Address.Domain.Mapping
import AgentFleet.Address.Punycode
import AgentFleet.Text.Character
import AgentFleet.Text.Canonical
import AgentFleet.Text.Mark

/-!
Domains in any script, and their ASCII forms (the processing of UTS #46). Characters are mapped to
the ones they are read as, the text is composed, and each label has to be sound: it does not start
with a mark, its joiners have something to join, and if any label is written from right to left the
directions in each label fit together.
-/

namespace AgentFleet.Address.Domain

/-! ### Labels -/

def splitDots : List Char → List (List Char)
  | [] => [[]]
  | c :: cs =>
    if c = '.' then [] :: splitDots cs
    else match splitDots cs with
      | part :: parts => (c :: part) :: parts
      | [] => [[c]]

def joinDots : List (List Char) → List Char
  | [] => []
  | [part] => part
  | part :: parts => part ++ '.' :: joinDots parts

structure Label where
  text : List Char
  ascii : List Char

/-! ### Joiners -/

/-- The character that keeps letters apart which would be joined. -/
def separator : Char := '\u200C'

/-- The character that joins letters which would stand apart. -/
def joiner : Char := '\u200D'

def reaches (side : Joining) (cs : List Char) : Bool :=
  match cs.find? fun c => joining c ≠ .transparent with
  | some c => joining c = .dual || joining c = side
  | none => false

def startsWithVirama : List Char → Bool
  | [] => false
  | c :: _ => Text.combiningClass c = Text.viramaClass

/-- Both characters may follow a consonant without its vowel; the separator may also stand between
letters that would be joined. `before` holds the characters before, the last one first. -/
def joinersFit (before : List Char) : List Char → Bool
  | [] => true
  | c :: cs =>
    (if c = joiner then startsWithVirama before
      else if c = separator then
        startsWithVirama before || (reaches .left before && reaches .right cs)
      else true) && joinersFit (c :: before) cs

/-! ### Directions -/

def turnsRight (c : Char) : Bool := direction c = .right || direction c = .arabic

/-- Whether the directions in a label fit together: its first character decides which ones may
follow, and which ones may be the last but for marks. -/
def directionsFit : List Char → Bool
  | [] => true
  | first :: rest =>
    match direction first, ((rest.map direction).reverse).dropWhile (· = .mark) with
    | .left, [] => true
    | .left, last :: inner =>
      [Direction.left, .european].contains last
        && inner.all [Direction.left, .european, .neutral, .mark].contains
    | .right, [] => true
    | .right, last :: inner =>
      [Direction.right, .european, .arabic].contains last
        && inner.all [Direction.right, .european, .arabic, .neutral, .mark].contains
        && !((last :: inner).contains .european && (last :: inner).contains .arabic)
    | _, _ => false

/-! ### Reading -/

def isForbidden (c : Char) : Bool :=
  c.toNat ≤ 0x20 || c.toNat = 0x7F
    || ['%', '#', '/', ':', '<', '>', '?', '@', '[', '\\', ']', '^', '|'].contains c

/-- Labels in ASCII form are read up to this length behind their mark. -/
def longestEncoded : Nat := 2000

def longestDecoded : Nat := 1000

/-- Whether a label may stand in a domain, directions apart. -/
def isSound (label : List Char) : Bool :=
  !(label.head?.any Text.isMark) && joinersFit [] label

/-- Reads a label. One that is marked as an ASCII form must be the form of a label that is not
ASCII, and that would be read as itself. -/
def readLabel (label : List Char) : Option Label :=
  match label with
  | 'x' :: 'n' :: '-' :: '-' :: encoded =>
    if longestEncoded < encoded.length ∨ ¬ encoded.all Text.isAscii then none
    else match Punycode.decode encoded with
      | none => none
      | some text =>
        if text.all Text.isAscii ∨ ¬ text.all isKept ∨ Text.compose text ≠ text ∨ ¬ isSound text
        then none
        else some ⟨text, label⟩
  | _ =>
    if label.all Text.isAscii then some ⟨label, label⟩
    else if longestDecoded < label.length ∨ ¬ isSound label then none
    else some ⟨label, "xn--".toList ++ Punycode.encode label⟩

def readLabels (cs : List Char) : Option (List Label) := do
  let read := Text.compose (← cs.mapM mapped?).flatten
  if read.any isForbidden then none
  else
    let labels ← (splitDots read).mapM readLabel
    if labels.any (·.text.any turnsRight) ∧ ¬ labels.all (directionsFit ·.text) then none
    else some labels

def toAscii (cs : List Char) : Option (List Char) :=
  (readLabels cs).map fun labels => joinDots (labels.map Label.ascii)

end AgentFleet.Address.Domain
