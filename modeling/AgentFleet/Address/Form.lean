import AgentFleet.Address.Percent

/-!
Queries as forms write them: pairs of a name and a value, joined by ampersands, with a plus sign for
a blank. Decoding never fails: what is not UTF-8 becomes U+FFFD.
-/

namespace AgentFleet.Address.Form

def isPlain (c : Char) : Bool :=
  Text.isAsciiLetter c || Text.isAsciiDigit c || c = '*' || c = '-' || c = '.' || c = '_'

def encodeChar (c : Char) : List Char :=
  if c = ' ' then ['+'] else if isPlain c then [c] else percentChar c

def encode (s : String) : List Char := s.toList.flatMap encodeChar

def text : List (String × String) → List Char
  | [] => []
  | [(name, value)] => encode name ++ '=' :: encode value
  | (name, value) :: rest => encode name ++ '=' :: (encode value ++ '&' :: text rest)

def splitAll (mark : UInt8) : List UInt8 → List (List UInt8)
  | [] => [[]]
  | b :: bs =>
    if b = mark then [] :: splitAll mark bs
    else match splitAll mark bs with
      | part :: parts => (b :: part) :: parts
      | [] => [[b]]

def splitFirst (mark : UInt8) : List UInt8 → List UInt8 × List UInt8
  | [] => ([], [])
  | b :: bs =>
    if b = mark then ([], bs)
    else
      let (before, behind) := splitFirst mark bs
      (b :: before, behind)

def decode (octets : List UInt8) : String :=
  let blanks := octets.map fun b => if b = 0x2B then 0x20 else b
  Text.Utf8.lossy ⟨(percentDecode blanks).toArray⟩

/-- The pairs of a query; empty parts are no pairs, and a value may be missing. -/
def pairs (query : List UInt8) : List (String × String) :=
  ((splitAll 0x26 query).filter (· ≠ [])).map fun part =>
    let (name, value) := splitFirst 0x3D part
    (decode name, decode value)

end AgentFleet.Address.Form
