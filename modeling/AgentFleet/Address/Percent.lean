import AgentFleet.Text.Character
import AgentFleet.Text.Utf8

/-!
Percent-encoding: an octet that may not stand for itself is written as a percent sign and two
hexadecimal digits. Which characters may stand for themselves depends on the place in an address.
-/

namespace AgentFleet.Address

def upperHexDigit (n : Nat) : Char := if n < 10 then Char.ofNat (48 + n) else Char.ofNat (55 + n)

def percentOctet (b : UInt8) : List Char :=
  ['%', upperHexDigit (b.toNat / 16), upperHexDigit (b.toNat % 16)]

def percentChar (c : Char) : List Char := (String.utf8EncodeChar c).flatMap percentOctet

def percentEncode (mustEscape : Char → Bool) (cs : List Char) : List Char :=
  cs.flatMap fun c => if mustEscape c then percentChar c else [c]

def hexOctet? (b : UInt8) : Option UInt8 := (Text.hexValue? (Char.ofNat b.toNat)).map Nat.toUInt8

/-- Decodes octets; a percent sign that is not followed by two digits stands for itself. -/
def percentDecode : List UInt8 → List UInt8
  | 0x25 :: a :: b :: rest =>
    match hexOctet? a, hexOctet? b with
    | some x, some y => (x * 16 + y) :: percentDecode rest
    | _, _ => 0x25 :: percentDecode (a :: b :: rest)
  | b :: rest => b :: percentDecode rest
  | [] => []

/-- The text that percent-encoded octets are, if they are UTF-8. -/
def percentDecoded? (cs : List Char) : Option (List Char) :=
  (Text.Utf8.strict ⟨(percentDecode (String.ofList cs).toUTF8.toList).toArray⟩).map String.toList

/-! ### What must be escaped -/

def isUnsafe (c : Char) : Bool := c.toNat < 0x20 || 0x7F ≤ c.toNat

def mustEscapeInFragment (c : Char) : Bool := isUnsafe c || [' ', '"', '<', '>', '`'].contains c

def mustEscapeInPath (c : Char) : Bool :=
  mustEscapeInFragment c || ['#', '?', '\x7b', '\x7d'].contains c

def mustEscapeInUser (c : Char) : Bool :=
  mustEscapeInPath c || ['/', ':', ';', '=', '@', '[', '\\', ']', '^', '|'].contains c

def mustEscapeInQuery (c : Char) : Bool := isUnsafe c || [' ', '"', '#', '<', '>'].contains c

/-- On the web an apostrophe must be escaped, too. -/
def mustEscapeInWebQuery (c : Char) : Bool := mustEscapeInQuery c || c = '\''

end AgentFleet.Address
