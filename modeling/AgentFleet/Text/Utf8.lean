/-!
Reading octets as UTF-8. Octets that cannot be read fall into maximal broken parts: a part ends just
before the first octet that cannot continue the character it began. `lossy` puts U+FFFD for each
part, `strict` refuses a sequence with any.
-/

namespace AgentFleet.Text.Utf8

/-- A character whose first octets have been read: the bits so far, how many octets are still owed,
and the least and the greatest octet the next one may be. -/
structure Pending where
  bits : Nat
  owed : Nat
  low : UInt8
  high : UInt8

inductive First where
  /-- A character of one octet. -/
  | whole (c : Char)
  /-- The start of a longer character. -/
  | begun (p : Pending)
  /-- No character starts with it. -/
  | refused

/-- The second octet is bounded so that no character is written longer than needed, no surrogate is
written, and no code point is above U+10FFFF. -/
def first (b : UInt8) : First :=
  if b < 0x80 then .whole (Char.ofNat b.toNat)
  else if b < 0xC2 then .refused
  else if b < 0xE0 then .begun ⟨b.toNat - 0xC0, 1, 0x80, 0xBF⟩
  else if b == 0xE0 then .begun ⟨0, 2, 0xA0, 0xBF⟩
  else if b == 0xED then .begun ⟨0xD, 2, 0x80, 0x9F⟩
  else if b < 0xF0 then .begun ⟨b.toNat - 0xE0, 2, 0x80, 0xBF⟩
  else if b == 0xF0 then .begun ⟨0, 3, 0x90, 0xBF⟩
  else if b < 0xF4 then .begun ⟨b.toNat - 0xF0, 3, 0x80, 0xBF⟩
  else if b == 0xF4 then .begun ⟨4, 3, 0x80, 0x8F⟩
  else .refused

/-- The characters of a sequence of octets, `none` for each maximal broken part. -/
def pieces : Option Pending → List UInt8 → List (Option Char)
  | none, [] => []
  | some _, [] => [none]
  | some p, b :: bs =>
    if p.low ≤ b ∧ b ≤ p.high then
      let bits := p.bits * 64 + (b.toNat - 0x80)
      if p.owed ≤ 1 then some (Char.ofNat bits) :: pieces none bs
      else pieces (some ⟨bits, p.owed - 1, 0x80, 0xBF⟩) bs
    else
      none :: match first b with
        | .whole c => some c :: pieces none bs
        | .begun q => pieces (some q) bs
        | .refused => none :: pieces none bs
  | none, b :: bs =>
    match first b with
    | .whole c => some c :: pieces none bs
    | .begun q => pieces (some q) bs
    | .refused => none :: pieces none bs

def substituting (instead : Char) (bytes : ByteArray) : List Char :=
  (pieces none bytes.toList).map (·.getD instead)

/-- The text, with U+FFFD in the place of each maximal broken part. -/
def lossy (bytes : ByteArray) : String := String.ofList (substituting '\uFFFD' bytes)

def strict (bytes : ByteArray) : Option String :=
  ((pieces none bytes.toList).mapM id).map String.ofList

end AgentFleet.Text.Utf8
