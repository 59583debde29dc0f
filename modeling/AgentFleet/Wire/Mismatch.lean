import AgentFleet.Text.Quoted

/-!
Why well-formed data does not have the shape that was asked for, and how that is said. The same
words serve every data format; a format only chooses how it writes a number with a fraction.
-/

namespace AgentFleet.Wire

inductive Found where
  | bool (b : Bool)
  | integer (n : Int)
  /-- A number with a fraction or an exponent, as its format writes it. -/
  | float (text : String)
  | string (s : String)
  | null
  | sequence
  | map
  deriving DecidableEq, Repr

def Found.text : Found → String
  | .bool b => "boolean `" ++ toString b ++ "`"
  | .integer n => "integer `" ++ toString n ++ "`"
  | .float s => "floating point `" ++ s ++ "`"
  | .string s => "string " ++ Text.quote s
  | .null => "null"
  | .sequence => "sequence"
  | .map => "map"

inductive Mismatch where
  | missingField (name : String)
  | duplicateField (name : String)
  /-- Data of another kind. -/
  | invalidType (found : Found) (expected : String)
  /-- Data of the right kind, but out of range. -/
  | invalidValue (found : Found) (expected : String)
  | invalidLength (length : Nat) (expected : String)
  | unknownVariant (name : String) (known : List String)
  /-- A text that is not the written form of a value, such as a time that is none. -/
  | malformed
  deriving DecidableEq, Repr

def backquoted (s : String) : String := "`" ++ s ++ "`"

/-- One name alone, two with `or` between them, more after `one of`. -/
def oneOf : List String → String
  | [] => "there are no variants"
  | [a] => "expected " ++ backquoted a
  | [a, b] => "expected " ++ backquoted a ++ " or " ++ backquoted b
  | names => "expected one of " ++ String.intercalate ", " (names.map backquoted)

/-- The words for a mismatch; a malformed text has none of its own. -/
def Mismatch.message? : Mismatch → Option String
  | .missingField name => some ("missing field " ++ backquoted name)
  | .duplicateField name => some ("duplicate field " ++ backquoted name)
  | .invalidType found expected =>
    some ("invalid type: " ++ found.text ++ ", expected " ++ expected)
  | .invalidValue found expected =>
    some ("invalid value: " ++ found.text ++ ", expected " ++ expected)
  | .invalidLength length expected =>
    some ("invalid length " ++ toString length ++ ", expected " ++ expected)
  | .unknownVariant name known =>
    some ("unknown variant " ++ backquoted name ++ ", " ++ oneOf known)
  | .malformed => none

def elements (n : Nat) : String := if n = 1 then "1 element" else toString n ++ " elements"

end AgentFleet.Wire
