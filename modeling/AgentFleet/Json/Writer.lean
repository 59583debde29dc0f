import AgentFleet.Json.Value
import AgentFleet.Decimal.Layout

/-!
Written JSON: no blanks, members in their order, and in strings an escape only for the quotation
mark, the backslash and the control characters.
-/

namespace AgentFleet.Json

def hexDigit (n : Nat) : Char := if n < 10 then Char.ofNat (48 + n) else Char.ofNat (87 + n)

def escape (c : Char) : List Char :=
  match c with
  | '"' => ['\\', '"']
  | '\\' => ['\\', '\\']
  | '\x08' => ['\\', 'b']
  | '\x0c' => ['\\', 'f']
  | '\n' => ['\\', 'n']
  | '\r' => ['\\', 'r']
  | '\t' => ['\\', 't']
  | c =>
    if c.toNat < 0x20 then ['\\', 'u', '0', '0', hexDigit (c.toNat / 16), hexDigit (c.toNat % 16)]
    else [c]

def quoted (s : String) : List Char := '"' :: (s.toList.flatMap escape ++ ['"'])

def Number.text : Number → String
  | .natural n => toString n.toNat
  | .negative n => toString n.toInt
  | .double d => Decimal.Layout.json.double d

def separated : List (List Char) → List Char
  | [] => []
  | [part] => part
  | part :: rest => part ++ ',' :: separated rest

mutual

def chars : Json → List Char
  | .null => "null".toList
  | .bool true => "true".toList
  | .bool false => "false".toList
  | .number n => n.text.toList
  | .string s => quoted s
  | .array elements => '[' :: (separated (elementChars elements) ++ [']'])
  | .object members => '{' :: (separated (memberChars members) ++ ['}'])

def elementChars : List Json → List (List Char)
  | [] => []
  | v :: rest => v.chars :: elementChars rest

def memberChars : List (String × Json) → List (List Char)
  | [] => []
  | (name, v) :: rest => (quoted name ++ ':' :: v.chars) :: memberChars rest

end

def text (v : Json) : String := String.ofList v.chars

end AgentFleet.Json
