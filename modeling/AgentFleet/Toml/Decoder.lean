import AgentFleet.Toml.Value

/-!
Reading TOML values as values of a known shape. A record is a table, in the order of whose entries
the fields are looked at, or an array of its fields in their order; unknown entries and further
elements are passed over.
-/

namespace AgentFleet.Toml

open Wire (Mismatch)

abbrev Decoder (α : Type) := Toml → Except Mismatch α

namespace Decoder

def mismatch {α : Type} (expected : String) (v : Toml) : Except Mismatch α :=
  .error (.invalidType v.found expected)

def string : Decoder String
  | .string s => .ok s
  | v => mismatch "a string" v

def natural (expected : String) (most : Nat) : Decoder Nat
  | .integer n =>
    if 0 ≤ n ∧ n ≤ most then .ok n.toNat else .error (.invalidValue (.integer n) expected)
  | v => mismatch expected v

def u16 : Decoder Nat := natural "u16" 65535

def u32 : Decoder Nat := natural "u32" 4294967295

def u64 : Decoder Nat := natural "u64" 18446744073709551615

structure Field (σ : Type) where
  name : String
  /-- Reads the field's value into the draft. -/
  read : σ → Decoder σ
  /-- Whether an array of the record's fields may end before this one. -/
  mayEnd : Bool

structure Record (σ α : Type) where
  title : String
  fields : List (Field σ)
  empty : σ
  finish : σ → Except Mismatch α

def required {α : Type} (name : String) : Option α → Except Mismatch α
  | some a => .ok a
  | none => .error (.missingField name)

def Record.byName {σ α : Type} (r : Record σ α) : List (String × Toml) → σ → Except Mismatch σ
  | [], draft => .ok draft
  | (name, v) :: rest, draft =>
    match r.fields.find? (·.name == name) with
    | none => r.byName rest draft
    | some field => do r.byName rest (← field.read draft v)

/-- Reads the values of `fields` in their order, after `seen` others. -/
def Record.inOrder {σ α : Type} (r : Record σ α) :
    List (Field σ) → Nat → List Toml → σ → Except Mismatch σ
  | [], _, _, draft => .ok draft
  | field :: fields, seen, v :: rest, draft => do
    r.inOrder fields (seen + 1) rest (← field.read draft v)
  | field :: fields, seen, [], draft =>
    if field.mayEnd then r.inOrder fields (seen + 1) [] draft
    else .error (.invalidLength seen ("struct " ++ r.title ++ " with "
      ++ Wire.elements r.fields.length))

def record {σ α : Type} (r : Record σ α) : Decoder α
  | .table entries => do r.finish (← r.byName entries r.empty)
  | .array elements => do r.finish (← r.inOrder r.fields 0 elements r.empty)
  | .datetime => r.finish r.empty
  | v => mismatch ("struct " ++ r.title) v

def Field.of {σ α : Type} (name : String) (item : Decoder α) (put : α → σ → σ) (mayEnd : Bool) :
    Field σ where
  name := name
  read draft v := (fun a => put a draft) <$> item v
  mayEnd := mayEnd

end Decoder

end AgentFleet.Toml
