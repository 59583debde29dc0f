import AgentFleet.Json.Reader
import AgentFleet.Json.Writer
import AgentFleet.Text.Utf8

/-!
Reading JSON text as values of a known shape, without a detour over a JSON value: the first thing in
the text that does not fit decides the outcome.

A record is written as a map from its fields' names, in any order and with unknown names skipped, or
as a sequence of its fields in their order. A variant without data is written as its name, or as a
map from its name to `null`.
-/

namespace AgentFleet.Json

open Wire (Mismatch Found)

/-- A decoder reads a value of a known shape; the number tells how deeply sequences and maps may
still be nested. -/
abbrev Decoder (α : Type) := Nat → Reader α

namespace Decoder

def fail {α : Type} (m : Mismatch) : Reader α := throw (.shape m)

def Number.found : Number → Found
  | .natural n => .integer n.toNat
  | .negative n => .integer n.toInt
  | .double d => .float (Decimal.Layout.json.double d)

/-- Reads what stands in the place of something else, to name it. Sequences and maps are not looked
into. -/
def found : Reader Found := fun cs =>
  match Read.skipSpace cs with
  | [] => .error .ended
  | 'n' :: rest => Read.word Found.null ['u', 'l', 'l'] rest
  | 't' :: rest => Read.word (Found.bool true) ['r', 'u', 'e'] rest
  | 'f' :: rest => Read.word (Found.bool false) ['a', 'l', 's', 'e'] rest
  | '"' :: rest => (Found.string <$> Read.stringBody) rest
  | '[' :: rest => .ok (.sequence, rest)
  | '\x7b' :: rest => .ok (.map, rest)
  | c :: rest =>
    if Read.startsNumber c then (Number.found <$> Read.number) (c :: rest) else .error .malformed

def mismatch {α : Type} (expected : String) : Reader α := do
  fail (.invalidType (← found) expected)

def text (expected : String) : Reader String := fun cs =>
  match Read.skipSpace cs with
  | '"' :: rest => Read.stringBody rest
  | cs => mismatch expected cs

def string : Decoder String := fun _ => text "a string"

def natural (expected : String) (most : Nat) : Decoder Nat := fun _ cs =>
  match Read.skipSpace cs with
  | c :: rest =>
    if Read.startsNumber c then
      (do match ← Read.number with
          | .natural n =>
            if n.toNat ≤ most then return n.toNat
            else fail (.invalidValue (.integer n.toNat) expected)
          | .negative n => fail (.invalidValue (.integer n.toInt) expected)
          | .double d => fail (.invalidType (Number.found (.double d)) expected) : Reader Nat)
        (c :: rest)
    else mismatch expected (c :: rest)
  | [] => .error .ended

def bool : Decoder Bool := fun _ cs =>
  match Read.skipSpace cs with
  | 't' :: rest => Read.word true ['r', 'u', 'e'] rest
  | 'f' :: rest => Read.word false ['a', 'l', 's', 'e'] rest
  | cs => mismatch "a boolean" cs

def optional {α : Type} (item : Decoder α) : Decoder (Option α) := fun depth cs =>
  match Read.skipSpace cs with
  | 'n' :: rest => Read.word none ['u', 'l', 'l'] rest
  | cs => (some <$> item depth) cs

def list {α : Type} (item : Decoder α) : Decoder (List α) := fun depth cs =>
  match Read.skipSpace cs with
  | '[' :: rest => Read.nested depth (fun depth => Read.elementsOf (item depth)) rest
  | cs => mismatch "a sequence" cs

def map {α : Type} (item : Decoder α) : Decoder (List (String × α)) := fun depth cs =>
  match Read.skipSpace cs with
  | '\x7b' :: rest => Read.nested depth (fun depth => Read.membersOf (item depth)) rest
  | cs => mismatch "a map" cs

def any : Decoder Json := Read.value

/-! ### Variants -/

def variantNamed {α : Type} (variants : List (String × α)) (name : String) : Reader α :=
  match variants.lookup name with
  | some a => pure a
  | none => fail (.unknownVariant name (variants.map Prod.fst))

def variantName {α : Type} (variants : List (String × α)) : Reader α := do
  variantNamed variants (← text "variant identifier")

def nullUnit : Reader Unit := fun cs =>
  match Read.skipSpace cs with
  | 'n' :: rest => Read.word () ['u', 'l', 'l'] rest
  | cs => mismatch "unit" cs

def variant {α : Type} (variants : List (String × α)) : Decoder α := fun depth cs =>
  match Read.skipSpace cs with
  | [] => .error .ended
  | '"' :: rest => variantName variants ('"' :: rest)
  | '\x7b' :: rest =>
    Read.nested depth (fun _ => do
      let a ← variantName variants
      Read.symbol ':'
      nullUnit
      Read.symbol '\x7d'
      return a) rest
  | _ => .error .malformed

/-! ### Records -/

/-- A field of a record that is collected in a draft of type `σ`. -/
structure Field (σ : Type) where
  name : String
  /-- Whether the draft has the field already. -/
  has : σ → Bool
  /-- Reads the field's value into the draft. -/
  read : σ → Decoder σ
  /-- Whether a sequence of the record's fields may end before this one. -/
  mayEnd : Bool

/-- A record: what it is called, its fields, an empty draft, and how a draft becomes a value. -/
structure Record (σ α : Type) where
  title : String
  fields : List (Field σ)
  empty : σ
  finish : σ → Except Mismatch α

def required {α : Type} (name : String) : Option α → Except Mismatch α
  | some a => .ok a
  | none => .error (.missingField name)

def Record.finished {σ α : Type} (r : Record σ α) (draft : σ) : Reader α :=
  match r.finish draft with
  | .ok a => pure a
  | .error m => fail m

def Record.byName {σ α : Type} (r : Record σ α) (depth : Nat) : Nat → Bool → σ → Reader α
  | 0, _, _ => fun cs => .error (Read.unexpected cs)
  | fuel + 1, first, draft => do
    match ← Read.nextName first with
    | none => r.finished draft
    | some name =>
      match r.fields.find? (·.name == name) with
      | none =>
        Read.symbol ':'
        Read.skipValue
        r.byName depth fuel false draft
      | some field =>
        if field.has draft then fail (.duplicateField name)
        else
          Read.symbol ':'
          let draft ← field.read draft depth
          r.byName depth fuel false draft

/-- A sequence that ended after `seen` elements has left `fields` out. -/
def Record.ended {σ α : Type} (r : Record σ α) : List (Field σ) → Nat → σ → Reader α
  | [], _, draft => r.finished draft
  | field :: fields, seen, draft =>
    if field.mayEnd then r.ended fields (seen + 1) draft
    else fail (.invalidLength seen ("struct " ++ r.title ++ " with "
      ++ Wire.elements r.fields.length))

/-- Reads the values of `fields` in their order, after `seen` others. -/
def Record.inOrder {σ α : Type} (r : Record σ α) (depth : Nat) :
    List (Field σ) → Nat → σ → Reader α
  | [], _, draft => do
    let a ← r.finished draft
    Read.symbol ']'
    return a
  | field :: fields, seen, draft => do
    if ← Read.nextElement (seen == 0) then
      r.inOrder depth fields (seen + 1) (← field.read draft depth)
    else r.ended (field :: fields) seen draft

def record {σ α : Type} (r : Record σ α) : Decoder α := fun depth cs =>
  match Read.skipSpace cs with
  | '[' :: rest => Read.nested depth (fun depth => r.inOrder depth r.fields 0 r.empty) rest
  | '\x7b' :: rest =>
    Read.nested depth (fun depth => r.byName depth (rest.length + 1) true r.empty) rest
  | cs => mismatch ("struct " ++ r.title) cs

def Field.of {σ α : Type} (name : String) (item : Decoder α) (get : σ → Option α)
    (put : α → σ → σ) (mayEnd : Bool) : Field σ where
  name := name
  has draft := (get draft).isSome
  read draft := fun depth => (fun a => put a draft) <$> item depth
  mayEnd := mayEnd

/-! ### Whole texts -/

/-- Reads a whole text: nothing but blanks may follow the value. -/
def run {α : Type} (decoder : Decoder α) (pieces : List (Option Char)) : Except ReadError α :=
  match decoder Read.maxDepth (Read.source pieces) with
  | .ok (a, rest) => if Read.skipSpace rest = [] then .ok a else .error .malformed
  | .error e => .error e

def decode {α : Type} (decoder : Decoder α) (s : String) : Except ReadError α :=
  run decoder (s.toList.map some)

def decodeBytes {α : Type} (decoder : Decoder α) (bytes : ByteArray) : Except ReadError α :=
  run decoder (Text.Utf8.pieces none bytes.toList)

end Decoder

end AgentFleet.Json
