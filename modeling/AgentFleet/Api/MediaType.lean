import AgentFleet.Text.Character

/-!
Media types, as requests name the form of their bodies: a type and a subtype, perhaps a suffix
behind a plus sign, and perhaps parameters, which only have to be well-formed.
-/

namespace AgentFleet.Api

/-- A media type in small letters, without its parameters. -/
structure MediaType where
  top : String
  sub : String
  suffix : Option String
  deriving DecidableEq, Repr

namespace MediaType

def isToken (c : Char) : Bool :=
  Text.isAsciiLetter c || Text.isAsciiDigit c
    || ['!', '#', '$', '%', '&', '\'', '*', '+', '-', '.', '^', '_', '`', '|', '~'].contains c

/-- A character that may be between quotation marks; a quotation mark may only come first. -/
def isQuotable (c : Char) : Bool := 0x1F < c.toNat && c.toNat ≠ 0x7F

def afterQuoted (cs : List Char) : Option (List Char) :=
  match cs.dropWhile (· = ' ') with
  | [] => some []
  | ';' :: rest => some rest
  | _ => none

/-- The rest behind a value that is not empty and that a quotation mark ends. -/
def quotedValue : List Char → Option (List Char)
  | [] => none
  | c :: cs =>
    if isQuotable c then
      match cs.dropWhile fun c => isQuotable c && c ≠ '"' with
      | '"' :: rest => afterQuoted rest
      | _ => none
    else none

/-- The rest behind a parameter's value. Only the last value may be empty. -/
def value : List Char → Option (List Char)
  | '"' :: cs => quotedValue cs
  | cs =>
    match cs.takeWhile isToken, cs.dropWhile isToken with
    | _, [] => some []
    | _ :: _, ';' :: rest => some rest
    | _, _ => none

def parameter (cs : List Char) : Option (List Char) :=
  match cs.takeWhile isToken, cs.dropWhile isToken with
  | _ :: _, '=' :: rest => value rest
  | _, _ => none

def areParameters : Nat → List Char → Bool
  | 0, _ => false
  | fuel + 1, cs =>
    match cs.dropWhile (· = ' ') with
    | [] => true
    | cs =>
      match parameter cs with
      | some rest => areParameters fuel rest
      | none => false

/-- The subtype and the suffix behind its last plus sign, which must not come first. -/
def splitSuffix (cs : List Char) : List Char × Option (List Char) :=
  let suffix := (cs.reverse.takeWhile (· ≠ '+')).reverse
  let sub := cs.take (cs.length - suffix.length - 1)
  if suffix.length = cs.length ∨ sub = [] then (cs, none) else (sub, some suffix)

def ofText? (s : String) : Option MediaType :=
  let cs := (Text.lowerAscii s).toList
  match cs.takeWhile isToken, cs.dropWhile isToken with
  | top@(_ :: _), '/' :: rest =>
    let (sub, suffix) := splitSuffix (rest.takeWhile isToken)
    let named : MediaType := ⟨String.ofList top, String.ofList sub, suffix.map String.ofList⟩
    match rest.dropWhile isToken with
    | [] => some named
    | ';' :: parameters =>
      if sub ≠ [] ∧ areParameters (parameters.length + 1) parameters then some named else none
    | _ => none
  | _, _ => none

def isJson (m : MediaType) : Bool :=
  m.top = "application" && (m.sub = "json" || m.suffix = some "json")

end MediaType

end AgentFleet.Api
