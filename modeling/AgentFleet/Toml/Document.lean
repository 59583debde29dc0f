import AgentFleet.Toml.Outline
import AgentFleet.Toml.Scalar

/-!
Reading TOML documents, version 1.0: lines that are blank, that open a table, or that give a key its
value.
-/

namespace AgentFleet.Toml

namespace Scan

def isBareKey (c : Char) : Bool :=
  Text.isAsciiLetter c || Text.isAsciiDigit c || c = '_' || c = '-'

def keyPart : Scan String
  | '"' :: cs => line ('"' :: cs)
  | '\'' :: cs => line ('\'' :: cs)
  | cs => (do
      let c ← one isBareKey
      return String.ofList (c :: (← many isBareKey)) : Scan String) cs

/-- A key of less than this many parts may be read, and values nested less deeply than this. -/
def limit : Nat := 80

def moreParts : Nat → Scan (List String)
  | 0 => pure []
  | fuel + 1 => do
    blanks
    match ← optional (char '.') with
    | none => return []
    | some _ =>
      blanks
      let part ← keyPart
      return part :: (← moreParts fuel)

/-- A key: the parts that lead to its table, and its last part. -/
def key : Scan (List String × String) := fun cs => (do
  blanks
  let first ← keyPart
  let rest ← moreParts cs.length
  let parts := first :: rest
  if parts.length < limit then return (parts.dropLast, rest.getLastD first)
  else fail : Scan (List String × String)) cs

def comment : Scan Unit := do
  char '#'
  discard (many isPrintable)

/-- Skips blanks, line ends and comments, as they may stand in arrays; `fuel` bounds the steps. -/
def gap : Nat → Scan Unit
  | 0 => pure ()
  | fuel + 1 => do
    blanks
    match ← optional (orElse newline (do comment; newline)) with
    | some _ => gap fuel
    | none => pure ()

def anyGap : Scan Unit := fun cs => gap (cs.length + 1) cs

def elements (value : Scan Toml) : Nat → Scan (List Toml)
  | 0 => fail
  | fuel + 1 => do
    anyGap
    match ← optional (char ']') with
    | some _ => return []
    | none =>
      let v ← value
      anyGap
      match ← optional (char ',') with
      | some _ => return v :: (← elements value fuel)
      | none =>
        char ']'
        return [v]

def assignment (value : Scan Toml) (es : Entries) : Scan Entries := do
  let (path, name) ← key
  char '='
  blanks
  let v ← value
  match es.set path name v with
  | some es => return es
  | none => fail

def moreEntries (value : Scan Toml) : Nat → Entries → Scan Entries
  | 0, _ => fail
  | fuel + 1, es => do
    blanks
    match ← optional (char ',') with
    | some _ => moreEntries value fuel (← assignment value es)
    | none =>
      char '\x7d'
      return es

def inlineEntries (value : Scan Toml) : Scan Entries := fun cs => (do
  blanks
  match ← optional (char '\x7d') with
  | some _ => return []
  | none => moreEntries value (cs.length + 1) (← assignment value []) : Scan Entries) cs

/-- A value; arrays and tables may be nested `depth` deep. -/
def value : Nat → Scan Toml
  | 0 => fun cs =>
    match cs with
    | '[' :: _ => none
    | '\x7b' :: _ => none
    | cs => scalar cs
  | depth + 1 => fun cs =>
    match cs with
    | '[' :: rest => (Toml.array <$> elements (value depth) (rest.length + 1)) rest
    | '\x7b' :: rest =>
      ((fun es => Toml.table (entriesToToml es)) <$> inlineEntries (value depth)) rest
    | cs => scalar cs

def lineEnd : Scan Unit := do
  blanks
  let _ ← optional comment
  fun cs => if cs = [] then some ((), []) else newline cs

/-- What has been read: all tables, and the path of the one that keys belong to. -/
structure Reading where
  root : Entries := []
  here : List String := []

/-- A line with a header of one or two brackets on each side. -/
def header (r : Reading) : Scan Reading := do
  char '['
  let double ← optional (char '[')
  let (path, name) ← key
  char ']'
  let root := match double with
    | some _ => r.root.openNext path name
    | none => r.root.openTable path name
  match double with
  | some _ => char ']'
  | none => pure ()
  lineEnd
  match root with
  | some root => return ⟨root, path ++ [name]⟩
  | none => fail

def entry (r : Reading) : Scan Reading := do
  let (path, name) ← key
  char '='
  blanks
  let v ← value (limit - 1)
  lineEnd
  match r.root.inside (Entries.set path name v) r.here with
  | some root => return { r with root := root }
  | none => fail

def document : Nat → Reading → Scan Reading
  | 0, _ => fail
  | fuel + 1, r => do
    blanks
    fun cs => match cs with
      | [] => some (r, [])
      | '[' :: _ => (do document fuel (← header r) : Scan Reading) cs
      | '#' :: _ => (do lineEnd; document fuel r : Scan Reading) cs
      | c :: _ =>
        if c = '\n' ∨ c = '\r' then (do newline; document fuel r : Scan Reading) cs
        else (do document fuel (← entry r) : Scan Reading) cs

end Scan

/-- The table that a text is the document of. A byte order mark may stand at its start. -/
def ofText? (s : String) : Option Toml :=
  let cs := match s.toList with
    | '\uFEFF' :: cs => cs
    | cs => cs
  match Scan.document (cs.length + 1) {} cs with
  | some (r, []) => some (.table (entriesToToml r.root))
  | _ => none

end AgentFleet.Toml
