import AgentFleet.Toml.Value

/-!
Tables while a document is read. How a table came to be decides what may still be added to it: a
table with a header of its own is closed to dotted keys, one that only longer headers imply may
still get a header, and one that dotted keys made is closed to headers.
-/

namespace AgentFleet.Toml

inductive Origin where
  | header
  /-- Named by a longer header only. -/
  | implied
  /-- Made by a dotted key. -/
  | dotted
  deriving DecidableEq, Repr

inductive Node where
  | value (v : Toml)
  | table (origin : Origin) (entries : List (String × Node))
  /-- Tables of one name, each with a header, the last one first. -/
  | tables (all : List (List (String × Node)))

abbrev Entries := List (String × Node)

namespace Entries

/-- Gives a key that is there another node, in the same place. -/
def replace (key : String) (node : Node) (es : Entries) : Entries :=
  es.map fun (k, n) => if k = key then (k, node) else (k, n)

def remove (key : String) (es : Entries) : Entries := es.filter (·.1 ≠ key)

/-- Changes the table at a path, by `change` on its origin and entries. Tables that are missing on
the way are made, with the origin `made`; of several tables of one name the last is meant. -/
def alter (made : Origin) (change : Origin → Entries → Option Entries) :
    List String → Origin → Entries → Option Entries
  | [], origin, es => change origin es
  | key :: path, _, es =>
    match es.lookup key with
    | none => do
      let inner ← alter made change path made []
      return es ++ [(key, .table made inner)]
    | some (.value _) => none
    | some (.table origin inner) =>
      if made = .dotted ∧ origin = .header then none
      else do
        let inner ← alter made change path origin inner
        return replace key (.table origin inner) es
    | some (.tables []) => none
    | some (.tables (last :: before)) => do
      let last ← alter made change path .header last
      return replace key (.tables (last :: before)) es

def add (key : String) (v : Toml) (es : Entries) : Option Entries :=
  if (es.lookup key).isSome then none else some (es ++ [(key, .value v)])

def set (path : List String) (key : String) (v : Toml) (es : Entries) : Option Entries :=
  alter .dotted (fun origin es =>
    if path = [] ∨ origin = .dotted then add key v es else none) path .header es

/-- Makes the table of a header. One that was only implied so far moves to the end. -/
def openTable (path : List String) (key : String) (es : Entries) : Option Entries :=
  alter .implied (fun _ es =>
    match es.lookup key with
    | none => some (es ++ [(key, .table .header [])])
    | some (.table .implied inner) => some (remove key es ++ [(key, .table .header inner)])
    | some _ => none) path .header es

def openNext (path : List String) (key : String) (es : Entries) : Option Entries :=
  alter .implied (fun _ es =>
    match es.lookup key with
    | none => some (es ++ [(key, .tables [[]])])
    | some (.tables all) => some (replace key (.tables ([] :: all)) es)
    | some _ => none) path .header es

def inside (change : Entries → Option Entries) (path : List String) (es : Entries) :
    Option Entries :=
  alter .implied (fun _ es => change es) path .header es

end Entries

mutual

def Node.toToml : Node → Toml
  | .value v => v
  | .table _ entries => .table (entriesToToml entries)
  | .tables all => .array (tablesToToml all).reverse

def entriesToToml : List (String × Node) → List (String × Toml)
  | [] => []
  | (key, node) :: rest => (key, node.toToml) :: entriesToToml rest

def tablesToToml : List (List (String × Node)) → List Toml
  | [] => []
  | entries :: rest => .table (entriesToToml entries) :: tablesToToml rest

end

end AgentFleet.Toml
