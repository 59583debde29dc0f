import AgentFleet.Decimal.Double

/-!
JSON values. A number is an integer where it fits 64 bits and a double elsewhere. The members of an
object are in ascending order of their names, each name once.
-/

namespace AgentFleet

namespace Json

/-- A number as it was written: an integer from `0` to `2 ^ 64 - 1`, an integer from `-2 ^ 63` to
`-1`, or a double. -/
inductive Number where
  | natural (n : UInt64)
  | negative (n : Int64)
  | double (d : Double)
  deriving DecidableEq, Repr

end Json

inductive Json where
  | null
  | bool (b : Bool)
  | number (n : Json.Number)
  | string (s : String)
  | array (elements : List Json)
  | object (members : List (String × Json))
  deriving Repr, Inhabited

namespace Json

def nat (n : Nat) : Json := .number (.natural n.toUInt64)

def int (n : Int) : Json :=
  match n with
  | .ofNat n => .number (.natural n.toUInt64)
  | .negSucc n => .number (.negative (Int64.ofInt (.negSucc n)))

def strings (l : List String) : Json := .array (l.map .string)

/-- Sets a member, in the place that its name has in ascending order. -/
def insertMember (name : String) (value : Json) : List (String × Json) → List (String × Json)
  | [] => [(name, value)]
  | (n, v) :: rest =>
    match compare name n with
    | .lt => (name, value) :: (n, v) :: rest
    | .eq => (name, value) :: rest
    | .gt => (n, v) :: insertMember name value rest

/-- The object with the given members; of several members of one name the last counts. -/
def ofMembers (members : List (String × Json)) : Json :=
  .object (members.foldl (fun acc (n, v) => insertMember n v acc) [])

def member? (name : String) : Json → Option Json
  | .object members => members.lookup name
  | _ => none

end Json

end AgentFleet
