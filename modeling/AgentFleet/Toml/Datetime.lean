import AgentFleet.Toml.Scalar

/-!
Datetimes given as tables. A table whose first key is the reserved one stands for a datetime: the
key's value must be a datetime's text, and no other entry of the table counts. The text is read more
leniently than a datetime that stands in a document: an hour may be 24, an offset a whole day.
-/

namespace AgentFleet.Toml

open Wire (Mismatch)

def datetimeKey : String := "$__toml_private_datetime"

namespace Scan

def lenientTime : Scan Unit := do
  let _ ← within 0 24
  char ':'
  let _ ← within 0 59
  char ':'
  let _ ← within 0 60
  let _ ← optional (do
    char '.'
    let _ ← one Text.isAsciiDigit
    many Text.isAsciiDigit)

/-- An offset; its minutes may be more than an hour has. -/
def lenientOffset : Scan Unit :=
  orElse (discard (one fun c => c = 'Z' || c = 'z')) do
    let _ ← one fun c => c = '+' || c = '-'
    let hours ← number 2
    char ':'
    let minutes ← number 2
    if hours * 60 + minutes ≤ 24 * 60 then return () else fail

/-- A time of day, which has its first colon behind two characters, or a date, perhaps with a time
and an offset. -/
def lenientDatetime : Scan Unit := fun cs =>
  if cs[2]? = some ':' then lenientTime cs
  else (do
    date
    match ← optional (one fun c => c = 'T' || c = 't' || c = ' ') with
    | none => return ()
    | some _ =>
      lenientTime
      discard (optional lenientOffset) : Scan Unit) cs

end Scan

def isDatetime (s : String) : Bool :=
  match Scan.lenientDatetime s.toList with
  | some ((), []) => true
  | _ => false

def checkDatetime : Toml → Except Mismatch Unit
  | .string s => if isDatetime s then .ok () else .error .malformed
  | v => .error (.invalidType v.found "string containing a datetime")

mutual

/-- Checks the datetimes in a value that may be of any shape; the first one in the order of the
document that is none decides. -/
def check : Toml → Except Mismatch Unit
  | .array elements => checkElements elements
  | .table ((key, v) :: entries) =>
    if key = datetimeKey then checkDatetime v
    else do
      check v
      checkEntries entries
  | _ => .ok ()

def checkElements : List Toml → Except Mismatch Unit
  | [] => .ok ()
  | v :: rest => do
    check v
    checkElements rest

def checkEntries : List (String × Toml) → Except Mismatch Unit
  | [] => .ok ()
  | (_, v) :: rest => do
    check v
    checkEntries rest

end

end AgentFleet.Toml
