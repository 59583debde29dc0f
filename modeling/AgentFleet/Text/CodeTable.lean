/-!
Tables of characters, as ranges of code points in ascending order. A table is written down as lines
of items between blanks. An item begins with a code point, or with the first and the last one of a
range, in hexadecimal digits; what it says of them follows, in the words of each table.

A range that a search brings contains the character that was looked for.
-/

namespace AgentFleet.Text

/-- Code points from `low` to `high`, and what a table says of them. -/
structure CodeRange (α : Type) where
  low : Nat
  high : Nat
  value : α

abbrev CodeTable (α : Type) := Array (CodeRange α)

/-! ### Reading -/

def words : List Char → List (List Char)
  | [] => [[]]
  | c :: cs =>
    if c = ' ' then [] :: words cs
    else match words cs with
      | word :: rest => (c :: word) :: rest
      | [] => [[c]]

/-- Reads digits and capital letters as a hexadecimal number; brings also what follows. -/
def readCode (n : Nat) : List Char → Nat × List Char
  | [] => (n, [])
  | c :: cs =>
    if '0' ≤ c ∧ c ≤ '9' then readCode (n * 16 + (c.toNat - 48)) cs
    else if 'A' ≤ c ∧ c ≤ 'F' then readCode (n * 16 + (c.toNat - 55)) cs
    else (n, c :: cs)

def readChar (cs : List Char) : Char × List Char :=
  let (n, rest) := readCode 0 cs
  (Char.ofNat n, rest)

def CodeRange.ofItem {α : Type} (read : List Char → α) (item : List Char) : CodeRange α :=
  let (low, rest) := readCode 0 item
  match rest with
  | '-' :: rest =>
    let (high, rest) := readCode 0 rest
    ⟨low, high, read rest⟩
  | rest => ⟨low, low, read rest⟩

/-- The table of these lines; `read` understands what follows the code points of an item. -/
def CodeTable.ofLines {α : Type} (read : List Char → α) (lines : List String) : CodeTable α :=
  ((lines.flatMap fun line => words line.toList).map (CodeRange.ofItem read)).toArray

/-! ### Searching -/

/-- Looks for the range with a code point among those from the `start`-th on, before the `stop`-th.
-/
def CodeTable.search {α : Type} (t : CodeTable α) (code start stop : Nat) :
    Option (CodeRange α) :=
  if start < stop then
    let middle := start + (stop - start) / 2
    match t[middle]? with
    | none => none
    | some r =>
      if code < r.low then t.search code start middle
      else if r.high < code then t.search code (middle + 1) stop
      else some r
  else none
termination_by stop - start

def CodeTable.range? {α : Type} (t : CodeTable α) (c : Char) : Option (CodeRange α) :=
  t.search c.toNat 0 t.size

def CodeTable.get? {α : Type} (t : CodeTable α) (c : Char) : Option α :=
  (t.range? c).map CodeRange.value

def CodeTable.contains {α : Type} (t : CodeTable α) (c : Char) : Bool := (t.range? c).isSome

theorem CodeTable.bounds_of_search {α : Type} {t : CodeTable α} {code start stop : Nat}
    {r : CodeRange α} (h : t.search code start stop = some r) : r.low ≤ code ∧ code ≤ r.high := by
  fun_induction CodeTable.search t code start stop with
  | case1 => simp at h
  | case2 _ _ _ _ _ _ _ ih => exact ih h
  | case3 _ _ _ _ _ _ _ _ ih => exact ih h
  | case4 =>
    cases h
    omega
  | case5 => simp at h

theorem CodeTable.bounds_of_range? {α : Type} {t : CodeTable α} {c : Char} {r : CodeRange α}
    (h : t.range? c = some r) : r.low ≤ c.toNat ∧ c.toNat ≤ r.high :=
  bounds_of_search h

end AgentFleet.Text
