import AgentFleet.Json.Numeral
import AgentFleet.Text.Character
import AgentFleet.Wire.Mismatch

/-!
Reading JSON text, character by character: what is met first decides. Reading fails because the text
is malformed, because it ended too early, or because a value has another shape than the one asked
for. A value that nobody asked for is skipped, with fewer rules: it may be nested to any depth, hold
numbers of any size, and its strings may hold halves of surrogate pairs and octets that are no
characters.
-/

namespace AgentFleet.Json

inductive ReadError where
  /-- The text is not JSON, or it is nested too deeply, or holds a number too large for a double. -/
  | malformed
  /-- The text ended inside a value. -/
  | ended
  /-- The text is JSON so far, but not the value asked for. -/
  | shape (m : Wire.Mismatch)
  deriving DecidableEq, Repr

abbrev Reader (α : Type) := StateT (List Char) (Except ReadError) α

namespace Read

/-- Stands for octets that are no character. A text loses nothing by it: U+0001 itself may stand
nowhere in a text, just as U+0000, which is put in its place. -/
def broken : Char := '\x01'

/-- What a reader takes, for the characters of a text and `none` for octets that are no character.
-/
def source (pieces : List (Option Char)) : List Char :=
  pieces.map fun
    | none => broken
    | some c => if c = broken then '\x00' else c

def isSpace (c : Char) : Bool := c = ' ' || c = '\n' || c = '\t' || c = '\r'

def skipSpace (cs : List Char) : List Char := cs.dropWhile isSpace

def unexpected : List Char → ReadError
  | [] => .ended
  | _ :: _ => .malformed

/-- Reads the rest of a word whose first letter decided what it means. -/
def word {α : Type} (a : α) : List Char → Reader α
  | [] => pure a
  | w :: ws => fun cs =>
    match cs with
    | [] => .error .ended
    | c :: rest => if c = w then word a ws rest else .error .malformed

def symbol (c : Char) : Reader Unit := fun cs =>
  match skipSpace cs with
  | d :: rest => if d = c then .ok ((), rest) else .error .malformed
  | [] => .error .ended

/-! ### Strings -/

def escaped? : Char → Option Char
  | '"' => some '"'
  | '\\' => some '\\'
  | '/' => some '/'
  | 'b' => some '\x08'
  | 'f' => some '\x0c'
  | 'n' => some '\n'
  | 'r' => some '\r'
  | 't' => some '\t'
  | _ => none

def octets (cs : List Char) : Nat := cs.foldr (fun c n => c.utf8Size + n) 0

/-- Fails at a character that is no digit of an escape by code point of which `seen` digits have
been read. The text counts as ended if fewer than four octets follow the escape's letter. -/
def notHex (seen : Nat) (cs : List Char) : ReadError :=
  if seen + octets cs < 4 then .ended else .malformed

inductive InString where
  | plain
  /-- After a backslash. -/
  | escape
  /-- After `seen` digits of an escape by code point; `high` is the first half of a surrogate pair.
  -/
  | hex (high : Option Nat) (seen : Nat) (code : Nat)
  /-- After the first half of a surrogate pair, before the second one's backslash. -/
  | secondHalf (high : Nat)
  /-- After the backslash of the second half. -/
  | secondLetter (high : Nat)

/-- What four hexadecimal digits bring: a character, or the first half of a pair. -/
def unit (high : Option Nat) (code : Nat) : Except ReadError (Char ⊕ Nat) :=
  match high with
  | some h =>
    if 0xDC00 ≤ code ∧ code ≤ 0xDFFF then
      .ok (.inl (Char.ofNat (0x10000 + (h - 0xD800) * 0x400 + (code - 0xDC00))))
    else .error .malformed
  | none =>
    if 0xDC00 ≤ code ∧ code ≤ 0xDFFF then .error .malformed
    else if 0xD800 ≤ code ∧ code ≤ 0xDBFF then .ok (.inr code)
    else .ok (.inl (Char.ofNat code))

/-- Reads a string up to its closing quotation mark; `done` holds its characters, last one first. -/
def stringFrom (place : InString) (done : List Char) : Reader (List Char)
  | [] => .error .ended
  | c :: cs =>
    match place with
    | .plain =>
      if c = '"' then .ok (done.reverse, cs)
      else if c = '\\' then stringFrom .escape done cs
      else if c.toNat < 0x20 then .error .malformed
      else stringFrom .plain (c :: done) cs
    | .escape =>
      if c = 'u' then stringFrom (.hex none 0 0) done cs
      else match escaped? c with
        | some d => stringFrom .plain (d :: done) cs
        | none => .error .malformed
    | .hex high seen code =>
      match Text.hexValue? c with
      | none => .error (notHex seen (c :: cs))
      | some d =>
        if seen < 3 then stringFrom (.hex high (seen + 1) (code * 16 + d)) done cs
        else match unit high (code * 16 + d) with
          | .ok (.inl ch) => stringFrom .plain (ch :: done) cs
          | .ok (.inr h) => stringFrom (.secondHalf h) done cs
          | .error e => .error e
    | .secondHalf h => if c = '\\' then stringFrom (.secondLetter h) done cs else .error .malformed
    | .secondLetter h =>
      if c = 'u' then stringFrom (.hex (some h) 0 0) done cs else .error .malformed

def stringBody : Reader String := String.ofList <$> stringFrom .plain []

/-! ### Numbers -/

/-- Reads the digits before a fraction: `0`, or digits that start with another one. -/
def wholeDigits : Reader (List Nat) := fun cs =>
  match digits cs with
  | ([], rest) => .error (unexpected rest)
  | (0 :: _ :: _, _) => .error .malformed
  | (ds, rest) => .ok (ds, rest)

def someDigits : Reader (List Nat) := fun cs =>
  match digits cs with
  | ([], rest) => .error (unexpected rest)
  | (ds, rest) => .ok (ds, rest)

def fractionPart : Reader (Option (List Nat)) := fun cs =>
  match cs with
  | '.' :: rest => (some <$> someDigits) rest
  | _ => .ok (none, cs)

def exponentDigits : Reader (Bool × List Nat) := fun cs =>
  match cs with
  | '+' :: rest => (Prod.mk false <$> someDigits) rest
  | '-' :: rest => (Prod.mk true <$> someDigits) rest
  | _ => (Prod.mk false <$> someDigits) cs

def exponentPart : Reader (Option (Bool × List Nat)) := fun cs =>
  match cs with
  | 'e' :: rest => (some <$> exponentDigits) rest
  | 'E' :: rest => (some <$> exponentDigits) rest
  | _ => .ok (none, cs)

def numeral (negative : Bool) : Reader Numeral := do
  let whole ← wholeDigits
  let fraction ← fractionPart
  let exponent ← exponentPart
  return ⟨negative, whole, fraction, exponent⟩

def startsNumber (c : Char) : Bool := c = '-' || (digit? c).isSome

def number : Reader Number := do
  let x ← fun cs => match cs with
    | '-' :: rest => numeral true rest
    | _ => numeral false cs
  match x.number? with
  | some n => return n
  | none => throw .malformed

/-! ### Sequences and maps -/

/-- Moves to the next element of a sequence: `true` before an element, `false` after the closing
bracket. -/
def nextElement (first : Bool) : Reader Bool := fun cs =>
  match skipSpace cs with
  | [] => .error .ended
  | ']' :: rest => .ok (false, rest)
  | c :: rest =>
    if first then .ok (true, c :: rest)
    else if c = ',' then
      match skipSpace rest with
      | [] => .error .ended
      | ']' :: _ => .error .malformed
      | rest => .ok (true, rest)
    else .error .malformed

/-- Reads the next name of a map; `none` after the closing brace. -/
def nextName (first : Bool) : Reader (Option String) := fun cs =>
  match skipSpace cs with
  | [] => .error .ended
  | '\x7d' :: rest => .ok (none, rest)
  | c :: rest =>
    if first then
      if c = '"' then (some <$> stringBody) rest else .error .malformed
    else if c = ',' then
      match skipSpace rest with
      | '"' :: rest => (some <$> stringBody) rest
      | rest => .error (unexpected rest)
    else .error .malformed

/-- Reads elements with `item` up to the closing bracket; `fuel` bounds their number. -/
def elementsFrom {α : Type} (item : Reader α) : Nat → Bool → Reader (List α)
  | 0, _ => fun cs => .error (unexpected cs)
  | fuel + 1, first => do
    if ← nextElement first then
      let a ← item
      let rest ← elementsFrom item fuel false
      return a :: rest
    else return []

def elementsOf {α : Type} (item : Reader α) : Reader (List α) := fun cs =>
  elementsFrom item (cs.length + 1) true cs

def membersFrom {α : Type} (item : Reader α) : Nat → Bool → Reader (List (String × α))
  | 0, _ => fun cs => .error (unexpected cs)
  | fuel + 1, first => do
    match ← nextName first with
    | none => return []
    | some name =>
      symbol ':'
      let a ← item
      let rest ← membersFrom item fuel false
      return (name, a) :: rest

def membersOf {α : Type} (item : Reader α) : Reader (List (String × α)) := fun cs =>
  membersFrom item (cs.length + 1) true cs

/-! ### Values -/

def maxDepth : Nat := 127

/-- Runs the reader of what is in a sequence or a map, if it may be nested so deeply. -/
def nested {α : Type} (depth : Nat) (inner : Nat → Reader α) : Reader α :=
  match depth with
  | depth + 1 => inner depth
  | 0 => throw .malformed

/-- Reads a value; sequences and maps may be nested `depth` deep. -/
def value (depth : Nat) : Reader Json := fun cs =>
  match skipSpace cs with
  | [] => .error .ended
  | 'n' :: rest => word Json.null ['u', 'l', 'l'] rest
  | 't' :: rest => word (Json.bool true) ['r', 'u', 'e'] rest
  | 'f' :: rest => word (Json.bool false) ['a', 'l', 's', 'e'] rest
  | '"' :: rest => (Json.string <$> stringBody) rest
  | '[' :: rest =>
    match depth with
    | depth + 1 => (Json.array <$> elementsOf (value depth)) rest
    | 0 => .error .malformed
  | '\x7b' :: rest =>
    match depth with
    | depth + 1 => (Json.ofMembers <$> membersOf (value depth)) rest
    | 0 => .error .malformed
  | c :: rest =>
    if startsNumber c then (Json.number <$> number) (c :: rest) else .error .malformed

/-! ### Skipping -/

/-- Skips a string up to its closing quotation mark, without a look at what its escapes mean. -/
def skipString : InString → Reader Unit
  | _, [] => .error .ended
  | .plain, c :: cs =>
    if c = '"' then .ok ((), cs)
    else if c = '\\' then skipString .escape cs
    else if c.toNat < 0x20 ∧ c ≠ broken then .error .malformed
    else skipString .plain cs
  | .hex high seen code, c :: cs =>
    if (Text.hexValue? c).isNone then .error (notHex seen (c :: cs))
    else if seen < 3 then skipString (.hex high (seen + 1) code) cs
    else skipString .plain cs
  | _, c :: cs =>
    if c = 'u' then skipString (.hex none 0 0) cs
    else if (escaped? c).isSome then skipString .plain cs
    else .error .malformed

def skipDigits : Reader Unit := fun cs =>
  match digits cs with
  | ([], _) => .error .malformed
  | (_, rest) => .ok ((), rest)

def skipFraction : Reader Unit := fun cs =>
  match cs with
  | '.' :: rest => skipDigits rest
  | _ => .ok ((), cs)

def skipExponent : Reader Unit := fun cs =>
  match cs with
  | [] => .ok ((), [])
  | c :: rest =>
    if c = 'e' ∨ c = 'E' then
      match rest with
      | '+' :: rest => skipDigits rest
      | '-' :: rest => skipDigits rest
      | rest => skipDigits rest
    else .ok ((), cs)

/-- Skips a number after its sign. A number that ends too early is malformed here, even where the
text ends with it. -/
def skipNumber : Reader Unit := do
  fun cs => match digits cs with
    | (0 :: _ :: _, _) => .error .malformed
    | ([], _) => .error .malformed
    | (_, rest) => .ok ((), rest)
  skipFraction
  skipExponent

/-- Where a reader that skips stands: before a value; or behind one, or behind an opening bracket or
brace if `comma` is `false`. -/
inductive Skipping where
  | before
  | behind (comma : Bool)

/-- Skips values until the sequences and maps in `enclosing` (`true` for a map) are closed; `fuel`
bounds the steps. -/
def skipFrom : Nat → List Bool → Skipping → Reader Unit
  | 0, _, _ => fun cs => .error (unexpected cs)
  | fuel + 1, enclosing, .before => fun cs =>
    let go := skipFrom fuel enclosing (.behind true)
    match skipSpace cs with
    | [] => .error .ended
    | 'n' :: rest => (do word () ['u', 'l', 'l']; go : Reader Unit) rest
    | 't' :: rest => (do word () ['r', 'u', 'e']; go : Reader Unit) rest
    | 'f' :: rest => (do word () ['a', 'l', 's', 'e']; go : Reader Unit) rest
    | '"' :: rest => (do skipString .plain; go : Reader Unit) rest
    | '[' :: rest => skipFrom fuel (false :: enclosing) (.behind false) rest
    | '\x7b' :: rest => skipFrom fuel (true :: enclosing) (.behind false) rest
    | '-' :: rest => (do skipNumber; go : Reader Unit) rest
    | c :: rest =>
      if (digit? c).isSome then (do skipNumber; go : Reader Unit) (c :: rest)
      else .error .malformed
  | _ + 1, [], .behind _ => pure ()
  | fuel + 1, inMap :: enclosing, .behind comma => fun cs =>
    match skipSpace cs with
    | [] => .error .ended
    | c :: rest =>
      if c = (if inMap then '\x7d' else ']') then skipFrom fuel enclosing (.behind true) rest
      else if comma && c != ',' then .error .malformed
      else
        let start := if comma then rest else c :: rest
        if inMap then
          match skipSpace start with
          | '"' :: rest =>
            (do skipString .plain
                symbol ':'
                skipFrom fuel (inMap :: enclosing) .before : Reader Unit) rest
          | rest => .error (unexpected rest)
        else skipFrom fuel (inMap :: enclosing) .before start

def skipValue : Reader Unit := fun cs => skipFrom (2 * cs.length + 2) [] .before cs

end Read

end AgentFleet.Json
