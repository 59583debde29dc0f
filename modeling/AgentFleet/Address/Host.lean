import AgentFleet.Address.Domain
import AgentFleet.Address.Percent

/-!
Hosts of addresses: domains, and numeric addresses of both versions of the internet protocol. A
domain whose last label is a number is a numeric address or nothing. Outside of the web a host may
also be a mere name.
-/

namespace AgentFleet.Address

inductive Host where
  /-- A domain in its ASCII form. -/
  | domain (name : String)
  /-- A numeric address of 32 bits. -/
  | v4 (address : Nat)
  /-- A numeric address, in its eight parts of 16 bits. -/
  | v6 (parts : List Nat)
  /-- A name that means something to the address's scheme only, already escaped; it may be empty. -/
  | name (text : List Char)
  deriving DecidableEq, Repr

inductive HostError where
  | empty
  | domain
  | v4
  | v6
  /-- A name holds a character that it must not. -/
  | character
  deriving DecidableEq, Repr

/-! ### Numeric addresses of version 4 -/

def digitsIn (base : Nat) (cs : List Char) : Option Nat :=
  cs.foldlM (fun n c => do
    let d ← Text.hexValue? c
    if d < base then some (n * base + d) else none) 0

/-- A number in base 10, in base 16 after `0x`, or in base 8 after `0`. -/
def v4Number : List Char → Option Nat
  | [] => none
  | '0' :: 'x' :: cs => digitsIn 16 cs
  | '0' :: 'X' :: cs => digitsIn 16 cs
  | '0' :: c :: cs => digitsIn 8 (c :: cs)
  | cs => digitsIn 10 cs

/-- The parts of a domain, without the empty one behind a final dot. -/
def labels (cs : List Char) : List (List Char) :=
  let parts := Domain.splitDots cs
  if parts.getLast? = some [] then parts.dropLast else parts

def endsInNumber (cs : List Char) : Bool :=
  match (labels cs).getLast? with
  | none => false
  | some last => (last ≠ [] && last.all Text.isAsciiDigit) || (v4Number last).isSome

/-- All numbers but the last stand for one octet each, the last for all that is left. -/
def v4Address (cs : List Char) : Option Nat := do
  let parts := labels cs
  if 4 < parts.length then none
  else
    let numbers ← parts.mapM v4Number
    let last ← numbers.getLast?
    let front := numbers.dropLast
    if front.all (· ≤ 255) ∧ last < Nat.pow 256 (4 - front.length) then
      some (front.foldl (fun n octet => n * 256 + octet) 0 * Nat.pow 256 (4 - front.length) + last)
    else none

def v4Text (address : Nat) : String :=
  ".".intercalate ([3, 2, 1, 0].map fun i => toString (address / Nat.pow 256 i % 256))

/-! ### Numeric addresses of version 6 -/

/-- An octet in decimal digits, the first of which is not zero unless it is the only one. -/
def octet : List Char → Option Nat
  | [] => none
  | ['0'] => some 0
  | '0' :: _ => none
  | cs => if cs.length ≤ 3 then (digitsIn 10 cs).filter (· ≤ 255) else none

def embedded (cs : List Char) : Option (Nat × Nat) := do
  match ← (Domain.splitDots cs).mapM octet with
  | [a, b, c, d] => some (a * 256 + b, c * 256 + d)
  | _ => none

/-- Reads parts; `done` holds those before, the last one first, and `gap` how many stand before the
double colon. -/
def v6From : Nat → List Nat → Option Nat → List Char → Option (List Nat × Option Nat)
  | _, done, gap, [] => some (done.reverse, gap)
  | 0, _, _, _ => none
  | fuel + 1, done, gap, c :: cs =>
    let filled := done.length + (if gap.isSome then 1 else 0)
    if filled = 8 then none
    else if c = ':' then
      if gap.isSome then none else v6From fuel done (some done.length) cs
    else
      let digits := ((c :: cs).take 4).takeWhile fun c => (Text.hexValue? c).isSome
      match digitsIn 16 digits, (c :: cs).drop digits.length with
      | some value, [] => v6From fuel (value :: done) gap []
      | some value, ':' :: rest =>
        if rest = [] then none else v6From fuel (value :: done) gap rest
      | some _, '.' :: _ =>
        if digits = [] ∨ 6 < filled then none
        else do
          let (a, b) ← embedded (c :: cs)
          v6From fuel (b :: a :: done) gap []
      | _, _ => none

/-- A double colon stands for at least one part. -/
def v6Address (cs : List Char) : Option (List Nat) := do
  let (parts, gap) ← match cs with
    | ':' :: ':' :: rest => v6From cs.length [] (some 0) rest
    | ':' :: _ => none
    | _ => v6From cs.length [] none cs
  match gap with
  | none => if parts.length = 8 then some parts else none
  | some before =>
    if parts.length ≤ 7 then
      some (parts.take before ++ List.replicate (8 - parts.length) 0 ++ parts.drop before)
    else none

def leadingZeros (parts : List Nat) : Nat := (parts.takeWhile (· = 0)).length

/-- Where the longest run of zeros starts, and its length; of runs as long the first. -/
def longestZeros (start : Nat) : List Nat → Nat × Nat
  | [] => (start, 0)
  | part :: parts =>
    let here := leadingZeros (part :: parts)
    let (place, length) := longestZeros (start + 1) parts
    if length ≤ here then (start, here) else (place, length)

def hexText (n : Nat) : String := String.ofList (Nat.toDigits 16 n)

/-- The longest run of two or more zeros is left out. -/
def v6Text (parts : List Nat) : String :=
  let (place, length) := longestZeros 0 parts
  if length < 2 then ":".intercalate (parts.map hexText)
  else
    ":".intercalate ((parts.take place).map hexText) ++ "::"
      ++ ":".intercalate ((parts.drop (place + length)).map hexText)

/-! ### All hosts -/

def Host.ofBrackets (rest : List Char) : Except HostError Host :=
  match rest.getLast?, v6Address rest.dropLast with
  | some ']', some parts => .ok (.v6 parts)
  | _, _ => .error .v6

/-- The host of the web that a text gives; it may be percent-encoded. -/
def Host.ofChars (cs : List Char) : Except HostError Host :=
  match cs with
  | [] => .error .empty
  | '[' :: rest => Host.ofBrackets rest
  | cs =>
    match (percentDecoded? cs).bind Domain.toAscii with
    | none => .error .domain
    | some [] => .error .empty
    | some ascii =>
      if endsInNumber ascii then
        match v4Address ascii with
        | some address => .ok (.v4 address)
        | none => .error .v4
      else .ok (.domain (String.ofList ascii))

def isForbiddenInName (c : Char) : Bool :=
  ['\x00', '\t', '\n', '\r', ' ', '#', '/', ':', '<', '>', '?', '@', '[', '\\', ']', '^',
    '|'].contains c

def Host.ofName (cs : List Char) : Except HostError Host :=
  match cs with
  | '[' :: rest => Host.ofBrackets rest
  | cs =>
    if cs.any isForbiddenInName then .error .character
    else .ok (.name (percentEncode isUnsafe cs))

def Host.text : Host → List Char
  | .domain d => d.toList
  | .v4 address => (v4Text address).toList
  | .v6 parts => '[' :: ((v6Text parts).toList ++ [']'])
  | .name t => t

end AgentFleet.Address
