import AgentFleet.Address.Basic

/-!
Reading addresses. It is lenient where it can be: on the web slashes may be too many or the wrong
ones, steps up and down in the path are taken, and characters that may not stand for themselves are
escaped.
-/

namespace AgentFleet.Address

inductive ReadError where
  /-- There is no scheme. -/
  | relative
  | host (e : HostError)
  | port
  deriving DecidableEq, Repr

def ReadError.message : ReadError → String
  | relative => "relative URL without a base"
  | host .empty => "empty host"
  | host .domain => "invalid international domain name"
  | host .v4 => "invalid IPv4 address"
  | host .v6 => "invalid IPv6 address"
  | host .character => "invalid domain character"
  | port => "invalid port number"

/-! ### The scheme -/

def isIgnored (c : Char) : Bool := c = '\t' || c = '\n' || c = '\r'

/-- A text without blanks and control characters at its ends, and without line ends inside. -/
def cleaned (cs : List Char) : List Char :=
  let front := cs.dropWhile fun c => c.toNat ≤ 0x20
  ((front.reverse.dropWhile fun c => c.toNat ≤ 0x20).reverse).filter (!isIgnored ·)

def isSchemeChar (c : Char) : Bool :=
  Text.isAsciiLetter c || Text.isAsciiDigit c || c = '+' || c = '-' || c = '.'

def scheme? (cs : List Char) : Option (String × List Char) :=
  match cs, cs.dropWhile isSchemeChar with
  | c :: _, ':' :: rest =>
    if Text.isAsciiLetter c then
      some (Text.lowerAscii (String.ofList (cs.takeWhile isSchemeChar)), rest)
    else none
  | _, _ => none

/-! ### The authority -/

def endsPath (c : Char) : Bool := c = '?' || c = '#'

def endsAuthority (web : Bool) (c : Char) : Bool := isSlash web c || endsPath c

/-- The characters before the last `@`, if there is one, and those behind it. -/
def splitUser (cs : List Char) : Option (List Char) × List Char :=
  let behind := (cs.reverse.takeWhile (· ≠ '@')).reverse
  if behind.length = cs.length then (none, cs)
  else (some (cs.take (cs.length - behind.length - 1)), behind)

/-- The host's characters, up to a colon that is not in brackets, and the rest. -/
def splitHost (bracketed : Bool) : List Char → List Char × List Char
  | [] => ([], [])
  | c :: cs =>
    if c = ':' ∧ ¬ bracketed then ([], c :: cs)
    else
      let inside := if c = '[' then true else if c = ']' then false else bracketed
      let (host, rest) := splitHost inside cs
      (c :: host, rest)

/-- A port in decimal digits; none at all, and the scheme's usual one, are no port. -/
def readPort (scheme : String) (cs : List Char) : Except ReadError (Option Nat) :=
  match digitsIn 10 cs with
  | none => .error .port
  | some n =>
    if 65535 < n then .error .port
    else if cs = [] ∨ usualPort? scheme = some n then .ok none
    else .ok (some n)

/-- Reads the host of a web address, or the name that stands in its place. Such a name may be empty
if it has no port. -/
def readHost (scheme : String) (cs portPart : List Char) : Except ReadError Host :=
  if isWeb scheme then (Host.ofChars cs).mapError .host
  else if cs = [] ∧ portPart ≠ [] then .error (.host .empty)
  else (Host.ofName cs).mapError .host

/-- Reads an authority; brings also what follows it. A user has to be followed by a host. Outside of
the web a backslash ends a port, but nothing else. -/
def readAuthority (scheme : String) (cs : List Char) :
    Except ReadError (Authority × List Char) := do
  let web := isWeb scheme
  let rest := cs.dropWhile (!endsAuthority web ·)
  let (user, behind) := splitUser (cs.takeWhile (!endsAuthority web ·))
  let (hostPart, portPart) := splitHost false behind
  if user = some [] ∧ behind = [] ∧ rest ≠ [] then throw (.host .empty)
  let host ← readHost scheme hostPart portPart
  let port ← readPort scheme ((portPart.drop 1).takeWhile (· ≠ '\\'))
  let name := (user.getD []).takeWhile (· ≠ ':')
  let password := ((user.getD []).dropWhile (· ≠ ':')).drop 1
  if host = .name [] ∧ (name ≠ [] ∨ password ≠ []) then throw (.host .empty)
  let authority : Authority :=
    { user := percentEncode mustEscapeInUser name
      password := if password = [] then none else some (percentEncode mustEscapeInUser password)
      host := host
      port := port }
  return (authority, portPart.dropWhile (· ≠ '\\') ++ rest)

/-! ### The path and what follows it -/

/-- The address whose path has been read; `cs` is what follows the path. -/
def finish (scheme : String) (authority : Option Authority) (path : Path) (cs : List Char) :
    Address where
  scheme := scheme
  authority := authority
  path := path
  query := match cs with
    | '?' :: query => some (percentEncode
        (if isWeb scheme || scheme = "file" then mustEscapeInWebQuery else mustEscapeInQuery)
        (query.takeWhile (· ≠ '#')))
    | _ => none
  fragment := match cs.dropWhile (· ≠ '#') with
    | [] => none
    | _ :: fragment => some (percentEncode mustEscapeInFragment fragment)

/-- Reads what follows an authority. Outside of the web the path may be empty. -/
def readBehind (scheme : String) (authority : Authority) (cs : List Char) : Address :=
  let web := isWeb scheme
  let path := cs.takeWhile (!endsPath ·)
  let parts := match path with
    | [] => if web then [[]] else []
    | c :: rest => readParts web (if isSlash web c then rest else path)
  finish scheme authority (.parts parts) (cs.dropWhile (!endsPath ·))

def readPathOnly (scheme : String) (cs : List Char) : Address :=
  let path := match cs.takeWhile (!endsPath ·) with
    | '/' :: rest => .parts (readParts false rest)
    | path => .plain (percentEncode isUnsafe path)
  finish scheme none path (cs.dropWhile (!endsPath ·))

/-! ### Files -/

def here : Authority := ⟨[], none, .name [], none⟩

/-- Reads the path of a file; only `path` stands behind its first slash. -/
def readFilePath (authority : Authority) (path rest : List Char) : Address :=
  let parts := readFileParts path
  let drive := (parts.head?.bind drive?).isSome
  finish "file" (if drive then here else authority) (.parts (withoutEmpty parts)) rest

/-- Reads what follows two slashes: a host and a path, or a path that starts with a drive. -/
def readFileHost (cs : List Char) : Except ReadError Address := do
  let name := cs.takeWhile (!endsAuthority true ·)
  let path := cs.takeWhile (!endsPath ·)
  let rest := cs.dropWhile (!endsPath ·)
  if name = [] ∨ (drive? name).isSome then return readFilePath here path rest
  else
    let behind := path.drop name.length
    match ← (Host.ofChars name).mapError .host with
    | .domain "localhost" => return readFilePath here behind rest
    | host => return readFilePath { here with host := host } (behind.drop 1) rest

/-- Reads what follows the scheme of files; there may be one slash, two, or none. -/
def readFile (cs : List Char) : Except ReadError Address :=
  match cs with
  | a :: b :: rest =>
    if isSlash true a && isSlash true b then readFileHost rest
    else .ok (oneSlash cs)
  | cs => .ok (oneSlash cs)
where
  /-- Reads a path that may lack its slash. -/
  oneSlash (cs : List Char) : Address :=
    let path := cs.takeWhile (!endsPath ·)
    let path := match path with
      | c :: rest => if isSlash true c then rest else path
      | [] => []
    readFilePath here path (cs.dropWhile (!endsPath ·))

/-! ### All addresses -/

def readScheme (scheme : String) (cs : List Char) : Except ReadError Address :=
  if scheme = "file" then readFile cs
  else if isWeb scheme then do
    let (authority, rest) ← readAuthority scheme (cs.dropWhile (isSlash true))
    return readBehind scheme authority rest
  else
    match cs with
    | '/' :: '/' :: cs => do
      let (authority, rest) ← readAuthority scheme cs
      return readBehind scheme authority rest
    | cs => .ok (readPathOnly scheme cs)

def ofText (s : String) : Except ReadError Address :=
  match scheme? (cleaned s.toList) with
  | none => .error .relative
  | some (scheme, rest) => readScheme scheme rest

end AgentFleet.Address
