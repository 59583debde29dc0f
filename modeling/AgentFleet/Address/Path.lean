import AgentFleet.Address.Percent

/-!
Paths of addresses. A path with a hierarchy is a list of parts, and the steps up and down in it are
taken when it is read; a part that names a drive is never stepped out of. A path without a hierarchy
is just a text.
-/

namespace AgentFleet.Address

/-- A path; its characters are already escaped. -/
inductive Path where
  /-- Parts, each of which is written behind a slash. -/
  | parts (ps : List (List Char))
  | plain (text : List Char)
  deriving DecidableEq, Repr

def Path.text : Path → List Char
  | parts ps => ps.flatMap ('/' :: ·)
  | plain text => text

/-- What separates the parts of a path; on the web a backslash does so, too. -/
def isSlash (web : Bool) (c : Char) : Bool := c = '/' || (web && c = '\\')

def isUp (part : List Char) : Bool :=
  ["..", "%2e%2e", "%2e.", ".%2e"].contains (Text.lowerAscii (String.ofList part))

def isHere (part : List Char) : Bool :=
  [".", "%2e"].contains (Text.lowerAscii (String.ofList part))

def drive? : List Char → Option Char
  | [letter, mark] => if Text.isAsciiLetter letter && (mark = ':' || mark = '|') then some letter
      else none
  | _ => none

def splitSlashes (web : Bool) : List Char → List (List Char)
  | [] => [[]]
  | c :: cs =>
    if isSlash web c then [] :: splitSlashes web cs
    else match splitSlashes web cs with
      | part :: parts => (c :: part) :: parts
      | [] => [[c]]

/-- The parts that are left after a step up; the last part comes first. -/
def stepUp : List (List Char) → List (List Char)
  | [] => []
  | part :: above => if (drive? part).isSome then part :: above else above

/-- Takes the steps of a path; `above` holds the parts before, the last one first, and `enter` says
how a part is put below them. A step at the end leaves an empty part. -/
def walk (enter : List (List Char) → List Char → List Char) (above : List (List Char)) :
    List (List Char) → List (List Char)
  | [] => above.reverse
  | part :: parts =>
    if isUp part then
      if parts = [] then (stepUp above).reverse ++ [[]] else walk enter (stepUp above) parts
    else if isHere part then
      if parts = [] then above.reverse ++ [[]] else walk enter above parts
    else walk enter (enter above part :: above) parts

def readParts (web : Bool) (cs : List Char) : List (List Char) :=
  walk (fun _ part => part) [] (splitSlashes web (percentEncode mustEscapeInPath cs))

/-- A drive at the top of a path of files is written with a colon. -/
def enterFiles (above : List (List Char)) (part : List Char) : List Char :=
  match above, drive? part with
  | [], some letter => [letter, ':']
  | _, _ => part

def readFileParts (cs : List Char) : List (List Char) :=
  walk enterFiles [] (splitSlashes true (percentEncode mustEscapeInPath cs))

/-- A path of files does not start with empty parts. -/
def withoutEmpty (parts : List (List Char)) : List (List Char) :=
  match parts.dropWhile (· = []) with
  | [] => [[]]
  | parts => parts

end AgentFleet.Address
