import Std.Data.ExtTreeSet
import AgentFleet.Text.Character

/-!
What the container engine prints: lists of names, lists of names with the executions they belong to,
states of containers, and complaints about what does not exist. Lists are read line by line. A line
ends at a line feed; one carriage return before it belongs to the line's end. The end of the text
ends a line too, but an empty rest is no line.
-/

namespace AgentFleet

namespace Text

def stripReturn (line : List Char) : List Char :=
  match line.getLast? with
  | some '\r' => line.dropLast
  | _ => line

/-- Splits off the lines of `cs`; `line` holds the current line's characters, last one first. -/
def linesFrom (line : List Char) : List Char → List (List Char)
  | [] => if line.isEmpty then [] else [line.reverse]
  | c :: cs =>
    if c = '\n' then stripReturn line.reverse :: linesFrom [] cs else linesFrom (c :: line) cs

def lines (s : String) : List String := (linesFrom [] s.toList).map String.ofList

end Text

abbrev Names := Std.ExtTreeSet String compare

namespace Engine

/-- The names in a list, one on each line that is not blank. -/
def names (listing : String) : List String :=
  ((Text.lines listing).map Text.trim).filter (· ≠ "")

def splitTab : List Char → List Char × List Char
  | [] => ([], [])
  | c :: cs => if c = '\t' then ([], cs) else (c :: (splitTab cs).1, (splitTab cs).2)

/-- A line of a list of names with executions, both trimmed; the execution may be missing. -/
def labelled (line : String) : String × String :=
  let (name, execution) := splitTab line.toList
  (String.ofList (Text.trimChars name), String.ofList (Text.trimChars execution))

/-- The names whose executions are not to be kept. Names without an execution are among them. -/
def candidates (listing : String) (keep : Names) : List String :=
  (Text.lines listing).filterMap fun line =>
    let (name, execution) := labelled line
    if name = "" ∨ execution ∈ keep then none else some name

/-- Whether a container in this state has ended for good. One that is being removed has not. -/
def isStoppedState (state : String) : Bool :=
  let state := Text.trim state
  state = "exited" || state = "dead"

def occurs (part : List Char) : List Char → Bool
  | [] => part.isEmpty
  | c :: cs => part.isPrefixOf (c :: cs) || occurs part cs

def saysMissing (complaint : String) : Bool :=
  occurs "no such".toList (Text.lowerAscii complaint).toList

end Engine

end AgentFleet
