import AgentFleet.Text.Character

/-!
The arguments of the command line. They are read from left to right: a request for help or for the
version ends the reading, and so does the first error.
-/

namespace AgentFleet.CommandLine

inductive LogFormat where
  | text
  | json
  deriving DecidableEq, Repr

def LogFormat.ofName? : String → Option LogFormat
  | "text" => some .text
  | "json" => some .json
  | _ => none

/-- An option that takes a value. -/
inductive Setting where
  /-- The file of the configuration. -/
  | config
  | logFormat
  /-- The port to listen on instead of the configured one. -/
  | port
  deriving DecidableEq, Repr

def Setting.ofName? : String → Option Setting
  | "config" => some config
  | "log-format" => some logFormat
  | "port" => some port
  | _ => none

inductive Misuse where
  | unknown (argument : String)
  /-- A question for help or for the version has no value. -/
  | needlessValue (argument : String)
  | missingValue (s : Setting)
  | badValue (s : Setting) (value : String)
  | repeated (s : Setting)
  | noConfig
  deriving DecidableEq, Repr

def Setting.label : Setting → String
  | config => "--config"
  | logFormat => "--log-format"
  | port => "--port"

def Misuse.message : Misuse → String
  | unknown a => "error: unexpected argument '" ++ a ++ "' found"
  | needlessValue a => "error: unexpected value in '" ++ a ++ "'"
  | missingValue s => "error: a value is required for '" ++ s.label ++ "'"
  | badValue s v => "error: invalid value '" ++ v ++ "' for '" ++ s.label ++ "'"
  | repeated s => "error: '" ++ s.label ++ "' cannot be used multiple times"
  | noConfig => "error: '--config' is required"

/-- What an argument is when it stands on its own. -/
inductive Word where
  /-- The mark after which nothing is an option. -/
  | endOfOptions
  /-- An option by its full name, perhaps with a value. -/
  | long (name : String) (value : Option String)
  /-- Options by their letters; there is at least one. -/
  | short (first : Char) (others : List Char)
  | plain (text : String)
  deriving DecidableEq, Repr

def Word.ofChars : List Char → Word
  | ['-', '-'] => endOfOptions
  | '-' :: '-' :: cs =>
    let name := String.ofList (cs.takeWhile (· ≠ '='))
    match cs.dropWhile (· ≠ '=') with
    | [] => long name none
    | _ :: value => long name (some (String.ofList value))
  | '-' :: c :: cs => short c cs
  | cs => plain (String.ofList cs)

def Word.ofString (s : String) : Word := Word.ofChars s.toList

def digitsValue? : List Char → Option Nat
  | [] => none
  | ds =>
    if ds.all Text.isAsciiDigit then some (ds.foldl (fun n d => 10 * n + (d.toNat - 48)) 0)
    else none

/-- A port has sixteen bits. It may have a sign, but only zero may have a minus. -/
def portOfChars? (cs : List Char) : Option Nat :=
  let (bound, ds) := match cs with
    | '+' :: ds => (65535, ds)
    | '-' :: ds => (0, ds)
    | ds => (65535, ds)
  (digitsValue? ds).filter (· ≤ bound)

structure Choices where
  config : Option String := none
  logFormat : Option LogFormat := none
  port : Option Nat := none
  deriving DecidableEq, Repr

def place {α : Type} (s : Setting) (old : Option α) (text : String) (new : Option α) :
    Except Misuse α :=
  match new, old with
  | none, _ => .error (.badValue s text)
  | some _, some _ => .error (.repeated s)
  | some a, none => .ok a

/-- Makes a choice; each can be made once. The name of a file is not empty. -/
def Choices.choose (c : Choices) (s : Setting) (text : String) : Except Misuse Choices :=
  match s with
  | .config => do
    return { c with config := ← place s c.config text (if text = "" then none else some text) }
  | .logFormat => do
    return { c with logFormat := ← place s c.logFormat text (LogFormat.ofName? text) }
  | .port => do
    return { c with port := ← place s c.port text (portOfChars? text.toList) }

structure Invocation where
  config : String
  logFormat : LogFormat
  /-- The port to listen on instead of the configured one. -/
  port : Option Nat
  deriving DecidableEq, Repr

def Choices.invocation (c : Choices) : Except Misuse Invocation :=
  match c.config with
  | none => .error .noConfig
  | some config => .ok ⟨config, c.logFormat.getD .text, c.port⟩

inductive Request where
  | help
  | version
  | run (i : Invocation)
  deriving DecidableEq, Repr

/-- Reads arguments after some choices. Letters are looked at one by one, and the only ones that are
known end the reading, so that just the first one counts. -/
def readAfter (c : Choices) : List String → Except Misuse Request
  | [] => .run <$> c.invocation
  | a :: rest =>
    match Word.ofString a with
    | .plain _ => .error (.unknown a)
    | .short 'h' _ => .ok .help
    | .short 'V' _ => .ok .version
    | .short _ _ => .error (.unknown a)
    | .endOfOptions =>
      match rest with
      | [] => .run <$> c.invocation
      | b :: _ => .error (.unknown b)
    | .long "help" none => .ok .help
    | .long "version" none => .ok .version
    | .long "help" (some _) | .long "version" (some _) => .error (.needlessValue a)
    | .long name value =>
      match Setting.ofName? name, value, rest with
      | none, _, _ => .error (.unknown a)
      | some s, some text, rest => do readAfter (← c.choose s text) rest
      | some s, none, [] => .error (.missingValue s)
      | some s, none, b :: rest =>
        match Word.ofString b with
        | .plain text => do readAfter (← c.choose s text) rest
        | _ => .error (.missingValue s)

def Request.ofArguments (arguments : List String) : Except Misuse Request := readAfter {} arguments

end AgentFleet.CommandLine
