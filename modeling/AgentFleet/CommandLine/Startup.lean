import AgentFleet.CommandLine.Arguments
import AgentFleet.Config.Document
import AgentFleet.Service.Routines
import AgentFleet.Text.Quoted

/-!
How the program starts: the arguments are read, then the log begins, then the configuration is read,
the environment and the arguments override it, and the service comes up. Each of these steps may end
it.
-/

namespace AgentFleet.CommandLine

inductive Startup where
  | misused (m : Misuse)
  | help
  | version
  /-- There is no configuration to run with. -/
  | unconfigured (log : LogFormat) (e : ConfigError)
  /-- The configuration is there, but the service cannot come up with it. -/
  | brokenDown (log : LogFormat) (s : Settings)
  | ready (log : LogFormat) (s : Settings)
  deriving DecidableEq, Repr

/-- The settings of a run: those of the file, then the environment, then the arguments. -/
def Invocation.settings (i : Invocation) (file : Except String ByteArray)
    (backendUrl : Option String) : Except ConfigError Settings := do
  let bytes ← file.mapError .unreadable
  let s ← Settings.ofBytes bytes
  let s ← (s.applyOverride backendUrl).mapError .refused
  return { s with httpPort := i.port.getD s.httpPort }

def Invocation.start (i : Invocation) (file : Except String ByteArray)
    (backendUrl : Option String) : Startup :=
  match i.settings file backendUrl with
  | .error e => .unconfigured i.logFormat e
  | .ok s =>
    if s.breakdowns.any Breakdown.isFatal then .brokenDown i.logFormat s else .ready i.logFormat s

namespace Startup

def ofArguments (arguments : List String) (read : String → Except String ByteArray)
    (backendUrl : Option String) : Startup :=
  match Request.ofArguments arguments with
  | .error m => misused m
  | .ok .help => help
  | .ok .version => version
  | .ok (.run i) => i.start (read i.config) backendUrl

/-- The program's status at its end, which for a service that is ready is a clean one. -/
def exitStatus : Startup → Nat
  | misused _ => 2
  | help => 0
  | version => 0
  | unconfigured _ _ => 1
  | brokenDown _ _ => 101
  | ready _ _ => 0

def isReady : Startup → Bool
  | ready _ _ => true
  | _ => false

def logFormat? : Startup → Option LogFormat
  | unconfigured log _ => some log
  | brokenDown log _ => some log
  | ready log _ => some log
  | _ => none

def loaded? : Startup → Option Settings
  | brokenDown _ s => some s
  | ready _ s => some s
  | _ => none

def fault? : Startup → Option Fault
  | unconfigured _ e => some e.fault
  | _ => none

end Startup

def errorLine (f : Fault) : String :=
  "Error: " ++ f.kind.name ++ "(" ++ Text.quote f.detail ++ ")"

def versionLine : String := "save-orchestrator 0.1.0"

end AgentFleet.CommandLine
