import AgentFleet.CommandLine.Startup
import AgentFleet.Json.Writer

/-!
The program on its own: it starts as far as its configuration goes, tells what it has loaded, and
ends with the status of its start.
-/

namespace AgentFleet.CommandLine

/-! ### The log -/

def logLine (format : LogFormat) (message : String) (fields : List (String × String)) : String :=
  match format with
  | .text => "INFO " ++ message ++ String.join (fields.map fun (k, v) => " " ++ k ++ "=" ++ v)
  | .json =>
    (Json.ofMembers [("level", .string "INFO"), ("fields", Json.ofMembers
      (("message", .string message) :: fields.map fun (k, v) => (k, .string v)))]).text

def loadedLine (format : LogFormat) (s : Settings) : String :=
  logLine format "configuration loaded"
    [("backend", s.backend.url), ("port", toString s.httpPort)]

/-! ### The program -/

def usage : String :=
  "Usage: save-orchestrator [OPTIONS] --config <CONFIG>\n\n" ++
  "Options:\n" ++
  "      --config <CONFIG>          The configuration, a TOML file\n" ++
  "      --log-format <LOG_FORMAT>  How log lines are written: text (as usual) or json\n" ++
  "      --port <PORT>              The port to listen on, instead of the configured one\n" ++
  "  -h, --help                     Print help\n" ++
  "  -V, --version                  Print version"

def systemReason : IO.Error → String
  | .noFileOrDirectory _ _ _ => "No such file or directory (os error 2)"
  | .permissionDenied _ _ _ => "Permission denied (os error 13)"
  | .inappropriateType _ code details | .invalidArgument _ code details
  | .otherError code details => details ++ " (os error " ++ toString code ++ ")"
  | e => toString e

def readFile (path : String) : IO (Except String ByteArray) := do
  try
    return .ok (← IO.FS.readBinFile path)
  catch e =>
    return .error (systemReason e)

def Startup.report : Startup → IO Unit
  | misused m => IO.eprintln m.message
  | help => IO.println usage
  | version => IO.println versionLine
  | unconfigured log e => do
    IO.println (logLine log "save-orchestrator bootstrap" [])
    IO.eprintln (errorLine e.fault)
  | brokenDown log s => do
    IO.println (logLine log "save-orchestrator bootstrap" [])
    IO.println (loadedLine log s)
    IO.eprintln "the staleness threshold is too long"
  | ready log s => do
    IO.println (logLine log "save-orchestrator bootstrap" [])
    IO.println (loadedLine log s)
    IO.println (logLine log "orchestrator ready" [])

end AgentFleet.CommandLine

open AgentFleet CommandLine

def main (arguments : List String) : IO UInt32 := do
  let file ← match Request.ofArguments arguments with
    | .ok (.run i) => readFile i.config
    | _ => pure (.ok .empty)
  let start := Startup.ofArguments arguments (fun _ => file) (← IO.getEnv backendUrlVariable)
  start.report
  return start.exitStatus.toUInt32
