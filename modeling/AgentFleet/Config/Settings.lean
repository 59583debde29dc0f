import AgentFleet.Fault
import AgentFleet.Text.Character

/-!
The settings of the service: what each part may be told, what it does if it is told nothing, and
which settings are refused. A checked backend address has no slashes at its end, and checking it
again changes nothing.
-/

namespace AgentFleet

structure BackendSettings where
  /-- The address that all requests start with. -/
  url : String
  requestTimeoutSeconds : Nat := 30
  deriving DecidableEq, Repr

structure AgentSettings where
  /-- The image for requests that choose none. -/
  defaultImage : String := "ubuntu:latest"
  runCommand : String
  workingDir : String := "/home/save-agent"
  /-- Where agents send their heartbeats. -/
  orchestratorUrl : String
  cpuLimit : Option String := none
  memoryLimit : Option String := none
  deriving DecidableEq, Repr

structure EngineSettings where
  /-- The engine's program. -/
  binary : String := "docker"
  network : Option String := none
  /-- Where agents see the volume of their execution. -/
  volumeMountPath : String := "/home/save-agent/save-execution"
  /-- How often created containers are looked for. -/
  createPollAttempts : Nat := 10
  createPollIntervalMillis : Nat := 1000
  pruneIntervalSeconds : Nat := 3600
  deriving DecidableEq, Repr

/-- When a container counts as crashed, and how long a finished execution is remembered. -/
structure LivenessSettings where
  stalenessThresholdSeconds : Nat := 60
  watchdogIntervalSeconds : Nat := 10
  finalizedRetentionSeconds : Nat := 3600
  deriving DecidableEq, Repr

/-- How long a container that was told to terminate is waited for. -/
structure ShutdownSettings where
  checkIntervalMillis : Nat := 1000
  maxChecks : Nat := 60
  timeoutSeconds : Nat := 60
  deriving DecidableEq, Repr

structure Settings where
  httpPort : Nat := 5100
  bindAddress : String := "0.0.0.0"
  backend : BackendSettings
  agent : AgentSettings
  engine : EngineSettings := {}
  liveness : LivenessSettings := {}
  shutdown : ShutdownSettings := {}
  deriving DecidableEq, Repr

def backendUrlVariable : String := "ORCHESTRATOR_BACKEND_URL"

def withoutSlashes (cs : List Char) : List Char := (cs.reverse.dropWhile (· = '/')).reverse

def trimSlashes (url : String) : String := String.ofList (withoutSlashes url.toList)

def hasWebScheme (url : String) : Bool :=
  "http://".toList.isPrefixOf url.toList || "https://".toList.isPrefixOf url.toList

inductive SettingsError where
  | backendUrl (url : String)
  | requestTimeout
  | runCommand
  | createPollAttempts
  | liveness
  | shutdown
  deriving DecidableEq, Repr

def SettingsError.message : SettingsError → String
  | .backendUrl url => "backend.url must be an http(s) url, got '" ++ url ++ "'"
  | .requestTimeout => "backend.request_timeout_seconds must be greater than zero"
  | .runCommand => "agent.run_command must not be empty"
  | .createPollAttempts => "docker.create_poll_attempts must be greater than zero"
  | .liveness => "liveness thresholds must be greater than zero"
  | .shutdown => "shutdown.max_checks and shutdown.timeout_seconds must be greater than zero"

def SettingsError.fault (e : SettingsError) : Fault := ⟨.config, e.message⟩

namespace Settings

def withBackendUrl (s : Settings) (url : String) : Settings :=
  { s with backend := { s.backend with url := url } }

/-- Checks settings and trims the backend's address; the first rule that is broken counts. -/
def checked (s : Settings) : Except SettingsError Settings :=
  let url := trimSlashes s.backend.url
  if !hasWebScheme url then .error (.backendUrl s.backend.url)
  else if s.backend.requestTimeoutSeconds = 0 then .error .requestTimeout
  else if Text.IsBlank s.agent.runCommand then .error .runCommand
  else if s.engine.createPollAttempts = 0 then .error .createPollAttempts
  else if s.liveness.stalenessThresholdSeconds = 0 ∨ s.liveness.watchdogIntervalSeconds = 0
      ∨ s.liveness.finalizedRetentionSeconds = 0 then .error .liveness
  else if s.shutdown.maxChecks = 0 ∨ s.shutdown.timeoutSeconds = 0 then .error .shutdown
  else .ok (s.withBackendUrl url)

def overridden (s : Settings) (url : Option String) : Settings :=
  match url with
  | none => s
  | some url => if url = "" then s else s.withBackendUrl url

def applyOverride (s : Settings) (url : Option String) : Except SettingsError Settings :=
  (s.overridden url).checked

end Settings

/-- The longest span, in seconds, that a staleness threshold may have. -/
def LivenessSettings.maxThresholdSeconds : Nat := 9223372036854775

def LivenessSettings.stalenessSeconds? (s : LivenessSettings) : Option Nat :=
  if s.stalenessThresholdSeconds ≤ maxThresholdSeconds then some s.stalenessThresholdSeconds
  else none

end AgentFleet
