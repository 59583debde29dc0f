import AgentFleet.Config.Settings
import AgentFleet.Text.Utf8
import AgentFleet.Toml.Datetime
import AgentFleet.Toml.Decoder
import AgentFleet.Toml.Document

/-!
Settings from a TOML document: one table for each part of the service, everything optional that has
a default.
-/

namespace AgentFleet

open Toml (Decoder)
open Toml.Decoder (Record Field required string u16 u32 u64)

namespace BackendSettings

structure Draft where
  url : Option String := none
  requestTimeoutSeconds : Nat := 30

def record : Record Draft BackendSettings where
  title := "BackendConfig"
  fields :=
    [.of "url" string (fun a d => { d with url := a }) false,
      .of "request_timeout_seconds" u64 (fun a d => { d with requestTimeoutSeconds := a }) true]
  empty := {}
  finish d := do return { d with url := ← required "url" d.url }

end BackendSettings

namespace AgentSettings

structure Draft where
  defaultImage : String := "ubuntu:latest"
  runCommand : Option String := none
  workingDir : String := "/home/save-agent"
  orchestratorUrl : Option String := none
  cpuLimit : Option String := none
  memoryLimit : Option String := none

def record : Record Draft AgentSettings where
  title := "AgentConfig"
  fields :=
    [.of "default_image" string (fun a d => { d with defaultImage := a }) true,
      .of "run_command" string (fun a d => { d with runCommand := a }) false,
      .of "working_dir" string (fun a d => { d with workingDir := a }) true,
      .of "orchestrator_url" string (fun a d => { d with orchestratorUrl := a }) false,
      .of "cpu_limit" string (fun a d => { d with cpuLimit := a }) true,
      .of "memory_limit" string (fun a d => { d with memoryLimit := a }) true]
  empty := {}
  finish d := do
    return { d with
      runCommand := ← required "run_command" d.runCommand
      orchestratorUrl := ← required "orchestrator_url" d.orchestratorUrl }

end AgentSettings

namespace EngineSettings

def record : Record EngineSettings EngineSettings where
  title := "DockerConfig"
  fields :=
    [.of "binary" string (fun a d => { d with binary := a }) true,
      .of "network" string (fun a d => { d with network := a }) true,
      .of "volume_mount_path" string (fun a d => { d with volumeMountPath := a }) true,
      .of "create_poll_attempts" u32 (fun a d => { d with createPollAttempts := a }) true,
      .of "create_poll_interval_millis" u64
        (fun a d => { d with createPollIntervalMillis := a }) true,
      .of "prune_interval_seconds" u64 (fun a d => { d with pruneIntervalSeconds := a }) true]
  empty := {}
  finish := .ok

end EngineSettings

namespace LivenessSettings

def record : Record LivenessSettings LivenessSettings where
  title := "LivenessConfig"
  fields :=
    [.of "staleness_threshold_seconds" u64
        (fun a d => { d with stalenessThresholdSeconds := a }) true,
      .of "watchdog_interval_seconds" u64 (fun a d => { d with watchdogIntervalSeconds := a }) true,
      .of "finalized_retention_seconds" u64
        (fun a d => { d with finalizedRetentionSeconds := a }) true]
  empty := {}
  finish := .ok

end LivenessSettings

namespace ShutdownSettings

def record : Record ShutdownSettings ShutdownSettings where
  title := "ShutdownConfig"
  fields :=
    [.of "check_interval_millis" u64 (fun a d => { d with checkIntervalMillis := a }) true,
      .of "max_checks" u32 (fun a d => { d with maxChecks := a }) true,
      .of "timeout_seconds" u64 (fun a d => { d with timeoutSeconds := a }) true]
  empty := {}
  finish := .ok

end ShutdownSettings

namespace Settings

structure Draft where
  httpPort : Nat := 5100
  bindAddress : String := "0.0.0.0"
  backend : Option BackendSettings := none
  agent : Option AgentSettings := none
  engine : EngineSettings := {}
  liveness : LivenessSettings := {}
  shutdown : ShutdownSettings := {}

def record : Record Draft Settings where
  title := "GlobalConfig"
  fields :=
    [.of "http_port" u16 (fun a d => { d with httpPort := a }) true,
      .of "bind_address" string (fun a d => { d with bindAddress := a }) true,
      .of "backend" (Decoder.record BackendSettings.record)
        (fun a d => { d with backend := a }) false,
      .of "agent" (Decoder.record AgentSettings.record) (fun a d => { d with agent := a }) false,
      .of "docker" (Decoder.record EngineSettings.record) (fun a d => { d with engine := a }) true,
      .of "liveness" (Decoder.record LivenessSettings.record)
        (fun a d => { d with liveness := a }) true,
      .of "shutdown" (Decoder.record ShutdownSettings.record)
        (fun a d => { d with shutdown := a }) true]
  empty := {}
  finish d := do
    return { d with
      backend := ← required "backend" d.backend
      agent := ← required "agent" d.agent }

end Settings

inductive ConfigError where
  /-- The file cannot be read; the reason is the system's. -/
  | unreadable (reason : String)
  /-- The text is no TOML document. -/
  | malformed
  /-- The document does not have the shape of settings. -/
  | shape (m : Wire.Mismatch)
  | refused (e : SettingsError)
  deriving DecidableEq, Repr

/-- The words of an error, without what a reader of documents adds about the place in the text. -/
def ConfigError.message : ConfigError → String
  | unreadable reason => "failed to read config: " ++ reason
  | malformed => "invalid config"
  | shape _ => "invalid config"
  | refused e => e.message

def ConfigError.fault (e : ConfigError) : Fault := ⟨.config, e.message⟩

/-- What does not fit in a document that is well-formed. -/
def ConfigError.detail? : ConfigError → Option String
  | shape m => m.message?
  | _ => none

/-- Why a text is no document at all, of whatever shape. -/
def ConfigError.ofDocument? (s : String) : Option ConfigError :=
  match Toml.ofText? s with
  | none => some .malformed
  | some v =>
    match Toml.check v with
    | .ok () => none
    | .error m => some (.shape m)

namespace Settings

def ofText (s : String) : Except ConfigError Settings :=
  match Toml.ofText? s with
  | none => .error .malformed
  | some v =>
    match Decoder.record record v with
    | .error m => .error (.shape m)
    | .ok settings => settings.checked.mapError .refused

def ofBytes (bytes : ByteArray) : Except ConfigError Settings :=
  match Text.Utf8.strict bytes with
  | none => .error (.unreadable "stream did not contain valid UTF-8")
  | some s => ofText s

end Settings

end AgentFleet
