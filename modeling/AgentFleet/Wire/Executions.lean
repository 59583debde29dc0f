import AgentFleet.Json.Decoder
import AgentFleet.Model.Container

/-!
Executions in JSON: their statuses by name, requests to launch agents, and the plans made of them.
-/

namespace AgentFleet

open Json (Decoder)
open Json.Decoder (Record Field required)

namespace Json

def optionalString : Option String → Json
  | some s => .string s
  | none => .null

end Json

namespace ExecutionStatus

def toJson (s : ExecutionStatus) : Json := .string s.name

def decoder : Decoder ExecutionStatus := Decoder.variant named

end ExecutionStatus

namespace LaunchRequest

def toJson (r : LaunchRequest) : Json :=
  .object [("executionId", .string r.executionId), ("sdk", .string r.sdk),
    ("replicas", .nat r.replicas), ("organization", .optionalString r.organization),
    ("project", .optionalString r.project)]

structure Draft where
  executionId : Option ExecutionId := none
  sdk : Option String := none
  replicas : Option Nat := none
  organization : Option (Option String) := none
  project : Option (Option String) := none

def finish (d : Draft) : Except Wire.Mismatch LaunchRequest := do
  return ⟨← required "executionId" d.executionId, d.sdk.getD "", ← required "replicas" d.replicas,
    d.organization.getD none, d.project.getD none⟩

def record : Record Draft LaunchRequest where
  title := "InitializeAgentsRequest"
  fields :=
    [.of "executionId" Decoder.string (·.executionId)
        (fun a d => { d with executionId := a }) false,
      .of "sdk" Decoder.string (·.sdk) (fun a d => { d with sdk := a }) true,
      .of "replicas" (Decoder.natural "u32" 4294967295) (·.replicas)
        (fun a d => { d with replicas := a }) false,
      .of "organization" (Decoder.optional Decoder.string) (·.organization)
        (fun a d => { d with organization := some a }) true,
      .of "project" (Decoder.optional Decoder.string) (·.project)
        (fun a d => { d with project := some a }) true]
  empty := {}
  finish := finish

def decoder : Decoder LaunchRequest := Decoder.record record

end LaunchRequest

namespace ResourceLimits

def toJson (r : ResourceLimits) : Json :=
  .object [("cpu", .optionalString r.cpu), ("memory", .optionalString r.memory)]

structure Draft where
  cpu : Option (Option String) := none
  memory : Option (Option String) := none

def record : Record Draft ResourceLimits where
  title := "ResourceLimits"
  fields :=
    [.of "cpu" (Decoder.optional Decoder.string) (·.cpu)
        (fun a d => { d with cpu := some a }) false,
      .of "memory" (Decoder.optional Decoder.string) (·.memory)
        (fun a d => { d with memory := some a }) false]
  empty := {}
  finish d := .ok ⟨d.cpu.getD none, d.memory.getD none⟩

def decoder : Decoder ResourceLimits := Decoder.record record

end ResourceLimits

namespace Volume

def toJson (v : Volume) : Json :=
  .object [("name", .string v.name), ("mount_path", .string v.mountPath)]

structure Draft where
  name : Option String := none
  mountPath : Option String := none

def finish (d : Draft) : Except Wire.Mismatch Volume := do
  return ⟨← required "name" d.name, ← required "mount_path" d.mountPath⟩

def record : Record Draft Volume where
  title := "ProvisionedVolume"
  fields :=
    [.of "name" Decoder.string (·.name) (fun a d => { d with name := a }) false,
      .of "mount_path" Decoder.string (·.mountPath) (fun a d => { d with mountPath := a }) false]
  empty := {}
  finish := finish

def decoder : Decoder Volume := Decoder.record record

end Volume

namespace ContainerPlan

def toJson (p : ContainerPlan) : Json :=
  .object [("image", .string p.image), ("run_command", .string p.runCommand),
    ("resources", p.resources.toJson), ("working_dir", .string p.workingDir),
    ("env", .object (p.env.toList.map fun (key, value) => (key, .string value))),
    ("volume", p.volume.toJson)]

structure Draft where
  image : Option String := none
  runCommand : Option String := none
  resources : Option ResourceLimits := none
  workingDir : Option String := none
  env : Option Environment := none
  volume : Option Volume := none

def finish (d : Draft) : Except Wire.Mismatch ContainerPlan := do
  return ⟨← required "image" d.image, ← required "run_command" d.runCommand,
    ← required "resources" d.resources, ← required "working_dir" d.workingDir,
    ← required "env" d.env, ← required "volume" d.volume⟩

/-- Of several values of a variable the last counts. -/
def envDecoder : Decoder Environment := fun depth =>
  (fun pairs => pairs.foldl (fun env (key, value) => env.insert key value) ∅)
    <$> Decoder.map Decoder.string depth

def record : Record Draft ContainerPlan where
  title := "ContainerRunConfiguration"
  fields :=
    [.of "image" Decoder.string (·.image) (fun a d => { d with image := a }) false,
      .of "run_command" Decoder.string (·.runCommand) (fun a d => { d with runCommand := a }) false,
      .of "resources" ResourceLimits.decoder (·.resources)
        (fun a d => { d with resources := a }) false,
      .of "working_dir" Decoder.string (·.workingDir) (fun a d => { d with workingDir := a }) false,
      .of "env" envDecoder (·.env) (fun a d => { d with env := a }) false,
      .of "volume" Volume.decoder (·.volume) (fun a d => { d with volume := a }) false]
  empty := {}
  finish := finish

def decoder : Decoder ContainerPlan := Decoder.record record

end ContainerPlan

end AgentFleet
