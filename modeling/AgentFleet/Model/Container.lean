import Std.Data.ExtTreeMap
import AgentFleet.Config.Settings
import AgentFleet.Model.Execution
import AgentFleet.Text.Character

/-!
What is needed to launch the containers of an execution. The plan is made once, from a request and
the settings, before any container is created.
-/

namespace AgentFleet

/-- Limits of a container, as the engine writes them. -/
structure ResourceLimits where
  cpu : Option String
  memory : Option String
  deriving DecidableEq, Repr

structure Volume where
  name : String
  /-- Where the containers see it. -/
  mountPath : String
  deriving DecidableEq, Repr

/-- Variables and their values, in ascending order of the variables. -/
abbrev Environment := Std.ExtTreeMap String String compare

structure ContainerPlan where
  image : String
  runCommand : String
  resources : ResourceLimits
  workingDir : String
  env : Environment
  volume : Volume
  deriving DecidableEq, Repr

/-- The name in requests for the configured image. -/
def defaultSdk : String := "default"

def volumeName (e : ExecutionId) : String := "save-execution-" ++ e

namespace LaunchRequest

inductive Refusal where
  | noExecution
  | noReplicas
  deriving DecidableEq, Repr

def Refusal.fault : Refusal → Fault
  | noExecution => ⟨.config, "executionId must not be empty"⟩
  | noReplicas => ⟨.config, "replicas must be greater than zero"⟩

/-- Refuses requests that nothing could be launched for. -/
def check (r : LaunchRequest) : Except Refusal Unit :=
  if Text.IsBlank r.executionId then .error .noExecution
  else if r.replicas = 0 then .error .noReplicas
  else .ok ()

def image (r : LaunchRequest) (agent : AgentSettings) : String :=
  let sdk := Text.trim r.sdk
  if sdk = "" ∨ Text.lowerAscii sdk = defaultSdk then agent.defaultImage else sdk

def env (r : LaunchRequest) (agent : AgentSettings) : Environment :=
  let given : Environment :=
    (∅ : Environment).insert "SAVE_ORCHESTRATOR_URL" agent.orchestratorUrl
      |>.insert "SAVE_EXECUTION_ID" r.executionId
  let given := match r.organization with
    | some organization => given.insert "SAVE_ORGANIZATION" organization
    | none => given
  match r.project with
  | some project => given.insert "SAVE_PROJECT" project
  | none => given

def plan (r : LaunchRequest) (agent : AgentSettings) (engine : EngineSettings) : ContainerPlan where
  image := r.image agent
  runCommand := agent.runCommand
  resources := ⟨agent.cpuLimit, agent.memoryLimit⟩
  workingDir := agent.workingDir
  env := r.env agent
  volume := ⟨volumeName r.executionId, engine.volumeMountPath⟩

end LaunchRequest

end AgentFleet
