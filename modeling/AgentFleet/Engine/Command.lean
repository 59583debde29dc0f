import AgentFleet.Engine.Listing
import AgentFleet.Model.Container

/-!
Commands of the container engine, as lists of arguments. Every container and volume is labelled with
its execution, so that all of an execution can be found by its label.
-/

namespace AgentFleet.Engine

abbrev Command := List String

def managedLabel : String := "save.managed=true"

def executionLabelKey : String := "save.execution-id"

def agentIdVariable : String := "SAVE_AGENT_ID"

/-- The engine refuses longer host names; the length is in octets. -/
def maxHostname : Nat := 63

def executionLabel (e : ExecutionId) : String := executionLabelKey ++ "=" ++ e

def containerName (e : ExecutionId) (suffix : String) : String :=
  "save-agent-" ++ e ++ "-" ++ suffix

def option (name : String) : Option String → Command
  | some value => [name ++ "=" ++ value]
  | none => []

/-- Creates a container. Its name is the agent's name too, and the host's if it is not too long. -/
def createContainer (e : ExecutionId) (name : String) (plan : ContainerPlan)
    (network : Option String) : Command :=
  ["create", "--name", name, "--label", managedLabel, "--label", executionLabel e,
    "--workdir", plan.workingDir, "--env", agentIdVariable ++ "=" ++ name,
    "--volume", plan.volume.name ++ ":" ++ plan.volume.mountPath]
  ++ (if name.utf8ByteSize ≤ maxHostname then ["--hostname", name] else [])
  ++ option "--memory" plan.resources.memory
  ++ option "--cpus" plan.resources.cpu
  ++ option "--network" network
  ++ (plan.env.toList.flatMap fun (key, value) => ["--env", key ++ "=" ++ value])
  ++ [plan.image, "sh", "-c", plan.runCommand]

def createVolume (e : ExecutionId) (plan : ContainerPlan) : Command :=
  ["volume", "create", "--label", managedLabel, "--label", executionLabel e, plan.volume.name]

/-- Lists the containers of an execution, on demand also those that do not run. -/
def listContainers (e : ExecutionId) (stoppedToo : Bool) : Command :=
  ["ps"] ++ (if stoppedToo then ["--all"] else [])
  ++ ["--filter", "label=" ++ executionLabel e, "--format", "\x7b\x7b.Names\x7d\x7d"]

def startContainers (containers : List ContainerId) : Command := "start" :: containers

def stopContainers (containers : List ContainerId) : Command := "stop" :: containers

def removeContainers (containers : List ContainerId) : Command := "rm" :: "--force" :: containers

def inspectState (c : ContainerId) : Command :=
  ["inspect", "--format", "\x7b\x7b.State.Status\x7d\x7d", c]

def removeVolume (name : String) : Command := ["volume", "rm", name]

/-- Removes a volume; one that is missing is no failure. -/
def forgetVolume (name : String) : Command := ["volume", "rm", "--force", name]

def executionColumn : String := "\t\x7b\x7b.Label \"save.execution-id\"\x7d\x7d"

/-- Lists this service's containers that do not run, with their executions. -/
def listUnused : Command :=
  ["ps", "--all", "--filter", "label=" ++ managedLabel, "--filter", "status=created",
    "--filter", "status=exited", "--filter", "status=dead",
    "--format", "\x7b\x7b.Names\x7d\x7d" ++ executionColumn]

def listVolumes : Command :=
  ["volume", "ls", "--filter", "label=" ++ managedLabel,
    "--format", "\x7b\x7b.Name\x7d\x7d" ++ executionColumn]

end AgentFleet.Engine
