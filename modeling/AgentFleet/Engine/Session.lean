import AgentFleet.Engine.Command
import AgentFleet.Procedure

/-!
Work with the container engine: commands run one after another, each decided by the output of those
before it. A missing container or volume counts as already removed.
-/

namespace AgentFleet.Engine

structure Output where
  success : Bool
  stdout : String
  stderr : String
  deriving DecidableEq, Repr

inductive Request where
  | run (c : Command)
  /-- Lets some milliseconds pass. -/
  | pause (millis : Nat)
  deriving DecidableEq, Repr

/-- A command that cannot even be started answers with the reason. -/
def Request.Answer : Request → Type
  | run _ => Except String Output
  | pause _ => Unit

abbrev Session (α : Type) := ExceptT Fault (Procedure Request Request.Answer) α

def runnerFault (detail : String) : Fault := ⟨.runner, detail⟩

namespace Session

variable (settings : EngineSettings)

def ask (r : Request) : Session r.Answer :=
  ExceptT.lift (Procedure.query r : Procedure Request Request.Answer r.Answer)

def pause (millis : Nat) : Session Unit := ask (Request.pause millis)

def exec (c : Command) : Session Output := do
  let outcome : Except String Output ← ask (Request.run c)
  match outcome with
  | .ok output => return output
  | .error reason => throw (runnerFault ("failed to run " ++ settings.binary ++ ": " ++ reason))

/-- Why a command failed, by its first argument and what it complained about. -/
def failure (c : Command) (output : Output) : Fault :=
  runnerFault (settings.binary ++ " " ++ c.headD "" ++ " failed: " ++ Text.trim output.stderr)

def execChecked (c : Command) : Session Output := do
  let output ← exec settings c
  if output.success then return output else throw (failure settings c output)

/-- Runs a command that may find its object missing; tells whether it did not. -/
def execTolerant (c : Command) : Session Bool := do
  let output ← exec settings c
  if output.success then return true
  else if saysMissing output.stderr then return false
  else throw (failure settings c output)

def containers (e : ExecutionId) (stoppedToo : Bool) : Session (List ContainerId) := do
  return names (← execChecked settings (listContainers e stoppedToo)).stdout

/-- Creates the containers of some replicas; `suffix n` is for the one that `n` others follow. -/
def createReplicas (e : ExecutionId) (plan : ContainerPlan) (suffix : Nat → String) :
    Nat → Session Unit
  | 0 => return
  | replicas + 1 => do
    let name := containerName e (suffix replicas)
    let _ ← execChecked settings (createContainer e name plan settings.network)
    createReplicas e plan suffix replicas

/-- Looks for containers until some are there, at most `attempts` times. -/
def awaitContainers (e : ExecutionId) : Nat → Session (List ContainerId)
  | 0 => throw (runnerFault ("no containers observed for execution " ++ e ++ " after "
      ++ toString settings.createPollAttempts ++ " attempts"))
  | attempts + 1 => do
    let found ← containers settings e true
    if found ≠ [] then return found
    else
      pause settings.createPollIntervalMillis
      awaitContainers e attempts

/-- Makes the volume and the containers of an execution; the suffixes tell the containers apart. -/
def create (e : ExecutionId) (plan : ContainerPlan) (suffix : Nat → String) (replicas : Nat) :
    Session (List ContainerId) := do
  let _ ← execChecked settings (createVolume e plan)
  createReplicas settings e plan suffix replicas
  awaitContainers settings e settings.createPollAttempts

def start (e : ExecutionId) : Session Unit := do
  match ← containers settings e true with
  | [] => throw (runnerFault ("no containers to start for execution " ++ e))
  | found => discard (execChecked settings (startContainers found))

def stop (e : ExecutionId) : Session Unit := do
  match ← containers settings e false with
  | [] => return
  | found => discard (execTolerant settings (stopContainers found))

/-- Removes a container; tells whether it was still there. -/
def stopAgent (c : ContainerId) : Session Bool := execTolerant settings (removeContainers [c])

/-- Whether a container has ended or is gone. -/
def isStopped (c : ContainerId) : Session Bool := do
  let output ← exec settings (inspectState c)
  if output.success then return isStoppedState output.stdout
  else if saysMissing output.stderr then return true
  else throw (runnerFault ("inspect failed: " ++ Text.trim output.stderr))

def cleanup (e : ExecutionId) : Session Unit := do
  match ← containers settings e true with
  | [] => pure ()
  | found => discard (execTolerant settings (removeContainers found))
  discard (execTolerant settings (forgetVolume (volumeName e)))

/-- Removes volumes one by one; one that cannot be removed is left. -/
def removeVolumes : List String → Session Unit
  | [] => return
  | name :: rest => do
    let _ ← try execTolerant settings (removeVolume name) catch _ => pure false
    removeVolumes rest

/-- Removes containers that do not run and volumes, but nothing of the executions to be kept. -/
def prune (keep : Names) : Session Unit := do
  let listing ← execChecked settings listUnused
  match candidates listing.stdout keep with
  | [] => pure ()
  | unused => discard (execTolerant settings (removeContainers unused))
  let listing ← execChecked settings listVolumes
  removeVolumes settings (candidates listing.stdout keep)

end Session

end AgentFleet.Engine
