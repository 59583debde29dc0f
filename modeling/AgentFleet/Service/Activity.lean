import AgentFleet.Backend.Call
import AgentFleet.Model.Container
import AgentFleet.Procedure
import AgentFleet.Service.State

/-!
Activities of the service: procedures that call the backend and the container runner, use the
service's memory, sleep, and start other activities.
-/

namespace AgentFleet

inductive RunnerCall where
  /-- Creates the containers of an execution; brings those that are there. -/
  | create (e : ExecutionId) (plan : ContainerPlan) (replicas : Nat)
  | start (e : ExecutionId)
  | stop (e : ExecutionId)
  /-- Removes a container; tells whether it was still there. -/
  | stopAgent (c : ContainerId)
  /-- Whether a container has ended or is gone. -/
  | isStopped (c : ContainerId)
  /-- Removes the containers and the volume of an execution. -/
  | cleanup (e : ExecutionId)
  /-- Removes what is left of executions, but for those to be kept. -/
  | prune (keep : Names)
  deriving DecidableEq, Repr

def RunnerCall.Result : RunnerCall → Type
  | create _ _ _ => List ContainerId
  | start _ => Unit
  | stop _ => Unit
  | stopAgent _ => Bool
  | isStopped _ => Bool
  | cleanup _ => Unit
  | prune _ => Unit

abbrev RunnerCall.Answer (call : RunnerCall) : Type := Except Fault call.Result

/-- Work that goes on while the activity that started it does not wait for it. -/
inductive Job where
  /-- Waits for a container that was told to terminate. -/
  | supervise (e : ExecutionId) (c : ContainerId)
  /-- Launches the agents of an execution. -/
  | launch (r : LaunchRequest)
  deriving DecidableEq, Repr

inductive Act where
  | backend (call : BackendCall)
  | runner (call : RunnerCall)
  /-- A call that is given up when the timer reaches the deadline. -/
  | runnerUntil (deadline : Nat) (call : RunnerCall)
  | memory (op : Local)
  | sleep (millis : Nat)
  | spawn (job : Job)

def Act.Answer : Act → Type
  | backend call => call.Answer
  | runner call => call.Answer
  | runnerUntil _ call => Option call.Answer
  | memory op => op.Answer
  | sleep _ => Unit
  | spawn _ => Unit

abbrev Activity (α : Type) := Procedure Act Act.Answer α

/-- An activity that may end early with a fault. -/
abbrev Attempt (α : Type) := ExceptT Fault (Procedure Act Act.Answer) α

namespace Activity

def act (a : Act) : Activity a.Answer := Procedure.query a

def backend (call : BackendCall) : Activity call.Answer := act (.backend call)

def runner (call : RunnerCall) : Activity call.Answer := act (.runner call)

def runnerUntil (deadline : Nat) (call : RunnerCall) : Activity (Option call.Answer) :=
  act (.runnerUntil deadline call)

def tracker (op : Tracker.Operation) : Activity op.Answer := act (.memory (.tracker op))

def clock : Activity Clock := act (.memory .clock)

def forgetExpired (retention : Nat) : Activity Nat := act (.memory (.forgetExpired retention))

def claim (e : ExecutionId) : Activity Bool := act (.memory (.claim e))

def beginLaunch (e : ExecutionId) : Activity Unit := act (.memory (.beginLaunch e))

def endLaunch (e : ExecutionId) : Activity Unit := act (.memory (.endLaunch e))

def launching : Activity Names := act (.memory .launching)

def sleep (millis : Nat) : Activity Unit := act (.sleep millis)

def spawn (job : Job) : Activity Unit := act (.spawn job)

end Activity

namespace Attempt

def lift {α : Type} (t : Activity α) : Attempt α := ExceptT.lift t

def ofExcept {α : Type} : Except Fault α → Attempt α
  | .ok a => pure a
  | .error f => throw f

def backend (call : BackendCall) : Attempt call.Result := ExceptT.mk (Activity.backend call)

def runner (call : RunnerCall) : Attempt call.Result := ExceptT.mk (Activity.runner call)

def accepted {α : Type} (t : Activity (Except Tracker.Refusal α)) : Attempt α := do
  ofExcept ((← lift t).mapError Tracker.Refusal.fault)

end Attempt

namespace LivenessSettings

/-- The staleness threshold in nanoseconds. -/
def staleness (s : LivenessSettings) : Int := s.stalenessThresholdSeconds * 1000000000

/-- How long a finalized execution is remembered, in nanoseconds. -/
def retention (s : LivenessSettings) : Nat := s.finalizedRetentionSeconds * 1000000000

end LivenessSettings

def Instant.timestamp (time : Instant) : Timestamp :=
  ⟨time / Timestamp.billion, (time % Timestamp.billion).toNat⟩

end AgentFleet
