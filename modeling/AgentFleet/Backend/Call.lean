import AgentFleet.Fault
import AgentFleet.Model.Execution
import AgentFleet.Model.Heartbeat

/-!
What the service asks of the backend, which keeps the executions, the agents and the batches. A
batch is handed out once: asking for the next one takes it off the backend's queue.
-/

namespace AgentFleet

inductive BackendCall where
  /-- What a starting agent needs to begin, if that is known yet. -/
  | initConfig (c : ContainerId)
  /-- The next batch for an agent, if there is one. -/
  | nextBatch (c : ContainerId)
  /-- Records an agent's state. -/
  | reportState (c : ContainerId) (state : AgentState) (time : Timestamp)
  /-- Whether all results of an agent have been saved. -/
  | resultsSaved (c : ContainerId)
  /-- Fails the tests that agents have not finished. -/
  | failTests (cs : List ContainerId)
  /-- What is known of the agents of an execution. -/
  | agentStatuses (e : ExecutionId)
  | reportExecution (e : ExecutionId) (status : ExecutionStatus) (reason : Option String)
  /-- Registers containers as agents of an execution. -/
  | addAgents (e : ExecutionId) (cs : List ContainerId)
  deriving DecidableEq, Repr

def BackendCall.Result : BackendCall → Type
  | initConfig _ => Option Json
  | nextBatch _ => Option Json
  | reportState _ _ _ => Unit
  | resultsSaved _ => Bool
  | failTests _ => Unit
  | agentStatuses _ => List AgentStatus
  | reportExecution _ _ _ => Unit
  | addAgents _ _ => Unit

/-- Any call may fail. -/
abbrev BackendCall.Answer (call : BackendCall) : Type := Except Fault call.Result

end AgentFleet
