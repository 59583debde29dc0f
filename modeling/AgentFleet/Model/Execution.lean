import AgentFleet.Model.Agent
import AgentFleet.Text.Character

/-!
Executions: runs of tests that a number of agents work on, and requests to launch their agents.
-/

namespace AgentFleet

inductive ExecutionStatus where
  | pending
  | running
  | error
  | finished
  deriving DecidableEq, Repr

namespace ExecutionStatus

def named : List (String × ExecutionStatus) :=
  [("PENDING", .pending), ("RUNNING", .running), ("ERROR", .error), ("FINISHED", .finished)]

def name : ExecutionStatus → String
  | pending => "PENDING"
  | running => "RUNNING"
  | error => "ERROR"
  | finished => "FINISHED"

theorem lookup_name (s : ExecutionStatus) : named.lookup s.name = some s := by cases s <;> decide

/-- Whether no other status follows. -/
def isTerminal (s : ExecutionStatus) : Bool := s = error || s = finished

end ExecutionStatus

structure LaunchRequest where
  executionId : ExecutionId
  /-- The image to run, or `default` for the configured one. -/
  sdk : String
  replicas : Nat
  organization : Option String
  project : Option String
  deriving DecidableEq, Repr

end AgentFleet
