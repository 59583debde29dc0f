import AgentFleet.Time.Timestamp

/-!
Agents: containers that run tests, and the states they report. An agent is named by its container.
-/

namespace AgentFleet

abbrev ContainerId := String

abbrev ExecutionId := String

inductive AgentState where
  /-- Started, and waiting for what it needs to begin. -/
  | starting
  /-- Asking for work. -/
  | idle
  /-- Running a batch. -/
  | busy
  /-- Done with a batch, its results sent. -/
  | finished
  /-- Presumed dead. -/
  | crashed
  /-- Shut down after it was told to terminate. -/
  | terminated
  /-- The backend refused its requests. -/
  | backendFailure
  /-- It could not reach the backend. -/
  | backendUnreachable
  /-- Its test runner failed. -/
  | cliFailed
  /-- Stopped on request. -/
  | stoppedByOrch
  deriving DecidableEq, Repr

namespace AgentState

def named : List (String × AgentState) :=
  [("STARTING", .starting), ("IDLE", .idle), ("BUSY", .busy), ("FINISHED", .finished),
    ("CRASHED", .crashed), ("TERMINATED", .terminated), ("BACKEND_FAILURE", .backendFailure),
    ("BACKEND_UNREACHABLE", .backendUnreachable), ("CLI_FAILED", .cliFailed),
    ("STOPPED_BY_ORCH", .stoppedByOrch)]

def name : AgentState → String
  | starting => "STARTING"
  | idle => "IDLE"
  | busy => "BUSY"
  | finished => "FINISHED"
  | crashed => "CRASHED"
  | terminated => "TERMINATED"
  | backendFailure => "BACKEND_FAILURE"
  | backendUnreachable => "BACKEND_UNREACHABLE"
  | cliFailed => "CLI_FAILED"
  | stoppedByOrch => "STOPPED_BY_ORCH"

theorem lookup_name (s : AgentState) : named.lookup s.name = some s := by cases s <;> decide

/-- Whether an agent in this state has work or may get some, so that its siblings must not be told
to terminate. -/
def blocksTermination (s : AgentState) : Bool := s = starting || s = busy

/-- Whether no live agent reports this state about itself. -/
def isOrchestratorOnly (s : AgentState) : Bool :=
  s = crashed || s = terminated || s = stoppedByOrch

end AgentState

structure AgentStatus where
  containerId : ContainerId
  state : AgentState
  /-- When the state was reported. -/
  time : Timestamp
  deriving DecidableEq, Repr

end AgentFleet
