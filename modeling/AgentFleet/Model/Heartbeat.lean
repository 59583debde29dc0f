import AgentFleet.Model.Agent
import AgentFleet.Json.Value

/-!
Heartbeats: what agents report at intervals, and what they are answered. Payloads belong to the
backend and are passed through as they are.
-/

namespace AgentFleet

structure Progress where
  executionId : ExecutionId
  /-- How much of the current batch is done. -/
  percentCompletion : Nat
  deriving DecidableEq, Repr

structure Heartbeat where
  agentId : ContainerId
  state : AgentState
  progress : Progress
  /-- The agent's clock when it reported. -/
  timestamp : Timestamp
  deriving DecidableEq, Repr

def Heartbeat.executionId (h : Heartbeat) : ExecutionId := h.progress.executionId

inductive Answer where
  /-- What a starting agent needs to begin. -/
  | init (config : Json)
  /-- The next batch. -/
  | newJob (config : Json)
  /-- Keep doing what you do. -/
  | keepOn
  /-- There is no work now; stay. -/
  | wait
  | terminate
  deriving Repr

def Answer.kind : Answer → String
  | init _ => "init"
  | newJob _ => "new_job"
  | keepOn => "continue"
  | wait => "wait"
  | terminate => "terminate"

end AgentFleet
