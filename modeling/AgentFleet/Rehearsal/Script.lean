import AgentFleet.Service.Activity

/-!
A backend and a runner that follow a script, for rehearsals of the service. They keep a few facts in
memory, answer from them, and can be told to reject calls.
-/

namespace AgentFleet.Rehearsal

structure Script where
  /-- The agents that the backend knows, with their executions and states. -/
  agents : Std.ExtTreeMap ContainerId (ExecutionId × AgentState) compare := ∅
  /-- What starting agents are given. -/
  init : Std.ExtTreeMap ContainerId Json compare := ∅
  /-- The batches that have not been handed out. -/
  queue : List Json := []
  /-- The agents whose results have not all been saved. -/
  unsaved : Names := ∅
  stopped : Names := ∅
  /-- At which look a container turns out to have stopped. -/
  stopOnCheck : Std.ExtTreeMap ContainerId Nat compare := ∅
  /-- How often each container has been looked at. -/
  checks : Std.ExtTreeMap ContainerId Nat compare := ∅
  /-- Which containers are created for an execution. -/
  created : Std.ExtTreeMap ExecutionId (List ContainerId) compare := ∅
  createDelayMillis : Nat := 0
  /-- The calls that are rejected: by a name, or by a name, a colon and what the call is about. -/
  rejected : List String := []

def backendName : BackendCall → String
  | .initConfig _ => "get_init_config"
  | .nextBatch _ => "get_next_run_config"
  | .reportState _ _ _ => "update_agent_status"
  | .resultsSaved _ => "check_saved_data"
  | .failTests _ => "mark_test_executions_as_failed"
  | .agentStatuses _ => "get_agent_statuses_for_execution"
  | .reportExecution _ _ _ => "update_execution_status"
  | .addAgents _ _ => "add_agents"

def runnerName : RunnerCall → String
  | .create _ _ _ => "create"
  | .start _ => "start"
  | .stop _ => "stop"
  | .stopAgent _ => "stop_by_agent_id"
  | .isStopped _ => "is_stopped"
  | .cleanup _ => "cleanup"
  | .prune _ => "prune"

def backendSubject? : BackendCall → Option String
  | .initConfig c => some c
  | .nextBatch c => some c
  | .reportState c _ _ => some c
  | .resultsSaved c => some c
  | .failTests _ => none
  | .agentStatuses e => some e
  | .reportExecution e _ _ => some e
  | .addAgents e _ => some e

def runnerSubject? : RunnerCall → Option String
  | .create e _ _ => some e
  | .start e => some e
  | .stop e => some e
  | .stopAgent c => some c
  | .isStopped c => some c
  | .cleanup e => some e
  | .prune _ => none

namespace Script

def rejects (s : Script) (name : String) (subject? : Option String) : Bool :=
  s.rejected.contains name || match subject? with
    | some subject => s.rejected.contains (name ++ ":" ++ subject)
    | none => false

def statusesOf (s : Script) (e : ExecutionId) : List AgentStatus :=
  s.agents.toList.filterMap fun (c, (owner, state)) =>
    if owner = e then some ⟨c, state, ⟨0, 0⟩⟩ else none

def backendResult : (call : BackendCall) → Script → call.Result × Script
  | .initConfig c, s => (s.init[c]?, s)
  | .nextBatch _, s => (s.queue.head?, { s with queue := s.queue.tail })
  | .reportState c state _, s =>
    ((), match s.agents[c]? with
      | some (e, _) => { s with agents := s.agents.insert c (e, state) }
      | none => s)
  | .resultsSaved c, s => (!s.unsaved.contains c, s)
  | .failTests _, s => ((), s)
  | .agentStatuses e, s => (s.statusesOf e, s)
  | .reportExecution _ _ _, s => ((), s)
  | .addAgents _ _, s => ((), s)

def backend (s : Script) (call : BackendCall) : call.Answer × Script :=
  if s.rejects (backendName call) (backendSubject? call) then
    (.error ⟨.backend, backendName call ++ " rejected"⟩, s)
  else
    let (result, s) := backendResult call s
    (.ok result, s)

def createdFor (s : Script) (e : ExecutionId) (replicas : Nat) : List ContainerId :=
  (s.created[e]?).getD ((List.range replicas).map fun i => e ++ "-agent-" ++ toString i)

def countCheck (s : Script) (c : ContainerId) : Script :=
  { s with checks := s.checks.insert c (s.checks.getD c 0 + 1) }

def runnerResult : (call : RunnerCall) → Script → call.Result × Script
  | .create e _ replicas, s => (s.createdFor e replicas, s)
  | .start _, s => ((), s)
  | .stop _, s => ((), s)
  | .stopAgent c, s => (!s.stopped.contains c, { s with stopped := s.stopped.insert c })
  | .isStopped c, s =>
    let due : Bool := match s.stopOnCheck[c]? with
      | some n => n ≤ s.checks.getD c 0
      | none => false
    let s := if due then { s with stopped := s.stopped.insert c } else s
    (s.stopped.contains c, s)
  | .cleanup _, s => ((), s)
  | .prune _, s => ((), s)

/-- Answers a call of the runner. Looks at containers are counted even if they are rejected. -/
def runner (s : Script) (call : RunnerCall) : call.Answer × Script :=
  let s := match call with
    | .isStopped c => s.countCheck c
    | _ => s
  if s.rejects (runnerName call) (runnerSubject? call) then
    (.error ⟨.runner, runnerName call ++ " rejected"⟩, s)
  else
    let (result, s) := runnerResult call s
    (.ok result, s)

def delayMillis (s : Script) : RunnerCall → Nat
  | .create _ _ _ => s.createDelayMillis
  | _ => 0

end Script

end AgentFleet.Rehearsal
