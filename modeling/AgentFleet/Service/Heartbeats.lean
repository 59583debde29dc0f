import AgentFleet.Service.Activity

/-!
The conversation with agents. Each heartbeat is recorded with the backend, refreshes the tracker,
and is answered by the agent's state. Agents never see a fault: they are told to go on, and come
back with the same state.
-/

namespace AgentFleet

namespace Attempt

/-- Answers an agent that asks for work: the next batch, or the end if no agent of its execution may
still get or have work. -/
def assign (c : ContainerId) (e : ExecutionId) : Attempt Answer := do
  let batch : Option Json ← backend (.nextBatch c)
  match batch with
  | some batch => return .newJob batch
  | none =>
    let statuses : List AgentStatus ← backend (.agentStatuses e)
    if statuses.any (·.state.blocksTermination) then return .wait else return .terminate

def prepare (c : ContainerId) : Attempt Answer := do
  let config : Option Json ← backend (.initConfig c)
  match config with
  | some config => return .init config
  | none => return .wait

def settle (c : ContainerId) (e : ExecutionId) : Attempt Answer := do
  let saved : Bool ← backend (.resultsSaved c)
  if saved then assign c e
  else
    let _ ← backend (.failTests [c])
    return .wait

/-- Answers by the state that an agent reports. One that reports a state which only the service
gives counts as crashed. -/
def answerTo (c : ContainerId) (e : ExecutionId) : AgentState → Attempt Answer
  | .starting => prepare c
  | .idle => assign c e
  | .finished => settle c e
  | .busy => return .keepOn
  | .backendFailure | .backendUnreachable | .cliFailed => return .wait
  | .crashed | .terminated | .stoppedByOrch => do
    accepted (Activity.tracker (.markCrashed c))
    return .wait

/-- Starts to wait for a container's end, unless that is being done. -/
def superviseOnce (c : ContainerId) (e : ExecutionId) : Attempt Unit := do
  let fresh : Bool ← accepted (Activity.tracker (.markTerminating c))
  if fresh then lift (Activity.spawn (.supervise e c)) else return

/-- Deals with a heartbeat. That the backend could not record it counts only after the tracker has
been refreshed. -/
def process (h : Heartbeat) : Attempt Answer := do
  let reported ← lift (Activity.backend (.reportState h.agentId h.state h.timestamp))
  let now ← lift Activity.clock
  accepted (Activity.tracker (.upsert h.executionId h.agentId now.wall))
  let _ ← ofExcept reported
  let answer ← answerTo h.agentId h.executionId h.state
  match answer with
  | .terminate => superviseOnce h.agentId h.executionId
  | _ => pure ()
  return answer

end Attempt

namespace Activity

def heartbeat (h : Heartbeat) : Activity Answer := do
  match ← (Attempt.process h).run with
  | .ok answer => return answer
  | .error _ => return .keepOn

end Activity

end AgentFleet
