import AgentFleet.Service.Activity

/-!
The end of an execution: its last status is reported and its containers and volume are removed,
once. An execution is remembered for a while after that, so that stragglers do not end it again.
Faults of the backend and the runner are passed over: it counts as ended all the same.
-/

namespace AgentFleet

inductive Ending where
  /-- Its agents have run out of work and are gone. -/
  | completed
  /-- All its agents have crashed. -/
  | allCrashed
  deriving DecidableEq, Repr

namespace Ending

def status : Ending → ExecutionStatus
  | completed => .finished
  | allCrashed => .error

def reason : Ending → Option String
  | completed => none
  | allCrashed => some "all agents of the execution crashed"

end Ending

namespace Activity

/-- Ends an execution for good; its containers are no longer tracked. -/
def conclude (e : ExecutionId) (ending : Ending) : Activity Unit := do
  let _ ← tracker (.deleteExecution e)
  let _ ← backend (.reportExecution e ending.status ending.reason)
  let _ ← runner (.cleanup e)

/-- Ends an execution that has not ended lately; tells whether it did. An execution with live agents
is not completed. -/
def finalize (s : LivenessSettings) (e : ExecutionId) (ending : Ending) : Activity Bool := do
  let live : Bool ← if ending = .completed then tracker (.hasLive e) else pure false
  if live then return false
  else
    let _ ← forgetExpired s.retention
    if ← claim e then
      conclude e ending
      return true
    else return false

def finalizeAll (s : LivenessSettings) (ending : Ending) : List ExecutionId → Activity Unit
  | [] => return
  | e :: es => do
    let _ ← finalize s e ending
    finalizeAll s ending es

end Activity

end AgentFleet
