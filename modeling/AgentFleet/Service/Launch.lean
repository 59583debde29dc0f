import AgentFleet.Service.Activity

/-!
Launching the agents of an execution: create and start their containers, track them, make them known
to the backend, and report that the execution runs. If anything fails the execution is reported as
failed and what was created is removed. All the while the execution is protected from pruning.
-/

namespace AgentFleet

namespace Attempt

def trackAll (e : ExecutionId) (time : Instant) : List ContainerId → Attempt Unit
  | [] => return
  | c :: cs => do
    accepted (Activity.tracker (.upsert e c time))
    trackAll e time cs

def provision (s : Settings) (r : LaunchRequest) : Attempt (List ContainerId) := do
  ofExcept (r.check.mapError LaunchRequest.Refusal.fault)
  let e := r.executionId
  let cs : List ContainerId ← runner (.create e (r.plan s.agent s.engine) r.replicas)
  let _ ← runner (.start e)
  let now ← lift Activity.clock
  trackAll e now.wall cs
  let _ ← backend (.addAgents e cs)
  let _ ← backend (.reportExecution e .running none)
  return cs

end Attempt

namespace Activity

def abort (e : ExecutionId) (cause : Fault) : Activity Unit := do
  let _ ← backend (.reportExecution e .error (some cause.message))
  let _ ← tracker (.deleteExecution e)
  let _ ← runner (.cleanup e)

/-- Launches the agents of a request, or leaves nothing of them. -/
def launch (s : Settings) (r : LaunchRequest) : Activity (Except Fault (List ContainerId)) := do
  beginLaunch r.executionId
  let result ← (Attempt.provision s r).run
  match result with
  | .ok _ => pure ()
  | .error cause => abort r.executionId cause
  endLaunch r.executionId
  return result

end Activity

end AgentFleet
