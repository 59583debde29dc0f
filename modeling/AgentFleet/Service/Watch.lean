import AgentFleet.Service.Finalization

/-!
The watchdog's pass and the pruning that are done at intervals. A pass finds containers that have
stopped or gone silent, ends executions that are left without containers, fails the tests of crashed
containers and stops them, and ends executions all of whose containers have crashed.
-/

namespace AgentFleet.Activity

/-- Those of the containers that have stopped; one that cannot be looked at counts as running. -/
def stoppedAmong : List ContainerId → Activity (List ContainerId)
  | [] => return []
  | c :: cs => do
    let stopped : Except Fault Bool ← runner (.isStopped c)
    let rest ← stoppedAmong cs
    match stopped with
    | .ok true => return c :: rest
    | _ => return rest

def reportAllCrashed (time : Timestamp) : List ContainerId → Activity Unit
  | [] => return
  | c :: cs => do
    let _ ← backend (.reportState c .crashed time)
    reportAllCrashed time cs

def stopAll : List ContainerId → Activity Unit
  | [] => return
  | c :: cs => do
    let _ ← runner (.stopAgent c)
    stopAll cs

/-- Reports containers as crashed, fails their tests and stops them. Their crash then counts as
handled, whatever failed. -/
def handleCrashed (now : Instant) (cs : List ContainerId) : Activity Unit := do
  reportAllCrashed now.timestamp cs
  let _ ← backend (.failTests cs)
  stopAll cs
  let _ ← tracker (.markHandled cs)

def watch (s : LivenessSettings) (now : Instant) : Activity Tracker.Summary := do
  let _ ← forgetExpired s.retention
  let containers : List ContainerId ← tracker .containers
  let stopped ← stoppedAmong containers
  let summary : Tracker.Summary ← tracker (.sweep s.staleness (stopped.contains ·) now)
  finalizeAll s .completed summary.emptied
  let crashed : List ContainerId ← tracker .crashed
  if crashed ≠ [] then handleCrashed now crashed
  let lost : List ExecutionId ← tracker .lost
  finalizeAll s .allCrashed lost
  return summary

/-- Removes what is left of executions that are neither tracked nor being launched. -/
def prune : Activity Unit := do
  let tracked : List ExecutionId ← tracker .executions
  let launching ← launching
  let _ ← runner (.prune (Std.ExtTreeSet.ofList tracked compare ∪ launching))

end AgentFleet.Activity
