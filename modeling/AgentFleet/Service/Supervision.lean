import AgentFleet.Service.Finalization

/-!
Waiting for a container that was told to terminate. It is looked at again and again, but only so
often and only until a deadline. If it has stopped it is no longer tracked; if not it counts as
crashed, and the watchdog deals with it.
-/

namespace AgentFleet

inductive Outcome where
  | stopped
  | timedOut
  deriving DecidableEq, Repr

namespace Activity

/-- Looks at a container at intervals, at most `checks` times and not after the deadline. A look
just at the deadline still counts. -/
def awaitStop (s : ShutdownSettings) (c : ContainerId) (deadline : Nat) : Nat → Activity Outcome
  | 0 => return .timedOut
  | checks + 1 => do
    let now ← clock
    if now.timer + s.checkIntervalMillis ≤ deadline then
      sleep s.checkIntervalMillis
      match ← runnerUntil deadline (.isStopped c) with
      | none => return .timedOut
      | some (.ok true) => return .stopped
      | some _ => awaitStop s c deadline checks
    else
      sleep (deadline - now.timer)
      return .timedOut

/-- Waits for a container to stop, and then ends its execution if no other agent of it is live. -/
def supervise (s : Settings) (e : ExecutionId) (c : ContainerId) : Activity Outcome := do
  let start ← clock
  let deadline := start.timer + s.shutdown.timeoutSeconds * 1000
  let outcome ← awaitStop s.shutdown c deadline s.shutdown.maxChecks
  match outcome with
  | .stopped => discard (tracker (.delete c))
  | .timedOut => discard (tracker (.markCrashed c))
  let _ ← finalize s.liveness e .completed
  return outcome

end Activity

end AgentFleet
