import AgentFleet.Tracker.Sweep

/-!
The operations of the tracker, each of which happens at once: what it answers, and what it changes.
Questions change nothing.
-/

namespace AgentFleet.Tracker

inductive Operation where
  | upsert (e : ExecutionId) (c : ContainerId) (time : Instant)
  | markCrashed (c : ContainerId)
  /-- Answers whether the container was not terminating before. -/
  | markTerminating (c : ContainerId)
  | markHandled (cs : List ContainerId)
  /-- Answers whether the container was known. -/
  | delete (c : ContainerId)
  | deleteAll (cs : List ContainerId)
  /-- Answers which containers were removed. -/
  | deleteExecution (e : ExecutionId)
  | sweep (staleness : Int) (isStopped : ContainerId → Bool) (now : Instant)
  | containers
  | executions
  | crashed
  | lost
  | hasLive (e : ExecutionId)

def Operation.Answer : Operation → Type
  | upsert _ _ _ => Except Refusal Unit
  | markCrashed _ => Except Refusal Unit
  | markTerminating _ => Except Refusal Bool
  | markHandled _ => Unit
  | delete _ => Bool
  | deleteAll _ => Unit
  | deleteExecution _ => List ContainerId
  | sweep _ _ _ => Summary
  | containers => List ContainerId
  | executions => List ExecutionId
  | crashed => List ContainerId
  | lost => List ExecutionId
  | hasLive _ => Bool

/-- The tracker after a change that may be refused. -/
def orSame (t : Tracker) : Except Refusal Tracker → Except Refusal Unit × Tracker
  | .ok t => (.ok (), t)
  | .error r => (.error r, t)

def Operation.apply : (op : Operation) → Tracker → op.Answer × Tracker
  | upsert e c time, t => t.orSame (t.upsert e c time)
  | markCrashed c, t => t.orSame (t.markCrashed c)
  | markTerminating c, t =>
    match t.markTerminating c with
    | .ok (fresh, t) => ((.ok fresh : Except Refusal Bool), t)
    | .error r => ((.error r : Except Refusal Bool), t)
  | markHandled cs, t => ((), t.markAllHandled cs)
  | delete c, t => (t.owner.contains c, t.delete c)
  | deleteAll cs, t => ((), t.deleteAll cs)
  | deleteExecution e, t => ((t.containersOf e).toList, t.deleteExecution e)
  | sweep staleness isStopped now, t =>
    let (t, summary) := t.sweep staleness isStopped now
    (summary, t)
  | containers, t => (t.containers, t)
  | executions, t => (t.executions, t)
  | crashed, t => (t.crashed.toList, t)
  | lost, t => (t.lost, t)
  | hasLive e, t => (t.hasLive e, t)

def after (t : Tracker) (ops : List Operation) : Tracker :=
  ops.foldl (fun t op => (op.apply t).2) t

end AgentFleet.Tracker
