import AgentFleet.Tracker.Operation

/-!
What the service keeps in memory: the tracker, the executions that were finalized lately, and those
whose agents are being launched. Each operation on it happens at once; between two operations of one
activity other activities may do theirs.
-/

namespace AgentFleet

structure Service where
  tracker : Tracker := .empty
  /-- When each execution was finalized, in nanoseconds of the steady clock. -/
  finalized : Std.ExtTreeMap ExecutionId Nat compare := ∅
  /-- The executions whose agents are being launched. -/
  launching : Names := ∅
  deriving DecidableEq, Repr

/-- The time: as people count it, on a clock that never stops or jumps, and on the clock that
sleepers are woken by. -/
structure Clock where
  wall : Instant
  /-- In nanoseconds. -/
  steady : Nat
  /-- In milliseconds. -/
  timer : Nat
  deriving DecidableEq, Repr

namespace Service

/-- Whether an execution was finalized within the last `retention` nanoseconds. -/
def isFinalized (s : Service) (retention : Nat) (clock : Clock) (e : ExecutionId) : Bool :=
  match s.finalized[e]? with
  | some time => clock.steady - time ≤ retention
  | none => false

def remembered (s : Service) (retention : Nat) (clock : Clock) : List ExecutionId :=
  s.finalized.keys.filter (s.isFinalized retention clock)

def forgetExpired (s : Service) (retention : Nat) (clock : Clock) : Service :=
  { s with finalized := s.finalized.filter fun _ time => decide (clock.steady - time ≤ retention) }

/-- Notes that an execution is finalized now, unless it has been. -/
def claim (s : Service) (clock : Clock) (e : ExecutionId) : Service :=
  if e ∈ s.finalized then s else { s with finalized := s.finalized.insert e clock.steady }

/-- The executions whose containers and volumes must not be pruned. -/
def protectedExecutions (s : Service) : List ExecutionId :=
  (Std.ExtTreeSet.ofList s.tracker.executions compare ∪ s.launching).toList

end Service

inductive Local where
  | tracker (op : Tracker.Operation)
  | clock
  /-- Answers how many executions were forgotten. -/
  | forgetExpired (retention : Nat)
  /-- Answers whether the execution was not remembered as finalized. -/
  | claim (e : ExecutionId)
  | beginLaunch (e : ExecutionId)
  | endLaunch (e : ExecutionId)
  | launching

def Local.Answer : Local → Type
  | tracker op => op.Answer
  | clock => Clock
  | forgetExpired _ => Nat
  | claim _ => Bool
  | beginLaunch _ => Unit
  | endLaunch _ => Unit
  | launching => Names

def Local.apply (clock : Clock) : (op : Local) → Service → op.Answer × Service
  | .tracker op, s =>
    let (answer, after) := op.apply s.tracker
    (answer, { s with tracker := after })
  | .clock, s => (clock, s)
  | .forgetExpired retention, s =>
    let after := s.forgetExpired retention clock
    ((s.finalized.size - after.finalized.size : Nat), after)
  | .claim e, s => (!s.finalized.contains e, s.claim clock e)
  | .beginLaunch e, s => ((), { s with launching := s.launching.insert e })
  | .endLaunch e, s => ((), { s with launching := s.launching.erase e })
  | .launching, s => (s.launching, s)

end AgentFleet
