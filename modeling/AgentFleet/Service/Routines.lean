import AgentFleet.Config.Settings
import AgentFleet.Service.Launch
import AgentFleet.Service.Supervision
import AgentFleet.Service.Watch

/-!
The work that the service does without being asked: routines at intervals, and jobs that activities
start. Settings that are accepted may still break a routine, or keep the service from coming up;
`Settings.breakdowns` tells which of it happens.
-/

namespace AgentFleet

def Job.activity (s : Settings) : Job → Activity Unit
  | supervise e c => discard (Activity.supervise s e c)
  | launch r => discard (Activity.launch s r)

inductive Routine where
  /-- A pass over all containers. -/
  | watch
  /-- Removal of what executions have left behind. -/
  | prune
  deriving DecidableEq, Repr

namespace Routine

def all : List Routine := [watch, prune]

def periodSeconds (s : Settings) : Routine → Nat
  | watch => s.liveness.watchdogIntervalSeconds
  | prune => s.engine.pruneIntervalSeconds

def activity (s : Settings) (now : Instant) : Routine → Activity Unit
  | watch => discard (Activity.watch s.liveness now)
  | prune => Activity.prune

def CanTurn (period : Nat) : Prop := 0 < period

instance (period : Nat) : Decidable (CanTurn period) := inferInstanceAs (Decidable (0 < period))

end Routine

inductive Breakdown where
  /-- The staleness threshold is no span of time. The service does not come up. -/
  | staleness
  /-- The routine ends before its first turn; all else goes on. -/
  | routine (r : Routine)
  deriving DecidableEq, Repr

def Breakdown.isFatal : Breakdown → Bool
  | staleness => true
  | routine _ => false

def Settings.breakdowns (s : Settings) : List Breakdown :=
  (if s.liveness.stalenessSeconds?.isNone then [.staleness] else []) ++
    (Routine.all.filter fun r => ¬ Routine.CanTurn (r.periodSeconds s)).map .routine

end AgentFleet
