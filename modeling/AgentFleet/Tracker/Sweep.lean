import AgentFleet.Tracker.Basic

/-!
The regular sweep of the tracker. A stopped container is removed only if it was terminating or its
crash has been handled; any other stopped container that is not yet crashed is marked as crashed, so
that its crash is dealt with before it disappears. Of the rest, containers that have been silent for
too long are marked as crashed, unless they are terminating.
-/

namespace AgentFleet.Tracker

structure Summary where
  /-- Containers that were marked as crashed. -/
  newlyCrashed : List ContainerId := []
  /-- Those of them that had stopped without being told to. -/
  stoppedUnexpectedly : List ContainerId := []
  /-- Containers that were removed. -/
  purged : List ContainerId := []
  /-- Executions that were left without a container. -/
  emptied : List ExecutionId := []
  deriving DecidableEq, Repr

def Summary.isEmpty (s : Summary) : Bool := s.newlyCrashed.isEmpty && s.purged.isEmpty

def isPurgeable (t : Tracker) (c : ContainerId) : Bool :=
  t.handled.contains c || t.terminating.contains c

def purge (t : Tracker) (s : Summary) (c : ContainerId) : Tracker × Summary :=
  match t.owner[c]? with
  | none => (t, s)
  | some e =>
    let t := t.delete c
    (t, { s with
      purged := s.purged ++ [c]
      emptied := if e ∉ t.members ∧ e ∉ s.emptied then s.emptied ++ [e] else s.emptied })

def sweepStopped (t : Tracker) (s : Summary) (c : ContainerId) : Tracker × Summary :=
  if t.isPurgeable c then t.purge s c
  else if c ∈ t.crashed then (t, s)
  else
    ({ t with crashed := t.crashed.insert c },
      { s with
        newlyCrashed := s.newlyCrashed ++ [c]
        stoppedUnexpectedly := s.stoppedUnexpectedly ++ [c] })

def isStale (t : Tracker) (staleness : Int) (now : Instant) (c : ContainerId) (last : Instant) :
    Bool :=
  !t.crashed.contains c && !t.terminating.contains c && decide (staleness < now - last)

def stale (t : Tracker) (staleness : Int) (now : Instant) : List ContainerId :=
  (t.lastBeat.toList.filter fun (c, last) => t.isStale staleness now c last).map Prod.fst

def crashAll (t : Tracker) (s : Summary) (cs : List ContainerId) : Tracker × Summary :=
  ({ t with crashed := cs.foldl (fun crashed c => crashed.insert c) t.crashed },
    { s with newlyCrashed := s.newlyCrashed ++ cs })

def sweep (t : Tracker) (staleness : Int) (isStopped : ContainerId → Bool) (now : Instant) :
    Tracker × Summary :=
  let (t, s) := (t.containers.filter isStopped).foldl (fun (t, s) c => t.sweepStopped s c) (t, {})
  t.crashAll s (t.stale staleness now)

end AgentFleet.Tracker
