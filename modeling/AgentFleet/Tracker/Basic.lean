import Std.Data.ExtTreeMap
import AgentFleet.Engine.Listing
import AgentFleet.Fault
import AgentFleet.Model.Agent

/-!
The tracker of containers: which execution owns each, when it was last heard from, and what is known
of its end. A container may be marked as crashed, a crash as handled, and a container as terminating
once it has been told to end.

The tracker keeps six indexes. `Consistent` says how they agree: the sets of containers are what the
owners say, no execution is kept without a container, exactly the owned containers have a last beat,
and only they have marks.
-/

namespace AgentFleet

/-- A point in time, in nanoseconds since 1970. -/
abbrev Instant := Int

structure Tracker where
  /-- The containers of each execution. -/
  members : Std.ExtTreeMap ExecutionId Names compare := ∅
  owner : Std.ExtTreeMap ContainerId ExecutionId compare := ∅
  /-- When each container was last heard from. -/
  lastBeat : Std.ExtTreeMap ContainerId Instant compare := ∅
  crashed : Names := ∅
  /-- Crashed containers whose crash has been dealt with. -/
  handled : Names := ∅
  /-- Containers that were told to end. -/
  terminating : Names := ∅
  deriving DecidableEq, Repr

namespace Tracker

inductive Refusal where
  /-- A container cannot move from one execution to another. -/
  | ownedElsewhere (c : ContainerId) (owner e : ExecutionId)
  | notTracked (c : ContainerId)
  deriving DecidableEq, Repr

def Refusal.fault : Refusal → Fault
  | ownedElsewhere c owner e =>
    ⟨.invariant, "container " ++ c ++ " belongs to execution " ++ owner ++
      ", refusing to move it to " ++ e⟩
  | notTracked c => ⟨.notFound, "container " ++ c ++ " is not tracked"⟩

def empty : Tracker := {}

/-- How the indexes agree. -/
structure Consistent (t : Tracker) : Prop where
  members_iff : ∀ (e : ExecutionId) (c : ContainerId),
    (∃ s : Names, t.members[e]? = some s ∧ c ∈ s) ↔ t.owner[c]? = some e
  members_ne_empty : ∀ e : ExecutionId, t.members[e]? ≠ some ∅
  lastBeat_iff : ∀ c : ContainerId, c ∈ t.lastBeat ↔ c ∈ t.owner
  crashed_owned : ∀ c ∈ t.crashed, c ∈ t.owner
  handled_crashed : ∀ c ∈ t.handled, c ∈ t.crashed
  terminating_owned : ∀ c ∈ t.terminating, c ∈ t.owner

/-! ### Queries -/

def containersOf (t : Tracker) (e : ExecutionId) : Names := t.members.getD e ∅

def containsAny (t : Tracker) (e : ExecutionId) : Bool := !(t.containersOf e).isEmpty

/-- Whether an execution has a container that has not crashed. -/
def hasLive (t : Tracker) (e : ExecutionId) : Bool :=
  (t.containersOf e).toList.any fun c => !t.crashed.contains c

def containers (t : Tracker) : List ContainerId := t.owner.keys

def executions (t : Tracker) : List ExecutionId := t.members.keys

/-- Whether all containers of an execution have crashed, and it has any. -/
def isLost (t : Tracker) (e : ExecutionId) : Bool :=
  t.containsAny e && (t.containersOf e).toList.all fun c => t.crashed.contains c

def lost (t : Tracker) : List ExecutionId := t.executions.filter t.isLost

/-! ### Changes -/

def adopt (t : Tracker) (e : ExecutionId) (c : ContainerId) : Tracker :=
  { t with
    owner := t.owner.insert c e
    members := t.members.insert e ((t.containersOf e).insert c) }

/-- Registers a container, or notes that it was heard from. -/
def upsert (t : Tracker) (e : ExecutionId) (c : ContainerId) (time : Instant) :
    Except Refusal Tracker :=
  match t.owner[c]? with
  | some owner =>
    if owner = e then .ok { t with lastBeat := t.lastBeat.insert c time }
    else .error (.ownedElsewhere c owner e)
  | none =>
    let t := t.adopt e c
    .ok { t with lastBeat := t.lastBeat.insert c time }

/-- Marks a container as crashed; it no longer counts as terminating. -/
def markCrashed (t : Tracker) (c : ContainerId) : Except Refusal Tracker :=
  if c ∈ t.owner then
    .ok { t with crashed := t.crashed.insert c, terminating := t.terminating.erase c }
  else .error (.notTracked c)

/-- Marks a container as terminating; tells whether it was not yet. -/
def markTerminating (t : Tracker) (c : ContainerId) : Except Refusal (Bool × Tracker) :=
  if c ∈ t.owner then
    .ok (!t.terminating.contains c, { t with terminating := t.terminating.insert c })
  else .error (.notTracked c)

/-- Marks the crash of a container as handled, if it has crashed. -/
def markHandled (t : Tracker) (c : ContainerId) : Tracker :=
  if c ∈ t.crashed then { t with handled := t.handled.insert c } else t

def markAllHandled (t : Tracker) (cs : List ContainerId) : Tracker := cs.foldl markHandled t

/-- An execution's containers without one of them; an execution without containers is not kept. -/
def dropMember (members : Std.ExtTreeMap ExecutionId Names compare) (e : ExecutionId)
    (c : ContainerId) : Std.ExtTreeMap ExecutionId Names compare :=
  match members[e]? with
  | none => members
  | some s => if (s.erase c).isEmpty then members.erase e else members.insert e (s.erase c)

/-- Removes a container from all indexes. -/
def delete (t : Tracker) (c : ContainerId) : Tracker :=
  match t.owner[c]? with
  | none => t
  | some e =>
    { members := dropMember t.members e c
      owner := t.owner.erase c
      lastBeat := t.lastBeat.erase c
      crashed := t.crashed.erase c
      handled := t.handled.erase c
      terminating := t.terminating.erase c }

def deleteAll (t : Tracker) (cs : List ContainerId) : Tracker := cs.foldl delete t

def deleteExecution (t : Tracker) (e : ExecutionId) : Tracker :=
  let t := t.deleteAll (t.containersOf e).toList
  { t with members := t.members.erase e }

end Tracker

end AgentFleet
