import AgentFleet.Engine.Session
import AgentFleet.Proofs.Engine.Listing
import AgentFleet.Text.Character

/-!
The container engine, as far as the containers of this service go. A command that succeeds does what
it says, to all containers that it names; one that fails may have done it to some of them, and one
that was not started has done nothing. A list is printed in any order.
-/

namespace AgentFleet.Engine

inductive Status where
  | created
  | running
  | paused
  | restarting
  | removing
  | exited
  | dead
  deriving DecidableEq, Repr

namespace Status

def isUnused : Status → Bool
  | created | exited | dead => true
  | _ => false

/-- Whether the container is on a list that leaves out stopped ones. -/
def isUp : Status → Bool
  | running | paused | restarting => true
  | _ => false

end Status

structure Container where
  execution : ExecutionId
  status : Status
  deriving DecidableEq, Repr

/-- The containers that carry the label of this service, by name. -/
abbrev Containers := Std.ExtTreeMap ContainerId Container compare

/-- The engine refuses names with other characters. -/
def Nameable (name : String) : Prop :=
  ∀ c ∈ name.toList, Text.isAsciiLetter c = true ∨ Text.isAsciiDigit c = true ∨
    c = '_' ∨ c = '.' ∨ c = '-'

instance (name : String) : Decidable (Nameable name) :=
  List.decidableBAll _ name.toList

/-! ### What commands say -/

inductive Instruction where
  | create (name : ContainerId) (e : ExecutionId)
  | start (names : List ContainerId)
  | stop (names : List ContainerId)
  | remove (names : List ContainerId)
  | list (e : ExecutionId) (stoppedToo : Bool)
  | listUnused
  | other

def valueOf (key argument : String) : String :=
  String.ofList (argument.toList.drop key.toList.length)

def labelKey : String := executionLabelKey ++ "="

def Command.instruction : Command → Instruction
  | "create" :: "--name" :: name :: "--label" :: _ :: "--label" :: label :: _ =>
    .create name (valueOf labelKey label)
  | "start" :: names => .start names
  | "stop" :: names => .stop names
  | "rm" :: "--force" :: names => .remove names
  | ["ps", "--filter", label, "--format", _] => .list (valueOf ("label=" ++ labelKey) label) false
  | ["ps", "--all", "--filter", label, "--format", _] =>
    .list (valueOf ("label=" ++ labelKey) label) true
  | "ps" :: "--all" :: "--filter" :: _ :: "--filter" :: _ => .listUnused
  | _ => .other

@[simp] theorem valueOf_append (key value : String) : valueOf key (key ++ value) = value := by
  simp [valueOf]

section Instructions

variable (e : ExecutionId) (name : String) (names : List ContainerId) (plan : ContainerPlan)

@[simp] theorem instruction_createContainer (network : Option String) :
    (createContainer e name plan network).instruction = .create name e :=
  congrArg (Instruction.create name) (valueOf_append labelKey e)

@[simp] theorem instruction_listContainers (stoppedToo : Bool) :
    (listContainers e stoppedToo).instruction = .list e stoppedToo := by
  have he : valueOf ("label=" ++ labelKey) ("label=" ++ executionLabel e) = e := by
    rw [executionLabel, ← labelKey, ← String.append_assoc, valueOf_append]
  cases stoppedToo <;> exact congrArg (Instruction.list · _) he

@[simp] theorem instruction_startContainers : (startContainers names).instruction = .start names :=
  rfl

@[simp] theorem instruction_stopContainers : (stopContainers names).instruction = .stop names :=
  rfl

@[simp] theorem instruction_removeContainers :
    (removeContainers names).instruction = .remove names := rfl

@[simp] theorem instruction_listUnused : listUnused.instruction = .listUnused := rfl

@[simp] theorem instruction_createVolume : (createVolume e plan).instruction = .other := rfl

@[simp] theorem instruction_inspectState : (inspectState name).instruction = .other := rfl

@[simp] theorem instruction_removeVolume : (removeVolume name).instruction = .other := rfl

@[simp] theorem instruction_forgetVolume : (forgetVolume name).instruction = .other := rfl

@[simp] theorem instruction_listVolumes : listVolumes.instruction = .other := rfl

end Instructions

/-! ### What the engine does -/

namespace Instruction

def setStatus (status : Status) (names : List ContainerId) (containers : Containers) :
    Containers :=
  containers.map fun name x => if name ∈ names then { x with status := status } else x

def effect : Instruction → Containers → Containers
  | create name e, containers =>
    if name ∈ containers ∨ ¬ Nameable name then containers
    else containers.insert name ⟨e, .created⟩
  | start names, containers => setStatus .running names containers
  | stop names, containers => setStatus .exited names containers
  | remove names, containers => containers.filter fun name _ => name ∉ names
  | _, containers => containers

/-- Only then can all be done. -/
def Admitted (containers : Containers) : Instruction → Prop
  | create name _ => name ∉ containers ∧ Nameable name
  | start names => ∀ name ∈ names, name ∈ containers
  | _ => True

instance (containers : Containers) : (i : Instruction) → Decidable (i.Admitted containers)
  | create name _ => inferInstanceAs (Decidable (name ∉ containers ∧ Nameable name))
  | start names => List.decidableBAll (· ∈ containers) names
  | stop _ | remove _ | list _ _ | listUnused | other => isTrue trivial

def unused (containers : Containers) : List Row :=
  containers.toList.filterMap fun (name, x) =>
    if x.status.isUnused then some (name, x.execution) else none

def listed (e : ExecutionId) (stoppedToo : Bool) (containers : Containers) : List ContainerId :=
  containers.toList.filterMap fun (name, x) =>
    if x.execution = e ∧ (stoppedToo || x.status.isUp) then some name else none

def printedNames (names : List ContainerId) : String :=
  String.ofList (names.flatMap fun name => name.toList ++ ['\n'])

/-- What is printed, if all is done. -/
def Prints (containers : Containers) (text : String) : Instruction → Prop
  | list e stoppedToo => ∃ names, names.Perm (listed e stoppedToo containers) ∧
    text = printedNames names
  | listUnused => ∃ rows, rows.Perm (unused containers) ∧ text = printed rows
  | _ => True

/-- Each container is left as it was, or what is to be done was done to it. -/
def InPart (i : Instruction) (before after : Containers) : Prop :=
  ∀ name : ContainerId, after[name]? = before[name]? ∨ after[name]? = (i.effect before)[name]?

end Instruction

/-- How the engine may answer a command, and what it may leave. -/
inductive Answers (c : Command) (before : Containers) :
    Except String Output → Containers → Prop
  | done {stdout stderr : String} : c.instruction.Admitted before →
    c.instruction.Prints before stdout →
    Answers c before (.ok ⟨true, stdout, stderr⟩) (c.instruction.effect before)
  | failed {stdout stderr : String} {after : Containers} : c.instruction.InPart before after →
    Answers c before (.ok ⟨false, stdout, stderr⟩) after
  | unstarted {reason : String} : Answers c before (.error reason) before

/-- A way in which the engine may work. -/
structure Conduct where
  run : Command → Containers → Except String Output × Containers
  answers : ∀ c before, Answers c before (run c before).1 (run c before).2

namespace Instruction

def text (containers : Containers) : Instruction → String
  | list e stoppedToo => printedNames (listed e stoppedToo containers)
  | listUnused => printed (unused containers)
  | _ => ""

theorem prints_text (containers : Containers) (i : Instruction) :
    i.Prints containers (i.text containers) := by
  cases i with
  | list e stoppedToo => exact ⟨_, .refl _, rfl⟩
  | listUnused => exact ⟨_, .refl _, rfl⟩
  | _ => trivial

end Instruction

/-- The engine does all that it can do, and nothing else. -/
def Conduct.obedient : Conduct where
  run c before :=
    if c.instruction.Admitted before then
      (.ok ⟨true, c.instruction.text before, ""⟩, c.instruction.effect before)
    else (.ok ⟨false, "", "refused"⟩, before)
  answers c before := by
    split
    next hyes => exact .done hyes (Instruction.prints_text before _)
    next => exact .failed fun name => .inl rfl

section Effects

variable {i : Instruction} {containers before after : Containers} {name : ContainerId}
  {x : Container} {e : ExecutionId} {c : Command} {outcome : Except String Output}

namespace Instruction

theorem getElem?_setStatus {status : Status} {names : List ContainerId} :
    (setStatus status names containers)[name]? =
      containers[name]?.map fun x => if name ∈ names then { x with status := status } else x :=
  Std.ExtTreeMap.getElem?_map

theorem getElem?_remove {names : List ContainerId} :
    ((remove names).effect containers)[name]? =
      if name ∈ names then none else containers[name]? := by
  refine Std.ExtTreeMap.getElem?_filter'.trans ?_
  split
  next hyes => simp [hyes]
  next hno => cases containers[name]? <;> simp [hno]

theorem exists_of_effect (h : (i.effect containers)[name]? = some x) :
    (∃ y, containers[name]? = some y ∧ y.execution = x.execution) ∨
      i = .create name x.execution ∧ Nameable name := by
  cases i with
  | create name' e =>
    simp only [effect] at h
    split at h
    next => exact .inl ⟨x, h, rfl⟩
    next hno =>
      rw [Std.ExtTreeMap.getElem?_insert] at h
      split at h
      next heq =>
        obtain rfl := Std.LawfulEqCmp.eq_of_compare heq
        cases h
        exact .inr ⟨rfl, Classical.not_not.mp (not_or.mp hno).2⟩
      next => exact .inl ⟨x, h, rfl⟩
  | start names | stop names =>
    rw [effect, getElem?_setStatus] at h
    obtain ⟨y, hy, rfl⟩ := Option.map_eq_some_iff.mp h
    refine .inl ⟨y, hy, ?_⟩
    split <;> rfl
  | remove names =>
    rw [getElem?_remove] at h
    split at h
    next => cases h
    next => exact .inl ⟨x, h, rfl⟩
  | list | listUnused | other => exact .inl ⟨x, h, rfl⟩

theorem removed_of_effect (h : containers[name]? = some x)
    (hgone : (i.effect containers)[name]? = none) : ∃ names, i = .remove names ∧ name ∈ names := by
  cases i with
  | create name' e =>
    simp only [effect] at hgone
    split at hgone
    next => simp [h] at hgone
    next =>
      rw [Std.ExtTreeMap.getElem?_insert, h] at hgone
      split at hgone <;> cases hgone
  | start names | stop names =>
    rw [effect, getElem?_setStatus, h] at hgone
    cases hgone
  | remove names =>
    rw [getElem?_remove, h] at hgone
    split at hgone
    next hmem => exact ⟨names, rfl, hmem⟩
    next => cases hgone
  | list | listUnused | other => simp [effect, h] at hgone

theorem mem_unused_iff {r : Row} :
    r ∈ unused containers ↔
      ∃ status, containers[r.1]? = some ⟨r.2, status⟩ ∧ status.isUnused = true := by
  obtain ⟨name, e⟩ := r
  simp only [unused, List.mem_filterMap, Prod.exists]
  constructor
  · rintro ⟨name', ⟨e', status⟩, hmem, hsome⟩
    split at hsome
    next hunused =>
      cases hsome
      exact ⟨status, Std.ExtTreeMap.mem_toList_iff_getElem?_eq_some.mp hmem, hunused⟩
    next => cases hsome
  · rintro ⟨status, hx, hunused⟩
    exact ⟨name, _, Std.ExtTreeMap.mem_toList_iff_getElem?_eq_some.mpr hx, if_pos hunused⟩

end Instruction

namespace Answers

theorem of_success {output : Output} (h : Answers c before (.ok output) after)
    (hsuccess : output.success = true) :
    c.instruction.Prints before output.stdout ∧ after = c.instruction.effect before := by
  cases h with
  | done _ hprints => exact ⟨hprints, rfl⟩
  | failed => cases hsuccess

theorem inPart (h : Answers c before outcome after) : c.instruction.InPart before after := by
  cases h with
  | done => exact fun name => .inr rfl
  | failed hpart => exact hpart
  | unstarted => exact fun name => .inl rfl

theorem exists_before (h : Answers c before outcome after) (hx : after[name]? = some x) :
    (∃ y, before[name]? = some y ∧ y.execution = x.execution) ∨
      c.instruction = .create name x.execution ∧ Nameable name := by
  rcases h.inPart name with hsame | hdone
  · exact .inl ⟨x, hsame ▸ hx, rfl⟩
  · exact Instruction.exists_of_effect (hdone ▸ hx)

theorem removed (h : Answers c before outcome after) (hx : before[name]? = some x)
    (hgone : after[name]? = none) : ∃ names, c.instruction = .remove names ∧ name ∈ names := by
  rcases h.inPart name with hsame | hdone
  · rw [hsame, hx] at hgone
    cases hgone
  · exact Instruction.removed_of_effect hx (hdone ▸ hgone)

end Answers

end Effects

end AgentFleet.Engine
