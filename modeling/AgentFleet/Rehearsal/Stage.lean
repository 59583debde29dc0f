import AgentFleet.Rehearsal.Script
import AgentFleet.Service.Routines

/-!
Rehearsals: the service with a scripted backend and runner, on a clock that moves only while
something waits for it. An activity runs until it sleeps or ends; of the activities that are due the
one that was put to sleep first goes on. Work itself takes no time.
-/

namespace AgentFleet

namespace Rehearsal

structure Made where
  timer : Nat
  call : BackendCall ⊕ RunnerCall

structure Sleeper where
  due : Nat
  /-- Tells which of two activities was put to sleep first. -/
  order : Nat
  activity : Activity Unit

structure Loop where
  routine : Routine
  period : Nat
  due : Nat
  order : Nat

structure Stage where
  settings : Settings
  service : Service := {}
  script : Script := {}
  /-- The time of the world, which stands still unless it is set. -/
  wall : Instant := 0
  /-- The timer, in milliseconds. -/
  timer : Nat := 0
  /-- How often the memory has been used; the steady clock counts this. -/
  uses : Nat := 0
  sleepers : List Sleeper := []
  loops : List Loop := []
  nextOrder : Nat := 0
  /-- The calls that were made, the last one first. -/
  made : List Made := []

namespace Stage

def clock (st : Stage) : Clock := ⟨st.wall, st.uses, st.timer⟩

def backend (st : Stage) (call : BackendCall) : call.Answer × Stage :=
  let (answer, script) := st.script.backend call
  (answer, { st with script := script, made := ⟨st.timer, .inl call⟩ :: st.made })

def runner (st : Stage) (call : RunnerCall) : call.Answer × Nat × Stage :=
  let (answer, script) := st.script.runner call
  (answer, st.script.delayMillis call,
    { st with script := script, made := ⟨st.timer, .inr call⟩ :: st.made })

def memory (st : Stage) (op : Local) : op.Answer × Stage :=
  let (answer, service) := op.apply st.clock st.service
  (answer, { st with service := service, uses := st.uses + 1 })

def addSleeper (st : Stage) (due : Nat) (activity : Activity Unit) : Stage :=
  { st with
    sleepers := st.sleepers ++ [⟨due, st.nextOrder, activity⟩]
    nextOrder := st.nextOrder + 1 }

inductive Progress (α : Type) where
  | finished (a : α)
  | asleep (due : Nat) (rest : Activity α)

/-- Runs an activity until it sleeps or ends. -/
def drive {α : Type} : Activity α → Stage → Progress α × Stage
  | .done a, st => (.finished a, st)
  | .ask (.backend call) next, st =>
    let (answer, st) := st.backend call
    drive (next answer) st
  | .ask (.runner call) next, st =>
    let (answer, delay, st) := st.runner call
    if delay = 0 then drive (next answer) st
    else (.asleep (st.timer + delay) (next answer), st)
  | .ask (.runnerUntil deadline call) next, st =>
    let (answer, delay, st) := st.runner call
    if delay = 0 then drive (next (some answer)) st
    else if deadline < st.timer + delay then (.asleep deadline (next none), st)
    else (.asleep (st.timer + delay) (next (some answer)), st)
  | .ask (.memory op) next, st =>
    let (answer, st) := st.memory op
    drive (next answer) st
  | .ask (.sleep millis) next, st =>
    if millis = 0 then drive (next ()) st else (.asleep (st.timer + millis) (next ()), st)
  | .ask (.spawn job) next, st =>
    drive (next ()) (st.addSleeper st.timer (job.activity st.settings))

def goOn (st : Stage) (activity : Activity Unit) : Stage :=
  match drive activity st with
  | (.finished (), st) => st
  | (.asleep due rest, st) => st.addSleeper due rest

inductive Event where
  | wake (s : Sleeper)
  | tick (l : Loop)

def Event.due : Event → Nat
  | wake s => s.due
  | tick l => l.due

def Event.order : Event → Nat
  | wake s => s.order
  | tick l => l.order

def Event.before (a b : Event) : Bool := a.due < b.due || (a.due = b.due && a.order < b.order)

def firstEvent : List Event → Option Event
  | [] => none
  | e :: es =>
    match firstEvent es with
    | none => some e
    | some first => if first.before e then some first else some e

def nextEvent (st : Stage) : Option Event :=
  firstEvent (st.sleepers.map .wake ++ st.loops.map .tick)

def happen (st : Stage) (e : Event) : Stage :=
  let st := { st with timer := max st.timer e.due }
  match e with
  | .wake s =>
    { st with sleepers := st.sleepers.filter (·.order ≠ s.order) }.goOn s.activity
  | .tick l =>
    let st := { st with loops := st.loops.filter (·.order ≠ l.order) }
    let st := st.goOn (l.routine.activity st.settings st.wall)
    { st with
      loops := st.loops ++ [{ l with due := l.due + l.period, order := st.nextOrder }]
      nextOrder := st.nextOrder + 1 }

/-- The most events that one step of a rehearsal may bring. -/
def patience : Nat := 1000000

def upTo (time : Nat) : Nat → Stage → Stage
  | 0, st => st
  | fuel + 1, st =>
    match st.nextEvent with
    | none => st
    | some e => if e.due ≤ time then upTo time fuel (st.happen e) else st

def settle (st : Stage) : Stage := st.upTo st.timer patience

def advance (st : Stage) (millis : Nat) : Stage :=
  let time := st.timer + millis
  let st := st.upTo time patience
  { st with timer := max st.timer time }.settle

def await {α : Type} : Nat → Nat → Nat → Activity α → Stage → Option α × Stage
  | 0, _, _, _, st => (none, st)
  | fuel + 1, due, order, activity, st =>
    let earlier := match st.nextEvent with
      | some e => if e.due < due ∨ (e.due = due ∧ e.order < order) then some e else none
      | none => none
    match earlier with
    | some e => await fuel due order activity (st.happen e)
    | none =>
      match drive activity { st with timer := max st.timer due } with
      | (.finished a, st) => (some a, st)
      | (.asleep due rest, st) =>
        await fuel due st.nextOrder rest { st with nextOrder := st.nextOrder + 1 }

def run {α : Type} (st : Stage) (activity : Activity α) : Option α × Stage :=
  let begun := { st with nextOrder := st.nextOrder + 1 }
  let (a, st) := await patience st.timer st.nextOrder activity begun
  (a, st.settle)

/-- Starts a routine; it is done for the first time at once, or never if it cannot turn. -/
def startLoop (st : Stage) (routine : Routine) (period : Nat) : Stage :=
  if Routine.CanTurn period then
    let loop : Loop := ⟨routine, period, st.timer, st.nextOrder⟩
    { st with loops := st.loops ++ [loop], nextOrder := st.nextOrder + 1 }.settle
  else st.settle

def cancel (st : Stage) : Nat × Stage := (st.loops.length, { st with loops := [] })

end Stage

end Rehearsal

end AgentFleet
