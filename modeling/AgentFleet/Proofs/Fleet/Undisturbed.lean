import AgentFleet.Proofs.Fleet.Scope
import AgentFleet.Proofs.Fleet.Solo

/-!
How an activity may go while nothing else happens. Unlike a course, which is told by one clock and
by an answer for each question, a way to go is open: time may pass between any two questions, and
what is not asked of the memory may be answered in any way, the same question differently each time.
-/

namespace AgentFleet

structure Asked where
  clock : Clock
  act : Act
  answer : act.Answer

namespace Act

def backendCall? : Act → Option BackendCall
  | backend call => some call
  | _ => none

def runnerCall? : Act → Option RunnerCall
  | runner call => some call
  | runnerUntil _ call => some call
  | _ => none

end Act

def backendCalls (asked : List Asked) : List BackendCall := asked.filterMap (·.act.backendCall?)

def runnerCalls (asked : List Asked) : List RunnerCall := asked.filterMap (·.act.runnerCall?)

/-- No time passes meanwhile. -/
def AtOnce (clock : Clock) (asked : List Asked) : Prop := ∀ x ∈ asked, x.clock = clock

section Calls

variable {x : Asked} {asked later : List Asked} {clock : Clock}

@[simp] theorem backendCalls_append :
    backendCalls (asked ++ later) = backendCalls asked ++ backendCalls later :=
  List.filterMap_append

@[simp] theorem runnerCalls_append :
    runnerCalls (asked ++ later) = runnerCalls asked ++ runnerCalls later := List.filterMap_append

theorem backendCalls_cons :
    backendCalls (x :: asked) = x.act.backendCall?.toList ++ backendCalls asked := by
  unfold backendCalls
  rw [List.filterMap_cons]
  cases x.act.backendCall? <;> rfl

theorem runnerCalls_cons :
    runnerCalls (x :: asked) = x.act.runnerCall?.toList ++ runnerCalls asked := by
  unfold runnerCalls
  rw [List.filterMap_cons]
  cases x.act.runnerCall? <;> rfl

theorem atOnce_append : AtOnce clock (asked ++ later) ↔ AtOnce clock asked ∧ AtOnce clock later :=
  List.forall_mem_append

end Calls

namespace Procedure

variable {α β : Type} {p : Activity α} {f : α → Activity β} {before after : Service}
  {asked : List Asked} {value : α}

/-- The activity may go this way. -/
def Proceeds : Procedure Act Act.Answer α → Service → List Asked → α → Service → Prop
  | done a, before, asked, value, after => asked = [] ∧ a = value ∧ before = after
  | ask act next, before, asked, value, after => ∃ clock reply later,
    asked = ⟨clock, act, (act.perform clock before reply).1⟩ :: later ∧
      (next (act.perform clock before reply).1).Proceeds (act.perform clock before reply).2 later
        value after

theorem proceeds_bind {value : β} :
    (p >>= f).Proceeds before asked value after ↔ ∃ a middle first later, asked = first ++ later ∧
      p.Proceeds before first a middle ∧ (f a).Proceeds middle later value after := by
  induction p generalizing before asked with
  | done a =>
    constructor
    · exact fun h => ⟨a, before, [], asked, rfl, ⟨rfl, rfl, rfl⟩, h⟩
    · rintro ⟨_, _, _, later, rfl, ⟨rfl, rfl, rfl⟩, h⟩
      exact h
  | ask act next ih =>
    constructor
    · rintro ⟨clock, reply, rest, rfl, h⟩
      obtain ⟨a, middle, first, later, rfl, hp, hf⟩ := (ih _).mp h
      exact ⟨a, middle, _ :: first, later, rfl, ⟨clock, reply, first, rfl, hp⟩, hf⟩
    · rintro ⟨a, middle, _, later, rfl, ⟨clock, reply, first, rfl, hp⟩, hf⟩
      exact ⟨clock, reply, first ++ later, rfl, (ih _).mpr ⟨a, middle, first, later, rfl, hp, hf⟩⟩

section Questions

variable {value : β}

theorem proceeds_act_bind {act : Act} {f : act.Answer → Activity β} :
    (Activity.act act >>= f).Proceeds before asked value after ↔ ∃ clock reply later,
      asked = ⟨clock, act, (act.perform clock before reply).1⟩ :: later ∧
        (f (act.perform clock before reply).1).Proceeds (act.perform clock before reply).2 later
          value after := Iff.rfl

theorem proceeds_backend_bind {call : BackendCall} {f : call.Answer → Activity β} :
    (Activity.backend call >>= f).Proceeds before asked value after ↔ ∃ clock answer later,
      asked = ⟨clock, .backend call, answer⟩ :: later ∧
        (f answer).Proceeds before later value after := Iff.rfl

theorem proceeds_runner_bind {call : RunnerCall} {f : call.Answer → Activity β} :
    (Activity.runner call >>= f).Proceeds before asked value after ↔ ∃ clock answer later,
      asked = ⟨clock, .runner call, answer⟩ :: later ∧
        (f answer).Proceeds before later value after := Iff.rfl

theorem Proceeds.of_tracker_bind {op : Tracker.Operation} {f : op.Answer → Activity β}
    (h : (Activity.tracker op >>= f).Proceeds before asked value after) : ∃ clock later,
      asked = ⟨clock, .memory (.tracker op), (op.apply before.tracker).1⟩ :: later ∧
        (f (op.apply before.tracker).1).Proceeds
          { before with tracker := (op.apply before.tracker).2 } later value after := by
  obtain ⟨clock, _, later, h⟩ := h
  exact ⟨clock, later, h⟩

end Questions

theorem proceeds_bind_pure {f : α → β} {value : β} :
    (p >>= fun a => pure (f a)).Proceeds before asked value after ↔
      ∃ a, value = f a ∧ p.Proceeds before asked a after := by
  constructor
  · intro h
    obtain ⟨a, _, first, _, rfl, hp, rfl, rfl, rfl⟩ := proceeds_bind.mp h
    exact ⟨a, rfl, by rwa [List.append_nil]⟩
  · rintro ⟨a, rfl, hp⟩
    exact proceeds_bind.mpr ⟨a, after, asked, [], (List.append_nil _).symm, hp, rfl, rfl, rfl⟩

theorem proceeds_discard :
    (discard p).Proceeds before asked () after ↔ ∃ value, p.Proceeds before asked value after :=
  proceeds_bind_pure.trans (exists_congr fun _ => and_iff_right rfl)

theorem Asks.of_proceeds {P : Act → Prop} (hp : p.Asks P)
    (h : p.Proceeds before asked value after) : ∀ x ∈ asked, P x.act := by
  induction p generalizing before asked with
  | done a =>
    obtain ⟨rfl, -, -⟩ := h
    exact List.forall_mem_nil _
  | ask act next ih =>
    obtain ⟨clock, reply, later, rfl, h⟩ := h
    exact List.forall_mem_cons.mpr ⟨hp.1, ih _ (hp.2 _) h⟩

def asksAlone (clock : Clock) (reply : (act : Act) → act.Answer) :
    Procedure Act Act.Answer α → Service → List Asked
  | done _, _ => []
  | ask act next, before =>
    ⟨clock, act, (act.perform clock before (reply act)).1⟩ ::
      (next (act.perform clock before (reply act)).1).asksAlone clock reply
        (act.perform clock before (reply act)).2

/-- Every course is a way to go, so there always is one. -/
theorem proceeds_alone (p : Activity α) (clock : Clock) (reply : (act : Act) → act.Answer)
    (before : Service) :
    p.Proceeds before (p.asksAlone clock reply before) (p.alone clock reply before).value
      (p.alone clock reply before).service := by
  induction p generalizing before with
  | done a => exact ⟨rfl, rfl, rfl⟩
  | ask act next ih => exact ⟨clock, reply act, _, rfl, ih _ _⟩

theorem atOnce_asksAlone (p : Activity α) (clock : Clock) (reply : (act : Act) → act.Answer)
    (before : Service) : AtOnce clock (p.asksAlone clock reply before) := by
  induction p generalizing before with
  | done a => exact List.forall_mem_nil _
  | ask act next ih => exact List.forall_mem_cons.mpr ⟨rfl, ih _ _⟩

/-! ### The tracker -/

theorem Proceeds.tracker_eq (h : p.Proceeds before asked value after) :
    after.tracker = before.tracker.after (asked.flatMap (·.act.operations)) := by
  induction p generalizing before asked with
  | done a =>
    obtain ⟨rfl, -, rfl⟩ := h
    rfl
  | ask act next ih =>
    obtain ⟨clock, reply, later, rfl, h⟩ := h
    rw [List.flatMap_cons, Tracker.after_append, ih _ h]
    exact congrArg (Tracker.after · _) (Fleet.tracker_perform clock before act reply)

theorem Proceeds.consistent (h : p.Proceeds before asked value after)
    (hcons : before.tracker.Consistent) : after.tracker.Consistent := by
  rw [h.tracker_eq]
  exact hcons.after _

theorem Proceeds.standing_of (h : p.Proceeds before asked value after)
    (hcons : before.tracker.Consistent) {c : ContainerId} {I : Option Tracker.Standing → Prop}
    (hI : ∀ x ∈ asked, ∀ op ∈ x.act.operations, ∀ known, I known → I (op.affect c known))
    (hc : I (before.tracker.standing c)) : I (after.tracker.standing c) := by
  rw [h.tracker_eq]
  refine hcons.standing_after_of (fun op hop => ?_) hc
  obtain ⟨x, hx, hop⟩ := List.mem_flatMap.mp hop
  exact hI x hx op hop

/-! ### Procedures that may end early -/

theorem proceeds_run_bind {ε : Type} {x : ExceptT ε (Procedure Act Act.Answer) α}
    {f : α → ExceptT ε (Procedure Act Act.Answer) β} {r : Except ε β} :
    (x >>= f).run.Proceeds before asked r after ↔ ∃ r' middle first later, asked = first ++ later ∧
      x.run.Proceeds before first r' middle ∧
      match r' with
      | .ok a => (f a).run.Proceeds middle later r after
      | .error e => later = [] ∧ .error e = r ∧ middle = after := by
  rw [ExceptT.run_bind, proceeds_bind]
  refine exists_congr fun r' => ?_
  cases r' <;> rfl

theorem proceeds_ofExcept {r r' : Except Fault α} :
    (Attempt.ofExcept r).run.Proceeds before asked r' after ↔
      asked = [] ∧ r = r' ∧ before = after := by
  cases r <;> rfl

end Procedure

end AgentFleet
