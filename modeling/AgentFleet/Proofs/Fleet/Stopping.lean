import AgentFleet.Proofs.Fleet.Undisturbed
import AgentFleet.Proofs.Tracker.Removal

/-!
What a request to stop containers comes to. They are stopped one after the other, and a container
may be listed again or not be known at all. One that cannot be stopped is passed over; one that was
stopped is reported, whatever comes of the report, and no longer tracked. Just these are answered.
-/

namespace AgentFleet

open Procedure Activity

/-- How it went with a container that is to be stopped: the runner failed, or the container was
stopped, whether there was something to stop or not, and the backend was told about it. -/
inductive Stop where
  | failed (c : ContainerId) (fault : Fault)
  | done (c : ContainerId) (running : Bool) (told : Except Fault Unit)

namespace Stop

def container : Stop → ContainerId
  | failed c _ | done c _ _ => c

def stopped? : Stop → Option ContainerId
  | failed _ _ => none
  | done c _ _ => some c

def stopped (stops : List Stop) : List ContainerId := stops.filterMap stopped?

inductive Asks : Tracker → List Stop → List Asked → Prop
  | none {t : Tracker} : Asks t [] []
  | failed {t : Tracker} {c : ContainerId} {fault : Fault} {stops : List Stop} {asked : List Asked}
      (clock : Clock) :
    Asks t stops asked →
    Asks t (.failed c fault :: stops) (⟨clock, .runner (.stopAgent c), .error fault⟩ :: asked)
  | done {t : Tracker} {c : ContainerId} {running : Bool} {told : Except Fault Unit}
      {stops : List Stop} {asked : List Asked} (stopping looking telling dropping : Clock) :
    Asks (t.delete c) stops asked →
    Asks t (.done c running told :: stops)
      (⟨stopping, .runner (.stopAgent c), .ok running⟩ :: ⟨looking, .memory .clock, looking⟩ ::
        ⟨telling, .backend (.reportState c .stoppedByOrch looking.wall.timestamp), told⟩ ::
        ⟨dropping, .memory (.tracker (.delete c)), t.owner.contains c⟩ :: asked)

end Stop

/-- A request to stop containers, when it goes like this with each of them. -/
structure StopsHonoured (stops : List Stop) (before : Service) (asked : List Asked)
    (response : Api.Response) (after : Service) : Prop where
  asks : Stop.Asks before.tracker stops asked
  answered : response = ⟨200, (Json.strings (Stop.stopped stops)).text⟩
  /-- Each container is tried, as often as it is listed. -/
  tried : runnerCalls asked = stops.map fun stop => .stopAgent stop.container
  /-- Just those that were stopped are reported. -/
  reported : List.Forall₂ (fun c call => ∃ time, call = .reportState c .stoppedByOrch time)
    (Stop.stopped stops) (backendCalls asked)
  service_eq : after = { before with tracker := before.tracker.deleteAll (Stop.stopped stops) }
  forgotten : ∀ c ∈ Stop.stopped stops, after.tracker.Forgets c
  kept : ∀ c, c ∉ Stop.stopped stops → before.tracker.SameAt c after.tracker
  /-- If a container could never be stopped, it stays. -/
  spared : ∀ c, (∀ stop ∈ stops, stop.container = c → ∃ fault, stop = .failed c fault) →
    before.tracker.SameAt c after.tracker

namespace Stop

variable {t : Tracker} {c : ContainerId} {stops : List Stop} {asked : List Asked}

theorem mem_stopped_iff :
    c ∈ stopped stops ↔ ∃ running told, .done c running told ∈ stops := by
  constructor
  · intro hc
    obtain ⟨stop, hstop, heq⟩ := List.mem_filterMap.mp hc
    cases stop with
    | failed => cases heq
    | done d running told =>
      cases heq
      exact ⟨running, told, hstop⟩
  · rintro ⟨running, told, hstop⟩
    exact List.mem_filterMap.mpr ⟨_, hstop, rfl⟩

theorem exists_asks (t : Tracker) (stops : List Stop) : ∃ asked, Asks t stops asked := by
  induction stops generalizing t with
  | nil => exact ⟨[], .none⟩
  | cons stop stops ih =>
    cases stop with
    | failed c fault =>
      obtain ⟨asked, h⟩ := ih t
      exact ⟨_, .failed ⟨0, 0, 0⟩ h⟩
    | done c running told =>
      obtain ⟨asked, h⟩ := ih (t.delete c)
      exact ⟨_, .done ⟨0, 0, 0⟩ ⟨0, 0, 0⟩ ⟨0, 0, 0⟩ ⟨0, 0, 0⟩ h⟩

theorem Asks.tried (h : Asks t stops asked) :
    runnerCalls asked = stops.map fun stop => .stopAgent stop.container := by
  induction h with
  | none => rfl
  | failed clock _ ih | done _ _ _ _ _ ih =>
    rw [List.map_cons, ← ih]
    rfl

theorem Asks.reported (h : Asks t stops asked) :
    List.Forall₂ (fun c call => ∃ time, call = .reportState c .stoppedByOrch time)
      (stopped stops) (backendCalls asked) := by
  induction h with
  | none => exact .nil
  | failed clock _ ih => exact ih
  | done _ looking _ _ _ ih => exact .cons ⟨looking.wall.timestamp, rfl⟩ ih

end Stop

section Request

variable {c : ContainerId} {cs answer : List ContainerId} {before after : Service}
  {asked : List Asked} {response : Api.Response} {stops : List Stop}

theorem stopAgents_cons_proceeds :
    (Api.stopAgents (c :: cs)).Proceeds before asked answer after ↔
      (∃ clock fault later, asked = ⟨clock, .runner (.stopAgent c), .error fault⟩ :: later ∧
        (Api.stopAgents cs).Proceeds before later answer after) ∨
      ∃ stopping running looking telling told dropping later rest,
        asked = ⟨stopping, .runner (.stopAgent c), .ok running⟩ ::
          ⟨looking, .memory .clock, looking⟩ ::
          ⟨telling, .backend (.reportState c .stoppedByOrch looking.wall.timestamp), told⟩ ::
          ⟨dropping, .memory (.tracker (.delete c)), before.tracker.owner.contains c⟩ :: later ∧
        answer = c :: rest ∧
        (Api.stopAgents cs).Proceeds { before with tracker := before.tracker.delete c } later rest
          after := by
  constructor
  · rintro ⟨stopping, fault | running, _, rfl, h⟩
    · exact .inl ⟨stopping, fault, _, rfl, h⟩
    · obtain ⟨looking, _, _, rfl, telling, told, _, rfl, dropping, _, later, rfl, h⟩ := h
      obtain ⟨rest, hanswer, h⟩ := proceeds_bind_pure.mp h
      exact .inr ⟨stopping, running, looking, telling, told, dropping, later, rest, rfl, hanswer, h⟩
  · rintro (⟨clock, fault, later, rfl, h⟩ |
      ⟨stopping, running, looking, telling, told, dropping, later, rest, rfl, hanswer, h⟩)
    · exact ⟨clock, .error fault, later, rfl, h⟩
    · exact ⟨stopping, .ok running, _, rfl, looking, looking, _, rfl, telling, told, _, rfl,
        dropping, true, later, rfl, proceeds_bind_pure.mpr ⟨rest, hanswer, h⟩⟩

theorem stopAgents_proceeds :
    (Api.stopAgents cs).Proceeds before asked answer after ↔
      ∃ stops : List Stop, stops.map Stop.container = cs ∧ Stop.Asks before.tracker stops asked ∧
        answer = Stop.stopped stops ∧
        after = { before with tracker := before.tracker.deleteAll (Stop.stopped stops) } := by
  induction cs generalizing before asked answer with
  | nil =>
    constructor
    · rintro ⟨rfl, rfl, rfl⟩
      exact ⟨[], rfl, .none, rfl, rfl⟩
    · rintro ⟨stops, hstops, hasks, rfl, rfl⟩
      obtain rfl := List.map_eq_nil_iff.mp hstops
      cases hasks
      exact ⟨rfl, rfl, rfl⟩
  | cons c cs ih =>
    rw [stopAgents_cons_proceeds]
    constructor
    · rintro (⟨clock, fault, later, rfl, h⟩ |
        ⟨stopping, running, looking, telling, told, dropping, later, rest, rfl, rfl, h⟩)
      · obtain ⟨stops, rfl, hasks, rfl, rfl⟩ := ih.mp h
        exact ⟨.failed c fault :: stops, rfl, .failed clock hasks, rfl, rfl⟩
      · obtain ⟨stops, rfl, hasks, rfl, rfl⟩ := ih.mp h
        exact ⟨.done c running told :: stops, rfl, .done stopping looking telling dropping hasks,
          rfl, rfl⟩
    · rintro ⟨stops, hstops, hasks, rfl, rfl⟩
      cases hasks with
      | none => cases hstops
      | failed clock hasks =>
        obtain ⟨rfl, rfl⟩ := List.cons.inj hstops
        exact .inl ⟨clock, _, _, rfl, ih.mpr ⟨_, rfl, hasks, rfl, rfl⟩⟩
      | done stopping looking telling dropping hasks =>
        obtain ⟨rfl, rfl⟩ := List.cons.inj hstops
        exact .inr ⟨stopping, _, looking, telling, _, dropping, _, _, rfl, rfl,
          ih.mpr ⟨_, rfl, hasks, rfl, rfl⟩⟩

theorem stopsHonoured_of (hcons : before.tracker.Consistent)
    (hasks : Stop.Asks before.tracker stops asked) :
    StopsHonoured stops before asked ⟨200, (Json.strings (Stop.stopped stops)).text⟩
      { before with tracker := before.tracker.deleteAll (Stop.stopped stops) } := by
  have hkept (c : ContainerId) (hc : c ∉ Stop.stopped stops) :=
    hcons.sameAt_deleteAll hc
  refine ⟨hasks, rfl, hasks.tried, hasks.reported, rfl, fun c hc => ?_, hkept, fun c hfailed => ?_⟩
  · exact hcons.forgets_deleteAll hc
  · refine hkept c fun hc => ?_
    obtain ⟨running, told, hstop⟩ := Stop.mem_stopped_iff.mp hc
    obtain ⟨fault, heq⟩ := hfailed _ hstop rfl
    cases heq

end Request

/-- Whatever has happened before: a request to stop containers goes just as the runner and the
backend answer for each of them, and they may answer anything. -/
theorem stops_just_what_it_answers (ops : List Tracker.Operation)
    (finalized : Std.ExtTreeMap ExecutionId Nat compare) (launching : Names)
    (cs : List ContainerId) :
    let before : Service := ⟨Tracker.empty.after ops, finalized, launching⟩
    (∀ asked response after,
      (Api.Command.stopAgents cs).perform.Proceeds before asked response after ↔
        ∃ stops : List Stop, stops.map Stop.container = cs ∧
          StopsHonoured stops before asked response after) ∧
    ∀ stops : List Stop, stops.map Stop.container = cs →
      ∃ asked response after, (Api.Command.stopAgents cs).perform.Proceeds before asked response
        after ∧ StopsHonoured stops before asked response after := by
  intro before
  have hcons : before.tracker.Consistent := Tracker.Consistent.empty.after ops
  have hiff (asked : List Asked) (response : Api.Response) (after : Service) :
      (Api.Command.stopAgents cs).perform.Proceeds before asked response after ↔
        ∃ stops : List Stop, stops.map Stop.container = cs ∧
          StopsHonoured stops before asked response after := by
    refine proceeds_bind_pure.trans ?_
    constructor
    · rintro ⟨answer, rfl, h⟩
      obtain ⟨stops, hstops, hasks, rfl, rfl⟩ := stopAgents_proceeds.mp h
      exact ⟨stops, hstops, stopsHonoured_of hcons hasks⟩
    · rintro ⟨stops, hstops, h⟩
      exact ⟨_, h.answered, stopAgents_proceeds.mpr ⟨stops, hstops, h.asks, rfl, h.service_eq⟩⟩
  refine ⟨hiff, fun stops hstops => ?_⟩
  obtain ⟨asked, hasks⟩ := Stop.exists_asks before.tracker stops
  have h := stopsHonoured_of hcons hasks
  exact ⟨asked, _, _, (hiff _ _ _).mpr ⟨stops, hstops, h⟩, h⟩

/-- One container is listed twice and cannot be reported the first time, one cannot be stopped, and
one is not known. -/
def mixedStops : List Stop :=
  [.done "a" true (.error ⟨.backend, "update_agent_status rejected"⟩),
    .failed "b" ⟨.runner, "stop_by_agent_id rejected"⟩, .done "x" false (.ok ()),
    .done "a" false (.ok ())]

theorem stops_just_what_it_answers_mixed :
    let before : Service :=
      ⟨Tracker.empty.after [.upsert "e" "a" 0, .upsert "e" "b" 7, .markCrashed "b"], ∅, ∅⟩
    ∃ asked after, (Api.Command.stopAgents ["a", "b", "x", "a"]).perform.Proceeds before asked
        ⟨200, "[\"a\",\"x\",\"a\"]"⟩ after ∧
      runnerCalls asked = [.stopAgent "a", .stopAgent "b", .stopAgent "x", .stopAgent "a"] ∧
      after.tracker.owner.toList = [("b", "e")] ∧ after.tracker.lastBeat.toList = [("b", 7)] ∧
      after.tracker.crashed.toList = ["b"] := by
  intro before
  obtain ⟨-, hall⟩ := stops_just_what_it_answers
    [.upsert "e" "a" 0, .upsert "e" "b" 7, .markCrashed "b"] ∅ ∅ ["a", "b", "x", "a"]
  obtain ⟨asked, response, after, h, honoured⟩ := hall mixedStops rfl
  have htext : (Json.strings (Stop.stopped mixedStops)).text = "[\"a\",\"x\",\"a\"]" := by
    decide +kernel
  rw [honoured.answered, htext] at h
  refine ⟨asked, after, h, honoured.tried, ?_⟩
  rw [honoured.service_eq]
  decide +kernel

end AgentFleet
