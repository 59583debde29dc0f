import AgentFleet.Proofs.Fleet.Provisioning
import AgentFleet.Proofs.Tracker.Removal

/-!
What is done to one execution is not noticed by the others. Ending an execution, cleaning up after
it and undoing its launch ask the tracker for nothing but what belongs to that execution, and
whatever fails of it, all that the tracker knows of another execution stays as it was.
-/

namespace AgentFleet

open Procedure Activity

namespace Tracker

variable {t : Tracker} {c : ContainerId} {e : ExecutionId} {op : Operation}

/-- The operation is about an execution as a whole, or registers a container for it. -/
inductive Operation.Within (e : ExecutionId) : Operation → Prop
  | upsert (c : ContainerId) (time : Instant) : Within e (.upsert e c time)
  | deleteExecution : Within e (.deleteExecution e)
  | hasLive : Within e (.hasLive e)

theorem filter_affect_of_within (hop : op.Within e) (known : Option Standing) :
    (op.affect c known).filter (·.owner ≠ e) = known.filter (·.owner ≠ e) := by
  cases hop with
  | upsert d time => exact filter_affect_upsert known
  | deleteExecution => simp [Operation.affect]
  | hasLive => rfl

/-- An execution that is removed is removed as a whole, each container once, and nothing else is. -/
theorem Consistent.removes_execution (h : t.Consistent) :
    let removed : List ContainerId := ((Operation.deleteExecution e).apply t).1
    removed.Nodup ∧ (∀ c, c ∈ removed ↔ t.owner[c]? = some e) ∧
      (∀ c ∈ removed, (t.deleteExecution e).Forgets c) ∧
      ∀ c, c ∉ removed → SameAt c t (t.deleteExecution e) := by
  intro removed
  have heq : t.deleteExecution e = t.deleteAll removed := h.deleteExecution_eq e
  rw [heq]
  refine ⟨nodup_toList _, ?_, ?_, ?_⟩
  · intro c
    exact Std.ExtTreeSet.mem_toList.trans h.mem_containersOf
  · exact fun c hc => h.forgets_deleteAll hc
  · exact fun c hc => h.sameAt_deleteAll hc

end Tracker

/-! ### Questions within an execution -/

/-- Of the tracker only what belongs to the execution is asked for. -/
def Act.Within (e : ExecutionId) (act : Act) : Prop := ∀ op ∈ act.operations, op.Within e

section Within

variable {s : LivenessSettings} {e e' : ExecutionId} {act : Act} {before after : Service}
  {asked : List Asked} {α : Type} {p : Activity α} {value : α}

theorem Act.within_of_tracker (h : ∀ op, act = .memory (.tracker op) → op.Within e) :
    act.Within e := fun _ hop => h _ (Act.eq_of_mem_operations hop)

theorem Act.OfEnding.within (hact : act.OfEnding s e) : act.Within e := by
  apply Act.within_of_tracker
  rintro op rfl
  cases hact with
  | check => exact .hasLive
  | remove => exact .deleteExecution

theorem Act.OfAbort.within (hact : act.OfAbort e) : act.Within e := by
  apply Act.within_of_tracker
  rintro op rfl
  cases hact with
  | remove => exact .deleteExecution

theorem Act.OfLaunch.within {s : Settings} {r : LaunchRequest} (hact : act.OfLaunch s r) :
    act.Within r.executionId := by
  cases hact with
  | start | finish => exact List.forall_mem_nil _
  | abort hact => exact hact.within
  | provision hact =>
    apply Act.within_of_tracker
    rintro op rfl
    cases hact with
    | track c time => exact .upsert c time

theorem Act.OfCommand.within_of_cleanup (hact : act.OfCommand (.cleanup e)) : act.Within e := by
  apply Act.within_of_tracker
  rintro op rfl
  cases hact with
  | remove => exact .deleteExecution

/-- An activity that keeps within an execution leaves the others as they were. -/
theorem Procedure.Proceeds.sameOf (h : p.Proceeds before asked value after)
    (hcons : before.tracker.Consistent) (hp : p.Asks (Act.Within e)) (hne : e' ≠ e) :
    before.tracker.SameOf e' after.tracker := by
  refine hcons.sameOf (h.consistent hcons) hne fun c => ?_
  refine h.standing_of (I := fun s => s.filter (·.owner ≠ e) =
    (before.tracker.standing c).filter (·.owner ≠ e)) hcons ?_ rfl
  intro x hx op hop known hknown
  exact (Tracker.filter_affect_of_within (hp.of_proceeds h x hx op hop) known).trans hknown

end Within

/-- A request to clean up that the runner cannot fulfil changes nothing. -/
theorem cleanup_failed {e : ExecutionId} {before after : Service} {asked : List Asked}
    {response : Api.Response} {clock : Clock} {fault : Fault}
    (h : (Api.Command.cleanup e).perform.Proceeds before asked response after)
    (hfault : (⟨clock, .runner (.cleanup e), .error fault⟩ : Asked) ∈ asked) :
    after = before ∧ response = Api.faultResponse fault := by
  obtain ⟨clock', answer, later, rfl, hrest⟩ := h
  cases answer with
  | error cause =>
    obtain ⟨rfl, rfl, rfl⟩ := hrest
    cases List.mem_singleton.mp hfault
    exact ⟨rfl, rfl⟩
  | ok =>
    obtain ⟨clock'', _, _, rfl, rfl, -, -⟩ := hrest
    rcases List.mem_cons.mp hfault with heq | hfault
    · cases heq
    · cases List.mem_singleton.mp hfault

/-- Whatever has happened before: to remove an execution removes its containers, each once, and
nothing else. Another execution is as it was when an execution is removed or ended, when it is
cleaned up after, and when its launch has failed. If cleaning up fails, nothing at all changes. -/
theorem teardown_contained (s : Settings) (ops : List Tracker.Operation)
    (finalized : Std.ExtTreeMap ExecutionId Nat compare) (launching : Names) (e : ExecutionId) :
    let before : Service := ⟨Tracker.empty.after ops, finalized, launching⟩
    let removal := (Tracker.Operation.deleteExecution e).apply before.tracker
    let removed : List ContainerId := removal.1
    (removed.Nodup ∧ (∀ c, c ∈ removed ↔ before.tracker.owner[c]? = some e) ∧
      (∀ c ∈ removed, removal.2.Forgets c) ∧
      ∀ c, c ∉ removed → before.tracker.SameAt c removal.2) ∧
    (∀ e', e' ≠ e → before.tracker.SameOf e' removal.2 ∧
      (∀ ending asked ended after,
        (finalize s.liveness e ending).Proceeds before asked ended after →
        before.tracker.SameOf e' after.tracker) ∧
      (∀ asked response after,
        (Api.Command.cleanup e).perform.Proceeds before asked response after →
        before.tracker.SameOf e' after.tracker) ∧
      ∀ (r : LaunchRequest) asked (cause : Fault) after, r.executionId = e →
        (launch s r).Proceeds before asked (.error cause) after →
        before.tracker.SameOf e' after.tracker) ∧
    ∀ asked response after clock (fault : Fault),
      (Api.Command.cleanup e).perform.Proceeds before asked response after →
      (⟨clock, .runner (.cleanup e), .error fault⟩ : Asked) ∈ asked →
      after = before ∧ response = Api.faultResponse fault := by
  intro before removal removed
  have hcons : before.tracker.Consistent := Tracker.Consistent.empty.after ops
  refine ⟨hcons.removes_execution, fun e' hne => ⟨?_, ?_, ?_, ?_⟩, ?_⟩
  · refine hcons.sameOf (hcons.deleteExecution e) hne fun c => ?_
    rw [Tracker.standing_apply hcons (.deleteExecution e) c]
    exact Tracker.filter_affect_of_within .deleteExecution _
  · intro ending asked ended after h
    exact h.sameOf hcons ((finalize_asks _ _ _).mono fun _ => Act.OfEnding.within) hne
  · intro asked response after h
    refine h.sameOf hcons ?_ hne
    exact (Api.perform_asks _).mono fun _ => Act.OfCommand.within_of_cleanup
  · rintro r asked cause after rfl h
    exact h.sameOf hcons ((launch_asks s r).mono fun _ => Act.OfLaunch.within) hne
  · intro asked response after clock fault h hfault
    exact cleanup_failed h hfault

/-- One of the containers that are created belongs to another execution, and nothing can be cleaned
up. -/
def reluctant : Rehearsal.Script :=
  { created := .ofList [("e", ["a", "b"])] compare
    rejected := ["cleanup"] }

def neighbours : List Tracker.Operation :=
  [.upsert "f" "b" 0, .markCrashed "b", .upsert "e" "a" 0]

theorem teardown_contained_neighbours :
    let before : Service := ⟨Tracker.empty.after neighbours, ∅, ∅⟩
    "f" ≠ "e" ∧
    (∃ asked after, (finalize Fleet.briefSettings.liveness "e" .allCrashed).Proceeds before asked
        true after ∧ before.tracker.SameOf "f" after.tracker ∧
      after.tracker.containsAny "e" = false ∧ after.tracker.containsAny "f" = true) ∧
    (∃ asked after, (launch Fleet.briefSettings contestedRequest).Proceeds before asked
        (.error ⟨.invariant, "container b belongs to execution f, refusing to move it to e"⟩) after ∧
      before.tracker.SameOf "f" after.tracker ∧ after.tracker.containsAny "e" = false) ∧
    ∃ asked, (Api.Command.cleanup "e").perform.Proceeds before asked
      ⟨500, "runner: cleanup rejected"⟩ before := by
  intro before
  have hne : "f" ≠ "e" := by decide
  obtain ⟨-, hothers, hfailed⟩ := teardown_contained Fleet.briefSettings neighbours ∅ ∅ "e"
  obtain ⟨-, hfinalize, -, hlaunch⟩ := hothers "f" hne
  have hended : (finalize Fleet.briefSettings.liveness "e" .allCrashed).Proceeds before _ true _ :=
    proceeds_alone _ ⟨0, 0, 0⟩ reluctant.reply before
  have hlaunched : (launch Fleet.briefSettings contestedRequest).Proceeds before _
      (.error ⟨.invariant, "container b belongs to execution f, refusing to move it to e"⟩) _ :=
    proceeds_alone _ ⟨0, 0, 0⟩ reluctant.reply before
  have hcleaned := proceeds_alone (Api.Command.cleanup "e").perform ⟨0, 0, 0⟩ reluctant.reply before
  obtain ⟨hafter, hresponse⟩ := hfailed _ _ _ ⟨0, 0, 0⟩ ⟨.runner, "cleanup rejected"⟩ hcleaned
    List.mem_cons_self
  rw [hafter, hresponse] at hcleaned
  exact ⟨hne, ⟨_, _, hended, hfinalize _ _ _ _ hended, by decide +kernel, by decide +kernel⟩,
    ⟨_, _, hlaunched, hlaunch _ _ _ _ rfl hlaunched, by decide +kernel⟩, _, hcleaned⟩

end AgentFleet
