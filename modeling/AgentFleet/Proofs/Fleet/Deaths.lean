import AgentFleet.Proofs.Fleet.Aftermath

/-!
What a pass does about an agent that has died: a container that is seen to have stopped, but was
neither told to end nor has a crash that was dealt with. It is not removed, and its execution is not
completed, before it was reported as crashed, its tests were failed and it was stopped.
-/

namespace AgentFleet

open Procedure Activity

/-- The crash of the container is dealt with in the pass, before anything is concluded from it. -/
structure DealtWith (now : Instant) (c : ContainerId) (e : ExecutionId) (asked : List Asked)
    (summary : Tracker.Summary) : Prop where
  kept : c ∉ summary.purged
  remaining : e ∉ summary.emptied
  unfinished : ∀ reason, .reportExecution e .finished reason ∉ backendCalls asked
  reported : (backendCalls asked).count (.reportState c .crashed now.timestamp) = 1
  stopped : (runnerCalls asked).count (.stopAgent c) = 1
  /-- Tests are failed once in the pass, those of this container among them. -/
  failed : ∃ cs, (backendCalls asked).filter BackendCall.failsTests = [.failTests cs] ∧ c ∈ cs

/-- The container has an owner, and is neither terminating nor has a crash that was handled. -/
def Tracker.OnDuty (t : Tracker) (e : ExecutionId) (c : ContainerId) : Prop :=
  t.owner[c]? = some e ∧ c ∉ t.terminating ∧ c ∉ t.handled

namespace Tracker

variable {t swept : Tracker} {c : ContainerId} {e : ExecutionId} {known : Standing}
  {staleness : Int} {isStopped : ContainerId → Bool} {now : Instant} {summary : Summary}

theorem OnDuty.standing (h : t.OnDuty e c) (hcons : t.Consistent) :
    ∃ known, t.standing c = some known ∧ known.owner = e ∧ known.isPurgeable = false := by
  obtain ⟨ho, hterm, hhandled⟩ := h
  obtain ⟨beat, -, hs⟩ := hcons.standing_of_owner ho
  refine ⟨_, hs, rfl, ?_⟩
  rw [← Std.ExtTreeSet.contains_iff_mem, Bool.not_eq_true] at hterm hhandled
  simp [Standing.isPurgeable, hterm, hhandled]

namespace Consistent

theorem standing_sweep_of_dead (hcons : t.Consistent)
    (hswept : t.sweep staleness isStopped now = (swept, summary)) (hs : t.standing c = some known)
    (hduty : known.isPurgeable = false) (hstop : isStopped c = true) :
    swept.standing c = some { known with crashed := true } := by
  obtain rfl : (t.sweep staleness isStopped now).1 = swept := by rw [hswept]
  have hstopped : known.stop = some { known with crashed := true } :=
    Standing.stop_eq_some_iff.mpr ⟨hduty, rfl⟩
  rw [hcons.sweep_spec.2.1, hs, Option.bind_some, if_pos hstop, hstopped, Option.map_some,
    Standing.lapse]
  split <;> rfl

theorem not_purged_of_duty (hcons : t.Consistent)
    (hswept : t.sweep staleness isStopped now = (swept, summary)) (hs : t.standing c = some known)
    (hduty : known.isPurgeable = false) : c ∉ summary.purged := by
  obtain rfl : (t.sweep staleness isStopped now).2 = summary := by rw [hswept]
  rw [hcons.sweep_spec.2.2]
  intro hpurged
  have hyes := (List.mem_filter.mp hpurged).2
  rw [hcons.isPurgeable_eq, hs, Option.any_some, hduty] at hyes
  cases hyes

/-- The execution of a container that is still there after the sweep was not emptied by it. -/
theorem not_emptied_of_standing (hcons : t.Consistent)
    (hswept : t.sweep staleness isStopped now = (swept, summary))
    (hs : swept.standing c = some known) : known.owner ∉ summary.emptied := by
  obtain rfl : (t.sweep staleness isStopped now).1 = swept := by rw [hswept]
  obtain rfl : (t.sweep staleness isStopped now).2 = summary := by rw [hswept]
  rw [hcons.mem_emptied_iff]
  intro hemptied
  exact hemptied.2 (hcons.sweep_spec.1.mem_executions_iff_standing.mpr ⟨c, known, hs, rfl⟩)

end Consistent

end Tracker

namespace Passes

variable {s : LivenessSettings} {now : Instant} {before settled handled after : Service}
  {asked looks completions handling losses : List Asked} {stopped : List ContainerId}
  {summary : Tracker.Summary} {swept : Tracker} {time : Clock} {c : ContainerId} {e : ExecutionId}

theorem not_reported (h : Passes s now before looks completions handling losses stopped summary
    time settled handled after) (hcons : before.tracker.Consistent) (hc : c ∉ stopped) :
    c ∉ summary.purged ∧ c ∉ summary.stoppedUnexpectedly := by
  rw [h.summary_eq]
  refine not_or.mp fun hreported => hc ?_
  exact List.contains_iff_mem.mp (hcons.isStopped_of_reported hreported)

/-- A container that has died is among the crashed ones that the pass deals with. -/
theorem dealtWith (h : Passes s now before looks completions handling losses stopped summary
    time settled handled after) (hparts : AskedInPass asked looks completions handling losses time)
    (hcons : before.tracker.Consistent)
    (hswept : before.tracker.sweep s.staleness (stopped.contains ·) now = (swept, summary))
    (hduty : before.tracker.OnDuty e c) (hc : c ∈ stopped) : DealtWith now c e asked summary := by
  obtain ⟨known, hs, rfl, hpurge⟩ := hduty.standing hcons
  have hdead : swept.standing c = some { known with crashed := true } :=
    hcons.standing_sweep_of_dead hswept hs hpurge (List.contains_iff_mem.mpr hc)
  have hcrashed : c ∈ swept.crashed.toList :=
    Std.ExtTreeSet.mem_toList.mpr ((Tracker.mem_marks_of_standing hdead).1.mpr rfl)
  have hremaining := hcons.not_emptied_of_standing hswept hdead
  obtain ⟨completed, failed, hcompleted, -, -, hcalls⟩ := h.exists_calls hcons hswept hparts
  constructor
  · exact hcons.not_purged_of_duty hswept hs hpurge
  · exact hremaining
  · exact fun reason hmem => hremaining (hcompleted.subset (hcalls.mem_completed hmem))
  · exact hcalls.count_reportState (Tracker.nodup_toList _) hcrashed
  · exact hcalls.count_stopAgent (Tracker.nodup_toList _) hcrashed
  · exact ⟨_, hcalls.filter_failsTests.trans (if_neg (List.ne_nil_of_mem hcrashed)), hcrashed⟩

end Passes

/-- Whatever has happened before, and however a pass goes while nothing else happens: the crash of a
container that is seen to have stopped while it was neither terminating nor had a handled crash is
dealt with first, and a container that cannot be looked at is not reported. Passes do not get
stuck. -/
theorem dead_agent_dealt_with (s : LivenessSettings) (now : Instant)
    (ops : List Tracker.Operation) (finalized : Std.ExtTreeMap ExecutionId Nat compare)
    (launching : Names) :
    let before : Service := ⟨Tracker.empty.after ops, finalized, launching⟩
    (∃ asked summary after, (watch s now).Proceeds before asked summary after) ∧
    ∀ asked summary after, (watch s now).Proceeds before asked summary after →
      (∀ c e, before.tracker.OnDuty e c → Looked c (.ok true) asked →
        DealtWith now c e asked summary) ∧
      ∀ c fault, Looked c (.error fault) asked →
        c ∉ summary.purged ∧ c ∉ summary.stoppedUnexpectedly := by
  intro before
  have hcons : before.tracker.Consistent := Tracker.Consistent.empty.after ops
  refine ⟨⟨_, _, _, proceeds_alone _ ⟨0, 0, 0⟩ (Rehearsal.Script.reply {}) before⟩, ?_⟩
  intro asked summary after h
  obtain ⟨looks, completions, handling, losses, stopped, time, settled, handled, hpass, hparts⟩ :=
    watch_proceeds h
  constructor
  · intro c e hduty hlook
    have hstop : c ∈ stopped := (hpass.mem_stopped_iff hparts hlook).mpr rfl
    exact hpass.dealtWith hparts hcons (Prod.ext rfl hpass.summary_eq.symm) hduty hstop
  · intro c fault hlook
    exact hpass.not_reported hcons fun hc => nomatch (hpass.mem_stopped_iff hparts hlook).mp hc

def foundDead : List Asked :=
  (watch {} 0).asksAlone ⟨0, 0, 0⟩
    (Rehearsal.Script.reply { stopped := .ofList ["a"] compare })
    ⟨Tracker.empty.after [.upsert "e" "a" 0], ∅, ∅⟩

theorem dead_agent_dealt_with_foundDead :
    ∃ summary after, (watch {} 0).Proceeds ⟨Tracker.empty.after [.upsert "e" "a" 0], ∅, ∅⟩ foundDead
        summary after ∧
      (Tracker.empty.after [.upsert "e" "a" 0]).OnDuty "e" "a" ∧ Looked "a" (.ok true) foundDead ∧
      DealtWith 0 "a" "e" foundDead summary := by
  have hgoes := proceeds_alone (watch {} 0) ⟨0, 0, 0⟩
    (Rehearsal.Script.reply { stopped := .ofList ["a"] compare })
    ⟨Tracker.empty.after [.upsert "e" "a" 0], ∅, ∅⟩
  have hduty : (Tracker.empty.after [.upsert "e" "a" 0]).OnDuty "e" "a" :=
    ⟨rfl, by decide, by decide⟩
  have hlook : Looked "a" (.ok true) foundDead := ⟨⟨0, 0, 0⟩, .tail _ (.tail _ (.head _))⟩
  exact ⟨_, _, hgoes, hduty, hlook,
    ((dead_agent_dealt_with {} 0 [.upsert "e" "a" 0] ∅ ∅).2 _ _ _ hgoes).1 "a" "e" hduty hlook⟩

end AgentFleet
