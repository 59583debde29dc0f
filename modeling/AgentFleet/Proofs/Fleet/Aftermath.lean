import AgentFleet.Proofs.Fleet.Passing
import AgentFleet.Proofs.Tracker.Effect

/-!
What a pass has done when it is over, whatever calls of it have failed. Its sweep decides what it
has to do: the containers that count as crashed after it are dealt with, the executions that it has
emptied are completed, and those of which only crashed containers are left are ended. The parts of
the pass do not get into each other's way: an execution that is completed has no container left, and
dealing with crashes leaves the tracker's executions as they are.
-/

namespace AgentFleet

open Procedure Activity

namespace BackendCall

def failsTests : BackendCall → Bool
  | failTests _ => true
  | _ => false

def reportsOn (c : ContainerId) : BackendCall → Bool
  | reportState d _ _ => decide (d = c)
  | _ => false

def reportsOnExecution (e : ExecutionId) : BackendCall → Bool
  | reportExecution d _ _ => decide (d = e)
  | _ => false

end BackendCall

namespace RunnerCall

def stops (c : ContainerId) : RunnerCall → Bool
  | stopAgent d => decide (d = c)
  | _ => false

def cleans (e : ExecutionId) : RunnerCall → Bool
  | cleanup d => decide (d = e)
  | _ => false

end RunnerCall

/-- What a pass has done when it is over. It began at `begun`, and `swept` is what its sweep has
left of the tracker. -/
structure Thorough (s : LivenessSettings) (now : Instant) (begun : Clock) (before : Service)
    (asked : List Asked) (summary : Tracker.Summary) (swept : Tracker) (after : Service) :
    Prop where
  /-- What counts as stopped in the sweep was seen to have stopped. -/
  sweep_eq : ∃ isStopped : ContainerId → Bool,
    (∀ c, isStopped c = true ↔ Looked c (.ok true) asked) ∧
      before.tracker.sweep s.staleness isStopped now = (swept, summary)
  reported : ∀ c, (backendCalls asked).filter (BackendCall.reportsOn c) =
    if c ∈ swept.crashed then [.reportState c .crashed now.timestamp] else []
  stopped : ∀ c, (runnerCalls asked).filter (RunnerCall.stops c) =
    if c ∈ swept.crashed then [.stopAgent c] else []
  failed : (backendCalls asked).filter BackendCall.failsTests =
    if swept.crashed.toList = [] then [] else [.failTests swept.crashed.toList]
  completed : ∀ e reason,
    .reportExecution e .finished reason ∈ backendCalls asked → e ∈ summary.emptied
  handled : ∀ c ∈ after.tracker.crashed, c ∈ after.tracker.handled
  ended : ∀ e ∈ swept.executions, (∀ c ∈ swept.containersOf e, c ∈ swept.crashed) →
    before.isFinalized s.retention begun e = false →
      (backendCalls asked).filter (BackendCall.reportsOnExecution e) =
          [.reportExecution e .error Ending.allCrashed.reason] ∧
        (runnerCalls asked).filter (RunnerCall.cleans e) = [.cleanup e] ∧
        e ∉ after.tracker.executions
  kept : ∀ c, c ∉ swept.crashed → c ∉ summary.purged →
    after.tracker.standing c = before.tracker.standing c

/-! ### The tracker -/

namespace Tracker

variable {t swept : Tracker} {c : ContainerId} {cs : List ContainerId} {e : ExecutionId}
  {staleness : Int} {isStopped : ContainerId → Bool} {now : Instant} {summary : Summary}

theorem not_mem_executions_deleteExecution (h : t.Consistent) :
    e ∉ (t.deleteExecution e).executions := by
  rw [(h.deleteExecution e).mem_executions_iff_standing]
  rintro ⟨c, known, hs, rfl⟩
  rw [standing_deleteExecution h] at hs
  simpa using (Option.filter_eq_some_iff.mp hs).2

theorem deleteExecution_of_untracked (h : t.Consistent) (he : e ∉ t.executions) :
    t.deleteExecution e = t := by
  refine (h.deleteExecution e).eq_of_standing h fun c => ?_
  rw [standing_deleteExecution h]
  cases hs : t.standing c with
  | none => rfl
  | some known =>
    have hne : known.owner ≠ e := by
      rintro rfl
      exact he (h.mem_executions_iff_standing.mpr ⟨c, known, hs, rfl⟩)
    exact Option.filter_some_pos (decide_eq_true hne)

theorem markAllHandled_eq (t : Tracker) (cs : List ContainerId) :
    ∃ handled, t.markAllHandled cs = { t with handled := handled } := by
  induction cs generalizing t with
  | nil => exact ⟨t.handled, rfl⟩
  | cons c cs ih =>
    change ∃ handled, (t.markHandled c).markAllHandled cs = _
    unfold markHandled
    split
    · exact ih _
    · exact ih t

/-- Which executions are lost does not depend on which crashes have been handled. -/
theorem lost_markAllHandled : (t.markAllHandled cs).lost = t.lost := by
  obtain ⟨handled, heq⟩ := t.markAllHandled_eq cs
  rw [heq]
  rfl

theorem nodup_lost : t.lost.Nodup := Std.ExtTreeMap.nodup_keys.filter _

/-- Of a container that neither counts as crashed after a sweep nor was removed all is as it was. -/
theorem Consistent.standing_sweep_of_not_crashed (h : t.Consistent)
    (hswept : t.sweep staleness isStopped now = (swept, summary)) (hc : c ∉ swept.crashed)
    (hp : c ∉ summary.purged) : swept.standing c = t.standing c := by
  rw [← sweepIn_ascending] at hswept
  obtain rfl : (t.sweepIn .ascending staleness isStopped now).1 = swept := by rw [hswept]
  obtain rfl : (t.sweepIn .ascending staleness isStopped now).2 = summary := by rw [hswept]
  have hstand := h.standing_sweepIn hp
  cases hs : t.standing c with
  | none =>
    rw [hs] at hstand
    exact hstand
  | some known =>
    rw [hs, Option.map_some] at hstand
    have hno := (mem_marks_of_standing hstand).1.not.mp hc
    rw [hstand]
    cases hfound : decide (c ∈ (t.sweepIn .ascending staleness isStopped now).2.newlyCrashed) with
    | true => exact (hno (by simp [hfound, Standing.crashIf])).elim
    | false => simp [Standing.crashIf]

theorem Consistent.handled_markAllHandled_crashed (h : t.Consistent)
    (hc : c ∈ (t.markAllHandled t.crashed.toList).crashed) :
    c ∈ (t.markAllHandled t.crashed.toList).handled := by
  obtain ⟨handled, heq⟩ := t.markAllHandled_eq t.crashed.toList
  have hcrashed : c ∈ t.crashed := by
    rw [heq] at hc
    exact hc
  obtain ⟨known, hs, hknown⟩ := h.crashed_iff.mp hcrashed
  refine (h.markAllHandled _).handled_iff.mpr ⟨known.handle, ?_, by simp [Standing.handle, hknown]⟩
  rw [standing_markAllHandled, if_pos (Std.ExtTreeSet.mem_toList.mpr hcrashed), hs, Option.map_some]

end Tracker

/-! ### The ends of executions -/

structure ConcludesAll (ending : Ending) (ended : List ExecutionId) (asked : List Asked) :
    Prop where
  backend : backendCalls asked =
    ended.map fun e => .reportExecution e ending.status ending.reason
  runner : runnerCalls asked = ended.map .cleanup

section Ends

variable {s : LivenessSettings} {e e' : ExecutionId} {es : List ExecutionId} {ending : Ending}
  {before after : Service} {asked : List Asked} {c : ContainerId}

theorem Service.mem_finalized_of_isFinalized {retention : Nat} {clock : Clock}
    (h : before.isFinalized retention clock e = true) : e ∈ before.finalized := by
  obtain ⟨time, htime, -⟩ := Service.isFinalized_iff.mp h
  rw [Std.ExtTreeMap.mem_iff_isSome_getElem?, htime]
  rfl

theorem Service.mem_finalized_claim {clock : Clock} :
    e ∈ (before.claim clock e').finalized ↔ e ∈ before.finalized ∨ e' = e := by
  unfold Service.claim
  split
  next hmem =>
    refine (or_iff_left_of_imp ?_).symm
    rintro rfl
    exact hmem
  next => simp [Std.ExtTreeMap.mem_insert, or_comm]

namespace Finalizes

theorem of_mem_finalized (h : Finalizes s e ending before asked after)
    (he : e' ∈ after.finalized) : e' ∈ before.finalized ∨ e = e' := by
  cases h with
  | hindered => exact .inl he
  | known =>
    exact .inl (Service.mem_finalized_of_isFinalized (Service.mem_finalized_forgetExpired.mp he))
  | first =>
    refine (Service.mem_finalized_claim.mp he).imp_left fun he => ?_
    exact Service.mem_finalized_of_isFinalized (Service.mem_finalized_forgetExpired.mp he)

theorem of_standing (h : Finalizes s e ending before asked after)
    (hcons : before.tracker.Consistent) {known : Tracker.Standing}
    (hc : after.tracker.standing c = some known) : before.tracker.standing c = some known := by
  rcases h.tracker_eq with hsame | ⟨-, -, hsame⟩ <;> rw [hsame] at hc
  · exact hc
  · rw [Tracker.standing_deleteExecution hcons] at hc
    exact (Option.filter_eq_some_iff.mp hc).1

end Finalizes

namespace FinalizesAll

theorem of_mem_finalized (h : FinalizesAll s ending es before asked after)
    (he : e ∈ after.finalized) : e ∈ before.finalized ∨ e ∈ es := by
  induction h with
  | nil => exact .inl he
  | cons hfirst _ ih =>
    rcases ih he with he | hmem
    · rcases hfirst.of_mem_finalized he with he | rfl
      · exact .inl he
      · exact .inr List.mem_cons_self
    · exact .inr (List.mem_cons_of_mem _ hmem)

theorem of_standing (h : FinalizesAll s ending es before asked after)
    (hcons : before.tracker.Consistent) {known : Tracker.Standing}
    (hc : after.tracker.standing c = some known) : before.tracker.standing c = some known := by
  induction h with
  | nil => exact hc
  | cons hfirst _ ih => exact hfirst.of_standing hcons (ih (hfirst.consistent hcons) hc)

/-- The ends of executions without containers leave the tracker as it is. -/
theorem tracker_eq (h : FinalizesAll s ending es before asked after)
    (hcons : before.tracker.Consistent) (hes : ∀ e ∈ es, e ∉ before.tracker.executions) :
    after.tracker = before.tracker := by
  induction h with
  | nil => rfl
  | cons hfirst _ ih =>
    obtain ⟨he, hes⟩ := List.forall_mem_cons.mp hes
    have hsame := hfirst.tracker_eq
    rw [Tracker.deleteExecution_of_untracked hcons he] at hsame
    have hmiddle := hsame.elim id fun hsame => hsame.2.2
    rw [hmiddle] at ih
    exact ih hcons hes

theorem exists_ended (h : FinalizesAll s ending es before asked after) :
    ∃ ended, ended.Sublist es ∧ ConcludesAll ending ended asked := by
  induction h with
  | nil => exact ⟨[], .slnil, rfl, rfl⟩
  | @cons e _ _ _ _ first later hfirst _ ih =>
    obtain ⟨ended, hsub, hbackend, hrunner⟩ := ih
    cases hfirst with
    | hindered _ hb hr | known _ _ _ hb hr =>
      refine ⟨ended, hsub.cons e, ?_, ?_⟩
      · rw [backendCalls_append, hb, hbackend, List.nil_append]
      · rw [runnerCalls_append, hr, hrunner, List.nil_append]
    | first _ _ _ _ hb hr =>
      refine ⟨e :: ended, hsub.cons_cons e, ?_, ?_⟩
      · rw [backendCalls_append, hb, hbackend, List.map_cons, List.singleton_append]
      · rw [runnerCalls_append, hr, hrunner, List.map_cons, List.singleton_append]

theorem not_looked (h : FinalizesAll s ending es before asked after)
    {answer : Except Fault Bool} : ¬ Looked c answer asked := by
  intro hlook
  obtain ⟨ended, -, hends⟩ := h.exists_ended
  have hmem := hlook.mem_runnerCalls
  rw [hends.runner] at hmem
  obtain ⟨e, -, heq⟩ := List.mem_map.mp hmem
  cases heq

/-- A lost execution that is not remembered as finalized is concluded, and is gone then. -/
theorem concluded_of_fresh (h : FinalizesAll s .allCrashed es before asked after)
    (hcons : before.tracker.Consistent) (hnd : es.Nodup) (hmem : e ∈ es)
    (hfresh : e ∉ before.finalized) :
    Concludes e .allCrashed asked ∧ e ∉ after.tracker.executions := by
  induction h with
  | nil => cases hmem
  | @cons d _ _ _ _ _ _ hfirst hlater ih =>
    obtain ⟨hnot, hnd⟩ := List.nodup_cons.mp hnd
    by_cases hde : d = e
    · subst hde
      cases hfirst with
      | hindered hno => cases hno.1
      | known _ _ hknown => exact (hfresh (Service.mem_finalized_of_isFinalized hknown)).elim
      | first _ _ _ _ hbackend hrunner =>
        refine ⟨(Concludes.of_calls hbackend hrunner).append_right _, fun he => ?_⟩
        exact Tracker.not_mem_executions_deleteExecution hcons
          (hlater.executions_subset (hcons.deleteExecution _) he)
    · have hmem := (List.mem_cons.mp hmem).resolve_left (Ne.symm hde)
      have hfresh' := fun he => (hfirst.of_mem_finalized he).elim hfresh hde
      exact (ih (hfirst.consistent hcons) hnd hmem hfresh').imp_left (·.append_left _)

end FinalizesAll

end Ends

/-! ### All calls of a pass -/

theorem looked_of_stopped {cs stopped : List ContainerId} {before after : Service}
    {asked : List Asked} {c : ContainerId}
    (h : (stoppedAmong cs).Proceeds before asked stopped after) (hc : c ∈ stopped) :
    Looked c (.ok true) asked := by
  induction cs generalizing asked stopped with
  | nil =>
    obtain ⟨-, rfl, -⟩ := h
    cases hc
  | cons d cs ih =>
    obtain ⟨clock, answer, later, rest, rfl, hlater, hstopped⟩ := stoppedAmong_cons_proceeds h
    rcases (hstopped c).mp hc with ⟨rfl, rfl⟩ | hc
    · exact ⟨clock, List.mem_cons_self⟩
    · obtain ⟨time, hmem⟩ := ih hlater hc
      exact ⟨time, List.mem_cons_of_mem _ hmem⟩

structure PassCalls (now : Instant) (looked crashed : List ContainerId)
    (completed failed : List ExecutionId) (asked : List Asked) : Prop where
  backend : backendCalls asked =
    (completed.map fun e => .reportExecution e .finished Ending.completed.reason) ++
      ((crashed.map fun c => .reportState c .crashed now.timestamp) ++
        if crashed = [] then [] else [.failTests crashed]) ++
      failed.map fun e => .reportExecution e .error Ending.allCrashed.reason
  runner : runnerCalls asked = looked.map .isStopped ++ completed.map .cleanup ++
    crashed.map .stopAgent ++ failed.map .cleanup

section Calls

variable {now : Instant} {looked crashed : List ContainerId} {completed failed : List ExecutionId}
  {asked : List Asked} {c : ContainerId} {e : ExecutionId}

/-- Of calls that are made once for each of several things, those about one of them. -/
theorem filter_map_of_key {α β : Type} [DecidableEq α] {as : List α} (hnd : as.Nodup) {f : α → β}
    {p : β → Bool} {a : α} (hp : ∀ b, p (f b) = decide (b = a)) :
    (as.map f).filter p = if a ∈ as then [f a] else [] := by
  have hkey : p ∘ f = fun b => decide (b = a) := funext hp
  rw [List.filter_map, hkey, List.filter_eq, hnd.count]
  split <;> rfl

theorem filter_map_of_others {α β : Type} {as : List α} {f : α → β} {p : β → Bool}
    (hp : ∀ b, p (f b) = false) : (as.map f).filter p = [] := by
  refine List.filter_eq_nil_iff.mpr fun b hb => ?_
  obtain ⟨a, -, rfl⟩ := List.mem_map.mp hb
  rw [hp, Bool.not_eq_true]

theorem filter_tests {p : BackendCall → Bool} (hp : p (.failTests crashed) = false) :
    (if crashed = [] then [] else [BackendCall.failTests crashed]).filter p = [] := by
  split
  · rfl
  · rw [List.filter_singleton, hp]
    rfl

theorem handling_proceeds {before after : Service}
    (h : (if crashed ≠ [] then handleCrashed now crashed else pure ()).Proceeds before asked ()
      after) :
    backendCalls asked = (crashed.map fun c => .reportState c .crashed now.timestamp) ++
        (if crashed = [] then [] else [.failTests crashed]) ∧
      runnerCalls asked = crashed.map .stopAgent ∧
      after = { before with tracker := before.tracker.markAllHandled crashed } := by
  cases crashed with
  | nil =>
    obtain ⟨rfl, -, rfl⟩ := h
    exact ⟨rfl, rfl, rfl⟩
  | cons c cs => exact handleCrashed_proceeds h

namespace PassCalls

theorem filter_reportsOn (h : PassCalls now looked crashed completed failed asked)
    (hnd : crashed.Nodup) : (backendCalls asked).filter (BackendCall.reportsOn c) =
      if c ∈ crashed then [.reportState c .crashed now.timestamp] else [] := by
  rw [h.backend, List.filter_append, List.filter_append, List.filter_append, filter_tests rfl,
    filter_map_of_key hnd (fun _ => rfl), filter_map_of_others (fun _ => rfl),
    filter_map_of_others (fun _ => rfl), List.append_nil, List.append_nil, List.nil_append]

theorem filter_stops (h : PassCalls now looked crashed completed failed asked)
    (hnd : crashed.Nodup) : (runnerCalls asked).filter (RunnerCall.stops c) =
      if c ∈ crashed then [.stopAgent c] else [] := by
  rw [h.runner, List.filter_append, List.filter_append, List.filter_append,
    filter_map_of_key hnd (fun _ => rfl), filter_map_of_others (fun _ => rfl),
    filter_map_of_others (fun _ => rfl), filter_map_of_others (fun _ => rfl), List.append_nil,
    List.append_nil, List.nil_append]

theorem count_reportState (h : PassCalls now looked crashed completed failed asked)
    (hnd : crashed.Nodup) (hc : c ∈ crashed) :
    (backendCalls asked).count (.reportState c .crashed now.timestamp) = 1 := by
  have hreports : BackendCall.reportsOn c (.reportState c .crashed now.timestamp) = true :=
    decide_eq_true rfl
  rw [← List.count_filter hreports, h.filter_reportsOn hnd, if_pos hc, List.count_singleton_self]

theorem count_stopAgent (h : PassCalls now looked crashed completed failed asked)
    (hnd : crashed.Nodup) (hc : c ∈ crashed) : (runnerCalls asked).count (.stopAgent c) = 1 := by
  have hstops : RunnerCall.stops c (.stopAgent c) = true := decide_eq_true rfl
  rw [← List.count_filter hstops, h.filter_stops hnd, if_pos hc, List.count_singleton_self]

theorem filter_failsTests (h : PassCalls now looked crashed completed failed asked) :
    (backendCalls asked).filter BackendCall.failsTests =
      if crashed = [] then [] else [.failTests crashed] := by
  rw [h.backend, List.filter_append, List.filter_append, List.filter_append,
    filter_map_of_others (fun _ => rfl), filter_map_of_others (fun _ => rfl),
    filter_map_of_others (fun _ => rfl), List.append_nil, List.nil_append, List.nil_append]
  split <;> rfl

theorem mem_completed (h : PassCalls now looked crashed completed failed asked)
    {reason : Option String} (hmem : .reportExecution e .finished reason ∈ backendCalls asked) :
    e ∈ completed := by
  rw [h.backend] at hmem
  split at hmem <;> simp at hmem <;> exact hmem.1

theorem filter_failed (h : PassCalls now looked crashed completed failed asked)
    (hcompleted : completed.Nodup) (hfailed : failed.Nodup) (hno : e ∉ completed)
    (hmem : e ∈ failed) :
    (backendCalls asked).filter (BackendCall.reportsOnExecution e) =
        [.reportExecution e .error Ending.allCrashed.reason] ∧
      (runnerCalls asked).filter (RunnerCall.cleans e) = [.cleanup e] := by
  constructor
  · rw [h.backend, List.filter_append, List.filter_append, List.filter_append, filter_tests rfl,
      filter_map_of_key hcompleted (fun _ => rfl), if_neg hno, filter_map_of_others (fun _ => rfl),
      filter_map_of_key hfailed (fun _ => rfl), if_pos hmem]
    rfl
  · rw [h.runner, List.filter_append, List.filter_append, List.filter_append,
      filter_map_of_others (fun _ => rfl), filter_map_of_key hcompleted (fun _ => rfl),
      if_neg hno, filter_map_of_others (fun _ => rfl), filter_map_of_key hfailed (fun _ => rfl),
      if_pos hmem]
    rfl

end PassCalls

end Calls

/-! ### Passes -/

namespace Passes

variable {s : LivenessSettings} {now : Instant} {before settled handled after : Service}
  {asked looks completions handling losses : List Asked} {stopped : List ContainerId}
  {summary : Tracker.Summary} {swept : Tracker} {time : Clock} {c : ContainerId} {e : ExecutionId}

theorem looked_iff (h : Passes s now before looks completions handling losses stopped summary time
    settled handled after) (hparts : AskedInPass asked looks completions handling losses time)
    {answer : Except Fault Bool} (hlook : Looked c answer asked) : Looked c answer looks := by
  rcases hparts.looked c answer hlook with hlook | hlook | hlook | hlook
  · exact hlook
  · exact (h.completions.not_looked hlook).elim
  · have hmem := hlook.mem_runnerCalls
    rw [(handling_proceeds h.handling).2.1] at hmem
    obtain ⟨d, -, heq⟩ := List.mem_map.mp hmem
    cases heq
  · exact (h.losses.not_looked hlook).elim

theorem mem_stopped_iff (h : Passes s now before looks completions handling losses stopped summary
    time settled handled after) (hparts : AskedInPass asked looks completions handling losses time)
    {answer : Except Fault Bool} (hlook : Looked c answer asked) :
    c ∈ stopped ↔ answer = .ok true :=
  AgentFleet.mem_stopped_iff h.looks Std.ExtTreeMap.nodup_keys (h.looked_iff hparts hlook)

theorem mem_stopped_iff_looked (h : Passes s now before looks completions handling losses stopped
    summary time settled handled after)
    (hparts : AskedInPass asked looks completions handling losses time) :
    c ∈ stopped ↔ Looked c (.ok true) asked := by
  refine ⟨fun hc => ?_, fun hlook => (h.mem_stopped_iff hparts hlook).mpr rfl⟩
  obtain ⟨clock, hmem⟩ := looked_of_stopped h.looks hc
  exact ⟨clock, hparts.looks_subset hmem⟩

section Swept

variable (h : Passes s now before looks completions handling losses stopped summary time settled
  handled after) (hcons : before.tracker.Consistent)
  (hswept : before.tracker.sweep s.staleness (stopped.contains ·) now = (swept, summary))

include hcons hswept

theorem swept_consistent : swept.Consistent := by
  have hsweptCons : (before.tracker.sweep s.staleness (stopped.contains ·) now).1.Consistent :=
    hcons.sweep_spec.1
  rwa [hswept] at hsweptCons

theorem not_mem_executions_of_emptied : ∀ e ∈ summary.emptied, e ∉ swept.executions := by
  have hemptied : ∀ e ∈ (before.tracker.sweep s.staleness (stopped.contains ·) now).2.emptied,
      e ∉ (before.tracker.sweep s.staleness (stopped.contains ·) now).1.executions :=
    fun e he => (hcons.mem_emptied_iff.mp he).2
  rwa [hswept] at hemptied

include h

/-- Completed executions have no containers, so the tracker is as the sweep has left it when the
crashes are dealt with. -/
theorem settled_tracker : settled.tracker = swept := by
  have hcompletions := h.completions
  rw [hswept] at hcompletions
  exact hcompletions.tracker_eq (swept_consistent hcons hswept)
    (not_mem_executions_of_emptied hcons hswept)

theorem handled_eq :
    handled = { settled with tracker := swept.markAllHandled swept.crashed.toList } := by
  rw [← h.settled_tracker hcons hswept]
  exact (handling_proceeds h.handling).2.2

theorem handled_lost : handled.tracker.lost = swept.lost := by
  rw [h.handled_eq hcons hswept]
  exact Tracker.lost_markAllHandled

theorem handled_consistent : handled.tracker.Consistent := by
  rw [h.handled_eq hcons hswept]
  exact (swept_consistent hcons hswept).markAllHandled _

theorem handled_of_crashed (hc : c ∈ after.tracker.crashed) : c ∈ after.tracker.handled := by
  have hhandledCons := h.handled_consistent hcons hswept
  have hafterCons := h.losses.consistent hhandledCons
  obtain ⟨known, hs, hcrashed⟩ := hafterCons.crashed_iff.mp hc
  have hs' := h.losses.of_standing hhandledCons hs
  refine hafterCons.handled_iff.mpr ⟨known, hs, ?_⟩
  rw [← (Tracker.mem_marks_of_standing hs').2.1]
  have hc' := (Tracker.mem_marks_of_standing hs').1.mpr hcrashed
  rw [h.handled_eq hcons hswept] at hc' ⊢
  exact (swept_consistent hcons hswept).handled_markAllHandled_crashed hc'

theorem kept (hc : c ∉ swept.crashed) (hp : c ∉ summary.purged) :
    after.tracker.standing c = before.tracker.standing c := by
  have hsweptCons := swept_consistent hcons hswept
  have hhandledCons := h.handled_consistent hcons hswept
  have hsame : swept.standing c = before.tracker.standing c :=
    hcons.standing_sweep_of_not_crashed hswept hc hp
  have hmarked : handled.tracker.standing c = swept.standing c := by
    rw [h.handled_eq hcons hswept, Tracker.standing_markAllHandled,
      if_neg (Std.ExtTreeSet.mem_toList.not.mpr hc)]
  rw [← hsame, ← hmarked]
  cases hs : handled.tracker.standing c with
  | none =>
    refine Option.eq_none_iff_forall_ne_some.mpr fun known hknown => ?_
    have hs' := h.losses.of_standing hhandledCons hknown
    rw [hs] at hs'
    cases hs'
  | some known =>
    -- An execution that is lost has only crashed containers, so this one's is not lost.
    refine h.losses.standing_eq hhandledCons hs fun hlost => hc ?_
    rw [h.handled_lost hcons hswept, hsweptCons.mem_lost_iff] at hlost
    rw [hmarked] at hs
    exact hlost.2 c (hsweptCons.mem_containersOf.mpr (Tracker.standing_eq_some_iff.mp hs).1)

theorem exists_calls (hparts : AskedInPass asked looks completions handling losses time) :
    ∃ completed failed, completed.Sublist summary.emptied ∧ failed.Sublist swept.lost ∧
      ConcludesAll .allCrashed failed losses ∧
      PassCalls now before.tracker.containers swept.crashed.toList completed failed asked := by
  obtain ⟨completed, hcompleted, hends⟩ := h.completions.exists_ended
  obtain ⟨failed, hfailed, hends'⟩ := h.losses.exists_ended
  rw [h.handled_lost hcons hswept] at hfailed
  have hhandling := h.handling
  rw [h.settled_tracker hcons hswept] at hhandling
  obtain ⟨hbackend, hrunner, -⟩ := handling_proceeds hhandling
  refine ⟨completed, failed, hcompleted, hfailed, hends', ?_, ?_⟩
  · rw [hparts.backendCalls, hends.backend, hbackend, hends'.backend]
    rfl
  · rw [hparts.runnerCalls, (stoppedAmong_proceeds h.looks).2.2, hends.runner, hrunner,
      hends'.runner]

theorem concluded (he : e ∈ swept.lost)
    (hfresh : before.isFinalized s.retention time e = false) :
    Concludes e .allCrashed losses ∧ e ∉ after.tracker.executions := by
  have hlosses := h.losses
  rw [h.handled_lost hcons hswept] at hlosses
  refine hlosses.concluded_of_fresh (h.handled_consistent hcons hswept) Tracker.nodup_lost he ?_
  rw [h.handled_eq hcons hswept]
  intro hmem
  rcases h.completions.of_mem_finalized hmem with hmem | hmem
  · rw [Service.mem_finalized_forgetExpired.mp hmem] at hfresh
    cases hfresh
  · have htracked := ((swept_consistent hcons hswept).mem_lost_iff.mp he).1
    exact not_mem_executions_of_emptied hcons hswept e hmem htracked

theorem thorough (hparts : AskedInPass asked looks completions handling losses time) :
    Thorough s now time before asked summary swept after := by
  obtain ⟨completed, failed, hcompleted, hfailed, hends, hcalls⟩ :=
    h.exists_calls hcons hswept hparts
  have hnd : swept.crashed.toList.Nodup := Tracker.nodup_toList _
  have hcompletedNd : completed.Nodup := by
    refine hcompleted.nodup ?_
    rw [h.summary_eq, ← Tracker.sweepIn_ascending]
    exact Tracker.nodup_emptied_sweepIn
  constructor
  · refine ⟨(stopped.contains ·), fun c => ?_, hswept⟩
    rw [List.contains_iff_mem]
    exact h.mem_stopped_iff_looked hparts
  · intro c
    rw [hcalls.filter_reportsOn hnd]
    simp only [Std.ExtTreeSet.mem_toList]
  · intro c
    rw [hcalls.filter_stops hnd]
    simp only [Std.ExtTreeSet.mem_toList]
  · exact hcalls.filter_failsTests
  · exact fun e reason hmem => hcompleted.subset (hcalls.mem_completed hmem)
  · exact fun c => h.handled_of_crashed hcons hswept
  · intro e he hall hfresh
    have hlost := (swept_consistent hcons hswept).mem_lost_iff.mpr ⟨he, hall⟩
    obtain ⟨hconcluded, hgone⟩ := h.concluded hcons hswept hlost hfresh
    have hmem : e ∈ failed := by
      have hclean := hconcluded.2
      rw [hends.runner] at hclean
      simpa using hclean
    have hno : e ∉ completed := fun hmem =>
      not_mem_executions_of_emptied hcons hswept e (hcompleted.subset hmem) he
    obtain ⟨hreport, hclean⟩ :=
      hcalls.filter_failed hcompletedNd (hfailed.nodup Tracker.nodup_lost) hno hmem
    exact ⟨hreport, hclean, hgone⟩
  · exact fun c => h.kept hcons hswept

end Swept

end Passes

/-- Whatever has happened before, and however a pass goes while nothing else happens, whatever fails
in it: when it is over it has done all that its sweep has left to do. Passes do not get stuck. -/
theorem pass_thorough (s : LivenessSettings) (now : Instant) (ops : List Tracker.Operation)
    (finalized : Std.ExtTreeMap ExecutionId Nat compare) (launching : Names) :
    let before : Service := ⟨Tracker.empty.after ops, finalized, launching⟩
    (∃ asked summary after, (watch s now).Proceeds before asked summary after) ∧
    ∀ asked summary after, (watch s now).Proceeds before asked summary after →
      ∃ begun swept, asked.head?.map Asked.clock = some begun ∧
        Thorough s now begun before asked summary swept after := by
  intro before
  have hcons : before.tracker.Consistent := Tracker.Consistent.empty.after ops
  refine ⟨⟨_, _, _, proceeds_alone _ ⟨0, 0, 0⟩ (Rehearsal.Script.reply {}) before⟩, ?_⟩
  intro asked summary after h
  obtain ⟨looks, completions, handling, losses, stopped, time, settled, handled, hpass, hparts⟩ :=
    watch_proceeds h
  exact ⟨time, _, hparts.begun, hpass.thorough hcons (Prod.ext rfl hpass.summary_eq.symm) hparts⟩

/-- One agent of an execution has crashed, and the only one of another was told to end. -/
def declining : Service :=
  ⟨Tracker.empty.after [.upsert "e" "a" 0, .upsert "e" "b" 0, .upsert "f" "c" 0,
    .upsert "g" "d" 0, .markCrashed "a", .markTerminating "d"], ∅, ∅⟩

/-- The other agent has stopped too, and the one that was told to end is gone. Nothing but looks
works, and not all of them. -/
def troubles : Rehearsal.Script :=
  { stopped := .ofList ["b", "d"] compare
    rejected := ["is_stopped:c", "update_agent_status", "mark_test_executions_as_failed",
      "stop_by_agent_id", "update_execution_status", "cleanup"] }

def troubledPass : List Asked := (watch {} 0).asksAlone ⟨0, 0, 0⟩ troubles.reply declining

theorem pass_thorough_troubled :
    (∃ summary after, (watch {} 0).Proceeds declining troubledPass summary after ∧
      ∃ begun swept, troubledPass.head?.map Asked.clock = some begun ∧
        Thorough {} 0 begun declining troubledPass summary swept after) ∧
    backendCalls troubledPass =
      [.reportExecution "g" .finished none, .reportState "a" .crashed ⟨0, 0⟩,
        .reportState "b" .crashed ⟨0, 0⟩, .failTests ["a", "b"],
        .reportExecution "e" .error (some "all agents of the execution crashed")] ∧
    runnerCalls troubledPass =
      [.isStopped "a", .isStopped "b", .isStopped "c", .isStopped "d", .cleanup "g",
        .stopAgent "a", .stopAgent "b", .cleanup "e"] := by
  have hgoes := proceeds_alone (watch {} 0) ⟨0, 0, 0⟩ troubles.reply declining
  refine ⟨⟨_, _, hgoes, (pass_thorough {} 0 _ ∅ ∅).2 _ _ _ hgoes⟩, ?_, ?_⟩
  · decide +kernel
  · decide +kernel

end AgentFleet
