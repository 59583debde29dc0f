import AgentFleet.Proofs.Fleet.Handling
import AgentFleet.Proofs.Tracker.Crashes

/-!
How crashed containers leave the tracker. Once a pass has seen a container as crashed it makes the
call that fails the container's tests before it lets the container go: before it marks the crash as
handled, so that a later sweep removes the container, and before it ends an execution that has lost
all its containers. The call is made, but it may fail, and a container may leave by another way: it
is told to end after it has crashed, it crashes after the pass has looked, or it is forgotten and
comes back while its crash is dealt with.
-/

namespace AgentFleet

def Event.failed : Event → List ContainerId
  | ⟨_, _, _, .backend (.failTests cs), .ok _⟩ => cs
  | _ => []

theorem Event.of_exchange_backend {ev : Event} {s : Service} {call : BackendCall}
    {answer : call.Answer} (h : ev.exchange s = ⟨.backend call, answer⟩) :
    ev.act = .backend call := (Sigma.mk.inj h).1

namespace Fleet

variable {s : Settings} {moves : List Move} {c : ContainerId} {ev : Event}
  {log older seen called : List Event}

def Flagged (c : ContainerId) (log : List Event) : Prop := c ∈ (trackerAfter log).crashed

instance : Decidable (Flagged c log) := inferInstanceAs (Decidable (c ∈ (trackerAfter log).crashed))

/-- The container has counted as crashed from one point of the log to a later one. -/
def FlaggedSince (c : ContainerId) (since log : List Event) : Prop :=
  ∀ between, since <:+ between → between <:+ log → Flagged c between

def PurgedBy (c : ContainerId) (ev : Event) (older : List Event) : Prop :=
  ∃ staleness isStopped now, ∃ summary : Tracker.Summary,
    ev.exchange (serviceAfter older) =
      ⟨.memory (.tracker (.sweep staleness isStopped now)), summary⟩ ∧ c ∈ summary.purged

/-- The container is removed with its execution, by a pass that ends executions all of whose
containers have crashed. -/
def EndedBy (c : ContainerId) (ev : Event) (older : List Event) : Prop :=
  ∃ e, ∃ lost : List ExecutionId, ev.act = .memory (.tracker (.deleteExecution e)) ∧
    ⟨.memory (.tracker .lost), lost⟩ ∈ pastOf ev.strand older ∧
    c ∈ (trackerAfter older).containersOf e

/-- An activity listed the container as crashed when the log was `seen`, and when it was `called` it
made the call that fails the tests of the containers that it had listed. -/
def CallMade (c : ContainerId) (i : Nat) (seen called log : List Event) : Prop :=
  ∃ listed call cs, listed :: seen <:+ called ∧ call :: called <:+ log ∧
    listed.strand = i ∧ call.strand = i ∧ listed.exchange (serviceAfter seen) = listing cs ∧
    call.act = .backend (.failTests cs) ∧ c ∈ cs

/-- The tests of the container were failed, with success, since it counts as crashed. -/
def FailedSinceCrash (c : ContainerId) (log : List Event) : Prop :=
  ∃ call called, call :: called <:+ log ∧ c ∈ call.failed ∧ FlaggedSince c called log

/-! ### Points of the log -/

theorem FlaggedSince.trans {middle : List Event} (h : FlaggedSince c seen middle)
    (h' : FlaggedSince c middle log) (hsub : middle <:+ log) : FlaggedSince c seen log := by
  intro between hsince hlog
  rcases List.suffix_or_suffix_of_suffix hlog hsub with hle | hge
  · exact h between hsince hle
  · exact h' between hge hlog

theorem FlaggedSince.later (h : FlaggedSince c seen log) (hsub : seen <:+ called) :
    FlaggedSince c called log := fun between hsince => h between (hsub.trans hsince)

theorem operations_prefix (h : older <:+ log) : operations older <+: operations log := by
  obtain ⟨newer, rfl⟩ := h
  induction newer with
  | nil => exact List.prefix_rfl
  | cons ev newer ih => exact ih.trans (List.prefix_append _ _)

/-- An operation of the tracker is in the log, at the point where those before it were carried
out. -/
theorem exists_event_of_operations {before later : List Tracker.Operation} {op : Tracker.Operation}
    (h : operations log = before ++ op :: later) :
    ∃ ev older, ev :: older <:+ log ∧ ev.act = .memory (.tracker op) ∧
      operations older = before := by
  induction log generalizing later with
  | nil => simp [operations] at h
  | cons ev older ih =>
    have hskip (later) (h : operations older = before ++ op :: later) : ∃ ev' older',
        ev' :: older' <:+ ev :: older ∧ ev'.act = .memory (.tracker op) ∧
          operations older' = before := by
      obtain ⟨ev', older', hsub, hact, hops⟩ := ih h
      exact ⟨ev', older', hsub.trans (List.suffix_cons _ _), hact, hops⟩
    rw [operations] at h
    unfold Act.operations at h
    split at h
    next o hact =>
      rcases List.eq_nil_or_concat later with rfl | ⟨later, o', rfl⟩
      · obtain ⟨hops, rfl⟩ := List.append_singleton_inj.mp h
        exact ⟨ev, older, List.suffix_rfl, hact, hops⟩
      · rw [List.concat_eq_append, ← List.cons_append, ← List.append_assoc] at h
        exact hskip later (List.append_singleton_inj.mp h).1
    next => exact hskip later (by rw [← h, List.append_nil])

/-! ### Calls and marks in the log -/

theorem callMade_of_testsFailed {cs : List ContainerId} {before : Procedure.Past Act.Answer}
    {i : Nat} (h : TestsFailed cs before (pastOf i log)) (hc : c ∈ cs) :
    ∃ seen called listed, CallMade c i seen called log ∧ listed :: seen <:+ called ∧
      listed.strand = i ∧ pastOf i seen = before := by
  obtain ⟨outcome, between, hcall, hlist⟩ := h
  obtain ⟨call, called, hlog, hi, hx, rfl⟩ := exists_event_of_past hcall
  obtain ⟨listed, seen, hseen, hi', hx', hpast⟩ := exists_event_of_past hlist
  have hmade : CallMade c i seen called log :=
    ⟨listed, call, cs, hseen, hlog, hi', hi, hx', Event.of_exchange_backend hx, hc⟩
  exact ⟨seen, called, listed, hmade, hseen, hi', hpast⟩

theorem CallMade.seen_suffix {i : Nat} (h : CallMade c i seen called log) : seen <:+ called := by
  obtain ⟨listed, call, cs, hsub, -⟩ := h
  exact older_suffix hsub

theorem CallMade.called_suffix {i : Nat} (h : CallMade c i seen called log) : called <:+ log := by
  obtain ⟨listed, call, cs, -, hsub, -⟩ := h
  exact older_suffix hsub

/-- A crash that was handled was marked as handled by an event since then. -/
theorem exists_mark_of_handled (h : Tracker.HandledSinceCrash c (operations log)) :
    ∃ mark marked cs, mark :: marked <:+ log ∧ mark.act = .memory (.tracker (.markHandled cs)) ∧
      c ∈ cs ∧ FlaggedSince c marked log := by
  obtain ⟨before, op, later, hops, hhandles, -, hthrough⟩ := h
  obtain ⟨mark, marked, hsub, hact, rfl⟩ := exists_event_of_operations hops
  unfold Tracker.Operation.Handles at hhandles
  split at hhandles
  next cs =>
    refine ⟨mark, marked, cs, hsub, hact, hhandles, fun between hsince hlog => ?_⟩
    obtain ⟨done, hdone⟩ := operations_prefix hsince
    have hpre : done <+: .markHandled cs :: later := by
      rw [← List.prefix_append_right_inj (operations marked), hdone, ← hops]
      exact operations_prefix hlog
    rw [Flagged, trackerAfter_eq, ← hdone]
    exact hthrough done hpre
  next => exact hhandles.elim

theorem handled_of_purged (hpurged : PurgedBy c ev older) (hcr : Flagged c older)
    (htold : ¬ Tracker.ToldSinceCrash c (operations older)) :
    Tracker.HandledSinceCrash c (operations older) := by
  obtain ⟨staleness, isStopped, now, summary, hx, hmem⟩ := hpurged
  obtain ⟨-, hanswer, -⟩ := Event.of_exchange_memory hx
  have hsum : ((trackerAfter older).sweep staleness isStopped now).2 = summary := hanswer
  rw [← hsum, (consistent_trackerAfter older).mem_purged_iff] at hmem
  have hpurge := hmem.2.2
  rw [Flagged] at hcr
  rw [trackerAfter_eq] at hcr hpurge
  exact ((Tracker.isPurgeable_of_crashed hcr).mp hpurge).resolve_right htold

/-- Before a pass marks a crash as handled it makes the call. -/
theorem callMade_of_mark {mark : Event} {marked : List Event} {cs : List ContainerId}
    (hlog : mark :: marked <:+ (after s moves).log)
    (hact : mark.act = .memory (.tracker (.markHandled cs))) (hc : c ∈ cs) :
    mark.cause.IsPass ∧ ∃ seen called, CallMade c mark.strand seen called marked := by
  have hrule := (traced_after (crashRule_kept s) moves).obeyed mark marked hlog
  rw [hact] at hrule
  obtain ⟨hpass, before, hfailed⟩ := hrule
  obtain ⟨seen, called, -, hmade, -⟩ := callMade_of_testsFailed hfailed hc
  exact ⟨hpass, seen, called, hmade⟩

/-- Before an activity removes an execution it makes the call for all crashes that it has listed. -/
theorem callMade_of_listed {e : ExecutionId} {listed : Event} {cs : List ContainerId}
    (hlog : ev :: older <:+ (after s moves).log)
    (hact : ev.act = .memory (.tracker (.deleteExecution e))) (hsub : listed :: seen <:+ older)
    (hi : listed.strand = ev.strand) (hx : listed.exchange (serviceAfter seen) = listing cs)
    (hc : c ∈ cs) : ∃ called, CallMade c ev.strand seen called older := by
  have hset := (traced_after (crashRule_kept s) moves).obeyed ev older hlog
  rw [hact] at hset
  have hlisting : listing cs :: pastOf ev.strand seen <:+ pastOf ev.strand older := by
    have hpast := pastOf_suffix (i := ev.strand) hsub
    rwa [pastOf, if_pos hi, hx] at hpast
  obtain ⟨seen', called, listed', hmade, hseen, hi', hpast⟩ :=
    callMade_of_testsFailed (hset cs _ hlisting (List.ne_nil_of_mem hc)) hc
  -- The list that the rule speaks of is this one, as nothing else has the same past.
  obtain rfl : seen' = seen := by
    have hsub' := hseen.trans hmade.called_suffix
    have heq := eq_of_past_length hsub' hsub (hi'.trans hi.symm) (by rw [hi', hpast])
    exact (List.cons.inj heq).2
  exact ⟨called, hmade⟩

/-- Before an activity asks for lost executions it has listed the crashed containers. -/
theorem exists_listed_of_lost {i : Nat} {lost : List ExecutionId}
    (hlog : older <:+ (after s moves).log)
    (hlost : ⟨.memory (.tracker .lost), lost⟩ ∈ pastOf i older) :
    ∃ listed seen cs, listed :: seen <:+ older ∧ listed.strand = i ∧
      listed.exchange (serviceAfter seen) = listing cs := by
  obtain ⟨asked, asking, hsub, hi, hx⟩ := exists_event_of_mem_past hlost
  have hrule := (traced_after (crashRule_kept s) moves).obeyed asked asking (hsub.trans hlog)
  rw [(Event.of_exchange_memory hx).1, hi] at hrule
  obtain ⟨cs, hmem⟩ := hrule
  obtain ⟨listed, seen, hsub', hi', hx'⟩ := exists_event_of_mem_past hmem
  exact ⟨listed, seen, cs, hsub'.trans (older_suffix hsub), hi', hx'⟩

/-- When a sweep removes a container that counts as crashed and was not told to end since, then its
crash was marked as handled since, by a pass that had listed it as crashed and then made the call
that fails its tests. When a pass ends an execution all of whose containers have crashed, it has
listed the crashed containers, and for those that it listed it has made the call. In both cases the
call was made since the container counts as crashed, if that was so all the time after it was
listed. -/
theorem crash_retired_after_call (s : Settings) (moves : List Move) (c : ContainerId) (ev : Event)
    (older : List Event) (hlog : ev :: older <:+ (after s moves).log) (hcr : Flagged c older) :
    (PurgedBy c ev older → ¬ Tracker.ToldSinceCrash c (operations older) →
      ∃ mark marked cs seen called, mark :: marked <:+ older ∧ mark.cause.IsPass ∧
        mark.act = .memory (.tracker (.markHandled cs)) ∧ c ∈ cs ∧ FlaggedSince c marked older ∧
        CallMade c mark.strand seen called marked ∧
        (FlaggedSince c seen marked → FlaggedSince c called older)) ∧
    (EndedBy c ev older →
      (∃ listed seen cs, listed :: seen <:+ older ∧ listed.strand = ev.strand ∧
        listed.exchange (serviceAfter seen) = listing cs) ∧
      ∀ listed seen cs, listed :: seen <:+ older → listed.strand = ev.strand →
        listed.exchange (serviceAfter seen) = listing cs → c ∈ cs →
        ∃ called, CallMade c ev.strand seen called older ∧
          (FlaggedSince c seen older → FlaggedSince c called older)) := by
  constructor
  · intro hpurged htold
    have hhandled := handled_of_purged hpurged hcr htold
    obtain ⟨mark, marked, cs, hsub, hact, hc, hsince⟩ := exists_mark_of_handled hhandled
    obtain ⟨hpass, seen, called, hmade⟩ :=
      callMade_of_mark (hsub.trans (older_suffix hlog)) hact hc
    refine ⟨mark, marked, cs, seen, called, hsub, hpass, hact, hc, hsince, hmade, fun hseen => ?_⟩
    exact (hseen.later hmade.seen_suffix).trans hsince (older_suffix hsub)
  · rintro ⟨e, lost, hact, hlost, -⟩
    refine ⟨exists_listed_of_lost (older_suffix hlog) hlost, fun listed seen cs hsub hi hx hc => ?_⟩
    obtain ⟨called, hmade⟩ := callMade_of_listed hlog hact hsub hi hx hc
    exact ⟨called, hmade, fun hsince => hsince.later hmade.seen_suffix⟩

/-- The backend rejects the call; the container has stopped and is removed by the next pass. -/
def rejectedCall : List Move :=
  beat .crashed "e" "a" :: beat .busy "e" "b" :: .begin (.turn .watch 0) ::
    .begin (.turn .watch 0) :: (steps {} 0 4 ++ steps {} 1 3 ++
      steps { stopped := .ofList ["a"] compare
              rejected := ["mark_test_executions_as_failed"] } 2 11 ++
      steps { stopped := .ofList ["a"] compare } 3 5)

def lostExecution : List Move :=
  beat .crashed "e" "a" :: .begin (.turn .watch 0) :: (steps {} 0 4 ++ steps {} 1 13)

theorem crash_retired_after_call_in_runs :
    (∃ ev older, ev :: older <:+ (after briefSettings rejectedCall).log ∧ Flagged "a" older ∧
      PurgedBy "a" ev older ∧ ∃ i seen called marked, CallMade "a" i seen called marked) ∧
    ∃ ev older, ev :: older <:+ (after briefSettings lostExecution).log ∧ Flagged "a" older ∧
      EndedBy "a" ev older ∧ ∃ listed seen cs, listed :: seen <:+ older ∧
        listed.strand = ev.strand ∧ listed.exchange (serviceAfter seen) = listing cs := by
  constructor
  · obtain ⟨ev, older, hlog, hpurged, hcr, hnot⟩ : ∃ ev older,
        (after briefSettings rejectedCall).log = ev :: older ∧ PurgedBy "a" ev older ∧
        Flagged "a" older ∧ "a" ∉ (trackerAfter older).terminating :=
      ⟨_, _, rfl, ⟨_, _, _, _, rfl, by decide⟩, by decide, by decide⟩
    have hsub : ev :: older <:+ (after briefSettings rejectedCall).log := hlog ▸ List.suffix_rfl
    have htold : ¬ Tracker.ToldSinceCrash "a" (operations older) := by
      have hmarks := hcr
      rw [Flagged, trackerAfter_eq] at hmarks
      rw [trackerAfter_eq] at hnot
      rwa [← (Tracker.marks_of_crashed hmarks).2]
    obtain ⟨mark, marked, _, seen, called, _, _, _, _, _, hmade, _⟩ :=
      (crash_retired_after_call _ _ _ _ _ hsub hcr).1 hpurged htold
    exact ⟨ev, older, hsub, hcr, hpurged, mark.strand, seen, called, marked, hmade⟩
  · obtain ⟨ev, older, hlog, hended, hcr⟩ : ∃ ev older,
        (after briefSettings lostExecution).log = ev :: older ∧ EndedBy "a" ev older ∧
        Flagged "a" older :=
      ⟨_, _, rfl, ⟨_, _, rfl, List.mem_of_getElem? (i := 2) rfl, by decide⟩, by decide⟩
    have hsub : ev :: older <:+ (after briefSettings lostExecution).log := hlog ▸ List.suffix_rfl
    exact ⟨ev, older, hsub, hcr, hended,
      ((crash_retired_after_call _ _ _ _ _ hsub hcr).2 hended).1⟩

/-! ### Crashes whose tests are not failed -/

theorem failedSinceCrash_cons :
    FailedSinceCrash c (ev :: older) ↔ Flagged c (ev :: older) ∧
      (c ∈ ev.failed ∧ Flagged c older ∨ FailedSinceCrash c older) := by
  constructor
  · rintro ⟨call, called, hsub, hc, hsince⟩
    have hcalled := older_suffix hsub
    refine ⟨hsince _ hcalled List.suffix_rfl, ?_⟩
    rcases List.suffix_cons_iff.mp hsub with he | hsub
    · obtain ⟨rfl, rfl⟩ := List.cons.inj he
      exact .inl ⟨hc, hsince _ List.suffix_rfl hcalled⟩
    · exact .inr ⟨call, called, hsub, hc, fun between h hlog =>
        hsince between h (hlog.trans (List.suffix_cons _ _))⟩
  · rintro ⟨hnow, ⟨hc, hflag⟩ | ⟨call, called, hsub, hc, hsince⟩⟩
    · refine ⟨ev, older, List.suffix_rfl, hc, fun between h hlog => ?_⟩
      rcases List.suffix_cons_iff.mp hlog with rfl | hlog
      · exact hnow
      · obtain rfl := hlog.eq_of_length_le h.length_le
        exact hflag
    · refine ⟨call, called, hsub.trans (List.suffix_cons _ _), hc, fun between h hlog => ?_⟩
      rcases List.suffix_cons_iff.mp hlog with rfl | hlog
      · exact hnow
      · exact hsince between h hlog

theorem not_failedSinceCrash_nil : ¬ FailedSinceCrash c [] := by
  rintro ⟨call, called, hsub, -⟩
  cases List.suffix_nil.mp hsub

instance decidableFailedSinceCrash (c : ContainerId) :
    (log : List Event) → Decidable (FailedSinceCrash c log)
  | [] => .isFalse not_failedSinceCrash_nil
  | _ :: older =>
    have := decidableFailedSinceCrash c older
    decidable_of_iff' _ failedSinceCrash_cons

/-- A run at the end of which a crashed container leaves the tracker although its tests were not
failed since its crash. -/
def RetiresUntested (c : ContainerId) (moves : List Move) : Prop :=
  ∃ ev older, (after briefSettings moves).log = ev :: older ∧
    (PurgedBy c ev older ∨ EndedBy c ev older) ∧ Flagged c older ∧ ¬ FailedSinceCrash c older

def toldAfterCrash : List Move :=
  beat .crashed "e" "a" :: beat .idle "e" "a" :: .begin (.turn .watch 0) ::
    (steps {} 0 4 ++ steps {} 1 6 ++ steps { stopped := .ofList ["a"] compare } 2 4)

/-- The container crashes after the pass has looked which containers have crashed, and before it
looks which executions are lost. -/
def crashedMeanwhile : List Move :=
  beat .busy "e" "a" :: .begin (.turn .watch 0) :: beat .crashed "e" "a" ::
    (steps {} 0 3 ++ steps {} 1 5 ++ steps {} 2 4 ++ steps {} 1 4)

/-- While the crash is dealt with, the execution is cleaned up and the container comes back. -/
def cameBack : List Move :=
  beat .crashed "e" "a" :: .begin (.turn .watch 0) :: .begin (.request (.cleanup "e")) ::
    beat .crashed "e" "a" ::
      (steps {} 0 4 ++ steps {} 1 8 ++ steps {} 2 2 ++ steps {} 3 4 ++ steps {} 1 5)

/-- Crashed containers may leave the tracker without their tests having been failed. -/
theorem crashes_retired_untested :
    RetiresUntested "a" rejectedCall ∧ RetiresUntested "a" toldAfterCrash ∧
      RetiresUntested "a" crashedMeanwhile ∧ RetiresUntested "a" cameBack := by
  refine ⟨?_, ?_, ?_, ?_⟩
  · exact ⟨_, _, rfl, .inl ⟨_, _, _, _, rfl, by decide⟩, by decide, by decide⟩
  · exact ⟨_, _, rfl, .inl ⟨_, _, _, _, rfl, by decide⟩, by decide, by decide⟩
  · exact ⟨_, _, rfl, .inr ⟨_, _, rfl, List.mem_of_getElem? (i := 2) rfl, by decide⟩,
      by decide, by decide⟩
  · exact ⟨_, _, rfl, .inr ⟨_, _, rfl, List.mem_of_getElem? (i := 2) rfl, by decide⟩,
      by decide, by decide⟩

end Fleet

end AgentFleet
