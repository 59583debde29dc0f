import AgentFleet.Proofs.Tracker.Live

/-!
What a sweep reports. Only containers that were seen to have stopped are reported as removed or as
stopped, and an execution is reported as emptied exactly if it was tracked before and is not any
more. Marking containers as crashed leaves the executions as they are.
-/

namespace AgentFleet.Tracker

variable {t : Tracker} {c d : ContainerId} {e : ExecutionId} {staleness : Int}
  {isStopped : ContainerId → Bool} {now : Instant}

namespace Consistent

/-- An execution is tracked by what is known of some container. -/
theorem mem_executions_iff_standing (h : t.Consistent) :
    e ∈ t.executions ↔ ∃ c known, t.standing c = some known ∧ known.owner = e := by
  constructor
  · intro he
    obtain ⟨c, hc⟩ := h.exists_mem_containersOf he
    obtain ⟨beat, -, hs⟩ := h.standing_of_owner (h.mem_containersOf.mp hc)
    exact ⟨c, _, hs, rfl⟩
  · rintro ⟨c, known, hs, rfl⟩
    exact mem_executions_of_mem (h.mem_containersOf.mpr (standing_eq_some_iff.mp hs).1)

/-! ### Emptied executions -/

theorem exists_removed (h : t.Consistent) {op : Operation} (he : e ∈ t.executions)
    (hgone : e ∉ (op.apply t).2.executions) :
    ∃ c known, t.standing c = some known ∧ known.owner = e ∧ op.affect c (some known) = none := by
  obtain ⟨c, known, hs, rfl⟩ := h.mem_executions_iff_standing.mp he
  refine ⟨c, known, hs, rfl, ?_⟩
  rw [(h.apply op).mem_executions_iff_standing] at hgone
  by_contra hsome
  obtain ⟨known', hknown'⟩ := Option.ne_none_iff_exists'.mp hsome
  exact hgone ⟨c, known', by rw [standing_apply h, hs, hknown'], (live_affect hknown').1⟩

theorem exists_registered (h : t.Consistent) {op : Operation} (hno : e ∉ t.executions)
    (he : e ∈ (op.apply t).2.executions) : ∃ c time, op = .upsert e c time := by
  obtain ⟨c, known', hs, rfl⟩ := (h.apply op).mem_executions_iff_standing.mp he
  rw [standing_apply h] at hs
  cases hknown : t.standing c with
  | none =>
    rw [hknown] at hs
    obtain ⟨e, time, rfl, rfl⟩ := registered_of_affect_none hs
    exact ⟨c, time, rfl⟩
  | some known =>
    rw [hknown] at hs
    refine (hno (h.mem_executions_iff_standing.mpr ⟨c, known, hknown, ?_⟩)).elim
    exact (live_affect hs).1.symm

theorem owner_of_emptied_delete (h : t.Consistent) (he : e ∈ t.executions)
    (hgone : e ∉ (t.delete c).executions) :
    ∃ known, t.standing c = some known ∧ known.owner = e := by
  obtain ⟨d, known, hs, ho, hnone⟩ :=
    h.exists_removed he (show e ∉ ((Operation.delete c).apply t).2.executions from hgone)
  simp only [Operation.affect] at hnone
  split at hnone
  next hcd => exact ⟨known, hcd ▸ hs, ho⟩
  next => cases hnone

theorem emptied_delete (h : t.Consistent) {known : Standing} (hc : t.standing c = some known) :
    e ∈ t.executions ∧ e ∉ (t.delete c).executions ↔
      e = known.owner ∧ e ∉ (t.delete c).executions := by
  refine and_congr_left fun hgone => ⟨fun he => ?_, ?_⟩
  · obtain ⟨other, hother, rfl⟩ := h.owner_of_emptied_delete he hgone
    rw [Option.some.inj (hc.symm.trans hother)]
  · rintro rfl
    exact h.mem_executions_iff_standing.mpr ⟨c, known, hc, rfl⟩

/-- When an execution is deleted no other is left without a container. -/
theorem eq_of_emptied_deleteExecution {e' : ExecutionId} (h : t.Consistent)
    (he : e' ∈ t.executions) (hgone : e' ∉ (t.deleteExecution e).executions) : e' = e := by
  obtain ⟨c, known, -, rfl, hnone⟩ :=
    h.exists_removed he (show e' ∉ ((Operation.deleteExecution e).apply t).2.executions from hgone)
  simpa [Operation.affect] using hnone

theorem emptied_sweepStopped (h : t.Consistent) (hc : c ∈ t.owner) (s : Summary) :
    e ∈ (t.sweepStopped s c).2.emptied ↔
      e ∈ s.emptied ∨ e ∈ t.executions ∧ e ∉ (t.sweepStopped s c).1.executions := by
  obtain ⟨owner, ho⟩ := mem_owner_iff.mp hc
  obtain ⟨beat, -, hs⟩ := h.standing_of_owner ho
  unfold Tracker.sweepStopped
  split
  · have hmem : owner ∉ (t.delete c).members ↔ owner ∉ (t.delete c).executions := by
      rw [executions, Std.ExtTreeMap.mem_keys]
    simp only [Tracker.purge, ho, h.emptied_delete hs, hmem]
    split
    next hnew =>
      rw [List.mem_append, List.mem_singleton]
      refine or_congr_right ⟨?_, And.left⟩
      rintro rfl
      exact ⟨rfl, hnew.1⟩
    next hold =>
      refine (or_iff_left_of_imp ?_).symm
      rintro ⟨rfl, hgone⟩
      exact Classical.not_not.mp fun hno => hold ⟨hgone, hno⟩
  · split
    · exact (or_iff_left fun hno => hno.2 hno.1).symm
    · exact (or_iff_left fun hno => hno.2 hno.1).symm

/-- No execution comes to be tracked by a sweep. -/
theorem executions_of_sweepStopped (h : t.Consistent) (hc : c ∈ t.owner) (s : Summary)
    (he : e ∈ (t.sweepStopped s c).1.executions) : e ∈ t.executions := by
  rw [(h.sweepStopped hc s).mem_executions_iff_standing] at he
  obtain ⟨d, known, hd, rfl⟩ := he
  rw [h.standing_sweepStopped hc] at hd
  rw [h.mem_executions_iff_standing]
  split at hd
  next =>
    obtain ⟨before, hbefore, hstop⟩ := Option.bind_eq_some_iff.mp hd
    obtain ⟨-, rfl⟩ := Standing.stop_eq_some_iff.mp hstop
    exact ⟨d, before, hbefore, rfl⟩
  next => exact ⟨d, known, hd, rfl⟩

theorem owned_sweepStopped (h : t.Consistent) (hc : c ∈ t.owner) (hd : d ∈ t.owner) (hne : c ≠ d)
    (s : Summary) : d ∈ (t.sweepStopped s c).1.owner := by
  refine Classical.byContradiction fun hno => ?_
  rw [← (h.sweepStopped hc s).standing_eq_none_iff, h.standing_sweepStopped hc, if_neg hne,
    h.standing_eq_none_iff] at hno
  exact hno hd

theorem emptied_sweepStopped_foldl (h : t.Consistent) {cs : List ContainerId} (hnd : cs.Nodup)
    (hcs : ∀ c ∈ cs, c ∈ t.owner) (s : Summary) :
    let r := cs.foldl (fun (t, s) c => t.sweepStopped s c) (t, s)
    (e ∈ r.2.emptied ↔ e ∈ s.emptied ∨ e ∈ t.executions ∧ e ∉ r.1.executions) ∧
      (e ∈ r.1.executions → e ∈ t.executions) := by
  induction cs generalizing t s with
  | nil => simp
  | cons c cs ih =>
    obtain ⟨hnot, hnd⟩ := List.nodup_cons.mp hnd
    have hc := hcs c (by simp)
    have howned : ∀ d ∈ cs, d ∈ (t.sweepStopped s c).1.owner := fun d hd =>
      h.owned_sweepStopped hc (hcs d (by simp [hd])) (fun heq => hnot (heq ▸ hd)) s
    obtain ⟨hemptied, hshrinks⟩ := ih (h.sweepStopped hc s) hnd howned (t.sweepStopped s c).2
    have hstep := h.executions_of_sweepStopped hc s (e := e)
    refine ⟨hemptied.trans ?_, fun he => hstep (hshrinks he)⟩
    rw [h.emptied_sweepStopped hc]
    -- An execution that is gone in the end was left without a container now or later.
    tauto

/-- A sweep reports just those executions as emptied that were tracked before it and are not any
more. -/
theorem mem_emptied_sweepIn_iff (h : t.Consistent) (order : Order) :
    e ∈ (t.sweepIn order staleness isStopped now).2.emptied ↔
      e ∈ t.executions ∧ e ∉ (t.sweepIn order staleness isStopped now).1.executions := by
  obtain ⟨hemptied, -⟩ := h.emptied_sweepStopped_foldl (e := e)
    (nodup_visited t order isStopped) (fun _ => owned_of_visited) {}
  exact hemptied.trans (or_iff_right List.not_mem_nil)

theorem mem_emptied_iff (h : t.Consistent) :
    e ∈ (t.sweep staleness isStopped now).2.emptied ↔
      e ∈ t.executions ∧ e ∉ (t.sweep staleness isStopped now).1.executions :=
  h.mem_emptied_sweepIn_iff .ascending

end Consistent

/-! ### Stopped containers -/

theorem stoppedUnexpectedly_sweepStopped (s : Summary) :
    (t.sweepStopped s c).2.stoppedUnexpectedly ⊆ c :: s.stoppedUnexpectedly := by
  unfold sweepStopped
  split
  · unfold purge
    split <;> exact List.subset_cons_self _ _
  · split
    · exact List.subset_cons_self _ _
    · exact fun d hd => by simpa [or_comm] using hd

theorem stoppedUnexpectedly_sweepStopped_foldl (cs : List ContainerId) (s : Summary) :
    (cs.foldl (fun (t, s) c => t.sweepStopped s c) (t, s)).2.stoppedUnexpectedly ⊆
      cs ++ s.stoppedUnexpectedly := by
  induction cs generalizing t s with
  | nil => exact List.Subset.refl _
  | cons c cs ih =>
    intro d hd
    rcases List.mem_append.mp (ih _ hd) with hd | hd
    · simp [hd]
    · rcases List.mem_cons.mp (stoppedUnexpectedly_sweepStopped s hd) with rfl | hd
      · simp
      · simp [hd]

/-- Only containers that were seen to have stopped are reported as removed or as stopped. -/
theorem Consistent.isStopped_of_reported (h : t.Consistent)
    (hc : c ∈ (t.sweep staleness isStopped now).2.purged ∨
      c ∈ (t.sweep staleness isStopped now).2.stoppedUnexpectedly) : isStopped c = true := by
  rcases hc with hc | hc
  · rw [h.sweep_spec.2.2] at hc
    exact (List.mem_filter.mp (List.mem_filter.mp hc).1).2
  · have hmem := stoppedUnexpectedly_sweepStopped_foldl _ _ hc
    rw [List.append_nil] at hmem
    exact (List.mem_filter.mp hmem).2

end AgentFleet.Tracker
