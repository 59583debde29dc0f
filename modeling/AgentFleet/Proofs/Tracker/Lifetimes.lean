import AgentFleet.Proofs.Tracker.Effect
import AgentFleet.Proofs.Tracker.Live

/-!
Sweeping again and again. As long as the tracker knows a container, the sweeps mark it as crashed at
most once and remove it at most once, whatever else is done to the tracker in between; and a sweep
that is repeated at once finds nothing to do.
-/

namespace AgentFleet.Tracker

variable {t t' t'' : Tracker} {c : ContainerId} {s s' : Summary} {op : Operation} {order : Order}
  {steps : List (Operation × Order)} {staleness : Int} {isStopped : ContainerId → Bool}
  {now : Instant}

/-- Carries an operation out and tells what it did to the containers, where a sweep comes upon them
in some order. -/
def Operation.applyIn (order : Order) : Operation → Tracker → Tracker × Summary
  | .sweep staleness isStopped now, t => t.sweepIn order staleness isStopped now
  | op, t => ((op.apply t).2, {})

/-- The tracker knows the container whenever one of the operations begins. -/
def TracksThrough (c : ContainerId) : Tracker → List (Operation × Order) → Prop
  | _, [] => True
  | t, (op, order) :: steps => c ∈ t.owner ∧ TracksThrough c (op.applyIn order t).1 steps

def afterIn (t : Tracker) (steps : List (Operation × Order)) : Tracker :=
  steps.foldl (fun t step => (step.1.applyIn step.2 t).1) t

def listed (list : Summary → List ContainerId) :
    Tracker → List (Operation × Order) → List ContainerId
  | _, [] => []
  | t, (op, order) :: steps =>
    list (op.applyIn order t).2 ++ listed list (op.applyIn order t).1 steps

/-! ### One operation -/

namespace Consistent

theorem applyIn_fst (h : t.Consistent) : (op.applyIn order t).1 = (op.apply t).2 := by
  cases op with
  | sweep staleness isStopped now => exact h.sweepIn_fst order .ascending
  | _ => rfl

theorem applyIn (h : t.Consistent) : (op.applyIn order t).1.Consistent := by
  rw [h.applyIn_fst]
  exact h.apply op

/-- Nothing takes the mark of a crash from a container that stays. -/
theorem crashed_applyIn (h : t.Consistent) (hc : c ∈ t.crashed)
    (hstays : c ∈ (op.applyIn order t).1.owner) : c ∈ (op.applyIn order t).1.crashed := by
  rw [h.applyIn_fst] at hstays ⊢
  obtain ⟨known, hs, hcrashed⟩ := h.crashed_iff.mp hc
  obtain ⟨known', hs'⟩ := (h.apply op).exists_standing hstays
  have haffect : op.affect c (some known) = some known' := by
    rw [← hs, ← standing_apply h]
    exact hs'
  exact (h.apply op).crashed_iff.mpr ⟨known', hs', (live_affect haffect).2 hcrashed⟩

/-- A container that is listed as crashed was not crashed before, is so afterwards, and is listed
once. -/
theorem newlyCrashed_applyIn (h : t.Consistent)
    (hc : c ∈ (op.applyIn order t).2.newlyCrashed) :
    c ∉ t.crashed ∧ c ∈ (op.applyIn order t).1.crashed ∧
      (op.applyIn order t).2.newlyCrashed.count c = 1 := by
  cases op with
  | sweep staleness isStopped now =>
    obtain ⟨hkept, hnew⟩ := h.not_purged_of_newlyCrashed hc
    exact ⟨hnew, (h.marks_sweepIn hkept).2.1.mpr (.inr hc),
      List.count_eq_one_of_mem h.nodup_newlyCrashed_sweepIn hc⟩
  | _ => exact (List.not_mem_nil hc).elim

/-- A container that is listed as removed is gone, and is listed once. -/
theorem purged_applyIn (h : t.Consistent) (hc : c ∈ (op.applyIn order t).2.purged) :
    c ∉ (op.applyIn order t).1.owner ∧ (op.applyIn order t).2.purged.count c = 1 := by
  cases op with
  | sweep staleness isStopped now =>
    exact ⟨(h.forgets_of_purged hc).owner, List.count_eq_one_of_mem h.nodup_purged_sweepIn hc⟩
  | _ => exact (List.not_mem_nil hc).elim

/-! ### As long as a container is known -/

theorem tracked_first (hthrough : t.TracksThrough c steps) (hafter : c ∈ (t.afterIn steps).owner) :
    c ∈ t.owner := by
  cases steps with
  | nil => exact hafter
  | cons step steps => exact hthrough.1

theorem crashed_afterIn (h : t.Consistent) (hthrough : t.TracksThrough c steps)
    (hc : c ∈ t.crashed) (hafter : c ∈ (t.afterIn steps).owner) :
    c ∈ (t.afterIn steps).crashed := by
  induction steps generalizing t with
  | nil => exact hc
  | cons step steps ih =>
    obtain ⟨op, order⟩ := step
    have hstays := tracked_first hthrough.2 hafter
    exact ih h.applyIn hthrough.2 (h.crashed_applyIn hc hstays) hafter

/-- A container that has crashed is not listed again. -/
theorem not_listed_newlyCrashed (h : t.Consistent) (hthrough : t.TracksThrough c steps)
    (hc : c ∈ t.crashed) : c ∉ listed Summary.newlyCrashed t steps := by
  induction steps generalizing t with
  | nil => exact List.not_mem_nil
  | cons step steps ih =>
    obtain ⟨op, order⟩ := step
    rw [listed, List.mem_append, not_or]
    refine ⟨fun hnew => (h.newlyCrashed_applyIn hnew).1 hc, ?_⟩
    cases steps with
    | nil => exact List.not_mem_nil
    | cons step steps =>
      exact ih h.applyIn hthrough.2 (h.crashed_applyIn hc hthrough.2.1)

theorem count_newlyCrashed_le_one (h : t.Consistent) (hthrough : t.TracksThrough c steps) :
    (listed Summary.newlyCrashed t steps).count c ≤ 1 := by
  induction steps generalizing t with
  | nil => exact Nat.zero_le 1
  | cons step steps ih =>
    obtain ⟨op, order⟩ := step
    rw [listed, List.count_append]
    by_cases hnew : c ∈ (op.applyIn order t).2.newlyCrashed
    · obtain ⟨-, hcrashed, hone⟩ := h.newlyCrashed_applyIn hnew
      have hlater := h.applyIn.not_listed_newlyCrashed hthrough.2 hcrashed
      have hnone := List.count_eq_zero_of_not_mem hlater
      omega
    · rw [List.count_eq_zero_of_not_mem hnew, Nat.zero_add]
      exact ih h.applyIn hthrough.2

theorem count_purged_le_one (h : t.Consistent) (hthrough : t.TracksThrough c steps) :
    (listed Summary.purged t steps).count c ≤ 1 := by
  induction steps generalizing t with
  | nil => exact Nat.zero_le 1
  | cons step steps ih =>
    obtain ⟨op, order⟩ := step
    rw [listed, List.count_append]
    by_cases hpurged : c ∈ (op.applyIn order t).2.purged
    · obtain ⟨hgone, hone⟩ := h.purged_applyIn hpurged
      -- The container is not known any more, so the removal was the last of the operations.
      cases steps with
      | nil => exact Nat.le_of_eq hone
      | cons step steps => exact (hgone hthrough.2.1).elim
    · rw [List.count_eq_zero_of_not_mem hpurged, Nat.zero_add]
      exact ih h.applyIn hthrough.2

end Consistent

/-! ### Sweeping once more -/

namespace SweepsTo

theorem kept (hsweep : t.SweepsTo staleness isStopped now t' s) (hc : c ∈ t'.owner) :
    c ∉ s.purged ∧ c ∈ t.owner := by
  have hkept : c ∉ s.purged := fun hpurged => (hsweep.forgotten c hpurged).owner hc
  obtain ⟨e, ho⟩ := mem_owner_iff.mp hc
  rw [hsweep.owner_eq c hkept] at ho
  exact ⟨hkept, mem_owner_iff.mpr ⟨e, ho⟩⟩

theorem purged_again (hsweep : t.SweepsTo staleness isStopped now t' s)
    (hagain : t'.SweepsTo staleness isStopped now t'' s') : s'.purged = [] := by
  rw [List.eq_nil_iff_forall_not_mem]
  intro c hc
  obtain ⟨hc', hstop, hmark⟩ := (hagain.purged_iff c).mp hc
  obtain ⟨hkept, ho⟩ := hsweep.kept hc'
  rw [hsweep.handled_iff c hkept, hsweep.terminating_iff c hkept] at hmark
  exact hkept ((hsweep.purged_iff c).mpr ⟨ho, hstop, hmark⟩)

theorem stoppedUnexpectedly_again (hsweep : t.SweepsTo staleness isStopped now t' s)
    (hagain : t'.SweepsTo staleness isStopped now t'' s') : s'.stoppedUnexpectedly = [] := by
  rw [List.eq_nil_iff_forall_not_mem]
  intro c hc
  obtain ⟨hc', hstop, hh, ht, hcr⟩ := (hagain.stoppedUnexpectedly_iff c).mp hc
  obtain ⟨hkept, ho⟩ := hsweep.kept hc'
  rw [hsweep.handled_iff c hkept] at hh
  rw [hsweep.terminating_iff c hkept] at ht
  rw [hsweep.crashed_iff c hkept, not_or] at hcr
  have hnews := (hsweep.stoppedUnexpectedly_iff c).mpr ⟨ho, hstop, hh, ht, hcr.1⟩
  exact hcr.2 ((hsweep.newlyCrashed_iff c).mpr (.inl hnews))

theorem newlyCrashed_again (hsweep : t.SweepsTo staleness isStopped now t' s)
    (hagain : t'.SweepsTo staleness isStopped now t'' s') : s'.newlyCrashed = [] := by
  rw [List.eq_nil_iff_forall_not_mem]
  intro c hc
  rw [hagain.newlyCrashed_iff, hsweep.stoppedUnexpectedly_again hagain] at hc
  obtain hc | ⟨hstop, hcr, ht, beat, hbeat, hsilent⟩ := hc
  · exact List.not_mem_nil hc
  · have hkept : c ∉ s.purged := by
      intro hpurged
      rw [hsweep.purged_iff, hstop] at hpurged
      exact Bool.noConfusion hpurged.2.1
    rw [hsweep.crashed_iff c hkept, not_or] at hcr
    rw [hsweep.terminating_iff c hkept] at ht
    rw [hsweep.lastBeat_eq c hkept] at hbeat
    exact hcr.2 ((hsweep.newlyCrashed_iff c).mpr (.inr ⟨hstop, hcr.1, ht, beat, hbeat, hsilent⟩))

/-- A second sweep with the same predicate at the same time finds nothing to do. -/
theorem again (hsweep : t.SweepsTo staleness isStopped now t' s)
    (hagain : t'.SweepsTo staleness isStopped now t'' s') : s' = {} ∧ t'' = t' := by
  have hpurged := hsweep.purged_again hagain
  have hstopped := hsweep.stoppedUnexpectedly_again hagain
  have hcrashed := hsweep.newlyCrashed_again hagain
  have hemptied : s'.emptied = [] := by
    rw [List.eq_nil_iff_forall_not_mem]
    intro e he
    obtain ⟨⟨c, hc⟩, hall⟩ := (hagain.emptied_iff e).mp he
    have hc' := hall c hc
    rw [hpurged] at hc'
    exact List.not_mem_nil hc'
  have hsame : s' = {} := by
    cases s'
    simp_all
  refine ⟨hsame, hagain.isEmpty_iff.mp ?_⟩
  rw [hsame]
  rfl

end SweepsTo

/-- Within one lifetime of a container, from its registration to its removal, the sweeps list it at
most once as crashed and at most once as removed, no sweep lists it as both, and its crash is
remembered until it is removed. A sweep that is repeated at once does nothing. -/
theorem maintenance_replayed (before : List Operation) (life : List (Operation × Order))
    (c : ContainerId) (hthrough : (empty.after before).TracksThrough c life) :
    let t := empty.after before
    (listed Summary.newlyCrashed t life).count c ≤ 1 ∧
      (listed Summary.purged t life).count c ≤ 1 ∧
      (c ∈ t.crashed → c ∈ (t.afterIn life).owner → c ∈ (t.afterIn life).crashed) ∧
      ∀ (order order' : Order) (staleness : Int) (isStopped : ContainerId → Bool) (now : Instant),
        let swept := t.sweepIn order staleness isStopped now
        (c ∈ swept.2.newlyCrashed → c ∉ swept.2.purged) ∧
          swept.1.sweepIn order' staleness isStopped now = (swept.1, {}) := by
  have h : (empty.after before).Consistent := Consistent.empty.after before
  refine ⟨h.count_newlyCrashed_le_one hthrough, h.count_purged_le_one hthrough,
    h.crashed_afterIn hthrough, fun order order' staleness isStopped now => ?_⟩
  refine ⟨fun hc => (h.not_purged_of_newlyCrashed hc).1, ?_⟩
  have hswept := (h.sweepIn_spec order staleness isStopped now).1
  obtain ⟨hempty, hsame⟩ := (h.sweepsTo_sweepIn order staleness isStopped now).again
    (hswept.sweepsTo_sweepIn order' staleness isStopped now)
  exact Prod.ext hsame hempty

/-- A container stops, its crash is handled, it is heard from once more, and then it is removed. -/
theorem maintenance_replayed_crash :
    let life : List (Operation × Order) :=
      [(.sweep 60000000000 (· == "c") 0, .ascending), (.markHandled ["c"], .ascending),
        (.upsert "e" "c" 5, .ascending), (.sweep 60000000000 (· == "c") 7, .ascending)]
    (empty.after [.upsert "e" "c" 0]).TracksThrough "c" life ∧
      (listed Summary.newlyCrashed (empty.after [.upsert "e" "c" 0]) life).count "c" ≤ 1 ∧
      listed Summary.newlyCrashed (empty.after [.upsert "e" "c" 0]) life = ["c"] ∧
      listed Summary.purged (empty.after [.upsert "e" "c" 0]) life = ["c"] := by
  have hthrough : (empty.after [.upsert "e" "c" 0]).TracksThrough "c"
      [(.sweep 60000000000 (· == "c") 0, .ascending), (.markHandled ["c"], .ascending),
        (.upsert "e" "c" 5, .ascending), (.sweep 60000000000 (· == "c") 7, .ascending)] :=
    ⟨by decide, by decide, by decide, by decide, trivial⟩
  exact ⟨hthrough, (maintenance_replayed _ _ _ hthrough).1, by decide, by decide⟩

end AgentFleet.Tracker
