import AgentFleet.Proofs.Tracker.Crashes

/-!
Which containers are marked as terminating. The mark is set by one operation, which tells whether it
was the first to set it; it is lifted when the container is reported as crashed, and goes with the
container.
-/

namespace AgentFleet.Tracker

variable {t : Tracker} {c : ContainerId} {op : Operation}

namespace Consistent

theorem terminating_apply (h : t.Consistent) :
    c ∈ (op.apply t).2.terminating ↔ c ∈ (op.apply t).2.owner ∧
      (op = .markTerminating c ∨ c ∈ t.terminating ∧ op ≠ .markCrashed c) := by
  have hlater := h.apply op
  have haffect := standing_apply h op c
  cases hs' : (op.apply t).2.standing c with
  | none =>
    have hno := hlater.standing_eq_none_iff.mp hs'
    exact iff_of_false (fun hc => hno (hlater.terminating_owned c hc)) fun hc => hno hc.1
  | some s' =>
    rw [hs'] at haffect
    rw [(mem_marks_of_standing hs').2.2, and_iff_right (mem_owner_of_standing hs')]
    cases hs : t.standing c with
    | none =>
      rw [hs] at haffect
      obtain ⟨e, time, rfl, rfl⟩ := registered_of_affect_none haffect.symm
      have hno : c ∉ t.terminating := fun hc =>
        h.standing_eq_none_iff.mp hs (h.terminating_owned c hc)
      simp [hno]
    | some s =>
      rw [hs] at haffect
      rw [(mem_marks_of_standing hs).2.2]
      exact (marks_affect haffect.symm).2.1

theorem eq_markTerminating (h : t.Consistent) (hno : c ∉ t.terminating)
    (hc : c ∈ (op.apply t).2.terminating) : op = .markTerminating c :=
  (h.terminating_apply.mp hc).2.resolve_right fun hbefore => hno hbefore.1

theorem lifted (h : t.Consistent) (hc : c ∈ t.terminating)
    (hno : c ∉ (op.apply t).2.terminating) :
    op = .markCrashed c ∨ c ∉ (op.apply t).2.owner := by
  by_contra hnot
  obtain ⟨hop, howned⟩ := not_or.mp hnot
  exact hno (h.terminating_apply.mpr ⟨not_not.mp howned, .inr ⟨hc, hop⟩⟩)

end Consistent

/-- Who is the first to mark a container finds it known and not marked, and leaves it marked. -/
theorem fresh_mark
    (h : ((Operation.markTerminating c).apply t).1 = (.ok true : Except Refusal Bool)) :
    c ∉ t.terminating ∧ c ∈ ((Operation.markTerminating c).apply t).2.terminating := by
  simp only [Operation.apply, markTerminating] at h ⊢
  by_cases hc : c ∈ t.owner
  · simp only [if_pos hc] at h ⊢
    have hfresh : (!t.terminating.contains c) = true := Except.ok.inj h
    have hno : c ∉ t.terminating := by
      simpa [← Std.ExtTreeSet.contains_iff_mem] using hfresh
    exact ⟨hno, Std.ExtTreeSet.mem_insert_self⟩
  · simp [hc] at h

/-- Who marks a container that was not marked is the first to do so. -/
theorem answer_of_marked (hno : c ∉ t.terminating)
    (hc : c ∈ ((Operation.markTerminating c).apply t).2.terminating) :
    ((Operation.markTerminating c).apply t).1 = (.ok true : Except Refusal Bool) := by
  simp only [Operation.apply, markTerminating] at hc ⊢
  by_cases howned : c ∈ t.owner
  · rw [← Std.ExtTreeSet.contains_iff_mem, Bool.not_eq_true] at hno
    simp only [if_pos howned, hno]
    rfl
  · simp [howned, hno] at hc

namespace Consistent

theorem not_terminating_of_markCrashed (h : t.Consistent) :
    c ∉ ((Operation.markCrashed c).apply t).2.terminating := fun hc => by
  simpa using (h.terminating_apply.mp hc).2

theorem not_terminating_of_delete (h : t.Consistent) :
    c ∉ ((Operation.delete c).apply t).2.terminating := by
  intro hc
  have hgone : ((Operation.delete c).apply t).2.standing c = none := by
    rw [standing_apply h]
    exact if_pos rfl
  exact (h.apply _).standing_eq_none_iff.mp hgone (h.terminating_apply.mp hc).1

end Consistent

end AgentFleet.Tracker
