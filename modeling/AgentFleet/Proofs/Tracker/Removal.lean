import AgentFleet.Proofs.Tracker.Effect

/-!
What is left when containers are removed. Of a container that stays all six indexes say what they
said before, and of an execution they do so if they do of its containers.
-/

namespace AgentFleet.Tracker

variable {t t' : Tracker} {c : ContainerId} {cs : List ContainerId} {e e' : ExecutionId}

structure SameAt (c : ContainerId) (t t' : Tracker) : Prop where
  owner_eq : t'.owner[c]? = t.owner[c]?
  members_iff : ∀ e, c ∈ t'.containersOf e ↔ c ∈ t.containersOf e
  lastBeat_eq : t'.lastBeat[c]? = t.lastBeat[c]?
  crashed_iff : c ∈ t'.crashed ↔ c ∈ t.crashed
  handled_iff : c ∈ t'.handled ↔ c ∈ t.handled
  terminating_iff : c ∈ t'.terminating ↔ c ∈ t.terminating

structure SameOf (e : ExecutionId) (t t' : Tracker) : Prop where
  containersOf_eq : t'.containersOf e = t.containersOf e
  containsAny_eq : t'.containsAny e = t.containsAny e
  hasLive_eq : t'.hasLive e = t.hasLive e
  containers : ∀ c ∈ t.containersOf e, SameAt c t t'

namespace Consistent

theorem sameAt (h : t.Consistent) (h' : t'.Consistent) (hs : t'.standing c = t.standing c) :
    SameAt c t t' := by
  have howner : t'.owner[c]? = t.owner[c]? := by rw [h'.owner_eq, h.owner_eq, hs]
  constructor
  · exact howner
  · intro e
    rw [h'.mem_containersOf, h.mem_containersOf, howner]
  · rw [h'.lastBeat_eq, h.lastBeat_eq, hs]
  · rw [h'.crashed_iff, h.crashed_iff, hs]
  · rw [h'.handled_iff, h.handled_iff, hs]
  · rw [h'.terminating_iff, h.terminating_iff, hs]

theorem mem_containersOf_iff_standing (h : t.Consistent) :
    c ∈ t.containersOf e ↔ ∃ known, t.standing c = some known ∧ known.owner = e := by
  rw [h.mem_containersOf, h.owner_eq, Option.map_eq_some_iff]

/-- An execution is as it was if nothing differs but what is known of the containers of one other
execution. -/
theorem sameOf (h : t.Consistent) (h' : t'.Consistent) (hne : e' ≠ e)
    (hs : ∀ c, (t'.standing c).filter (·.owner ≠ e) = (t.standing c).filter (·.owner ≠ e)) :
    SameOf e' t t' := by
  have hiff (c : ContainerId) (known : Standing) (ho : known.owner = e') :
      t'.standing c = some known ↔ t.standing c = some known := by
    have hc := congrArg (· = some known) (hs c)
    simpa [Option.filter_eq_some_iff, ho, hne] using hc
  have hmem (c : ContainerId) : c ∈ t'.containersOf e' ↔ c ∈ t.containersOf e' := by
    rw [h'.mem_containersOf_iff_standing, h.mem_containersOf_iff_standing]
    exact exists_congr fun known => and_congr_left (hiff c known)
  have hcontainers : t'.containersOf e' = t.containersOf e' := Std.ExtTreeSet.ext_mem hmem
  have hkept (c : ContainerId) (hc : c ∈ t.containersOf e') : SameAt c t t' := by
    obtain ⟨known, hknown, ho⟩ := h.mem_containersOf_iff_standing.mp hc
    apply h.sameAt h'
    rw [hknown]
    exact (hiff c known ho).mpr hknown
  constructor
  · exact hcontainers
  · rw [containsAny, containsAny, hcontainers]
  · rw [Bool.eq_iff_iff, hasLive_iff, hasLive_iff, hcontainers]
    exact exists_congr fun c => and_congr_right fun hc => not_congr (hkept c hc).crashed_iff
  · exact hkept

theorem forgets_deleteAll (h : t.Consistent) (hc : c ∈ cs) : (t.deleteAll cs).Forgets c := by
  have hcons := h.deleteAll cs
  rw [hcons.forgets_iff, ← hcons.standing_eq_none_iff, standing_deleteAll, if_pos hc]

theorem sameAt_deleteAll (h : t.Consistent) (hc : c ∉ cs) : SameAt c t (t.deleteAll cs) := by
  apply h.sameAt (h.deleteAll cs)
  rw [standing_deleteAll, if_neg hc]

end Consistent

end AgentFleet.Tracker
