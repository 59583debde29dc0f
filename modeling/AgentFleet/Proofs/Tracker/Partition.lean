import Mathlib.Data.List.Nodup
import AgentFleet.Proofs.Tracker.Standing

/-!
How the containers that are tracked are divided: among the executions, each container belonging to
just one, and the executions among those that have a live container and those that are lost. Both
follow from the agreement of the indexes, which all operations keep.
-/

namespace AgentFleet.Tracker

variable {t : Tracker} {c : ContainerId} {e e' : ExecutionId}

theorem mem_executions_iff : e ∈ t.executions ↔ ∃ s : Names, t.members[e]? = some s := by
  rw [executions, Std.ExtTreeMap.mem_keys, Std.ExtTreeMap.mem_iff_isSome_getElem?,
    Option.isSome_iff_exists]

theorem mem_executions_of_mem (hc : c ∈ t.containersOf e) : e ∈ t.executions := by
  obtain ⟨s, hs, -⟩ := exists_members_iff.mpr hc
  exact mem_executions_iff.mpr ⟨s, hs⟩

theorem hasLive_iff : t.hasLive e = true ↔ ∃ c ∈ t.containersOf e, c ∉ t.crashed := by
  simp [hasLive, ← Std.ExtTreeSet.contains_iff_mem]

theorem nodup_toList (names : Names) : names.toList.Nodup := by
  refine Std.ExtTreeSet.distinct_toList.imp ?_
  intro c d hne
  exact fun he => hne (Std.compare_eq_iff_eq.mpr he)

namespace Consistent

/-! ### Containers among executions -/

theorem exists_mem_containersOf (h : t.Consistent) (he : e ∈ t.executions) :
    ∃ c, c ∈ t.containersOf e := by
  obtain ⟨s, hs⟩ := mem_executions_iff.mp he
  have hne : s ≠ ∅ := by
    rintro rfl
    exact h.members_ne_empty e hs
  rw [ne_eq, Std.ExtTreeSet.eq_empty_iff_forall_not_mem, not_forall] at hne
  obtain ⟨c, hc⟩ := hne
  exact ⟨c, exists_members_iff.mp ⟨s, hs, Classical.not_not.mp hc⟩⟩

theorem disjoint_containersOf (h : t.Consistent) (hne : e ≠ e') :
    List.Disjoint (t.containersOf e).toList (t.containersOf e').toList := by
  intro c hc hc'
  rw [Std.ExtTreeSet.mem_toList, h.mem_containersOf] at hc hc'
  exact hne (Option.some.inj (hc.symm.trans hc'))

theorem nodup_flatMap_containersOf (h : t.Consistent) :
    (t.executions.flatMap fun e => (t.containersOf e).toList).Nodup := by
  rw [List.nodup_flatMap]
  have hnd : t.executions.Nodup := Std.ExtTreeMap.nodup_keys
  exact ⟨fun e _ => nodup_toList _, hnd.imp fun hne => h.disjoint_containersOf hne⟩

theorem containers_perm (h : t.Consistent) :
    t.containers.Perm (t.executions.flatMap fun e => (t.containersOf e).toList) := by
  have hnd : t.containers.Nodup := Std.ExtTreeMap.nodup_keys
  refine (List.perm_ext_iff_of_nodup hnd h.nodup_flatMap_containersOf).mpr fun c => ?_
  simp only [List.mem_flatMap, Std.ExtTreeSet.mem_toList]
  rw [mem_containers_iff, mem_owner_iff]
  constructor
  · rintro ⟨e, ho⟩
    have hc := h.mem_containersOf.mpr ho
    exact ⟨e, mem_executions_of_mem hc, hc⟩
  · rintro ⟨e, -, hc⟩
    exact ⟨e, h.mem_containersOf.mp hc⟩

/-! ### Live and lost executions -/

theorem mem_lost_iff (h : t.Consistent) :
    e ∈ t.lost ↔ e ∈ t.executions ∧ ∀ c ∈ t.containersOf e, c ∈ t.crashed := by
  have hany (he : e ∈ t.executions) : t.containsAny e = true := by
    obtain ⟨c, hc⟩ := h.exists_mem_containersOf he
    rw [containsAny, Bool.not_eq_true', Std.ExtTreeSet.isEmpty_eq_false_iff]
    exact Std.ExtTreeSet.ne_empty_of_mem hc
  rw [lost, List.mem_filter]
  refine and_congr_right fun he => ?_
  simp [isLost, hany he]

theorem lost_iff_not_hasLive (h : t.Consistent) (he : e ∈ t.executions) :
    e ∈ t.lost ↔ ¬ t.hasLive e = true := by
  rw [h.mem_lost_iff, hasLive_iff, and_iff_right he]
  simp only [not_exists, not_and, Classical.not_not]

end Consistent

/-- Whatever operations are carried out, the indexes agree, the containers are divided among the
executions, and each execution either has a live container or is lost. -/
theorem indexes_agree (ops : List Operation) :
    (empty.after ops).Consistent ∧
    (empty.after ops).containers.Nodup ∧
    (empty.after ops).containers.Perm
      ((empty.after ops).executions.flatMap fun e => ((empty.after ops).containersOf e).toList) ∧
    ∀ e ∈ (empty.after ops).executions,
      Xor ((empty.after ops).hasLive e = true) (e ∈ (empty.after ops).lost) := by
  have h : (empty.after ops).Consistent := Consistent.empty.after ops
  refine ⟨h, Std.ExtTreeMap.nodup_keys, h.containers_perm, fun e he => ?_⟩
  rw [xor_iff_not_iff', h.lost_iff_not_hasLive he]

end AgentFleet.Tracker
