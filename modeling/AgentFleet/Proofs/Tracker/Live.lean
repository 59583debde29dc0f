import AgentFleet.Proofs.Tracker.Crashes
import AgentFleet.Proofs.Tracker.Partition

/-!
Which containers are live: those of an execution that have not crashed. No operation takes the mark
of a crash away or gives a container to another execution, so a container becomes live only by being
registered.
-/

namespace AgentFleet.Tracker

variable {t : Tracker} {c : ContainerId} {e : ExecutionId} {op : Operation}

def LiveIn (t : Tracker) (e : ExecutionId) (c : ContainerId) : Prop :=
  c ∈ t.containersOf e ∧ c ∉ t.crashed

theorem hasLive_of_liveIn (h : t.LiveIn e c) : t.hasLive e = true := hasLive_iff.mpr ⟨c, h.1, h.2⟩

namespace Standing

theorem lapse_live (known : Standing) (staleness : Int) (now : Instant) :
    (known.lapse staleness now).owner = known.owner ∧
      (known.crashed = true → (known.lapse staleness now).crashed = true) := by
  unfold lapse
  split
  · exact ⟨rfl, fun _ => rfl⟩
  · exact ⟨rfl, id⟩

end Standing

/-- A container that stays known keeps its execution, and the mark of its crash. -/
theorem live_affect {known known' : Standing} (h : op.affect c (some known) = some known') :
    known'.owner = known.owner ∧ (known.crashed = true → known'.crashed = true) := by
  cases op with
  | sweep staleness isStopped now =>
    simp only [Operation.affect, Option.bind_some] at h
    obtain ⟨kept, hkept, rfl⟩ := Option.map_eq_some_iff.mp h
    obtain ⟨howner, hcrashed⟩ := Standing.lapse_live kept staleness now
    split at hkept
    next =>
      obtain ⟨-, rfl⟩ := Standing.stop_eq_some_iff.mp hkept
      exact ⟨howner, fun _ => hcrashed rfl⟩
    next =>
      cases hkept
      exact ⟨howner, hcrashed⟩
  | upsert e d time =>
    obtain ⟨beat, hb⟩ := hear_some (s := known) e time
    simp only [Operation.affect, hb] at h
    split at h <;> cases h <;> exact ⟨rfl, id⟩
  | markCrashed d | markTerminating d | markHandled cs =>
    simp only [Operation.affect] at h
    split at h <;> cases h <;> simp [Standing.crash, Standing.terminate, Standing.handle]
  | delete d | deleteAll cs | deleteExecution e =>
    simp [Operation.affect, Option.filter] at h
    simp_all
  | containers | executions | crashed | lost | hasLive e =>
    cases h
    exact ⟨rfl, id⟩

namespace Consistent

theorem liveIn_iff (h : t.Consistent) :
    t.LiveIn e c ↔
      ∃ known, t.standing c = some known ∧ known.owner = e ∧ known.crashed = false := by
  constructor
  · rintro ⟨hc, hno⟩
    obtain ⟨beat, -, hs⟩ := h.standing_of_owner (h.mem_containersOf.mp hc)
    refine ⟨_, hs, rfl, ?_⟩
    rwa [← Bool.not_eq_true, Std.ExtTreeSet.contains_iff_mem]
  · rintro ⟨known, hs, rfl, hcrashed⟩
    refine ⟨h.mem_containersOf.mpr (standing_eq_some_iff.mp hs).1, fun hc => ?_⟩
    obtain ⟨known', hs', hcrashed'⟩ := h.crashed_iff.mp hc
    obtain rfl := Option.some.inj (hs.symm.trans hs')
    rw [hcrashed] at hcrashed'
    cases hcrashed'

theorem exists_upsert_of_liveIn (h : t.Consistent) (hno : ¬ t.LiveIn e c)
    (hlive : (op.apply t).2.LiveIn e c) : ∃ time, op = .upsert e c time := by
  rw [h.liveIn_iff] at hno
  rw [(h.apply op).liveIn_iff, standing_apply h] at hlive
  obtain ⟨known', hs', rfl, hcrashed'⟩ := hlive
  cases hs : t.standing c with
  | none =>
    rw [hs] at hs'
    obtain ⟨e, time, rfl, rfl⟩ := registered_of_affect_none hs'
    exact ⟨time, rfl⟩
  | some known =>
    rw [hs] at hs'
    obtain ⟨howner, hcrashed⟩ := live_affect hs'
    refine (hno ⟨known, hs, howner.symm, ?_⟩).elim
    rw [← Bool.not_eq_true]
    intro hc
    rw [hcrashed hc] at hcrashed'
    cases hcrashed'

end Consistent

end AgentFleet.Tracker
