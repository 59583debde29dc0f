import AgentFleet.Tracker.Operation

/-!
The six indexes of the tracker agree, whatever operations are carried out: each operation takes a
consistent tracker to a consistent one. The sets of containers are read through `containersOf`, and
what changes them is stated by membership.
-/

namespace AgentFleet.Tracker

variable {t t' : Tracker} {c d : ContainerId} {e e' : ExecutionId} {time : Instant}

@[simp] theorem exists_members_iff :
    (∃ s : Names, t.members[e]? = some s ∧ c ∈ s) ↔ c ∈ t.containersOf e := by
  rw [containersOf, Std.ExtTreeMap.getD_eq_getD_getElem?]
  cases t.members[e]? <;> simp

theorem mem_owner_iff : c ∈ t.owner ↔ ∃ e, t.owner[c]? = some e := by
  rw [Std.ExtTreeMap.mem_iff_isSome_getElem?, Option.isSome_iff_exists]

theorem not_mem_owner_iff : c ∉ t.owner ↔ t.owner[c]? = none := by
  rw [Std.ExtTreeMap.mem_iff_isSome_getElem?, Option.not_isSome_iff_eq_none]

theorem mem_containers_iff : c ∈ t.containers ↔ c ∈ t.owner := Std.ExtTreeMap.mem_keys

namespace Consistent

theorem mem_containersOf (h : t.Consistent) : c ∈ t.containersOf e ↔ t.owner[c]? = some e := by
  rw [← exists_members_iff, h.members_iff]

theorem members_eq_none_iff (h : t.Consistent) :
    t.members[e]? = none ↔ ∀ c : ContainerId, t.owner[c]? ≠ some e := by
  have hne := h.members_ne_empty e
  simp only [ne_eq, ← h.mem_containersOf, containersOf, Std.ExtTreeMap.getD_eq_getD_getElem?]
  cases hm : t.members[e]? with
  | none => simp
  | some s =>
    rw [hm, ne_eq, Option.some.injEq, Std.ExtTreeSet.eq_empty_iff_forall_not_mem] at hne
    simpa using hne

theorem empty : Tracker.empty.Consistent where
  members_iff := by simp [Tracker.empty]
  members_ne_empty := by simp [Tracker.empty]
  lastBeat_iff := by simp [Tracker.empty]
  crashed_owned := by simp [Tracker.empty]
  handled_crashed := by simp [Tracker.empty]
  terminating_owned := by simp [Tracker.empty]

/-! ### Marks -/

theorem remark (h : t.Consistent) {crashed handled terminating : Names}
    (hc : ∀ c ∈ crashed, c ∈ t.owner) (hh : ∀ c ∈ handled, c ∈ crashed)
    (ht : ∀ c ∈ terminating, c ∈ t.owner) :
    { t with crashed, handled, terminating }.Consistent where
  members_iff := h.members_iff
  members_ne_empty := h.members_ne_empty
  lastBeat_iff := h.lastBeat_iff
  crashed_owned := hc
  handled_crashed := hh
  terminating_owned := ht

theorem crash (h : t.Consistent) {crashed : Names} (hsub : ∀ c ∈ t.crashed, c ∈ crashed)
    (hc : ∀ c ∈ crashed, c ∈ t.owner) : { t with crashed }.Consistent :=
  h.remark hc (fun c hh => hsub c (h.handled_crashed c hh)) h.terminating_owned

theorem markCrashed (h : t.Consistent) (c : ContainerId) :
    (t.orSame (t.markCrashed c)).2.Consistent := by
  unfold Tracker.markCrashed
  split
  next hc =>
    apply h.remark
    · intro d hd
      rcases Std.ExtTreeSet.mem_insert.mp hd with he | hd
      · exact Std.compare_eq_iff_eq.mp he ▸ hc
      · exact h.crashed_owned d hd
    · exact fun d hd => Std.ExtTreeSet.mem_insert.mpr (.inr (h.handled_crashed d hd))
    · exact fun d hd => h.terminating_owned d (Std.ExtTreeSet.mem_erase.mp hd).2
  next => exact h

theorem markTerminating (h : t.Consistent) {fresh : Bool}
    (ht : t.markTerminating c = .ok (fresh, t')) : t'.Consistent := by
  unfold Tracker.markTerminating at ht
  split at ht
  next hc =>
    cases ht
    apply h.remark h.crashed_owned h.handled_crashed
    intro d hd
    rcases Std.ExtTreeSet.mem_insert.mp hd with he | hd
    · exact Std.compare_eq_iff_eq.mp he ▸ hc
    · exact h.terminating_owned d hd
  next => cases ht

theorem markHandled (h : t.Consistent) (c : ContainerId) : (t.markHandled c).Consistent := by
  unfold Tracker.markHandled
  split
  next hc =>
    refine h.remark h.crashed_owned ?_ h.terminating_owned
    intro d hd
    rcases Std.ExtTreeSet.mem_insert.mp hd with he | hd
    · exact Std.compare_eq_iff_eq.mp he ▸ hc
    · exact h.handled_crashed d hd
  next => exact h

theorem markAllHandled (h : t.Consistent) (cs : List ContainerId) :
    (t.markAllHandled cs).Consistent := by
  induction cs generalizing t with
  | nil => exact h
  | cons c cs ih => exact ih (h.markHandled c)

end Consistent

/-! ### Registering -/

theorem mem_containersOf_adopt :
    d ∈ (t.adopt e c).containersOf e' ↔ e = e' ∧ c = d ∨ d ∈ t.containersOf e' := by
  by_cases he : e = e'
  · subst he
    simp [adopt, containersOf]
  · simp [adopt, containersOf, Std.ExtTreeMap.getD_insert, he]

namespace Consistent

theorem hear (h : t.Consistent) (hc : c ∈ t.owner) (time : Instant) :
    { t with lastBeat := t.lastBeat.insert c time }.Consistent where
  members_iff := h.members_iff
  members_ne_empty := h.members_ne_empty
  lastBeat_iff d := by
    rw [Std.ExtTreeMap.mem_insert, h.lastBeat_iff, Std.compare_eq_iff_eq]
    exact ⟨fun hd => hd.elim (fun he => he ▸ hc) id, .inr⟩
  crashed_owned := h.crashed_owned
  handled_crashed := h.handled_crashed
  terminating_owned := h.terminating_owned

/-- A container that is adopted has to be heard from in the same breath. -/
theorem adopt_hear (h : t.Consistent) (hc : t.owner[c]? = none) (time : Instant) :
    { t.adopt e c with lastBeat := t.lastBeat.insert c time }.Consistent where
  members_iff e' d := by
    change (∃ s, (t.adopt e c).members[e']? = some s ∧ d ∈ s) ↔ (t.adopt e c).owner[d]? = _
    rw [exists_members_iff, mem_containersOf_adopt, h.mem_containersOf, adopt]
    by_cases hd : c = d
    · subst hd
      simp [hc]
    · simp [Std.ExtTreeMap.getElem?_insert, hd]
  members_ne_empty e' := by
    by_cases he : e = e'
    · simp [adopt, he]
    · simpa [adopt, Std.ExtTreeMap.getElem?_insert, he] using h.members_ne_empty e'
  lastBeat_iff d := by simp [adopt, h.lastBeat_iff]
  crashed_owned d hd := by simp [adopt, h.crashed_owned d hd]
  handled_crashed := h.handled_crashed
  terminating_owned d hd := by simp [adopt, h.terminating_owned d hd]

theorem upsert (h : t.Consistent) (e : ExecutionId) (c : ContainerId) (time : Instant) :
    (t.orSame (t.upsert e c time)).2.Consistent := by
  unfold Tracker.upsert
  split
  next owner ho =>
    split
    · exact h.hear (mem_owner_iff.mpr ⟨owner, ho⟩) time
    · exact h
  next ho => exact h.adopt_hear ho time

end Consistent

/-! ### Removing -/

theorem getElem?_dropMember_self (members : Std.ExtTreeMap ExecutionId Names compare) :
    (dropMember members e c)[e]? =
      (members[e]?.map (·.erase c)).filter fun s => !s.isEmpty := by
  unfold dropMember
  cases hm : members[e]? with
  | none => simp [hm]
  | some s => cases hs : (s.erase c).isEmpty <;> simp [Option.filter, hs]

theorem getElem?_dropMember_of_ne (members : Std.ExtTreeMap ExecutionId Names compare)
    (he : e ≠ e') : (dropMember members e c)[e']? = members[e']? := by
  unfold dropMember
  cases members[e]? with
  | none => rfl
  | some s =>
    dsimp only
    split
    · simp [Std.ExtTreeMap.getElem?_erase, he]
    · simp [Std.ExtTreeMap.getElem?_insert, he]

namespace Consistent

theorem mem_dropMember (h : t.Consistent) (hc : t.owner[c]? = some e) :
    (∃ s : Names, (dropMember t.members e c)[e']? = some s ∧ d ∈ s) ↔
      c ≠ d ∧ t.owner[d]? = some e' := by
  rw [← h.members_iff]
  by_cases he : e = e'
  · subst he
    rw [getElem?_dropMember_self]
    constructor
    · rintro ⟨s, hs, hd⟩
      obtain ⟨s, hm, rfl⟩ := Option.map_eq_some_iff.mp (Option.filter_eq_some_iff.mp hs).1
      rw [Std.ExtTreeSet.mem_erase] at hd
      exact ⟨by simpa using hd.1, s, hm, hd.2⟩
    · rintro ⟨hne, s, hm, hd⟩
      have hd' : d ∈ s.erase c := by simp [hne, hd]
      refine ⟨s.erase c, Option.filter_eq_some_iff.mpr ⟨by simp [hm], ?_⟩, hd'⟩
      rw [Bool.not_eq_true', Std.ExtTreeSet.isEmpty_eq_false_iff]
      exact Std.ExtTreeSet.ne_empty_of_mem hd'
  · rw [getElem?_dropMember_of_ne t.members he, h.members_iff]
    refine ⟨fun hd => ⟨?_, hd⟩, fun hd => hd.2⟩
    rintro rfl
    exact he (Option.some.inj (hc.symm.trans hd))

theorem delete (h : t.Consistent) (c : ContainerId) : (t.delete c).Consistent := by
  unfold Tracker.delete
  split
  next => exact h
  next e he =>
    constructor
    · intro e' d
      simp [h.mem_dropMember he, Std.ExtTreeMap.getElem?_erase]
    · intro e'
      by_cases hee : e = e'
      · subst hee
        simp [getElem?_dropMember_self, Option.filter_eq_some_iff]
      · rw [getElem?_dropMember_of_ne t.members hee]
        exact h.members_ne_empty e'
    · simp [h.lastBeat_iff]
    · intro d hd
      simp only [Std.ExtTreeSet.mem_erase, Std.ExtTreeMap.mem_erase] at hd ⊢
      exact ⟨hd.1, h.crashed_owned d hd.2⟩
    · intro d hd
      simp only [Std.ExtTreeSet.mem_erase] at hd ⊢
      exact ⟨hd.1, h.handled_crashed d hd.2⟩
    · intro d hd
      simp only [Std.ExtTreeSet.mem_erase, Std.ExtTreeMap.mem_erase] at hd ⊢
      exact ⟨hd.1, h.terminating_owned d hd.2⟩

theorem deleteAll (h : t.Consistent) (cs : List ContainerId) : (t.deleteAll cs).Consistent := by
  induction cs generalizing t with
  | nil => exact h
  | cons c cs ih => exact ih (h.delete c)

end Consistent

theorem owner_delete : (t.delete d).owner[c]? = if d = c then none else t.owner[c]? := by
  unfold delete
  split
  next hd =>
    by_cases hdc : d = c
    · simp [← hdc, hd]
    · simp [hdc]
  next => simp [Std.ExtTreeMap.getElem?_erase]

theorem owner_deleteAll (cs : List ContainerId) :
    (t.deleteAll cs).owner[c]? = if c ∈ cs then none else t.owner[c]? := by
  induction cs generalizing t with
  | nil => simp [deleteAll]
  | cons d cs ih =>
    change ((t.delete d).deleteAll cs).owner[c]? = _
    rw [ih, owner_delete]
    by_cases hd : d = c
    · simp [hd]
    · simp [hd, Ne.symm hd]

/-- Nothing is left to forget once the containers of an execution are removed. -/
theorem Consistent.deleteExecution_eq (h : t.Consistent) (e : ExecutionId) :
    t.deleteExecution e = t.deleteAll (t.containersOf e).toList := by
  have hnone : (t.deleteAll (t.containersOf e).toList).members[e]? = none := by
    rw [(h.deleteAll _).members_eq_none_iff]
    intro c hc
    rw [owner_deleteAll] at hc
    split at hc
    next => cases hc
    next hn => exact hn (Std.ExtTreeSet.mem_toList.mpr (h.mem_containersOf.mpr hc))
  have herase : (t.deleteAll (t.containersOf e).toList).members.erase e =
      (t.deleteAll (t.containersOf e).toList).members := by
    refine Std.ExtTreeMap.ext_getElem? fun e' => ?_
    rw [Std.ExtTreeMap.getElem?_erase]
    split
    next he => rw [← Std.compare_eq_iff_eq.mp he, hnone]
    next => rfl
  unfold deleteExecution
  dsimp only
  rw [herase]

theorem Consistent.deleteExecution (h : t.Consistent) (e : ExecutionId) :
    (t.deleteExecution e).Consistent := by
  rw [h.deleteExecution_eq]
  exact h.deleteAll _

end AgentFleet.Tracker
