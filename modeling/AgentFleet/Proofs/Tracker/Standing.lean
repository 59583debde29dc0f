import AgentFleet.Proofs.Tracker.Consistency

/-!
What the tracker knows of one container, and how each operation changes it. In a consistent tracker
the standing of a container after an operation depends on its standing before and on nothing else
that the tracker knows, so a history of operations is read container by container.
-/

namespace AgentFleet.Tracker

variable {t t' : Tracker} {c d : ContainerId} {e e' : ExecutionId} {time : Instant}

/-- What the tracker knows of a container that it tracks. -/
structure Standing where
  owner : ExecutionId
  lastBeat : Instant
  crashed : Bool
  handled : Bool
  terminating : Bool
  deriving DecidableEq, Repr

def standing (t : Tracker) (c : ContainerId) : Option Standing :=
  match t.owner[c]?, t.lastBeat[c]? with
  | some e, some beat =>
    some ⟨e, beat, t.crashed.contains c, t.handled.contains c, t.terminating.contains c⟩
  | _, _ => none

namespace Standing

/-- A container that is heard from is registered if it is not known; a known one keeps its owner and
its marks. -/
def hear (e : ExecutionId) (time : Instant) : Option Standing → Standing
  | none => ⟨e, time, false, false, false⟩
  | some s => if s.owner = e then { s with lastBeat := time } else s

def crash (s : Standing) : Standing := { s with crashed := true, terminating := false }

def terminate (s : Standing) : Standing := { s with terminating := true }

def handle (s : Standing) : Standing := { s with handled := s.handled || s.crashed }

def isPurgeable (s : Standing) : Bool := s.handled || s.terminating

/-- A container that has stopped is removed or counts as crashed. -/
def stop (s : Standing) : Option Standing :=
  if s.isPurgeable then none else some { s with crashed := true }

/-- A container that has been silent for too long counts as crashed, unless it is terminating. -/
def lapse (staleness : Int) (now : Instant) (s : Standing) : Standing :=
  if s.terminating = false ∧ staleness < now - s.lastBeat then { s with crashed := true } else s

end Standing

def Operation.affect (c : ContainerId) : Operation → Option Standing → Option Standing
  | .upsert e d time, s => if d = c then some (.hear e time s) else s
  | .markCrashed d, s => if d = c then s.map .crash else s
  | .markTerminating d, s => if d = c then s.map .terminate else s
  | .markHandled cs, s => if c ∈ cs then s.map .handle else s
  | .delete d, s => if d = c then none else s
  | .deleteAll cs, s => if c ∈ cs then none else s
  | .deleteExecution e, s => s.filter (·.owner ≠ e)
  | .sweep staleness isStopped now, s =>
    (s.bind fun s => if isStopped c then s.stop else some s).map (.lapse staleness now)
  | _, s => s

/-! ### The view -/

@[simp] theorem compare_beq_eq (c d : String) : (compare c d == .eq) = decide (c = d) := by
  by_cases h : c = d <;> simp [h]

@[simp] theorem compare_bne_eq (c d : String) : (compare c d != .eq) = decide (c ≠ d) := by
  rw [bne, compare_beq_eq, decide_not]

theorem standing_of_not_owned (ho : t.owner[c]? = none) : t.standing c = none := by
  simp [standing, ho]

theorem standing_eq_some_iff {s : Standing} :
    t.standing c = some s ↔ t.owner[c]? = some s.owner ∧ t.lastBeat[c]? = some s.lastBeat ∧
      t.crashed.contains c = s.crashed ∧ t.handled.contains c = s.handled ∧
      t.terminating.contains c = s.terminating := by
  unfold standing
  cases t.owner[c]? with
  | none => simp
  | some e =>
    cases t.lastBeat[c]? with
    | none => simp
    | some beat =>
      obtain ⟨owner, lastBeat, crashed, handled, terminating⟩ := s
      simp

theorem mem_owner_of_standing {s : Standing} (hs : t.standing c = some s) : c ∈ t.owner :=
  mem_owner_iff.mpr ⟨s.owner, (standing_eq_some_iff.mp hs).1⟩

namespace Consistent

theorem standing_of_owner (h : t.Consistent) (ho : t.owner[c]? = some e) :
    ∃ beat, t.lastBeat[c]? = some beat ∧ t.standing c =
      some ⟨e, beat, t.crashed.contains c, t.handled.contains c, t.terminating.contains c⟩ := by
  have hb := (h.lastBeat_iff c).mpr (mem_owner_iff.mpr ⟨e, ho⟩)
  rw [Std.ExtTreeMap.mem_iff_isSome_getElem?] at hb
  obtain ⟨beat, hb⟩ := Option.isSome_iff_exists.mp hb
  exact ⟨beat, hb, by simp [standing, ho, hb]⟩

theorem standing_eq_none_iff (h : t.Consistent) : t.standing c = none ↔ c ∉ t.owner := by
  rw [not_mem_owner_iff]
  refine ⟨fun hs => ?_, standing_of_not_owned⟩
  cases ho : t.owner[c]? with
  | none => rfl
  | some e =>
    obtain ⟨beat, -, hs'⟩ := h.standing_of_owner ho
    rw [hs] at hs'
    cases hs'

theorem marked_iff (h : t.Consistent) {marks : Names} {mark : Standing → Bool}
    (howned : c ∈ marks → c ∈ t.owner)
    (hread : ∀ s, t.standing c = some s → marks.contains c = mark s) :
    c ∈ marks ↔ ∃ s, t.standing c = some s ∧ mark s = true := by
  constructor
  · intro hc
    obtain ⟨e, ho⟩ := mem_owner_iff.mp (howned hc)
    obtain ⟨beat, -, hs⟩ := h.standing_of_owner ho
    exact ⟨_, hs, by rw [← hread _ hs, Std.ExtTreeSet.contains_iff_mem.mpr hc]⟩
  · rintro ⟨s, hs, hm⟩
    rw [← Std.ExtTreeSet.contains_iff_mem, hread s hs, hm]

theorem crashed_iff (h : t.Consistent) :
    c ∈ t.crashed ↔ ∃ s, t.standing c = some s ∧ s.crashed = true :=
  h.marked_iff (h.crashed_owned c) fun _ hs => (standing_eq_some_iff.mp hs).2.2.1

theorem handled_iff (h : t.Consistent) :
    c ∈ t.handled ↔ ∃ s, t.standing c = some s ∧ s.handled = true :=
  h.marked_iff (fun hc => h.crashed_owned c (h.handled_crashed c hc))
    fun _ hs => (standing_eq_some_iff.mp hs).2.2.2.1

theorem terminating_iff (h : t.Consistent) :
    c ∈ t.terminating ↔ ∃ s, t.standing c = some s ∧ s.terminating = true :=
  h.marked_iff (h.terminating_owned c) fun _ hs => (standing_eq_some_iff.mp hs).2.2.2.2

theorem isPurgeable_eq (h : t.Consistent) :
    t.isPurgeable c = (t.standing c).any Standing.isPurgeable := by
  rw [Bool.eq_iff_iff, Tracker.isPurgeable, Bool.or_eq_true, Std.ExtTreeSet.contains_iff_mem,
    Std.ExtTreeSet.contains_iff_mem, h.handled_iff, h.terminating_iff, Option.any_eq_true]
  simp only [Standing.isPurgeable, Bool.or_eq_true]
  constructor
  · rintro (⟨s, hs, hm⟩ | ⟨s, hs, hm⟩)
    · exact ⟨s, hs, .inl hm⟩
    · exact ⟨s, hs, .inr hm⟩
  · rintro ⟨s, hs, hm | hm⟩
    · exact .inl ⟨s, hs, hm⟩
    · exact .inr ⟨s, hs, hm⟩

end Consistent

/-! ### One container at a time -/

theorem standing_upsert (h : t.Consistent) :
    (t.orSame (t.upsert e d time)).2.standing c =
      if d = c then some (Standing.hear e time (t.standing c)) else t.standing c := by
  by_cases hdc : d = c
  · subst hdc
    cases ho : t.owner[d]? with
    | none =>
      have hc : d ∉ t.crashed := fun hm => not_mem_owner_iff.mpr ho (h.crashed_owned d hm)
      have hh : d ∉ t.handled := fun hm => hc (h.handled_crashed d hm)
      have ht : d ∉ t.terminating := fun hm => not_mem_owner_iff.mpr ho (h.terminating_owned d hm)
      rw [← Std.ExtTreeSet.contains_iff_mem, Bool.not_eq_true] at hc hh ht
      simp [upsert, ho, orSame, standing, adopt, hc, hh, ht, Standing.hear]
    | some e' =>
      obtain ⟨beat, hb, hs⟩ := h.standing_of_owner ho
      by_cases he : e' = e <;> simp [upsert, ho, hb, he, orSame, standing, Standing.hear]
  · cases ho : t.owner[d]? with
    | none => simp [upsert, ho, orSame, standing, adopt, hdc, Std.ExtTreeMap.getElem?_insert]
    | some e' =>
      by_cases he : e' = e <;>
        simp [upsert, ho, he, orSame, standing, hdc, Std.ExtTreeMap.getElem?_insert]

theorem standing_markCrashed :
    (t.orSame (t.markCrashed d)).2.standing c =
      if d = c then (t.standing c).map .crash else t.standing c := by
  unfold markCrashed
  split
  next hd =>
    by_cases hdc : d = c
    · subst hdc
      cases ho : t.owner[d]? <;> cases hb : t.lastBeat[d]? <;>
        simp [orSame, standing, Standing.crash, ho, hb]
    · simp [orSame, standing, hdc]
  next hd =>
    split
    next hdc => simp [orSame, standing_of_not_owned (hdc ▸ not_mem_owner_iff.mp hd)]
    next => rfl

theorem standing_markTerminating :
    ((Operation.markTerminating d).apply t).2.standing c =
      if d = c then (t.standing c).map .terminate else t.standing c := by
  by_cases hd : d ∈ t.owner
  · by_cases hdc : d = c
    · subst hdc
      cases ho : t.owner[d]? <;> cases hb : t.lastBeat[d]? <;>
        simp [Operation.apply, markTerminating, hd, standing, Standing.terminate, hb]
    · simp [Operation.apply, markTerminating, hd, standing, hdc]
  · by_cases hdc : d = c
    · subst hdc
      simp [Operation.apply, markTerminating, hd, standing_of_not_owned (not_mem_owner_iff.mp hd)]
    · simp [Operation.apply, markTerminating, hd, hdc]

theorem standing_markHandled :
    (t.markHandled d).standing c = if d = c then (t.standing c).map .handle else t.standing c := by
  unfold markHandled
  by_cases hdc : d = c
  · subst hdc
    split
    next hd =>
      cases ho : t.owner[d]? <;> cases hb : t.lastBeat[d]? <;>
        simp [standing, Standing.handle, hd, ho, hb]
    next hd =>
      rw [← Std.ExtTreeSet.contains_iff_mem, Bool.not_eq_true] at hd
      cases ho : t.owner[d]? <;> cases hb : t.lastBeat[d]? <;>
        simp [standing, Standing.handle, hd, ho, hb]
  · rw [if_neg hdc]
    split
    · simp [standing, hdc]
    · rfl

theorem standing_delete : (t.delete d).standing c = if d = c then none else t.standing c := by
  unfold delete
  split
  next hd =>
    split
    next hdc => exact standing_of_not_owned (hdc ▸ hd)
    next => rfl
  next e hd =>
    by_cases hdc : d = c
    · subst hdc
      simp [standing]
    · simp [standing, hdc, Std.ExtTreeMap.getElem?_erase]

/-! ### Several containers -/

theorem Standing.handle_handle (s : Standing) : s.handle.handle = s.handle := by
  cases hc : s.crashed <;> simp [handle, hc]

theorem standing_markAllHandled (cs : List ContainerId) :
    (t.markAllHandled cs).standing c =
      if c ∈ cs then (t.standing c).map .handle else t.standing c := by
  induction cs generalizing t with
  | nil => simp [markAllHandled]
  | cons d cs ih =>
    change ((t.markHandled d).markAllHandled cs).standing c = _
    rw [ih, standing_markHandled]
    by_cases hd : d = c
    · subst hd
      cases t.standing d <;> simp [Standing.handle_handle]
    · simp [hd, Ne.symm hd]

theorem standing_deleteAll (cs : List ContainerId) :
    (t.deleteAll cs).standing c = if c ∈ cs then none else t.standing c := by
  induction cs generalizing t with
  | nil => simp [deleteAll]
  | cons d cs ih =>
    change ((t.delete d).deleteAll cs).standing c = _
    rw [ih, standing_delete]
    by_cases hd : d = c
    · simp [hd]
    · simp [hd, Ne.symm hd]

theorem standing_deleteExecution (h : t.Consistent) :
    (t.deleteExecution e).standing c = (t.standing c).filter (·.owner ≠ e) := by
  rw [h.deleteExecution_eq, standing_deleteAll]
  simp only [Std.ExtTreeSet.mem_toList, h.mem_containersOf]
  cases hs : t.standing c with
  | none => simp
  | some s =>
    have ho := (standing_eq_some_iff.mp hs).1
    by_cases he : s.owner = e <;> simp [ho, he, Option.filter]

/-! ### Sweeping -/

abbrev Order := (cs : List ContainerId) → { visited : List ContainerId // visited.Perm cs }

def Order.ascending : Order := fun cs => ⟨cs, .refl cs⟩

/-- What a sweep does before it looks for silent containers. -/
def visitStopped (t : Tracker) (order : Order) (isStopped : ContainerId → Bool) :
    Tracker × Summary :=
  (order (t.containers.filter isStopped)).1.foldl (fun (t, s) c => t.sweepStopped s c) (t, {})

/-- A sweep that comes upon the containers in any order. -/
def sweepIn (t : Tracker) (order : Order) (staleness : Int) (isStopped : ContainerId → Bool)
    (now : Instant) : Tracker × Summary :=
  let (t, s) := t.visitStopped order isStopped
  t.crashAll s (order (t.stale staleness now)).1

section Order

variable {order : Order} {staleness : Int} {isStopped : ContainerId → Bool} {now : Instant}

theorem sweepIn_ascending :
    t.sweepIn .ascending staleness isStopped now = t.sweep staleness isStopped now := rfl

theorem nodup_visited (t : Tracker) (order : Order) (isStopped : ContainerId → Bool) :
    (order (t.containers.filter isStopped)).1.Nodup :=
  (order _).2.nodup_iff.mpr (Std.ExtTreeMap.nodup_keys.filter _)

theorem mem_visited_iff :
    c ∈ (order (t.containers.filter isStopped)).1 ↔ c ∈ t.owner ∧ isStopped c = true := by
  rw [(order _).2.mem_iff, List.mem_filter, mem_containers_iff]

theorem owned_of_visited (hc : c ∈ (order (t.containers.filter isStopped)).1) : c ∈ t.owner :=
  (mem_visited_iff.mp hc).1

end Order

namespace Consistent

theorem sweepStopped (h : t.Consistent) (hc : c ∈ t.owner) (s : Summary) :
    (t.sweepStopped s c).1.Consistent := by
  unfold Tracker.sweepStopped
  split
  · unfold Tracker.purge
    split
    · exact h
    · exact h.delete c
  · split
    · exact h
    · apply h.crash
      · exact fun d hd => Std.ExtTreeSet.mem_insert.mpr (.inr hd)
      · intro d hd
        rcases Std.ExtTreeSet.mem_insert.mp hd with he | hd
        · exact Std.compare_eq_iff_eq.mp he ▸ hc
        · exact h.crashed_owned d hd

theorem standing_sweepStopped (h : t.Consistent) (hc : c ∈ t.owner) (s : Summary) :
    (t.sweepStopped s c).1.standing d =
      if c = d then (t.standing d).bind Standing.stop else t.standing d := by
  obtain ⟨e, ho⟩ := mem_owner_iff.mp hc
  obtain ⟨beat, hb, hs⟩ := h.standing_of_owner ho
  have hp := h.isPurgeable_eq (c := c)
  rw [hs, Option.any_some] at hp
  unfold Tracker.sweepStopped
  split
  next hpurge =>
    simp only [Tracker.purge, ho, standing_delete]
    split
    next hd => simp [← hd, hs, Standing.stop, ← hp, hpurge]
    next => rfl
  next hpurge =>
    by_cases hd : c = d
    · subst hd
      rw [if_pos rfl, hs, Option.bind_some, Standing.stop, ← hp, if_neg hpurge]
      split
      next hcr => simp [hs, hcr]
      next => simp [standing, ho, hb]
    · split <;> simp [standing, hd]

theorem purged_sweepStopped (hc : c ∈ t.owner) (s : Summary) :
    (t.sweepStopped s c).2.purged = s.purged ++ if t.isPurgeable c then [c] else [] := by
  obtain ⟨e, ho⟩ := mem_owner_iff.mp hc
  unfold Tracker.sweepStopped
  split
  · simp [Tracker.purge, ho]
  · split <;> simp

/-- What a sweep does with the containers that have stopped. Each is dealt with once, so the later
ones are still as they were. -/
theorem sweepStopped_foldl (h : t.Consistent) {cs : List ContainerId} (hnd : cs.Nodup)
    (hcs : ∀ c ∈ cs, c ∈ t.owner) (s : Summary) :
    let r := cs.foldl (fun (t, s) c => t.sweepStopped s c) (t, s)
    r.1.Consistent ∧
    (∀ d, r.1.standing d = if d ∈ cs then (t.standing d).bind Standing.stop else t.standing d) ∧
    r.2.purged = s.purged ++ cs.filter t.isPurgeable := by
  induction cs generalizing t s with
  | nil => simp [h]
  | cons c cs ih =>
    obtain ⟨hnot, hnd⟩ := List.nodup_cons.mp hnd
    have hc := hcs c (by simp)
    have h' := h.sweepStopped hc s
    have hother : ∀ d ∈ cs, (t.sweepStopped s c).1.standing d = t.standing d := by
      intro d hd
      rw [h.standing_sweepStopped hc, if_neg (fun he : c = d => hnot (he ▸ hd))]
    have howned : ∀ d ∈ cs, d ∈ (t.sweepStopped s c).1.owner := by
      intro d hd
      refine Decidable.byContradiction fun hno => ?_
      rw [← h'.standing_eq_none_iff, hother d hd, h.standing_eq_none_iff] at hno
      exact hno (hcs d (by simp [hd]))
    obtain ⟨hcons, hstand, hpurged⟩ := ih h' hnd howned (t.sweepStopped s c).2
    refine ⟨hcons, fun d => ?_, ?_⟩
    · refine (hstand d).trans ?_
      by_cases hd : d ∈ cs
      · simp [hd, hother d hd]
      · rw [if_neg hd, h.standing_sweepStopped hc]
        simp [hd, eq_comm]
    · refine hpurged.trans ?_
      have hsame : cs.filter (t.sweepStopped s c).1.isPurgeable = cs.filter t.isPurgeable := by
        refine List.filter_congr fun d hd => ?_
        rw [h'.isPurgeable_eq, h.isPurgeable_eq, hother d hd]
      rw [hsame, purged_sweepStopped hc, List.filter_cons]
      split <;> simp

end Consistent

theorem mem_foldl_insert {crashed : Names} (cs : List ContainerId) :
    c ∈ cs.foldl (fun crashed c => crashed.insert c) crashed ↔ c ∈ cs ∨ c ∈ crashed := by
  induction cs generalizing crashed with
  | nil => simp
  | cons d cs ih =>
    rw [List.foldl_cons, ih, Std.ExtTreeSet.mem_insert, Std.compare_eq_iff_eq, List.mem_cons,
      eq_comm, or_left_comm, or_assoc]

theorem mem_stale_iff {staleness : Int} {now : Instant} :
    c ∈ t.stale staleness now ↔ ∃ beat, t.lastBeat[c]? = some beat ∧
      t.isStale staleness now c beat = true := by
  simp [stale, Std.ExtTreeMap.mem_toList_iff_getElem?_eq_some]

theorem standing_crashAll (s : Summary) (cs : List ContainerId) :
    (t.crashAll s cs).1.standing c =
      if c ∈ cs then (t.standing c).map fun s => { s with crashed := true } else t.standing c := by
  have hm : c ∈ cs.foldl (fun crashed c => crashed.insert c) t.crashed ↔ c ∈ cs ∨ c ∈ t.crashed :=
    mem_foldl_insert cs
  by_cases hc : c ∈ cs
  · rw [if_pos hc]
    have : (cs.foldl (fun crashed c => crashed.insert c) t.crashed).contains c = true :=
      Std.ExtTreeSet.contains_iff_mem.mpr (hm.mpr (.inl hc))
    cases ho : t.owner[c]? <;> cases hb : t.lastBeat[c]? <;> simp [crashAll, standing, ho, hb, this]
  · rw [if_neg hc]
    have : (cs.foldl (fun crashed c => crashed.insert c) t.crashed).contains c =
        t.crashed.contains c := by
      rw [Bool.eq_iff_iff, Std.ExtTreeSet.contains_iff_mem, Std.ExtTreeSet.contains_iff_mem, hm]
      simp [hc]
    simp [crashAll, standing, this]

namespace Consistent

variable {staleness : Int} {isStopped : ContainerId → Bool} {now : Instant}

theorem crashAll (h : t.Consistent) (s : Summary) {cs : List ContainerId}
    (hcs : ∀ c ∈ cs, c ∈ t.owner) : (t.crashAll s cs).1.Consistent := by
  apply h.crash
  · exact fun c hc => (mem_foldl_insert cs).mpr (.inr hc)
  · intro c hc
    exact ((mem_foldl_insert cs).mp hc).elim (hcs c) (h.crashed_owned c)

theorem owned_of_stale (h : t.Consistent) (hc : c ∈ t.stale staleness now) : c ∈ t.owner := by
  obtain ⟨beat, hb, -⟩ := mem_stale_iff.mp hc
  rw [← h.lastBeat_iff, Std.ExtTreeMap.mem_iff_isSome_getElem?, hb, Option.isSome_some]

theorem standing_crashSilent (s : Summary) {cs : List ContainerId}
    (hperm : cs.Perm (t.stale staleness now)) :
    (t.crashAll s cs).1.standing c = (t.standing c).map (.lapse staleness now) := by
  simp only [standing_crashAll, hperm.mem_iff]
  cases hs : t.standing c with
  | none => simp
  | some s =>
    obtain ⟨-, hb, hcr, -, hte⟩ := standing_eq_some_iff.mp hs
    have hiff : c ∈ t.stale staleness now ↔
        s.crashed = false ∧ s.terminating = false ∧ staleness < now - s.lastBeat := by
      simp [mem_stale_iff, hb, isStale, hcr, hte, and_assoc]
    simp only [hiff, Option.map_some, Standing.lapse]
    cases hc : s.crashed with
    | true =>
      have : { s with crashed := true } = s := by rw [← hc]
      simp [this]
    | false => by_cases hl : s.terminating = false ∧ staleness < now - s.lastBeat <;> simp [hl]

theorem visitStopped_spec (h : t.Consistent) (order : Order) (isStopped : ContainerId → Bool) :
    (t.visitStopped order isStopped).1.Consistent ∧
    (∀ c, (t.visitStopped order isStopped).1.standing c =
      (t.standing c).bind fun s => if isStopped c then s.stop else some s) ∧
    (t.visitStopped order isStopped).2.purged =
      (order (t.containers.filter isStopped)).1.filter t.isPurgeable := by
  obtain ⟨hcons, hstand, hpurged⟩ :=
    h.sweepStopped_foldl (nodup_visited t order isStopped) (fun _ => owned_of_visited) {}
  refine ⟨hcons, fun c => (hstand c).trans ?_, hpurged⟩
  simp only [mem_visited_iff]
  cases hs : t.standing c with
  | none => simp
  | some s =>
    have hc := mem_owner_of_standing hs
    cases hstop : isStopped c <;> simp [hc]

theorem sweepIn_spec (h : t.Consistent) (order : Order) (staleness : Int)
    (isStopped : ContainerId → Bool) (now : Instant) :
    (t.sweepIn order staleness isStopped now).1.Consistent ∧
    (∀ c, (t.sweepIn order staleness isStopped now).1.standing c =
      ((t.standing c).bind fun s => if isStopped c then s.stop else some s).map
        (.lapse staleness now)) ∧
    (t.sweepIn order staleness isStopped now).2.purged =
      (order (t.containers.filter isStopped)).1.filter t.isPurgeable := by
  obtain ⟨hcons, hstand, hpurged⟩ := h.visitStopped_spec order isStopped
  refine ⟨hcons.crashAll _ fun c hc => hcons.owned_of_stale ((order _).2.mem_iff.mp hc),
    fun c => ?_, hpurged⟩
  exact (standing_crashSilent _ (order _).2).trans (congrArg (Option.map _) (hstand c))

theorem sweep_spec (h : t.Consistent) :
    (t.sweep staleness isStopped now).1.Consistent ∧
    (∀ c, (t.sweep staleness isStopped now).1.standing c =
      ((t.standing c).bind fun s => if isStopped c then s.stop else some s).map
        (.lapse staleness now)) ∧
    (t.sweep staleness isStopped now).2.purged =
      (t.containers.filter isStopped).filter t.isPurgeable :=
  h.sweepIn_spec .ascending staleness isStopped now

end Consistent

/-! ### Operations -/

theorem Consistent.apply (h : t.Consistent) (op : Operation) : (op.apply t).2.Consistent := by
  cases op with
  | upsert e c time => exact h.upsert e c time
  | markCrashed c => exact h.markCrashed c
  | markTerminating c =>
    cases ht : t.markTerminating c with
    | error r => simpa [Operation.apply, ht] using h
    | ok r => simpa [Operation.apply, ht] using h.markTerminating ht
  | markHandled cs => exact h.markAllHandled cs
  | delete c => exact h.delete c
  | deleteAll cs => exact h.deleteAll cs
  | deleteExecution e => exact h.deleteExecution e
  | sweep staleness isStopped now => exact h.sweep_spec.1
  | containers | executions | crashed | lost | hasLive => exact h

/-- What an operation does to a container depends on the standing of that container only. -/
theorem standing_apply (h : t.Consistent) (op : Operation) (c : ContainerId) :
    (op.apply t).2.standing c = op.affect c (t.standing c) := by
  cases op with
  | upsert e d time => exact standing_upsert h
  | markCrashed d => exact standing_markCrashed
  | markTerminating d => exact standing_markTerminating
  | markHandled cs => exact standing_markAllHandled cs
  | delete d => exact standing_delete
  | deleteAll cs => exact standing_deleteAll cs
  | deleteExecution e => exact standing_deleteExecution h
  | sweep staleness isStopped now => exact h.sweep_spec.2.1 c
  | containers | executions | crashed | lost | hasLive => rfl

theorem Consistent.after (h : t.Consistent) (ops : List Operation) : (t.after ops).Consistent := by
  induction ops generalizing t with
  | nil => exact h
  | cons op ops ih => exact ih (h.apply op)

theorem after_append (ops ops' : List Operation) :
    t.after (ops ++ ops') = (t.after ops).after ops' := List.foldl_append

theorem Consistent.standing_after_of (h : t.Consistent) {ops : List Operation}
    {I : Option Standing → Prop} (hI : ∀ op ∈ ops, ∀ s, I s → I (op.affect c s))
    (hc : I (t.standing c)) : I ((t.after ops).standing c) := by
  induction ops generalizing t with
  | nil => exact hc
  | cons op ops ih =>
    obtain ⟨hop, hops⟩ := List.forall_mem_cons.mp hI
    refine ih (h.apply op) hops ?_
    rw [standing_apply h]
    exact hop _ hc

end AgentFleet.Tracker
