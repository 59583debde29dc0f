import Mathlib.Data.List.Nodup
import AgentFleet.Proofs.Tracker.Sweeping

/-!
The exact effect of a sweep, in whatever order it comes upon the containers: which containers and
executions it reports, and what it leaves of all that the tracker knows. What it does with a
container depends on that container alone, so the order makes no difference to the tracker.
-/

namespace AgentFleet.Tracker

variable {t t' : Tracker} {c d : ContainerId} {e : ExecutionId} {staleness : Int}
  {isStopped : ContainerId → Bool} {now : Instant} {order : Order}

/-! ### A tracker is what it knows of the single containers -/

namespace Consistent

theorem exists_standing (h : t.Consistent) (hc : c ∈ t.owner) : ∃ s, t.standing c = some s := by
  obtain ⟨e, ho⟩ := mem_owner_iff.mp hc
  obtain ⟨beat, -, hs⟩ := h.standing_of_owner ho
  exact ⟨_, hs⟩

theorem owner_eq (h : t.Consistent) (c : ContainerId) :
    t.owner[c]? = (t.standing c).map Standing.owner := by
  cases ho : t.owner[c]? with
  | none => simp [standing_of_not_owned ho]
  | some e =>
    obtain ⟨beat, -, hs⟩ := h.standing_of_owner ho
    simp [hs]

theorem lastBeat_eq (h : t.Consistent) (c : ContainerId) :
    t.lastBeat[c]? = (t.standing c).map Standing.lastBeat := by
  cases ho : t.owner[c]? with
  | none =>
    have hno : c ∉ t.lastBeat := fun hc => not_mem_owner_iff.mpr ho ((h.lastBeat_iff c).mp hc)
    simpa [standing_of_not_owned ho] using hno
  | some e =>
    obtain ⟨beat, hb, hs⟩ := h.standing_of_owner ho
    simp [hs, hb]

theorem eq_of_standing (h : t.Consistent) (h' : t'.Consistent)
    (hs : ∀ c, t.standing c = t'.standing c) : t = t' := by
  have howner : t.owner = t'.owner :=
    Std.ExtTreeMap.ext_getElem? fun c => by rw [h.owner_eq, h'.owner_eq, hs]
  have hbeat : t.lastBeat = t'.lastBeat :=
    Std.ExtTreeMap.ext_getElem? fun c => by rw [h.lastBeat_eq, h'.lastBeat_eq, hs]
  have hcrashed : t.crashed = t'.crashed :=
    Std.ExtTreeSet.ext_mem fun c => by rw [h.crashed_iff, h'.crashed_iff, hs]
  have hhandled : t.handled = t'.handled :=
    Std.ExtTreeSet.ext_mem fun c => by rw [h.handled_iff, h'.handled_iff, hs]
  have hterminating : t.terminating = t'.terminating :=
    Std.ExtTreeSet.ext_mem fun c => by rw [h.terminating_iff, h'.terminating_iff, hs]
  have hmembers : t.members = t'.members := by
    refine Std.ExtTreeMap.ext_getElem? fun e => ?_
    have hof : t.containersOf e = t'.containersOf e :=
      Std.ExtTreeSet.ext_mem fun c => by rw [h.mem_containersOf, h'.mem_containersOf, howner]
    have hnone : t.members[e]? = none ↔ t'.members[e]? = none := by
      rw [h.members_eq_none_iff, h'.members_eq_none_iff, howner]
    rw [containersOf, containersOf, Std.ExtTreeMap.getD_eq_getD_getElem?,
      Std.ExtTreeMap.getD_eq_getD_getElem?] at hof
    cases hm : t.members[e]? with
    | none => rw [hnone.mp hm]
    | some s =>
      cases hm' : t'.members[e]? with
      | none =>
        rw [hnone.mpr hm'] at hm
        cases hm
      | some s' => simpa [hm, hm'] using hof
  cases t
  cases t'
  simp_all

end Consistent

/-! ### What is reported -/

/-- It is news that the container has stopped: it was not told to end, and has not crashed. -/
def Standing.isNews (s : Standing) : Bool := !s.isPurgeable && !s.crashed

def Standing.isSilent (staleness : Int) (now : Instant) (s : Standing) : Bool :=
  !s.crashed && !s.terminating && decide (staleness < now - s.lastBeat)

namespace Standing

def crashIf (s : Standing) (found : Bool) : Standing := { s with crashed := s.crashed || found }

theorem lapse_eq (s : Standing) : s.lapse staleness now = s.crashIf (s.isSilent staleness now) := by
  obtain ⟨owner, lastBeat, crashed, handled, terminating⟩ := s
  cases crashed <;> cases terminating <;> by_cases hsilent : staleness < now - lastBeat <;>
    simp [lapse, crashIf, isSilent, hsilent]

/-- A container that has stopped and stays counts as crashed, so it is not found silent too. -/
theorem lapse_stop {s : Standing} (h : s.isPurgeable = false) :
    s.stop.map (lapse staleness now) = some (s.crashIf s.isNews) := by
  cases hc : s.crashed <;> simp [stop, h, lapse_eq, isSilent, crashIf, isNews, hc]

end Standing

theorem nodup_stale : (t.stale staleness now).Nodup := by
  have hkeys : (t.lastBeat.toList.map Prod.fst).Nodup := by
    rw [Std.ExtTreeMap.map_fst_toList_eq_keys]
    exact Std.ExtTreeMap.nodup_keys
  exact hkeys.sublist (List.filter_sublist.map Prod.fst)

namespace Consistent

/-- The two lists to which a stopped container is added if that it has stopped is news. -/
theorem news_sweepStopped (h : t.Consistent) (hc : c ∈ t.owner) (s : Summary) :
    let news := if (t.standing c).any Standing.isNews then [c] else []
    (t.sweepStopped s c).2.stoppedUnexpectedly = s.stoppedUnexpectedly ++ news ∧
      (t.sweepStopped s c).2.newlyCrashed = s.newlyCrashed ++ news := by
  have hp := h.isPurgeable_eq (c := c)
  obtain ⟨e, ho⟩ := mem_owner_iff.mp hc
  obtain ⟨beat, -, hs⟩ := h.standing_of_owner ho
  rw [hs, Option.any_some] at hp
  simp only [hs, Option.any_some, Standing.isNews, ← hp]
  unfold Tracker.sweepStopped
  split
  next hpurge => simp [hpurge, Tracker.purge, ho]
  next hpurge =>
    rw [Bool.not_eq_true] at hpurge
    split
    next hcrashed => simp [hpurge, Std.ExtTreeSet.contains_iff_mem.mpr hcrashed]
    next hcrashed =>
      rw [← Std.ExtTreeSet.contains_iff_mem, Bool.not_eq_true] at hcrashed
      simp [hpurge, hcrashed]

theorem news_sweepStopped_foldl (h : t.Consistent) {cs : List ContainerId} (hnd : cs.Nodup)
    (hcs : ∀ c ∈ cs, c ∈ t.owner) (s : Summary) :
    let r := cs.foldl (fun (t, s) c => t.sweepStopped s c) (t, s)
    let news := cs.filter fun c => (t.standing c).any Standing.isNews
    r.2.stoppedUnexpectedly = s.stoppedUnexpectedly ++ news ∧
      r.2.newlyCrashed = s.newlyCrashed ++ news := by
  induction cs generalizing t s with
  | nil => simp
  | cons c cs ih =>
    obtain ⟨hnot, hnd⟩ := List.nodup_cons.mp hnd
    have hc := hcs c (by simp)
    have howned : ∀ d ∈ cs, d ∈ (t.sweepStopped s c).1.owner := fun d hd =>
      h.owned_sweepStopped hc (hcs d (by simp [hd])) (fun heq => hnot (heq ▸ hd)) s
    -- What is known of the containers that are still to come is as it was.
    have hsame : cs.filter (fun d => ((t.sweepStopped s c).1.standing d).any Standing.isNews) =
        cs.filter fun d => (t.standing d).any Standing.isNews := by
      refine List.filter_congr fun d hd => ?_
      rw [h.standing_sweepStopped hc, if_neg (fun he : c = d => hnot (he ▸ hd))]
    obtain ⟨hstopped, hcrashed⟩ := ih (h.sweepStopped hc s) hnd howned (t.sweepStopped s c).2
    obtain ⟨hstopped', hcrashed'⟩ := h.news_sweepStopped hc s
    constructor
    · refine hstopped.trans ?_
      rw [hsame, hstopped', List.filter_cons]
      split <;> simp
    · refine hcrashed.trans ?_
      rw [hsame, hcrashed', List.filter_cons]
      split <;> simp

theorem mem_stale_iff_standing (h : t.Consistent) :
    c ∈ t.stale staleness now ↔ (t.standing c).any (Standing.isSilent staleness now) = true := by
  rw [mem_stale_iff, h.lastBeat_eq]
  cases hs : t.standing c with
  | none => simp
  | some s =>
    obtain ⟨-, -, hcr, -, hte⟩ := standing_eq_some_iff.mp hs
    simp [isStale, Standing.isSilent, hcr, hte]

theorem stoppedUnexpectedly_sweepIn (h : t.Consistent) :
    (t.sweepIn order staleness isStopped now).2.stoppedUnexpectedly =
      (order (t.containers.filter isStopped)).1.filter
        fun c => (t.standing c).any Standing.isNews :=
  (h.news_sweepStopped_foldl (nodup_visited t order isStopped) (fun _ => owned_of_visited) {}).1

/-- Containers that have stopped are removed or crashed when the silent ones are looked for, so
these are among the others. -/
theorem mem_stale_visitStopped_iff (h : t.Consistent) :
    c ∈ (t.visitStopped order isStopped).1.stale staleness now ↔
      isStopped c = false ∧ (t.standing c).any (Standing.isSilent staleness now) = true := by
  obtain ⟨hcons, hstand, -⟩ := h.visitStopped_spec order isStopped
  rw [hcons.mem_stale_iff_standing, hstand]
  cases hs : t.standing c with
  | none => simp
  | some s =>
    cases hstop : isStopped c with
    | false => simp
    | true => cases hp : s.isPurgeable <;> simp [Standing.stop, hp, Standing.isSilent]

theorem newlyCrashed_sweepIn (h : t.Consistent) :
    (t.sweepIn order staleness isStopped now).2.newlyCrashed =
      (t.sweepIn order staleness isStopped now).2.stoppedUnexpectedly ++
        (order ((t.visitStopped order isStopped).1.stale staleness now)).1 := by
  rw [h.stoppedUnexpectedly_sweepIn]
  exact congrArg (· ++ _)
    (h.news_sweepStopped_foldl (nodup_visited t order isStopped) (fun _ => owned_of_visited) {}).2

end Consistent

/-! ### What is left -/

structure Forgets (t : Tracker) (c : ContainerId) : Prop where
  owner : c ∉ t.owner
  members : ∀ e, c ∉ t.containersOf e
  lastBeat : c ∉ t.lastBeat
  crashed : c ∉ t.crashed
  handled : c ∉ t.handled
  terminating : c ∉ t.terminating

theorem Consistent.forgets_iff (h : t.Consistent) : t.Forgets c ↔ c ∉ t.owner := by
  refine ⟨Forgets.owner, fun hno => ⟨hno, fun e hc => ?_, ?_, ?_, ?_, ?_⟩⟩
  · exact hno (mem_owner_iff.mpr ⟨e, h.mem_containersOf.mp hc⟩)
  · exact fun hc => hno ((h.lastBeat_iff c).mp hc)
  · exact fun hc => hno (h.crashed_owned c hc)
  · exact fun hc => hno (h.crashed_owned c (h.handled_crashed c hc))
  · exact fun hc => hno (h.terminating_owned c hc)

/-- A sweep of `t` that leaves `t'` reports exactly what it did, and did nothing else. -/
structure SweepsTo (t : Tracker) (staleness : Int) (isStopped : ContainerId → Bool) (now : Instant)
    (t' : Tracker) (s : Summary) : Prop where
  purged_iff : ∀ c, c ∈ s.purged ↔
    c ∈ t.owner ∧ isStopped c = true ∧ (c ∈ t.handled ∨ c ∈ t.terminating)
  stoppedUnexpectedly_iff : ∀ c, c ∈ s.stoppedUnexpectedly ↔
    c ∈ t.owner ∧ isStopped c = true ∧ c ∉ t.handled ∧ c ∉ t.terminating ∧ c ∉ t.crashed
  newlyCrashed_iff : ∀ c, c ∈ s.newlyCrashed ↔ c ∈ s.stoppedUnexpectedly ∨
    isStopped c = false ∧ c ∉ t.crashed ∧ c ∉ t.terminating ∧
      ∃ beat, t.lastBeat[c]? = some beat ∧ staleness < now - beat
  emptied_iff : ∀ e, e ∈ s.emptied ↔
    (∃ c, c ∈ t.containersOf e) ∧ ∀ c ∈ t.containersOf e, c ∈ s.purged
  nodup : s.purged.Nodup ∧ s.stoppedUnexpectedly.Nodup ∧ s.newlyCrashed.Nodup ∧ s.emptied.Nodup
  forgotten : ∀ c ∈ s.purged, t'.Forgets c
  owner_eq : ∀ c, c ∉ s.purged → t'.owner[c]? = t.owner[c]?
  members_iff : ∀ c, c ∉ s.purged → ∀ e, c ∈ t'.containersOf e ↔ c ∈ t.containersOf e
  lastBeat_eq : ∀ c, c ∉ s.purged → t'.lastBeat[c]? = t.lastBeat[c]?
  crashed_iff : ∀ c, c ∉ s.purged → (c ∈ t'.crashed ↔ c ∈ t.crashed ∨ c ∈ s.newlyCrashed)
  handled_iff : ∀ c, c ∉ s.purged → (c ∈ t'.handled ↔ c ∈ t.handled)
  terminating_iff : ∀ c, c ∉ s.purged → (c ∈ t'.terminating ↔ c ∈ t.terminating)
  isEmpty_iff : s.isEmpty = true ↔ t' = t

namespace Consistent

theorem mem_purged_sweepIn_iff (h : t.Consistent) :
    c ∈ (t.sweepIn order staleness isStopped now).2.purged ↔
      c ∈ t.owner ∧ isStopped c = true ∧ (c ∈ t.handled ∨ c ∈ t.terminating) := by
  rw [(h.sweepIn_spec order staleness isStopped now).2.2, List.mem_filter, mem_visited_iff,
    and_assoc, isPurgeable, Bool.or_eq_true, Std.ExtTreeSet.contains_iff_mem,
    Std.ExtTreeSet.contains_iff_mem]

theorem mem_stoppedUnexpectedly_sweepIn (h : t.Consistent) :
    c ∈ (t.sweepIn order staleness isStopped now).2.stoppedUnexpectedly ↔
      isStopped c = true ∧ (t.standing c).any Standing.isNews = true := by
  rw [h.stoppedUnexpectedly_sweepIn, List.mem_filter, mem_visited_iff, and_assoc]
  refine and_iff_right_of_imp fun hc => ?_
  obtain ⟨s, hs, -⟩ := (Option.any_eq_true _ _).mp hc.2
  exact mem_owner_of_standing hs

theorem mem_newlyCrashed_sweepIn (h : t.Consistent) :
    c ∈ (t.sweepIn order staleness isStopped now).2.newlyCrashed ↔
      c ∈ (t.sweepIn order staleness isStopped now).2.stoppedUnexpectedly ∨
        isStopped c = false ∧ (t.standing c).any (Standing.isSilent staleness now) = true := by
  rw [h.newlyCrashed_sweepIn, List.mem_append, (order _).2.mem_iff, h.mem_stale_visitStopped_iff]

theorem news_iff (h : t.Consistent) :
    (t.standing c).any Standing.isNews = true ↔
      c ∈ t.owner ∧ c ∉ t.handled ∧ c ∉ t.terminating ∧ c ∉ t.crashed := by
  cases hs : t.standing c with
  | none => simp [h.standing_eq_none_iff.mp hs]
  | some s =>
    have hc := mem_owner_of_standing hs
    obtain ⟨hmc, hmh, hmt⟩ := mem_marks_of_standing hs
    simp [hc, hmc, hmh, hmt, Standing.isNews, Standing.isPurgeable, and_assoc]

theorem silent_iff (h : t.Consistent) :
    (t.standing c).any (Standing.isSilent staleness now) = true ↔
      c ∉ t.crashed ∧ c ∉ t.terminating ∧
        ∃ beat, t.lastBeat[c]? = some beat ∧ staleness < now - beat := by
  rw [h.lastBeat_eq]
  cases hs : t.standing c with
  | none => simp
  | some s =>
    obtain ⟨hmc, -, hmt⟩ := mem_marks_of_standing hs
    simp [hmc, hmt, Standing.isSilent, and_assoc]

/-- Of a container that stays, a sweep changes only whether it counts as crashed. -/
theorem standing_sweepIn (h : t.Consistent)
    (hc : c ∉ (t.sweepIn order staleness isStopped now).2.purged) :
    (t.sweepIn order staleness isStopped now).1.standing c = (t.standing c).map fun s =>
      s.crashIf (c ∈ (t.sweepIn order staleness isStopped now).2.newlyCrashed) := by
  simp only [h.mem_newlyCrashed_sweepIn, h.mem_stoppedUnexpectedly_sweepIn]
  rw [(h.sweepIn_spec order staleness isStopped now).2.2, List.mem_filter, mem_visited_iff,
    h.isPurgeable_eq] at hc
  rw [(h.sweepIn_spec order staleness isStopped now).2.1]
  cases hs : t.standing c with
  | none => rfl
  | some s =>
    have hco := mem_owner_of_standing hs
    rw [hs] at hc
    cases hstop : isStopped c with
    | false => simp [Standing.lapse_eq]
    | true =>
      have hp : s.isPurgeable = false := by simpa [hco, hstop] using hc
      simp [Standing.lapse_stop hp]

/-- The order in which a sweep comes upon the containers makes no difference to the tracker. -/
theorem sweepIn_fst (h : t.Consistent) (order order' : Order) :
    (t.sweepIn order staleness isStopped now).1 = (t.sweepIn order' staleness isStopped now).1 := by
  obtain ⟨hcons, hstand, -⟩ := h.sweepIn_spec order staleness isStopped now
  obtain ⟨hcons', hstand', -⟩ := h.sweepIn_spec order' staleness isStopped now
  exact hcons.eq_of_standing hcons' fun c => (hstand c).trans (hstand' c).symm

theorem forgets_of_purged (h : t.Consistent)
    (hc : c ∈ (t.sweepIn order staleness isStopped now).2.purged) :
    (t.sweepIn order staleness isStopped now).1.Forgets c := by
  obtain ⟨hcons, hstand, hpurged⟩ := h.sweepIn_spec order staleness isStopped now
  rw [hpurged, List.mem_filter, mem_visited_iff, h.isPurgeable_eq] at hc
  obtain ⟨⟨-, hstop⟩, hp⟩ := hc
  rw [hcons.forgets_iff, ← hcons.standing_eq_none_iff, hstand]
  obtain ⟨s, hs, hp⟩ := (Option.any_eq_true _ _).mp hp
  simp [hs, hstop, Standing.stop, hp]

/-- A container that stays keeps its owner, its last beat and its marks, but for that of a crash. -/
theorem marks_sweepIn (h : t.Consistent)
    (hc : c ∉ (t.sweepIn order staleness isStopped now).2.purged) :
    let t' := (t.sweepIn order staleness isStopped now).1
    (t'.owner[c]? = t.owner[c]? ∧ t'.lastBeat[c]? = t.lastBeat[c]?) ∧
      (c ∈ t'.crashed ↔ c ∈ t.crashed ∨
        c ∈ (t.sweepIn order staleness isStopped now).2.newlyCrashed) ∧
      (c ∈ t'.handled ↔ c ∈ t.handled) ∧ (c ∈ t'.terminating ↔ c ∈ t.terminating) := by
  have hcons := (h.sweepIn_spec order staleness isStopped now).1
  have hstand := h.standing_sweepIn hc
  dsimp only
  rw [hcons.owner_eq, h.owner_eq, hcons.lastBeat_eq, h.lastBeat_eq, hstand, Option.map_map,
    Option.map_map]
  refine ⟨⟨rfl, rfl⟩, ?_⟩
  cases hs : t.standing c with
  | none =>
    have hno := h.forgets_iff.mpr (h.standing_eq_none_iff.mp hs)
    have hno' := hcons.forgets_iff.mpr (hcons.standing_eq_none_iff.mp (by rw [hstand, hs]; rfl))
    simp [hno.crashed, hno.handled, hno.terminating, hno'.crashed, hno'.handled, hno'.terminating,
      h.mem_newlyCrashed_sweepIn, h.mem_stoppedUnexpectedly_sweepIn, hs]
  | some s =>
    rw [hs] at hstand
    obtain ⟨hmc, hmh, hmt⟩ := mem_marks_of_standing hs
    obtain ⟨hmc', hmh', hmt'⟩ := mem_marks_of_standing hstand
    simp [hmc, hmh, hmt, hmc', hmh', hmt', Standing.crashIf]

end Consistent

/-! ### Emptied executions -/

theorem nodup_emptied_sweepStopped {s : Summary} (hnd : s.emptied.Nodup) :
    (t.sweepStopped s c).2.emptied.Nodup := by
  unfold sweepStopped
  split
  · unfold purge
    split
    next => exact hnd
    next e _ =>
      dsimp only
      split
      next hnew =>
        rw [← List.concat_eq_append]
        exact hnd.concat hnew.2
      next => exact hnd
  · split <;> exact hnd

theorem nodup_emptied_sweepIn : (t.sweepIn order staleness isStopped now).2.emptied.Nodup := by
  have hfold (cs : List ContainerId) : ∀ (t : Tracker) (s : Summary), s.emptied.Nodup →
      (cs.foldl (fun (t, s) c => t.sweepStopped s c) (t, s)).2.emptied.Nodup := by
    induction cs with
    | nil => exact fun _ _ hnd => hnd
    | cons c cs ih => exact fun t s hnd => ih _ _ (nodup_emptied_sweepStopped hnd)
  exact hfold _ t {} List.nodup_nil

namespace Consistent

theorem members_sweepIn_iff (h : t.Consistent)
    (hc : c ∉ (t.sweepIn order staleness isStopped now).2.purged) :
    c ∈ (t.sweepIn order staleness isStopped now).1.containersOf e ↔ c ∈ t.containersOf e := by
  rw [(h.sweepIn_spec order staleness isStopped now).1.mem_containersOf, h.mem_containersOf,
    (h.marks_sweepIn hc).1.1]

/-- An execution is emptied if it had containers and all of them were removed. -/
theorem emptied_sweepIn_iff (h : t.Consistent) :
    e ∈ (t.sweepIn order staleness isStopped now).2.emptied ↔ (∃ c, c ∈ t.containersOf e) ∧
      ∀ c ∈ t.containersOf e, c ∈ (t.sweepIn order staleness isStopped now).2.purged := by
  rw [h.mem_emptied_sweepIn_iff]
  constructor
  · rintro ⟨he, hgone⟩
    refine ⟨h.exists_mem_containersOf he, fun c hc => ?_⟩
    by_contra hkept
    exact hgone (mem_executions_of_mem ((h.members_sweepIn_iff hkept).mpr hc))
  · rintro ⟨⟨c, hc⟩, hall⟩
    refine ⟨mem_executions_of_mem hc, fun he => ?_⟩
    obtain ⟨d, hd⟩ := (h.sweepIn_spec order staleness isStopped now).1.exists_mem_containersOf he
    have hkept : d ∉ (t.sweepIn order staleness isStopped now).2.purged :=
      fun hpurged => (h.forgets_of_purged hpurged).members e hd
    exact hkept (hall d ((h.members_sweepIn_iff hkept).mp hd))

/-! ### The summary as a whole -/

theorem nodup_purged_sweepIn (h : t.Consistent) :
    (t.sweepIn order staleness isStopped now).2.purged.Nodup := by
  rw [(h.sweepIn_spec order staleness isStopped now).2.2]
  exact (nodup_visited t order isStopped).filter _

theorem nodup_stoppedUnexpectedly_sweepIn (h : t.Consistent) :
    (t.sweepIn order staleness isStopped now).2.stoppedUnexpectedly.Nodup := by
  rw [h.stoppedUnexpectedly_sweepIn]
  exact (nodup_visited t order isStopped).filter _

theorem nodup_newlyCrashed_sweepIn (h : t.Consistent) :
    (t.sweepIn order staleness isStopped now).2.newlyCrashed.Nodup := by
  rw [h.newlyCrashed_sweepIn, List.nodup_append']
  refine ⟨h.nodup_stoppedUnexpectedly_sweepIn, (order _).2.nodup_iff.mpr nodup_stale, ?_⟩
  intro c hc hsilent
  have hstop := (h.mem_stoppedUnexpectedly_sweepIn.mp hc).1
  rw [(order _).2.mem_iff, h.mem_stale_visitStopped_iff, hstop] at hsilent
  exact Bool.noConfusion hsilent.1

/-- No container is both marked as crashed and removed, and none is marked twice. -/
theorem not_purged_of_newlyCrashed (h : t.Consistent)
    (hc : c ∈ (t.sweepIn order staleness isStopped now).2.newlyCrashed) :
    c ∉ (t.sweepIn order staleness isStopped now).2.purged ∧ c ∉ t.crashed := by
  rw [h.mem_purged_sweepIn_iff]
  rcases h.mem_newlyCrashed_sweepIn.mp hc with hc | ⟨hstop, hc⟩
  · obtain ⟨-, hh, ht, hcr⟩ := h.news_iff.mp (h.mem_stoppedUnexpectedly_sweepIn.mp hc).2
    exact ⟨fun hp => hp.2.2.elim hh ht, hcr⟩
  · rw [hstop]
    exact ⟨fun hp => Bool.noConfusion hp.2.1, (h.silent_iff.mp hc).1⟩

/-- A sweep that finds nothing to do changes nothing, and one that finds something does. -/
theorem isEmpty_sweepIn_iff (h : t.Consistent) :
    (t.sweepIn order staleness isStopped now).2.isEmpty = true ↔
      (t.sweepIn order staleness isStopped now).1 = t := by
  rw [Summary.isEmpty, Bool.and_eq_true, List.isEmpty_iff, List.isEmpty_iff]
  have hcons := (h.sweepIn_spec order staleness isStopped now).1
  constructor
  · rintro ⟨hcrashed, hpurged⟩
    refine hcons.eq_of_standing h fun c => ?_
    rw [h.standing_sweepIn (by simp [hpurged]), hcrashed]
    simp [Standing.crashIf]
  · intro hsame
    rw [List.eq_nil_iff_forall_not_mem, List.eq_nil_iff_forall_not_mem]
    constructor
    · intro c hc
      obtain ⟨hkept, hno⟩ := h.not_purged_of_newlyCrashed hc
      have hcr := (h.marks_sweepIn hkept).2.1.mpr (.inr hc)
      rw [hsame] at hcr
      exact hno hcr
    · intro c hc
      have hgone := (h.forgets_of_purged hc).owner
      rw [hsame] at hgone
      exact hgone (h.mem_purged_sweepIn_iff.mp hc).1

/-- What a sweep reports, and what it leaves. -/
theorem sweepsTo_sweepIn (h : t.Consistent) (order : Order) (staleness : Int)
    (isStopped : ContainerId → Bool) (now : Instant) :
    let r := t.sweepIn order staleness isStopped now
    t.SweepsTo staleness isStopped now r.1 r.2 where
  purged_iff c := h.mem_purged_sweepIn_iff
  stoppedUnexpectedly_iff c := by
    rw [h.mem_stoppedUnexpectedly_sweepIn, h.news_iff, and_left_comm]
  newlyCrashed_iff c := by rw [h.mem_newlyCrashed_sweepIn, h.silent_iff]
  emptied_iff e := h.emptied_sweepIn_iff
  nodup := ⟨h.nodup_purged_sweepIn, h.nodup_stoppedUnexpectedly_sweepIn,
    h.nodup_newlyCrashed_sweepIn, nodup_emptied_sweepIn⟩
  forgotten c hc := h.forgets_of_purged hc
  owner_eq c hc := (h.marks_sweepIn hc).1.1
  members_iff c hc e := h.members_sweepIn_iff hc
  lastBeat_eq c hc := (h.marks_sweepIn hc).1.2
  crashed_iff c hc := (h.marks_sweepIn hc).2.1
  handled_iff c hc := (h.marks_sweepIn hc).2.2.1
  terminating_iff c hc := (h.marks_sweepIn hc).2.2.2
  isEmpty_iff := h.isEmpty_sweepIn_iff

end Consistent

end AgentFleet.Tracker
