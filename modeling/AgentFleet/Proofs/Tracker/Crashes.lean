import Mathlib.Data.List.Induction
import AgentFleet.Proofs.Tracker.Standing

/-!
When a crashed container leaves the tracker. A sweep removes a stopped container that is handled or
terminating, so what matters is where these two marks of a crashed container come from. Both are
traced back through the operations so far: such a mark was set while the container counted as
crashed, and the container has counted as crashed ever since.
-/

namespace AgentFleet.Tracker

variable {t : Tracker} {c : ContainerId} {ops : List Operation} {op : Operation}
  {staleness : Int} {isStopped : ContainerId → Bool} {now : Instant}

def Operation.Handles (c : ContainerId) : Operation → Prop
  | markHandled cs => c ∈ cs
  | _ => False

/-! ### One operation -/

namespace Standing

variable {s s' : Standing}

theorem lapse_handled : (s.lapse staleness now).handled = s.handled := by
  unfold lapse
  split <;> rfl

theorem lapse_terminating : (s.lapse staleness now).terminating = s.terminating := by
  unfold lapse
  split <;> rfl

theorem lapse_of_terminating (h : s.terminating = true) : s.lapse staleness now = s := by
  simp [lapse, h]

/-- Only a container that is not purgeable outlives that it has stopped. -/
theorem stop_eq_some_iff :
    s.stop = some s' ↔ s.isPurgeable = false ∧ s' = { s with crashed := true } := by
  unfold stop
  cases s.isPurgeable <;> simp [eq_comm]

end Standing

section Step

variable {s s' : Standing}

/-- A sweep keeps the handled and the terminating mark of a container that it keeps, and counts only
a container that is not terminating as crashed. -/
theorem affect_sweep (h : (Operation.sweep staleness isStopped now).affect c (some s) = some s') :
    s'.handled = s.handled ∧ s'.terminating = s.terminating ∧
      (s.terminating = true → s' = s) := by
  simp only [Operation.affect, Option.bind_some] at h
  obtain ⟨r, hr, rfl⟩ := Option.map_eq_some_iff.mp h
  rw [Standing.lapse_handled, Standing.lapse_terminating]
  split at hr
  next =>
    obtain ⟨hp, rfl⟩ := Standing.stop_eq_some_iff.mp hr
    refine ⟨rfl, rfl, fun ht => ?_⟩
    simp [Standing.isPurgeable, ht] at hp
  next =>
    cases hr
    exact ⟨rfl, rfl, Standing.lapse_of_terminating⟩

/-- A container that was not known is registered, without any mark. -/
theorem registered_of_affect_none (h : op.affect c none = some s') :
    ∃ e time, op = .upsert e c time ∧ s' = ⟨e, time, false, false, false⟩ := by
  cases op with
  | upsert e d time =>
    obtain ⟨rfl, rfl⟩ : d = c ∧ Standing.hear e time none = s' := by
      simpa [Operation.affect] using h
    exact ⟨e, time, rfl, rfl⟩
  | _ => simp [Operation.affect] at h

theorem hear_some (e : ExecutionId) (time : Instant) :
    ∃ beat, Standing.hear e time (some s) = { s with lastBeat := beat } := by
  unfold Standing.hear
  dsimp only
  split
  · exact ⟨time, rfl⟩
  · exact ⟨s.lastBeat, rfl⟩

/-- How an operation changes the marks of a container that it keeps. A container that it newly
counts as crashed has neither of the marks that let a sweep remove it. -/
theorem marks_affect (h : op.affect c (some s) = some s') :
    (s'.handled = true ↔ s.handled = true ∨ s.crashed = true ∧ op.Handles c) ∧
    (s'.terminating = true ↔
      op = .markTerminating c ∨ s.terminating = true ∧ op ≠ .markCrashed c) ∧
    (s'.crashed = true → s.crashed = false → s'.terminating = false ∧ ¬ op.Handles c) := by
  cases op with
  | sweep staleness isStopped now =>
    obtain ⟨hh, ht, hsame⟩ := affect_sweep h
    refine ⟨by simp [hh, Operation.Handles], by simp [ht], fun hc hs => ⟨?_, id⟩⟩
    rw [ht, ← Bool.not_eq_true]
    intro hte
    rw [hsame hte, hs] at hc
    cases hc
  | upsert e d time =>
    obtain ⟨beat, hb⟩ := hear_some (s := s) e time
    simp only [Operation.affect, hb] at h
    split at h <;> cases h <;> simp_all [Operation.Handles]
  | markCrashed d | markTerminating d | markHandled cs =>
    simp only [Operation.affect] at h
    split at h <;> cases h <;>
      simp_all [Operation.Handles, Standing.crash, Standing.terminate, Standing.handle]
  | delete d | deleteAll cs | deleteExecution e =>
    simp [Operation.affect, Option.filter] at h
    simp_all [Operation.Handles]
  | containers | executions | crashed | lost | hasLive e =>
    cases h
    simp_all [Operation.Handles]

end Step

/-! ### Since the crash -/

/-- The container counts as crashed after the operations of `before`, and after each of the later
ones. -/
def CrashedThrough (c : ContainerId) (before later : List Operation) : Prop :=
  ∀ done, done <+: later → c ∈ (empty.after (before ++ done)).crashed

/-- Since the container counts as crashed an operation of one kind was carried out, and none of
another kind after it. -/
def SinceCrash (mark clear : Operation → Prop) (c : ContainerId) (ops : List Operation) : Prop :=
  ∃ before op later, ops = before ++ op :: later ∧ mark op ∧ (∀ op ∈ later, ¬ clear op) ∧
    CrashedThrough c before (op :: later)

/-- The crash of the container was marked as handled while it counted as crashed, and the container
has counted as crashed ever since. -/
def HandledSinceCrash (c : ContainerId) (ops : List Operation) : Prop :=
  SinceCrash (·.Handles c) (fun _ => False) c ops

/-- The container was told to end after it had crashed, and was not reported as crashed again. -/
def ToldSinceCrash (c : ContainerId) (ops : List Operation) : Prop :=
  SinceCrash (· = .markTerminating c) (· = .markCrashed c) c ops

variable {mark clear : Operation → Prop} {before later : List Operation}

theorem CrashedThrough.start (h : CrashedThrough c before later) :
    c ∈ (empty.after before).crashed := by
  simpa using h [] List.nil_prefix

theorem CrashedThrough.finish (h : CrashedThrough c before later) :
    c ∈ (empty.after (before ++ later)).crashed := h later List.prefix_rfl

theorem crashedThrough_snoc :
    CrashedThrough c before (later ++ [op]) ↔
      CrashedThrough c before later ∧ c ∈ (empty.after (before ++ (later ++ [op]))).crashed := by
  constructor
  · intro h
    exact ⟨fun done hd => h done (hd.trans (List.prefix_append ..)), h.finish⟩
  · rintro ⟨h, hlast⟩ done hd
    rcases List.prefix_concat_iff.mp hd with rfl | hd
    · exact hlast
    · exact h done hd

theorem crashedThrough_single :
    CrashedThrough c before [op] ↔
      c ∈ (empty.after before).crashed ∧ c ∈ (empty.after (before ++ [op])).crashed := by
  refine ⟨fun h => ⟨h.start, h.finish⟩, ?_⟩
  rintro ⟨hb, ha⟩ done hd
  rcases List.prefix_cons_iff.mp hd with rfl | ⟨rest, rfl, hrest⟩
  · rwa [List.append_nil]
  · rwa [List.prefix_nil.mp hrest]

/-- What was so since the crash before an operation is so after it, unless the operation ends it. -/
theorem sinceCrash_snoc :
    SinceCrash mark clear c (ops ++ [op]) ↔ c ∈ (empty.after ops).crashed ∧
      c ∈ (empty.after (ops ++ [op])).crashed ∧
      (mark op ∨ SinceCrash mark clear c ops ∧ ¬ clear op) := by
  constructor
  · rintro ⟨before, o, later, he, hmark, hclear, hthrough⟩
    rcases List.eq_nil_or_concat later with rfl | ⟨later, o', rfl⟩
    · obtain ⟨rfl, rfl⟩ := List.append_singleton_inj.mp he
      obtain ⟨hb, ha⟩ := crashedThrough_single.mp hthrough
      exact ⟨hb, ha, .inl hmark⟩
    · rw [List.concat_eq_append, ← List.cons_append, ← List.append_assoc] at he
      obtain ⟨rfl, rfl⟩ := List.append_singleton_inj.mp he
      rw [List.concat_eq_append, ← List.cons_append, crashedThrough_snoc] at hthrough
      rw [List.append_assoc]
      refine ⟨hthrough.1.finish, hthrough.2, .inr ⟨?_, hclear _ (by simp)⟩⟩
      exact ⟨before, o, later, rfl, hmark, fun o ho => hclear o (by simp [ho]), hthrough.1⟩
  · rintro ⟨hb, ha, hmark | ⟨⟨before, o, later, rfl, hmark, hclear, hthrough⟩, hnot⟩⟩
    · exact ⟨ops, op, [], by simp, hmark, by simp, crashedThrough_single.mpr ⟨hb, ha⟩⟩
    · rw [List.append_assoc, List.cons_append] at ha ⊢
      refine ⟨before, o, later ++ [op], rfl, hmark, ?_, ?_⟩
      · intro o' ho'
        rcases List.mem_append.mp ho' with ho' | ho'
        · exact hclear o' ho'
        · rwa [List.mem_singleton.mp ho']
      · exact crashedThrough_snoc.mpr ⟨hthrough, ha⟩

/-! ### Where the marks of a crashed container come from -/

theorem mem_marks_of_standing {s : Standing} (hs : t.standing c = some s) :
    (c ∈ t.crashed ↔ s.crashed = true) ∧ (c ∈ t.handled ↔ s.handled = true) ∧
      (c ∈ t.terminating ↔ s.terminating = true) := by
  obtain ⟨-, -, hc, hh, ht⟩ := standing_eq_some_iff.mp hs
  simp only [← Std.ExtTreeSet.contains_iff_mem, hc, hh, ht, and_self]

/-- A crashed container has a handled crash exactly if its crash was handled since, and it is
terminating exactly if it was told to end since. -/
theorem marks_of_crashed (hc : c ∈ (empty.after ops).crashed) :
    (c ∈ (empty.after ops).handled ↔ HandledSinceCrash c ops) ∧
    (c ∈ (empty.after ops).terminating ↔ ToldSinceCrash c ops) := by
  induction ops using List.reverseRecOn with
  | nil => simp [after, empty] at hc
  | append_singleton ops op ih =>
    have h : (empty.after ops).Consistent := Consistent.empty.after ops
    have h' := Consistent.empty.after (ops ++ [op])
    have hstep := standing_apply h op c
    have hafter : empty.after (ops ++ [op]) = (op.apply (empty.after ops)).2 := after_append ..
    rw [← hafter] at hstep
    obtain ⟨s', hs', hcr'⟩ := h'.crashed_iff.mp hc
    rw [hs'] at hstep
    cases hs : (empty.after ops).standing c with
    | none =>
      rw [hs] at hstep
      obtain ⟨_, _, -, rfl⟩ := registered_of_affect_none hstep.symm
      cases hcr'
    | some s =>
      rw [hs] at hstep
      obtain ⟨hh, ht, hnew⟩ := marks_affect hstep.symm
      obtain ⟨hmc, hmh, hmt⟩ := mem_marks_of_standing hs
      obtain ⟨-, hmh', hmt'⟩ := mem_marks_of_standing hs'
      have hhc : s.handled = true → s.crashed = true :=
        fun hm => hmc.mp (h.handled_crashed c (hmh.mpr hm))
      rw [HandledSinceCrash, ToldSinceCrash, sinceCrash_snoc, sinceCrash_snoc, hmh', hmt', hh]
      cases hcr : s.crashed with
      | true =>
        have hcb := hmc.mpr hcr
        obtain ⟨ihh, iht⟩ := ih hcb
        simp only [hcb, hc, true_and, not_false_eq_true, and_true]
        rw [← hmh, ihh, ht, ← hmt, iht]
        exact ⟨Or.comm, Iff.rfl⟩
      | false =>
        -- The crash is new, so neither mark can be older than it.
        obtain ⟨hte, hnh⟩ := hnew hcr' hcr
        have hcb : c ∉ (empty.after ops).crashed := by simp [hmc, hcr]
        have hsh : s.handled = false := by
          rw [← Bool.not_eq_true]
          intro hm
          rw [hhc hm] at hcr
          cases hcr
        simp [hcb, hte, hsh]

theorem isPurgeable_of_crashed (hc : c ∈ (empty.after ops).crashed) :
    (empty.after ops).isPurgeable c = true ↔ HandledSinceCrash c ops ∨ ToldSinceCrash c ops := by
  obtain ⟨hh, ht⟩ := marks_of_crashed hc
  rw [isPurgeable, Bool.or_eq_true, Std.ExtTreeSet.contains_iff_mem,
    Std.ExtTreeSet.contains_iff_mem, hh, ht]

theorem Consistent.mem_purged_iff (h : t.Consistent) :
    c ∈ (t.sweep staleness isStopped now).2.purged ↔
      c ∈ t.owner ∧ isStopped c = true ∧ t.isPurgeable c = true := by
  rw [h.sweep_spec.2.2, List.mem_filter, List.mem_filter, mem_containers_iff, and_assoc]

theorem Consistent.standing_sweep_of_crashed (h : t.Consistent) (hc : c ∈ t.crashed)
    (hp : c ∉ (t.sweep staleness isStopped now).2.purged) :
    (t.sweep staleness isStopped now).1.standing c = t.standing c := by
  obtain ⟨s, hs, hcr⟩ := h.crashed_iff.mp hc
  have hsame : { s with crashed := true } = s := by rw [← hcr]
  have hlapse : s.lapse staleness now = s := by simp [Standing.lapse, hsame]
  rw [h.mem_purged_iff, h.isPurgeable_eq, hs, Option.any_some] at hp
  rw [h.sweep_spec.2.1, hs, Option.bind_some]
  cases hstop : isStopped c with
  | false => simp [hlapse]
  | true =>
    have hnp : s.isPurgeable = false := by simpa [h.crashed_owned c hc, hstop] using hp
    simp [Standing.stop, hnp, hsame, hlapse]

/-- A sweep removes a crashed container exactly if it has stopped and, since its crash, the crash
was handled or the container was told to end; otherwise it leaves the container as it was. -/
theorem purged_of_crashed_iff (ops : List Operation) (staleness : Int)
    (isStopped : ContainerId → Bool) (now : Instant) (c : ContainerId)
    (hc : c ∈ (empty.after ops).crashed) :
    (c ∈ ((empty.after ops).sweep staleness isStopped now).2.purged ↔
      isStopped c = true ∧ (HandledSinceCrash c ops ∨ ToldSinceCrash c ops)) ∧
    (c ∉ ((empty.after ops).sweep staleness isStopped now).2.purged →
      c ∈ ((empty.after ops).sweep staleness isStopped now).1.owner ∧
      ((empty.after ops).sweep staleness isStopped now).1.standing c =
        (empty.after ops).standing c) := by
  have h : (empty.after ops).Consistent := Consistent.empty.after ops
  have ho := h.crashed_owned c hc
  constructor
  · rw [h.mem_purged_iff, isPurgeable_of_crashed hc]
    exact and_iff_right ho
  · intro hp
    have hs := h.standing_sweep_of_crashed hc hp
    refine ⟨?_, hs⟩
    refine Decidable.byContradiction fun hno => ?_
    rw [← h.sweep_spec.1.standing_eq_none_iff, hs, h.standing_eq_none_iff] at hno
    exact hno ho

/-- A handled crash, and the container is removed. -/
theorem purged_of_handled_crash :
    let ops : List Operation := [.upsert "e" "c" 0, .markCrashed "c", .markHandled ["c"]]
    "c" ∈ (empty.after ops).crashed ∧
      "c" ∈ ((empty.after ops).sweep 60000000000 (· == "c") 0).2.purged ∧
      (HandledSinceCrash "c" ops ∨ ToldSinceCrash "c" ops) := by
  have hc : "c" ∈ (empty.after
      [.upsert "e" "c" 0, .markCrashed "c", .markHandled ["c"]]).crashed := by decide
  have hp : "c" ∈ ((empty.after [.upsert "e" "c" 0, .markCrashed "c",
      .markHandled ["c"]]).sweep 60000000000 (· == "c") 0).2.purged := by decide
  exact ⟨hc, hp, ((purged_of_crashed_iff _ _ _ _ _ hc).1.mp hp).2⟩

/-- A container that is told to end after it has crashed is removed although its crash was never
handled. -/
theorem crash_purged_unhandled :
    let ops : List Operation := [.upsert "e" "c" 0, .markCrashed "c", .markTerminating "c"]
    "c" ∈ (empty.after ops).crashed ∧
      "c" ∈ ((empty.after ops).sweep 60000000000 (· == "c") 0).2.purged ∧
      "c" ∉ ((empty.after ops).sweep 60000000000 (· == "c") 0).1.owner ∧
      ¬ HandledSinceCrash "c" ops := by
  have hc : "c" ∈ (empty.after
      [.upsert "e" "c" 0, .markCrashed "c", .markTerminating "c"]).crashed := by decide
  refine ⟨hc, by decide, by decide, ?_⟩
  rw [← (marks_of_crashed hc).1]
  decide

end AgentFleet.Tracker
