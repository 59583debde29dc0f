import AgentFleet.Proofs.Tracker.Effect
import AgentFleet.Proofs.Tracker.Live

/-!
Who owns a container, and what is left by an operation that is refused. A container gets its owner
when it is registered and keeps it until it is removed, so that it comes to another execution only
by being removed and registered again. An operation that is refused changes nothing at all.
-/

namespace AgentFleet.Tracker

variable {t : Tracker} {c : ContainerId} {op : Operation} {r : Refusal} {later : List Operation}

/-! ### Refusals -/

def Operation.refusal? : (op : Operation) → op.Answer → Option Refusal
  | upsert _ _ _, .error r => some r
  | markCrashed _, .error r => some r
  | markTerminating _, .error r => some r
  | _, _ => none

/-- What the tracker does not allow: that a container moves to another execution, and that one is
marked which is not known. -/
inductive Forbids (t : Tracker) : Operation → Refusal → Prop
  | moving {c : ContainerId} {owner e : ExecutionId} {time : Instant} :
    t.owner[c]? = some owner → owner ≠ e →
    Forbids t (.upsert e c time) (.ownedElsewhere c owner e)
  | crash {c : ContainerId} : c ∉ t.owner → Forbids t (.markCrashed c) (.notTracked c)
  | terminate {c : ContainerId} : c ∉ t.owner → Forbids t (.markTerminating c) (.notTracked c)

theorem refusal?_upsert {e : ExecutionId} {time : Instant} :
    (Operation.upsert e c time).refusal? ((Operation.upsert e c time).apply t).1 = some r ↔
      ∃ owner, t.owner[c]? = some owner ∧ owner ≠ e ∧ r = .ownedElsewhere c owner e := by
  cases ho : t.owner[c]? with
  | none => simp [Operation.apply, upsert, ho, orSame, Operation.refusal?]
  | some owner =>
    by_cases he : owner = e
    · simp [Operation.apply, upsert, ho, he, orSame, Operation.refusal?]
    · simpa [Operation.apply, upsert, ho, he, orSame, Operation.refusal?] using eq_comm

theorem refusal?_markCrashed :
    (Operation.markCrashed c).refusal? ((Operation.markCrashed c).apply t).1 = some r ↔
      c ∉ t.owner ∧ r = .notTracked c := by
  by_cases hc : c ∈ t.owner <;>
    simp [Operation.apply, markCrashed, hc, orSame, Operation.refusal?, eq_comm]

theorem refusal?_markTerminating :
    (Operation.markTerminating c).refusal? ((Operation.markTerminating c).apply t).1 = some r ↔
      c ∉ t.owner ∧ r = .notTracked c := by
  by_cases hc : c ∈ t.owner <;>
    simp [Operation.apply, markTerminating, hc, Operation.refusal?, eq_comm]

/-- An operation is refused for what it would do and the tracker does not allow. -/
theorem refusal?_eq_some_iff : op.refusal? (op.apply t).1 = some r ↔ t.Forbids op r := by
  cases op with
  | upsert e c time =>
    rw [refusal?_upsert]
    constructor
    · rintro ⟨owner, ho, hne, rfl⟩
      exact .moving ho hne
    · rintro ⟨ho, hne⟩
      exact ⟨_, ho, hne, rfl⟩
  | markCrashed c =>
    rw [refusal?_markCrashed]
    constructor
    · rintro ⟨hc, rfl⟩
      exact .crash hc
    · intro h
      cases h with
      | crash hc => exact ⟨hc, rfl⟩
  | markTerminating c =>
    rw [refusal?_markTerminating]
    constructor
    · rintro ⟨hc, rfl⟩
      exact .terminate hc
    · intro h
      cases h with
      | terminate hc => exact ⟨hc, rfl⟩
  | _ => exact ⟨nofun, nofun⟩

theorem apply_of_forbidden (h : t.Forbids op r) : (op.apply t).2 = t := by
  cases h with
  | moving ho hne => simp [Operation.apply, upsert, ho, hne, orSame]
  | crash hc => simp [Operation.apply, markCrashed, hc, orSame]
  | terminate hc => simp [Operation.apply, markTerminating, hc]

/-! ### Owners -/

def Removes (t : Tracker) (c : ContainerId) : Operation → Prop
  | .delete d => d = c
  | .deleteAll cs => c ∈ cs
  | .deleteExecution e => t.owner[c]? = some e
  | .sweep staleness isStopped now => c ∈ (t.sweep staleness isStopped now).2.purged
  | _ => False

inductive Reowns (t : Tracker) (c : ContainerId) (op : Operation) :
    Option ExecutionId → Option ExecutionId → Prop
  | registered {e : ExecutionId} {time : Instant} : op = .upsert e c time →
    op.refusal? (op.apply t).1 = none → Reowns t c op none (some e)
  | removed {e : ExecutionId} : t.Removes c op → Reowns t c op (some e) none

namespace Consistent

/-- Only a removal takes from the tracker what it knows of a container. -/
theorem removes_of_affect (h : t.Consistent) {known : Standing} (hc : t.standing c = some known)
    (hgone : op.affect c (some known) = none) : t.Removes c op := by
  have ho := (standing_eq_some_iff.mp hc).1
  cases op with
  | sweep staleness isStopped now =>
    refine h.mem_purged_iff.mpr ⟨mem_owner_of_standing hc, ?_⟩
    rw [h.isPurgeable_eq, hc, Option.any_some]
    cases hstop : isStopped c <;> simp_all [Operation.affect, Standing.stop]
  | upsert e d time | markCrashed d | markTerminating d | markHandled cs =>
    simp only [Operation.affect] at hgone
    split at hgone <;> cases hgone
  | delete d | deleteAll cs =>
    simp only [Operation.affect] at hgone
    split at hgone
    next hd => exact hd
    next => cases hgone
  | deleteExecution e =>
    simp only [Operation.affect, Option.filter] at hgone
    simp_all [Removes]
  | containers | executions | crashed | lost | hasLive e => cases hgone

theorem reowns (h : t.Consistent) (op : Operation) (c : ContainerId) :
    (op.apply t).2.owner[c]? = t.owner[c]? ∨
      t.Reowns c op t.owner[c]? (op.apply t).2.owner[c]? := by
  rw [(h.apply op).owner_eq, standing_apply h, h.owner_eq]
  cases hs : t.standing c with
  | none =>
    have ho : t.owner[c]? = none := by rw [h.owner_eq, hs]; rfl
    cases hs' : op.affect c none with
    | none => exact .inl rfl
    | some known =>
      obtain ⟨e, time, rfl, rfl⟩ := registered_of_affect_none hs'
      refine .inr (.registered rfl (Option.eq_none_iff_forall_ne_some.mpr fun r hr => ?_))
      obtain ⟨owner, ho', -⟩ := refusal?_upsert.mp hr
      rw [ho] at ho'
      cases ho'
  | some known =>
    cases hs' : op.affect c (some known) with
    | none => exact .inr (.removed (h.removes_of_affect hs hs'))
    | some known' => exact .inl (congrArg some (live_affect hs').1)

theorem owner_apply (h : t.Consistent) (hc : c ∈ t.owner) (hc' : c ∈ (op.apply t).2.owner) :
    (op.apply t).2.owner[c]? = t.owner[c]? := by
  obtain ⟨e, ho⟩ := mem_owner_iff.mp hc
  obtain ⟨e', ho'⟩ := mem_owner_iff.mp hc'
  refine (h.reowns op c).resolve_right fun hreowns => ?_
  rw [ho, ho'] at hreowns
  cases hreowns

/-- As long as a container is known it keeps its owner. -/
theorem owner_after (h : t.Consistent)
    (hthrough : ∀ done, done <+: later → c ∈ (t.after done).owner) :
    (t.after later).owner[c]? = t.owner[c]? := by
  induction later generalizing t with
  | nil => rfl
  | cons op later ih =>
    have hc : c ∈ t.owner := hthrough [] List.nil_prefix
    have hc' : c ∈ (op.apply t).2.owner := hthrough [op] (List.prefix_append [op] later)
    refine (ih (h.apply op) fun done hdone => ?_).trans (h.owner_apply hc hc')
    exact hthrough (op :: done) (List.cons_prefix_cons.mpr ⟨rfl, hdone⟩)

end Consistent

/-- Whatever operations are carried out: both indexes name the same owner of a container, an
operation changes it only by registering a container that was not known or by removing one, and a
container keeps it as long as it is known. An operation is refused for what the tracker does not
allow, and then leaves all indexes as they were. -/
theorem ownership_lasts (ops : List Operation) :
    let t := empty.after ops
    (∀ c e, c ∈ t.containersOf e ↔ t.owner[c]? = some e) ∧
    (∀ (c : ContainerId) (op : Operation), (op.apply t).2.owner[c]? = t.owner[c]? ∨
      t.Reowns c op t.owner[c]? (op.apply t).2.owner[c]?) ∧
    (∀ (c : ContainerId) (later : List Operation),
      (∀ done, done <+: later → c ∈ (t.after done).owner) →
      (t.after later).owner[c]? = t.owner[c]?) ∧
    (∀ (op : Operation) (r : Refusal), op.refusal? (op.apply t).1 = some r ↔ t.Forbids op r) ∧
    ∀ (op : Operation) (r : Refusal),
      op.refusal? (op.apply t).1 = some r → (op.apply t).2 = t := by
  have h : (empty.after ops).Consistent := Consistent.empty.after ops
  refine ⟨fun c e => h.mem_containersOf, fun c op => h.reowns op c, fun c later => h.owner_after,
    fun op r => refusal?_eq_some_iff, fun op r hr => ?_⟩
  exact apply_of_forbidden (refusal?_eq_some_iff.mp hr)

/-- A crashed container that another execution asks for stays as it is. Once it has been removed the
other execution gets it. -/
theorem ownership_lasts_rivals :
    let t := empty.after [.upsert "e" "c" 0, .markCrashed "c"]
    let grab := Operation.upsert "f" "c" 5
    grab.refusal? (grab.apply t).1 = some (.ownedElsewhere "c" "e" "f") ∧ (grab.apply t).2 = t ∧
      (t.after [grab, .markTerminating "c"]).owner["c"]? = some "e" ∧
      (t.after [.delete "c", grab]).owner["c"]? = some "f" := by
  obtain ⟨-, -, hkeeps, hrefused, hsame⟩ :=
    ownership_lasts [.upsert "e" "c" 0, .markCrashed "c"]
  have hno := (hrefused (.upsert "f" "c" 5) (.ownedElsewhere "c" "e" "f")).mpr
    (.moving (by decide) (by decide))
  refine ⟨hno, hsame _ _ hno, (hkeeps "c" _ fun done hdone => ?_).trans (by decide), by decide⟩
  simp only [List.prefix_cons_iff, List.prefix_nil] at hdone
  obtain rfl | ⟨_, rfl, rfl | ⟨_, rfl, rfl⟩⟩ := hdone <;> decide

end AgentFleet.Tracker
