import AgentFleet.Proofs.Tracker.Effect

/-!
Operations on single containers. What such an operation answers, and what it makes of its container,
depends on that container only, and it leaves all others as they are. So operations on different
containers may change places, and of a whole history only the order in which each container has its
own operations matters.
-/

namespace AgentFleet.Tracker

variable {t t' : Tracker} {c d : ContainerId} {op op' : Operation} {ops ops' : List Operation}

def Operation.single? : Operation → Option ContainerId
  | upsert _ c _ => some c
  | markCrashed c => some c
  | markTerminating c => some c
  | markHandled [c] => some c
  | delete c => some c
  | _ => none

def answers (t : Tracker) : List Operation → List (Sigma Operation.Answer)
  | [] => []
  | op :: ops => ⟨op, (op.apply t).1⟩ :: (op.apply t).2.answers ops

/-! ### One operation -/

theorem affect_of_single (hop : op.single? = some c) (hne : c ≠ d) (known : Option Standing) :
    op.affect d known = known := by
  cases op with
  | upsert e c' time | markCrashed c' | markTerminating c' | delete c' =>
    cases hop
    exact if_neg hne
  | markHandled cs =>
    match cs, hop with
    | [c'], hop =>
      cases hop
      exact if_neg fun hd => hne (List.mem_singleton.mp hd).symm
  | _ => cases hop

theorem Consistent.standing_apply_of_ne (h : t.Consistent) (hop : op.single? = some c)
    (hne : c ≠ d) : (op.apply t).2.standing d = t.standing d := by
  rw [standing_apply h, affect_of_single hop hne]

/-- What an operation answers depends on what is known of its container. -/
theorem Consistent.answer_congr (h : t.Consistent) (h' : t'.Consistent)
    (hop : op.single? = some c) (hs : t.standing c = t'.standing c) :
    (op.apply t).1 = (op.apply t').1 := by
  have howner : t.owner[c]? = t'.owner[c]? := by rw [h.owner_eq, h'.owner_eq, hs]
  have hmem : c ∈ t.owner ↔ c ∈ t'.owner := by rw [mem_owner_iff, mem_owner_iff, howner]
  cases op with
  | upsert e c' time =>
    cases hop
    have heq : (t.orSame (t.upsert e c time)).1 = (t'.orSame (t'.upsert e c time)).1 := by
      cases ho : t.owner[c]? with
      | none => simp [Tracker.upsert, ho, ← howner, orSame]
      | some owner => by_cases he : owner = e <;> simp [Tracker.upsert, ho, ← howner, he, orSame]
    exact heq
  | markCrashed c' =>
    cases hop
    have heq : (t.orSame (t.markCrashed c)).1 = (t'.orSame (t'.markCrashed c)).1 := by
      by_cases hc : c ∈ t.owner
      · simp [Tracker.markCrashed, hc, hmem.mp hc, orSame]
      · simp [Tracker.markCrashed, hc, mt hmem.mpr hc, orSame]
    exact heq
  | markTerminating c' =>
    cases hop
    have hmark : t.terminating.contains c = t'.terminating.contains c := by
      rw [Bool.eq_iff_iff, Std.ExtTreeSet.contains_iff_mem, Std.ExtTreeSet.contains_iff_mem,
        h.terminating_iff, h'.terminating_iff, hs]
    by_cases hc : c ∈ t.owner
    · simp only [Operation.apply, Tracker.markTerminating, if_pos hc, if_pos (hmem.mp hc), hmark]
      rfl
    · simp only [Operation.apply, Tracker.markTerminating, if_neg hc, if_neg (mt hmem.mpr hc)]
      rfl
  | markHandled cs => rfl
  | delete c' =>
    cases hop
    have heq : t.owner.contains c = t'.owner.contains c := by
      rw [Bool.eq_iff_iff, Std.ExtTreeMap.contains_iff_mem, Std.ExtTreeMap.contains_iff_mem, hmem]
    exact heq
  | _ => cases hop

/-- An operation answers the same after one on another container. -/
theorem Consistent.answer_apply (h : t.Consistent) (hop : op.single? = some c)
    (hop' : op'.single? = some d) (hne : c ≠ d) :
    (op'.apply (op.apply t).2).1 = (op'.apply t).1 :=
  (h.apply op).answer_congr h hop' (h.standing_apply_of_ne hop hne)

/-- Operations on different containers may change places. -/
theorem Consistent.apply_comm (h : t.Consistent) (hop : op.single? = some c)
    (hop' : op'.single? = some d) (hne : c ≠ d) :
    (op'.apply (op.apply t).2).2 = (op.apply (op'.apply t).2).2 := by
  have hleft := h.apply op
  have hright := h.apply op'
  refine (hleft.apply op').eq_of_standing (hright.apply op) fun x => ?_
  rw [standing_apply hleft, standing_apply h, standing_apply hright, standing_apply h]
  by_cases hx : c = x
  · have hdx : d ≠ x := hx ▸ hne.symm
    rw [affect_of_single hop' hdx, affect_of_single hop' hdx]
  · rw [affect_of_single hop hx, affect_of_single hop hx]

/-! ### Histories -/

def historyOf (c : ContainerId) (ops : List Operation) : List Operation :=
  ops.filter fun op => op.single? = some c

def answersOf (c : ContainerId) (answers : List (Sigma Operation.Answer)) :
    List (Sigma Operation.Answer) :=
  answers.filter fun x => x.1.single? = some c

theorem historyOf_cons_of_ne (hop : op.single? = some d) (hne : d ≠ c) :
    historyOf c (op :: ops) = historyOf c ops :=
  List.filter_cons_of_neg (by simpa [hop] using hne)

theorem historyOf_cons_self (hop : op.single? = some c) :
    historyOf c (op :: ops) = op :: historyOf c ops :=
  List.filter_cons_of_pos (by simpa using hop)

namespace Consistent

/-- A container is told by its own history. -/
theorem standing_after_congr (h : t.Consistent) (h' : t'.Consistent)
    (hops : ∀ op ∈ ops, op.single?.isSome) (hs : t.standing c = t'.standing c) :
    (t.after ops).standing c = (t'.after (historyOf c ops)).standing c := by
  induction ops generalizing t t' with
  | nil => exact hs
  | cons op ops ih =>
    obtain ⟨hop, hops⟩ := List.forall_mem_cons.mp hops
    obtain ⟨d, hd⟩ := Option.isSome_iff_exists.mp hop
    by_cases hdc : d = c
    · rw [historyOf_cons_self (hd.trans (congrArg some hdc))]
      exact ih (h.apply op) (h'.apply op) hops (by rw [standing_apply h, standing_apply h', hs])
    · rw [historyOf_cons_of_ne hd hdc]
      exact ih (h.apply op) h' hops ((h.standing_apply_of_ne hd hdc).trans hs)

theorem answersOf_congr (h : t.Consistent) (h' : t'.Consistent)
    (hops : ∀ op ∈ ops, op.single?.isSome) (hs : t.standing c = t'.standing c) :
    answersOf c (t.answers ops) = t'.answers (historyOf c ops) := by
  induction ops generalizing t t' with
  | nil => rfl
  | cons op ops ih =>
    obtain ⟨hop, hops⟩ := List.forall_mem_cons.mp hops
    obtain ⟨d, hd⟩ := Option.isSome_iff_exists.mp hop
    by_cases hdc : d = c
    · have hc : op.single? = some c := hd.trans (congrArg some hdc)
      have hanswer := h.answer_congr h' hc hs
      have hrest := ih (h.apply op) (h'.apply op) hops
        (by rw [standing_apply h, standing_apply h', hs])
      rw [historyOf_cons_self hc, answers, answers, answersOf,
        List.filter_cons_of_pos (by simpa using hc), hanswer]
      exact congrArg _ hrest
    · rw [historyOf_cons_of_ne hd hdc, answers, answersOf,
        List.filter_cons_of_neg (by simpa [hd] using hdc)]
      exact ih (h.apply op) h' hops ((h.standing_apply_of_ne hd hdc).trans hs)

/-- Two histories in which each container has the same operations in the same order come to the same
tracker and answer the same. -/
theorem after_eq_of_histories (h : t.Consistent) (hops : ∀ op ∈ ops, op.single?.isSome)
    (hops' : ∀ op ∈ ops', op.single?.isSome) (hsame : ∀ c, historyOf c ops = historyOf c ops') :
    t.after ops = t.after ops' ∧
      ∀ c, answersOf c (t.answers ops) = answersOf c (t.answers ops') := by
  constructor
  · refine (h.after ops).eq_of_standing (h.after ops') fun c => ?_
    rw [h.standing_after_congr h hops rfl, h.standing_after_congr h hops' rfl, hsame]
  · intro c
    rw [h.answersOf_congr h hops rfl, h.answersOf_congr h hops' rfl, hsame]

end Consistent

end AgentFleet.Tracker
