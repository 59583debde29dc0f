import AgentFleet.Proofs.Fleet.Footprint

/-!
How crashes are dealt with. A pass asks once which containers have crashed, and before it marks them
as handled or ends any execution it makes the call that fails their tests. No other activity marks a
crash as handled or asks for lost executions, and whether the call succeeds is not looked at.
-/

namespace AgentFleet

open Procedure

namespace Fleet

/-! ### The rule of crashes -/

def listing (cs : List ContainerId) : Sigma Act.Answer := ⟨.memory (.tracker .crashed), cs⟩

/-- After the containers of a list were seen as crashed, which was after `before`, the call was made
that fails the tests of all of them. -/
def TestsFailed (cs : List ContainerId) (before past : Past Act.Answer) : Prop :=
  ∃ outcome between, ⟨.backend (.failTests cs), outcome⟩ :: between <:+ past ∧
    listing cs :: before <:+ between

def Settled (past : Past Act.Answer) : Prop :=
  ∀ cs before, listing cs :: before <:+ past → cs ≠ [] → TestsFailed cs before past

def crashRule : Rule := fun cause past act =>
  match act with
  | .memory (.tracker (.markHandled cs)) => cause.IsPass ∧ ∃ before, TestsFailed cs before past
  | .memory (.tracker (.deleteExecution _)) => Settled past
  | .memory (.tracker .lost) => ∃ cs, listing cs ∈ past
  | _ => True

variable {s : Settings} {cause : Cause} {past past' : Past Act.Answer} {cs : List ContainerId}
  {act : Act}

theorem crashRule_of_quiet (h : act.IsQuiet) : crashRule cause past act := by
  cases act with
  | memory op =>
    cases op with
    | tracker op => cases op <;> trivial
    | _ => trivial
  | _ => trivial

theorem crashRule_of_ignoresCrashes (h : act.IgnoresCrashes) (hset : Settled past) :
    crashRule cause past act := by
  cases act with
  | memory op =>
    cases op with
    | tracker op => cases op <;> trivial
    | _ => trivial
  | _ => trivial

theorem TestsFailed.grows {before : Past Act.Answer} (h : TestsFailed cs before past)
    (hsub : past <:+ past') : TestsFailed cs before past' := by
  obtain ⟨outcome, between, hcall, hlist⟩ := h
  exact ⟨outcome, between, hcall.trans hsub, hlist⟩

theorem settled_nil : Settled [] := fun _ _ hsub => by cases List.suffix_nil.mp hsub

/-- Only that the crashed containers are listed anew needs the call anew. -/
theorem Settled.cons (h : Settled past) (hact : act ≠ .memory (.tracker .crashed))
    (answer : act.Answer) : Settled (⟨act, answer⟩ :: past) := by
  intro cs before hsub hne
  rcases List.suffix_cons_iff.mp hsub with he | hsub
  · obtain ⟨he, -⟩ := List.cons.inj he
    obtain ⟨rfl, -⟩ := Sigma.mk.inj he
    exact (hact rfl).elim
  · exact (h cs before hsub hne).grows (List.suffix_cons _ _)

theorem ne_crashed_of_ignoresCrashes (h : act.IgnoresCrashes) :
    act ≠ .memory (.tracker .crashed) := by
  rintro rfl
  exact h

theorem keeps_of_ignoresCrashes {α : Type} {p : Activity α} (h : p.Asks Act.IgnoresCrashes)
    (hset : Settled past) : p.Keeps (crashRule cause) past fun _ past => Settled past :=
  h.keeps (I := Settled) (fun _ _ hq hset => crashRule_of_ignoresCrashes hq hset)
    (fun _ _ answer hq hset => hset.cons (ne_crashed_of_ignoresCrashes hq) answer) hset

theorem keeps_query_of_ignoresCrashes {β : Type} {f : act.Answer → Activity β}
    {Q : β → Past Act.Answer → Prop} (hset : Settled past) (hact : act.IgnoresCrashes)
    (hf : ∀ answer, Settled (⟨act, answer⟩ :: past) →
      (f answer).Keeps (crashRule cause) (⟨act, answer⟩ :: past) Q) :
    (query act >>= f).Keeps (crashRule cause) past Q :=
  keeps_query_bind.mpr ⟨crashRule_of_ignoresCrashes hact hset, fun answer =>
    hf answer (hset.cons (ne_crashed_of_ignoresCrashes hact) answer)⟩

/-! ### A pass -/

section Pass

variable {before : Past Act.Answer}

def Listed (cs : List ContainerId) (before past : Past Act.Answer) : Prop :=
  ∃ recent, past = recent ++ listing cs :: before ∧
    ∀ x ∈ recent, x.1 ≠ Act.memory (.tracker .crashed)

theorem Listed.cons (h : Listed cs before past) (hact : act ≠ .memory (.tracker .crashed))
    (answer : act.Answer) : Listed cs before (⟨act, answer⟩ :: past) := by
  obtain ⟨recent, rfl, hrecent⟩ := h
  refine ⟨⟨act, answer⟩ :: recent, rfl, fun x hx => ?_⟩
  rcases List.mem_cons.mp hx with rfl | hx
  · exact hact
  · exact hrecent x hx

/-- An earlier list than the last one was made before it. -/
theorem Listed.eq_or_suffix (h : Listed cs before past) {cs' : List ContainerId}
    {before' : Past Act.Answer} (hsub : listing cs' :: before' <:+ past) :
    (cs' = cs ∧ before' = before) ∨ listing cs' :: before' <:+ before := by
  obtain ⟨recent, rfl, hrecent⟩ := h
  induction recent with
  | nil =>
    rcases List.suffix_cons_iff.mp hsub with he | hsub
    · obtain ⟨hx, rfl⟩ := List.cons.inj he
      exact .inl ⟨eq_of_heq (Sigma.mk.inj hx).2, rfl⟩
    · exact .inr hsub
  | cons x recent ih =>
    rcases List.suffix_cons_iff.mp hsub with he | hsub
    · obtain ⟨rfl, -⟩ := List.cons.inj he
      exact (hrecent _ List.mem_cons_self rfl).elim
    · exact ih (fun y hy => hrecent y (List.mem_cons_of_mem _ hy)) hsub

theorem Listed.testsFailed (h : Listed cs before past) (outcome : Except Fault Unit) :
    TestsFailed cs before (⟨.backend (.failTests cs), outcome⟩ :: past) := by
  obtain ⟨recent, rfl, -⟩ := h
  exact ⟨outcome, _, List.suffix_rfl, recent, rfl⟩

theorem Listed.settled (h : Listed cs before past) (hset : Settled before)
    (outcome : Except Fault Unit) :
    Settled (⟨.backend (.failTests cs), outcome⟩ :: past) := by
  have hne : Act.backend (.failTests cs) ≠ .memory (.tracker .crashed) := nofun
  have hcall : Listed cs before (⟨.backend (.failTests cs), outcome⟩ :: past) := h.cons hne outcome
  intro cs' before' hsub hnil
  rcases hcall.eq_or_suffix hsub with ⟨rfl, rfl⟩ | hsub
  · exact h.testsFailed outcome
  · obtain ⟨recent, heq, -⟩ := hcall
    refine (hset cs' before' hsub hnil).grows ?_
    rw [heq]
    exact (List.suffix_cons _ _).trans (List.suffix_append recent _)

theorem handleCrashed_settles (hpass : cause.IsPass) (hset : Settled before) (now : Instant) :
    (Activity.handleCrashed now cs).Keeps (crashRule cause) (listing cs :: before)
      fun _ past => Settled past := by
  have hreports : (Activity.reportAllCrashed now.timestamp cs).Keeps (crashRule cause)
      (listing cs :: before) fun _ past => Listed cs before past :=
    (Activity.reportAllCrashed_asks (P := Act.IsQuiet) fun _ _ => trivial).keeps
      (fun _ _ hq _ => crashRule_of_quiet hq)
      (fun _ _ answer hq h => h.cons (ne_crashed_of_ignoresCrashes hq.ignoresCrashes) answer)
      ⟨[], rfl, by simp⟩
  refine hreports.bind fun _ past hlisted _ => ?_
  refine keeps_query_bind.mpr ⟨trivial, fun outcome => ?_⟩
  have hstops : (Activity.stopAll cs).Asks Act.IgnoresCrashes :=
    Activity.stopAll_asks fun _ _ => trivial
  refine (keeps_of_ignoresCrashes hstops (hlisted.settled hset outcome)).bind
    fun _ past' hset' hsub => ?_
  have hfailed := (hlisted.testsFailed outcome).grows hsub
  exact keeps_query_bind.mpr ⟨⟨hpass, before, hfailed⟩, fun _ => hset'.cons (by simp) _⟩

/-- An empty list of crashed containers asks for nothing. -/
theorem Settled.listing_nil (hset : Settled past) : Settled (listing [] :: past) := by
  intro cs before hsub hne
  rcases List.suffix_cons_iff.mp hsub with he | hsub
  · obtain ⟨hx, -⟩ := List.cons.inj he
    exact (hne (eq_of_heq (Sigma.mk.inj hx).2)).elim
  · exact (hset cs before hsub hne).grows (List.suffix_cons _ _)

theorem watch_settles (hpass : cause.IsPass) (s : LivenessSettings) (now : Instant) :
    (Activity.watch s now).Keeps (crashRule cause) [] fun _ _ => True := by
  refine keeps_query_of_ignoresCrashes settled_nil trivial fun forgotten hset => ?_
  refine keeps_query_of_ignoresCrashes hset trivial fun containers hset => ?_
  have hstopped : (Activity.stoppedAmong containers).Asks Act.IgnoresCrashes :=
    Activity.stoppedAmong_asks fun _ _ => trivial
  refine (keeps_of_ignoresCrashes hstopped hset).bind fun stopped _ hset _ => ?_
  refine keeps_query_of_ignoresCrashes hset trivial fun summary hset => ?_
  have hended := Activity.finalizeAll_ignoresCrashes s .completed summary.emptied
  refine (keeps_of_ignoresCrashes hended hset).bind fun _ past hset _ => ?_
  -- From here until the call the list that is made now is the only one that is not settled.
  refine keeps_query_bind.mpr ⟨trivial, fun crashed => ?_⟩
  have hlost (past') (hset : Settled past') (hsub : listing crashed :: past <:+ past') : (do
      let lost : List ExecutionId ← Activity.tracker .lost
      Activity.finalizeAll s .allCrashed lost
      return summary : Activity Tracker.Summary).Keeps (crashRule cause) past'
        fun _ _ => True := by
    refine keeps_query_bind.mpr ⟨⟨crashed, hsub.subset List.mem_cons_self⟩, fun lost => ?_⟩
    have hne : Act.memory (.tracker .lost) ≠ .memory (.tracker .crashed) := nofun
    have hended := Activity.finalizeAll_ignoresCrashes s .allCrashed lost
    exact (keeps_of_ignoresCrashes hended (hset.cons hne lost)).bind fun _ _ _ _ => trivial
  dsimp only
  split
  next =>
    exact (handleCrashed_settles hpass hset now).bind fun _ past' hset hsub => hlost past' hset hsub
  next hnil =>
    obtain rfl : crashed = [] := Classical.not_not.mp hnil
    exact hlost _ hset.listing_nil List.suffix_rfl

end Pass

/-- All activities of the service keep the rule of crashes. -/
theorem crashRule_kept (s : Settings) : crashRule.Kept s := by
  intro cause
  by_cases hpass : cause.IsPass
  · obtain ⟨now, rfl⟩ := hpass.eq_turn
    exact keeps_discard.mpr (watch_settles hpass s.liveness now)
  · exact (keeps_of_ignoresCrashes (cause.activity_ignoresCrashes s hpass) settled_nil).mono
      fun _ _ _ => trivial

end Fleet

end AgentFleet
