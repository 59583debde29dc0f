import AgentFleet.Proofs.Fleet.Work

/-!
How often the end of one container is waited for. Each wait is started by a heartbeat of the
container's agent that was the first to mark the container as terminating, so two of them take that
the mark was lifted in between. It is lifted when the container is reported as crashed and when it
is no longer known, and neither ends a wait that goes on.
-/

namespace AgentFleet

def Move.BeginsJob : Move → Prop
  | .begin (.job _) => True
  | _ => False

instance : DecidablePred Move.BeginsJob
  | .begin (.job _) => .isTrue trivial
  | .begin (.request _) | .begin (.turn _ _) | .go _ _ _ => .isFalse id

namespace Fleet

variable {s : Settings} {moves before : List Move} {m : Move} {f : Fleet} {i j : Nat}
  {c : ContainerId} {ev ev' : Event} {older log : List Event}

/-! ### What begins an activity -/

/-- The event is what began the activity, when the log was `older`. -/
def BegunBy (s : Settings) (moves : List Move) (i : Nat) (ev : Event) (older : List Event) : Prop :=
  ∃ before m, before ++ [m] <+: moves ∧ (after s before).strands.length = i ∧
    (after s before).log = older ∧ (after s (before ++ [m])).log = ev :: older

theorem after_concat (s : Settings) (moves : List Move) (m : Move) :
    after s (moves ++ [m]) = (after s moves).move s m := List.foldl_concat ..

theorem log_move (s : Settings) (f : Fleet) (m : Move) : f.log <:+ (f.move s m).log := by
  cases m with
  | begin cause => exact List.suffix_rfl
  | go i clock reply =>
    unfold move go
    dsimp only
    split
    · exact List.suffix_cons _ _
    · exact List.suffix_rfl

theorem log_mono (h : before <+: moves) : (after s before).log <:+ (after s moves).log := by
  obtain ⟨rest, rfl⟩ := h
  induction rest using List.reverseRecOn with
  | nil => rw [List.append_nil]
  | append_singleton rest m ih =>
    rw [← List.append_assoc, after_concat]
    exact ih.trans (log_move s _ m)

theorem getElem?_append_of_subsingleton {α : Type} {xs ys : List α} {a : α}
    (hys : ys.length ≤ 1) (h : (xs ++ ys)[i]? = some a) :
    xs[i]? = some a ∨ i = xs.length ∧ a ∈ ys := by
  rcases Nat.lt_or_ge i xs.length with hlt | hge
  · rw [List.getElem?_append_left hlt] at h
    exact .inl h
  · rw [List.getElem?_append_right hge] at h
    obtain ⟨hlt, -⟩ := List.getElem?_eq_some_iff.mp h
    exact .inr ⟨by omega, List.mem_of_getElem? h⟩

theorem spawned_length (act : Act) : act.spawned.length ≤ 1 := by
  cases act <;> simp [Act.spawned]

theorem eq_spawn_of_mem {act : Act} {job : Job} (h : job ∈ act.spawned) : act = .spawn job := by
  cases act with
  | spawn job' => rw [List.mem_singleton.mp h]
  | _ => cases h

theorem strand_of_move {st : Strand} (h : (f.move s m).strands[i]? = some st) :
    (∃ st', f.strands[i]? = some st' ∧ st'.cause = st.cause) ∨
      i = f.strands.length ∧ (m = .begin st.cause ∨ ∃ ev job, ev.act = .spawn job ∧
        st.cause = .job job ∧ (f.move s m).log = ev :: f.log) := by
  cases m with
  | begin cause =>
    have hlen : [cause.strand s].length ≤ 1 := Nat.le_refl 1
    rcases getElem?_append_of_subsingleton hlen h with hold | ⟨rfl, hnew⟩
    · exact .inl ⟨st, hold, rfl⟩
    · obtain rfl := List.mem_singleton.mp hnew
      exact .inr ⟨rfl, .inl rfl⟩
  | go k clock reply =>
    revert h
    unfold move go
    dsimp only
    split
    next cause act next hk =>
      intro h
      have hlen := spawned_length act
      rw [← List.length_map (fun job => (Cause.job job).strand s)] at hlen
      rcases getElem?_append_of_subsingleton hlen h with hold | ⟨rfl, hnew⟩
      · left
        by_cases hki : k = i
        · subst hki
          obtain ⟨hlt, -⟩ := List.getElem?_eq_some_iff.mp hk
          rw [List.getElem?_set_self hlt] at hold
          cases hold
          exact ⟨_, hk, rfl⟩
        · rw [List.getElem?_set_ne hki] at hold
          exact ⟨st, hold, rfl⟩
      · obtain ⟨job, hjob, rfl⟩ := List.mem_map.mp hnew
        exact .inr ⟨List.length_set .., .inr ⟨_, job, eq_spawn_of_mem hjob, rfl, rfl⟩⟩
    next => exact fun h => .inl ⟨st, h, rfl⟩

theorem exists_begun (hjobs : ∀ m ∈ moves, ¬ m.BeginsJob) {job : Job} {st : Strand}
    (hst : (after s moves).strands[i]? = some st) (hcause : st.cause = .job job) :
    ∃ ev older, BegunBy s moves i ev older ∧ ev.act = .spawn job := by
  induction moves using List.reverseRecOn generalizing st with
  | nil => simp [after] at hst
  | append_singleton moves m ih =>
    rw [after_concat] at hst
    rcases strand_of_move hst with ⟨st', hst', hsame⟩ | ⟨rfl, rfl | ⟨ev, job', hact, hjob, hlog⟩⟩
    · obtain ⟨ev, older, ⟨before, m', hpre, hrest⟩, hact⟩ :=
        ih (fun m hm => hjobs m (List.mem_append_left _ hm)) hst' (hsame.trans hcause)
      exact ⟨ev, older, ⟨before, m', hpre.trans (List.prefix_append _ _), hrest⟩, hact⟩
    · have hno := hjobs (.begin st.cause) (List.mem_append_right _ List.mem_cons_self)
      rw [hcause] at hno
      exact (hno trivial).elim
    · obtain rfl : job' = job := by
        rw [hjob] at hcause
        exact Cause.job.inj hcause
      refine ⟨ev, _, ⟨moves, m, List.prefix_rfl, rfl, rfl, ?_⟩, hact⟩
      rw [after_concat, hlog]

theorem BegunBy.logged (h : BegunBy s moves i ev older) : ev :: older <:+ (after s moves).log := by
  obtain ⟨before, m, hpre, -, -, hlog⟩ := h
  exact hlog ▸ log_mono hpre

theorem BegunBy.eq (h : BegunBy s moves i ev older) (h' : BegunBy s moves j ev' older) :
    i = j := by
  obtain ⟨before, m, hpre, rfl, hlog, hnext⟩ := h
  obtain ⟨before', m', hpre', rfl, hlog', hnext'⟩ := h'
  -- Neither of the two moves was made before the other, as the log grew with each.
  have hnot : ∀ {a b : List Move} {n : Move} {ev : Event}, (after s a).log = older →
      (after s b).log = older → (after s (b ++ [n])).log = ev :: older → ¬ b ++ [n] <+: a := by
    intro a b n ev ha hb hnext hsub
    have hle := (log_mono (s := s) hsub).length_le
    rw [ha, hnext, List.length_cons] at hle
    omega
  rcases List.prefix_or_prefix_of_prefix hpre hpre' with hsub | hsub
  · rcases List.prefix_concat_iff.mp hsub with heq | hsub
    · rw [(List.append_singleton_inj.mp heq).1]
    · exact (hnot hlog' hlog hnext hsub).elim
  · rcases List.prefix_concat_iff.mp hsub with heq | hsub
    · rw [(List.append_singleton_inj.mp heq).1]
    · exact (hnot hlog hlog' hnext' hsub).elim

/-! ### What starts a wait -/

/-- An activity waits for the container's end; it was begun by a heartbeat of the container's agent,
right after the event `mark`, which was the first to mark the container as terminating, when the log
was `marked`. -/
structure StartedAt (s : Settings) (moves : List Move) (c : ContainerId) (i : Nat) (mark : Event)
    (marked : List Event) : Prop where
  beat : ∃ h, mark.cause = .request (.heartbeat h) ∧ h.agentId = c
  fresh : mark.exchange (serviceAfter marked) = freshMark c
  begun : ∃ spawn older, BegunBy s moves i spawn older ∧ mark :: marked <:+ older ∧
    spawn.strand = mark.strand ∧
    pastOf mark.strand older = freshMark c :: pastOf mark.strand marked

def WaitsFor (c : ContainerId) (f : Fleet) (i : Nat) : Prop :=
  ∃ st e, f.strands[i]? = some st ∧ st.cause = .job (.supervise e c)

theorem exists_startedAt (hjobs : ∀ m ∈ moves, ¬ m.BeginsJob)
    (hi : WaitsFor c (after s moves) i) : ∃ mark marked, StartedAt s moves c i mark marked := by
  obtain ⟨st, e, hst, hcause⟩ := hi
  obtain ⟨spawn, older, hbegun, hact⟩ := exists_begun hjobs hst hcause
  have htraced := traced_after (workRule_kept s) moves
  have hrule := htraced.obeyed spawn older hbegun.logged
  rw [hact] at hrule
  obtain ⟨-, -, -, -, rest, hpast⟩ := hrule.resolve_left id
  have hlast : freshMark c :: rest <:+ pastOf spawn.strand older := by rw [hpast]
  obtain ⟨mark, marked, hsub, hstrand, hx, hrest⟩ := exists_event_of_past hlast
  have hmark := htraced.obeyed mark marked (hsub.trans (older_suffix hbegun.logged))
  rw [(Event.of_exchange_memory hx).1] at hmark
  obtain ⟨h, hbeat, hagent, -⟩ := hmark.resolve_left id
  refine ⟨mark, marked, ⟨h, hbeat, hagent⟩, hx, spawn, older, hbegun, hsub, hstrand.symm, ?_⟩
  rw [hstrand, hpast, hrest]

namespace StartedAt

variable {mark mark' : Event} {marked marked' : List Event}

theorem logged (h : StartedAt s moves c i mark marked) :
    mark :: marked <:+ (after s moves).log := by
  obtain ⟨spawn, older, hbegun, hsub, -⟩ := h.begun
  exact hsub.trans (older_suffix hbegun.logged)

theorem not_terminating (h : StartedAt s moves c i mark marked) : ¬ Terminating c marked := by
  obtain ⟨-, hfresh, -⟩ := Event.of_exchange_memory h.fresh
  exact (Tracker.fresh_mark hfresh).1

theorem terminating (h : StartedAt s moves c i mark marked) :
    Terminating c (mark :: marked) := by
  obtain ⟨-, hfresh, hafter⟩ := Event.of_exchange_memory h.fresh
  have hservice : serviceAfter (mark :: marked) =
    ((Local.tracker (.markTerminating c)).apply mark.clock (serviceAfter marked)).2 := hafter
  unfold Terminating trackerAfter
  rw [hservice]
  exact (Tracker.fresh_mark hfresh).2

theorem eq_of_same_mark (h : StartedAt s moves c i mark marked)
    (h' : StartedAt s moves c j mark marked) : i = j := by
  obtain ⟨spawn, older, hbegun, -, hstrand, hpast⟩ := h.begun
  obtain ⟨spawn', older', hbegun', -, hstrand', hpast'⟩ := h'.begun
  have hlen : (pastOf spawn.strand older).length = (pastOf spawn.strand older').length := by
    rw [hstrand, hpast, hpast']
  have heq := eq_of_past_length hbegun.logged hbegun'.logged (hstrand.trans hstrand'.symm) hlen
  obtain ⟨rfl, rfl⟩ := List.cons.inj heq
  exact hbegun.eq hbegun'

end StartedAt

/-! ### Between two waits -/

/-- The container's mark was lifted after one point of the log and before a later one: the container
was reported as crashed, or is no longer known. -/
def LiftedBetween (c : ContainerId) (since log : List Event) : Prop :=
  ∃ ev older, since <:+ older ∧ ev :: older <:+ log ∧ Terminating c older ∧
    ¬ Terminating c (ev :: older) ∧ (ev.act = .memory (.tracker (.markCrashed c)) ∨
      c ∉ (trackerAfter (ev :: older)).owner)

theorem lifted_between {since : List Event} (hsub : since <:+ log) (h : Terminating c since)
    (hno : ¬ Terminating c log) : LiftedBetween c since log := by
  obtain ⟨ev, older, hsince, hlog, hbefore, hafter⟩ :=
    exists_since (P := fun log => ¬ Terminating c log) hsub (not_not.mpr h) hno
  have hbefore := not_not.mp hbefore
  have hend := hafter _ List.suffix_rfl hlog
  refine ⟨ev, older, hsince, hlog, hbefore, hend, ?_⟩
  unfold Terminating at hbefore hend
  rcases trackerAfter_step ev older with hsame | ⟨op, hact, hstep⟩
  · rw [hsame] at hend
    exact (hend hbefore).elim
  · rw [hstep] at hend ⊢
    rw [hact]
    exact ((consistent_trackerAfter older).lifted hbefore hend).imp_left fun hop => by rw [hop]

/-- The second of two waits for the container's end was started after the mark that had started the
first one was lifted. -/
def Restarted (s : Settings) (moves : List Move) (c : ContainerId) (i j : Nat) : Prop :=
  ∃ mark marked mark' marked', StartedAt s moves c i mark marked ∧
    StartedAt s moves c j mark' marked' ∧ LiftedBetween c (mark :: marked) marked'

theorem StartedAt.restarted {mark mark' : Event} {marked marked' : List Event}
    (h : StartedAt s moves c i mark marked) (h' : StartedAt s moves c j mark' marked')
    (hsub : mark :: marked <:+ marked') : Restarted s moves c i j :=
  ⟨mark, marked, mark', marked', h, h', lifted_between hsub h.terminating h'.not_terminating⟩

theorem restarted_of_ne (hjobs : ∀ m ∈ moves, ¬ m.BeginsJob) (hne : i ≠ j)
    (hi : WaitsFor c (after s moves) i) (hj : WaitsFor c (after s moves) j) :
    Restarted s moves c i j ∨ Restarted s moves c j i := by
  obtain ⟨mark, marked, h⟩ := exists_startedAt hjobs hi
  obtain ⟨mark', marked', h'⟩ := exists_startedAt hjobs hj
  -- The wait that was marked first need not be the one that was begun first.
  rcases eq_or_before h.logged h'.logged with heq | hsub | hsub
  · obtain ⟨rfl, rfl⟩ := List.cons.inj heq
    exact (hne (h.eq_of_same_mark h')).elim
  · exact .inl (h.restarted h' hsub)
  · exact .inr (h'.restarted h hsub)

/-! ### One wait at a time -/

def StillWaitsFor (c : ContainerId) (f : Fleet) (i : Nat) : Prop :=
  ∃ e act next, f.strands[i]? = some ⟨.job (.supervise e c), .ask act next⟩

def SupervisedOnce (c : ContainerId) (f : Fleet) : Prop :=
  ∀ i j, StillWaitsFor c f i → StillWaitsFor c f j → i = j

theorem StillWaitsFor.waitsFor (h : StillWaitsFor c f i) : WaitsFor c f i := by
  obtain ⟨e, act, next, hst⟩ := h
  exact ⟨_, e, hst, rfl⟩

/-- Two waits for the end of one container are started only if in between its mark was lifted, by a
report that it has crashed or by its removal. So the end of a container is waited for by one
activity at a time exactly if none that still waits was started anew after such an event while
another one, started before, still waits. -/
theorem supervised_once_iff (s : Settings) (moves : List Move) (c : ContainerId)
    (hjobs : ∀ m ∈ moves, ¬ m.BeginsJob) :
    (∀ i j, i ≠ j → WaitsFor c (after s moves) i → WaitsFor c (after s moves) j →
      Restarted s moves c i j ∨ Restarted s moves c j i) ∧
    (SupervisedOnce c (after s moves) ↔ ¬ ∃ i j, i ≠ j ∧ StillWaitsFor c (after s moves) i ∧
      StillWaitsFor c (after s moves) j ∧ Restarted s moves c i j) := by
  refine ⟨fun i j => restarted_of_ne hjobs, ?_, fun hnot i j hi hj => ?_⟩
  · rintro honce ⟨i, j, hne, hi, hj, -⟩
    exact hne (honce i j hi hj)
  · by_contra hne
    rcases restarted_of_ne hjobs hne hi.waitsFor hj.waitsFor with hrestarted | hrestarted
    · exact hnot ⟨i, j, hne, hi, hj, hrestarted⟩
    · exact hnot ⟨j, i, Ne.symm hne, hj, hi, hrestarted⟩

/-- An agent is told to end, reports that it has crashed, and asks for work again. -/
def relapse : List Move :=
  dismissed ++ beat .crashed "e" "a" :: (steps {} 2 4 ++ beat .idle "e" "a" :: steps {} 3 7)

theorem supervised_once_iff_relapse :
    (∀ m ∈ relapse, ¬ m.BeginsJob) ∧
    WaitsFor "a" (after briefSettings relapse) 1 ∧ WaitsFor "a" (after briefSettings relapse) 4 ∧
    (Restarted briefSettings relapse "a" 1 4 ∨ Restarted briefSettings relapse "a" 4 1) := by
  have hjobs : ∀ m ∈ relapse, ¬ m.BeginsJob := by decide
  have hfirst : WaitsFor "a" (after briefSettings relapse) 1 := ⟨_, "e", rfl, rfl⟩
  have hsecond : WaitsFor "a" (after briefSettings relapse) 4 := ⟨_, "e", rfl, rfl⟩
  exact ⟨hjobs, hfirst, hsecond,
    (supervised_once_iff _ _ _ hjobs).1 1 4 (by decide) hfirst hsecond⟩

/-- The end of one container is waited for by two activities at once. -/
theorem supervised_twice : ¬ SupervisedOnce "a" (after briefSettings relapse) := by
  intro honce
  have hfirst : StillWaitsFor "a" (after briefSettings relapse) 1 := ⟨"e", _, _, rfl⟩
  have hsecond : StillWaitsFor "a" (after briefSettings relapse) 4 := ⟨"e", _, _, rfl⟩
  cases honce 1 4 hfirst hsecond

end Fleet

end AgentFleet
