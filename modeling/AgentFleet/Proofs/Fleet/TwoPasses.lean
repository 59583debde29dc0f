import AgentFleet.Proofs.Fleet.Retirement
import AgentFleet.Proofs.Fleet.Supervisions
import AgentFleet.Proofs.Tracker.Effect

/-!
How long a crashed container may stay. A pass that has listed it as crashed marks its crash as
handled before it is over. The mark stays as long as the container is known, so a later pass that
sees that the container has stopped removes it. What other activities do meanwhile makes no
difference, unless the container is removed and registered again: then it begins anew.
-/

namespace AgentFleet

open Procedure

namespace Activity

variable {s : LivenessSettings} {now : Instant} {c : ContainerId} {cs stopped : List ContainerId}
  {summary : Tracker.Summary} {past later : Past Act.Answer}

/-! ### What a pass has asked when it is over -/

theorem stoppedAmong_ends (h : (stoppedAmong cs).Ends past stopped later) (hc : c ∈ cs) :
    ∃ answer : Except Fault Bool, ⟨.runner (.isStopped c), answer⟩ ∈ later ∧
      (answer = .ok true → c ∈ stopped) := by
  induction cs generalizing past stopped with
  | nil => cases hc
  | cons d cs ih =>
    obtain ⟨answer, h⟩ := ends_query_bind.mp h
    obtain ⟨rest, looked, hlooks, hlast⟩ := ends_bind.mp h
    have hlater : looked = later ∧ (c ∈ rest → c ∈ stopped) ∧
        (answer = .ok true → d ∈ stopped) := by
      rcases answer with fault | _ | _ <;> obtain ⟨rfl, rfl⟩ := hlast
      · exact ⟨rfl, id, nofun⟩
      · exact ⟨rfl, id, nofun⟩
      · exact ⟨rfl, List.mem_cons_of_mem _, fun _ => List.mem_cons_self⟩
    obtain ⟨rfl, hrest, hfirst⟩ := hlater
    rcases List.mem_cons.mp hc with rfl | hc
    · exact ⟨answer, hlooks.suffix.subset List.mem_cons_self, hfirst⟩
    · obtain ⟨answer, hmem, hstopped⟩ := ih hlooks hc
      exact ⟨answer, hmem, fun hanswer => hrest (hstopped hanswer)⟩

/-- A pass has listed the containers, looked at each of them, and swept. -/
theorem watch_sweeps (h : (watch s now).Ends [] summary later) :
    ∃ (containers stopped : List ContainerId) (summary : Tracker.Summary)
      (before between : Past Act.Answer),
      ⟨.memory (.tracker .containers), containers⟩ :: before <:+ later ∧
      ⟨.memory (.tracker (.sweep s.staleness (stopped.contains ·) now)), summary⟩ :: between <:+
        later ∧
      ∀ c ∈ containers, ∃ answer : Except Fault Bool, ⟨.runner (.isStopped c), answer⟩ ∈ later ∧
        (answer = .ok true → c ∈ stopped) := by
  obtain ⟨forgotten, h⟩ := ends_query_bind.mp h
  obtain ⟨containers, h⟩ := ends_query_bind.mp h
  obtain ⟨stopped, looked, hlooks, h⟩ := ends_bind.mp h
  obtain ⟨summary, h⟩ := ends_query_bind.mp h
  have hsweep := h.suffix
  have hlooked : looked <:+ later := (List.suffix_cons _ _).trans hsweep
  refine ⟨containers, stopped, summary, _, looked, hlooks.suffix.trans hlooked, hsweep, ?_⟩
  intro c hc
  obtain ⟨answer, hmem, hstopped⟩ := stoppedAmong_ends hlooks hc
  exact ⟨answer, hlooked.subset hmem, hstopped⟩

theorem handleCrashed_marks (h : (handleCrashed now cs).Ends past () later) :
    ∃ marked, ⟨.memory (.tracker (.markHandled cs)), ()⟩ :: marked <:+ later ∧ past <:+ marked := by
  obtain ⟨_, reported, hreports, h⟩ := ends_bind.mp h
  obtain ⟨outcome, h⟩ := ends_query_bind.mp h
  obtain ⟨_, marked, hstops, h⟩ := ends_bind.mp h
  obtain ⟨_, -, rfl⟩ := ends_query_bind.mp h
  exact ⟨marked, List.suffix_rfl,
    hreports.suffix.trans ((List.suffix_cons _ _).trans hstops.suffix)⟩

/-- What was listed as crashed stays so until it is asked for again. -/
theorem listed_of_ends {α : Type} {p : Activity α} {value : α} {before : Past Act.Answer}
    (hlisted : Fleet.Listed cs before past) (hp : p.Asks (· ≠ .memory (.tracker .crashed)))
    (h : p.Ends past value later) : Fleet.Listed cs before later := by
  have hkeeps : p.Keeps (fun _ _ => True) past fun _ past => Fleet.Listed cs before past :=
    hp.keeps (fun _ _ _ _ => trivial) (fun _ _ answer hact hlisted => hlisted.cons hact answer)
      hlisted
  exact hkeeps.of_ends h

theorem handleCrashed_ne_crashed :
    (handleCrashed now cs).Asks (· ≠ .memory (.tracker .crashed)) := by
  refine (handleCrashed_asks now cs).mono ?_
  rintro act hact rfl
  cases hact

theorem finalizeAll_ne_crashed {ending : Ending} {es : List ExecutionId} :
    (finalizeAll s ending es).Asks (· ≠ .memory (.tracker .crashed)) :=
  (finalizeAll_ignoresCrashes s ending es).mono fun _ => Fleet.ne_crashed_of_ignoresCrashes

/-- When a pass has listed some containers as crashed, it marks their crashes as handled. -/
theorem watch_marks (h : (watch s now).Ends [] summary later) {before : Past Act.Answer}
    (hlisting : Fleet.listing cs :: before <:+ later) (hne : cs ≠ []) :
    ∃ marked, ⟨.memory (.tracker (.markHandled cs)), ()⟩ :: marked <:+ later ∧
      Fleet.listing cs :: before <:+ marked := by
  obtain ⟨forgotten, h⟩ := ends_query_bind.mp h
  obtain ⟨containers, h⟩ := ends_query_bind.mp h
  obtain ⟨stopped, looked, hlooks, h⟩ := ends_bind.mp h
  obtain ⟨swept, h⟩ := ends_query_bind.mp h
  obtain ⟨_, completed, hcompletions, h⟩ := ends_bind.mp h
  -- The question has not been asked before, and is not asked again.
  have hnew : Unasked (Act.memory (.tracker .crashed)) completed := by
    have hcontainers : Unasked (Act.memory (.tracker .crashed))
        (⟨.memory (.tracker .containers), containers⟩ ::
          [⟨.memory (.forgetExpired s.retention), forgotten⟩]) := by
      simp [Unasked]
    have hnone : (stoppedAmong containers).Asks (· ≠ .memory (.tracker .crashed)) :=
      stoppedAmong_asks fun _ _ => nofun
    have hlooked := hcontainers.of_ends hnone hlooks
    exact (hlooked.cons (by nofun) swept).of_ends finalizeAll_ne_crashed hcompletions
  obtain ⟨crashed, h⟩ := ends_query_bind.mp h
  have hlisted : Fleet.Listed crashed completed (Fleet.listing crashed :: completed) :=
    ⟨[], rfl, List.forall_mem_nil _⟩
  have hlast {past : Past Act.Answer} (hlisted : Fleet.Listed crashed completed past)
      (h : (do
        let lost : List ExecutionId ← tracker .lost
        finalizeAll s .allCrashed lost
        return swept : Activity Tracker.Summary).Ends past summary later) :
      cs = crashed ∧ before = completed := by
    obtain ⟨lost, h⟩ := ends_query_bind.mp h
    obtain ⟨_, _, hlosses, -, rfl⟩ := ends_bind.mp h
    have hlisted' := listed_of_ends (hlisted.cons (by nofun) lost) finalizeAll_ne_crashed hlosses
    exact (hlisted'.eq_or_suffix hlisting).resolve_right fun hsub =>
      hnew.not_mem (hsub.subset List.mem_cons_self)
  dsimp only at h
  split at h
  next =>
    obtain ⟨_, dealt, hhandling, hrest⟩ := ends_bind.mp h
    obtain ⟨marked, hmark, hsub⟩ := handleCrashed_marks hhandling
    have hdealt := listed_of_ends hlisted handleCrashed_ne_crashed hhandling
    obtain ⟨rfl, rfl⟩ := hlast hdealt hrest
    exact ⟨marked, hmark.trans hrest.suffix, hsub⟩
  next hnone => exact (hnone ((hlast hlisted h).1 ▸ hne)).elim

end Activity

namespace Fleet

variable {s : Settings} {moves moves' : List Move} {c : ContainerId} {i j : Nat} {ev : Event}
  {older log since middle : List Event}

def PassOver (i : Nat) (f : Fleet) : Prop :=
  ∃ now, f.strands[i]? = some ⟨.turn .watch now, .done ()⟩

/-- The activity has listed the container as crashed when the log was `seen`. -/
def ListsCrash (c : ContainerId) (i : Nat) (seen log : List Event) : Prop :=
  ∃ listed cs, listed :: seen <:+ log ∧ listed.strand = i ∧
    listed.exchange (serviceAfter seen) = listing cs ∧ c ∈ cs

def registrations (c : ContainerId) : List Event → Nat
  | [] => 0
  | ev :: older => registrations c older +
    if c ∉ (trackerAfter older).owner ∧ c ∈ (trackerAfter (ev :: older)).owner then 1 else 0

/-! ### While a container is not registered anew -/

theorem registrations_mono (h : since <:+ log) : registrations c since ≤ registrations c log := by
  obtain ⟨newer, rfl⟩ := h
  induction newer with
  | nil => exact Nat.le_refl _
  | cons ev newer ih => exact ih.trans (Nat.le_add_right _ _)

theorem registrations_between (h : registrations c log = registrations c since)
    (hsince : since <:+ middle) (hlog : middle <:+ log) :
    registrations c middle = registrations c since :=
  Nat.le_antisymm (h ▸ registrations_mono hlog) (registrations_mono hsince)

/-- What is known of a container, as long as it is known, and kept by all operations, stays so until
it is registered anew. -/
theorem standing_since {I : Tracker.Standing → Prop}
    (hI : ∀ (op : Tracker.Operation) (known known' : Tracker.Standing),
      op.affect c (some known) = some known' → I known → I known')
    (hsince : since <:+ log) (honce : registrations c log = registrations c since)
    (h : ∀ known, (trackerAfter since).standing c = some known → I known) :
    ∀ known, (trackerAfter log).standing c = some known → I known := by
  obtain ⟨newer, rfl⟩ := hsince
  induction newer with
  | nil => exact h
  | cons ev newer ih =>
    have hbefore : registrations c (newer ++ since) = registrations c since :=
      registrations_between honce (List.suffix_append _ _) (List.suffix_cons _ _)
    intro known' hknown'
    cases hs : (trackerAfter (newer ++ since)).standing c with
    | none =>
      rw [List.cons_append, registrations, hbefore, if_pos] at honce
      · omega
      · exact ⟨(consistent_trackerAfter _).standing_eq_none_iff.mp hs,
          Tracker.mem_owner_of_standing hknown'⟩
    | some known =>
      have hknown := ih hbefore known hs
      rcases trackerAfter_step ev (newer ++ since) with hsame | ⟨op, -, hop⟩
      · rw [List.cons_append, hsame, hs] at hknown'
        exact Option.some.inj hknown' ▸ hknown
      · rw [List.cons_append, hop, Tracker.standing_apply (consistent_trackerAfter _), hs]
          at hknown'
        exact hI op known known' hknown' hknown

/-! ### Passes in a run -/

theorem PassOver.ends (h : PassOver i (after s moves)) : ∃ now summary,
    (Activity.watch s.liveness now).Ends [] summary (pastOf i (after s moves).log) := by
  obtain ⟨now, hst⟩ := h
  have hends : ((Cause.turn .watch now).activity s).Ends [] () (pastOf i (after s moves).log) :=
    (reaches_after hst).ends ⟨rfl, rfl⟩
  obtain ⟨summary, _, hwatch, -, rfl⟩ := ends_bind.mp hends
  exact ⟨now, summary, hwatch⟩

/-- What an activity has asked before one of its events came before all that it asked later. -/
theorem suffix_of_pastOf (h : ev :: older <:+ log) (hmiddle : middle <:+ log)
    (hpast : pastOf ev.strand (ev :: older) <:+ pastOf ev.strand middle) :
    ev :: older <:+ middle := by
  rcases List.suffix_or_suffix_of_suffix h hmiddle with hsub | hsub
  · exact hsub
  · rcases List.suffix_cons_iff.mp hsub with rfl | hsub
    · exact List.suffix_rfl
    · have hle := hpast.length_le
      have hle' := (pastOf_suffix (i := ev.strand) hsub).length_le
      rw [pastOf, if_pos rfl, List.length_cons] at hle
      omega

/-- What an activity asks came after all that had happened when it was not begun yet. -/
theorem suffix_of_strand (hj : (after s moves).strands.length ≤ ev.strand)
    (hlog : ev :: older <:+ (after s (moves ++ moves')).log) : (after s moves).log <:+ older := by
  have hno : ev ∉ (after s moves).log := fun hev =>
    ((spoken_run (s := s) [] moves).begun ev hev).not_ge hj
  rcases List.suffix_or_suffix_of_suffix hlog (log_mono (List.prefix_append moves moves')) with
    hsub | hsub
  · exact (hno (hsub.subset List.mem_cons_self)).elim
  · refine (List.suffix_cons_iff.mp hsub).resolve_left fun heq => hno ?_
    rw [heq]
    exact List.mem_cons_self

theorem trackerAfter_of_exchange {op : Tracker.Operation} {answer : op.Answer}
    (h : ev.exchange (serviceAfter older) = ⟨.memory (.tracker op), answer⟩) :
    (op.apply (trackerAfter older)).1 = answer ∧
      trackerAfter (ev :: older) = (op.apply (trackerAfter older)).2 := by
  obtain ⟨-, hanswer, hafter⟩ := Event.of_exchange_memory h
  exact ⟨hanswer, congrArg Service.tracker hafter⟩

/-- When a pass is over, the containers that it has listed as crashed have a handled crash. -/
theorem handled_of_listed {seen : List Event} (hover : PassOver i (after s moves))
    (hlists : ListsCrash c i seen (after s moves).log)
    (honce : registrations c (after s moves).log = registrations c seen) :
    ∀ known, (trackerAfter (after s moves).log).standing c = some known → known.handled = true := by
  obtain ⟨listed, cs, hlog, rfl, hx, hc⟩ := hlists
  obtain ⟨now, summary, hends⟩ := hover.ends
  have hpast : listing cs :: pastOf listed.strand seen <:+
      pastOf listed.strand (after s moves).log := by
    have hpast := pastOf_suffix (i := listed.strand) hlog
    rwa [pastOf, if_pos rfl, hx] at hpast
  obtain ⟨asked, hmark, hasked⟩ := Activity.watch_marks hends hpast (List.ne_nil_of_mem hc)
  obtain ⟨mark, marked, hmlog, -, hmx, rfl⟩ := exists_event_of_past hmark
  have hseen : seen <:+ marked := by
    refine older_suffix (suffix_of_pastOf hlog (older_suffix hmlog) ?_)
    rwa [pastOf, if_pos rfl, hx]
  -- It counts as crashed when it is listed, so also when the crashes are marked as handled.
  have hcrashed : ∀ known, (trackerAfter seen).standing c = some known → known.crashed = true := by
    intro known hs
    have hanswer : (trackerAfter seen).crashed.toList = cs := (trackerAfter_of_exchange hx).1
    rw [← hanswer, Std.ExtTreeSet.mem_toList] at hc
    exact (Tracker.mem_marks_of_standing hs).1.mp hc
  have hcrashed' := standing_since (fun _ _ _ haffect => (Tracker.live_affect haffect).2) hseen
    (registrations_between honce hseen (older_suffix hmlog)) hcrashed
  have hhandled : ∀ known, (trackerAfter (mark :: marked)).standing c = some known →
      known.handled = true := by
    intro known' hs'
    rw [(trackerAfter_of_exchange hmx).2, Tracker.standing_apply (consistent_trackerAfter _),
      Tracker.Operation.affect, if_pos hc] at hs'
    obtain ⟨known, hs, rfl⟩ := Option.map_eq_some_iff.mp hs'
    simp [Tracker.Standing.handle, hcrashed' known hs]
  refine standing_since (fun _ _ _ haffect hknown => ?_) hmlog ?_ hhandled
  · exact (Tracker.marks_affect haffect).1.mpr (.inl hknown)
  · exact honce.trans
      (registrations_between honce (hseen.trans (List.suffix_cons _ _)) hmlog).symm

/-- A later pass that sees that the container has stopped removes it. -/
theorem gone_of_handled (hlater : (after s moves).strands.length ≤ j)
    (hover : PassOver j (after s (moves ++ moves')))
    (hstopped : ∀ answer, ⟨.runner (.isStopped c), answer⟩ ∈
      pastOf j (after s (moves ++ moves')).log → answer = .ok true)
    (honce : registrations c (after s (moves ++ moves')).log =
      registrations c (after s moves).log)
    (hhandled : ∀ known, (trackerAfter (after s moves).log).standing c = some known →
      known.handled = true) :
    (trackerAfter (after s (moves ++ moves')).log).standing c = none := by
  have hgone {since : List Event} (hmoves : (after s moves).log <:+ since)
      (hlog : since <:+ (after s (moves ++ moves')).log)
      (hnone : (trackerAfter since).standing c = none) :
      (trackerAfter (after s (moves ++ moves')).log).standing c = none := by
    refine Option.eq_none_iff_forall_ne_some.mpr ?_
    refine standing_since (I := fun _ => False) (fun _ _ _ _ => id) hlog
      (honce.trans (registrations_between honce hmoves hlog).symm) fun known hs => ?_
    rw [hnone] at hs
    cases hs
  obtain ⟨now, summary, hends⟩ := hover.ends
  obtain ⟨containers, stopped, swept, before, between, hlisting, hsweep, hlooks⟩ :=
    Activity.watch_sweeps hends
  obtain ⟨listed, seen, hllog, hl, hlx, -⟩ := exists_event_of_past hlisting
  obtain ⟨sweep, sweeping, hslog, hs, hsx, -⟩ := exists_event_of_past hsweep
  have hseen : (after s moves).log <:+ seen := suffix_of_strand (hl ▸ hlater) hllog
  have hsweeping : (after s moves).log <:+ sweeping := suffix_of_strand (hs ▸ hlater) hslog
  by_cases hknown : (trackerAfter seen).standing c = none
  · exact hgone hseen (older_suffix hllog) hknown
  · refine hgone (hsweeping.trans (List.suffix_cons _ _)) hslog ?_
    have hmem : c ∈ containers := by
      have hanswer : (trackerAfter seen).containers = containers := (trackerAfter_of_exchange hlx).1
      rw [← hanswer, Tracker.mem_containers_iff]
      exact Classical.not_not.mp
        ((consistent_trackerAfter seen).standing_eq_none_iff.not.mp hknown)
    have hstop : c ∈ stopped := by
      obtain ⟨answer, hlook, hstop⟩ := hlooks c hmem
      exact hstop (hstopped answer hlook)
    rw [(trackerAfter_of_exchange hsx).2, Tracker.standing_apply (consistent_trackerAfter _)]
    cases hs' : (trackerAfter sweeping).standing c with
    | none => rfl
    | some known =>
      have hhandled' := standing_since
        (fun _ _ _ haffect hknown => (Tracker.marks_affect haffect).1.mpr (.inl hknown)) hsweeping
        (registrations_between honce hsweeping (older_suffix hslog)) hhandled known hs'
      simp [Tracker.Operation.affect, Tracker.Standing.stop, Tracker.Standing.isPurgeable,
        hhandled', hstop]

/-- When a pass that has listed a container as crashed is over, and a pass that begins after it is
over too and has found that the container has stopped, then the container is not tracked any more,
whatever else happens meanwhile, unless it is registered anew. -/
theorem crash_gone_after_two_passes (s : Settings) (moves moves' : List Move) (c : ContainerId)
    (i j : Nat) (seen : List Event) (hfirst : PassOver i (after s moves))
    (hlists : ListsCrash c i seen (after s moves).log)
    (hlater : (after s moves).strands.length ≤ j)
    (hsecond : PassOver j (after s (moves ++ moves')))
    (hstopped : ∀ answer, ⟨.runner (.isStopped c), answer⟩ ∈
      pastOf j (after s (moves ++ moves')).log → answer = .ok true)
    (honce : registrations c (after s (moves ++ moves')).log = registrations c seen) :
    (after s (moves ++ moves')).service.tracker.Forgets c := by
  have hseen : seen <:+ (after s moves).log := by
    obtain ⟨listed, cs, hlog, -⟩ := hlists
    exact older_suffix hlog
  have hlog : (after s moves).log <:+ (after s (moves ++ moves')).log :=
    log_mono (List.prefix_append moves moves')
  have honce' : registrations c (after s moves).log = registrations c seen :=
    registrations_between honce hseen hlog
  have hgone := gone_of_handled hlater hsecond hstopped (honce.trans honce'.symm)
    (handled_of_listed hfirst hlists honce')
  have hservice : (after s (moves ++ moves')).service =
      serviceAfter (after s (moves ++ moves')).log := (spoken_run [] (moves ++ moves')).service_eq
  rw [hservice]
  have hcons := consistent_trackerAfter (after s (moves ++ moves')).log
  exact hcons.forgets_iff.mpr (hcons.standing_eq_none_iff.mp hgone)

def crashListed : List Move :=
  beat .crashed "e" "a" :: beat .busy "e" "b" :: .begin (.turn .watch 0) ::
    (steps {} 0 4 ++ steps {} 1 3 ++ steps {} 2 6)

def heardFromAgain : List Move :=
  beat .busy "e" "a" :: .begin (.turn .watch 0) ::
    (steps {} 3 4 ++ steps { stopped := .ofList ["a"] compare } 4 7)

def twoPasses : List Move := (crashListed ++ steps {} 2 5) ++ heardFromAgain

theorem crash_gone_after_two_passes_heardFrom :
    PassOver 2 (after briefSettings (crashListed ++ steps {} 2 5)) ∧
      PassOver 4 (after briefSettings twoPasses) ∧
      (∃ seen, ListsCrash "a" 2 seen (after briefSettings (crashListed ++ steps {} 2 5)).log ∧
        registrations "a" (after briefSettings twoPasses).log = registrations "a" seen) ∧
      (after briefSettings twoPasses).service.tracker.Forgets "a" := by
  obtain ⟨listed, seen, hlog, hi, hx, hbefore⟩ : ∃ listed seen,
      (after briefSettings crashListed).log = listed :: seen ∧ listed.strand = 2 ∧
        listed.exchange (serviceAfter seen) = listing ["a"] ∧ registrations "a" seen = 1 :=
    ⟨_, _, rfl, rfl, rfl, by decide +kernel⟩
  have hfirst : PassOver 2 (after briefSettings (crashListed ++ steps {} 2 5)) := ⟨0, rfl⟩
  have hsecond : PassOver 4 (after briefSettings twoPasses) := ⟨0, rfl⟩
  have hlists : ListsCrash "a" 2 seen (after briefSettings (crashListed ++ steps {} 2 5)).log :=
    ⟨listed, ["a"], hlog ▸ log_mono (List.prefix_append _ _), hi, hx, List.mem_singleton_self _⟩
  have honce : registrations "a" (after briefSettings twoPasses).log = registrations "a" seen := by
    rw [hbefore]
    decide +kernel
  have hstopped : ∀ answer, ⟨.runner (.isStopped "a"), answer⟩ ∈
      pastOf 4 (after briefSettings twoPasses).log → answer = .ok true := by
    intro answer hmem
    obtain ⟨isStopped, summary, hpast⟩ : ∃ isStopped, ∃ summary : Tracker.Summary,
        pastOf 4 (after briefSettings twoPasses).log =
          [⟨.memory (.tracker .lost), []⟩, ⟨.memory (.tracker .crashed), []⟩,
            ⟨.memory (.tracker (.sweep 60000000000 isStopped 0)), summary⟩,
            ⟨.runner (.isStopped "b"), .ok false⟩, ⟨.runner (.isStopped "a"), .ok true⟩,
            ⟨.memory (.tracker .containers), ["a", "b"]⟩,
            ⟨.memory (.forgetExpired 3600000000000), (0 : Nat)⟩] := ⟨_, _, rfl⟩
    rw [hpast] at hmem
    simp only [List.mem_cons, List.not_mem_nil, or_false] at hmem
    rcases hmem with h | h | h | h | h | h | h
    · cases h
    · cases h
    · cases h
    · exact absurd (Act.runner.inj (Sigma.mk.inj h).1) (by decide)
    · cases h
      rfl
    · cases h
    · cases h
  exact ⟨hfirst, hsecond, ⟨seen, hlists, honce⟩,
    crash_gone_after_two_passes _ _ _ _ _ _ _ hfirst hlists (by decide +kernel) hsecond hstopped
      honce⟩

end Fleet

end AgentFleet
