import AgentFleet.Proofs.Fleet.Finality
import AgentFleet.Proofs.Fleet.Solo
import AgentFleet.Proofs.Tracker.Live

/-!
Whether an execution is spared that has a live agent. A call that would finalize it as completed
asks for live agents and leaves it alone; a call that would finalize it because all its agents
crashed does not ask. A pass makes such calls for the executions that were lost when it looked, one
after another, and what has become live meanwhile is dropped.
-/

namespace AgentFleet

open Procedure Activity

/-- Only a pass asks which executions are lost. -/
theorem Cause.Scope.isPass {s : Settings} {cause : Cause}
    (h : cause.Scope s (.memory (.tracker .lost))) : cause.IsPass := by
  unfold Cause.Scope at h
  split at h <;> grind [Cause.IsPass]

namespace Fleet

/-- The call changed nothing of the execution. -/
structure Spares (e : ExecutionId) (before : Service) (course : Course Bool) : Prop where
  value_eq : course.value = false
  outward_eq : course.outward = []
  tracker_eq : course.service.tracker = before.tracker
  finalized_eq : course.service.finalized[e]? = before.finalized[e]?

/-- The call ended the execution with all its containers. -/
structure Drops (e : ExecutionId) (ending : Ending) (clock : Clock) (before : Service)
    (course : Course Bool) : Prop where
  value_eq : course.value = true
  outward_eq : course.outward =
    [.backend (.reportExecution e ending.status ending.reason), .runner (.cleanup e)]
  tracker_eq : course.service.tracker = before.tracker.deleteExecution e
  finalized_eq : course.service.finalized[e]? = some clock.steady

section Call

variable {s : LivenessSettings} {e : ExecutionId} {clock : Clock}
  {reply : (act : Act) → act.Answer} {service : Service}

theorem spares_completed (h : service.tracker.hasLive e = true) :
    Spares e service ((finalize s e .completed).alone clock reply service) := by
  have halone : (finalize s e .completed).alone clock reply service =
      ⟨false, service, [.memory (.tracker (.hasLive e))]⟩ := by
    have hasked : ((Tracker.Operation.hasLive e).apply service.tracker).1 = true := h
    refine (alone_bind (tracker (.hasLive e)) _).trans ?_
    rw [Attempt.alone_tracker clock reply service hasked]
    rfl
  rw [halone]
  exact ⟨rfl, rfl, rfl, rfl⟩

theorem finalize_allCrashed_alone :
    (finalize s e .allCrashed).alone clock reply service =
      ((if !(service.forgetExpired s.retention clock).finalized.contains e then
          (do conclude e .allCrashed; return true)
        else return false : Activity Bool).alone clock reply
          ((service.forgetExpired s.retention clock).claim clock e)).prepend
        [.memory (.forgetExpired s.retention), .memory (.claim e)] := rfl

theorem spares_allCrashed (h : service.isFinalized s.retention clock e = true) :
    Spares e service ((finalize s e .allCrashed).alone clock reply service) := by
  have hmem := Service.mem_finalized_forgetExpired.mpr h
  rw [finalize_allCrashed_alone, Service.claim, if_pos hmem,
    Std.ExtTreeMap.contains_iff_mem.mpr hmem]
  obtain ⟨time, hsome, hle⟩ := Service.isFinalized_iff.mp h
  refine ⟨rfl, rfl, rfl, ?_⟩
  rw [hsome]
  exact Service.finalized_forgetExpired.mpr ⟨hsome, hle⟩

theorem drops_allCrashed (h : ¬ service.isFinalized s.retention clock e = true) :
    Drops e .allCrashed clock service ((finalize s e .allCrashed).alone clock reply service) := by
  rw [← Service.mem_finalized_forgetExpired] at h
  have hcontains : (service.forgetExpired s.retention clock).finalized.contains e = false := by
    rwa [← Bool.not_eq_true, Std.ExtTreeMap.contains_iff_mem]
  rw [finalize_allCrashed_alone, Service.claim, if_neg h, hcontains]
  exact ⟨rfl, rfl, rfl, Std.ExtTreeMap.getElem?_insert_self⟩

end Call

/-! ### What a pass drops -/

section Pass

variable {past : Past Act.Answer}

def lostRule : Rule := fun cause past act =>
  cause.IsPass → ∀ (e : ExecutionId) (lost : List ExecutionId),
    act = .memory (.tracker (.deleteExecution e)) →
      ⟨.memory (.tracker .lost), lost⟩ ∈ past → e ∈ lost

theorem lostRule_of_unasked {cause : Cause} (past : Past Act.Answer) (act : Act)
    (h : Unasked (.memory (.tracker .lost)) past) : lostRule cause past act :=
  fun _ _ _ _ hmem => (h.not_mem hmem).elim

/-- All that a pass removes after it has looked was lost when it looked. -/
theorem finalizeAll_lost {cause : Cause} (s : LivenessSettings) {lost : List ExecutionId}
    (h : Unasked (.memory (.tracker .lost)) past) :
    (finalizeAll s .allCrashed lost).Keeps (lostRule cause)
      (⟨.memory (.tracker .lost), lost⟩ :: past) fun _ _ => True := by
  -- It does not look again, so there is one answer to the question in all that was asked.
  refine ((finalizeAll_asks s .allCrashed lost).keeps
    (I := fun past => ∀ x ∈ past, x.1 = .memory (.tracker .lost) →
      x = ⟨.memory (.tracker .lost), lost⟩) ?_ ?_ ?_).mono fun _ _ _ => trivial
  · rintro past act ⟨e', he', hact⟩ hsame - e lost' rfl hmem
    obtain rfl : lost' = lost := eq_of_heq (Sigma.mk.inj (hsame _ hmem rfl)).2
    cases hact
    exact he'
  · rintro past act answer ⟨e', -, hact⟩ hsame
    refine List.forall_mem_cons.mpr ⟨?_, hsame⟩
    rintro rfl
    cases hact
  · refine List.forall_mem_cons.mpr ⟨fun _ => rfl, fun x hx heq => (h x hx heq).elim⟩

theorem watch_lost {cause : Cause} (s : LivenessSettings) (now : Instant) :
    (watch s now).Keeps (lostRule cause) [] fun _ _ => True := by
  have hended (ending : Ending) (es : List ExecutionId) :
      (finalizeAll s ending es).Asks (· ≠ .memory (.tracker .lost)) := by
    refine (finalizeAll_asks s ending es).mono ?_
    rintro _ ⟨e, -, hact⟩ rfl
    cases hact
  have hhandled (cs : List ContainerId) :
      (handleCrashed now cs).Asks (· ≠ .memory (.tracker .lost)) := by
    refine (handleCrashed_asks now cs).mono ?_
    rintro _ hact rfl
    cases hact
  have hlost (summary : Tracker.Summary) (past) (h : Unasked (.memory (.tracker .lost)) past) : (do
      let lost : List ExecutionId ← tracker .lost
      finalizeAll s .allCrashed lost
      return summary : Activity Tracker.Summary).Keeps (lostRule cause) past fun _ _ => True :=
    keeps_query_bind.mpr ⟨lostRule_of_unasked _ _ h, fun lost =>
      (finalizeAll_lost s h).bind fun _ _ _ _ => trivial⟩
  refine keeps_query_bind_of_unasked lostRule_of_unasked unasked_nil nofun fun forgotten h => ?_
  refine keeps_query_bind_of_unasked lostRule_of_unasked h nofun fun containers h => ?_
  refine (keeps_of_unasked lostRule_of_unasked h (stoppedAmong_asks fun _ _ => nofun)).bind
    fun stopped _ h _ => ?_
  refine keeps_query_bind_of_unasked lostRule_of_unasked h nofun fun summary h => ?_
  refine (keeps_of_unasked lostRule_of_unasked h (hended ..)).bind fun _ past h _ => ?_
  refine keeps_query_bind_of_unasked lostRule_of_unasked h nofun fun crashed h => ?_
  dsimp only
  split
  · exact (keeps_of_unasked lostRule_of_unasked h (hhandled crashed)).bind
      fun _ past h _ => hlost summary past h
  · exact hlost summary _ h

theorem lostRule_kept (s : Settings) : lostRule.Kept s := by
  intro cause
  by_cases hpass : cause.IsPass
  · obtain ⟨now, rfl⟩ := hpass.eq_turn
    exact keeps_discard.mpr (watch_lost s.liveness now)
  · exact keeps_of_forall fun past act h => (hpass h).elim

end Pass

section Run

variable {s : Settings} {moves : List Move} {e : ExecutionId} {c : ContainerId} {ev : Event}
  {older log : List Event} {lost : List ExecutionId}

theorem exists_upsert_of_live {since : List Event} (hsub : since <:+ log)
    (hno : ¬ (trackerAfter since).LiveIn e c) (hlive : (trackerAfter log).LiveIn e c) :
    ∃ ev older time, since <:+ older ∧ ev :: older <:+ log ∧
      ev.act = .memory (.tracker (.upsert e c time)) := by
  obtain ⟨ev, older, hsince, hlog, hbefore, hafter⟩ :=
    exists_since (P := fun log => (trackerAfter log).LiveIn e c) hsub hno hlive
  have hnow := hafter (ev :: older) List.suffix_rfl hlog
  rcases trackerAfter_step ev older with heq | ⟨op, hact, heq⟩
  · rw [heq] at hnow
    exact (hbefore hnow).elim
  · rw [heq] at hnow
    obtain ⟨time, rfl⟩ := (consistent_trackerAfter older).exists_upsert_of_liveIn hbefore hnow
    exact ⟨ev, older, time, hsince, hlog, hact⟩

/-- What a pass removes after it has looked, although it is live, was registered meanwhile. -/
theorem registered_since_look (hlog : ev :: older <:+ (after s moves).log)
    (hact : ev.act = .memory (.tracker (.deleteExecution e)))
    (hlost : ⟨.memory (.tracker .lost), lost⟩ ∈ pastOf ev.strand older)
    (hlive : (trackerAfter older).LiveIn e c) :
    e ∈ lost ∧ ∃ look seen reg before time, look :: seen <:+ before ∧ reg :: before <:+ older ∧
      look.strand = ev.strand ∧
      look.exchange (serviceAfter seen) = ⟨.memory (.tracker .lost), lost⟩ ∧
      reg.act = .memory (.tracker (.upsert e c time)) := by
  have htraced := traced_after (lostRule_kept s) moves
  obtain ⟨look, seen, hseen, hstrand, hx⟩ := exists_event_of_mem_past hlost
  obtain ⟨hlook, hanswer, hafter⟩ := Event.of_exchange_memory hx
  have hmem : look ∈ (after s moves).log :=
    (hseen.trans (older_suffix hlog)).subset List.mem_cons_self
  have hpass : ev.cause.IsPass := by
    have hscope := scope_of_mem hmem
    rw [hlook] at hscope
    rw [← htraced.cause_eq hmem (hlog.subset List.mem_cons_self) hstrand]
    exact hscope.isPass
  have he : e ∈ lost := htraced.obeyed ev older hlog hpass e lost hact hlost
  -- When the pass looked, the container was not live: all that is lost has crashed.
  have hsame : trackerAfter (look :: seen) = trackerAfter seen := congrArg Service.tracker hafter
  have hno : ¬ (trackerAfter (look :: seen)).LiveIn e c := by
    rw [hsame]
    rintro ⟨hc, hcrashed⟩
    obtain rfl : (trackerAfter seen).lost = lost := hanswer
    exact hcrashed (((consistent_trackerAfter seen).mem_lost_iff.mp he).2 c hc)
  obtain ⟨reg, before, time, hbefore, hreg, hupsert⟩ := exists_upsert_of_live hseen hno hlive
  exact ⟨he, look, seen, reg, before, time, hbefore, hreg, hstrand, hx, hupsert⟩

end Run

/-- A call for an execution that has a live container changes nothing exactly if it would complete
the execution, or if the execution is remembered as finalized; else it ends the execution with all
its containers. When a pass does so the container was registered after the pass had looked which
executions are lost. -/
theorem live_spared_iff (s : Settings) :
    (∀ (service : Service) (clock : Clock) (reply : (act : Act) → act.Answer) (e : ExecutionId)
      (c : ContainerId) (ending : Ending), service.tracker.LiveIn e c →
        let course := (finalize s.liveness e ending).alone clock reply service
        let heeded := ending = .completed ∨
          service.isFinalized s.liveness.retention clock e = true
        (Spares e service course ↔ heeded) ∧ (¬ heeded → Drops e ending clock service course)) ∧
    ∀ (moves : List Move) (ev : Event) (older : List Event) (lost : List ExecutionId)
      (e : ExecutionId) (c : ContainerId), ev :: older <:+ (after s moves).log →
        ev.act = .memory (.tracker (.deleteExecution e)) →
        ⟨.memory (.tracker .lost), lost⟩ ∈ pastOf ev.strand older →
        (trackerAfter older).LiveIn e c →
          e ∈ lost ∧ ∃ look seen reg before time, look :: seen <:+ before ∧
            reg :: before <:+ older ∧ look.strand = ev.strand ∧
            look.exchange (serviceAfter seen) = ⟨.memory (.tracker .lost), lost⟩ ∧
            reg.act = .memory (.tracker (.upsert e c time)) := by
  constructor
  · intro service clock reply e c ending hlive course heeded
    have hdrops (hno : ¬ heeded) : Drops e ending clock service course := by
      obtain ⟨hending, hfinalized⟩ := not_or.mp hno
      cases ending with
      | completed => exact (hending rfl).elim
      | allCrashed => exact drops_allCrashed hfinalized
    refine ⟨⟨fun hspares => ?_, ?_⟩, hdrops⟩
    · by_contra hno
      have hvalue := hspares.value_eq
      rw [(hdrops hno).value_eq] at hvalue
      cases hvalue
    · rintro (rfl | hfinalized)
      · exact spares_completed (Tracker.hasLive_of_liveIn hlive)
      · cases ending with
        | completed => exact spares_completed (Tracker.hasLive_of_liveIn hlive)
        | allCrashed => exact spares_allCrashed hfinalized
  · exact fun moves ev older lost e c => registered_since_look

/-- An agent crashes, and while the pass that has seen this is about to end the execution another
agent of it sends its first heartbeat. -/
def latecomer : List Move :=
  beat .crashed "e" "a" :: (steps {} 0 4 ++ .begin (.turn .watch 0) :: (steps {} 1 10 ++
    beat .idle "e" "b" :: (steps {} 2 3 ++ steps {} 1 3)))

def newcomer : List Move := beat .idle "e" "b" :: steps {} 0 3

theorem live_newcomer : (after briefSettings newcomer).service.tracker.LiveIn "e" "b" :=
  ⟨by decide, by decide⟩

theorem exists_removal_latecomer : ∃ ev older,
    ev :: older <:+ (after briefSettings latecomer).log ∧ ev.cause.IsPass ∧
    ev.act = .memory (.tracker (.deleteExecution "e")) ∧
    ⟨.memory (.tracker .lost), ["e"]⟩ ∈ pastOf ev.strand older ∧
    (trackerAfter older).LiveIn "e" "b" ∧ "b" ∉ (trackerAfter (ev :: older)).owner := by
  obtain ⟨ev, older, hlog, hpass, hact, hlost, hmember, hcrashed, hgone⟩ : ∃ ev older,
      (after briefSettings latecomer).log = ev :: older ∧ ev.cause.IsPass ∧
      ev.act = .memory (.tracker (.deleteExecution "e")) ∧
      (∃ claimed forgotten before, pastOf ev.strand older =
        claimed :: forgotten :: ⟨.memory (.tracker .lost), ["e"]⟩ :: before) ∧
      "b" ∈ (trackerAfter older).containersOf "e" ∧ "b" ∉ (trackerAfter older).crashed ∧
      "b" ∉ (trackerAfter (ev :: older)).owner :=
    ⟨_, _, rfl, trivial, rfl, ⟨_, _, _, rfl⟩, by decide, by decide, by decide⟩
  obtain ⟨claimed, forgotten, before, hpast⟩ := hlost
  exact ⟨ev, older, hlog ▸ List.suffix_rfl, hpass, hact, by simp [hpast], ⟨hmember, hcrashed⟩,
    hgone⟩

theorem live_spared_iff_latecomer :
    (∀ clock reply, Spares "e" (after briefSettings newcomer).service
      ((finalize briefSettings.liveness "e" .completed).alone clock reply
        (after briefSettings newcomer).service)) ∧
    ∃ ev older, ev :: older <:+ (after briefSettings latecomer).log ∧
      (trackerAfter older).LiveIn "e" "b" ∧ ∃ look seen reg before time,
        look :: seen <:+ before ∧ reg :: before <:+ older ∧ look.strand = ev.strand ∧
        look.exchange (serviceAfter seen) = ⟨.memory (.tracker .lost), ["e"]⟩ ∧
        reg.act = .memory (.tracker (.upsert "e" "b" time)) := by
  obtain ⟨hcall, hpass⟩ := live_spared_iff briefSettings
  obtain ⟨ev, older, hlog, -, hact, hlost, hlive, -⟩ := exists_removal_latecomer
  refine ⟨fun clock reply => ?_, ev, older, hlog, hlive, ?_⟩
  · exact (hcall _ clock reply "e" "b" .completed live_newcomer).1.mpr (.inl rfl)
  · exact (hpass latecomer ev older _ "e" "b" hlog hact hlost hlive).2

/-- A call that ends an execution although one of its containers is live, and a pass that makes one
after a container was registered. -/
theorem live_container_dropped :
    ((after briefSettings newcomer).service.tracker.LiveIn "e" "b" ∧
      ¬ Spares "e" (after briefSettings newcomer).service
        ((finalize briefSettings.liveness "e" .allCrashed).alone ⟨0, 0, 0⟩
          ({} : Rehearsal.Script).reply (after briefSettings newcomer).service)) ∧
    ∃ ev older, ev :: older <:+ (after briefSettings latecomer).log ∧ ev.cause.IsPass ∧
      ev.act = .memory (.tracker (.deleteExecution "e")) ∧
      ⟨.memory (.tracker .lost), ["e"]⟩ ∈ pastOf ev.strand older ∧
      (trackerAfter older).LiveIn "e" "b" ∧ "b" ∉ (trackerAfter (ev :: older)).owner := by
  refine ⟨⟨live_newcomer, fun h => ?_⟩, exists_removal_latecomer⟩
  have hvalue := h.value_eq
  rw [(drops_allCrashed (by decide)).value_eq] at hvalue
  cases hvalue

end Fleet

end AgentFleet
