import AgentFleet.Proofs.Fleet.Footprint

/-!
Who reports the status of an execution, and after what. Outside of launches an execution is reported
only by the activity that noted that it is finalized, right after that; as finished only if the
activity saw just before that no agent of it is live. A launch reports its own execution, and a
second time only if the first report was not accepted.
-/

namespace AgentFleet

open Procedure Activity

def Cause.IsLaunch : Cause → Prop
  | .job (.launch _) => True
  | _ => False

namespace Fleet

def concluding (s : LivenessSettings) (e : ExecutionId) (forgotten : Nat)
    (removed : List ContainerId) (past : Past Act.Answer) : Past Act.Answer :=
  ⟨.memory (.tracker (.deleteExecution e)), removed⟩ :: ⟨.memory (.claim e), true⟩ ::
    ⟨.memory (.forgetExpired s.retention), forgotten⟩ :: past

/-- What leads to the question whether an execution is completed: a pass that left it without
containers, or the end of the wait for one of its containers, which is no longer tracked or counts
as crashed. -/
def LeadsToCheck (e : ExecutionId) : Cause → Past Act.Answer → Prop
  | .turn .watch _, past => ∃ staleness isStopped now, ∃ summary : Tracker.Summary,
    ⟨.memory (.tracker (.sweep staleness isStopped now)), summary⟩ ∈ past ∧ e ∈ summary.emptied
  | .job (.supervise e' c), past => e' = e ∧
    ((∃ known rest, past = ⟨.memory (.tracker (.delete c)), known⟩ :: rest) ∨
      ∃ marked rest, past = ⟨.memory (.tracker (.markCrashed c)), marked⟩ :: rest)
  | _, _ => False

/-- When an activity other than a launch may report a status. -/
def MayConclude (s : LivenessSettings) (cause : Cause) (past : Past Act.Answer) (e : ExecutionId)
    (status : ExecutionStatus) : Prop :=
  ∃ forgotten removed before, past = concluding s e forgotten removed before ∧
    (status = .error ∨ status = .finished ∧
      ∃ rest, before = ⟨.memory (.tracker (.hasLive e)), false⟩ :: rest ∧ LeadsToCheck e cause rest)

def NoneAccepted (past : Past Act.Answer) : Prop :=
  ∀ e status reason, ⟨.backend (.reportExecution e status reason), .ok ()⟩ ∉ past

def MayReport (s : Settings) (past : Past Act.Answer) (e : ExecutionId)
    (status : ExecutionStatus) : Cause → Prop
  | .job (.launch r) =>
    e = r.executionId ∧ (status = .running ∨ status = .error) ∧ NoneAccepted past
  | cause => MayConclude s.liveness cause past e status

def reportRule (s : Settings) : Rule := fun cause past act =>
  match act with
  | .backend (.reportExecution e status _) => MayReport s past e status cause
  | .memory (.forgetExpired retention) => retention = s.liveness.retention
  | _ => True

variable {s : Settings} {cause : Cause} {past : Past Act.Answer} {e : ExecutionId}

theorem reportRule_of_quiet {act : Act} (h : act.IsQuiet) : reportRule s cause past act := by
  cases act with
  | backend call =>
    cases call with
    | reportExecution => exact h.elim
    | _ => trivial
  | memory op =>
    cases op with
    | forgetExpired => exact h.elim
    | _ => trivial
  | _ => trivial

theorem mayReport_iff (hc : ¬ cause.IsLaunch) {status : ExecutionStatus} :
    MayReport s past e status cause ↔ MayConclude s.liveness cause past e status := by
  unfold MayReport
  split
  next => exact (hc trivial).elim
  next => rfl

theorem conclude_keeps (hc : ¬ cause.IsLaunch) {ending : Ending} {forgotten : Nat}
    (hcheck : ending = .completed → ∃ rest,
      past = ⟨.memory (.tracker (.hasLive e)), false⟩ :: rest ∧ LeadsToCheck e cause rest) :
    (conclude e ending).Keeps (reportRule s cause)
      (⟨.memory (.claim e), true⟩ :: ⟨.memory (.forgetExpired s.liveness.retention), forgotten⟩ ::
        past) fun _ _ => True := by
  refine ⟨trivial, fun removed => ⟨(mayReport_iff hc).mpr ?_, fun _ => ⟨trivial, fun _ => trivial⟩⟩⟩
  refine ⟨forgotten, removed, past, rfl, ?_⟩
  cases ending with
  | completed => exact .inr ⟨rfl, hcheck rfl⟩
  | allCrashed => exact .inl rfl

/-- Only the activity that was the first to note that an execution is finalized concludes it. -/
theorem claimed_keeps (hc : ¬ cause.IsLaunch) {ending : Ending} {forgotten : Nat} (fresh : Bool)
    (hcheck : ending = .completed → ∃ rest,
      past = ⟨.memory (.tracker (.hasLive e)), false⟩ :: rest ∧ LeadsToCheck e cause rest) :
    (if fresh then (do conclude e ending; return true) else return false : Activity Bool).Keeps
      (reportRule s cause)
      (⟨.memory (.claim e), fresh⟩ :: ⟨.memory (.forgetExpired s.liveness.retention), forgotten⟩ ::
        past) fun _ _ => True := by
  cases fresh with
  | false => trivial
  | true => exact keeps_bind.mpr ((conclude_keeps hc hcheck).mono fun _ _ _ => trivial)

theorem finalize_keeps (hc : ¬ cause.IsLaunch) {ending : Ending}
    (hlead : ending = .completed → LeadsToCheck e cause past) :
    (finalize s.liveness e ending).Keeps (reportRule s cause) past fun _ _ => True := by
  cases ending with
  | completed =>
    refine ⟨trivial, fun live => ?_⟩
    cases live with
    | true => trivial
    | false =>
      refine ⟨rfl, fun forgotten => ⟨trivial, fun fresh => ?_⟩⟩
      exact claimed_keeps hc fresh fun _ => ⟨past, rfl, hlead rfl⟩
  | allCrashed =>
    exact ⟨rfl, fun forgotten => ⟨trivial, fun fresh => claimed_keeps hc fresh nofun⟩⟩

theorem finalizeAll_keeps (hc : ¬ cause.IsLaunch) {ending : Ending} {es : List ExecutionId}
    (hlead : ending = .completed → ∀ e ∈ es, ∀ past', past <:+ past' →
      LeadsToCheck e cause past') :
    (finalizeAll s.liveness ending es).Keeps (reportRule s cause) past fun _ _ => True := by
  induction es generalizing past with
  | nil => trivial
  | cons e es ih =>
    refine Keeps.bind (finalize_keeps hc fun h => hlead h e (by simp) past List.suffix_rfl) ?_
    intro _ past' _ hsub
    exact ih fun h e he past'' hsub' => hlead h e (by simp [he]) past'' (hsub.trans hsub')

theorem keeps_of_quiet {α : Type} {p : Activity α} (h : p.Asks Act.IsQuiet) :
    p.Keeps (reportRule s cause) past fun _ _ => True :=
  h.keeps (I := fun _ => True) (fun _ _ hq _ => reportRule_of_quiet hq) (fun _ _ _ _ => id) trivial

/-! ### Passes and supervisions -/

theorem handleCrashed_keeps (now : Instant) (cs : List ContainerId) :
    (handleCrashed now cs).Keeps (reportRule s cause) past fun _ _ => True := by
  refine (keeps_of_quiet (reportAllCrashed_asks fun _ _ => trivial)).bind fun _ _ _ _ => ?_
  refine keeps_query_bind.mpr ⟨trivial, fun _ => ?_⟩
  refine (keeps_of_quiet (stopAll_asks fun _ _ => trivial)).bind fun _ _ _ _ => ?_
  exact keeps_query_bind.mpr ⟨trivial, fun _ => trivial⟩

theorem watch_keeps (now : Instant) :
    (watch s.liveness now).Keeps (reportRule s (.turn .watch now)) past fun _ _ => True := by
  have hc : ¬ (Cause.turn .watch now).IsLaunch := id
  refine keeps_query_bind.mpr ⟨rfl, fun _ => ?_⟩
  refine keeps_query_bind.mpr ⟨trivial, fun containers => ?_⟩
  refine (keeps_of_quiet (stoppedAmong_asks fun _ _ => trivial)).bind fun stopped _ _ _ => ?_
  refine keeps_query_bind.mpr ⟨trivial, fun summary => ?_⟩
  refine Keeps.bind (finalizeAll_keeps hc ?_) fun _ _ _ _ => ?_
  · intro _ e he past' hsub
    exact ⟨_, _, _, summary, hsub.subset List.mem_cons_self, he⟩
  refine keeps_query_bind.mpr ⟨trivial, fun crashed => ?_⟩
  have hlost (past) : (do
      let lost : List ExecutionId ← tracker .lost
      finalizeAll s.liveness .allCrashed lost
      return summary : Activity Tracker.Summary).Keeps (reportRule s (.turn .watch now)) past
        fun _ _ => True := by
    refine keeps_query_bind.mpr ⟨trivial, fun lost => ?_⟩
    exact Keeps.bind (finalizeAll_keeps hc nofun) fun _ _ _ _ => trivial
  dsimp only
  split
  · exact (handleCrashed_keeps ..).bind fun _ past _ _ => hlost past
  · exact hlost _

theorem supervise_keeps (e : ExecutionId) (c : ContainerId) :
    (supervise s e c).Keeps (reportRule s (.job (.supervise e c))) past fun _ _ => True := by
  have hc : ¬ (Cause.job (.supervise e c)).IsLaunch := id
  refine keeps_query_bind.mpr ⟨trivial, fun start => ?_⟩
  refine (keeps_of_quiet (awaitStop_quiet ..)).bind fun outcome _ _ _ => ?_
  cases outcome with
  | stopped =>
    refine keeps_bind.mpr (keeps_discard.mpr ⟨trivial, fun known => ?_⟩)
    refine Keeps.bind (finalize_keeps hc ?_) fun _ _ _ _ => trivial
    exact fun _ => ⟨rfl, .inl ⟨known, _, rfl⟩⟩
  | timedOut =>
    refine keeps_bind.mpr (keeps_discard.mpr ⟨trivial, fun marked => ?_⟩)
    refine Keeps.bind (finalize_keeps hc ?_) fun _ _ _ _ => trivial
    exact fun _ => ⟨rfl, .inr ⟨marked, _, rfl⟩⟩

/-! ### Launches -/

section Launch

variable {r : LaunchRequest}

theorem noneAccepted_nil : NoneAccepted [] := fun _ _ _ hmem => by cases hmem

theorem noneAccepted_cons {act : Act} {answer : act.Answer} (h : NoneAccepted past)
    (hact : ∀ e status reason, (⟨act, answer⟩ : Sigma Act.Answer) ≠
      ⟨.backend (.reportExecution e status reason), .ok ()⟩) :
    NoneAccepted (⟨act, answer⟩ :: past) := by
  intro e status reason hmem
  rcases List.mem_cons.mp hmem with he | hmem
  · exact hact e status reason he.symm
  · exact h e status reason hmem

theorem noneAccepted_cons_of_quiet {act : Act} (hq : act.IsQuiet) (answer : act.Answer)
    (h : NoneAccepted past) : NoneAccepted (⟨act, answer⟩ :: past) := by
  refine noneAccepted_cons h fun e status reason he => ?_
  obtain ⟨rfl, -⟩ := Sigma.mk.inj he
  exact hq

theorem noneAccepted_of_quiet {α : Type} {p : Activity α} (h : p.Asks Act.IsQuiet)
    (hnone : NoneAccepted past) :
    p.Keeps (reportRule s cause) past fun _ past => NoneAccepted past :=
  h.keeps (fun _ _ hq _ => reportRule_of_quiet hq)
    (fun _ _ answer hq => noneAccepted_cons_of_quiet hq answer) hnone

def Unreported {α : Type} (result : Except Fault α) (past : Past Act.Answer) : Prop :=
  ∀ f, result = .error f → NoneAccepted past

/-- A quiet part of a launch: it goes on without an accepted report, or ends without one. -/
theorem keeps_run_bind_of_quiet {α β : Type} {x : Attempt α} {f : α → Attempt β}
    (hx : x.run.Asks Act.IsQuiet) (hnone : NoneAccepted past)
    (hf : ∀ a past, NoneAccepted past → (f a).run.Keeps (reportRule s cause) past Unreported) :
    (x >>= f).run.Keeps (reportRule s cause) past Unreported := by
  refine keeps_run_bind.mpr ((noneAccepted_of_quiet hx hnone).mono fun result past hnone => ?_)
  cases result with
  | ok a => exact hf a past hnone
  | error _ => exact fun _ _ => hnone

theorem provision_keeps (hnone : NoneAccepted past) :
    (Attempt.provision s r).run.Keeps (reportRule s (.job (.launch r))) past Unreported := by
  refine keeps_run_bind_of_quiet Attempt.asks_ofExcept hnone fun _ _ hnone => ?_
  refine keeps_run_bind_of_quiet (Attempt.asks_runner.mpr trivial) hnone fun cs _ hnone => ?_
  refine keeps_run_bind_of_quiet (Attempt.asks_runner.mpr trivial) hnone fun _ _ hnone => ?_
  refine keeps_run_bind_of_quiet (Attempt.asks_lift (asks_query.mpr trivial)) hnone
    fun now _ hnone => ?_
  refine keeps_run_bind_of_quiet (Attempt.trackAll_asks fun _ _ => trivial) hnone
    fun _ _ hnone => ?_
  refine keeps_run_bind_of_quiet (Attempt.asks_backend.mpr trivial) hnone fun _ _ hnone => ?_
  refine keeps_run_bind.mpr ⟨⟨rfl, .inl rfl, hnone⟩, fun answer => ?_⟩
  cases answer with
  | ok _ => exact nofun
  | error _ => exact fun _ _ => noneAccepted_cons hnone fun _ _ _ he => by cases he

theorem abort_keeps {e : ExecutionId} {f : Fault} (he : e = r.executionId)
    (hnone : NoneAccepted past) :
    (abort e f).Keeps (reportRule s (.job (.launch r))) past fun _ _ => True :=
  ⟨⟨he, .inr rfl, hnone⟩, fun _ => ⟨trivial, fun _ => ⟨trivial, fun _ => trivial⟩⟩⟩

theorem launch_keeps :
    (launch s r).Keeps (reportRule s (.job (.launch r))) [] fun _ _ => True := by
  refine keeps_query_bind.mpr ⟨trivial, fun _ => ?_⟩
  have hquiet : (Act.memory (.beginLaunch r.executionId)).IsQuiet := trivial
  have hnone := noneAccepted_cons_of_quiet hquiet () noneAccepted_nil
  refine (provision_keeps hnone).bind fun result past hun _ => ?_
  have hend (past) : (do
      endLaunch r.executionId
      return result : Activity (Except Fault (List ContainerId))).Keeps
        (reportRule s (.job (.launch r))) past fun _ _ => True := ⟨trivial, fun _ => trivial⟩
  cases result with
  | ok _ => exact hend _
  | error f => exact (abort_keeps rfl (hun f rfl)).bind fun _ past _ _ => hend past

end Launch

/-- All activities of the service keep the rule of reports. -/
theorem reportRule_kept (s : Settings) : (reportRule s).Kept s := by
  intro cause
  cases cause with
  | request command =>
    refine keeps_discard.mpr ?_
    cases command with
    | health => trivial
    | heartbeat h => exact (keeps_of_quiet (heartbeat_quiet h)).bind fun _ _ _ _ => trivial
    | launch r => exact keeps_of_quiet (Api.acceptLaunch_quiet r)
    | stopAgents cs =>
      exact (keeps_of_quiet (Api.stopAgents_quiet cs)).bind fun _ _ _ _ => trivial
    | cleanup e =>
      refine keeps_query_bind.mpr ⟨trivial, fun cleaned => ?_⟩
      cases cleaned with
      | error _ => trivial
      | ok _ => exact ⟨trivial, fun _ => trivial⟩
  | turn routine now =>
    cases routine with
    | watch => exact keeps_discard.mpr (watch_keeps now)
    | prune => exact keeps_of_quiet prune_quiet
  | job job =>
    cases job with
    | supervise e c => exact keeps_discard.mpr (supervise_keeps e c)
    | launch r => exact keeps_discard.mpr launch_keeps

/-! ### Reports in the log -/

end Fleet

def Event.Reports (ev : Event) (e : ExecutionId) (status : ExecutionStatus)
    (outcome : Except Fault Unit) : Prop :=
  ∃ reason, ev.sent = ⟨.backend (.reportExecution e status reason), outcome⟩

namespace Fleet

theorem mayReport_of_reports {moves : List Move} {report : Event} {older : List Event}
    {status : ExecutionStatus} {outcome : Except Fault Unit}
    (h : report :: older <:+ (after s moves).log) (hr : report.Reports e status outcome) :
    MayReport s (pastOf report.strand older) e status report.cause := by
  obtain ⟨reason, hsent⟩ := hr
  have hrule := (traced_after (reportRule_kept s) moves).obeyed report older h
  rw [(Event.of_sent_backend (s := {}) hsent).1] at hrule
  exact hrule

end Fleet

end AgentFleet
