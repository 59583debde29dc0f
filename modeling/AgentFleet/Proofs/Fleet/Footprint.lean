import AgentFleet.Proofs.Fleet.Scope

/-!
Which activities leave crashes and the ends of executions alone, and which leave it to others to
deal with agents. A quiet question neither reports the status of an execution nor notes that one is
finalized, it removes no execution from the tracker, and neither asks which containers have crashed
nor marks a crash as handled. Upkeep neither asks for work for an agent nor tells it to end. Most of
what the service does is both; what is not is told by the rules.
-/

namespace AgentFleet

def Act.IsQuiet : Act → Prop
  | backend (.reportExecution _ _ _) => False
  | memory (.forgetExpired _) => False
  | memory (.claim _) => False
  | memory (.tracker (.deleteExecution _)) => False
  | memory (.tracker (.markHandled _)) => False
  | memory (.tracker .crashed) => False
  | memory (.tracker .lost) => False
  | _ => True

def Act.IsUpkeep : Act → Prop
  | backend (.nextBatch _) => False
  | memory (.tracker (.markTerminating _)) => False
  | spawn (.supervise _ _) => False
  | _ => True

def Act.IsPlain (act : Act) : Prop := act.IsQuiet ∧ act.IsUpkeep

def Act.IgnoresCrashes : Act → Prop
  | memory (.tracker (.markHandled _)) => False
  | memory (.tracker .crashed) => False
  | memory (.tracker .lost) => False
  | _ => True

theorem Act.IsQuiet.ignoresCrashes {act : Act} (h : act.IsQuiet) : act.IgnoresCrashes := by
  cases act with
  | memory op =>
    cases op with
    | tracker op => cases op <;> trivial
    | _ => trivial
  | _ => trivial

def Act.IsOrdinary (act : Act) : Prop := act.IgnoresCrashes ∧ act.IsUpkeep

def Cause.IsPass : Cause → Prop
  | .turn .watch _ => True
  | _ => False

def Cause.IsHeartbeat : Cause → Prop
  | .request (.heartbeat _) => True
  | _ => False

theorem Cause.IsPass.eq_turn {cause : Cause} (h : cause.IsPass) :
    ∃ now, cause = .turn .watch now := by
  unfold Cause.IsPass at h
  split at h
  · exact ⟨_, rfl⟩
  · exact h.elim

theorem Cause.IsHeartbeat.eq_request {cause : Cause} (h : cause.IsHeartbeat) :
    ∃ beat, cause = .request (.heartbeat beat) := by
  unfold Cause.IsHeartbeat at h
  split at h
  · exact ⟨_, rfl⟩
  · exact h.elim

open Procedure

variable {α : Type}

namespace Act

variable {act : Act} {e : ExecutionId} {c : ContainerId}

theorem OfHeartbeat.isQuiet {h : Heartbeat} (hact : act.OfHeartbeat h) : act.IsQuiet := by
  cases hact <;> trivial

theorem OfWait.isPlain (hact : act.OfWait c) : act.IsPlain := by
  cases hact <;> exact ⟨trivial, trivial⟩

theorem OfPruning.isPlain (hact : act.OfPruning) : act.IsPlain := by
  cases hact <;> exact ⟨trivial, trivial⟩

theorem OfCommand.isPlain_launch {r : LaunchRequest} (hact : act.OfCommand (.launch r)) :
    act.IsPlain := by
  cases hact; exact ⟨trivial, trivial⟩

theorem OfCommand.isPlain_stopAgents {cs : List ContainerId}
    (hact : act.OfCommand (.stopAgents cs)) : act.IsPlain := by
  cases hact <;> exact ⟨trivial, trivial⟩

theorem OfEnding.isOrdinary {s : LivenessSettings} (hact : act.OfEnding s e) :
    act.IsOrdinary := by
  cases hact <;> exact ⟨trivial, trivial⟩

theorem OfSupervision.isOrdinary {s : Settings} (hact : act.OfSupervision s e c) :
    act.IsOrdinary := by
  cases hact with
  | wait h => exact h.isPlain.imp_left IsQuiet.ignoresCrashes
  | ending h => exact h.isOrdinary
  | drop | crash => exact ⟨trivial, trivial⟩

theorem OfLaunch.isOrdinary {s : Settings} {r : LaunchRequest} (hact : act.OfLaunch s r) :
    act.IsOrdinary := by
  cases hact with
  | provision h => cases h <;> exact ⟨trivial, trivial⟩
  | abort h => cases h <;> exact ⟨trivial, trivial⟩
  | start | finish => exact ⟨trivial, trivial⟩

theorem OfPass.isUpkeep {s : LivenessSettings} {now : Instant} (hact : act.OfPass s now) :
    act.IsUpkeep := by
  cases hact with
  | handling h => cases h <;> trivial
  | ending h => exact h.isOrdinary.2
  | _ => trivial

end Act

namespace Activity

theorem heartbeat_quiet (h : Heartbeat) : (heartbeat h).Asks Act.IsQuiet :=
  (heartbeat_asks h).mono fun _ => Act.OfHeartbeat.isQuiet

theorem awaitStop_quiet (s : ShutdownSettings) (c : ContainerId) (deadline checks : Nat) :
    (awaitStop s c deadline checks).Asks Act.IsQuiet :=
  (awaitStop_asks ..).mono fun _ hact => hact.isPlain.1

theorem prune_quiet : prune.Asks Act.IsQuiet := prune_asks.mono fun _ hact => hact.isPlain.1

theorem finalizeAll_ignoresCrashes (s : LivenessSettings) (ending : Ending)
    (es : List ExecutionId) : (finalizeAll s ending es).Asks Act.IgnoresCrashes := by
  refine (finalizeAll_asks s ending es).mono ?_
  rintro act ⟨e, -, hact⟩
  exact hact.isOrdinary.1

end Activity

namespace Api

theorem stopAgents_quiet (cs : List ContainerId) : (stopAgents cs).Asks Act.IsQuiet :=
  (stopAgents_asks (List.Subset.refl cs)).mono fun _ hact => hact.isPlain_stopAgents.1

theorem acceptLaunch_quiet (r : LaunchRequest) : (acceptLaunch r).Asks Act.IsQuiet :=
  (acceptLaunch_asks r).mono fun _ hact => hact.isPlain_launch.1

end Api

/-! ### By what an activity was begun -/

namespace Cause

variable {s : Settings} {cause : Cause} {act : Act}

theorem Scope.isOrdinary (hact : cause.Scope s act) (hpass : ¬ cause.IsPass)
    (hbeat : ¬ cause.IsHeartbeat) : act.IsOrdinary := by
  cases cause with
  | request command =>
    cases hact with
    | heartbeat => exact (hbeat trivial).elim
    | _ => exact ⟨trivial, trivial⟩
  | turn routine now =>
    cases routine with
    | watch => exact (hpass trivial).elim
    | prune => exact (Act.OfPruning.isPlain hact).imp_left Act.IsQuiet.ignoresCrashes
  | job job =>
    cases job with
    | supervise e c => exact Act.OfSupervision.isOrdinary hact
    | launch r => exact Act.OfLaunch.isOrdinary hact

/-- Only heartbeats bring work, or the end. -/
theorem activity_upkeep (s : Settings) {cause : Cause} (hbeat : ¬ cause.IsHeartbeat) :
    (cause.activity s).Asks Act.IsUpkeep := by
  refine (cause.activity_asks s).mono fun act hact => ?_
  by_cases hpass : cause.IsPass
  · obtain ⟨now, rfl⟩ := hpass.eq_turn
    exact Act.OfPass.isUpkeep hact
  · exact (hact.isOrdinary hpass hbeat).2

/-- Only passes deal with crashes. -/
theorem activity_ignoresCrashes (s : Settings) {cause : Cause} (hpass : ¬ cause.IsPass) :
    (cause.activity s).Asks Act.IgnoresCrashes := by
  refine (cause.activity_asks s).mono fun act hact => ?_
  by_cases hbeat : cause.IsHeartbeat
  · obtain ⟨h, rfl⟩ := hbeat.eq_request
    cases hact with
    | heartbeat hact => exact hact.isQuiet.ignoresCrashes
  · exact (hact.isOrdinary hpass hbeat).1

end Cause

namespace Attempt

section Keeps

variable {R : Past Act.Answer → Act → Prop} {past : Past Act.Answer}

theorem keeps_lift {t : Activity α} {Q : Except Fault α → Past Act.Answer → Prop} :
    (lift t).run.Keeps R past Q ↔ t.Keeps R past fun a past => Q (.ok a) past := keeps_bind

theorem keeps_ofExcept {r : Except Fault α} {Q : Except Fault α → Past Act.Answer → Prop} :
    (ofExcept r).run.Keeps R past Q ↔ Q r past := by
  cases r <;> rfl

theorem keeps_accepted {t : Activity (Except Tracker.Refusal α)}
    {Q : Except Fault α → Past Act.Answer → Prop} :
    (accepted t).run.Keeps R past Q ↔
      t.Keeps R past fun r past => Q (r.mapError Tracker.Refusal.fault) past := by
  refine keeps_run_bind.trans (keeps_lift.trans ?_)
  simp only [keeps_ofExcept]

end Keeps

end Attempt

end AgentFleet
