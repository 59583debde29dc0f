import AgentFleet.Proofs.Fleet.Run

/-!
What each activity may ask at all, by what it was begun: one constructor for each of its questions.
A property of questions holds of an activity as soon as it holds of these, and which activities may
ask one certain question is told by going through them.
-/

namespace AgentFleet

open Procedure

namespace Act

@[grind cases] inductive OfEnding (s : LivenessSettings) (e : ExecutionId) : Act → Prop
  | check : OfEnding s e (memory (.tracker (.hasLive e)))
  | forget : OfEnding s e (memory (.forgetExpired s.retention))
  | claim : OfEnding s e (memory (.claim e))
  | remove : OfEnding s e (memory (.tracker (.deleteExecution e)))
  | report (ending : Ending) :
    OfEnding s e (backend (.reportExecution e ending.status ending.reason))
  | clean : OfEnding s e (runner (.cleanup e))

@[grind cases] inductive OfHeartbeat (h : Heartbeat) : Act → Prop
  | report : OfHeartbeat h (backend (.reportState h.agentId h.state h.timestamp))
  | clock : OfHeartbeat h (memory .clock)
  | hear (time : Instant) :
    OfHeartbeat h (memory (.tracker (.upsert h.executionId h.agentId time)))
  | prepare : OfHeartbeat h (backend (.initConfig h.agentId))
  | dequeue : OfHeartbeat h (backend (.nextBatch h.agentId))
  | siblings : OfHeartbeat h (backend (.agentStatuses h.executionId))
  | saved : OfHeartbeat h (backend (.resultsSaved h.agentId))
  | fail : OfHeartbeat h (backend (.failTests [h.agentId]))
  | crash : OfHeartbeat h (memory (.tracker (.markCrashed h.agentId)))
  | terminate : OfHeartbeat h (memory (.tracker (.markTerminating h.agentId)))
  | supervise : OfHeartbeat h (spawn (.supervise h.executionId h.agentId))

@[grind cases] inductive OfWait (c : ContainerId) : Act → Prop
  | clock : OfWait c (memory .clock)
  | sleep (millis : Nat) : OfWait c (sleep millis)
  | look (deadline : Nat) : OfWait c (runnerUntil deadline (.isStopped c))

@[grind cases] inductive OfSupervision (s : Settings) (e : ExecutionId) (c : ContainerId) :
    Act → Prop
  | wait {act : Act} : act.OfWait c → OfSupervision s e c act
  | drop : OfSupervision s e c (memory (.tracker (.delete c)))
  | crash : OfSupervision s e c (memory (.tracker (.markCrashed c)))
  | ending {act : Act} : act.OfEnding s.liveness e → OfSupervision s e c act

@[grind cases] inductive OfHandling (now : Instant) (cs : List ContainerId) : Act → Prop
  | report {c : ContainerId} :
    c ∈ cs → OfHandling now cs (backend (.reportState c .crashed now.timestamp))
  | fail : OfHandling now cs (backend (.failTests cs))
  | stop {c : ContainerId} : c ∈ cs → OfHandling now cs (runner (.stopAgent c))
  | handled : OfHandling now cs (memory (.tracker (.markHandled cs)))

@[grind cases] inductive OfPass (s : LivenessSettings) (now : Instant) : Act → Prop
  | forget : OfPass s now (memory (.forgetExpired s.retention))
  | containers : OfPass s now (memory (.tracker .containers))
  | look (c : ContainerId) : OfPass s now (runner (.isStopped c))
  | sweep (isStopped : ContainerId → Bool) :
    OfPass s now (memory (.tracker (.sweep s.staleness isStopped now)))
  | crashed : OfPass s now (memory (.tracker .crashed))
  | handling {cs : List ContainerId} {act : Act} : act.OfHandling now cs → OfPass s now act
  | lost : OfPass s now (memory (.tracker .lost))
  | ending {e : ExecutionId} {act : Act} : act.OfEnding s e → OfPass s now act

@[grind cases] inductive OfPruning : Act → Prop
  | executions : OfPruning (memory (.tracker .executions))
  | launching : OfPruning (memory .launching)
  | prune (keep : Names) : OfPruning (runner (.prune keep))

@[grind cases] inductive OfProvision (s : Settings) (r : LaunchRequest) : Act → Prop
  | create : OfProvision s r
    (runner (.create r.executionId (r.plan s.agent s.engine) r.replicas))
  | start : OfProvision s r (runner (.start r.executionId))
  | clock : OfProvision s r (memory .clock)
  | track (c : ContainerId) (time : Instant) :
    OfProvision s r (memory (.tracker (.upsert r.executionId c time)))
  | add (cs : List ContainerId) : OfProvision s r (backend (.addAgents r.executionId cs))
  | running : OfProvision s r (backend (.reportExecution r.executionId .running none))

@[grind cases] inductive OfAbort (e : ExecutionId) : Act → Prop
  | report (cause : Fault) : OfAbort e (backend (.reportExecution e .error (some cause.message)))
  | remove : OfAbort e (memory (.tracker (.deleteExecution e)))
  | clean : OfAbort e (runner (.cleanup e))

@[grind cases] inductive OfLaunch (s : Settings) (r : LaunchRequest) : Act → Prop
  | start : OfLaunch s r (memory (.beginLaunch r.executionId))
  | provision {act : Act} : act.OfProvision s r → OfLaunch s r act
  | abort {act : Act} : act.OfAbort r.executionId → OfLaunch s r act
  | finish : OfLaunch s r (memory (.endLaunch r.executionId))

@[grind cases] inductive OfCommand : Api.Command → Act → Prop
  | heartbeat {h : Heartbeat} {act : Act} : act.OfHeartbeat h → OfCommand (.heartbeat h) act
  | launch (r : LaunchRequest) : OfCommand (.launch r) (spawn (.launch r))
  | stop {cs : List ContainerId} {c : ContainerId} :
    c ∈ cs → OfCommand (.stopAgents cs) (runner (.stopAgent c))
  | clock (cs : List ContainerId) : OfCommand (.stopAgents cs) (memory .clock)
  | stopped {cs : List ContainerId} {c : ContainerId} (time : Timestamp) :
    c ∈ cs → OfCommand (.stopAgents cs) (backend (.reportState c .stoppedByOrch time))
  | drop {cs : List ContainerId} {c : ContainerId} :
    c ∈ cs → OfCommand (.stopAgents cs) (memory (.tracker (.delete c)))
  | clean (e : ExecutionId) : OfCommand (.cleanup e) (runner (.cleanup e))
  | remove (e : ExecutionId) : OfCommand (.cleanup e) (memory (.tracker (.deleteExecution e)))

end Act

def Cause.Scope (s : Settings) : Cause → Act → Prop
  | request command => Act.OfCommand command
  | turn .watch now => Act.OfPass s.liveness now
  | turn .prune _ => Act.OfPruning
  | job (.supervise e c) => Act.OfSupervision s e c
  | job (.launch r) => Act.OfLaunch s r

variable {P : Act → Prop} {α : Type}

namespace Attempt

@[simp] theorem asks_pure {a : α} : (pure a : Attempt α).run.Asks P := asks_done

@[simp] theorem asks_backend {call : BackendCall} :
    (Attempt.backend call).run.Asks P ↔ P (.backend call) := asks_query

@[simp] theorem asks_runner {call : RunnerCall} :
    (Attempt.runner call).run.Asks P ↔ P (.runner call) := asks_query

theorem asks_lift {t : Activity α} (h : t.Asks P) : (lift t).run.Asks P :=
  h.bind fun _ => asks_done

theorem asks_ofExcept {r : Except Fault α} : (ofExcept r).run.Asks P := by
  cases r <;> exact asks_done

theorem asks_accepted {t : Activity (Except Tracker.Refusal α)} (h : t.Asks P) :
    (accepted t).run.Asks P := (asks_lift h).run_bind fun _ => asks_ofExcept

/-! ### Heartbeats -/

theorem assign_asks {c : ContainerId} {e : ExecutionId} (hbatch : P (.backend (.nextBatch c)))
    (hstatuses : P (.backend (.agentStatuses e))) : (assign c e).run.Asks P := by
  refine Asks.run_bind (asks_backend.mpr hbatch) fun batch => ?_
  cases batch with
  | some batch => exact asks_pure
  | none =>
    refine Asks.run_bind (asks_backend.mpr hstatuses) fun statuses => ?_
    split <;> exact asks_pure

theorem answerTo_asks (h : Heartbeat) :
    (answerTo h.agentId h.executionId h.state).run.Asks (Act.OfHeartbeat h) := by
  cases h.state with
  | starting =>
    refine Asks.run_bind (asks_backend.mpr .prepare) fun config => ?_
    cases config <;> exact asks_pure
  | idle => exact assign_asks .dequeue .siblings
  | finished =>
    refine Asks.run_bind (asks_backend.mpr .saved) fun saved => ?_
    split
    · exact assign_asks .dequeue .siblings
    · exact Asks.run_bind (asks_backend.mpr .fail) fun _ => asks_pure
  | busy | backendFailure | backendUnreachable | cliFailed => exact asks_pure
  | crashed | terminated | stoppedByOrch =>
    exact (asks_accepted (asks_query.mpr .crash)).run_bind fun _ => asks_pure

theorem superviseOnce_asks (h : Heartbeat) :
    (superviseOnce h.agentId h.executionId).run.Asks (Act.OfHeartbeat h) := by
  refine (asks_accepted (asks_query.mpr .terminate)).run_bind fun fresh => ?_
  split
  · exact asks_lift (asks_query.mpr .supervise)
  · exact asks_pure

theorem process_asks (h : Heartbeat) : (process h).run.Asks (Act.OfHeartbeat h) := by
  refine (asks_lift (asks_query.mpr .report)).run_bind fun reported => ?_
  refine (asks_lift (asks_query.mpr .clock)).run_bind fun now => ?_
  refine (asks_accepted (asks_query.mpr (.hear _))).run_bind fun _ => ?_
  refine asks_ofExcept.run_bind fun _ => ?_
  refine (answerTo_asks h).run_bind fun answer => ?_
  dsimp only
  split
  · exact (superviseOnce_asks h).run_bind fun _ => asks_pure
  · exact asks_pure

/-! ### Launching -/

theorem trackAll_asks {e : ExecutionId} {time : Instant} {cs : List ContainerId}
    (htrack : ∀ c ∈ cs, P (.memory (.tracker (.upsert e c time)))) :
    (trackAll e time cs).run.Asks P := by
  induction cs with
  | nil => exact asks_pure
  | cons c cs ih =>
    obtain ⟨hc, hcs⟩ := List.forall_mem_cons.mp htrack
    exact (asks_accepted (asks_query.mpr hc)).run_bind fun _ => ih hcs

theorem provision_asks (s : Settings) (r : LaunchRequest) :
    (provision s r).run.Asks (Act.OfProvision s r) := by
  refine asks_ofExcept.run_bind fun _ => ?_
  refine (asks_runner.mpr .create).run_bind fun cs => ?_
  refine (asks_runner.mpr .start).run_bind fun _ => ?_
  refine (asks_lift (asks_query.mpr .clock)).run_bind fun now => ?_
  refine (trackAll_asks fun c _ => .track c now.wall).run_bind fun _ => ?_
  refine (asks_backend.mpr (.add cs)).run_bind fun _ => ?_
  exact (asks_backend.mpr .running).run_bind fun _ => asks_pure

end Attempt

namespace Activity

theorem heartbeat_asks (h : Heartbeat) : (heartbeat h).Asks (Act.OfHeartbeat h) := by
  refine (Attempt.process_asks h).bind fun r => ?_
  cases r <;> exact asks_done

theorem abort_asks (e : ExecutionId) (cause : Fault) : (abort e cause).Asks (Act.OfAbort e) := by
  refine Asks.bind (asks_query.mpr (.report cause)) fun _ => ?_
  refine Asks.bind (asks_query.mpr .remove) fun _ => ?_
  exact Asks.bind (asks_query.mpr .clean) fun _ => asks_done

theorem launch_asks (s : Settings) (r : LaunchRequest) :
    (launch s r).Asks (Act.OfLaunch s r) := by
  refine Asks.bind (asks_query.mpr .start) fun _ => ?_
  refine ((Attempt.provision_asks s r).mono fun _ => .provision).bind fun result => ?_
  cases result with
  | ok _ => exact Asks.bind (asks_query.mpr .finish) fun _ => asks_done
  | error f =>
    refine ((abort_asks r.executionId f).mono fun _ => .abort).bind fun _ => ?_
    exact Asks.bind (asks_query.mpr .finish) fun _ => asks_done

/-! ### Ending executions -/

theorem conclude_asks (s : LivenessSettings) (e : ExecutionId) (ending : Ending) :
    (conclude e ending).Asks (Act.OfEnding s e) := by
  refine Asks.bind (asks_query.mpr .remove) fun _ => ?_
  refine Asks.bind (asks_query.mpr (.report ending)) fun _ => ?_
  exact Asks.bind (asks_query.mpr .clean) fun _ => asks_done

theorem finalize_asks (s : LivenessSettings) (e : ExecutionId) (ending : Ending) :
    (finalize s e ending).Asks (Act.OfEnding s e) := by
  have hended : (do
      let _ ← forgetExpired s.retention
      if ← claim e then
        conclude e ending
        return true
      else return false : Activity Bool).Asks (Act.OfEnding s e) := by
    refine Asks.bind (asks_query.mpr .forget) fun _ => ?_
    refine Asks.bind (asks_query.mpr .claim) fun fresh => ?_
    cases fresh with
    | false => exact asks_done
    | true => exact (conclude_asks s e ending).bind fun _ => asks_done
  cases ending with
  | completed =>
    refine Asks.bind (asks_query.mpr .check) fun live => ?_
    cases live with
    | true => exact asks_done
    | false => exact hended
  | allCrashed => exact hended

theorem finalizeAll_asks (s : LivenessSettings) (ending : Ending) (es : List ExecutionId) :
    (finalizeAll s ending es).Asks fun act => ∃ e ∈ es, act.OfEnding s e := by
  induction es with
  | nil => exact asks_done
  | cons e es ih =>
    refine ((finalize_asks s e ending).mono fun _ h => ⟨e, by simp, h⟩).bind fun _ => ?_
    refine ih.mono ?_
    rintro act ⟨e', he', hact⟩
    exact ⟨e', List.mem_cons_of_mem _ he', hact⟩

/-! ### Waiting for a container's end -/

theorem awaitStop_asks (s : ShutdownSettings) (c : ContainerId) (deadline checks : Nat) :
    (awaitStop s c deadline checks).Asks (Act.OfWait c) := by
  induction checks with
  | zero => exact asks_done
  | succ checks ih =>
    refine Asks.bind (asks_query.mpr .clock) fun now => ?_
    split
    · refine Asks.bind (asks_query.mpr (.sleep _)) fun _ => ?_
      refine Asks.bind (asks_query.mpr (.look deadline)) fun looked => ?_
      split
      · exact asks_done
      · exact asks_done
      · exact ih
    · exact Asks.bind (asks_query.mpr (.sleep _)) fun _ => asks_done

theorem supervise_asks (s : Settings) (e : ExecutionId) (c : ContainerId) :
    (supervise s e c).Asks (Act.OfSupervision s e c) := by
  have hend (outcome : Outcome) : (do
      let _ ← finalize s.liveness e .completed
      return outcome : Activity Outcome).Asks (Act.OfSupervision s e c) :=
    ((finalize_asks ..).mono fun _ => .ending).bind fun _ => asks_done
  refine Asks.bind (asks_query.mpr (.wait .clock)) fun start => ?_
  refine ((awaitStop_asks ..).mono fun _ => .wait).bind fun outcome => ?_
  cases outcome with
  | stopped => exact (Asks.bind (asks_query.mpr .drop) fun _ => asks_done).bind fun _ => hend _
  | timedOut => exact (Asks.bind (asks_query.mpr .crash) fun _ => asks_done).bind fun _ => hend _

/-! ### Passes and pruning -/

theorem stoppedAmong_asks {cs : List ContainerId}
    (hlook : ∀ c ∈ cs, P (.runner (.isStopped c))) : (stoppedAmong cs).Asks P := by
  induction cs with
  | nil => exact asks_done
  | cons c cs ih =>
    obtain ⟨hc, hcs⟩ := List.forall_mem_cons.mp hlook
    refine Asks.bind (asks_query.mpr hc) fun stopped => ?_
    refine (ih hcs).bind fun rest => ?_
    split <;> exact asks_done

theorem reportAllCrashed_asks {time : Timestamp} {cs : List ContainerId}
    (hreport : ∀ c ∈ cs, P (.backend (.reportState c .crashed time))) :
    (reportAllCrashed time cs).Asks P := by
  induction cs with
  | nil => exact asks_done
  | cons c cs ih =>
    obtain ⟨hc, hcs⟩ := List.forall_mem_cons.mp hreport
    exact Asks.bind (asks_query.mpr hc) fun _ => ih hcs

theorem stopAll_asks {cs : List ContainerId} (hstop : ∀ c ∈ cs, P (.runner (.stopAgent c))) :
    (stopAll cs).Asks P := by
  induction cs with
  | nil => exact asks_done
  | cons c cs ih =>
    obtain ⟨hc, hcs⟩ := List.forall_mem_cons.mp hstop
    exact Asks.bind (asks_query.mpr hc) fun _ => ih hcs

theorem handleCrashed_asks (now : Instant) (cs : List ContainerId) :
    (handleCrashed now cs).Asks (Act.OfHandling now cs) := by
  refine (reportAllCrashed_asks fun _ => .report).bind fun _ => ?_
  refine Asks.bind (asks_query.mpr .fail) fun _ => ?_
  refine (stopAll_asks fun _ => .stop).bind fun _ => ?_
  exact Asks.bind (asks_query.mpr .handled) fun _ => asks_done

theorem watch_asks (s : LivenessSettings) (now : Instant) :
    (watch s now).Asks (Act.OfPass s now) := by
  have hended (ending : Ending) (es : List ExecutionId) :
      (finalizeAll s ending es).Asks (Act.OfPass s now) := by
    refine (finalizeAll_asks s ending es).mono ?_
    rintro act ⟨e, -, hact⟩
    exact .ending hact
  refine Asks.bind (asks_query.mpr .forget) fun _ => ?_
  refine Asks.bind (asks_query.mpr .containers) fun containers => ?_
  refine (stoppedAmong_asks fun c _ => .look c).bind fun stopped => ?_
  refine Asks.bind (asks_query.mpr (.sweep _)) fun summary => ?_
  refine (hended ..).bind fun _ => ?_
  refine Asks.bind (asks_query.mpr .crashed) fun crashed => ?_
  have hlost : (do
      let lost : List ExecutionId ← tracker .lost
      finalizeAll s .allCrashed lost
      return summary : Activity Tracker.Summary).Asks (Act.OfPass s now) :=
    Asks.bind (asks_query.mpr .lost) fun lost => (hended ..).bind fun _ => asks_done
  dsimp only
  split
  · exact ((handleCrashed_asks now crashed).mono fun _ => .handling).bind fun _ => hlost
  · exact hlost

theorem prune_asks : prune.Asks Act.OfPruning := by
  refine Asks.bind (asks_query.mpr .executions) fun _ => ?_
  refine Asks.bind (asks_query.mpr .launching) fun _ => ?_
  exact Asks.bind (asks_query.mpr (.prune _)) fun _ => asks_done

end Activity

/-! ### Requests -/

namespace Api

theorem stopAgents_asks {all cs : List ContainerId} (hcs : cs ⊆ all) :
    (stopAgents cs).Asks (Act.OfCommand (.stopAgents all)) := by
  induction cs with
  | nil => exact asks_done
  | cons c cs ih =>
    obtain ⟨hc, hcs⟩ := List.cons_subset.mp hcs
    refine Asks.bind (asks_query.mpr (.stop hc)) fun stopped => ?_
    cases stopped with
    | error f => exact ih hcs
    | ok _ =>
      refine Asks.bind (asks_query.mpr (.clock all)) fun now => ?_
      refine Asks.bind (asks_query.mpr (.stopped _ hc)) fun _ => ?_
      refine Asks.bind (asks_query.mpr (.drop hc)) fun _ => ?_
      exact (ih hcs).bind fun _ => asks_done

theorem acceptLaunch_asks (r : LaunchRequest) :
    (acceptLaunch r).Asks (Act.OfCommand (.launch r)) := by
  unfold acceptLaunch
  split
  · exact asks_done
  · exact Asks.bind (asks_query.mpr (.launch r)) fun _ => asks_done

theorem perform_asks (command : Command) : command.perform.Asks (Act.OfCommand command) := by
  cases command with
  | health => exact asks_done
  | heartbeat h =>
    exact ((Activity.heartbeat_asks h).mono fun _ => .heartbeat).bind fun _ => asks_done
  | launch r => exact acceptLaunch_asks r
  | stopAgents cs => exact (stopAgents_asks (List.Subset.refl _)).bind fun _ => asks_done
  | cleanup e =>
    refine Asks.bind (asks_query.mpr (.clean e)) fun cleaned => ?_
    cases cleaned with
    | error _ => exact asks_done
    | ok _ => exact Asks.bind (asks_query.mpr (.remove e)) fun _ => asks_done

end Api

/-- No activity asks anything that is not in its scope. -/
theorem Cause.activity_asks (s : Settings) (cause : Cause) :
    (cause.activity s).Asks (cause.Scope s) := by
  cases cause with
  | request command => exact (Api.perform_asks command).bind fun _ => asks_done
  | turn routine now =>
    cases routine with
    | watch => exact (Activity.watch_asks s.liveness now).bind fun _ => asks_done
    | prune => exact Activity.prune_asks
  | job job =>
    cases job with
    | supervise e c => exact (Activity.supervise_asks s e c).bind fun _ => asks_done
    | launch r => exact (Activity.launch_asks s r).bind fun _ => asks_done

namespace Fleet

variable {s : Settings} {moves : List Move} {ev : Event}

theorem scope_of_mem (hlog : ev ∈ (after s moves).log) : ev.cause.Scope s ev.act := by
  have hkept : Rule.Kept s fun cause _ act => cause.Scope s act := fun cause =>
    (cause.activity_asks s).keeps (fun _ _ hact _ => hact) (fun _ _ _ _ => id) trivial
  obtain ⟨newer, older, heq⟩ := List.append_of_mem hlog
  exact (traced_after hkept moves).obeyed ev older ⟨newer, heq.symm⟩

end Fleet

end AgentFleet
