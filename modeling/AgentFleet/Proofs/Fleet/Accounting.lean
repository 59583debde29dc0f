import AgentFleet.Proofs.Fleet.Passing

/-!
That no execution is lost track of. Heartbeats, launches, passes and the ends of waits are taken as
single steps, at each of which no time passes. A step that leaves an execution without containers
finalizes it, or found it finalized, or it is the failed launch of that execution, which is undone.
Heartbeats do not remove anything. Passes finalize what they have emptied; a wait finalizes the
execution it was started for, so here it matters that a container belongs to one execution only.
-/

namespace AgentFleet

open Procedure Activity

def Outcome.operation (c : ContainerId) : Outcome → Tracker.Operation
  | stopped => .delete c
  | timedOut => .markCrashed c

namespace Activity

def resolve (s : Settings) (e : ExecutionId) (c : ContainerId) (outcome : Outcome) :
    Activity Outcome := do
  let _ ← tracker (outcome.operation c)
  let _ ← finalize s.liveness e .completed
  return outcome

/-- To supervise a container is to wait, and then to draw the consequences. -/
theorem supervise_eq (s : Settings) (e : ExecutionId) (c : ContainerId) :
    supervise s e c = (do
      let start ← clock
      let deadline := start.timer + s.shutdown.timeoutSeconds * 1000
      let outcome ← awaitStop s.shutdown c deadline s.shutdown.maxChecks
      resolve s e c outcome) := by
  refine bind_congr fun start => bind_congr fun outcome => ?_
  cases outcome <;> rfl

end Activity

inductive Step where
  | heartbeat (h : Heartbeat)
  | launch (r : LaunchRequest)
  | pass (now : Instant)
  /-- A wait for a container comes to its end. -/
  | settle (e : ExecutionId) (c : ContainerId) (outcome : Outcome)

def Step.activity (s : Settings) : Step → Activity Unit
  | heartbeat h => discard (Activity.heartbeat h)
  | launch r => discard (Activity.launch s r)
  | pass now => discard (Activity.watch s.liveness now)
  | settle e c outcome => discard (Activity.resolve s e c outcome)

/-- A launch that fails is undone: the execution is reported as failed, what was created for it is
removed, and no container of it is tracked. -/
def Undoes (e : ExecutionId) (asked : List Asked) : Prop :=
  (∃ reason, .reportExecution e .error reason ∈ backendCalls asked) ∧ .cleanup e ∈ runnerCalls asked

structure Taken where
  step : Step
  clock : Clock
  before : Service
  asked : List Asked
  after : Service

namespace Taken

/-- Nothing else has happened during the step, and no time has passed. -/
structure Goes (s : Settings) (x : Taken) : Prop where
  proceeds : (x.step.activity s).Proceeds x.before x.asked () x.after
  atOnce : AtOnce x.clock x.asked

/-- The step has begun to wait for the container's end. -/
def Supervises (x : Taken) (e : ExecutionId) (c : ContainerId) : Prop :=
  ∃ q ∈ x.asked, q.act = .spawn (.supervise e c)

/-- In what the step was given, each container belongs to its home. -/
structure Fits (home : ContainerId → ExecutionId) (x : Taken) : Prop where
  beat : ∀ h, x.step = .heartbeat h → home h.agentId = h.executionId
  created : ∀ clock e plan n (cs : List ContainerId),
    (⟨clock, .runner (.create e plan n), .ok cs⟩ : Asked) ∈ x.asked → ∀ c ∈ cs, home c = e

/-- The execution was finalized in the step or before, or the step is a launch of the execution that
has failed and was undone. -/
def Accounts (s : Settings) (x : Taken) (e : ExecutionId) : Prop :=
  (x.after.isFinalized s.liveness.retention x.clock e = true ∧
    (x.before.isFinalized s.liveness.retention x.clock e = true ∨
      ∃ ending, Concludes e ending x.asked)) ∨
  ∃ r, x.step = .launch r ∧ r.executionId = e ∧ Undoes e x.asked

end Taken

/-- Only what was begun comes to its end. -/
def Step.Due (log : List Taken) : Step → Prop
  | settle e c _ => ∃ x ∈ log, x.Supervises e c
  | _ => True

/-- Steps that were taken one after another since the service came up, the last one first. -/
inductive Journey (s : Settings) : List Taken → Service → Prop
  | start : Journey s [] {}
  | onward {log : List Taken} {x : Taken} : Journey s log x.before → x.step.Due log → x.Goes s →
    Journey s (x :: log) x.after

section Steps

variable {s : Settings} {home : ContainerId → ExecutionId} {before after : Service}
  {asked : List Asked} {clock : Clock} {e : ExecutionId} {c : ContainerId} {α : Type}
  {p : Activity α} {value : α}

/-! ### What keeps containers, and where they belong -/

theorem Act.eq_of_mem_operations {act : Act} {op : Tracker.Operation}
    (h : op ∈ act.operations) : act = .memory (.tracker op) := by
  unfold Act.operations at h
  split at h
  next => rw [List.mem_singleton.mp h]
  next => cases h

def Act.KeepsContainers (act : Act) : Prop :=
  ∀ op ∈ act.operations, ∀ c known, op.affect c (some known) ≠ none

/-- Each container that becomes known belongs to its home. -/
def Act.TracksAtHome (home : ContainerId → ExecutionId) (act : Act) : Prop :=
  ∀ e c time, act = .memory (.tracker (.upsert e c time)) → home c = e

def Tracker.AtHome (home : ContainerId → ExecutionId) (t : Tracker) : Prop :=
  ∀ c known, t.standing c = some known → known.owner = home c

theorem Procedure.Proceeds.executions_kept (h : p.Proceeds before asked value after)
    (hcons : before.tracker.Consistent) (hkeep : ∀ x ∈ asked, x.act.KeepsContainers)
    (he : e ∈ before.tracker.executions) : e ∈ after.tracker.executions := by
  obtain ⟨c, known, hc, ho⟩ := hcons.mem_executions_iff_standing.mp he
  refine (h.consistent hcons).mem_executions_iff_standing.mpr ⟨c, ?_⟩
  refine h.standing_of (I := fun s => ∃ known, s = some known ∧ known.owner = e) hcons ?_
    ⟨known, hc, ho⟩
  rintro x hx op hop _ ⟨known, rfl, ho⟩
  obtain ⟨known', hknown'⟩ := Option.ne_none_iff_exists'.mp (hkeep x hx op hop c known)
  exact ⟨known', hknown', (Tracker.live_affect hknown').1.trans ho⟩

theorem Procedure.Proceeds.atHome (h : p.Proceeds before asked value after)
    (hcons : before.tracker.Consistent) (htrack : ∀ x ∈ asked, x.act.TracksAtHome home)
    (hhome : before.tracker.AtHome home) : after.tracker.AtHome home := by
  intro c
  refine h.standing_of (I := fun s => ∀ known, s = some known → known.owner = home c) hcons ?_
    (hhome c)
  intro x hx op hop known hknown known' hknown'
  cases known with
  | none =>
    obtain ⟨e, time, rfl, rfl⟩ := Tracker.registered_of_affect_none hknown'
    exact (htrack x hx e c time (Act.eq_of_mem_operations hop)).symm
  | some known => exact (Tracker.live_affect hknown').1.trans (hknown known rfl)

theorem Act.keepsContainers_of_affect {act : Act}
    (h : ∀ op c known, act = .memory (.tracker op) → (op.affect c (some known)).isSome) :
    act.KeepsContainers := by
  intro op hop c known hnone
  have hsome := h op c known (Act.eq_of_mem_operations hop)
  rw [hnone] at hsome
  cases hsome

theorem Act.OfHeartbeat.keepsContainers {h : Heartbeat} {act : Act} (hact : act.OfHeartbeat h) :
    act.KeepsContainers := by
  refine Act.keepsContainers_of_affect ?_
  rintro op c known rfl
  cases hact <;> simp only [Tracker.Operation.affect] <;> split <;> rfl

theorem Act.OfProvision.keepsContainers {r : LaunchRequest} {act : Act}
    (hact : act.OfProvision s r) : act.KeepsContainers := by
  refine Act.keepsContainers_of_affect ?_
  rintro op c known rfl
  cases hact
  simp only [Tracker.Operation.affect]
  split <;> rfl

theorem Act.OfHandling.keepsContainers {now : Instant} {cs : List ContainerId} {act : Act}
    (hact : act.OfHandling now cs) : act.KeepsContainers := by
  refine Act.keepsContainers_of_affect ?_
  rintro op c known rfl
  cases hact
  simp only [Tracker.Operation.affect]
  split <;> rfl

theorem Act.OfHeartbeat.tracksAtHome {h : Heartbeat} {act : Act} (hact : act.OfHeartbeat h)
    (hhome : home h.agentId = h.executionId) : act.TracksAtHome home := by
  rintro e c time rfl
  cases hact
  exact hhome

theorem Act.OfPass.tracksAtHome {s : LivenessSettings} {now : Instant} {act : Act}
    (hact : act.OfPass s now) : act.TracksAtHome home := by
  rintro e c time rfl
  cases hact with
  | handling hact => cases hact
  | ending hact => cases hact

theorem Act.OfSupervision.tracksAtHome {act : Act} (hact : act.OfSupervision s e c) :
    act.TracksAtHome home := by
  rintro e c time rfl
  cases hact with
  | wait hact => cases hact
  | ending hact => cases hact

/-! ### Launches -/

section Launches

variable {r : LaunchRequest} {result : Except Fault (List ContainerId)}

namespace Attempt

def establish (r : LaunchRequest) (cs : List ContainerId) : Attempt (List ContainerId) := do
  let e := r.executionId
  let _ ← runner (.start e)
  let now ← lift Activity.clock
  trackAll e now.wall cs
  let _ ← backend (.addAgents e cs)
  let _ ← backend (.reportExecution e .running none)
  return cs

theorem provision_refused {refusal : LaunchRequest.Refusal} (hno : r.check = .error refusal)
    (h : (provision s r).run.Proceeds before asked result after) :
    asked = [] ∧ result = .error refusal.fault := by
  obtain ⟨checked, _, _, _, rfl, hchecked, h⟩ := proceeds_run_bind.mp h
  obtain ⟨rfl, rfl, rfl⟩ := proceeds_ofExcept.mp hchecked
  rw [hno] at h
  exact ⟨h.1, h.2.1.symm⟩

theorem provision_accepted (hok : r.check = .ok ())
    (h : (provision s r).run.Proceeds before asked result after) :
    ∃ (clock : Clock) (answer : Except Fault (List ContainerId)) (later : List Asked),
      asked = ⟨clock, .runner (.create r.executionId (r.plan s.agent s.engine) r.replicas),
        answer⟩ :: later ∧
      match answer with
      | .ok cs => (establish r cs).run.Proceeds before later result after
      | .error cause => later = [] ∧ result = .error cause := by
  obtain ⟨checked, _, _, _, rfl, hchecked, h⟩ := proceeds_run_bind.mp h
  obtain ⟨rfl, rfl, rfl⟩ := proceeds_ofExcept.mp hchecked
  rw [hok] at h
  obtain ⟨_, _, _, later, rfl, ⟨clock, answer, _, rfl, rfl, rfl, rfl⟩, h⟩ :=
    proceeds_run_bind.mp h
  refine ⟨clock, answer, later, rfl, ?_⟩
  cases answer with
  | ok cs => exact h
  | error cause => exact ⟨h.1, h.2.1.symm⟩

theorem establish_tracksAtHome {cs : List ContainerId} (hhome : ∀ c ∈ cs, home c = r.executionId) :
    (establish r cs).run.Asks (Act.TracksAtHome home) := by
  refine (asks_runner.mpr fun e c time => nofun).run_bind fun _ => ?_
  refine (asks_lift (asks_query.mpr fun e c time => nofun)).run_bind fun now => ?_
  have htracked : (trackAll r.executionId now.wall cs).run.Asks (Act.TracksAtHome home) := by
    refine trackAll_asks fun c hc e d time heq => ?_
    cases heq
    exact hhome c hc
  refine htracked.run_bind fun _ => ?_
  refine (asks_backend.mpr fun e c time => nofun).run_bind fun _ => ?_
  exact (asks_backend.mpr fun e c time => nofun).run_bind fun _ => asks_pure

end Attempt

/-- A launch tracks only containers that were created for it. -/
theorem provision_tracksAtHome (h : (Attempt.provision s r).run.Proceeds before asked result after)
    (hcreated : ∀ clock e plan n (cs : List ContainerId),
      (⟨clock, .runner (.create e plan n), .ok cs⟩ : Asked) ∈ asked → ∀ c ∈ cs, home c = e) :
    ∀ x ∈ asked, x.act.TracksAtHome home := by
  cases hcheck : r.check with
  | error refusal =>
    obtain ⟨rfl, -⟩ := Attempt.provision_refused hcheck h
    exact List.forall_mem_nil _
  | ok =>
    obtain ⟨clock, answer, later, rfl, hlater⟩ := Attempt.provision_accepted hcheck h
    refine List.forall_mem_cons.mpr ⟨fun e c time => nofun, ?_⟩
    cases answer with
    | error cause =>
      obtain ⟨rfl, -⟩ := hlater
      exact List.forall_mem_nil _
    | ok cs =>
      have hhome := hcreated clock _ _ _ cs List.mem_cons_self
      exact (Attempt.establish_tracksAtHome hhome).of_proceeds hlater

/-- A launch notes that it has begun, provides containers, undoes that if it has failed, and takes
its note away. -/
theorem launch_parts (h : (launch s r).Proceeds before asked result after) :
    ∃ clock clock' provision undone provided middle,
      asked = ⟨clock, .memory (.beginLaunch r.executionId), ()⟩ ::
        (provision ++ (undone ++ [⟨clock', .memory (.endLaunch r.executionId), ()⟩])) ∧
      (Attempt.provision s r).run.Proceeds
        { before with launching := before.launching.insert r.executionId } provision result
        provided ∧
      after = { middle with launching := middle.launching.erase r.executionId } ∧
      match result with
      | .ok _ => undone = [] ∧ middle = provided
      | .error cause => (abort r.executionId cause).Proceeds provided undone () middle := by
  obtain ⟨clock, _, _, rfl, hbegun⟩ := proceeds_act_bind.mp h
  obtain ⟨result', provided, provision, rest, rfl, hprovision, hrest⟩ := proceeds_bind.mp hbegun
  cases result' with
  | ok cs =>
    obtain ⟨clock', _, _, rfl, rfl, rfl, rfl⟩ := hrest
    exact ⟨clock, clock', provision, [], provided, provided, rfl, hprovision, rfl, rfl, rfl⟩
  | error cause =>
    obtain ⟨_, middle, undone, _, rfl, habort, clock', _, _, rfl, rfl, rfl, rfl⟩ :=
      proceeds_bind.mp hrest
    exact ⟨clock, clock', provision, undone, provided, middle, rfl, hprovision, rfl, habort⟩

theorem abort_proceeds {cause : Fault} (h : (abort e cause).Proceeds before asked () after) :
    (∃ clock clock' clock'' reported removed cleaned,
      asked = [⟨clock, .backend (.reportExecution e .error (some cause.message)), reported⟩,
        ⟨clock', .memory (.tracker (.deleteExecution e)), removed⟩,
        ⟨clock'', .runner (.cleanup e), cleaned⟩]) ∧
      after = { before with tracker := before.tracker.deleteExecution e } := by
  obtain ⟨clock, reported, _, rfl, clock', _, _, rfl, clock'', cleaned, _, rfl, rfl, -, rfl⟩ := h
  exact ⟨⟨clock, clock', clock'', reported, _, cleaned, rfl⟩, rfl⟩

/-- What a launch does beyond providing containers, and what it makes of the tracker. -/
theorem launch_proceeds (h : (launch s r).Proceeds before asked result after) :
    ∃ time provision rest provided,
      asked = ⟨time, .memory (.beginLaunch r.executionId), ()⟩ :: (provision ++ rest) ∧
      (Attempt.provision s r).run.Proceeds
        { before with launching := before.launching.insert r.executionId } provision result
        provided ∧
      (∀ home, ∀ x ∈ rest, x.act.TracksAtHome home) ∧
      (after.tracker = provided.tracker ∨
        Undoes r.executionId rest ∧
          after.tracker = provided.tracker.deleteExecution r.executionId) := by
  obtain ⟨time, _, provision, _, provided, _, rfl, hprovision, rfl, hundone⟩ := launch_parts h
  refine ⟨time, provision, _, provided, rfl, hprovision, ?_⟩
  cases result with
  | ok cs =>
    obtain ⟨rfl, rfl⟩ := hundone
    exact ⟨fun home => List.forall_mem_singleton.mpr fun e c time => nofun, .inl rfl⟩
  | error cause =>
    obtain ⟨⟨_, _, _, _, _, _, rfl⟩, rfl⟩ := abort_proceeds hundone
    refine ⟨?_, .inr ⟨⟨⟨_, List.mem_cons_self⟩, List.mem_cons_self⟩, rfl⟩⟩
    simp [Act.TracksAtHome]

end Launches

/-! ### What becomes of an execution that a step leaves without containers -/

theorem Undoes.of_append (h : Undoes e asked) (earlier : List Asked) :
    Undoes e (earlier ++ asked) := by
  unfold Undoes
  rw [backendCalls_append, runnerCalls_append]
  exact ⟨h.1.imp fun _ => List.mem_append_right _, List.mem_append_right _ h.2⟩

theorem heartbeat_keeps {h : Heartbeat} {answer : Answer}
    (hgo : (heartbeat h).Proceeds before asked answer after) (hcons : before.tracker.Consistent)
    (he : e ∈ before.tracker.executions) : e ∈ after.tracker.executions :=
  hgo.executions_kept hcons
    (fun x hx => ((heartbeat_asks h).of_proceeds hgo x hx).keepsContainers) he

theorem launch_undoes {r : LaunchRequest} {result : Except Fault (List ContainerId)}
    (hgo : (launch s r).Proceeds before asked result after) (hcons : before.tracker.Consistent)
    (he : e ∈ before.tracker.executions) (hgone : e ∉ after.tracker.executions) :
    r.executionId = e ∧ Undoes e asked := by
  obtain ⟨time, provision, rest, provided, rfl, hprovision, -, hrest⟩ :=
    launch_proceeds hgo
  have hkept : e ∈ provided.tracker.executions := hprovision.executions_kept hcons
    (fun x hx => ((Attempt.provision_asks s r).of_proceeds hprovision x hx).keepsContainers) he
  rcases hrest with hsame | ⟨hundoes, hsame⟩ <;> rw [hsame] at hgone
  · exact (hgone hkept).elim
  · obtain rfl := (hprovision.consistent hcons).eq_of_emptied_deleteExecution hkept hgone
    exact ⟨rfl, hundoes.of_append (_ :: provision)⟩

theorem Concludes.of_subset {ending : Ending} {part : List Asked} (h : Concludes e ending part)
    (hbackend : backendCalls part ⊆ backendCalls asked)
    (hrunner : runnerCalls part ⊆ runnerCalls asked) : Concludes e ending asked :=
  ⟨hbackend h.1, hrunner h.2⟩

/-- What is done about crashes leaves no execution without containers, and finalizes none. -/
theorem handling_keeps {now : Instant} {cs : List ContainerId}
    (h : (if cs ≠ [] then handleCrashed now cs else pure ()).Proceeds before asked () after)
    (hcons : before.tracker.Consistent) :
    after.tracker.Consistent ∧ after.finalized = before.finalized ∧
      (e ∈ before.tracker.executions → e ∈ after.tracker.executions) := by
  split at h
  · refine ⟨h.consistent hcons, ?_, h.executions_kept hcons
      fun x hx => ((handleCrashed_asks now cs).of_proceeds h x hx).keepsContainers⟩
    rw [(handleCrashed_proceeds h).2.2]
  · obtain ⟨-, -, rfl⟩ := h
    exact ⟨hcons, rfl, id⟩

theorem Service.isFinalized_congr {service service' : Service} {retention : Nat}
    (h : service'.finalized = service.finalized) :
    service'.isFinalized retention clock e = service.isFinalized retention clock e := by
  unfold Service.isFinalized
  rw [h]

theorem pass_finalizes {s : LivenessSettings} {now : Instant} {summary : Tracker.Summary}
    (hgo : (watch s now).Proceeds before asked summary after) (hat : AtOnce clock asked)
    (hcons : before.tracker.Consistent) (he : e ∈ before.tracker.executions)
    (hgone : e ∉ after.tracker.executions) :
    after.isFinalized s.retention clock e = true ∧
      (before.isFinalized s.retention clock e = true ∨ ∃ ending, Concludes e ending asked) := by
  obtain ⟨looks, completions, handling, losses, stopped, time, settled, handled, h, hparts⟩ :=
    watch_proceeds hgo
  obtain ⟨rfl, hatCompletions, -, hatLosses⟩ := hparts.atOnce clock hat
  have hsweptCons : (before.tracker.sweep s.staleness (stopped.contains ·) now).1.Consistent :=
    hcons.sweep_spec.1
  obtain ⟨hhandledCons, hhandledSame, hhandledKeeps⟩ :=
    handling_keeps (e := e) h.handling (h.completions.consistent hsweptCons)
  -- What was finalized when the executions were completed that the sweep had emptied stays so.
  have hstays : settled.isFinalized s.retention time e = true →
      after.isFinalized s.retention time e = true := by
    intro hdone
    rw [← Service.isFinalized_congr hhandledSame] at hdone
    exact h.losses.isFinalized_mono hatLosses hdone
  have hcompleted : ∀ {ending}, Concludes e ending completions → Concludes e ending asked := by
    intro ending hends
    refine hends.of_subset ?_ ?_
    · rw [hparts.backendCalls, List.append_assoc]
      exact List.subset_append_left _ _
    · rw [hparts.runnerCalls, List.append_assoc, List.append_assoc]
      exact List.subset_append_of_subset_right _ (List.subset_append_left _ _)
  by_cases hswept : e ∈ (before.tracker.sweep s.staleness (stopped.contains ·) now).1.executions
  · by_cases hsettled : e ∈ settled.tracker.executions
    · obtain ⟨hdone, hends⟩ :=
        h.losses.of_dropped hatLosses hhandledCons (hhandledKeeps hsettled) hgone
      refine ⟨hdone, .inr ⟨_, hends.of_subset ?_ ?_⟩⟩
      · rw [hparts.backendCalls]
        exact List.subset_append_right _ _
      · rw [hparts.runnerCalls]
        exact List.subset_append_right _ _
    · obtain ⟨hdone, hends⟩ := h.completions.of_dropped hatCompletions hsweptCons hswept hsettled
      exact ⟨hstays hdone, .inr ⟨_, hcompleted hends⟩⟩
  · have hemptied : e ∈ summary.emptied := by
      rw [h.summary_eq]
      exact hcons.mem_emptied_iff.mpr ⟨he, hswept⟩
    obtain ⟨hdone, hends⟩ :=
      h.completions.of_untracked hatCompletions hsweptCons hemptied hswept
    refine ⟨hstays hdone, hends.imp (fun hold => ?_) fun hends => ⟨_, hcompleted hends⟩⟩
    exact Service.isFinalized_forgetExpired.mp hold

/-- The end of a wait concerns the execution that the container belongs to, and no other. -/
theorem settle_finalizes {outcome result : Outcome} {e' : ExecutionId}
    (hgo : (resolve s e c outcome).Proceeds before asked result after) (hat : AtOnce clock asked)
    (hcons : before.tracker.Consistent)
    (hhome : ∀ known, before.tracker.standing c = some known → known.owner = e)
    (he : e' ∈ before.tracker.executions) (hgone : e' ∉ after.tracker.executions) :
    after.isFinalized s.liveness.retention clock e' = true ∧
      (before.isFinalized s.liveness.retention clock e' = true ∨
        ∃ ending, Concludes e' ending asked) := by
  obtain ⟨time, _, rfl, hnoted⟩ := Proceeds.of_tracker_bind hgo
  obtain ⟨_, _, ending, _, rfl, hending, rfl, rfl, rfl⟩ := proceeds_bind.mp hnoted
  rw [List.append_nil] at hat ⊢
  have hatEnding : AtOnce clock ending := (List.forall_mem_cons.mp hat).2
  have hends := finalize_proceeds hending
  have hnotedCons : ((outcome.operation c).apply before.tracker).2.Consistent := hcons.apply _
  by_cases hleft : e' ∈ ((outcome.operation c).apply before.tracker).2.executions
  · obtain ⟨rfl, hdone, hconcludes⟩ := hends.of_dropped hatEnding hnotedCons hleft hgone
    exact ⟨hdone, .inr ⟨_, hconcludes.append_left [_]⟩⟩
  · cases outcome with
    | stopped =>
      obtain ⟨known, hknown, rfl⟩ := hcons.owner_of_emptied_delete he hleft
      obtain rfl := hhome known hknown
      obtain ⟨hdone, hearlier⟩ := hends.isFinalized hatEnding (Ending.not_hinderedBy hleft)
      exact ⟨hdone, hearlier.imp_right fun hconcludes => ⟨_, hconcludes.append_left [_]⟩⟩
    | timedOut =>
      obtain ⟨d, known, -, -, hnone⟩ := hcons.exists_removed he hleft
      simp only [Outcome.operation, Tracker.Operation.affect] at hnone
      split at hnone <;> cases hnone

end Steps

theorem resolve_asks (s : Settings) (e : ExecutionId) (c : ContainerId) (outcome : Outcome) :
    (resolve s e c outcome).Asks (Act.OfSupervision s e c) := by
  have hnoted : Act.OfSupervision s e c (.memory (.tracker (outcome.operation c))) := by
    cases outcome with
    | stopped => exact .drop
    | timedOut => exact .crash
  refine Asks.bind (asks_query.mpr hnoted) fun _ => ?_
  exact ((finalize_asks s.liveness e .completed).mono fun _ => .ending).bind fun _ => asks_done

/-! ### Steps -/

namespace Taken

variable {s : Settings} {home : ContainerId → ExecutionId} {x : Taken} {e : ExecutionId}
  {c : ContainerId}

theorem Goes.tracksAtHome (h : x.Goes s) (hfits : x.Fits home) :
    ∀ q ∈ x.asked, q.act.TracksAtHome home := by
  obtain ⟨step, clock, before, asked, after⟩ := x
  obtain ⟨hgo, -⟩ := h
  intro q hq
  cases step with
  | heartbeat beat =>
    obtain ⟨answer, hgo⟩ := proceeds_discard.mp hgo
    exact ((heartbeat_asks beat).of_proceeds hgo q hq).tracksAtHome (hfits.beat beat rfl)
  | launch r =>
    obtain ⟨result, hgo⟩ := proceeds_discard.mp hgo
    obtain ⟨time, provision, rest, provided, rfl, hprovision, hrest, -⟩ := launch_proceeds hgo
    rcases List.mem_cons.mp hq with rfl | hq
    · exact fun e c time => nofun
    rcases List.mem_append.mp hq with hq | hq
    · refine provision_tracksAtHome hprovision (fun clock e plan n cs hmem => ?_) q hq
      exact hfits.created clock e plan n cs (List.mem_cons_of_mem _ (List.mem_append_left _ hmem))
    · exact hrest home q hq
  | pass now =>
    obtain ⟨summary, hgo⟩ := proceeds_discard.mp hgo
    exact ((watch_asks s.liveness now).of_proceeds hgo q hq).tracksAtHome
  | settle e c outcome =>
    obtain ⟨result, hgo⟩ := proceeds_discard.mp hgo
    exact ((resolve_asks s e c outcome).of_proceeds hgo q hq).tracksAtHome

/-- Only heartbeats begin to wait for a container, and for the end of its execution. -/
theorem Goes.supervises_home (h : x.Goes s) (hfits : x.Fits home) (hwait : x.Supervises e c) :
    home c = e := by
  obtain ⟨step, clock, before, asked, after⟩ := x
  obtain ⟨hgo, -⟩ := h
  obtain ⟨⟨time, act, answer⟩, hq, rfl⟩ := hwait
  cases step with
  | heartbeat beat =>
    obtain ⟨_, hgo⟩ := proceeds_discard.mp hgo
    cases (heartbeat_asks beat).of_proceeds hgo _ hq
    exact hfits.beat beat rfl
  | launch r =>
    obtain ⟨_, hgo⟩ := proceeds_discard.mp hgo
    exact ((launch_asks s r).of_proceeds hgo _ hq).isOrdinary.2.elim
  | pass now =>
    obtain ⟨_, hgo⟩ := proceeds_discard.mp hgo
    exact ((watch_asks s.liveness now).of_proceeds hgo _ hq).isUpkeep.elim
  | settle e c outcome =>
    obtain ⟨_, hgo⟩ := proceeds_discard.mp hgo
    exact ((resolve_asks s e c outcome).of_proceeds hgo _ hq).isOrdinary.2.elim

theorem Goes.accounts (h : x.Goes s) (hcons : x.before.tracker.Consistent)
    (hhome : x.before.tracker.AtHome home)
    (hdue : ∀ e c outcome, x.step = .settle e c outcome → home c = e)
    (he : e ∈ x.before.tracker.executions) (hgone : e ∉ x.after.tracker.executions) :
    x.Accounts s e := by
  obtain ⟨step, clock, before, asked, after⟩ := x
  obtain ⟨hgo, hat⟩ := h
  cases step with
  | heartbeat beat =>
    obtain ⟨answer, hgo⟩ := proceeds_discard.mp hgo
    exact (hgone (heartbeat_keeps hgo hcons he)).elim
  | launch r =>
    obtain ⟨result, hgo⟩ := proceeds_discard.mp hgo
    exact .inr ⟨r, rfl, launch_undoes hgo hcons he hgone⟩
  | pass now =>
    obtain ⟨summary, hgo⟩ := proceeds_discard.mp hgo
    exact .inl (pass_finalizes hgo hat hcons he hgone)
  | settle e' c outcome =>
    obtain ⟨result, hgo⟩ := proceeds_discard.mp hgo
    have howner : ∀ known, before.tracker.standing c = some known → known.owner = e' :=
      fun known hknown => (hhome c known hknown).trans (hdue e' c outcome rfl)
    exact .inl (settle_finalizes hgo hat hcons howner he hgone)

end Taken

theorem Taken.Fits.of_runnerCalls {home : ContainerId → ExecutionId} {x : Taken}
    (hbeat : ∀ h, x.step = .heartbeat h → home h.agentId = h.executionId)
    (hnone : ∀ e plan n, .create e plan n ∉ runnerCalls x.asked) : x.Fits home where
  beat := hbeat
  created _ e plan n _ hmem := (hnone e plan n (List.mem_filterMap.mpr ⟨_, hmem, rfl⟩)).elim

/-! ### Journeys -/

section Journeys

variable {s : Settings} {home : ContainerId → ExecutionId} {log : List Taken} {service : Service}

/-- Along a journey every container is tracked at home, and waited for at home. -/
theorem Journey.atHome (h : Journey s log service) (hfits : ∀ x ∈ log, x.Fits home) :
    service.tracker.Consistent ∧ service.tracker.AtHome home ∧
      ∀ x ∈ log, ∀ e c, x.Supervises e c → home c = e := by
  induction h with
  | start => exact ⟨Tracker.Consistent.empty, fun c known => nofun, List.forall_mem_nil _⟩
  | onward _ _ hgo ih =>
    obtain ⟨hfit, hfits⟩ := List.forall_mem_cons.mp hfits
    obtain ⟨hcons, hhome, hwaits⟩ := ih hfits
    exact ⟨hgo.proceeds.consistent hcons, hgo.proceeds.atHome hcons (hgo.tracksAtHome hfit) hhome,
      List.forall_mem_cons.mpr ⟨fun e c => hgo.supervises_home hfit, hwaits⟩⟩

/-- Whatever steps are taken and whatever fails in them, as long as no container turns up in two
executions: a step that leaves an execution without containers accounts for it. -/
theorem no_execution_vanishes (h : Journey s log service) (hfits : ∀ x ∈ log, x.Fits home) :
    ∀ x ∈ log, ∀ e, e ∈ x.before.tracker.executions → e ∉ x.after.tracker.executions →
      x.Accounts s e := by
  induction h with
  | start => exact List.forall_mem_nil _
  | onward hearlier hdue hgo ih =>
    obtain ⟨-, hfits⟩ := List.forall_mem_cons.mp hfits
    obtain ⟨hcons, hhome, hwaits⟩ := hearlier.atHome hfits
    refine List.forall_mem_cons.mpr ⟨fun e => hgo.accounts hcons hhome ?_, ih hfits⟩
    intro e c outcome hstep
    rw [hstep] at hdue
    obtain ⟨x, hx, hwait⟩ := hdue
    exact hwaits x hx e c hwait

end Journeys

def Step.take (s : Settings) (script : Rehearsal.Script) (step : Step) (before : Service) :
    Taken where
  step := step
  clock := ⟨0, 0, 0⟩
  before := before
  asked := (step.activity s).asksAlone ⟨0, 0, 0⟩ script.reply before
  after := ((step.activity s).alone ⟨0, 0, 0⟩ script.reply before).service

theorem Step.goes_take (s : Settings) (script : Rehearsal.Script) (step : Step)
    (before : Service) : (step.take s script before).Goes s :=
  ⟨proceeds_alone _ _ _ _, atOnce_asksAlone _ _ _ _⟩

def dismissal : Taken :=
  (Step.heartbeat ⟨"a", .idle, ⟨"e", 0⟩, ⟨0, 0⟩⟩).take Fleet.briefSettings {} {}

def departure : Taken :=
  (Step.settle "e" "a" .stopped).take Fleet.briefSettings {} dismissal.after

theorem no_execution_vanishes_departure :
    Journey Fleet.briefSettings [departure, dismissal] departure.after ∧
      (∀ x ∈ [departure, dismissal], x.Fits fun _ => "e") ∧
      "e" ∈ departure.before.tracker.executions ∧ "e" ∉ departure.after.tracker.executions ∧
      departure.Accounts Fleet.briefSettings "e" := by
  have hwaits : dismissal.Supervises "e" "a" := ⟨_, List.mem_of_getElem? (i := 6) rfl, rfl⟩
  have hgoes : Journey Fleet.briefSettings [departure, dismissal] departure.after :=
    .onward (.onward .start trivial (Step.goes_take ..))
      ⟨_, List.mem_singleton_self _, hwaits⟩ (Step.goes_take ..)
  have hfits : ∀ x ∈ [departure, dismissal], x.Fits fun _ => "e" := by
    have hdeparture : runnerCalls departure.asked = [.cleanup "e"] := rfl
    have hdismissal : runnerCalls dismissal.asked = [] := rfl
    refine List.forall_mem_cons.mpr ⟨.of_runnerCalls nofun ?_,
      List.forall_mem_singleton.mpr (.of_runnerCalls ?_ ?_)⟩
    · simp [hdeparture]
    · rintro _ ⟨⟩
      rfl
    · simp [hdismissal]
  have htracked : "e" ∈ departure.before.tracker.executions := by decide
  have hgone : "e" ∉ departure.after.tracker.executions := by decide
  exact ⟨hgoes, hfits, htracked, hgone,
    no_execution_vanishes hgoes hfits departure List.mem_cons_self "e" htracked hgone⟩

end AgentFleet
