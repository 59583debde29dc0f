import AgentFleet.Proofs.Engine.Inspection
import AgentFleet.Proofs.Fleet.Errands

/-!
What a pass learns from its looks at the containers. It looks at each container that is tracked, and
then sweeps as if those had stopped of which the engine said so, and also those for which a
complaint about something else was misread. So a pass that cannot reach the engine may take every
container for stopped.
-/

namespace AgentFleet

open Procedure Engine

variable {s : Settings} {suffixes : Suffixes} {now : Instant} {past later : Past Errand.Answer}

abbrev Look := ContainerId × Except String Output

def Look.errand (look : Look) : Sigma Errand.Answer :=
  ⟨.engine (.run (inspectState look.1)), look.2⟩

/-- A pass began with a look at each container that was tracked, and then swept as if these had
stopped. -/
def SweptBy (s : LivenessSettings) (now : Instant) (looks : List Look)
    (isStopped : ContainerId → Bool) (later : Past Errand.Answer) : Prop :=
  ∃ (forgotten : Nat) (summary : Tracker.Summary),
    ⟨.act (.memory (.tracker (.sweep s.staleness isStopped now))), summary⟩ ::
      ((looks.map Look.errand).reverse ++
        [⟨.act (.memory (.tracker .containers)), looks.map Prod.fst⟩,
          ⟨.act (.memory (.forgetExpired s.retention)), forgotten⟩]) <:+ later

namespace Activity

theorem ends_memory_bind {α : Type} {op : Local} {f : op.Answer → Activity α} {value : α} :
    ((act (.memory op) >>= f).run (Act.errands s.engine suffixes)).Ends past value later ↔
      ∃ answer, ((f answer).run (Act.errands s.engine suffixes)).Ends
        (⟨.act (.memory op), answer⟩ :: past) value later := Iff.rfl

theorem ends_look {c : ContainerId} {answer : Except Fault Bool} :
    (Act.errands s.engine suffixes (.runner (.isStopped c))).Ends past answer later ↔
      ∃ outcome, inspectResult s.engine outcome = answer ∧
        Look.errand (c, outcome) :: past = later := by
  change ((Session.isStopped s.engine c).run.run fun r => query (Errand.engine r)).Ends
    past answer later ↔ _
  rw [Session.run_isStopped]
  rfl

/-- The looks are taken in order, and a container counts as stopped if one of its looks was answered
so. -/
theorem stoppedAmong_looks {cs stopped : List ContainerId}
    (h : ((stoppedAmong cs).run (Act.errands s.engine suffixes)).Ends past stopped later) :
    ∃ looks : List Look, looks.map Prod.fst = cs ∧
      later = (looks.map Look.errand).reverse ++ past ∧
      ∀ c, c ∈ stopped ↔ ∃ outcome, (c, outcome) ∈ looks ∧
        inspectResult s.engine outcome = .ok true := by
  induction cs generalizing past stopped later with
  | nil =>
    obtain ⟨rfl, rfl⟩ := h
    exact ⟨[], rfl, rfl, by simp⟩
  | cons d cs ih =>
    obtain ⟨answer, looked, hlook, h⟩ := ends_replaced_query_bind.mp h
    obtain ⟨outcome, rfl, rfl⟩ := ends_look.mp hlook
    obtain ⟨rest, middle, hlooks, hlast⟩ := ends_replaced_bind.mp h
    obtain ⟨looks, rfl, rfl, hrest⟩ := ih hlooks
    have hlast : later = (looks.map Look.errand).reverse ++ Look.errand (d, outcome) :: past ∧
        ∀ c, c ∈ stopped ↔
          c = d ∧ inspectResult s.engine outcome = .ok true ∨ c ∈ rest := by
      generalize inspectResult s.engine outcome = answer at hlast
      rcases answer with fault | _ | _ <;> obtain ⟨rfl, rfl⟩ := hlast <;> simp
    obtain ⟨rfl, hstopped⟩ := hlast
    refine ⟨(d, outcome) :: looks, rfl, by simp, fun c => ?_⟩
    rw [hstopped, hrest]
    constructor
    · rintro (⟨rfl, hyes⟩ | ⟨outcome', hmem, hyes⟩)
      · exact ⟨outcome, List.mem_cons_self, hyes⟩
      · exact ⟨outcome', List.mem_cons_of_mem _ hmem, hyes⟩
    · rintro ⟨outcome', hmem, hyes⟩
      rcases List.mem_cons.mp hmem with heq | hmem
      · obtain ⟨rfl, rfl⟩ := Prod.mk.inj heq
        exact .inl ⟨rfl, hyes⟩
      · exact .inr ⟨outcome', hmem, hyes⟩

theorem watch_looks {summary : Tracker.Summary}
    (h : ((watch s.liveness now).run (Act.errands s.engine suffixes)).Ends [] summary later) :
    ∃ (looks : List Look) (stopped : List ContainerId),
      SweptBy s.liveness now looks (stopped.contains ·) later ∧
      ∀ c, c ∈ stopped ↔ ∃ outcome, (c, outcome) ∈ looks ∧
        inspectResult s.engine outcome = .ok true := by
  obtain ⟨forgotten, h⟩ := ends_memory_bind.mp h
  obtain ⟨containers, h⟩ := ends_memory_bind.mp h
  obtain ⟨stopped, looked, hlooks, h⟩ := ends_replaced_bind.mp h
  obtain ⟨summary, h⟩ := ends_memory_bind.mp h
  obtain ⟨looks, rfl, rfl, hstopped⟩ := stoppedAmong_looks hlooks
  exact ⟨looks, stopped, ⟨forgotten, summary, h.suffix⟩, hstopped⟩

end Activity

/-- A container counts as stopped in just two cases: the engine told so, or it failed with a
complaint about something else that is missing. All other looks at which the command fails bring an
error. So a pass to which nobody told that a container has stopped takes none for stopped, unless a
complaint was misread. -/
theorem stopped_trusted_iff (s : Settings) :
    (∀ (c : ContainerId) (result : Except Fault Bool) (later : Past Request.Answer),
      (Session.isStopped s.engine c).run.Ends [] result later →
      ∃ outcome, later = [⟨.run (inspectState c), outcome⟩] ∧
        (result = .ok true ↔ ToldStopped c outcome ∨ Misleading c outcome) ∧
        ((∃ fault, result = .error fault) ↔
          Failed outcome ∧ ¬ ToldStopped c outcome ∧ ¬ Misleading c outcome)) ∧
    ∀ (suffixes : Suffixes) (now : Instant) (later : Past Errand.Answer),
      ((Cause.turn .watch now).errands s suffixes).Ends [] () later →
      ∃ (looks : List Look) (isStopped : ContainerId → Bool),
        SweptBy s.liveness now looks isStopped later ∧
        (∀ c, isStopped c = true ↔ ∃ outcome, (c, outcome) ∈ looks ∧
          (ToldStopped c outcome ∨ Misleading c outcome)) ∧
        ((∀ look ∈ looks, ¬ ToldStopped look.1 look.2) →
          ((∀ c, isStopped c = false) ↔ ∀ look ∈ looks, ¬ Misleading look.1 look.2)) := by
  refine ⟨fun c result later h => ?_, fun suffixes now later h => ?_⟩
  · obtain ⟨outcome, rfl, rfl⟩ := Session.ends_isStopped.mp h
    exact ⟨outcome, rfl, inspectResult_eq_true_iff c, inspectResult_eq_error_iff c⟩
  · have hturn : ((Activity.watch s.liveness now >>= fun _ => .done ()).run
        (Act.errands s.engine suffixes)).Ends [] () later := h
    obtain ⟨summary, middle, hwatch, -, rfl⟩ := ends_replaced_bind.mp hturn
    obtain ⟨looks, stopped, hswept, hstopped⟩ := Activity.watch_looks hwatch
    have htold : ∀ c, stopped.contains c = true ↔ ∃ outcome, (c, outcome) ∈ looks ∧
        (ToldStopped c outcome ∨ Misleading c outcome) := by
      intro c
      rw [List.contains_iff_mem, hstopped]
      simp only [inspectResult_eq_true_iff c]
    refine ⟨looks, _, hswept, htold, fun huntold => ?_⟩
    simp only [Bool.eq_false_iff, ne_eq, htold]
    constructor
    · intro hnone look hlook hmisleading
      exact hnone look.1 ⟨look.2, hlook, .inr hmisleading⟩
    · rintro hclear c ⟨outcome, hlook, hyes⟩
      rcases hyes with htold | hmisleading
      · exact huntold (c, outcome) hlook htold
      · exact hclear (c, outcome) hlook hmisleading

def unreachable : Except String Output :=
  .ok ⟨false, "", "Cannot connect to the Docker daemon at unix:///var/run/docker.sock: " ++
    "dial unix /var/run/docker.sock: connect: no such file or directory\n"⟩

theorem failed_unreachable : Failed unreachable := fun _ heq => Except.ok.inj heq ▸ rfl

theorem not_toldStopped_unreachable (c : ContainerId) : ¬ ToldStopped c unreachable := by
  rintro (⟨output, heq, hsuccess, -⟩ | ⟨output, heq, -, hreport⟩)
  · cases (failed_unreachable output heq).symm.trans hsuccess
  · obtain rfl := Except.ok.inj heq
    obtain ⟨report, hmem, hmentions⟩ := hreport.exists_mentions
    revert report
    decide +kernel

theorem misleading_unreachable (c : ContainerId) : Misleading c unreachable := by
  refine ⟨_, rfl, rfl, by decide +kernel, fun hreport => ?_⟩
  exact not_toldStopped_unreachable c (.inr ⟨_, rfl, rfl, hreport⟩)

theorem inspectResult_unreachable (s : EngineSettings) : inspectResult s unreachable = .ok true :=
  (inspectResult_eq_true_iff "a").mpr (.inr (misleading_unreachable "a"))

theorem isStopped_ends_unreachable (s : EngineSettings) (c : ContainerId) :
    (Session.isStopped s c).run.Ends [] (.ok true) [⟨.run (inspectState c), unreachable⟩] :=
  Session.ends_isStopped.mpr ⟨unreachable, inspectResult_unreachable s, rfl⟩

def blindPass (s : LivenessSettings) (now : Instant) : Past Errand.Answer :=
  [⟨.act (.memory (.tracker .lost)), []⟩, ⟨.act (.memory (.tracker .crashed)), []⟩,
    ⟨.act (.memory (.tracker (.sweep s.staleness (["a"].contains ·) now))), {}⟩,
    Look.errand ("a", unreachable), ⟨.act (.memory (.tracker .containers)), ["a"]⟩,
    ⟨.act (.memory (.forgetExpired s.retention)), (0 : Nat)⟩]

theorem turn_ends_blindPass (s : Settings) (suffixes : Suffixes) (now : Instant) :
    ((Cause.turn .watch now).errands s suffixes).Ends [] () (blindPass s.liveness now) := by
  have hlooks (past : Past Errand.Answer) :
      ((Activity.stoppedAmong ["a"]).run (Act.errands s.engine suffixes)).Ends past ["a"]
        (Look.errand ("a", unreachable) :: past) := by
    refine ends_replaced_query_bind.mpr ⟨.ok true, Look.errand ("a", unreachable) :: past, ?_, ?_⟩
    · exact Activity.ends_look.mpr ⟨unreachable, inspectResult_unreachable s.engine, rfl⟩
    · exact ends_replaced_bind.mpr ⟨[], _, ⟨rfl, rfl⟩, ⟨rfl, rfl⟩⟩
  have hwatch : ((Activity.watch s.liveness now).run (Act.errands s.engine suffixes)).Ends [] {}
      (blindPass s.liveness now) := by
    refine Activity.ends_memory_bind.mpr ⟨(0 : Nat), ?_⟩
    refine Activity.ends_memory_bind.mpr ⟨["a"], ?_⟩
    refine ends_replaced_bind.mpr ⟨["a"], _, hlooks _, ?_⟩
    exact ⟨{}, [], [], rfl, rfl⟩
  exact ends_replaced_bind.mpr ⟨{}, _, hwatch, rfl, rfl⟩

theorem stopped_trusted_iff_blind :
    let s := Fleet.briefSettings
    let suffixes : Suffixes := ⟨fun _ => "00000000", fun _ => rfl⟩
    (Session.isStopped s.engine "a").run.Ends [] (.ok true)
      [⟨.run (inspectState "a"), unreachable⟩] ∧
    ((Cause.turn .watch 0).errands s suffixes).Ends [] () (blindPass s.liveness 0) ∧
    (ToldStopped "a" unreachable ∨ Misleading "a" unreachable) ∧
    ∃ (looks : List Look) (isStopped : ContainerId → Bool),
      SweptBy s.liveness 0 looks isStopped (blindPass s.liveness 0) ∧
      ((∀ look ∈ looks, ¬ ToldStopped look.1 look.2) →
        ((∀ c, isStopped c = false) ↔ ∀ look ∈ looks, ¬ Misleading look.1 look.2)) := by
  intro s suffixes
  obtain ⟨hsession, hpass⟩ := stopped_trusted_iff s
  have hends := isStopped_ends_unreachable s.engine "a"
  have hturn := turn_ends_blindPass s suffixes 0
  obtain ⟨outcome, heq, htrue, -⟩ := hsession _ _ _ hends
  obtain ⟨looks, isStopped, hswept, -, hnone⟩ := hpass _ _ _ hturn
  cases heq
  exact ⟨hends, hturn, htrue.mp rfl, looks, isStopped, hswept, hnone⟩

/-- The engine cannot be reached, and the container counts as stopped. -/
theorem unreachable_engine_taken_for_stopped :
    let s := Fleet.briefSettings
    let suffixes : Suffixes := ⟨fun _ => "00000000", fun _ => rfl⟩
    Failed unreachable ∧ ¬ ToldStopped "a" unreachable ∧
    (Session.isStopped s.engine "a").run.Ends [] (.ok true)
      [⟨.run (inspectState "a"), unreachable⟩] ∧
    ((Cause.turn .watch 0).errands s suffixes).Ends [] () (blindPass s.liveness 0) ∧
    ∃ isStopped, SweptBy s.liveness 0 [("a", unreachable)] isStopped (blindPass s.liveness 0) ∧
      isStopped "a" = true := by
  intro s suffixes
  refine ⟨failed_unreachable, not_toldStopped_unreachable "a",
    isStopped_ends_unreachable s.engine "a", turn_ends_blindPass s suffixes 0, ?_⟩
  exact ⟨(["a"].contains ·), ⟨0, {}, [_, _], rfl⟩, by decide⟩

end AgentFleet
