import AgentFleet.Proofs.Engine.Containers
import AgentFleet.Proofs.Engine.Session
import AgentFleet.Proofs.Fleet.Scope

/-!
What activities do command by command: each call of the runner is replaced by the session with the
engine that carries it out. Containers are created only under names that tell their execution, and a
turn of pruning removes containers only after it has read what to keep and seen a list, in this
order, and only candidates of that list.
-/

namespace AgentFleet

open Procedure

structure Suffixes where
  suffix : Nat → String
  length_eq : ∀ n, (suffix n).length = 8

def RunnerCall.session (s : EngineSettings) (suffix : Nat → String) :
    (call : RunnerCall) → Engine.Session call.Result
  | create e plan replicas => Engine.Session.create s e plan suffix replicas
  | start e => Engine.Session.start s e
  | stop e => Engine.Session.stop s e
  | stopAgent c => Engine.Session.stopAgent s c
  | isStopped c => Engine.Session.isStopped s c
  | cleanup e => Engine.Session.cleanup s e
  | prune keep => Engine.Session.prune s keep

/-- What an activity asks for when it carries out its calls of the runner itself. -/
inductive Errand where
  | act (a : Act)
  | engine (r : Engine.Request)

namespace Errand

def Answer : Errand → Type
  | act a => a.Answer
  | engine r => r.Answer

def spawned : Errand → List Job
  | act a => a.spawned
  | engine _ => []

end Errand

def Engine.Session.errands {α : Type} (session : Engine.Session α) :
    Procedure Errand Errand.Answer (Except Fault α) :=
  session.run.run fun r => query (Errand.engine r)

/-- Calls with a deadline stay as they are: they are looks, which leave the containers alone. -/
def Act.errands (s : EngineSettings) (suffixes : Suffixes) :
    (a : Act) → Procedure Errand Errand.Answer a.Answer
  | runner call => (call.session s suffixes.suffix).errands
  | a => query (Errand.act a)

def Cause.errands (s : Settings) (suffixes : Suffixes) (cause : Cause) :
    Procedure Errand Errand.Answer Unit :=
  (cause.activity s).run (Act.errands s.engine suffixes)

/-! ### Names -/

/-- What is created is named for its execution. -/
def Engine.Request.NamesBy (suffix : Nat → String) : Engine.Request → Prop
  | run c => ∀ name e, c.instruction = .create name e → ∃ n, name = containerName e (suffix n)
  | pause _ => True

namespace RunnerCall

open Engine Session

variable (s : EngineSettings) (suffix : Nat → String)

/-- A container is created only under a name that tells its execution. -/
theorem session_names (call : RunnerCall) :
    (call.session s suffix).run.Asks (Request.NamesBy suffix) := by
  cases call with
  | create e plan replicas =>
    refine (asks_execChecked fun name e => by simp).run_bind fun _ => ?_
    refine (asks_createReplicas (fun n name e' heq => ?_) replicas).run_bind fun _ => ?_
    · rw [instruction_createContainer] at heq
      cases heq
      exact ⟨n, rfl⟩
    · exact asks_awaitContainers (fun name e => by simp) (fun _ => trivial) _
  | start e =>
    refine (asks_containers fun name e => by simp).run_bind fun found => ?_
    split
    · exact asks_done
    · exact asks_discard (asks_execChecked fun name e => by simp)
  | stop e =>
    refine (asks_containers fun name e => by simp).run_bind fun found => ?_
    split
    · exact asks_done
    · exact asks_discard (asks_execTolerant fun name e => by simp)
  | stopAgent c => exact asks_execTolerant fun name e => by simp
  | isStopped c =>
    refine (asks_exec fun name e => by simp).run_bind fun output => ?_
    split
    · exact asks_done
    · split <;> exact asks_done
  | cleanup e =>
    have hvolume : (discard (execTolerant s (forgetVolume (volumeName e)))).run.Asks
        (Request.NamesBy suffix) := asks_discard (asks_execTolerant fun name e => by simp)
    refine (asks_containers fun name e => by simp).run_bind fun found => ?_
    split
    · exact hvolume
    · exact (asks_discard (asks_execTolerant fun name e => by simp)).run_bind fun _ => hvolume
  | prune keep =>
    have hvolumes : (do
        let listing ← execChecked s listVolumes
        removeVolumes s (candidates listing.stdout keep) : Session Unit).run.Asks
          (Request.NamesBy suffix) := by
      refine (asks_execChecked fun name e => by simp).run_bind fun listing => ?_
      exact asks_removeVolumes (fun name' name e => by simp) _
    refine (asks_execChecked fun name e => by simp).run_bind fun listing => ?_
    split
    · exact hvolumes
    · exact (asks_discard (asks_execTolerant fun name e => by simp)).run_bind fun _ => hvolumes

end RunnerCall

def Errand.NamesBy (suffix : Nat → String) : Errand → Prop
  | act _ => True
  | engine r => r.NamesBy suffix

theorem Cause.errands_names (s : Settings) (suffixes : Suffixes) (cause : Cause) :
    (cause.errands s suffixes).Asks (Errand.NamesBy suffixes.suffix) := by
  refine (cause.activity_asks s).run fun act _ => ?_
  cases act with
  | runner call =>
    exact (call.session_names s.engine suffixes.suffix).run fun r hr => asks_query.mpr hr
  | _ => exact asks_query.mpr trivial

/-! ### Turns of pruning -/

def Engine.asErrand (x : Sigma Engine.Request.Answer) : Sigma Errand.Answer := ⟨.engine x.1, x.2⟩

/-- Containers are removed only if the list of those that do not run is all that was asked for, and
only the candidates on it. -/
def Engine.Request.PrunesBy (keep : Names) (past : Past Engine.Request.Answer)
    (r : Engine.Request) : Prop :=
  ∀ c names, r = .run c → c.instruction = .remove names →
    ∃ output : Engine.Output, past = [⟨.run Engine.listUnused, .ok output⟩] ∧
      output.success = true ∧ names = Engine.candidates output.stdout keep

/-- Containers are removed only after it was read what is to be kept, and then listed what does not
run. -/
def pruneRule (past : Past Errand.Answer) (q : Errand) : Prop :=
  ∀ c names, q = .engine (.run c) → c.instruction = .remove names →
    ∃ (output : Engine.Output) (launching : Names) (tracked : List ExecutionId),
      past = [⟨.engine (.run Engine.listUnused), .ok output⟩,
        ⟨.act (.memory .launching), launching⟩,
        ⟨.act (.memory (.tracker .executions)), tracked⟩] ∧
      output.success = true ∧
      names = Engine.candidates output.stdout (Std.ExtTreeSet.ofList tracked compare ∪ launching)

namespace Engine.Session

variable {s : EngineSettings} {α : Type} {past : Past Request.Answer}

theorem keeps_errands {session : Session α} {R : Past Errand.Answer → Errand → Prop}
    {past : Past Errand.Answer} {Q : Except Fault α → Past Errand.Answer → Prop} :
    session.errands.Keeps R past Q ↔
      session.run.Keeps (fun recent r => R (recent.map asErrand ++ past) (.engine r)) []
        fun a recent => Q a (recent.map asErrand ++ past) := by
  have hgeneral : ∀ (p : Procedure Request Request.Answer (Except Fault α))
      (recent : Past Request.Answer),
      (p.run fun r => query (Errand.engine r)).Keeps R (recent.map asErrand ++ past) Q ↔
        p.Keeps (fun recent r => R (recent.map asErrand ++ past) (.engine r)) recent
          fun a recent => Q a (recent.map asErrand ++ past) := by
    intro p recent
    induction p generalizing recent with
    | done a => rfl
    | ask r next ih =>
      exact and_congr_right fun _ => forall_congr' fun answer => ih answer (⟨r, answer⟩ :: recent)
  exact hgeneral session.run []

theorem keeps_of_asks {session : Session α} {keep : Names}
    (h : session.run.Asks fun r => ∀ c names, r = .run c → c.instruction ≠ .remove names) :
    session.run.Keeps (Request.PrunesBy keep) past fun _ _ => True := by
  refine h.keeps (I := fun _ => True) ?_ (fun _ _ _ _ _ => trivial) trivial
  intro recent r hr _ c names hc hremove
  exact (hr c names hc hremove).elim

theorem prune_keeps (keep : Names) :
    (prune s keep).run.Keeps (Request.PrunesBy keep) [] fun _ _ => True := by
  have hvolumes : ∀ past : Past Request.Answer, (do
      let listing ← execChecked s listVolumes
      removeVolumes s (candidates listing.stdout keep) : Session Unit).run.Keeps
        (Request.PrunesBy keep) past fun _ _ => True := by
    intro past
    refine keeps_of_asks ((asks_execChecked ?_).run_bind fun listing => ?_)
    · rintro _ names ⟨⟩
      simp
    · refine asks_removeVolumes ?_ _
      rintro name _ names ⟨⟩
      simp
  refine keeps_run_bind.mpr (keeps_execChecked ?_ (fun _ _ => trivial) fun output hsuccess => ?_)
  · rintro _ names ⟨⟩ hremove
    simp at hremove
  · dsimp only
    split
    next => exact hvolumes _
    next =>
      refine keeps_run_bind.mpr ?_
      refine keeps_run_bind.mpr (keeps_execTolerant ?_ fun outcome result => ?_)
      · rintro _ names ⟨⟩ hremove
        rw [instruction_removeContainers] at hremove
        cases hremove
        exact ⟨output, rfl, hsuccess, rfl⟩
      · cases result with
        | error fault => trivial
        | ok found => exact hvolumes _

end Engine.Session

theorem prune_keeps_pruneRule (s : Settings) (suffixes : Suffixes) (now : Instant) :
    ((Cause.turn .prune now).errands s suffixes).Keeps pruneRule [] fun _ _ => True := by
  refine ⟨fun c names => nofun, fun tracked => ⟨fun c names => nofun, fun launching => ?_⟩⟩
  let keep : Names := Std.ExtTreeSet.ofList tracked compare ∪ launching
  refine keeps_bind (p := (Engine.Session.prune s.engine keep).errands).mpr ?_
  refine Engine.Session.keeps_errands.mpr ?_
  refine ((Engine.Session.prune_keeps keep).weaken ?_).mono fun _ _ _ => trivial
  intro recent r hr c names hc hremove
  cases hc
  obtain ⟨output, rfl, hsuccess, hnames⟩ := hr c names rfl hremove
  exact ⟨output, launching, tracked, rfl, hsuccess, hnames⟩

end AgentFleet
