import AgentFleet.Engine.Session
import AgentFleet.Proofs.Procedure

/-!
Sessions with the engine. What comes of a command is a function of its outcome; from it follow what
sessions ask, which rules they keep, and what they end with.
-/

namespace AgentFleet.Engine

open Procedure

def Ran (past : Past Request.Answer) (c : Command) (outcome : Except String Output) : Prop :=
  ⟨.run c, outcome⟩ ∈ past

@[simp] theorem not_ran_nil {c : Command} {outcome : Except String Output} :
    ¬ Ran [] c outcome := List.not_mem_nil

@[simp] theorem ran_cons {past : Past Request.Answer} {c c' : Command}
    {outcome outcome' : Except String Output} :
    Ran (⟨.run c', outcome'⟩ :: past) c outcome ↔
      c = c' ∧ outcome = outcome' ∨ Ran past c outcome := by
  rw [Ran, List.mem_cons]
  refine or_congr_left ⟨fun heq => ?_, ?_⟩
  · obtain ⟨hrequest, hanswer⟩ := Sigma.mk.inj heq
    cases hrequest
    exact ⟨rfl, eq_of_heq hanswer⟩
  · rintro ⟨rfl, rfl⟩
    rfl

namespace Session

variable {s : EngineSettings} {c : Command} {e : ExecutionId} {P : Request → Prop}
  {past later : Past Request.Answer}

def checkedResult (s : EngineSettings) (c : Command) : Except String Output → Except Fault Output
  | .ok output => if output.success then .ok output else .error (failure s c output)
  | .error reason => .error (runnerFault ("failed to run " ++ s.binary ++ ": " ++ reason))

def tolerantResult (s : EngineSettings) (c : Command) : Except String Output → Except Fault Bool
  | .ok output =>
    if output.success then .ok true
    else if saysMissing output.stderr then .ok false
    else .error (failure s c output)
  | .error reason => .error (runnerFault ("failed to run " ++ s.binary ++ ": " ++ reason))

theorem run_execChecked (s : EngineSettings) (c : Command) :
    (execChecked s c).run = .ask (.run c) fun outcome => .done (checkedResult s c outcome) := by
  refine congrArg (Procedure.ask (Request.run c)) (funext fun outcome => ?_)
  cases outcome with
  | error reason => rfl
  | ok output =>
    change (if output.success = true then pure output else throw (failure s c output) :
      Session Output).run = _
    by_cases hsuccess : output.success = true <;>
      simp only [checkedResult, hsuccess, Bool.false_eq_true, reduceIte] <;> rfl

theorem run_execTolerant (s : EngineSettings) (c : Command) :
    (execTolerant s c).run = .ask (.run c) fun outcome => .done (tolerantResult s c outcome) := by
  refine congrArg (Procedure.ask (Request.run c)) (funext fun outcome => ?_)
  cases outcome with
  | error reason => rfl
  | ok output =>
    change (if output.success = true then pure true
      else if saysMissing output.stderr = true then pure false
      else throw (failure s c output) : Session Bool).run = _
    by_cases hsuccess : output.success = true <;>
      by_cases hmissing : saysMissing output.stderr = true <;>
      simp only [tolerantResult, hsuccess, hmissing, Bool.false_eq_true, reduceIte] <;> rfl

/-! ### What sessions ask -/

theorem asks_ask {r : Request} (h : P r) : (ask r).run.Asks P :=
  (asks_query.mpr h).bind fun _ => asks_done

theorem asks_exec (h : P (.run c)) : (exec s c).run.Asks P := by
  refine (asks_ask h).run_bind fun outcome => ?_
  cases outcome <;> exact asks_done

theorem asks_execChecked (h : P (.run c)) : (execChecked s c).run.Asks P := by
  rw [run_execChecked]
  exact ⟨h, fun _ => asks_done⟩

theorem asks_execTolerant (h : P (.run c)) : (execTolerant s c).run.Asks P := by
  rw [run_execTolerant]
  exact ⟨h, fun _ => asks_done⟩

theorem asks_discard {α : Type} {x : Session α} (h : x.run.Asks P) : (discard x).run.Asks P :=
  h.run_bind fun _ => asks_done

theorem asks_containers {stoppedToo : Bool} (h : P (.run (listContainers e stoppedToo))) :
    (containers s e stoppedToo).run.Asks P := (asks_execChecked h).run_bind fun _ => asks_done

theorem asks_createReplicas {plan : ContainerPlan} {suffix : Nat → String}
    (h : ∀ n, P (.run (createContainer e (containerName e (suffix n)) plan s.network)))
    (replicas : Nat) : (createReplicas s e plan suffix replicas).run.Asks P := by
  induction replicas with
  | zero => exact asks_done
  | succ n ih => exact (asks_execChecked (h n)).run_bind fun _ => ih

theorem asks_awaitContainers (hlist : P (.run (listContainers e true)))
    (hpause : ∀ millis, P (.pause millis)) (attempts : Nat) :
    (awaitContainers s e attempts).run.Asks P := by
  induction attempts with
  | zero => exact asks_done
  | succ n ih =>
    refine (asks_containers hlist).run_bind fun found => ?_
    split
    · exact asks_done
    · exact (asks_ask (hpause _)).run_bind fun _ => ih

theorem asks_removeVolumes (h : ∀ name, P (.run (removeVolume name))) (names : List String) :
    (removeVolumes s names).run.Asks P := by
  induction names with
  | nil => exact asks_done
  | cons name names ih =>
    have hremove : (try execTolerant s (removeVolume name) catch _ => pure false :
        Session Bool).run.Asks P := by
      refine Asks.bind (asks_execTolerant (h name)) fun result => ?_
      cases result <;> exact asks_done
    exact hremove.run_bind fun _ => ih

/-! ### Rules for sessions -/

section Rules

variable {R : Past Request.Answer → Request → Prop}

theorem keeps_execChecked {Q : Except Fault Output → Past Request.Answer → Prop}
    (h : R past (.run c)) (herror : ∀ outcome fault, Q (.error fault) (⟨.run c, outcome⟩ :: past))
    (hok : ∀ output : Output, output.success = true →
      Q (.ok output) (⟨.run c, .ok output⟩ :: past)) :
    (execChecked s c).run.Keeps R past Q := by
  rw [run_execChecked]
  refine ⟨h, fun outcome => ?_⟩
  cases outcome with
  | error reason => exact herror _ _
  | ok output =>
    change Q (if output.success = true then .ok output else .error (failure s c output)) _
    split
    next hyes => exact hok output hyes
    next hno => exact herror _ _

theorem keeps_execTolerant {Q : Except Fault Bool → Past Request.Answer → Prop}
    (h : R past (.run c)) (hend : ∀ outcome result, Q result (⟨.run c, outcome⟩ :: past)) :
    (execTolerant s c).run.Keeps R past Q := by
  rw [run_execTolerant]
  exact ⟨h, fun outcome => hend outcome _⟩

end Rules

/-! ### What sessions end with -/

theorem ends_execChecked {result : Except Fault Output} :
    (execChecked s c).run.Ends past result later ↔
      ∃ outcome, checkedResult s c outcome = result ∧ ⟨.run c, outcome⟩ :: past = later := by
  rw [run_execChecked]
  rfl

theorem ends_execTolerant {result : Except Fault Bool} :
    (execTolerant s c).run.Ends past result later ↔
      ∃ outcome, tolerantResult s c outcome = result ∧ ⟨.run c, outcome⟩ :: past = later := by
  rw [run_execTolerant]
  rfl

theorem ends_bind_pure {α β : Type} {x : Session α} {r : Except String Output → Except Fault α}
    {g : α → β} {result : Except Fault β}
    (h : ∀ result, x.run.Ends past result later ↔
      ∃ outcome, r outcome = result ∧ ⟨.run c, outcome⟩ :: past = later) :
    (x >>= fun a => pure (g a)).run.Ends past result later ↔
      ∃ outcome, (r outcome).map g = result ∧ ⟨.run c, outcome⟩ :: past = later := by
  simp only [ends_run_bind_pure, h]
  constructor
  · rintro ⟨_, ⟨outcome, rfl, rfl⟩, hr⟩
    exact ⟨outcome, hr, rfl⟩
  · rintro ⟨outcome, hr, rfl⟩
    exact ⟨_, ⟨outcome, rfl, rfl⟩, hr⟩

theorem ends_containers {stoppedToo : Bool} {result : Except Fault (List ContainerId)} :
    (containers s e stoppedToo).run.Ends past result later ↔
      ∃ outcome, (checkedResult s (listContainers e stoppedToo) outcome).map (fun listing =>
        Engine.names listing.stdout) = result ∧
          ⟨.run (listContainers e stoppedToo), outcome⟩ :: past = later :=
  ends_bind_pure fun _ => ends_execChecked

end Session

end AgentFleet.Engine
