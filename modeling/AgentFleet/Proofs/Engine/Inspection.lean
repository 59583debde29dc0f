import AgentFleet.Proofs.Engine.Removal

/-!
What is made of the answer when a container's state is asked for. If the command fails, its
complaint is only searched for the words that say that something is missing. So a container counts
as ended also if it was the engine itself that could not be found.
-/

namespace AgentFleet.Engine

open Procedure

/-- The words occur in the text; capitals of ASCII count as small letters. -/
def Mentions (words text : String) : Prop :=
  (Text.lowerAscii words).toList <:+: (Text.lowerAscii text).toList

instance (words text : String) : Decidable (Mentions words text) :=
  decidable_of_iff (occurs (Text.lowerAscii words).toList (Text.lowerAscii text).toList = true)
    occurs_iff

def missingReports : List String := ["No such container: ", "No such object: "]

/-- The complaint says that the container is missing, and not one whose name only begins like its
name. -/
def ReportsMissing (c : ContainerId) (complaint : String) : Prop :=
  ∃ report ∈ missingReports, ∃ before behind : List Char,
    (Text.lowerAscii complaint).toList =
      before ++ (Text.lowerAscii (report ++ c)).toList ++ behind ∧
    ∀ x ∈ behind.head?, ¬ Nameable (String.singleton x)

/-! ### Outcomes of the command -/

variable {s : EngineSettings} {c : ContainerId} {outcome : Except String Output}

/-- The command succeeded and told a state in which the container has ended for good. -/
def TellsEnded (outcome : Except String Output) : Prop :=
  ∃ output, outcome = .ok output ∧ output.success = true ∧
    Text.trim output.stdout ∈ ["exited", "dead"]

def FailedWith (complains : String → Prop) (outcome : Except String Output) : Prop :=
  ∃ output, outcome = .ok output ∧ output.success = false ∧ complains output.stderr

/-- The command did not succeed, or was not even run. -/
def Failed (outcome : Except String Output) : Prop :=
  ∀ output, outcome = .ok output → output.success = false

/-- The engine told that the container has ended, or that it is missing. -/
def ToldStopped (c : ContainerId) (outcome : Except String Output) : Prop :=
  TellsEnded outcome ∨ FailedWith (ReportsMissing c) outcome

/-- The complaint is about something else that is missing. -/
def Misleading (c : ContainerId) (outcome : Except String Output) : Prop :=
  FailedWith (fun complaint => Mentions "no such" complaint ∧ ¬ ReportsMissing c complaint) outcome

theorem saysMissing_iff_mentions {complaint : String} :
    saysMissing complaint = true ↔ Mentions "no such" complaint := by
  unfold saysMissing Mentions
  rw [occurs_iff]
  have hwords : Text.lowerAscii "no such" = "no such" := by decide
  rw [hwords]

theorem ReportsMissing.exists_mentions {complaint : String} (h : ReportsMissing c complaint) :
    ∃ report ∈ missingReports, Mentions report complaint := by
  obtain ⟨report, hreport, before, behind, heq, -⟩ := h
  have hnamed : (Text.lowerAscii report).toList <+: (Text.lowerAscii (report ++ c)).toList := by
    simp [Text.lowerAscii]
  refine ⟨report, hreport, ?_⟩
  unfold Mentions
  rw [heq]
  exact hnamed.isInfix.trans (List.infix_append _ _ _)

/-- Every report that a container is missing holds the words that are searched for. -/
theorem ReportsMissing.mentions {complaint : String} (h : ReportsMissing c complaint) :
    Mentions "no such" complaint := by
  have hstart : ∀ report ∈ missingReports, Mentions "no such" report := by decide
  obtain ⟨report, hreport, hmentions⟩ := h.exists_mentions
  exact (hstart report hreport).trans hmentions

def inspectResult (s : EngineSettings) : Except String Output → Except Fault Bool
  | .ok output =>
    if output.success then .ok (isStoppedState output.stdout)
    else if saysMissing output.stderr then .ok true
    else .error (runnerFault ("inspect failed: " ++ Text.trim output.stderr))
  | .error reason => .error (runnerFault ("failed to run " ++ s.binary ++ ": " ++ reason))

theorem inspectResult_eq_true_iff (c : ContainerId) :
    inspectResult s outcome = .ok true ↔ ToldStopped c outcome ∨ Misleading c outcome := by
  cases outcome with
  | error reason => simp [inspectResult, ToldStopped, TellsEnded, Misleading, FailedWith]
  | ok output =>
    by_cases hsuccess : output.success = true
    · simp [inspectResult, ToldStopped, TellsEnded, Misleading, FailedWith, hsuccess,
        isStoppedState]
    · by_cases hreport : ReportsMissing c output.stderr
      · have hmissing := saysMissing_iff_mentions.mpr hreport.mentions
        simp [inspectResult, ToldStopped, FailedWith, hsuccess, hmissing, hreport]
      · simp [inspectResult, ToldStopped, TellsEnded, Misleading, FailedWith, hsuccess, hreport,
          ← saysMissing_iff_mentions]

/-- A look fails if the command does, unless the complaint says that something is missing. -/
theorem inspectResult_eq_error_iff (c : ContainerId) :
    (∃ fault, inspectResult s outcome = .error fault) ↔
      Failed outcome ∧ ¬ ToldStopped c outcome ∧ ¬ Misleading c outcome := by
  have htrue : inspectResult s outcome = .ok true ↔ ToldStopped c outcome ∨ Misleading c outcome :=
    inspectResult_eq_true_iff c
  rw [← not_or, ← htrue]
  cases outcome with
  | error reason => simp [inspectResult, Failed]
  | ok output =>
    by_cases hsuccess : output.success = true
    · simp [inspectResult, Failed, hsuccess]
    · by_cases hmissing : saysMissing output.stderr = true <;>
        simp [inspectResult, Failed, hsuccess, hmissing]

namespace Session

variable {past later : Past Request.Answer} {result : Except Fault Bool}

theorem run_isStopped (s : EngineSettings) (c : ContainerId) :
    (isStopped s c).run =
      .ask (.run (inspectState c)) fun outcome => .done (inspectResult s outcome) := by
  refine congrArg (Procedure.ask (Request.run (inspectState c))) (funext fun outcome => ?_)
  cases outcome with
  | error reason => rfl
  | ok output =>
    change (if output.success = true then pure (isStoppedState output.stdout)
      else if saysMissing output.stderr = true then pure true
      else throw (runnerFault ("inspect failed: " ++ Text.trim output.stderr)) :
        Session Bool).run = _
    by_cases hsuccess : output.success = true <;>
      by_cases hmissing : saysMissing output.stderr = true <;>
      simp only [inspectResult, hsuccess, hmissing, Bool.false_eq_true, reduceIte] <;> rfl

theorem ends_isStopped : (isStopped s c).run.Ends past result later ↔
    ∃ outcome, inspectResult s outcome = result ∧
      ⟨.run (inspectState c), outcome⟩ :: past = later := by
  rw [run_isStopped]
  rfl

end Session

end AgentFleet.Engine
