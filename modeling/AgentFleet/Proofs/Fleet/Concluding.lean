import AgentFleet.Proofs.Fleet.Reports
import AgentFleet.Proofs.Fleet.Solo

/-!
How a call goes that finalizes an execution. It has three ways: it finds something of the execution
alive, it finds that the execution is finalized already, or it is the first to note that it is. Only
then it asks for anything outside, or changes the tracker.
-/

namespace AgentFleet

open Procedure Activity

def Act.LeavesTracker (act : Act) : Prop :=
  ∀ clock service reply, (act.perform clock service reply).2.tracker = service.tracker

namespace Fleet

variable {s : LivenessSettings} {e : ExecutionId} {ending : Ending} {value : Bool}
  {asked before later : Past Act.Answer}

def checked (e : ExecutionId) : Ending → Past Act.Answer
  | .completed => [⟨.memory (.tracker (.hasLive e)), false⟩]
  | .allCrashed => []

inductive Finalizing (s : LivenessSettings) (e : ExecutionId) :
    Ending → Bool → Past Act.Answer → Prop
  | live : Finalizing s e .completed false [⟨.memory (.tracker (.hasLive e)), true⟩]
  | known (ending : Ending) (forgotten : Nat) : Finalizing s e ending false
    (⟨.memory (.claim e), false⟩ :: ⟨.memory (.forgetExpired s.retention), forgotten⟩ ::
      checked e ending)
  | first (ending : Ending) (forgotten : Nat) (removed : List ContainerId)
    (reported cleaned : Except Fault Unit) : Finalizing s e ending true
    (⟨.runner (.cleanup e), cleaned⟩ ::
      ⟨.backend (.reportExecution e ending.status ending.reason), reported⟩ ::
        concluding s e forgotten removed (checked e ending))

/-- How a call went that returned whether it finalized the execution: it did exactly if its note was
the first. Outside it asked for the last status to be set and then for the removal, or for nothing,
and then it left the tracker as it was. -/
structure Conduct (e : ExecutionId) (ending : Ending) (value : Bool) (asked : Past Act.Answer) :
    Prop where
  value_iff : value = true ↔ ⟨.memory (.claim e), true⟩ ∈ asked
  outward_eq : (asked.reverse.map Sigma.fst).filter Act.isOutward = if value then
    [.backend (.reportExecution e ending.status ending.reason), .runner (.cleanup e)] else []
  leavesTracker : value = false → ∀ x ∈ asked, x.1.LeavesTracker

theorem finalizing_of_ends (h : (finalize s e ending).Ends before value later) :
    ∃ asked, later = asked ++ before ∧ Finalizing s e ending value asked := by
  cases ending with
  | completed =>
    obtain ⟨live, h⟩ := h
    cases live with
    | true =>
      obtain ⟨rfl, rfl⟩ := h
      exact ⟨_, rfl, .live⟩
    | false =>
      obtain ⟨forgotten, fresh, h⟩ := h
      cases fresh with
      | false =>
        obtain ⟨rfl, rfl⟩ := h
        exact ⟨_, rfl, .known .completed forgotten⟩
      | true =>
        obtain ⟨removed, reported, cleaned, rfl, rfl⟩ := h
        exact ⟨_, rfl, .first .completed forgotten removed reported cleaned⟩
  | allCrashed =>
    obtain ⟨forgotten, fresh, h⟩ := h
    cases fresh with
    | false =>
      obtain ⟨rfl, rfl⟩ := h
      exact ⟨_, rfl, .known .allCrashed forgotten⟩
    | true =>
      obtain ⟨removed, reported, cleaned, rfl, rfl⟩ := h
      exact ⟨_, rfl, .first .allCrashed forgotten removed reported cleaned⟩

namespace Finalizing

theorem value_iff (h : Finalizing s e ending value asked) :
    value = true ↔ ⟨.memory (.claim e), true⟩ ∈ asked := by
  cases h with
  | live => exact iff_of_false Bool.false_ne_true (by rintro (_ | ⟨_, ⟨⟩⟩))
  | known _ forgotten =>
    refine iff_of_false Bool.false_ne_true ?_
    cases ending with
    | completed => rintro (_ | ⟨_, _ | ⟨_, _ | ⟨_, ⟨⟩⟩⟩⟩)
    | allCrashed => rintro (_ | ⟨_, _ | ⟨_, ⟨⟩⟩⟩)
  | first _ forgotten removed reported cleaned => simp [concluding]

theorem outward_eq (h : Finalizing s e ending value asked) :
    (asked.reverse.map Sigma.fst).filter Act.isOutward = if value then
      [.backend (.reportExecution e ending.status ending.reason), .runner (.cleanup e)]
    else [] := by
  cases h with
  | live => rfl
  | known _ forgotten => cases ending <;> rfl
  | first _ forgotten removed reported cleaned => cases ending <;> rfl

theorem leavesTracker (h : Finalizing s e ending false asked) :
    ∀ x ∈ asked, x.1.LeavesTracker := by
  have hclaim : Act.LeavesTracker (.memory (.claim e)) := by
    intro clock service reply
    change (service.claim clock e).tracker = service.tracker
    unfold Service.claim
    split <;> rfl
  have hlive : Act.LeavesTracker (.memory (.tracker (.hasLive e))) := fun _ _ _ => rfl
  have hforget : Act.LeavesTracker (.memory (.forgetExpired s.retention)) := fun _ _ _ => rfl
  cases h with
  | live => exact List.forall_mem_singleton.mpr hlive
  | known _ forgotten =>
    refine List.forall_mem_cons.mpr ⟨hclaim, List.forall_mem_cons.mpr ⟨hforget, ?_⟩⟩
    cases ending with
    | completed => exact List.forall_mem_singleton.mpr hlive
    | allCrashed => exact List.forall_mem_nil _

theorem conduct (h : Finalizing s e ending value asked) : Conduct e ending value asked where
  value_iff := h.value_iff
  outward_eq := h.outward_eq
  leavesTracker hvalue := leavesTracker (hvalue ▸ h)

end Finalizing

end Fleet

end AgentFleet
