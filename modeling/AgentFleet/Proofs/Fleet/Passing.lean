import AgentFleet.Proofs.Fleet.Finality
import AgentFleet.Proofs.Fleet.Undisturbed
import AgentFleet.Proofs.Tracker.Sweeping

/-!
How the parts of a pass may go while nothing else happens: the look at all containers, the ends of
executions, and what is done about crashes. Each part is told by the calls that it makes and by what
it leaves of the service, and a pass is told by its parts.
-/

namespace AgentFleet

open Procedure Activity

def Ending.HinderedBy (ending : Ending) (e : ExecutionId) (service : Service) : Prop :=
  ending = .completed ∧ service.tracker.hasLive e = true

/-- How a call goes that finalizes an execution, and what it leaves. -/
inductive Finalizes (s : LivenessSettings) (e : ExecutionId) (ending : Ending) (before : Service) :
    List Asked → Service → Prop
  | hindered {asked : List Asked} : ending.HinderedBy e before → backendCalls asked = [] →
    runnerCalls asked = [] → Finalizes s e ending before asked before
  | known {asked : List Asked} {x : Asked} : ¬ ending.HinderedBy e before → x ∈ asked →
    before.isFinalized s.retention x.clock e = true → backendCalls asked = [] →
    runnerCalls asked = [] →
    Finalizes s e ending before asked (before.forgetExpired s.retention x.clock)
  | first {asked : List Asked} {x y : Asked} : ¬ ending.HinderedBy e before → x ∈ asked →
    y ∈ asked → ¬ before.isFinalized s.retention x.clock e = true →
    backendCalls asked = [.reportExecution e ending.status ending.reason] →
    runnerCalls asked = [.cleanup e] →
    Finalizes s e ending before asked
      { (before.forgetExpired s.retention x.clock).claim y.clock e with
        tracker := before.tracker.deleteExecution e }

section Ends

variable {s : LivenessSettings} {e e' : ExecutionId} {es : List ExecutionId} {ending : Ending}
  {before after : Service} {asked : List Asked} {value : Bool} {clock : Clock}

theorem Service.claim_of_mem (h : e ∈ before.finalized) : before.claim clock e = before := if_pos h

theorem Service.tracker_claim : (before.claim clock e).tracker = before.tracker := by
  unfold Service.claim
  split <;> rfl

theorem finalizes_of_unhindered (earlier : List Asked) (hno : ¬ ending.HinderedBy e before)
    (hbackend : backendCalls earlier = []) (hrunner : runnerCalls earlier = [])
    (h : (do
      let _ ← forgetExpired s.retention
      if ← claim e then
        conclude e ending
        return true
      else return false : Activity Bool).Proceeds before asked value after) :
    Finalizes s e ending before (earlier ++ asked) after := by
  obtain ⟨clock, _, _, rfl, clock', _, later, rfl, h⟩ := h
  have hforgot : e ∈ (before.forgetExpired s.retention clock).finalized ↔
    before.isFinalized s.retention clock e = true := Service.mem_finalized_forgetExpired
  change Procedure.Proceeds (if (!(before.forgetExpired s.retention clock).finalized.contains e) =
    true then _ else _) ((before.forgetExpired s.retention clock).claim clock' e) later value
    after at h
  split at h
  next hfresh =>
    rw [Bool.not_eq_true', ← Bool.not_eq_true, Std.ExtTreeMap.contains_iff_mem, hforgot] at hfresh
    obtain ⟨_, _, _, rfl, _, _, _, rfl, _, _, _, rfl, rfl, -, hafter⟩ := h
    have htracker : ((before.forgetExpired s.retention clock).claim clock' e).tracker =
      before.tracker := Service.tracker_claim
    have hservice : { (before.forgetExpired s.retention clock).claim clock' e with
        tracker := before.tracker.deleteExecution e } = after := by
      rw [← htracker]
      exact hafter
    subst hservice
    refine .first (x := ⟨clock, _, _⟩) (y := ⟨clock', _, _⟩) hno
      (List.mem_append_right _ List.mem_cons_self)
      (List.mem_append_right _ (List.mem_cons_of_mem _ List.mem_cons_self)) hfresh ?_ ?_
    · rw [backendCalls_append, hbackend]
      rfl
    · rw [runnerCalls_append, hrunner]
      rfl
  next hold =>
    rw [Bool.not_eq_true', Bool.not_eq_false, Std.ExtTreeMap.contains_iff_mem] at hold
    obtain ⟨rfl, -, rfl⟩ := h
    rw [Service.claim_of_mem hold]
    refine .known (x := ⟨clock, _, _⟩) hno (List.mem_append_right _ List.mem_cons_self)
      (hforgot.mp hold) ?_ ?_
    · rw [backendCalls_append, hbackend]
      rfl
    · rw [runnerCalls_append, hrunner]
      rfl

theorem finalize_proceeds (h : (finalize s e ending).Proceeds before asked value after) :
    Finalizes s e ending before asked after := by
  cases ending with
  | completed =>
    obtain ⟨clock, _, later, rfl, h⟩ := h
    change Procedure.Proceeds (if before.tracker.hasLive e = true then _ else _) before later value
      after at h
    split at h
    next hlive =>
      obtain ⟨rfl, -, rfl⟩ := h
      exact .hindered ⟨rfl, hlive⟩ rfl rfl
    next hnone => exact finalizes_of_unhindered [_] (fun hno => hnone hno.2) rfl rfl h
  | allCrashed =>
    exact finalizes_of_unhindered [] (fun hno => by cases hno.1) rfl rfl h

def Concludes (e : ExecutionId) (ending : Ending) (asked : List Asked) : Prop :=
  .reportExecution e ending.status ending.reason ∈ backendCalls asked ∧
    .cleanup e ∈ runnerCalls asked

theorem Concludes.of_calls
    (hbackend : backendCalls asked = [.reportExecution e ending.status ending.reason])
    (hrunner : runnerCalls asked = [.cleanup e]) : Concludes e ending asked := by
  unfold Concludes
  rw [hbackend, hrunner]
  exact ⟨List.mem_singleton_self _, List.mem_singleton_self _⟩

theorem Service.isFinalized_forgetExpired {retention : Nat} :
    (before.forgetExpired retention clock).isFinalized retention clock e = true ↔
      before.isFinalized retention clock e = true := by
  simp only [Service.isFinalized_iff, Service.finalized_forgetExpired]
  exact exists_congr fun time => and_iff_left_of_imp And.right

theorem Service.isFinalized_claim {retention : Nat} :
    (before.claim clock e').isFinalized retention clock e = true ↔
      before.isFinalized retention clock e = true ∨ e' = e ∧ e ∉ before.finalized := by
  simp only [Service.isFinalized_iff, Service.finalized_claim]
  constructor
  · rintro ⟨time, hold | ⟨rfl, hno, -⟩, hle⟩
    · exact .inl ⟨time, hold, hle⟩
    · exact .inr ⟨rfl, hno⟩
  · rintro (⟨time, hold, hle⟩ | ⟨rfl, hno⟩)
    · exact ⟨time, .inl hold, hle⟩
    · exact ⟨clock.steady, .inr ⟨rfl, hno, rfl⟩, by rw [Nat.sub_self]; exact Nat.zero_le _⟩

namespace Finalizes

variable {c : ContainerId}

theorem tracker_eq (h : Finalizes s e ending before asked after) :
    after.tracker = before.tracker ∨ ¬ ending.HinderedBy e before ∧ Concludes e ending asked ∧
      after.tracker = before.tracker.deleteExecution e := by
  cases h with
  | hindered | known => exact .inl rfl
  | first hno _ _ _ hbackend hrunner => exact .inr ⟨hno, .of_calls hbackend hrunner, rfl⟩

theorem consistent (h : Finalizes s e ending before asked after)
    (hcons : before.tracker.Consistent) : after.tracker.Consistent := by
  rcases h.tracker_eq with hsame | ⟨-, -, hsame⟩ <;> rw [hsame]
  · exact hcons
  · exact hcons.deleteExecution e

theorem standing_eq (h : Finalizes s e ending before asked after)
    (hcons : before.tracker.Consistent) {known : Tracker.Standing}
    (hc : before.tracker.standing c = some known) (hne : known.owner ≠ e) :
    after.tracker.standing c = some known := by
  rcases h.tracker_eq with hsame | ⟨-, -, hsame⟩ <;> rw [hsame]
  · exact hc
  · rw [Tracker.standing_deleteExecution hcons, hc]
    simp [Option.filter, hne]

theorem executions_subset (h : Finalizes s e ending before asked after)
    (hcons : before.tracker.Consistent) (he : e' ∈ after.tracker.executions) :
    e' ∈ before.tracker.executions := by
  rcases h.tracker_eq with hsame | ⟨-, -, hsame⟩ <;> rw [hsame] at he
  · exact he
  · rw [(hcons.deleteExecution e).mem_executions_iff_standing] at he
    obtain ⟨c, known, hc, rfl⟩ := he
    rw [Tracker.standing_deleteExecution hcons] at hc
    exact hcons.mem_executions_iff_standing.mpr
      ⟨c, known, (Option.filter_eq_some_iff.mp hc).1, rfl⟩

/-- What is finalized stays so as long as no time passes. -/
theorem isFinalized_mono (h : Finalizes s e ending before asked after) (hat : AtOnce clock asked)
    (he : before.isFinalized s.retention clock e' = true) :
    after.isFinalized s.retention clock e' = true := by
  cases h with
  | hindered => exact he
  | known _ hx =>
    rw [hat _ hx]
    exact Service.isFinalized_forgetExpired.mpr he
  | first _ hx hy =>
    rw [hat _ hx, hat _ hy]
    exact Service.isFinalized_claim.mpr (.inl (Service.isFinalized_forgetExpired.mpr he))

theorem isFinalized (h : Finalizes s e ending before asked after) (hat : AtOnce clock asked)
    (hno : ¬ ending.HinderedBy e before) :
    after.isFinalized s.retention clock e = true ∧
      (before.isFinalized s.retention clock e = true ∨ Concludes e ending asked) := by
  cases h with
  | hindered hyes => exact (hno hyes).elim
  | known _ hx hknown =>
    rw [hat _ hx] at hknown ⊢
    exact ⟨Service.isFinalized_forgetExpired.mpr hknown, .inl hknown⟩
  | first _ hx hy hfresh hbackend hrunner =>
    rw [hat _ hx] at hfresh ⊢
    rw [hat _ hy]
    have hno : e ∉ (before.forgetExpired s.retention clock).finalized :=
      fun hmem => hfresh (Service.mem_finalized_forgetExpired.mp hmem)
    exact ⟨Service.isFinalized_claim.mpr (.inr ⟨rfl, hno⟩), .inr (.of_calls hbackend hrunner)⟩

/-- Only the execution itself is dropped, and only if it is finalized and concluded. -/
theorem of_dropped (h : Finalizes s e ending before asked after) (hat : AtOnce clock asked)
    (hcons : before.tracker.Consistent) (he : e' ∈ before.tracker.executions)
    (hgone : e' ∉ after.tracker.executions) :
    e' = e ∧ after.isFinalized s.retention clock e = true ∧ Concludes e ending asked := by
  rcases h.tracker_eq with hsame | ⟨hno, hends, hsame⟩ <;> rw [hsame] at hgone
  · exact (hgone he).elim
  · exact ⟨hcons.eq_of_emptied_deleteExecution he hgone, (h.isFinalized hat hno).1, hends⟩

theorem of_isFinalized (h : Finalizes s e ending before asked after) (hat : AtOnce clock asked)
    (he : after.isFinalized s.retention clock e' = true) :
    before.isFinalized s.retention clock e' = true ∨ e' = e ∧ Concludes e ending asked := by
  cases h with
  | hindered => exact .inl he
  | known _ hx =>
    rw [hat _ hx] at he
    exact .inl (Service.isFinalized_forgetExpired.mp he)
  | first _ hx hy _ hbackend hrunner =>
    rw [hat _ hx, hat _ hy] at he
    refine (Service.isFinalized_claim.mp he).imp Service.isFinalized_forgetExpired.mp ?_
    rintro ⟨rfl, -⟩
    exact ⟨rfl, .of_calls hbackend hrunner⟩

end Finalizes

/-! ### Several executions -/

inductive FinalizesAll (s : LivenessSettings) (ending : Ending) :
    List ExecutionId → Service → List Asked → Service → Prop
  | nil {before : Service} : FinalizesAll s ending [] before [] before
  | cons {e : ExecutionId} {es : List ExecutionId} {before middle after : Service}
    {first later : List Asked} : Finalizes s e ending before first middle →
    FinalizesAll s ending es middle later after →
    FinalizesAll s ending (e :: es) before (first ++ later) after

theorem finalizeAll_proceeds (h : (finalizeAll s ending es).Proceeds before asked () after) :
    FinalizesAll s ending es before asked after := by
  induction es generalizing before asked with
  | nil =>
    obtain ⟨rfl, -, rfl⟩ := h
    exact .nil
  | cons e es ih =>
    obtain ⟨value, middle, first, later, rfl, hfirst, hlater⟩ := proceeds_bind.mp h
    exact .cons (finalize_proceeds hfirst) (ih hlater)

theorem Concludes.append_left (h : Concludes e ending asked) (earlier : List Asked) :
    Concludes e ending (earlier ++ asked) := by
  unfold Concludes
  rw [backendCalls_append, runnerCalls_append]
  exact ⟨List.mem_append_right _ h.1, List.mem_append_right _ h.2⟩

theorem Concludes.append_right (h : Concludes e ending asked) (later : List Asked) :
    Concludes e ending (asked ++ later) := by
  unfold Concludes
  rw [backendCalls_append, runnerCalls_append]
  exact ⟨List.mem_append_left _ h.1, List.mem_append_left _ h.2⟩

theorem Ending.not_hinderedBy (he : e ∉ before.tracker.executions) :
    ¬ ending.HinderedBy e before := by
  rintro ⟨-, hlive⟩
  obtain ⟨c, hc, -⟩ := Tracker.hasLive_iff.mp hlive
  exact he (Tracker.mem_executions_of_mem hc)

namespace FinalizesAll

variable {c : ContainerId}

theorem consistent (h : FinalizesAll s ending es before asked after)
    (hcons : before.tracker.Consistent) : after.tracker.Consistent := by
  induction h with
  | nil => exact hcons
  | cons hfirst _ ih => exact ih (hfirst.consistent hcons)

theorem standing_eq (h : FinalizesAll s ending es before asked after)
    (hcons : before.tracker.Consistent) {known : Tracker.Standing}
    (hc : before.tracker.standing c = some known) (hne : known.owner ∉ es) :
    after.tracker.standing c = some known := by
  induction h with
  | nil => exact hc
  | cons hfirst _ ih =>
    obtain ⟨hne, hnes⟩ := not_or.mp (List.mem_cons.not.mp hne)
    exact ih (hfirst.consistent hcons) (hfirst.standing_eq hcons hc hne) hnes

theorem executions_subset (h : FinalizesAll s ending es before asked after)
    (hcons : before.tracker.Consistent) (he : e ∈ after.tracker.executions) :
    e ∈ before.tracker.executions := by
  induction h with
  | nil => exact he
  | cons hfirst _ ih =>
    exact hfirst.executions_subset hcons (ih (hfirst.consistent hcons) he)

theorem isFinalized_mono (h : FinalizesAll s ending es before asked after)
    (hat : AtOnce clock asked) (he : before.isFinalized s.retention clock e = true) :
    after.isFinalized s.retention clock e = true := by
  induction h with
  | nil => exact he
  | cons hfirst _ ih =>
    obtain ⟨hat, hat'⟩ := atOnce_append.mp hat
    exact ih hat' (hfirst.isFinalized_mono hat he)

theorem of_dropped (h : FinalizesAll s ending es before asked after) (hat : AtOnce clock asked)
    (hcons : before.tracker.Consistent) (he : e ∈ before.tracker.executions)
    (hgone : e ∉ after.tracker.executions) :
    after.isFinalized s.retention clock e = true ∧ Concludes e ending asked := by
  induction h with
  | nil => exact (hgone he).elim
  | @cons _ _ _ middle _ _ _ hfirst hlater ih =>
    obtain ⟨hat, hat'⟩ := atOnce_append.mp hat
    by_cases hmid : e ∈ middle.tracker.executions
    · obtain ⟨hdone, hends⟩ := ih hat' (hfirst.consistent hcons) hmid hgone
      exact ⟨hdone, hends.append_left _⟩
    · obtain ⟨rfl, hdone, hends⟩ := hfirst.of_dropped hat hcons he hmid
      exact ⟨hlater.isFinalized_mono hat' hdone, hends.append_right _⟩

theorem of_untracked (h : FinalizesAll s ending es before asked after) (hat : AtOnce clock asked)
    (hcons : before.tracker.Consistent) (hmem : e ∈ es) (he : e ∉ before.tracker.executions) :
    after.isFinalized s.retention clock e = true ∧
      (before.isFinalized s.retention clock e = true ∨ Concludes e ending asked) := by
  induction h with
  | nil => cases hmem
  | @cons _ _ _ middle _ _ _ hfirst hlater ih =>
    obtain ⟨hat, hat'⟩ := atOnce_append.mp hat
    rcases List.mem_cons.mp hmem with rfl | hmem
    · obtain ⟨hdone, hends⟩ := hfirst.isFinalized hat (Ending.not_hinderedBy he)
      exact ⟨hlater.isFinalized_mono hat' hdone, hends.imp_right (·.append_right _)⟩
    · have hmid : e ∉ middle.tracker.executions :=
        fun hmid => he (hfirst.executions_subset hcons hmid)
      obtain ⟨hdone, hends⟩ := ih hat' (hfirst.consistent hcons) hmem hmid
      refine ⟨hdone, ?_⟩
      rcases hends with hearly | hends
      · rcases hfirst.of_isFinalized hat hearly with hold | ⟨rfl, hends⟩
        · exact .inl hold
        · exact .inr (hends.append_right _)
      · exact .inr (hends.append_left _)

end FinalizesAll

end Ends

/-! ### Looks -/

def Looked (c : ContainerId) (answer : Except Fault Bool) (asked : List Asked) : Prop :=
  ∃ clock, (⟨clock, .runner (.isStopped c), answer⟩ : Asked) ∈ asked

section Looks

variable {c : ContainerId} {cs stopped : List ContainerId} {answer : Except Fault Bool}
  {before after : Service} {asked later : List Asked} {now : Instant}

theorem looked_append : Looked c answer (asked ++ later) ↔
    Looked c answer asked ∨ Looked c answer later := by
  simp only [Looked, List.mem_append, exists_or]

theorem looked_nil : ¬ Looked c answer [] := fun ⟨_, hmem⟩ => List.not_mem_nil hmem

theorem looked_cons {x : Asked} (hx : x.act.runnerCall? = none) :
    Looked c answer (x :: asked) ↔ Looked c answer asked := by
  refine exists_congr fun clock => List.mem_cons.trans (or_iff_right ?_)
  rintro rfl
  cases hx

theorem Looked.mem_runnerCalls (h : Looked c answer asked) : .isStopped c ∈ runnerCalls asked := by
  obtain ⟨clock, h⟩ := h
  exact List.mem_filterMap.mpr ⟨_, h, rfl⟩

theorem stoppedAmong_cons_proceeds
    (h : (stoppedAmong (c :: cs)).Proceeds before asked stopped after) :
    ∃ clock answer later rest, asked = ⟨clock, .runner (.isStopped c), answer⟩ :: later ∧
      (stoppedAmong cs).Proceeds before later rest after ∧
      ∀ d, d ∈ stopped ↔ d = c ∧ answer = .ok true ∨ d ∈ rest := by
  obtain ⟨clock, answer, later, rfl, hlater⟩ := proceeds_runner_bind.mp h
  obtain ⟨rest, middle, looks, last, rfl, hlooks, hlast⟩ := proceeds_bind.mp hlater
  refine ⟨clock, answer, looks ++ last, rest, rfl, ?_⟩
  rcases answer with fault | _ | _
  · obtain ⟨rfl, rfl, rfl⟩ := hlast
    rw [List.append_nil]
    exact ⟨hlooks, fun d => (or_iff_right nofun).symm⟩
  · obtain ⟨rfl, rfl, rfl⟩ := hlast
    rw [List.append_nil]
    exact ⟨hlooks, fun d => (or_iff_right nofun).symm⟩
  · obtain ⟨rfl, rfl, rfl⟩ := hlast
    rw [List.append_nil]
    exact ⟨hlooks, fun d => List.mem_cons.trans (or_congr_left (and_iff_left rfl).symm)⟩

theorem stoppedAmong_proceeds (h : (stoppedAmong cs).Proceeds before asked stopped after) :
    after = before ∧ backendCalls asked = [] ∧ runnerCalls asked = cs.map .isStopped := by
  induction cs generalizing asked stopped with
  | nil =>
    obtain ⟨rfl, rfl, rfl⟩ := h
    exact ⟨rfl, rfl, rfl⟩
  | cons c cs ih =>
    obtain ⟨clock, answer, later, rest, rfl, hlater, -⟩ := stoppedAmong_cons_proceeds h
    obtain ⟨hafter, hbackend, hrunner⟩ := ih hlater
    rw [backendCalls_cons, runnerCalls_cons, hbackend, hrunner]
    exact ⟨hafter, rfl, rfl⟩

theorem stopped_subset (h : (stoppedAmong cs).Proceeds before asked stopped after) :
    stopped ⊆ cs := by
  induction cs generalizing asked stopped with
  | nil =>
    obtain ⟨-, rfl, -⟩ := h
    exact List.Subset.refl _
  | cons c cs ih =>
    obtain ⟨clock, answer, later, rest, -, hlater, hstopped⟩ := stoppedAmong_cons_proceeds h
    intro d hd
    rcases (hstopped d).mp hd with ⟨rfl, -⟩ | hd
    · exact List.mem_cons_self
    · exact List.mem_cons_of_mem _ (ih hlater hd)

theorem mem_stopped_iff (h : (stoppedAmong cs).Proceeds before asked stopped after)
    (hnd : cs.Nodup) (hlook : Looked c answer asked) : c ∈ stopped ↔ answer = .ok true := by
  induction cs generalizing asked stopped with
  | nil =>
    obtain ⟨rfl, -, -⟩ := h
    cases hlook.mem_runnerCalls
  | cons d cs ih =>
    obtain ⟨hnot, hnd⟩ := List.nodup_cons.mp hnd
    obtain ⟨clock, answer', later, rest, rfl, hlater, hstopped⟩ := stoppedAmong_cons_proceeds h
    rw [hstopped]
    obtain ⟨time, hlook⟩ := hlook
    -- The look is the first one or a later one, and not both, as no container is looked at twice.
    rcases List.mem_cons.mp hlook with heq | hlook
    · cases heq
      have hno : c ∉ rest := fun hc => hnot (stopped_subset hlater hc)
      exact (or_iff_left hno).trans (and_iff_right rfl)
    · have hmem := Looked.mem_runnerCalls ⟨time, hlook⟩
      rw [(stoppedAmong_proceeds hlater).2.2] at hmem
      obtain ⟨c', hc, heq⟩ := List.mem_map.mp hmem
      obtain rfl := RunnerCall.isStopped.inj heq
      have hne : c' ≠ d := fun heq => hnot (heq ▸ hc)
      exact (or_iff_right fun hfirst => hne hfirst.1).trans (ih hlater hnd ⟨time, hlook⟩)

/-! ### What is done about crashes -/

theorem reportAllCrashed_proceeds {time : Timestamp}
    (h : (reportAllCrashed time cs).Proceeds before asked () after) :
    after = before ∧ backendCalls asked = cs.map (fun c => .reportState c .crashed time) ∧
      runnerCalls asked = [] := by
  induction cs generalizing asked with
  | nil =>
    obtain ⟨rfl, -, rfl⟩ := h
    exact ⟨rfl, rfl, rfl⟩
  | cons c cs ih =>
    obtain ⟨clock, answer, later, rfl, hlater⟩ := proceeds_backend_bind.mp h
    obtain ⟨hafter, hbackend, hrunner⟩ := ih hlater
    rw [backendCalls_cons, runnerCalls_cons, hbackend, hrunner]
    exact ⟨hafter, rfl, rfl⟩

theorem stopAll_proceeds (h : (stopAll cs).Proceeds before asked () after) :
    after = before ∧ backendCalls asked = [] ∧ runnerCalls asked = cs.map .stopAgent := by
  induction cs generalizing asked with
  | nil =>
    obtain ⟨rfl, -, rfl⟩ := h
    exact ⟨rfl, rfl, rfl⟩
  | cons c cs ih =>
    obtain ⟨clock, answer, later, rfl, hlater⟩ := proceeds_runner_bind.mp h
    obtain ⟨hafter, hbackend, hrunner⟩ := ih hlater
    rw [backendCalls_cons, runnerCalls_cons, hbackend, hrunner]
    exact ⟨hafter, rfl, rfl⟩

/-- Each of the containers is reported as crashed and stopped; their tests are failed at once. -/
theorem handleCrashed_proceeds (h : (handleCrashed now cs).Proceeds before asked () after) :
    backendCalls asked = cs.map (fun c => .reportState c .crashed now.timestamp) ++
      [.failTests cs] ∧
    runnerCalls asked = cs.map .stopAgent ∧
    after = { before with tracker := before.tracker.markAllHandled cs } := by
  obtain ⟨_, middle, reports, _, rfl, hreports, hreported⟩ := proceeds_bind.mp h
  obtain ⟨rfl, hbackend, hrunner⟩ := reportAllCrashed_proceeds hreports
  obtain ⟨clock, answer, _, rfl, hfailed⟩ := proceeds_backend_bind.mp hreported
  obtain ⟨_, middle, stops, _, rfl, hstops, hlast⟩ := proceeds_bind.mp hfailed
  obtain ⟨rfl, hbackend', hrunner'⟩ := stopAll_proceeds hstops
  obtain ⟨clock', later, rfl, rfl, -, rfl⟩ := Proceeds.of_tracker_bind hlast
  simp only [backendCalls_append, runnerCalls_append, backendCalls_cons, runnerCalls_cons,
    hbackend, hrunner, hbackend', hrunner']
  exact ⟨rfl, by simp [Act.runnerCall?, runnerCalls], rfl⟩

theorem proceeds_handling (cs : List ContainerId) {β : Type} {f : Activity β} {value : β}
    (h : (if cs ≠ [] then handleCrashed now cs >>= fun _ => f else f).Proceeds before asked value
      after) :
    ∃ middle handling later, asked = handling ++ later ∧
      (if cs ≠ [] then handleCrashed now cs else pure ()).Proceeds before handling () middle ∧
      f.Proceeds middle later value after := by
  split at h
  next hsome =>
    obtain ⟨_, middle, handling, later, rfl, hhandling, hlater⟩ := proceeds_bind.mp h
    rw [if_pos hsome]
    exact ⟨middle, handling, later, rfl, hhandling, hlater⟩
  next hnone =>
    rw [if_neg hnone]
    exact ⟨before, [], asked, rfl, ⟨rfl, rfl, rfl⟩, h⟩

end Looks

/-! ### Passes -/

/-- How a pass goes, part by part: the looks at all containers, the ends of the executions that the
sweep has left without any, what is done about crashes, and the ends of the lost executions. -/
structure Passes (s : LivenessSettings) (now : Instant) (before : Service)
    (looks completions handling losses : List Asked) (stopped : List ContainerId)
    (summary : Tracker.Summary) (time : Clock) (settled handled after : Service) : Prop where
  looks : (stoppedAmong before.tracker.containers).Proceeds (before.forgetExpired s.retention time)
    looks stopped (before.forgetExpired s.retention time)
  summary_eq : summary = (before.tracker.sweep s.staleness (stopped.contains ·) now).2
  completions : FinalizesAll s .completed summary.emptied
    { before.forgetExpired s.retention time with
      tracker := (before.tracker.sweep s.staleness (stopped.contains ·) now).1 } completions settled
  handling : (if settled.tracker.crashed.toList ≠ [] then
      handleCrashed now settled.tracker.crashed.toList else pure ()).Proceeds settled handling ()
    handled
  losses : FinalizesAll s .allCrashed handled.tracker.lost handled losses after

/-- What is asked in a pass besides the questions of its parts is asked of the memory. -/
structure AskedInPass (asked looks completions handling losses : List Asked) (time : Clock) :
    Prop where
  backendCalls : backendCalls asked =
    backendCalls completions ++ backendCalls handling ++ backendCalls losses
  runnerCalls : runnerCalls asked = runnerCalls looks ++ runnerCalls completions ++
    runnerCalls handling ++ runnerCalls losses
  atOnce : ∀ clock, AtOnce clock asked → time = clock ∧ AtOnce clock completions ∧
    AtOnce clock handling ∧ AtOnce clock losses
  looked : ∀ c answer, Looked c answer asked → Looked c answer looks ∨
    Looked c answer completions ∨ Looked c answer handling ∨ Looked c answer losses
  begun : asked.head?.map Asked.clock = some time
  looks_subset : looks ⊆ asked

theorem watch_proceeds {s : LivenessSettings} {now : Instant} {before after : Service}
    {asked : List Asked} {summary : Tracker.Summary}
    (h : (watch s now).Proceeds before asked summary after) :
    ∃ looks completions handling losses stopped time settled handled,
      Passes s now before looks completions handling losses stopped summary time settled handled
        after ∧
      AskedInPass asked looks completions handling losses time := by
  obtain ⟨time, _, _, rfl, hforgot⟩ := h
  obtain ⟨t₁, _, rfl, hlisted⟩ := Proceeds.of_tracker_bind hforgot
  obtain ⟨stopped, _, looks, _, rfl, hlooks, hlooked⟩ := proceeds_bind.mp hlisted
  obtain ⟨rfl, hbackend, -⟩ := stoppedAmong_proceeds hlooks
  obtain ⟨t₂, _, rfl, hswept⟩ := Proceeds.of_tracker_bind hlooked
  obtain ⟨_, settled, completions, _, rfl, hcompletions, hsettled⟩ := proceeds_bind.mp hswept
  obtain ⟨t₃, _, rfl, hread⟩ := Proceeds.of_tracker_bind hsettled
  obtain ⟨handled, handling, _, rfl, hhandling, hhandled⟩ :=
    proceeds_handling settled.tracker.crashed.toList hread
  obtain ⟨t₄, _, rfl, hlost⟩ := Proceeds.of_tracker_bind hhandled
  obtain ⟨_, _, losses, _, rfl, hlosses, rfl, rfl, rfl⟩ := proceeds_bind.mp hlost
  refine ⟨looks, completions, handling, losses, stopped, time, settled, handled,
    ⟨hlooks, rfl, finalizeAll_proceeds hcompletions, hhandling, finalizeAll_proceeds hlosses⟩, ?_⟩
  constructor
  · simp [backendCalls_cons, Act.backendCall?, hbackend]
  · simp [runnerCalls_cons, Act.runnerCall?]
  · intro clock hat
    simp only [AtOnce, List.forall_mem_cons, List.forall_mem_append] at hat ⊢
    exact ⟨hat.1, hat.2.2.2.2.1, hat.2.2.2.2.2.2.1, hat.2.2.2.2.2.2.2.2.1⟩
  · intro c answer hlook
    rw [looked_cons rfl, looked_cons rfl, looked_append, looked_cons rfl, looked_append,
      looked_cons rfl, looked_append, looked_cons rfl, looked_append] at hlook
    simpa only [looked_nil, or_false] using hlook
  · rfl
  · exact fun x hx => .tail _ (.tail _ (List.mem_append_left _ hx))

end AgentFleet
