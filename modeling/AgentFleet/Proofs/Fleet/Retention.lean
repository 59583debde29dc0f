import AgentFleet.Proofs.Fleet.Concluding
import AgentFleet.Proofs.Fleet.Finality

/-!
How long it is remembered that an execution was finalized. The note of it is made by the first call
that finalizes the execution, and it goes only when it is older than the retention. So whatever else
happens, and whoever calls, two calls that finalize one execution are more than the retention apart,
and what is remembered is what the latest of them has noted.
-/

namespace AgentFleet

open Procedure

/-- A call of the finalizer that no activity of the service makes. -/
inductive Call where
  | finalize (e : ExecutionId) (ending : Ending)
  | forget

namespace Call

def activity (s : Settings) : Call → Activity Unit
  | finalize e ending => discard (Activity.finalize s.liveness e ending)
  | forget => discard (Activity.forgetExpired s.liveness.retention)

/-- A call is made for no cause that the service knows; which one stands here does not matter. -/
def strand (s : Settings) (call : Call) : Strand := ⟨.request (.health false), call.activity s⟩

end Call

/-- Only what is older than the retention is ever forgotten. -/
theorem Cause.Scope.retention_eq {s : Settings} {cause : Cause} {retention : Nat}
    (h : cause.Scope s (.memory (.forgetExpired retention))) :
    retention = s.liveness.retention := by
  unfold Cause.Scope at h
  split at h <;> grind

namespace Fleet

variable {s : Settings} {calls : List Call} {moves : List Move} {e : ExecutionId} {ev : Event}
  {older log : List Event} {time retention : Nat}

def awaiting (s : Settings) (calls : List Call) : Fleet := { strands := calls.map (Call.strand s) }

def Steady (log : List Event) : Prop :=
  log.Pairwise fun later earlier => earlier.clock.steady ≤ later.clock.steady

def Claims (e : ExecutionId) (ev : Event) (older : List Event) : Prop :=
  ev.exchange (serviceAfter older) = ⟨.memory (.claim e), true⟩

def LastFinalized (e : ExecutionId) (time : Nat) (log : List Event) : Prop :=
  Since (fun ev older => Claims e ev older ∧ ev.clock.steady = time) (Claims e) log

/-! ### What is forgotten -/

def forgetRule (s : Settings) : Rule := fun _ _ act =>
  ∀ retention, act = .memory (.forgetExpired retention) → retention = s.liveness.retention

theorem forgetRule_kept (s : Settings) : (forgetRule s).Kept s := by
  intro cause
  refine (cause.activity_asks s).keeps (fun _ act hact _ => ?_) (fun _ _ _ _ => id) trivial
  rintro retention rfl
  exact hact.retention_eq

theorem forgetRule_call (s : Settings) (call : Call) :
    (call.activity s).Keeps (fun _ act => ∀ retention, act = .memory (.forgetExpired retention) →
      retention = s.liveness.retention) [] fun _ _ => True := by
  cases call with
  | finalize e ending =>
    refine keeps_discard.mpr ((Activity.finalize_asks s.liveness e ending).keeps
      (fun _ act hact _ => ?_) (fun _ _ _ _ => id) trivial)
    rintro retention rfl
    cases hact
    rfl
  | forget =>
    refine keeps_discard.mpr ⟨?_, fun _ => trivial⟩
    rintro retention heq
    cases heq
    rfl

theorem traced_run (s : Settings) (calls : List Call) (moves : List Move) :
    (run s (awaiting s calls) moves).Traced s (forgetRule s) := by
  refine Traced.run (traced_start fun st hst => ?_) (forgetRule_kept s) moves
  obtain ⟨call, -, rfl⟩ := List.mem_map.mp hst
  exact forgetRule_call s call

theorem retention_of_mem (hev : ev ∈ (run s (awaiting s calls) moves).log)
    (hact : ev.act = .memory (.forgetExpired retention)) : retention = s.liveness.retention := by
  obtain ⟨newer, older, hlog⟩ := List.append_of_mem hev
  exact (traced_run s calls moves).obeyed ev older ⟨newer, hlog.symm⟩ retention hact

theorem unforgotten_of_le (hsub : log <:+ (run s (awaiting s calls) moves).log) {now : Nat}
    (hnow : ∀ ev ∈ log, ev.clock.steady ≤ now) (hle : now - time ≤ s.liveness.retention) :
    Unforgotten time log := by
  intro ev hev retention hact
  rw [retention_of_mem (hsub.subset hev) hact]
  exact (Nat.sub_le_sub_right (hnow ev hev) time).trans hle

/-! ### What is remembered -/

theorem finalized_of_perform {clock : Clock} {service : Service} {act : Act} {reply : act.Answer}
    (h : (act.perform clock service reply).2.finalized[e]? = some time) :
    service.finalized[e]? = some time ∨
      act = .memory (.claim e) ∧ e ∉ service.finalized ∧ clock.steady = time := by
  cases act with
  | memory op =>
    cases op with
    | forgetExpired retention => exact .inl (Service.finalized_forgetExpired.mp h).1
    | claim e' =>
      refine (Service.finalized_claim.mp h).imp_right ?_
      rintro ⟨rfl, hno, htime⟩
      exact ⟨rfl, hno, htime⟩
    | _ => exact .inl h
  | _ => exact .inl h

theorem claims_of_not_mem (hact : ev.act = .memory (.claim e))
    (hno : e ∉ (serviceAfter older).finalized) : Claims e ev older := by
  obtain ⟨strand, cause, clock, act, reply⟩ := ev
  obtain rfl : act = .memory (.claim e) := hact
  have hfresh : (!(serviceAfter older).finalized.contains e) = true := by
    simpa [← Std.ExtTreeMap.contains_iff_mem] using hno
  exact Sigma.ext rfl (heq_of_eq hfresh)

theorem lastFinalized_of_finalized (h : (serviceAfter log).finalized[e]? = some time) :
    LastFinalized e time log := by
  induction log with
  | nil => simp [serviceAfter] at h
  | cons ev older ih =>
    refine since_cons.mpr ?_
    rcases finalized_of_perform h with hold | ⟨hact, hno, htime⟩
    · -- An execution that is remembered is not noted again.
      refine .inr ⟨fun hclaim => not_mem_of_claimed hclaim ?_, ih hold⟩
      rw [Std.ExtTreeMap.mem_iff_isSome_getElem?, hold]
      rfl
    · exact .inl ⟨claims_of_not_mem hact hno, htime⟩

theorem finalized_of_lastFinalized (hkeep : Unforgotten time log) (h : LastFinalized e time log) :
    (serviceAfter log).finalized[e]? = some time := by
  obtain ⟨ev, older, hsub, ⟨hclaim, rfl⟩, -⟩ := h
  exact finalized_of_claimed hkeep hsub hclaim

theorem isFinalized_iff (hsub : log <:+ (run s (awaiting s calls) moves).log) {clock : Clock}
    (hnow : ∀ ev ∈ log, ev.clock.steady ≤ clock.steady) :
    (serviceAfter log).isFinalized s.liveness.retention clock e = true ↔
      ∃ time, LastFinalized e time log ∧ clock.steady - time ≤ s.liveness.retention := by
  rw [Service.isFinalized_iff]
  refine exists_congr fun time => and_congr_left fun hle => ?_
  exact ⟨lastFinalized_of_finalized, finalized_of_lastFinalized (unforgotten_of_le hsub hnow hle)⟩

theorem mem_finalized_of_forgotten (hsteady : Steady (run s (awaiting s calls) moves).log)
    (hsub : ev :: older <:+ (run s (awaiting s calls) moves).log)
    (hact : ev.act = .memory (.forgetExpired retention)) :
    e ∈ (serviceAfter (ev :: older)).finalized ↔
      ∃ time, LastFinalized e time older ∧ ev.clock.steady - time ≤ s.liveness.retention := by
  obtain ⟨strand, cause, clock, act, reply⟩ := ev
  obtain rfl : act = .memory (.forgetExpired retention) := hact
  obtain rfl := retention_of_mem (hsub.subset List.mem_cons_self) rfl
  change e ∈ ((serviceAfter older).forgetExpired s.liveness.retention clock).finalized ↔ _
  rw [Service.mem_finalized_forgetExpired]
  have hnow := (List.pairwise_cons.mp (hsteady.sublist hsub.sublist)).1
  exact isFinalized_iff (older_suffix hsub) hnow

theorem claims_apart (hsteady : Steady (run s (awaiting s calls) moves).log) {first second : Event}
    {older' : List Event} (hfirst : first :: older <:+ older')
    (hsecond : second :: older' <:+ (run s (awaiting s calls) moves).log)
    (h : Claims e first older) (h' : Claims e second older') :
    s.liveness.retention < second.clock.steady - first.clock.steady := by
  by_contra hle
  -- The first note is still young at the second one, so it is still there.
  have hnow : ∀ ev ∈ older', ev.clock.steady ≤ second.clock.steady :=
    (List.pairwise_cons.mp (hsteady.sublist hsecond.sublist)).1
  have hkeep := unforgotten_of_le (older_suffix hsecond) hnow (Nat.le_of_not_lt hle)
  have hfin := finalized_of_claimed hkeep hfirst h
  apply not_mem_of_claimed h'
  rw [Std.ExtTreeMap.mem_iff_isSome_getElem?, hfin]
  rfl

/-! ### Calls -/

/-- A call that is over has gone one of the ways that its text allows. -/
theorem ends_of_call {i : Nat} {cause : Cause} {ending : Ending}
    (hcall : calls[i]? = some (.finalize e ending))
    (hover : (run s (awaiting s calls) moves).strands[i]? = some ⟨cause, .done ()⟩) :
    ∃ value, (Activity.finalize s.liveness e ending).Ends [] value
      (pastOf i (run s (awaiting s calls) moves).log) := by
  obtain ⟨p, hreach, hfirst⟩ := (spoken_run _ moves).reached i _ hover
  have hstrand : (calls.map (Call.strand s))[i]? = some (Call.strand s (.finalize e ending)) := by
    rw [List.getElem?_map, hcall, Option.map_some]
  -- The strand stands where the call was put, so it was not begun by a move.
  rcases hfirst with hfirst | ⟨hlen, -⟩
  · obtain rfl : (Call.finalize e ending).activity s = p :=
      congrArg Strand.rest (Option.some.inj (hstrand.symm.trans hfirst))
    obtain ⟨value, _, hends, -, rfl⟩ := ends_bind.mp (hreach.ends ⟨rfl, rfl⟩)
    exact ⟨value, hends⟩
  · rw [List.getElem?_eq_none hlen] at hstrand
    cases hstrand

/-- A call that finalized an execution made its note between its first question and its last. -/
theorem exists_claim_of_ends {i : Nat} {ending : Ending} {before later : Past Act.Answer}
    (hends : (Activity.finalize s.liveness e ending).Ends before true later)
    (hsub : later <:+ pastOf i log) :
    ∃ ev older, ev :: older <:+ log ∧ ev.strand = i ∧ Claims e ev older ∧
      before <:+ pastOf i older ∧ pastOf i (ev :: older) <:+ later := by
  obtain ⟨asked, rfl, hasked⟩ := finalizing_of_ends hends
  cases hasked with
  | first _ forgotten removed reported cleaned =>
    obtain ⟨ev, older, hlog, hstrand, hx, hpast⟩ :=
      exists_event_of_past ((List.suffix_append [_, _, _] _).trans hsub)
    refine ⟨ev, older, hlog, hstrand, hx, ?_, ?_⟩
    · rw [hpast]
      exact List.suffix_append (_ :: checked e ending) before
    · rw [pastOf, if_pos hstrand, hx, hpast]
      exact List.suffix_append [_, _, _] _

/-- Whatever the service does and whatever calls are made besides, in any order and with any
failures, while the clock does not go back: a call for an execution to be finalized either finalizes
it, and then it asks once for its last status to be set and once for its removal, or leaves the
tracker alone; two calls that finalize it are more than the retention apart; it is told to be
finalized as long as the latest such call is no older than the retention; and once what has expired
is forgotten just those executions are remembered. -/
theorem finalized_once_per_retention (s : Settings) (calls : List Call) (moves : List Move)
    (hsteady : Steady (run s (awaiting s calls) moves).log) :
    let f := run s (awaiting s calls) moves
    let retention := s.liveness.retention
    (∀ e ending value before later,
      (Activity.finalize s.liveness e ending).Ends before value later →
        ∃ asked, later = asked ++ before ∧ Conduct e ending value asked) ∧
    (∀ i e ending cause, calls[i]? = some (.finalize e ending) →
      f.strands[i]? = some ⟨cause, .done ()⟩ →
        ∃ value, (Activity.finalize s.liveness e ending).Ends [] value (pastOf i f.log)) ∧
    (∀ i e ending before later, (Activity.finalize s.liveness e ending).Ends before true later →
      later <:+ pastOf i f.log → ∃ ev older, ev :: older <:+ f.log ∧ ev.strand = i ∧
        Claims e ev older ∧ before <:+ pastOf i older ∧ pastOf i (ev :: older) <:+ later) ∧
    (∀ e first older second older', first :: older <:+ older' → second :: older' <:+ f.log →
      Claims e first older → Claims e second older' →
        retention < second.clock.steady - first.clock.steady) ∧
    (∀ e clock, (∀ ev ∈ f.log, ev.clock.steady ≤ clock.steady) →
      (f.service.isFinalized retention clock e = true ↔
        ∃ time, LastFinalized e time f.log ∧ clock.steady - time ≤ retention)) ∧
    ∀ e ev older span, ev :: older <:+ f.log → ev.act = .memory (.forgetExpired span) →
      (e ∈ (serviceAfter (ev :: older)).finalized ↔
        ∃ time, LastFinalized e time older ∧ ev.clock.steady - time ≤ retention) := by
  refine ⟨?_, ?_, ?_, ?_, ?_, ?_⟩
  · intro e ending value before later hends
    obtain ⟨asked, heq, hasked⟩ := finalizing_of_ends hends
    exact ⟨asked, heq, hasked.conduct⟩
  · exact fun i e ending cause => ends_of_call
  · exact fun i e ending before later => exists_claim_of_ends
  · exact fun e first older second older' => claims_apart hsteady
  · intro e clock hnow
    rw [(traced_run s calls moves).service_eq]
    exact isFinalized_iff List.suffix_rfl hnow
  · exact fun e ev older span => mem_finalized_of_forgotten hsteady

/-- An execution is finalized, and noted once more as soon as that is forgotten. -/
def relapsing : List Move :=
  steps {} 0 5 ++ List.replicate 3 (.go 1 ⟨0, 3600000000001, 0⟩ ({} : Rehearsal.Script).reply)

theorem finalized_once_per_retention_relapsing :
    let f := run briefSettings
      (awaiting briefSettings [.finalize "e" .allCrashed, .finalize "e" .completed]) relapsing
    Steady f.log ∧ ∃ first older second older', first :: older <:+ older' ∧
      second :: older' <:+ f.log ∧ Claims "e" first older ∧ Claims "e" second older' ∧
        briefSettings.liveness.retention < second.clock.steady - first.clock.steady := by
  intro f
  have hsteady : Steady f.log := by
    unfold Steady
    decide +kernel
  obtain ⟨-, -, -, hapart, -⟩ := finalized_once_per_retention briefSettings _ relapsing hsteady
  obtain ⟨second, newer, first, older, hlog, h, h'⟩ : ∃ second newer first older,
      f.log = second :: (newer ++ first :: older) ∧
      Claims "e" first older ∧ Claims "e" second (newer ++ first :: older) := by
    refine ⟨_, (f.log.drop 1).take 5, _, _, rfl, rfl, claims_of_not_mem rfl ?_⟩
    decide +kernel
  have hsecond : second :: (newer ++ first :: older) <:+ f.log := hlog ▸ List.suffix_rfl
  have hfirst : first :: older <:+ newer ++ first :: older := List.suffix_append _ _
  exact ⟨hsteady, first, older, second, _, hfirst, hsecond, h, h',
    hapart "e" first older second _ hfirst hsecond h h'⟩

end Fleet

end AgentFleet
