import AgentFleet.Proofs.Fleet.Reports

/-!
Whether the last status of an execution is final. All ends of an execution but those of its launch
go through one note, that the execution is finalized, and while it is remembered only one activity
is the first to make it. So two activities that are no launches never both report the end of an
execution. A launch neither asks for the note nor makes it: what it reports may come after the end
of its execution, and the end of its execution may come after it was reported as failed.
-/

namespace AgentFleet

open Procedure

def Cause.Launches (e : ExecutionId) : Cause → Prop
  | .job (.launch r) => r.executionId = e
  | _ => False

namespace Service

variable {service : Service} {clock : Clock} {e e' : ExecutionId} {time retention : Nat}

theorem finalized_forgetExpired :
    (service.forgetExpired retention clock).finalized[e]? = some time ↔
      service.finalized[e]? = some time ∧ clock.steady - time ≤ retention := by
  change (service.finalized.filter fun _ time =>
    decide (clock.steady - time ≤ retention))[e]? = some time ↔ _
  rw [Std.ExtTreeMap.getElem?_filter', Option.filter_eq_some_iff, decide_eq_true_iff]

theorem isFinalized_iff : service.isFinalized retention clock e = true ↔
    ∃ time, service.finalized[e]? = some time ∧ clock.steady - time ≤ retention := by
  unfold isFinalized
  cases service.finalized[e]? with
  | none => simp
  | some time => simp

theorem mem_finalized_forgetExpired :
    e ∈ (service.forgetExpired retention clock).finalized ↔
      service.isFinalized retention clock e = true := by
  rw [isFinalized_iff, Std.ExtTreeMap.mem_iff_isSome_getElem?, Option.isSome_iff_exists]
  exact exists_congr fun _ => finalized_forgetExpired

theorem finalized_claim :
    (service.claim clock e').finalized[e]? = some time ↔ service.finalized[e]? = some time ∨
      e' = e ∧ e ∉ service.finalized ∧ clock.steady = time := by
  unfold claim
  split
  next hmem =>
    refine (or_iff_left ?_).symm
    rintro ⟨rfl, hno, -⟩
    exact hno hmem
  next hno =>
    rw [Std.ExtTreeMap.getElem?_insert]
    split
    next heq =>
      obtain rfl : e' = e := Std.compare_eq_iff_eq.mp heq
      simp [hno]
    next hne =>
      refine (or_iff_left ?_).symm
      rintro ⟨rfl, -⟩
      exact hne (Std.compare_eq_iff_eq.mpr rfl)

end Service

namespace Fleet

variable {s : Settings} {moves : List Move} {e : ExecutionId} {log older older' : List Event}
  {claim claim' first second : Event}

def LaunchedOnce (e : ExecutionId) (f : Fleet) : Prop :=
  ∀ (i j : Nat) (a b : Strand), f.strands[i]? = some a → f.strands[j]? = some b →
    a.cause.Launches e → b.cause.Launches e → i = j

/-- All that happens lies within the time for which finalized executions are remembered. -/
def WithinRetention (s : Settings) (log : List Event) : Prop :=
  ∀ a ∈ log, ∀ b ∈ log, b.clock.steady - a.clock.steady ≤ s.liveness.retention

def Remembers (log : List Event) : Prop :=
  ∀ a ∈ log, ∀ b ∈ log, ∀ retention, b.act = .memory (.forgetExpired retention) →
    b.clock.steady - a.clock.steady ≤ retention

def Unforgotten (time : Nat) (log : List Event) : Prop :=
  ∀ ev ∈ log, ∀ retention, ev.act = .memory (.forgetExpired retention) →
    ev.clock.steady - time ≤ retention

/-! ### The note that an execution is finalized -/

theorem finalized_perform {clock : Clock} {service : Service} {act : Act} {reply : act.Answer}
    {time : Nat} (h : service.finalized[e]? = some time)
    (hkeep : ∀ retention, act = .memory (.forgetExpired retention) →
      clock.steady - time ≤ retention) :
    (act.perform clock service reply).2.finalized[e]? = some time := by
  cases act with
  | memory op =>
    cases op with
    | forgetExpired retention => exact Service.finalized_forgetExpired.mpr ⟨h, hkeep retention rfl⟩
    | claim e' => exact Service.finalized_claim.mpr (.inl h)
    | _ => exact h
  | _ => exact h

theorem Remembers.suffix (h : Remembers log) (hsub : older <:+ log) : Remembers older :=
  fun a ha b hb => h a (hsub.subset ha) b (hsub.subset hb)

theorem not_mem_of_claimed
    (hx : claim.exchange (serviceAfter older) = ⟨.memory (.claim e), true⟩) :
    e ∉ (serviceAfter older).finalized := by
  obtain ⟨-, hfresh, -⟩ := Event.of_exchange_memory hx
  have hno : (!(serviceAfter older).finalized.contains e) = true := hfresh
  rw [Bool.not_eq_true', ← Bool.not_eq_true, Std.ExtTreeMap.contains_iff_mem] at hno
  exact hno

theorem finalized_of_claimed (hkeep : Unforgotten claim.clock.steady log)
    (h : claim :: older <:+ log)
    (hx : claim.exchange (serviceAfter older) = ⟨.memory (.claim e), true⟩) :
    (serviceAfter log).finalized[e]? = some claim.clock.steady := by
  obtain ⟨newer, rfl⟩ := h
  -- The induction is on what happened after the note, which keeps the time of the note.
  induction newer with
  | nil =>
    have hno := not_mem_of_claimed hx
    obtain ⟨-, -, hafter⟩ := Event.of_exchange_memory hx
    change (claim.after (serviceAfter older)).finalized[e]? = _
    rw [hafter]
    change ((serviceAfter older).claim claim.clock e).finalized[e]? = _
    rw [Service.claim, if_neg hno, Std.ExtTreeMap.getElem?_insert_self]
  | cons ev newer ih =>
    obtain ⟨hev, hkeep⟩ := List.forall_mem_cons.mp hkeep
    exact finalized_perform (ih hkeep) hev

theorem not_claimed_before (hrem : Remembers log) (h' : claim' :: older' <:+ log)
    (hx : claim.exchange (serviceAfter older) = ⟨.memory (.claim e), true⟩)
    (hx' : claim'.exchange (serviceAfter older') = ⟨.memory (.claim e), true⟩) :
    ¬ claim :: older <:+ older' := by
  intro hsub
  have hrem' : Remembers older' := hrem.suffix (older_suffix h')
  have hfin := finalized_of_claimed (hrem' claim (hsub.subset List.mem_cons_self)) hsub hx
  apply not_mem_of_claimed hx'
  rw [Std.ExtTreeMap.mem_iff_isSome_getElem?, hfin]
  rfl

/-- While an execution is remembered as finalized only one activity is the first to note it. -/
theorem claimed_once (hrem : Remembers log) (h : claim :: older <:+ log)
    (h' : claim' :: older' <:+ log)
    (hx : claim.exchange (serviceAfter older) = ⟨.memory (.claim e), true⟩)
    (hx' : claim'.exchange (serviceAfter older') = ⟨.memory (.claim e), true⟩) :
    claim :: older = claim' :: older' := by
  rcases eq_or_before h h' with he | hsub | hsub
  · exact he
  · exact (not_claimed_before hrem h' hx hx' hsub).elim
  · exact (not_claimed_before hrem h hx' hx hsub).elim

theorem exists_claim_of_concluding {report : Event} {before : Past Act.Answer} {forgotten : Nat}
    {removed : List ContainerId}
    (h : pastOf report.strand older = concluding s.liveness e forgotten removed before) :
    ∃ claim claimed, claim :: claimed <:+ older ∧ claim.strand = report.strand ∧
      claim.exchange (serviceAfter claimed) = ⟨.memory (.claim e), true⟩ ∧
      (pastOf report.strand older).length = (pastOf report.strand claimed).length + 2 := by
  have hsub : ⟨.memory (.claim e), true⟩ ::
      ⟨.memory (.forgetExpired s.liveness.retention), forgotten⟩ :: before <:+
        pastOf report.strand older := by
    rw [h]
    exact List.suffix_cons _ _
  obtain ⟨claim, claimed, hlog, hstrand, hx, hpast⟩ := exists_event_of_past hsub
  refine ⟨claim, claimed, hlog, hstrand, hx, ?_⟩
  -- Only the removal of the execution and the note itself came after `claimed`.
  rw [h, hpast]
  rfl

/-- Two activities, or one of them twice, do not both conclude an execution. -/
theorem not_concluded_twice (hrem : Remembers log) (hfirst : first :: older <:+ older')
    (hsecond : second :: older' <:+ log) {forgotten forgotten' : Nat}
    {removed removed' : List ContainerId} {before before' : Past Act.Answer}
    (h : pastOf first.strand older = concluding s.liveness e forgotten removed before)
    (h' : pastOf second.strand older' = concluding s.liveness e forgotten' removed' before') :
    False := by
  obtain ⟨claim, claimed, hlog, hstrand, hx, hlen⟩ := exists_claim_of_concluding h
  obtain ⟨claim', claimed', hlog', hstrand', hx', hlen'⟩ := exists_claim_of_concluding h'
  have hold' : older' <:+ log := older_suffix hsecond
  have hold : older <:+ older' := older_suffix hfirst
  obtain ⟨rfl, rfl⟩ := List.cons.inj
    (claimed_once hrem (hlog.trans (hold.trans hold')) (hlog'.trans hold') hx hx')
  have hsame : first.strand = second.strand := hstrand.symm.trans hstrand'
  -- The first report itself stands between the note and the second one.
  have hmore := (pastOf_suffix (i := first.strand) hfirst).length_le
  rw [pastOf, if_pos rfl, List.length_cons, hlen, hsame, hlen'] at hmore
  omega

/-! ### Two reports -/

theorem remembers_of_within (hwithin : WithinRetention s (after s moves).log) :
    Remembers (after s moves).log := by
  intro a ha b hb retention hact
  obtain ⟨newer, older, hlog⟩ := List.append_of_mem hb
  have hrule := (traced_after (reportRule_kept s) moves).obeyed b older ⟨newer, hlog.symm⟩
  rw [hact] at hrule
  rw [show retention = s.liveness.retention from hrule]
  exact hwithin a ha b hb

def InOrder (log : List Event) (first second : Event) : Prop :=
  ∃ older older', first :: older <:+ older' ∧ second :: older' <:+ log

/-- Once a last status of an execution was accepted, no status of it is reported any more. -/
def TerminalIsFinal (e : ExecutionId) (log : List Event) : Prop :=
  ∀ first second status status' outcome, InOrder log first second →
    first.Reports e status (.ok ()) → status.isTerminal = true →
    ¬ second.Reports e status' outcome

/-- The end of an execution was reported although its launch had been reported as failed. -/
def ConcludedAfterAbort (e : ExecutionId) (log : List Event) : Prop :=
  ∃ first second status outcome, InOrder log first second ∧
    first.cause.Launches e ∧ first.Reports e .error (.ok ()) ∧
    ¬ second.cause.Launches e ∧ second.Reports e status outcome

/-- The launch of an execution reported a status although the execution had been concluded. -/
def LaunchedAfterConclusion (e : ExecutionId) (log : List Event) : Prop :=
  ∃ first second status status' outcome, InOrder log first second ∧
    ¬ first.cause.Launches e ∧ first.Reports e status (.ok ()) ∧
    second.cause.Launches e ∧ second.Reports e status' outcome

variable {report : Event} {status status' : ExecutionStatus} {outcome : Except Fault Unit}

theorem of_launch_reports (h : report :: older <:+ (after s moves).log)
    (hr : report.Reports e status outcome) (hc : report.cause.Launches e) :
    (status = .running ∨ status = .error) ∧ NoneAccepted (pastOf report.strand older) := by
  have hmay := mayReport_of_reports h hr
  unfold Cause.Launches at hc
  split at hc
  next r heq =>
    rw [heq] at hmay
    exact hmay.2
  next => exact hc.elim

theorem of_other_reports (h : report :: older <:+ (after s moves).log)
    (hr : report.Reports e status outcome) (hc : ¬ report.cause.Launches e) :
    MayConclude s.liveness report.cause (pastOf report.strand older) e status := by
  have hmay := mayReport_of_reports h hr
  unfold MayReport at hmay
  split at hmay
  next r heq =>
    rw [heq] at hc
    exact (hc hmay.1.symm).elim
  next => exact hmay

theorem strand_eq_of_launches (hone : LaunchedOnce e (after s moves))
    (hfirst : first ∈ (after s moves).log) (hsecond : second ∈ (after s moves).log)
    (hc : first.cause.Launches e) (hc' : second.cause.Launches e) :
    first.strand = second.strand := by
  have htraced := traced_after (reportRule_kept s) moves
  obtain ⟨a, ha, hac⟩ := htraced.caused first hfirst
  obtain ⟨b, hb, hbc⟩ := htraced.caused second hsecond
  exact hone _ _ a b ha hb (hac ▸ hc) (hbc ▸ hc')

/-- A launch reports again only if nothing that it reported was accepted. -/
theorem not_reported_twice_by_launch (hone : LaunchedOnce e (after s moves))
    (hfirst : first :: older <:+ older') (hsecond : second :: older' <:+ (after s moves).log)
    (hr : first.Reports e status (.ok ())) (hr' : second.Reports e status' outcome)
    (hc : first.cause.Launches e) (hc' : second.cause.Launches e) : False := by
  have hlog := hfirst.trans (older_suffix hsecond)
  obtain ⟨-, hnone⟩ := of_launch_reports hsecond hr' hc'
  have hstrand := strand_eq_of_launches hone (hlog.subset List.mem_cons_self)
    (hsecond.subset List.mem_cons_self) hc hc'
  obtain ⟨reason, hsent⟩ := hr
  have hmem := exchange_mem_pastOf hfirst
  rw [(Event.of_sent_backend hsent).2, hstrand] at hmem
  exact hnone e status reason hmem

/-- The end of an execution is reported at most once by activities that are no launches of it. -/
theorem not_reported_twice_by_others (hrem : Remembers (after s moves).log)
    (hfirst : first :: older <:+ older') (hsecond : second :: older' <:+ (after s moves).log)
    {outcome' : Except Fault Unit} (hr : first.Reports e status outcome)
    (hr' : second.Reports e status' outcome') (hc : ¬ first.cause.Launches e)
    (hc' : ¬ second.cause.Launches e) : False := by
  obtain ⟨_, _, _, hpast, -⟩ := of_other_reports (hfirst.trans (older_suffix hsecond)) hr hc
  obtain ⟨_, _, _, hpast', -⟩ := of_other_reports hsecond hr' hc'
  exact not_concluded_twice hrem hfirst hsecond hpast hpast'

/-- If an execution is launched at most once, and all happens while it would be remembered as
finalized, then a last status that was accepted is final, unless the launch and the conclusion of
the execution both report it: the conclusion after the launch has failed, or the launch after the
conclusion. -/
theorem terminal_final_iff (s : Settings) (moves : List Move) (e : ExecutionId)
    (hone : LaunchedOnce e (after s moves)) (hwithin : WithinRetention s (after s moves).log) :
    TerminalIsFinal e (after s moves).log ↔
      ¬ ConcludedAfterAbort e (after s moves).log ∧
      ¬ LaunchedAfterConclusion e (after s moves).log := by
  constructor
  · intro hfinal
    constructor
    · rintro ⟨first, second, status, outcome, horder, -, hr, -, hr'⟩
      exact hfinal first second _ _ _ horder hr rfl hr'
    · rintro ⟨first, second, status, status', outcome, horder, hc, hr, -, hr'⟩
      obtain ⟨older, older', hsub, hsub'⟩ := id horder
      have hlog := hsub.trans (older_suffix hsub')
      obtain ⟨_, _, _, -, hstatus⟩ := of_other_reports hlog hr hc
      refine hfinal first second _ _ _ horder hr ?_ hr'
      rcases hstatus with rfl | ⟨rfl, -⟩ <;> rfl
  · rintro ⟨habort, hlaunch⟩ first second status status' outcome horder hr hterm hr'
    obtain ⟨older, older', hsub, hsub'⟩ := id horder
    have hlog := hsub.trans (older_suffix hsub')
    by_cases hc : first.cause.Launches e <;> by_cases hc' : second.cause.Launches e
    · exact not_reported_twice_by_launch hone hsub hsub' hr hr' hc hc'
    · obtain rfl : status = .error := by
        obtain ⟨rfl | rfl, -⟩ := of_launch_reports hlog hr hc
        · cases hterm
        · rfl
      exact habort ⟨first, second, status', outcome, horder, hc, hr, hc', hr'⟩
    · exact hlaunch ⟨first, second, status, status', outcome, horder, hc, hr, hc', hr'⟩
    · exact not_reported_twice_by_others (remembers_of_within hwithin) hsub hsub' hr hr' hc hc'

/-- A launch whose containers are created but cannot be started; it is reported as failed. -/
def failedLaunch : List Move :=
  .begin (.request (.launch ⟨"e", "default", 1, none, none⟩)) ::
    (steps {} 0 1 ++ steps { rejected := ["start"] } 1 7)

/-- One of the containers asks for work all the same, is told to end, and stops. -/
def straggler : List Move :=
  beat .idle "e" "e-agent-0" ::
    (steps {} 2 7 ++ steps { stopped := .ofList ["e-agent-0"] compare } 3 10)

theorem launchedOnce_of_causes {f : Fleet} {causes : List Cause} {j : Nat}
    (hcauses : f.strands.map Strand.cause = causes)
    (hj : ∀ (i : Nat) (cause : Cause), causes[i]? = some cause → cause.Launches e → i = j) :
    LaunchedOnce e f := by
  have heq : ∀ (i : Nat) (a : Strand), f.strands[i]? = some a → a.cause.Launches e → i = j := by
    intro i a ha hc
    refine hj i a.cause ?_ hc
    rw [← hcauses, List.getElem?_map, ha, Option.map_some]
  exact fun i k a b ha hb hac hbc => (heq i a ha hac).trans (heq k b hb hbc).symm

theorem within_of_still (h : ∀ ev ∈ log, ev.clock.steady = 0) : WithinRetention s log := by
  intro a _ b hb
  rw [h b hb, Nat.zero_sub]
  exact Nat.zero_le _

theorem launchedOnce_failedLaunch : LaunchedOnce "e" (after briefSettings failedLaunch) := by
  refine launchedOnce_of_causes (j := 1) rfl fun i cause hi hc => ?_
  rcases i with _ | _ | i
  · cases hi
    exact hc.elim
  · rfl
  · cases hi

theorem terminal_final_iff_failedLaunch :
    LaunchedOnce "e" (after briefSettings failedLaunch) ∧
    WithinRetention briefSettings (after briefSettings failedLaunch).log ∧
    (TerminalIsFinal "e" (after briefSettings failedLaunch).log ↔
      ¬ ConcludedAfterAbort "e" (after briefSettings failedLaunch).log ∧
      ¬ LaunchedAfterConclusion "e" (after briefSettings failedLaunch).log) := by
  have hwithin : WithinRetention briefSettings (after briefSettings failedLaunch).log :=
    within_of_still (by decide)
  exact ⟨launchedOnce_failedLaunch, hwithin,
    terminal_final_iff _ _ _ launchedOnce_failedLaunch hwithin⟩

/-- The launch of an execution has failed and was reported so, and yet the execution is reported as
finished when one of its containers turns up. -/
theorem finished_after_failed_launch :
    LaunchedOnce "e" (after briefSettings (failedLaunch ++ straggler)) ∧
    WithinRetention briefSettings (after briefSettings (failedLaunch ++ straggler)).log ∧
    ∃ first second, InOrder (after briefSettings (failedLaunch ++ straggler)).log first second ∧
      first.Reports "e" .error (.ok ()) ∧ second.Reports "e" .finished (.ok ()) := by
  refine ⟨?_, within_of_still (by decide), ?_⟩
  · refine launchedOnce_of_causes (j := 1) rfl fun i cause hi hc => ?_
    rcases i with _ | _ | _ | _ | i
    · cases hi
      exact hc.elim
    · rfl
    · cases hi
      exact hc.elim
    · cases hi
      exact hc.elim
    · cases hi
  · obtain ⟨second, newer, first, older, hlog, hr, hr'⟩ : ∃ second newer first older,
        (after briefSettings (failedLaunch ++ straggler)).log =
          second :: (newer ++ first :: older) ∧
        first.Reports "e" .error (.ok ()) ∧ second.Reports "e" .finished (.ok ()) :=
      ⟨_, (after briefSettings (failedLaunch ++ straggler)).log.tail.take 19, _, _, rfl,
        ⟨_, rfl⟩, ⟨_, rfl⟩⟩
    exact ⟨first, second, ⟨older, _, ⟨newer, rfl⟩, hlog ▸ List.suffix_rfl⟩, hr, hr'⟩

end Fleet

end AgentFleet
