import AgentFleet.Proofs.Fleet.Reports
import AgentFleet.Proofs.Tracker.Crashes

/-!
When an execution is reported as finished. Whoever reports it asked before whether the execution has
live agents, and was told that all containers that were still tracked for it had crashed. Whether
their crashes had been handled by then is not asked.
-/

namespace AgentFleet.Fleet

variable {s : Settings} {moves : List Move} {e : ExecutionId} {report : Event}
  {older check : List Event} {outcome : Except Fault Unit}

/-- The end of an execution goes back to the question whether it has live agents, which the same
activity asked when the log was `check`; in between it did nothing but conclude the execution. -/
structure CompletedAt (s : Settings) (e : ExecutionId) (report : Event)
    (older check : List Event) : Prop where
  asked : ∃ question, question :: check <:+ older ∧ question.strand = report.strand ∧
    question.exchange (serviceAfter check) = ⟨.memory (.tracker (.hasLive e)), false⟩
  concluded : ∃ forgotten removed, pastOf report.strand older =
    concluding s.liveness e forgotten removed
      (⟨.memory (.tracker (.hasLive e)), false⟩ :: pastOf report.strand check)
  led : LeadsToCheck e report.cause (pastOf report.strand check)

def NoCrashOpen (e : ExecutionId) (t : Tracker) : Prop :=
  ∀ c ∈ t.containersOf e, c ∈ t.crashed → c ∈ t.handled

theorem exists_completedAt (h : report :: older <:+ (after s moves).log)
    (hr : report.Reports e .finished outcome) : ∃ check, CompletedAt s e report older check := by
  have hmay := mayReport_of_reports h hr
  unfold MayReport at hmay
  split at hmay
  next =>
    obtain ⟨-, hstatus | hstatus, -⟩ := hmay <;> cases hstatus
  next =>
    obtain ⟨forgotten, removed, before, hpast, hstatus | ⟨-, rest, rfl, hled⟩⟩ := hmay
    · cases hstatus
    · have hsub :
          ⟨.memory (.tracker (.hasLive e)), false⟩ :: rest <:+ pastOf report.strand older := by
        rw [hpast]
        exact List.suffix_append [_, _, _] _
      obtain ⟨question, check, hlog, hstrand, hx, rfl⟩ := exists_event_of_past hsub
      exact ⟨check, ⟨question, hlog, hstrand, hx⟩, ⟨forgotten, removed, hpast⟩, hled⟩

/-- The containers that are tracked when an execution is found to be completed have all crashed. -/
theorem CompletedAt.crashed (h : CompletedAt s e report older check) {c : ContainerId}
    (hc : c ∈ (trackerAfter check).containersOf e) : c ∈ (trackerAfter check).crashed := by
  obtain ⟨question, -, -, hx⟩ := h.asked
  obtain ⟨-, hlive, -⟩ := Event.of_exchange_memory hx
  have hall : (trackerAfter check).hasLive e = false := hlive
  simp only [Tracker.hasLive, List.any_eq_false] at hall
  have := hall c (Std.ExtTreeSet.mem_toList.mpr hc)
  simpa using this

/-- An execution is reported as finished only after it was asked whether it has live agents, by a
pass that had removed the last of its containers or after the wait for one of them. All containers
that were tracked for it then had crashed, and no crash was left to be handled exactly if each of
them had been handled since. -/
theorem finished_of_check (s : Settings) (moves : List Move) (e : ExecutionId) (report : Event)
    (older : List Event) (outcome : Except Fault Unit)
    (h : report :: older <:+ (after s moves).log) (hr : report.Reports e .finished outcome) :
    (∃ check, CompletedAt s e report older check) ∧
    ∀ check, CompletedAt s e report older check →
      (∀ c ∈ (trackerAfter check).containersOf e, c ∈ (trackerAfter check).crashed) ∧
      (NoCrashOpen e (trackerAfter check) ↔ ∀ c ∈ (trackerAfter check).containersOf e,
        Tracker.HandledSinceCrash c (operations check)) := by
  refine ⟨exists_completedAt h hr, fun check hcheck => ⟨fun c hc => hcheck.crashed hc, ?_⟩⟩
  refine forall₂_congr fun c hc => ?_
  have hcr := hcheck.crashed hc
  rw [imp_iff_right hcr]
  rw [trackerAfter_eq] at hcr ⊢
  exact (Tracker.marks_of_crashed hcr).1

def lastAgent (script : Rehearsal.Script) (n : Nat) : List Move :=
  beat .idle "e" "a" :: (steps {} 0 7 ++ steps script 1 n)

/-- The agent stops in time. -/
theorem finished_of_check_stopped :
    ∃ report older, report :: older <:+ (after briefSettings
        (lastAgent { stopped := .ofList ["a"] compare } 10)).log ∧
      report.Reports "e" .finished (.ok ()) ∧
      ∃ check, CompletedAt briefSettings "e" report older check := by
  obtain ⟨report, older, hlog, hr⟩ : ∃ report older, (after briefSettings
        (lastAgent { stopped := .ofList ["a"] compare } 10)).log = report :: older ∧
      report.Reports "e" .finished (.ok ()) := ⟨_, _, rfl, _, rfl⟩
  have hsub : report :: older <:+ (after briefSettings
      (lastAgent { stopped := .ofList ["a"] compare } 10)).log := hlog ▸ List.suffix_rfl
  exact ⟨report, older, hsub, hr, (finished_of_check _ _ _ _ _ _ hsub hr).1⟩

/-- The agent does not stop and counts as crashed, and in the same breath its execution is reported
as finished, with that crash open. -/
theorem finished_with_open_crash :
    ∃ report older check, report :: older <:+ (after briefSettings (lastAgent {} 13)).log ∧
      report.Reports "e" .finished (.ok ()) ∧
      CompletedAt briefSettings "e" report older check ∧
      ¬ NoCrashOpen "e" (trackerAfter check) := by
  obtain ⟨report, removal, claim, forget, question, check, hlog, hr, hstrand, hx, hpast, hled,
      hc, hcr, hopen⟩ :
    ∃ report removal claim forget question check, (after briefSettings (lastAgent {} 13)).log =
        report :: removal :: claim :: forget :: question :: check ∧
      report.Reports "e" .finished (.ok ()) ∧
      question.strand = report.strand ∧
      question.exchange (serviceAfter check) = ⟨.memory (.tracker (.hasLive "e")), false⟩ ∧
      (∃ forgotten removed, pastOf report.strand (removal :: claim :: forget :: question :: check) =
        concluding briefSettings.liveness "e" forgotten removed
          (⟨.memory (.tracker (.hasLive "e")), false⟩ :: pastOf report.strand check)) ∧
      LeadsToCheck "e" report.cause (pastOf report.strand check) ∧
      "a" ∈ (trackerAfter check).containersOf "e" ∧ "a" ∈ (trackerAfter check).crashed ∧
      "a" ∉ (trackerAfter check).handled :=
    ⟨_, _, _, _, _, _, rfl, ⟨_, rfl⟩, rfl, rfl, ⟨_, _, rfl⟩, ⟨rfl, .inr ⟨_, _, rfl⟩⟩,
      by decide, by decide, by decide⟩
  have hasked : question :: check <:+ removal :: claim :: forget :: question :: check :=
    List.suffix_append [removal, claim, forget] _
  refine ⟨report, _, check, hlog ▸ List.suffix_rfl, hr,
    ⟨⟨question, hasked, hstrand, hx⟩, hpast, hled⟩, ?_⟩
  intro h
  exact hopen (h "a" hc hcr)

end AgentFleet.Fleet
