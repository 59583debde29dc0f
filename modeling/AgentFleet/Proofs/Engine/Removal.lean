import Mathlib.Data.List.Infix
import AgentFleet.Proofs.Engine.Containers
import AgentFleet.Proofs.Engine.Session

/-!
What is made of the removal of several containers at once. The engine removes each on its own, and
has one line for each that it has not removed. All these lines are searched at once for one that
says that something is missing; so a container that is missing hides whatever the others fail for.
-/

namespace AgentFleet.Engine

open Procedure

/-! ### What complaints say -/

theorem occurs_iff {part cs : List Char} : occurs part cs = true ↔ part <:+: cs := by
  induction cs with
  | nil => simp [occurs]
  | cons c cs ih =>
    rw [occurs, Bool.or_eq_true, List.isPrefixOf_iff_prefix, ih, List.infix_cons_iff]

/-- A part that does not hold the separator lies on one side of it. -/
theorem infix_append_cons_iff {part as bs : List Char} {sep : Char} (h : sep ∉ part) :
    part <:+: as ++ sep :: bs ↔ part <:+: as ∨ part <:+: bs := by
  have hstart : ∀ as : List Char, part <+: as ++ sep :: bs → part <+: as := by
    intro as hpart
    rcases List.prefix_or_prefix_of_prefix hpart (List.prefix_append as _) with has | has
    · exact has
    · obtain ⟨rest, rfl⟩ := has
      rw [List.prefix_append_right_inj] at hpart
      cases rest with
      | nil => simp
      | cons c rest =>
        rw [List.cons_prefix_cons] at hpart
        simp [hpart.1] at h
  constructor
  · intro hpart
    induction as with
    | nil =>
      rcases List.infix_cons_iff.mp hpart with hnow | hlater
      · exact .inl (hstart [] hnow).isInfix
      · exact .inr hlater
    | cons a as ih =>
      rcases List.infix_cons_iff.mp hpart with hnow | hlater
      · exact .inl (hstart (a :: as) hnow).isInfix
      · exact (ih hlater).imp_left List.infix_cons
  · rintro (has | hbs)
    · exact has.trans (List.infix_append' [] as _)
    · exact hbs.trans ((List.suffix_cons _ _).trans (List.suffix_append _ _)).isInfix

theorem saysMissing_iff {complaint : String} : saysMissing complaint = true ↔
    "no such".toList <:+: complaint.toList.map Char.toLower := by
  have hlower : (Text.lowerAscii complaint).toList = complaint.toList.map Char.toLower :=
    String.toList_ofList
  rw [saysMissing, occurs_iff, hlower]

/-- Several complaints, each on a line of its own, say that something is missing if one of them
does. -/
theorem saysMissing_printedNames {complaints : List String} :
    saysMissing (Instruction.printedNames complaints) = true ↔
      ∃ complaint ∈ complaints, saysMissing complaint = true := by
  simp only [saysMissing_iff, Instruction.printedNames, String.toList_ofList]
  induction complaints with
  | nil => simp
  | cons complaint complaints ih =>
    rw [List.flatMap_cons, List.append_assoc, List.singleton_append, List.map_append, List.map_cons,
      infix_append_cons_iff (by decide), ih, List.exists_mem_cons_iff]

theorem saysMissing_append {complaint : String} (h : saysMissing complaint = true) (more : String) :
    saysMissing (complaint ++ more) = true := by
  rw [saysMissing_iff] at h ⊢
  rw [String.toList_append, List.map_append]
  exact h.trans (List.prefix_append _ _).isInfix

/-! ### How containers fare -/

inductive Removal where
  | removed
  /-- There was no such container. -/
  | missing
  | failed (reason : String)
  deriving DecidableEq, Repr

def Removal.complaint? (name : ContainerId) : Removal → Option String
  | removed => none
  | missing => some ("No such container: " ++ name)
  | failed reason => some reason

/-- The engine removes each container on its own. It succeeds if all are removed, and otherwise has
a line for each that is not, in any order. -/
structure Reports (removals : List (ContainerId × Removal)) (output : Output) : Prop where
  success : output.success = true ↔ ∀ r ∈ removals, r.2 = .removed
  complaints : ∃ complaints : List String,
    complaints.Perm (removals.filterMap fun r => r.2.complaint? r.1) ∧
      output.stderr = Instruction.printedNames complaints

/-- All containers are removed, or one that is not has a complaint that something is missing. -/
def Tolerated (removals : List (ContainerId × Removal)) : Prop :=
  (∀ r ∈ removals, r.2 = .removed) ∨
    ∃ r ∈ removals, r.2 = .missing ∨ ∃ reason, r.2 = .failed reason ∧ saysMissing reason = true

/-- The command was run, and either succeeded or complained that something is missing. -/
def Passed (outcome : Except String Output) : Prop :=
  ∃ output, outcome = .ok output ∧ (output.success = true ∨ saysMissing output.stderr = true)

theorem Reports.passed_iff {removals : List (ContainerId × Removal)} {output : Output}
    (h : Reports removals output) : Passed (.ok output) ↔ Tolerated removals := by
  obtain ⟨hsuccess, complaints, hperm, hstderr⟩ := h
  have hmissing : saysMissing output.stderr = true ↔ ∃ r ∈ removals, r.2 = .missing ∨
      ∃ reason, r.2 = .failed reason ∧ saysMissing reason = true := by
    simp only [hstderr, saysMissing_printedNames, hperm.mem_iff, List.mem_filterMap]
    constructor
    · rintro ⟨complaint, ⟨⟨name, removal⟩, hr, hcomplaint⟩, hsays⟩
      refine ⟨_, hr, ?_⟩
      cases removal with
      | removed => cases hcomplaint
      | missing => exact .inl rfl
      | failed reason =>
        cases hcomplaint
        exact .inr ⟨_, rfl, hsays⟩
    · rintro ⟨⟨name, removal⟩, hr, rfl | ⟨reason, rfl, hsays⟩⟩
      · exact ⟨_, ⟨_, hr, rfl⟩, saysMissing_append (by decide) name⟩
      · exact ⟨reason, ⟨_, hr, rfl⟩, hsays⟩
  rw [Tolerated, ← hsuccess, ← hmissing]
  exact ⟨fun ⟨_, heq, hpassed⟩ => Except.ok.inj heq ▸ hpassed, fun hpassed => ⟨_, rfl, hpassed⟩⟩

/-! ### Sessions -/

namespace Session

variable {s : EngineSettings} {c : Command} {e : ExecutionId} {keep : Names}
  {past later : Past Request.Answer} {names : List ContainerId} {outcome : Except String Output}

/-- A command that may find its object missing ends well if it passes. -/
theorem map_tolerantResult_iff :
    (tolerantResult s c outcome).map (fun _ => ()) = .ok () ↔ Passed outcome := by
  cases outcome with
  | error reason => simp [tolerantResult, Passed, Except.map]
  | ok output =>
    by_cases hsuccess : output.success = true <;>
      by_cases hmissing : saysMissing output.stderr = true <;>
      simp [tolerantResult, Passed, hsuccess, hmissing, Except.map]

theorem ends_removal {result : Except Fault Unit} :
    (discard (execTolerant s c)).run.Ends past result later ↔
      ∃ outcome, (tolerantResult s c outcome).map (fun _ => ()) = result ∧
        ⟨.run c, outcome⟩ :: past = later :=
  ends_bind_pure fun _ => ends_execTolerant

/-- What follows a removal is done only if the removal passed. -/
theorem of_ends_removal {rest : Session Unit} {result : Except Fault Unit}
    (h : (discard (execTolerant s c) >>= fun _ => rest).run.Ends past result later) :
    ∃ outcome : Except String Output,
      Passed outcome ∧ rest.run.Ends (⟨.run c, outcome⟩ :: past) result later ∨
      ¬ Passed outcome ∧ result ≠ .ok () ∧ later = ⟨.run c, outcome⟩ :: past := by
  obtain ⟨r, middle, hremove, hrest⟩ := ends_run_bind.mp h
  obtain ⟨outcome, hr, rfl⟩ := ends_removal.mp hremove
  refine ⟨outcome, ?_⟩
  cases r with
  | ok => exact .inl ⟨map_tolerantResult_iff.mp hr, hrest⟩
  | error fault =>
    obtain ⟨rfl, rfl⟩ := hrest
    refine .inr ⟨fun hpassed => ?_, nofun, rfl⟩
    cases hr.symm.trans (map_tolerantResult_iff.mpr hpassed)

theorem ends_pass (h : Passed outcome) :
    (discard (execTolerant s c)).run.Ends past (.ok ()) (⟨.run c, outcome⟩ :: past) :=
  ends_removal.mpr ⟨outcome, map_tolerantResult_iff.mpr h, rfl⟩

theorem cleanup_ends {listing : Output} {answer : Except String Output}
    (hlist : listing.success = true) (hnames : Engine.names listing.stdout = names)
    (hfound : names ≠ []) (hpassed : Passed outcome) (hvolume : Passed answer) :
    (cleanup s e).run.Ends [] (.ok ()) [⟨.run (forgetVolume (volumeName e)), answer⟩,
      ⟨.run (removeContainers names), outcome⟩, ⟨.run (listContainers e true), .ok listing⟩] := by
  refine ends_run_bind.mpr ⟨.ok names, _, ends_containers.mpr ⟨.ok listing, ?_, rfl⟩, ?_⟩
  · rw [checkedResult, if_pos hlist, ← hnames]
    rfl
  · dsimp only
    split
    next => exact (hfound rfl).elim
    next => exact ends_run_bind.mpr ⟨.ok (), _, ends_pass hpassed, ends_pass hvolume⟩

theorem prune_ends {listing volumes : Output} (hlist : listing.success = true)
    (hnames : candidates listing.stdout keep = names) (hfound : names ≠ [])
    (hpassed : Passed outcome) (hvolumes : volumes.success = true)
    (hnone : candidates volumes.stdout keep = []) :
    (prune s keep).run.Ends [] (.ok ()) [⟨.run listVolumes, .ok volumes⟩,
      ⟨.run (removeContainers names), outcome⟩, ⟨.run listUnused, .ok listing⟩] := by
  refine ends_run_bind.mpr ⟨.ok listing, _,
    ends_execChecked.mpr ⟨.ok listing, if_pos hlist, rfl⟩, ?_⟩
  dsimp only
  rw [hnames]
  split
  next => exact (hfound rfl).elim
  next =>
    refine ends_run_bind.mpr ⟨.ok (), _, ends_pass hpassed, ends_run_bind.mpr
      ⟨.ok volumes, _, ends_execChecked.mpr ⟨.ok volumes, if_pos hvolumes, rfl⟩, ?_⟩⟩
    dsimp only
    rw [hnone]
    exact ⟨rfl, rfl⟩

theorem Ran.of_ends {rest : Session Unit} {result : Except Fault Unit}
    (hran : Ran later c outcome) (hasks : rest.run.Asks (· ≠ .run c))
    (h : rest.run.Ends past result later) : Ran past c outcome :=
  hasks.mem_of_ends h hran (not_not_intro rfl)

theorem run_ne_of_instruction {c c' : Command} (h : c.instruction ≠ c'.instruction) :
    Request.run c ≠ .run c' := by
  rintro ⟨⟩
  exact h rfl

/-- Once containers were to be removed, a cleanup succeeds if this passed, and the removal of the
volume after it. -/
theorem cleanup_ok_iff {result : Except Fault Unit} (h : (cleanup s e).run.Ends [] result later)
    (hrm : Ran later (removeContainers names) outcome) :
    result = .ok () ↔ Passed outcome ∧
      ∃ answer, Ran later (forgetVolume (volumeName e)) answer ∧ Passed answer := by
  have hasks : (discard (execTolerant s (forgetVolume (volumeName e)))).run.Asks
      (· ≠ .run (removeContainers names)) :=
    asks_discard (asks_execTolerant (run_ne_of_instruction (by simp)))
  obtain ⟨r, middle, hlist, hrest⟩ := ends_run_bind.mp h
  obtain ⟨listing, -, rfl⟩ := ends_containers.mp hlist
  cases r with
  | error fault =>
    obtain ⟨rfl, rfl⟩ := hrest
    simp [removeContainers, listContainers] at hrm
  | ok found =>
    dsimp only at hrest
    split at hrest
    -- With no container on the list no removal is run.
    next =>
      have hpast := Ran.of_ends hrm hasks hrest
      simp [removeContainers, listContainers] at hpast
    next =>
      obtain ⟨answer, ⟨hpassed, hvolume⟩ | ⟨hno, hresult, rfl⟩⟩ := of_ends_removal hrest
      · have hpast := Ran.of_ends hrm hasks hvolume
        obtain ⟨-, rfl⟩ : names = found ∧ outcome = answer := by
          simpa [removeContainers, listContainers] using hpast
        obtain ⟨volume, rfl, rfl⟩ := ends_removal.mp hvolume
        rw [map_tolerantResult_iff, and_iff_right hpassed]
        simp [forgetVolume, removeContainers, listContainers]
      · obtain ⟨-, rfl⟩ : names = found ∧ outcome = answer := by
          simpa [removeContainers, listContainers] using hrm
        exact iff_of_false hresult fun hpassed => hno hpassed.1

/-- In a turn of pruning the volumes are listed, once containers were to be removed, if this
passed. -/
theorem prune_lists_volumes_iff {result : Except Fault Unit}
    (h : (prune s keep).run.Ends [] result later)
    (hrm : Ran later (removeContainers names) outcome) :
    ((∃ answer, Ran later listVolumes answer) ↔ Passed outcome) ∧
      (result = .ok () → Passed outcome) := by
  have hasks : (do
      let listing ← execChecked s listVolumes
      removeVolumes s (candidates listing.stdout keep) : Session Unit).run.Asks
        (· ≠ .run (removeContainers names)) := by
    refine (asks_execChecked ?_).run_bind fun listing => asks_removeVolumes (fun name => ?_) _ <;>
      exact run_ne_of_instruction (by simp)
  obtain ⟨r, middle, hlist, hrest⟩ := ends_run_bind.mp h
  obtain ⟨listing, -, rfl⟩ := ends_execChecked.mp hlist
  cases r with
  | error fault =>
    obtain ⟨rfl, rfl⟩ := hrest
    simp [removeContainers, listUnused] at hrm
  | ok found =>
    dsimp only at hrest
    split at hrest
    next =>
      have hpast := Ran.of_ends hrm hasks hrest
      simp [removeContainers, listUnused] at hpast
    next =>
      obtain ⟨answer, ⟨hpassed, hvolumes⟩ | ⟨hno, hresult, rfl⟩⟩ := of_ends_removal hrest
      · have hpast := Ran.of_ends hrm hasks hvolumes
        obtain ⟨-, rfl⟩ : names = candidates found.stdout keep ∧ outcome = answer := by
          simpa [removeContainers, listUnused] using hpast
        obtain ⟨r, middle, hlist, hrest⟩ := ends_run_bind.mp hvolumes
        obtain ⟨volumes, -, rfl⟩ := ends_execChecked.mp hlist
        refine ⟨iff_of_true ⟨volumes, ?_⟩ hpassed, fun _ => hpassed⟩
        cases r with
        | error fault => exact hrest.2 ▸ List.mem_cons_self
        | ok output => exact hrest.suffix.subset List.mem_cons_self
      · obtain ⟨-, rfl⟩ : names = candidates found.stdout keep ∧ outcome = answer := by
          simpa [removeContainers, listUnused] using hrm
        refine ⟨iff_of_false ?_ hno, fun hok => (hresult hok).elim⟩
        simp [removeContainers, listUnused, listVolumes]

end Session

/-- Once the engine has answered the removal of some containers, a cleanup can succeed, and pruning
goes on to the volumes, in just one case: no container is left, or one of the complaints says that
something is missing. What the other containers fail for makes no difference then. -/
theorem removal_tolerated_iff {removals : List (ContainerId × Removal)} {output : Output}
    (h : Reports removals output) (s : EngineSettings) :
    (∀ (e : ExecutionId) (result : Except Fault Unit) (later : Past Request.Answer),
      (Session.cleanup s e).run.Ends [] result later →
      Ran later (removeContainers (removals.map Prod.fst)) (.ok output) →
      (result = .ok () ↔ Tolerated removals ∧
        ∃ answer, Ran later (forgetVolume (volumeName e)) answer ∧ Passed answer)) ∧
    ∀ (keep : Names) (result : Except Fault Unit) (later : Past Request.Answer),
      (Session.prune s keep).run.Ends [] result later →
      Ran later (removeContainers (removals.map Prod.fst)) (.ok output) →
      ((∃ answer, Ran later listVolumes answer) ↔ Tolerated removals) ∧
        (result = .ok () → Tolerated removals) := by
  refine ⟨fun e result later hrun hran => ?_, fun keep result later hrun hran => ?_⟩
  · rw [Session.cleanup_ok_iff hrun hran, h.passed_iff]
  · rw [← h.passed_iff]
    exact Session.prune_lists_volumes_iff hrun hran

def mixedRemovals : List (ContainerId × Removal) :=
  [("a", .missing), ("b", .failed "cannot remove b: permission denied")]

def mixedOutput : Output :=
  ⟨false, "", "No such container: a\ncannot remove b: permission denied\n"⟩

def mixedCleanup : Past Request.Answer :=
  [⟨.run (forgetVolume (volumeName "e")), .ok ⟨true, "", ""⟩⟩,
    ⟨.run (removeContainers ["a", "b"]), .ok mixedOutput⟩,
    ⟨.run (listContainers "e" true), .ok ⟨true, "a\nb\n", ""⟩⟩]

def mixedPruning : Past Request.Answer :=
  [⟨.run listVolumes, .ok ⟨true, "", ""⟩⟩,
    ⟨.run (removeContainers ["a", "b"]), .ok mixedOutput⟩,
    ⟨.run listUnused, .ok ⟨true, "a\te\nb\te\n", ""⟩⟩]

theorem reports_mixed : Reports mixedRemovals mixedOutput where
  success := by decide
  complaints := ⟨_, .refl _, by decide +kernel⟩

theorem passed_mixed : Passed (.ok mixedOutput) := ⟨_, rfl, .inr (by decide +kernel)⟩

theorem cleanup_ends_mixed : (Session.cleanup {} "e").run.Ends [] (.ok ()) mixedCleanup :=
  Session.cleanup_ends rfl (by decide +kernel) nofun passed_mixed ⟨_, rfl, .inl rfl⟩

theorem prune_ends_mixed : (Session.prune {} ∅).run.Ends [] (.ok ()) mixedPruning :=
  Session.prune_ends rfl (by decide +kernel) nofun passed_mixed rfl (by decide +kernel)

theorem removal_tolerated_iff_mixed :
    Reports mixedRemovals mixedOutput ∧
    (Session.cleanup {} "e").run.Ends [] (.ok ()) mixedCleanup ∧
    (Session.prune {} ∅).run.Ends [] (.ok ()) mixedPruning ∧ Tolerated mixedRemovals ∧
    (∃ answer, Ran mixedCleanup (forgetVolume (volumeName "e")) answer ∧ Passed answer) ∧
    ∃ answer, Ran mixedPruning listVolumes answer := by
  have h := removal_tolerated_iff reports_mixed {}
  have hcleanup := (h.1 "e" _ _ cleanup_ends_mixed (.tail _ (.head _))).mp rfl
  have hpruning := (h.2 ∅ _ _ prune_ends_mixed (.tail _ (.head _))).1
  exact ⟨reports_mixed, cleanup_ends_mixed, prune_ends_mixed, hcleanup.1, hcleanup.2,
    hpruning.mpr hcleanup.1⟩

/-- The one that cannot be removed is passed over because the other one is missing. -/
theorem failure_hidden_by_missing :
    Reports mixedRemovals mixedOutput ∧
    ("b", .failed "cannot remove b: permission denied") ∈ mixedRemovals ∧
    (Session.cleanup {} "e").run.Ends [] (.ok ()) mixedCleanup ∧
    Ran mixedCleanup (removeContainers (mixedRemovals.map Prod.fst)) (.ok mixedOutput) ∧
    (Session.prune {} ∅).run.Ends [] (.ok ()) mixedPruning ∧
    Ran mixedPruning (removeContainers (mixedRemovals.map Prod.fst)) (.ok mixedOutput) :=
  ⟨reports_mixed, .tail _ (.head _), cleanup_ends_mixed, .tail _ (.head _), prune_ends_mixed,
    .tail _ (.head _)⟩

end AgentFleet.Engine
