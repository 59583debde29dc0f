import AgentFleet.Proofs.Fleet.Accounting
import AgentFleet.Proofs.Tracker.Effect

/-!
A launch provides all agents of an execution or leaves none of them. It makes its calls in order and
stops at the first fault, which is that of a call or of a container that the tracker refuses because
it belongs to another execution. Then it reports the fault and removes what there is of the
execution, whatever fails of that; other executions are left alone.
-/

namespace AgentFleet

open Procedure Activity

/-- The fault of an answer: a call has failed, or the tracker has refused a container. -/
def Asked.fault? : Asked → Option Fault
  | ⟨_, .backend _, .error fault⟩ => some fault
  | ⟨_, .runner _, .error fault⟩ => some fault
  | ⟨_, .memory (.tracker (.upsert _ _ _)), .error refusal⟩ => some refusal.fault
  | _ => none

def outward (asked : List Asked) : List Act := (asked.map Asked.act).filter Act.isOutward

/-- The calls were made in order, all of them or up to the first fault, which is what came of it
then. -/
inductive Performed {α : Type} (calls : List Act) (asked : List Asked) : Except Fault α → Prop
  | all {a : α} : outward asked = calls → (∀ x ∈ asked, x.fault? = none) →
    Performed calls asked (.ok a)
  | stopped {earlier : List Asked} {last : Asked} {cause : Fault} : asked = earlier ++ [last] →
    outward asked <+: calls → (∀ x ∈ earlier, x.fault? = none) → last.fault? = some cause →
    Performed calls asked (.error cause)

namespace LaunchRequest

def creation (s : Settings) (r : LaunchRequest) : RunnerCall :=
  .create r.executionId (r.plan s.agent s.engine) r.replicas

def calls (s : Settings) (r : LaunchRequest) (ids : List ContainerId) : List Act :=
  [.runner (r.creation s), .runner (.start r.executionId), .backend (.addAgents r.executionId ids),
    .backend (.reportExecution r.executionId .running none)]

def undoing (r : LaunchRequest) (cause : Fault) : List Act :=
  [.backend (.reportExecution r.executionId .error (some cause.message)),
    .runner (.cleanup r.executionId)]

end LaunchRequest

structure Provided (s : Settings) (r : LaunchRequest) (before : Service) (asked : List Asked)
    (ids : List ContainerId) (after : Service) : Prop where
  accepted : r.check = .ok ()
  created : ∃ clock, (⟨clock, .runner (r.creation s), .ok ids⟩ : Asked) ∈ asked
  performed : Performed (r.calls s ids) asked (.ok ids)
  tracked : ∀ c ∈ ids, after.tracker.owner[c]? = some r.executionId
  kept : ∀ (c : ContainerId) (e : ExecutionId), before.tracker.owner[c]? = some e →
    e ≠ r.executionId → after.tracker.standing c = before.tracker.standing c

structure TornDown (s : Settings) (r : LaunchRequest) (before : Service) (asked : List Asked)
    (cause : Fault) (after : Service) : Prop where
  /-- Either the request was refused and nothing called, or the calls were made up to the fault. -/
  failed : ∃ tried undone, asked = tried ++ undone ∧ outward undone = r.undoing cause ∧
    ((∃ refusal, r.check = .error refusal ∧ refusal.fault = cause ∧ outward tried = []) ∨
      r.check = .ok () ∧ ∃ ids,
        (∀ clock cs, (⟨clock, .runner (r.creation s), .ok cs⟩ : Asked) ∈ tried → cs = ids) ∧
        Performed (r.calls s ids) tried (.error cause : Except Fault (List ContainerId)))
  gone : ∀ c : ContainerId, after.tracker.owner[c]? ≠ some r.executionId
  kept : ∀ c : ContainerId, before.tracker.owner[c]? ≠ some r.executionId →
    after.tracker.standing c = before.tracker.standing c

/-! ### Attempts that stop at the first fault -/

section Performed

variable {α β : Type} {calls calls' : List Act} {asked first later : List Asked} {a : α}
  {r : Except Fault β} {cause : Fault}

@[simp] theorem outward_append : outward (first ++ later) = outward first ++ outward later := by
  rw [outward, List.map_append, List.filter_append]
  rfl

namespace Performed

theorem quiet (hcalls : outward asked = []) (hnone : ∀ x ∈ asked, x.fault? = none) :
    Performed [] asked (.ok a) := .all hcalls hnone

theorem outward_prefix (h : Performed calls asked r) : outward asked <+: calls := by
  cases h with
  | all hcalls => exact hcalls ▸ List.prefix_rfl
  | stopped _ hcalls => exact hcalls

theorem append (h : Performed calls first (.ok a)) (h' : Performed calls' later r) :
    Performed (calls ++ calls') (first ++ later) r := by
  obtain ⟨hcalls, hnone⟩ := h
  cases h' with
  | all hcalls' hnone' =>
    refine .all (by rw [outward_append, hcalls, hcalls']) ?_
    exact List.forall_mem_append.mpr ⟨hnone, hnone'⟩
  | @stopped earlier last _ heq hcalls' hnone' hlast =>
    refine .stopped (by rw [heq, List.append_assoc]) ?_
      (List.forall_mem_append.mpr ⟨hnone, hnone'⟩) hlast
    rw [outward_append, hcalls]
    exact (List.prefix_append_right_inj calls).mpr hcalls'

theorem begun (h : Performed calls asked r) (clock : Clock) (e : ExecutionId) :
    Performed calls (⟨clock, .memory (.beginLaunch e), ()⟩ :: asked) r := by
  have hbegun : Performed [] [⟨clock, .memory (.beginLaunch e), ()⟩]
      (.ok () : Except Fault Unit) := .quiet rfl (List.forall_mem_singleton.mpr rfl)
  exact hbegun.append h

theorem error (h : Performed calls asked (.error cause : Except Fault α)) :
    Performed (calls ++ calls') asked (.error cause : Except Fault β) := by
  cases h with
  | stopped heq hcalls hnone hlast =>
    exact .stopped heq (hcalls.trans (List.prefix_append _ _)) hnone hlast

end Performed

/-- However the attempt goes, it makes these calls. -/
def Attempt.Performs (p : Attempt α) (calls : List Act) : Prop :=
  ∀ before asked r after, p.run.Proceeds before asked r after → Performed calls asked r

namespace Attempt

variable {before after : Service} {p : Attempt α} {f : α → Attempt β} {t : Activity α}

theorem lift_proceeds {r : Except Fault α} :
    (lift t).run.Proceeds before asked r after ↔
      ∃ a, r = .ok a ∧ t.Proceeds before asked a after := proceeds_bind_pure

theorem accepted_proceeds {t : Activity (Except Tracker.Refusal α)} {r : Except Fault α} :
    (accepted t).run.Proceeds before asked r after ↔
      ∃ a, r = a.mapError Tracker.Refusal.fault ∧ t.Proceeds before asked a after := by
  constructor
  · intro h
    obtain ⟨r', _, first, later, rfl, hlift, h⟩ := proceeds_run_bind.mp h
    obtain ⟨a, rfl, ht⟩ := lift_proceeds.mp hlift
    obtain ⟨rfl, rfl, rfl⟩ := proceeds_ofExcept.mp h
    exact ⟨a, rfl, by rwa [List.append_nil]⟩
  · rintro ⟨a, rfl, ht⟩
    refine proceeds_run_bind.mpr ⟨.ok a, after, asked, [], (List.append_nil _).symm,
      lift_proceeds.mpr ⟨a, rfl, ht⟩, ?_⟩
    exact proceeds_ofExcept.mpr ⟨rfl, rfl, rfl⟩

theorem performs_pure {a : α} : (pure a : Attempt α).Performs [] := by
  rintro before _ _ after ⟨rfl, rfl, rfl⟩
  exact .quiet rfl (List.forall_mem_nil _)

theorem Performs.bind (hp : p.Performs calls) (hf : ∀ a, (f a).Performs calls') :
    (p >>= f).Performs (calls ++ calls') := by
  intro before asked r after h
  obtain ⟨r', middle, first, later, rfl, hfirst, hlater⟩ := proceeds_run_bind.mp h
  cases r' with
  | ok a => exact (hp _ _ _ _ hfirst).append (hf a _ _ _ _ hlater)
  | error cause =>
    obtain ⟨rfl, rfl, rfl⟩ := hlater
    rw [List.append_nil]
    exact (hp _ _ _ _ hfirst).error

theorem performs_backend (call : BackendCall) :
    (Attempt.backend call).Performs [.backend call] := by
  rintro before _ r after ⟨clock, answer, _, rfl, rfl, rfl, rfl⟩
  cases answer with
  | ok result => exact .all rfl (List.forall_mem_singleton.mpr rfl)
  | error cause =>
    exact .stopped (List.nil_append _).symm List.prefix_rfl (List.forall_mem_nil _) rfl

theorem performs_runner (call : RunnerCall) : (Attempt.runner call).Performs [.runner call] := by
  rintro before _ r after ⟨clock, answer, _, rfl, rfl, rfl, rfl⟩
  cases answer with
  | ok result => exact .all rfl (List.forall_mem_singleton.mpr rfl)
  | error cause =>
    exact .stopped (List.nil_append _).symm List.prefix_rfl (List.forall_mem_nil _) rfl

theorem performs_clock : (lift Activity.clock).Performs [] := by
  intro before asked r after h
  obtain ⟨a, rfl, clock, _, _, rfl, rfl, -, -⟩ := lift_proceeds.mp h
  exact .quiet rfl (List.forall_mem_singleton.mpr rfl)

theorem performs_track (e : ExecutionId) (c : ContainerId) (time : Instant) :
    (accepted (Activity.tracker (.upsert e c time))).Performs [] := by
  intro before asked r after h
  obtain ⟨a, rfl, clock, _, _, rfl, rfl, rfl, -⟩ := accepted_proceeds.mp h
  have hanswer (answer : Except Tracker.Refusal Unit) :
      Performed [] [⟨clock, .memory (.tracker (.upsert e c time)), answer⟩]
        (answer.mapError Tracker.Refusal.fault) := by
    cases answer with
    | ok => exact .quiet rfl (List.forall_mem_singleton.mpr rfl)
    | error refusal =>
      exact .stopped (List.nil_append _).symm List.nil_prefix (List.forall_mem_nil _) rfl
  exact hanswer _

theorem performs_trackAll (e : ExecutionId) (time : Instant) (cs : List ContainerId) :
    (trackAll e time cs).Performs [] := by
  induction cs with
  | nil => exact performs_pure
  | cons c cs ih => exact (performs_track e c time).bind fun _ => ih

end Attempt

end Performed

/-! ### Provision -/

namespace Tracker

variable {t : Tracker} {c d : ContainerId} {e : ExecutionId} {time : Instant}

theorem filter_affect_upsert (known : Option Standing) :
    ((Operation.upsert e d time).affect c known).filter (·.owner ≠ e) =
      known.filter (·.owner ≠ e) := by
  simp only [Operation.affect]
  split
  · cases known with
    | none => simp [Standing.hear, Option.filter]
    | some known => by_cases ho : known.owner = e <;> simp [Standing.hear, Option.filter, ho]
  · rfl

theorem owner_of_accepted (h : t.Consistent)
    (hok : ((Operation.upsert e c time).apply t).1.mapError Refusal.fault = .ok ()) :
    ∃ known, ((Operation.upsert e c time).apply t).2.standing c = some known ∧
      known.owner = e := by
  rw [standing_apply h, Operation.affect, if_pos rfl]
  refine ⟨_, rfl, ?_⟩
  cases hs : t.standing c with
  | none => rfl
  | some known =>
    have ho := (standing_eq_some_iff.mp hs).1
    by_cases he : known.owner = e
    · simp [Standing.hear, he]
    · simp [Operation.apply, upsert, ho, he, orSame, Except.mapError] at hok

end Tracker

section Provision

variable {s : Settings} {r : LaunchRequest} {before after : Service} {asked : List Asked}
  {cs ids : List ContainerId} {e : ExecutionId} {c : ContainerId} {time : Instant}

namespace Attempt

theorem performs_establish : (establish r cs).Performs
    [.runner (.start r.executionId), .backend (.addAgents r.executionId cs),
      .backend (.reportExecution r.executionId .running none)] := by
  refine (performs_runner _).bind fun _ => ?_
  refine performs_clock.bind fun now => ?_
  refine (performs_trackAll _ now.wall cs).bind fun _ => ?_
  refine (performs_backend _).bind fun _ => ?_
  exact (performs_backend _).bind fun _ => performs_pure

theorem proceeds_run_bind_ok {α β : Type} {p : Attempt α} {f : α → Attempt β} {b : β}
    (h : (p >>= f).run.Proceeds before asked (.ok b) after) :
    ∃ a middle first later, asked = first ++ later ∧
      p.run.Proceeds before first (.ok a) middle ∧
      (f a).run.Proceeds middle later (.ok b) after := by
  obtain ⟨r', middle, first, later, rfl, hfirst, hlater⟩ := proceeds_run_bind.mp h
  cases r' with
  | ok a => exact ⟨a, middle, first, later, rfl, hfirst, hlater⟩
  | error cause => cases hlater.2.1

theorem trackAll_tracks (hcons : before.tracker.Consistent)
    (h : (trackAll e time cs).run.Proceeds before asked (.ok ()) after) :
    ∀ c ∈ cs, ∃ known, after.tracker.standing c = some known ∧ known.owner = e := by
  induction cs generalizing before asked with
  | nil => exact List.forall_mem_nil _
  | cons c cs ih =>
    obtain ⟨_, middle, first, later, -, hfirst, hlater⟩ := proceeds_run_bind_ok h
    have hmiddle := hfirst.consistent hcons
    obtain ⟨answer, hanswer, clock, _, _, -, rfl, rfl, rfl⟩ := accepted_proceeds.mp hfirst
    refine List.forall_mem_cons.mpr ⟨?_, ih hmiddle hlater⟩
    -- What is tracked after the first container leaves its owner as it is.
    refine hlater.standing_of (I := fun s => ∃ known, s = some known ∧ known.owner = e) hmiddle ?_
      (Tracker.owner_of_accepted hcons hanswer.symm)
    rintro x hx op hop _ ⟨known, rfl, ho⟩
    obtain ⟨d, hact⟩ := (trackAll_asks (P := fun act => ∃ d, act = .memory (.tracker (.upsert e d
      time))) fun d _ => ⟨d, rfl⟩).of_proceeds hlater x hx
    rw [hact] at hop
    obtain rfl := List.mem_singleton.mp hop
    obtain ⟨beat, hbeat⟩ := Tracker.hear_some (s := known) e time
    simp only [Tracker.Operation.affect, hbeat]
    split
    · exact ⟨_, rfl, ho⟩
    · exact ⟨_, rfl, ho⟩

theorem establish_tracks (hcons : before.tracker.Consistent)
    (h : (establish r cs).run.Proceeds before asked (.ok ids) after) :
    ids = cs ∧ ∀ c ∈ cs, ∃ known, after.tracker.standing c = some known ∧
      known.owner = r.executionId := by
  obtain ⟨_, _, _, _, -, ⟨_, _, _, -, -, -, rfl⟩, h⟩ := proceeds_run_bind_ok h
  obtain ⟨now, _, _, _, -, hclock, h⟩ := proceeds_run_bind_ok h
  obtain ⟨_, -, _, _, _, -, -, -, rfl⟩ := lift_proceeds.mp hclock
  obtain ⟨_, _, _, _, -, htracked, h⟩ := proceeds_run_bind_ok h
  obtain ⟨_, _, _, _, -, ⟨_, _, _, -, -, -, rfl⟩, h⟩ := proceeds_run_bind_ok h
  obtain ⟨_, _, _, _, -, ⟨_, _, _, -, -, -, rfl⟩, h⟩ := proceeds_run_bind_ok h
  obtain ⟨-, hids, rfl⟩ := h
  exact ⟨(Except.ok.inj hids).symm, trackAll_tracks hcons htracked⟩

theorem provision_spec {result : Except Fault (List ContainerId)} (hok : r.check = .ok ())
    (h : (provision s r).run.Proceeds before asked result after)
    (hcons : before.tracker.Consistent) :
    ∃ ids : List ContainerId,
      (∀ clock cs, (⟨clock, .runner (r.creation s), .ok cs⟩ : Asked) ∈ asked → cs = ids) ∧
      Performed (r.calls s ids) asked result ∧
      ∀ cs, result = .ok cs → cs = ids ∧
        (∃ clock, (⟨clock, .runner (r.creation s), .ok ids⟩ : Asked) ∈ asked) ∧
        ∀ c ∈ ids, ∃ known, after.tracker.standing c = some known ∧
          known.owner = r.executionId := by
  obtain ⟨clock, answer, later, rfl, hrest⟩ := provision_accepted hok h
  cases answer with
  | error cause =>
    obtain ⟨rfl, rfl⟩ := hrest
    refine ⟨[], fun clock' cs hmem => ?_, ?_, nofun⟩
    · cases List.mem_singleton.mp hmem
    · refine .stopped (List.nil_append _).symm ?_ (List.forall_mem_nil _) rfl
      exact List.prefix_append [_] _
  | ok ids =>
    have hlater := performs_establish _ _ _ _ hrest
    refine ⟨ids, fun clock' cs hmem => ?_, ?_, ?_⟩
    · rcases List.mem_cons.mp hmem with heq | hmem
      · cases heq
        rfl
      · -- Nothing is created a second time.
        have hact : Act.runner (r.creation s) ∈ outward later :=
          List.mem_filter.mpr ⟨List.mem_map.mpr ⟨_, hmem, rfl⟩, rfl⟩
        have hmem := hlater.outward_prefix.subset hact
        simp [LaunchRequest.creation] at hmem
    · have hcreated : Performed [.runner (r.creation s)]
          [⟨clock, .runner (r.creation s), .ok ids⟩] (.ok () : Except Fault Unit) :=
        .all rfl (List.forall_mem_singleton.mpr rfl)
      exact hcreated.append hlater
    · rintro cs rfl
      obtain ⟨rfl, htracked⟩ := establish_tracks hcons hrest
      exact ⟨rfl, ⟨clock, List.mem_cons_self⟩, htracked⟩

theorem provision_kept {result : Except Fault (List ContainerId)}
    (h : (provision s r).run.Proceeds before asked result after)
    (hcons : before.tracker.Consistent) :
    (after.tracker.standing c).filter (·.owner ≠ r.executionId) =
      (before.tracker.standing c).filter (·.owner ≠ r.executionId) := by
  refine h.standing_of (I := fun s => s.filter (·.owner ≠ r.executionId) =
    (before.tracker.standing c).filter (·.owner ≠ r.executionId)) hcons ?_ rfl
  intro x hx op hop known hknown
  have hact := (provision_asks s r).of_proceeds h x hx
  rw [Act.eq_of_mem_operations hop] at hact
  cases hact
  exact (Tracker.filter_affect_upsert known).trans hknown

end Attempt

/-- What does not begin or end a launch leaves alone what is being launched. -/
theorem Procedure.Proceeds.launching_eq {α : Type} {p : Activity α} {value : α}
    (h : p.Proceeds before asked value after) (hp : p.Asks (Act.OfProvision s r)) :
    after.launching = before.launching := by
  induction p generalizing before asked with
  | done a =>
    obtain ⟨-, -, rfl⟩ := h
    rfl
  | ask act next ih =>
    obtain ⟨clock, reply, later, -, h⟩ := h
    refine (ih _ h (hp.2 _)).trans ?_
    have hact := hp.1
    cases hact <;> rfl

/-- A launch releases its own entry among what is being launched, and no other. -/
theorem launch_releases {result : Except Fault (List ContainerId)}
    (h : (launch s r).Proceeds before asked result after) :
    after.launching = before.launching.erase r.executionId := by
  obtain ⟨_, _, provision, undone, provided, middle, -, hprovision, rfl, hundone⟩ := launch_parts h
  have hmiddle : middle.launching = provided.launching := by
    cases result with
    | ok ids => rw [hundone.2]
    | error cause => rw [(abort_proceeds hundone).2]
  rw [hmiddle, hprovision.launching_eq (Attempt.provision_asks s r)]
  refine Std.ExtTreeSet.ext_mem fun e => ?_
  simp only [Std.ExtTreeSet.mem_erase, Std.ExtTreeSet.mem_insert]
  tauto

theorem launch_provides (hcons : before.tracker.Consistent)
    (h : (launch s r).Proceeds before asked (.ok ids) after) :
    Provided s r before asked ids after := by
  obtain ⟨clock, clock', provision, _, provided, _, rfl, hprovision, rfl, rfl, rfl⟩ :=
    launch_parts h
  cases hcheck : r.check with
  | error refusal => cases (Attempt.provision_refused hcheck hprovision).2
  | ok =>
    obtain ⟨created, -, hperformed, hcreated⟩ := Attempt.provision_spec hcheck hprovision hcons
    obtain ⟨rfl, ⟨time, hmem⟩, htracked⟩ := hcreated ids rfl
    constructor
    · exact hcheck
    · exact ⟨time, List.mem_cons_of_mem _ (List.mem_append_left _ hmem)⟩
    · have hended : Performed [] [⟨clock', .memory (.endLaunch r.executionId), ()⟩] (.ok ids) :=
        .quiet rfl (List.forall_mem_singleton.mpr rfl)
      have hall := (hperformed.append hended).begun clock r.executionId
      rwa [List.append_nil] at hall
    · intro c hc
      obtain ⟨known, hs, ho⟩ := htracked c hc
      exact (Tracker.standing_eq_some_iff.mp hs).1.trans (congrArg some ho)
    · intro c e ho hne
      obtain ⟨beat, -, hs⟩ := hcons.standing_of_owner ho
      have hkept := Attempt.provision_kept (c := c) hprovision hcons
      rw [hs, Option.filter_some_pos (by simpa using hne)] at hkept
      rw [hs]
      exact (Option.filter_eq_some_iff.mp hkept).1

theorem launch_tornDown {cause : Fault} (hcons : before.tracker.Consistent)
    (h : (launch s r).Proceeds before asked (.error cause) after) :
    TornDown s r before asked cause after := by
  obtain ⟨clock, _, provision, _, provided, _, rfl, hprovision, hafter, hundone⟩ := launch_parts h
  obtain ⟨⟨_, _, _, _, _, _, rfl⟩, rfl⟩ := abort_proceeds hundone
  have htracker : after.tracker = provided.tracker.deleteExecution r.executionId := by rw [hafter]
  have hprovided := hprovision.consistent hcons
  have hleft (c : ContainerId) : after.tracker.standing c =
      (before.tracker.standing c).filter (·.owner ≠ r.executionId) := by
    have hkept := Attempt.provision_kept (c := c) hprovision hcons
    rw [htracker, Tracker.standing_deleteExecution hprovided]
    exact hkept
  constructor
  · refine ⟨_ :: provision, _, rfl, rfl, ?_⟩
    cases hcheck : r.check with
    | error refusal =>
      obtain ⟨rfl, hresult⟩ := Attempt.provision_refused hcheck hprovision
      exact .inl ⟨refusal, rfl, (Except.error.inj hresult).symm, rfl⟩
    | ok =>
      obtain ⟨created, honly, hperformed, -⟩ := Attempt.provision_spec hcheck hprovision hcons
      refine .inr ⟨rfl, created, fun clock' cs hmem => ?_, hperformed.begun clock r.executionId⟩
      refine honly clock' cs ((List.mem_cons.mp hmem).resolve_left ?_)
      nofun
  · intro c ho
    have hcons' : after.tracker.Consistent := htracker ▸ hprovided.deleteExecution _
    obtain ⟨beat, -, hs⟩ := hcons'.standing_of_owner ho
    rw [hleft] at hs
    simpa using (Option.filter_eq_some_iff.mp hs).2
  · intro c hno
    rw [hleft]
    cases hs : before.tracker.standing c with
    | none => rfl
    | some known =>
      rw [(Tracker.standing_eq_some_iff.mp hs).1] at hno
      exact Option.filter_some_pos (by simpa using hno)

end Provision

/-- Whatever has happened before, and however a launch goes while nothing else happens: all agents
are provided, or what there is of the execution is removed. Launches do not get stuck. -/
theorem launch_all_or_nothing (s : Settings) (r : LaunchRequest) (ops : List Tracker.Operation)
    (finalized : Std.ExtTreeMap ExecutionId Nat compare) (launching : Names) :
    let before : Service := ⟨Tracker.empty.after ops, finalized, launching⟩
    (∃ asked result after, (launch s r).Proceeds before asked result after) ∧
    ∀ asked result after, (launch s r).Proceeds before asked result after →
      after.launching = before.launching.erase r.executionId ∧
      match result with
      | .ok ids => Provided s r before asked ids after
      | .error cause => TornDown s r before asked cause after := by
  intro before
  have hcons : before.tracker.Consistent := Tracker.Consistent.empty.after ops
  refine ⟨⟨_, _, _, proceeds_alone _ ⟨0, 0, 0⟩ (Rehearsal.Script.reply {}) before⟩, ?_⟩
  intro asked result after h
  refine ⟨launch_releases h, ?_⟩
  cases result with
  | ok ids => exact launch_provides hcons h
  | error cause => exact launch_tornDown hcons h

/-- The second container that is created belongs to another execution, and the backend takes no
status. -/
def contested : Rehearsal.Script :=
  { created := .ofList [("e", ["a", "b"])] compare
    rejected := ["update_execution_status"] }

def contestedRequest : LaunchRequest := ⟨"e", "default", 2, none, none⟩

/-- The other execution has launched that container already, and it has crashed. -/
def contestedBefore : Service := ⟨Tracker.empty.after [.upsert "f" "b" 0, .markCrashed "b"], ∅, ∅⟩

def contestedLaunch : List Asked :=
  (launch Fleet.briefSettings contestedRequest).asksAlone ⟨0, 0, 0⟩ contested.reply contestedBefore

theorem launch_all_or_nothing_contested :
    let cause : Fault :=
      ⟨.invariant, "container b belongs to execution f, refusing to move it to e"⟩
    (∃ after, (launch Fleet.briefSettings contestedRequest).Proceeds contestedBefore
        contestedLaunch (.error cause) after ∧
      after.launching = contestedBefore.launching.erase "e" ∧
      TornDown Fleet.briefSettings contestedRequest contestedBefore contestedLaunch cause after) ∧
    outward contestedLaunch =
      [.runner (contestedRequest.creation Fleet.briefSettings), .runner (.start "e"),
        .backend (.reportExecution "e" .error (some cause.message)), .runner (.cleanup "e")] := by
  intro cause
  have hgoes := proceeds_alone (launch Fleet.briefSettings contestedRequest) ⟨0, 0, 0⟩
    contested.reply contestedBefore
  have hvalue : ((launch Fleet.briefSettings contestedRequest).alone ⟨0, 0, 0⟩ contested.reply
      contestedBefore).value = .error cause := by
    decide +kernel
  rw [hvalue] at hgoes
  have hlaunch := (launch_all_or_nothing Fleet.briefSettings contestedRequest
    [.upsert "f" "b" 0, .markCrashed "b"] ∅ ∅).2 _ _ _ hgoes
  exact ⟨⟨_, hgoes, hlaunch⟩, by rfl⟩

end AgentFleet
