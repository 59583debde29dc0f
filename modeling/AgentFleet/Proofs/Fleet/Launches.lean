import AgentFleet.Proofs.Fleet.Finality

/-!
Which executions are protected from pruning while they are launched. A launch notes that it has
begun, and takes the note away when it is over, whatever came of it; but all launches of an
execution share one note. So an execution that is being launched is protected as long as none of its
launches has ended since the last one was begun. What ends first takes the note away from the
others.
-/

namespace AgentFleet

open Procedure

namespace Service

theorem mem_protectedExecutions {service : Service} {e : ExecutionId} :
    e ∈ service.protectedExecutions ↔ e ∈ service.tracker.executions ∨ e ∈ service.launching := by
  rw [protectedExecutions, Std.ExtTreeSet.mem_toList, Std.ExtTreeSet.mem_union_iff,
    Std.ExtTreeSet.mem_ofList, List.contains_iff_mem]

end Service

theorem Cause.Launches.eq_job {cause : Cause} {e : ExecutionId} (h : cause.Launches e) :
    ∃ r : LaunchRequest, cause = .job (.launch r) ∧ r.executionId = e := by
  unfold Cause.Launches at h
  split at h
  next r => exact ⟨r, rfl, h⟩
  next => exact h.elim

/-- Only a launch takes the note away, and only that of its own execution. -/
theorem Cause.Scope.launches {s : Settings} {cause : Cause} {e : ExecutionId}
    (h : cause.Scope s (.memory (.endLaunch e))) : cause.Launches e := by
  unfold Cause.Scope at h
  split at h <;> grind [Cause.Launches]

namespace Fleet

variable {s : Settings} {moves : List Move} {e : ExecutionId} {i : Nat} {ev : Event}
  {older log : List Event}

/-- An activity has begun to launch an execution and is not over. -/
def Launching (e : ExecutionId) (f : Fleet) (i : Nat) : Prop :=
  ∃ cause act next, f.strands[i]? = some ⟨cause, .ask act next⟩ ∧ cause.Launches e ∧
    ⟨.memory (.beginLaunch e), ()⟩ ∈ pastOf i f.log

/-- A launch of an execution has ended, and none was begun since. -/
def EndedLast (e : ExecutionId) (log : List Event) : Prop :=
  Since (fun ev _ => ev.act = .memory (.endLaunch e))
    (fun ev _ => ev.act = .memory (.beginLaunch e)) log

/-! ### The note that an execution is launched -/

theorem mem_launching_perform {clock : Clock} {service : Service} {act : Act}
    {reply : act.Answer} :
    e ∈ (act.perform clock service reply).2.launching ↔ act = .memory (.beginLaunch e) ∨
      act ≠ .memory (.endLaunch e) ∧ e ∈ service.launching := by
  cases act with
  | memory op =>
    cases op with
    | beginLaunch e' =>
      change e ∈ service.launching.insert e' ↔ _
      simp [Std.ExtTreeSet.mem_insert]
    | endLaunch e' =>
      change e ∈ service.launching.erase e' ↔ _
      simp [Std.ExtTreeSet.mem_erase]
    | claim e' =>
      change e ∈ (service.claim clock e').launching ↔ _
      unfold Service.claim
      split <;> simp
    | tracker op | forgetExpired retention | clock | launching =>
      simp [Act.perform, Local.apply, Service.forgetExpired]
  | backend call | runner call | runnerUntil deadline call | sleep millis | spawn job =>
    simp [Act.perform]

/-- An execution is noted as being launched from when a launch of it is begun to when one ends. -/
theorem mem_launching_iff : e ∈ (serviceAfter log).launching ↔
    (∃ ev ∈ log, ev.act = .memory (.beginLaunch e)) ∧ ¬ EndedLast e log := by
  induction log with
  | nil => simp [serviceAfter]
  | cons ev older ih =>
    have hended : EndedLast e (ev :: older) ↔ ev.act = .memory (.endLaunch e) ∨
        ev.act ≠ .memory (.beginLaunch e) ∧ EndedLast e older := since_cons
    refine mem_launching_perform.trans ?_
    rw [ih, hended]
    by_cases hbegin : ev.act = .memory (.beginLaunch e)
    · simp [hbegin]
    · simp [hbegin, and_left_comm]

/-! ### A launch that is not over has not taken the note away -/

def launchRule : Rule := fun cause past _ =>
  ∀ e, cause.Launches e → Unasked (.memory (.endLaunch e)) past

theorem launch_unended (s : Settings) (r : LaunchRequest) :
    (Activity.launch s r).Keeps (fun past _ => Unasked (.memory (.endLaunch r.executionId)) past) []
      fun _ _ => True := by
  have hprovision : (Attempt.provision s r).run.Asks (· ≠ .memory (.endLaunch r.executionId)) := by
    refine (Attempt.provision_asks s r).mono ?_
    rintro _ h rfl
    cases h
  refine keeps_query_bind_of_unasked (fun _ _ => id) unasked_nil nofun fun begun hun => ?_
  refine (keeps_of_unasked (fun _ _ => id) hun hprovision).bind fun result past hun _ => ?_
  cases result with
  | ok _ => exact keeps_query_bind.mpr ⟨hun, fun _ => trivial⟩
  | error f =>
    have habort : (Activity.abort r.executionId f).Asks
        (· ≠ .memory (.endLaunch r.executionId)) := by
      refine (Activity.abort_asks r.executionId f).mono ?_
      rintro _ h rfl
      cases h
    refine (keeps_of_unasked (fun _ _ => id) hun habort).bind fun _ past hun _ => ?_
    exact keeps_query_bind.mpr ⟨hun, fun _ => trivial⟩

theorem launchRule_kept (s : Settings) : launchRule.Kept s := by
  intro cause
  by_cases hlaunch : ∃ e, cause.Launches e
  · obtain ⟨e, hlaunch⟩ := hlaunch
    obtain ⟨r, rfl, rfl⟩ := hlaunch.eq_job
    refine keeps_discard.mpr (Keeps.weaken (launch_unended s r) fun past act hun e he => ?_)
    exact (show r.executionId = e from he) ▸ hun
  · exact keeps_of_forall fun past act e he => (hlaunch ⟨e, he⟩).elim

/-! ### What is protected -/

/-- What takes the note away from a launch is another launch that ends after it has begun. -/
theorem exists_other_launch (hlaunch : Launching e (after s moves) i)
    (hended : EndedLast e (after s moves).log) :
    ∃ ev older, ev :: older <:+ (after s moves).log ∧ ev.act = .memory (.endLaunch e) ∧
      ev.cause.Launches e ∧ ev.strand ≠ i ∧ ⟨.memory (.beginLaunch e), ()⟩ ∈ pastOf i older := by
  obtain ⟨cause, act, next, hst, hcause, hbegun⟩ := hlaunch
  obtain ⟨ev, older, hsub, hact, hnone⟩ := hended
  have hscope := scope_of_mem (hsub.subset List.mem_cons_self)
  rw [hact] at hscope
  refine ⟨ev, older, hsub, hact, hscope.launches, ?_, ?_⟩
  · -- It is not the launch itself, which would be over.
    rintro rfl
    have hrule := ((traced_after (launchRule_kept s) moves).rest _ _ hst).1 e hcause
    have hmem := exchange_mem_pastOf hsub
    obtain ⟨strand, cause, clock, act, reply⟩ := ev
    obtain rfl : act = .memory (.endLaunch e) := hact
    exact hrule.not_mem hmem
  · -- The launch was begun before that end, as none was begun after it.
    obtain ⟨first, before, hbefore, hstrand, hx⟩ := exists_event_of_mem_past hbegun
    have hfirst := (Event.of_exchange_memory hx).1
    rcases eq_or_before hsub hbefore with heq | hlater | hearlier
    · rw [(List.cons.inj heq).1, hfirst] at hact
      cases hact
    · exact (hnone first before hbefore hlater hfirst).elim
    · have hmem := exchange_mem_pastOf hearlier
      rwa [hstrand, hx] at hmem

/-- An execution that is being launched is noted as such exactly as long as none of its launches has
ended since the last one was begun. If one has then it is another launch of the same execution,
which ran at the same time, and only containers that are tracked still protect the execution. -/
theorem launching_protected_iff (s : Settings) (moves : List Move) (e : ExecutionId) (i : Nat)
    (hlaunch : Launching e (after s moves) i) :
    let f := after s moves
    (e ∈ f.service.launching ↔ ¬ EndedLast e f.log) ∧
    (e ∈ f.service.protectedExecutions ↔
      e ∈ f.service.tracker.executions ∨ ¬ EndedLast e f.log) ∧
    (EndedLast e f.log → ∃ ev older, ev :: older <:+ f.log ∧ ev.act = .memory (.endLaunch e) ∧
      ev.cause.Launches e ∧ ev.strand ≠ i ∧
      ⟨.memory (.beginLaunch e), ()⟩ ∈ pastOf i older) := by
  have hlaunching : e ∈ (after s moves).service.launching ↔ ¬ EndedLast e (after s moves).log := by
    obtain ⟨_, _, _, _, _, hbegun⟩ := id hlaunch
    obtain ⟨first, before, hbefore, -, hx⟩ := exists_event_of_mem_past hbegun
    rw [(traced_after (launchRule_kept s) moves).service_eq, mem_launching_iff]
    exact and_iff_right
      ⟨first, hbefore.subset List.mem_cons_self, (Event.of_exchange_memory hx).1⟩
  refine ⟨hlaunching, ?_, exists_other_launch hlaunch⟩
  rw [Service.mem_protectedExecutions, hlaunching]

/-- Two launches of one execution at the same time: one of them fails and ends while the containers
of the other one are still being created. -/
def overlappingLaunches : List Move :=
  .begin (.job (.launch ⟨"e", "default", 1, none, none⟩)) ::
    .begin (.job (.launch ⟨"e", "default", 1, none, none⟩)) ::
      (steps {} 1 1 ++ steps { rejected := ["start"] } 0 7)

theorem launching_overlapping : Launching "e" (after briefSettings overlappingLaunches) 1 :=
  ⟨_, _, _, rfl, rfl, List.mem_singleton_self _⟩

theorem launching_protected_iff_overlapping :
    Launching "e" (after briefSettings overlappingLaunches) 1 ∧
    ("e" ∈ (after briefSettings overlappingLaunches).service.launching ↔
      ¬ EndedLast "e" (after briefSettings overlappingLaunches).log) :=
  ⟨launching_overlapping,
    (launching_protected_iff briefSettings overlappingLaunches "e" 1 launching_overlapping).1⟩

/-- What is still being launched is not protected. -/
theorem overlapping_launch_unprotected :
    Launching "e" (after briefSettings overlappingLaunches) 1 ∧
    "e" ∉ (after briefSettings overlappingLaunches).service.launching ∧
    "e" ∉ (after briefSettings overlappingLaunches).service.protectedExecutions :=
  ⟨launching_overlapping, by decide, by decide⟩

end Fleet

end AgentFleet
