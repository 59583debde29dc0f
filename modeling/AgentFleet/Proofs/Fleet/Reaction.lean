import AgentFleet.Proofs.Fleet.Solo

/-!
How a heartbeat is dealt with while nothing else happens. What comes of it is told by what the
tracker knows of the container and by what the backend answers: the calls that are made, in order,
the answer to the agent, what is known of the container afterwards, and whether its end is waited
for from now on.
-/

namespace AgentFleet

open Tracker (Standing)

/-! ### The decision -/

namespace Heartbeat

def mayWork (statuses : List AgentStatus) : Bool :=
  statuses.any fun status => status.state = .starting ∨ status.state = .busy

theorem any_blocksTermination (statuses : List AgentStatus) :
    statuses.any (·.state.blocksTermination) = mayWork statuses := by
  simp [mayWork, AgentState.blocksTermination]

variable (backend : (call : BackendCall) → call.Answer)

def workDecision (c : ContainerId) (e : ExecutionId) : List BackendCall × Answer :=
  match (backend (.nextBatch c) : Except Fault (Option Json)) with
  | .ok (some batch) => ([.nextBatch c], .newJob batch)
  | .error _ => ([.nextBatch c], .keepOn)
  | .ok none =>
    ([.nextBatch c, .agentStatuses e],
      match (backend (.agentStatuses e) : Except Fault (List AgentStatus)) with
      | .ok statuses => if mayWork statuses then .wait else .terminate
      | .error _ => .keepOn)

/-- The calls and the answer for an agent by the state that it reports, once that is recorded. -/
def stateDecision (c : ContainerId) (e : ExecutionId) : AgentState → List BackendCall × Answer
  | .starting =>
    ([.initConfig c], match (backend (.initConfig c) : Except Fault (Option Json)) with
      | .ok (some config) => .init config
      | .ok none => .wait
      | .error _ => .keepOn)
  | .idle => workDecision backend c e
  | .finished =>
    match (backend (.resultsSaved c) : Except Fault Bool) with
    | .ok true => (.resultsSaved c :: (workDecision backend c e).1, (workDecision backend c e).2)
    | .ok false =>
      ([.resultsSaved c, .failTests [c]], match (backend (.failTests [c]) : Except Fault Unit) with
        | .ok _ => .wait
        | .error _ => .keepOn)
    | .error _ => ([.resultsSaved c], .keepOn)
  | .busy => ([], .keepOn)
  | .backendFailure | .backendUnreachable | .cliFailed => ([], .wait)
  | .crashed | .terminated | .stoppedByOrch => ([], .wait)

theorem stateDecision_of_orchestratorOnly {c : ContainerId} {e : ExecutionId} {state : AgentState}
    (h : state.isOrchestratorOnly = true) : stateDecision backend c e state = ([], .wait) := by
  cases state with
  | crashed | terminated | stoppedByOrch => rfl
  | _ => cases h

def decision (h : Heartbeat) : List BackendCall × Answer :=
  stateDecision backend h.agentId h.executionId h.state

end Heartbeat

/-! ### The reaction -/

def Answer.isTerminate : Answer → Bool
  | .terminate => true
  | _ => false

structure Reaction where
  answer : Answer
  calls : List BackendCall
  /-- What the tracker knows of the container then. -/
  standing : Option Standing
  /-- Whether the container's end is waited for from now on. -/
  supervised : Bool

namespace Heartbeat

variable (backend : (call : BackendCall) → call.Answer)

def OwnedElsewhere (h : Heartbeat) (known : Option Standing) : Prop :=
  ∃ s, known = some s ∧ s.owner ≠ h.executionId

instance (h : Heartbeat) (known : Option Standing) : Decidable (h.OwnedElsewhere known) :=
  decidable_of_iff (∃ s ∈ known, s.owner ≠ h.executionId) (by simp [OwnedElsewhere])

def report (h : Heartbeat) : BackendCall := .reportState h.agentId h.state h.timestamp

/-- The heartbeat is recorded, or not even that, and nothing follows from it. -/
def disregard (h : Heartbeat) (known : Option Standing) : Reaction :=
  ⟨.keepOn, [h.report], known, false⟩

def marked (h : Heartbeat) (answer : Answer) (heard : Standing) : Standing :=
  if h.state.isOrchestratorOnly then heard.crash
  else if answer.isTerminate then heard.terminate
  else heard

def engagement (h : Heartbeat) (heard : Standing) : Reaction where
  answer := (h.decision backend).2
  calls := h.report :: (h.decision backend).1
  standing := some (h.marked (h.decision backend).2 heard)
  supervised := (h.decision backend).2.isTerminate && !heard.terminating

/-- What comes of a heartbeat that is received at a time, from a container of which something is
known. -/
def reaction (h : Heartbeat) (now : Instant) (known : Option Standing) : Reaction :=
  if h.OwnedElsewhere known then h.disregard known
  else match (backend h.report : Except Fault Unit) with
    | .error _ => h.disregard (some (.hear h.executionId now known))
    | .ok _ => h.engagement backend (.hear h.executionId now known)

/-- The course of a heartbeat is as the reaction says, and nothing else is asked or changed. -/
structure Follows (h : Heartbeat) (before : Service) (course : Course Answer) (r : Reaction) :
    Prop where
  answer : course.value = r.answer
  outward : course.outward = r.calls.map .backend ++
    if r.supervised then [.spawn (.supervise h.executionId h.agentId)] else []
  consistent : course.service.tracker.Consistent
  standing : ∀ c, course.service.tracker.standing c =
    if h.agentId = c then r.standing else before.tracker.standing c
  finalized : course.service.finalized = before.finalized
  launching : course.service.launching = before.launching

end Heartbeat

/-! ### One part after another -/

namespace Attempt

variable {clock : Clock} {reply : (act : Act) → act.Answer} {s : Service} {c : ContainerId}
  {e : ExecutionId}

def shown : Except Fault Answer → Answer
  | .ok answer => answer
  | .error _ => .keepOn

/-- An attempt at an answer makes the calls and comes to the answer that were decided on, and the
memory stays as it is. -/
def Decides (x : Attempt Answer) (clock : Clock) (reply : (act : Act) → act.Answer) (s : Service)
    (decided : List BackendCall × Answer) : Prop :=
  ∃ r, x.run.alone clock reply s = ⟨r, s, decided.1.map .backend⟩ ∧ shown r = decided.2

theorem decides_backend {call : BackendCall} {f : call.Result → Attempt Answer}
    {decided : List BackendCall × Answer}
    (hok : ∀ a, backendOf reply call = .ok a →
      ∃ calls, decided.1 = call :: calls ∧ (f a).Decides clock reply s (calls, decided.2))
    (herror : ∀ f, backendOf reply call = .error f → decided = ([call], .keepOn)) :
    (Attempt.backend call >>= f).Decides clock reply s decided := by
  have hcall := alone_backend clock reply s call
  cases hb : backendOf reply call with
  | error fault =>
    obtain rfl := herror fault hb
    rw [hb] at hcall
    exact ⟨.error fault, Procedure.alone_run_bind_error hcall, rfl⟩
  | ok a =>
    obtain ⟨calls, hcalls, r, hrest, hanswer⟩ := hok a hb
    rw [hb] at hcall
    refine ⟨r, (Procedure.alone_run_bind_ok hcall).trans ?_, hanswer⟩
    rw [hcalls]
    exact congrArg (Course.prepend _) hrest

theorem decides_pure {answer answer' : Answer} (h : answer = answer') :
    (pure answer : Attempt Answer).Decides clock reply s ([], answer') := ⟨.ok answer, rfl, h⟩

section Asked

variable (clock : Clock) (reply : (act : Act) → act.Answer) (s : Service) (c : ContainerId)
  (e : ExecutionId)

theorem assign_decides : (assign c e).Decides clock reply s
    (Heartbeat.workDecision (backendOf reply) c e) := by
  refine decides_backend (fun batch hb => ?_) (fun f hf => by simp [Heartbeat.workDecision, hf])
  cases batch with
  | some batch =>
    refine ⟨[], ?_, decides_pure ?_⟩ <;> simp [Heartbeat.workDecision, hb]
  | none =>
    refine ⟨[.agentStatuses e], by simp [Heartbeat.workDecision, hb], ?_⟩
    refine decides_backend (fun statuses hs => ⟨[], rfl, ?_⟩) fun f hf => ?_
    · have hany := Heartbeat.any_blocksTermination statuses
      dsimp only
      split
      next hwork =>
        rw [hwork] at hany
        refine decides_pure ?_
        simp [Heartbeat.workDecision, hb, hs, ← hany]
      next hwork =>
        rw [Bool.not_eq_true] at hwork
        rw [hwork] at hany
        refine decides_pure ?_
        simp [Heartbeat.workDecision, hb, hs, ← hany]
    · simp [Heartbeat.workDecision, hb, hf]

theorem answerTo_decides {state : AgentState} (h : state.isOrchestratorOnly = false) :
    (answerTo c e state).Decides clock reply s
      (Heartbeat.stateDecision (backendOf reply) c e state) := by
  cases state with
  | starting =>
    refine decides_backend (fun config hb => ⟨[], rfl, ?_⟩) fun f hf => ?_
    · cases config with
      | some config => exact decides_pure (by simp [Heartbeat.stateDecision, hb])
      | none => exact decides_pure (by simp [Heartbeat.stateDecision, hb])
    · simp [Heartbeat.stateDecision, hf]
  | idle => exact assign_decides ..
  | finished =>
    refine decides_backend (fun saved hb => ?_) fun f hf => by simp [Heartbeat.stateDecision, hf]
    cases saved with
    | true =>
      have hwork := assign_decides clock reply s c e
      refine ⟨(Heartbeat.workDecision (backendOf reply) c e).1, ?_, ?_⟩
      · simp [Heartbeat.stateDecision, hb]
      · simpa [Heartbeat.stateDecision, hb] using hwork
    | false =>
      refine ⟨[.failTests [c]], by simp [Heartbeat.stateDecision, hb], ?_⟩
      refine decides_backend (fun _ hm => ⟨[], rfl, decides_pure ?_⟩) fun f hf => ?_
      · simp [Heartbeat.stateDecision, hb, hm]
      · simp [Heartbeat.stateDecision, hb, hf]
  | busy | backendFailure | backendUnreachable | cliFailed => exact decides_pure rfl
  | crashed | terminated | stoppedByOrch => cases h

/-! ### What the tracker is told -/

variable {s c}

theorem answerTo_crashes {state : AgentState} (h : state.isOrchestratorOnly = true)
    (hc : c ∈ s.tracker.owner) :
    (answerTo c e state).run.alone clock reply s =
      ⟨.ok .wait, { s with tracker := ((Tracker.Operation.markCrashed c).apply s.tracker).2 },
        [.memory (.tracker (.markCrashed c))]⟩ := by
  have hok : ((Tracker.Operation.markCrashed c).apply s.tracker).1 =
      (.ok () : Except Tracker.Refusal Unit) := by
    change (s.tracker.orSame (s.tracker.markCrashed c)).1 = _
    simp [Tracker.markCrashed, hc, Tracker.orSame]
  have hrun := Procedure.alone_run_bind_ok (f := fun _ => pure Answer.wait)
    (alone_accepted (alone_tracker clock reply s hok))
  cases state with
  | crashed | terminated | stoppedByOrch => exact hrun
  | _ => cases h

theorem superviseOnce_alone (hc : c ∈ s.tracker.owner) :
    ∃ asked, (superviseOnce c e).run.alone clock reply s =
        ⟨.ok (), { s with tracker := ((Tracker.Operation.markTerminating c).apply s.tracker).2 },
          asked⟩ ∧
      asked.filter Act.isOutward =
        if s.tracker.terminating.contains c then [] else [.spawn (.supervise e c)] := by
  have hok : ((Tracker.Operation.markTerminating c).apply s.tracker).1 =
      (.ok (!s.tracker.terminating.contains c) : Except Tracker.Refusal Bool) := by
    simp only [Tracker.Operation.apply, Tracker.markTerminating, if_pos hc]
    rfl
  have hmark := alone_accepted (alone_tracker clock reply s hok)
  cases ht : s.tracker.terminating.contains c with
  | true =>
    rw [ht] at hmark
    exact ⟨_, Procedure.alone_run_bind_ok hmark, rfl⟩
  | false =>
    rw [ht] at hmark
    refine ⟨[.memory (.tracker (.markTerminating c)), .spawn (.supervise e c)], ?_, rfl⟩
    refine (Procedure.alone_run_bind_ok hmark).trans ?_
    exact congrArg (Course.prepend _) (alone_lift ..)

end Asked

def engage (h : Heartbeat) : Attempt Answer := do
  let answer ← answerTo h.agentId h.executionId h.state
  match answer with
  | .terminate => superviseOnce h.agentId h.executionId
  | _ => pure ()
  return answer

theorem process_eq (h : Heartbeat) : process h = (do
    let reported ← lift (Activity.backend h.report)
    let now ← lift Activity.clock
    accepted (Activity.tracker (.upsert h.executionId h.agentId now.wall))
    let _ ← ofExcept reported
    engage h) := rfl

def trackerMarked (t : Tracker) (h : Heartbeat) (answer : Answer) : Tracker :=
  if h.state.isOrchestratorOnly then ((Tracker.Operation.markCrashed h.agentId).apply t).2
  else if answer.isTerminate then ((Tracker.Operation.markTerminating h.agentId).apply t).2
  else t

-- Three ways to an answer: a state that only the service gives, a fault, and all others, of which
-- just the end of the agent has consequences.
theorem engage_alone (clock : Clock) (reply : (act : Act) → act.Answer) {h : Heartbeat}
    (hc : h.agentId ∈ s.tracker.owner)
    {decided : List BackendCall × Answer} (hd : h.decision (backendOf reply) = decided) :
    ∃ r asked, (engage h).run.alone clock reply s =
        ⟨r, { s with tracker := trackerMarked s.tracker h decided.2 }, asked⟩ ∧
      shown r = decided.2 ∧
      asked.filter Act.isOutward = decided.1.map .backend ++
        if decided.2.isTerminate && !s.tracker.terminating.contains h.agentId
        then [.spawn (.supervise h.executionId h.agentId)] else [] := by
  cases horch : h.state.isOrchestratorOnly with
  | true =>
    have hrun := answerTo_crashes clock reply h.executionId horch hc
    obtain rfl : ([], .wait) = decided := by
      rw [← hd, Heartbeat.decision, Heartbeat.stateDecision_of_orchestratorOnly _ horch]
    refine ⟨.ok .wait, [.memory (.tracker (.markCrashed h.agentId))], ?_, rfl, rfl⟩
    rw [trackerMarked, if_pos horch]
    exact Procedure.alone_run_bind_ok hrun
  | false =>
    have hdec := answerTo_decides clock reply s h.agentId h.executionId horch
    rw [← Heartbeat.decision, hd] at hdec
    obtain ⟨r, hrun, hanswer⟩ := hdec
    cases r with
    | error fault =>
      refine ⟨.error fault, decided.1.map .backend, ?_, hanswer, ?_⟩
      · rw [← hanswer, trackerMarked, if_neg (by simp [horch])]
        exact Procedure.alone_run_bind_error hrun
      · rw [← hanswer, List.filter_eq_self.mpr (by simp [Act.isOutward])]
        simp [shown, Answer.isTerminate]
    | ok answer =>
      obtain ⟨calls, answer'⟩ := decided
      obtain rfl : answer = answer' := hanswer
      rw [trackerMarked, if_neg (by simp [horch])]
      cases answer with
      | terminate =>
        obtain ⟨asked, hend, hspawned⟩ := superviseOnce_alone clock reply h.executionId hc
        refine ⟨.ok .terminate, calls.map .backend ++ asked, ?_, rfl, ?_⟩
        · refine (Procedure.alone_run_bind_ok hrun).trans ?_
          refine (congrArg (Course.prepend _) (Procedure.alone_run_bind_ok hend)).trans ?_
          simp [Course.prepend, Answer.isTerminate]
        · rw [List.filter_append, hspawned, List.filter_eq_self.mpr (by simp [Act.isOutward])]
          cases s.tracker.terminating.contains h.agentId <;> rfl
      | init | newJob | keepOn | wait =>
        refine ⟨.ok _, calls.map .backend, ?_, rfl, ?_⟩
        · refine (Procedure.alone_run_bind_ok hrun).trans ?_
          simp [Course.prepend, Answer.isTerminate]
        · rw [List.filter_eq_self.mpr (by simp [Act.isOutward])]
          simp [Answer.isTerminate]

/-! ### The whole -/

def recording (h : Heartbeat) (clock : Clock) : List Act :=
  [.backend h.report, .memory .clock,
    .memory (.tracker (.upsert h.executionId h.agentId clock.wall))]

/-- What the backend says to the report counts only after the tracker has been asked. -/
theorem process_alone {h : Heartbeat} :
    (process h).run.alone clock reply s = Course.prepend
      [.backend h.report, .memory .clock]
      ((accepted (Activity.tracker (.upsert h.executionId h.agentId clock.wall)) >>= fun _ =>
        ofExcept (backendOf reply h.report) >>= fun _ =>
          engage h).run.alone clock reply s) := by
  rw [process_eq]
  refine (Procedure.alone_run_bind_ok (alone_lift ..)).trans ?_
  exact congrArg (Course.prepend _) (Procedure.alone_run_bind_ok (alone_lift ..))

theorem process_refused {h : Heartbeat} {refusal : Tracker.Refusal}
    (hup : s.tracker.upsert h.executionId h.agentId clock.wall = .error refusal) :
    (process h).run.alone clock reply s = ⟨.error refusal.fault, s, recording h clock⟩ := by
  have happly : (Tracker.Operation.upsert h.executionId h.agentId clock.wall).apply s.tracker =
      ((.error refusal : Except Tracker.Refusal Unit), s.tracker) := by
    change s.tracker.orSame (s.tracker.upsert h.executionId h.agentId clock.wall) = _
    rw [hup]
    rfl
  have hno := alone_tracker clock reply s (congrArg Prod.fst happly)
  rw [happly] at hno
  rw [process_alone]
  exact congrArg (Course.prepend _) (Procedure.alone_run_bind_error (alone_accepted hno))

theorem process_heard (reply : (act : Act) → act.Answer) {h : Heartbeat} {t : Tracker}
    (hup : s.tracker.upsert h.executionId h.agentId clock.wall = .ok t) :
    (process h).run.alone clock reply s = Course.prepend (recording h clock)
      ((ofExcept (backendOf reply h.report) >>= fun _ =>
        engage h).run.alone clock reply { s with tracker := t }) := by
  have happly : (Tracker.Operation.upsert h.executionId h.agentId clock.wall).apply s.tracker =
      ((.ok () : Except Tracker.Refusal Unit), t) := by
    change s.tracker.orSame (s.tracker.upsert h.executionId h.agentId clock.wall) = _
    rw [hup]
    rfl
  have hheard := alone_tracker clock reply s (congrArg Prod.fst happly)
  rw [happly] at hheard
  rw [process_alone]
  exact congrArg (Course.prepend _) (Procedure.alone_run_bind_ok (alone_accepted hheard))

end Attempt

theorem Activity.heartbeat_alone {clock : Clock} {reply : (act : Act) → act.Answer} {s s' : Service}
    {h : Heartbeat} {r : Except Fault Answer} {asked : List Act}
    (hrun : (Attempt.process h).run.alone clock reply s = ⟨r, s', asked⟩) :
    (Activity.heartbeat h).alone clock reply s = ⟨Attempt.shown r, s', asked⟩ := by
  refine (Procedure.alone_bind _ _).trans ?_
  rw [hrun]
  cases r <;> simp [Course.prepend, Attempt.shown]

namespace Heartbeat

variable {clock : Clock} {reply : (act : Act) → act.Answer} {s : Service} {h : Heartbeat}

/-! ### What the tracker knows afterwards -/

theorem upsert_of_not_elsewhere {t : Tracker} (now : Instant) (ht : t.Consistent)
    (hown : ¬ h.OwnedElsewhere (t.standing h.agentId)) :
    ∃ t', t.upsert h.executionId h.agentId now = .ok t' ∧ t'.Consistent ∧
      ∀ c, t'.standing c = if h.agentId = c
        then some (Standing.hear h.executionId now (t.standing h.agentId)) else t.standing c := by
  obtain ⟨t', hup⟩ : ∃ t', t.upsert h.executionId h.agentId now = .ok t' := by
    unfold Tracker.upsert
    cases ho : t.owner[h.agentId]? with
    | none => exact ⟨_, rfl⟩
    | some owner =>
      obtain ⟨beat, -, hs⟩ := ht.standing_of_owner ho
      have heq : owner = h.executionId := by
        by_contra hne
        exact hown ⟨_, hs, hne⟩
      exact ⟨_, if_pos heq⟩
  have hsame : (t.orSame (t.upsert h.executionId h.agentId now)).2 = t' := by
    rw [hup]
    rfl
  refine ⟨t', hup, hsame ▸ ht.upsert h.executionId h.agentId now, fun c => ?_⟩
  have hstanding : (t.orSame (t.upsert h.executionId h.agentId now)).2.standing c = _ :=
    Tracker.standing_upsert ht
  rw [hsame] at hstanding
  rw [hstanding]
  by_cases hc : h.agentId = c <;> simp [hc]

theorem standing_of_mark {t : Tracker} {c : ContainerId} {known : Standing}
    {op : Tracker.Operation} {mark : Standing → Standing} (ht : t.Consistent)
    (hknown : t.standing c = some known)
    (hop : ∀ d s, op.affect d s = if c = d then s.map mark else s) (d : ContainerId) :
    (op.apply t).2.standing d = if c = d then some (mark known) else t.standing d := by
  rw [Tracker.standing_apply ht, hop]
  by_cases hd : c = d
  · simp [← hd, hknown]
  · simp [hd]

theorem standing_trackerMarked {t : Tracker} {known : Standing} (answer : Answer)
    (ht : t.Consistent) (hknown : t.standing h.agentId = some known) :
    (Attempt.trackerMarked t h answer).Consistent ∧
      ∀ c, (Attempt.trackerMarked t h answer).standing c =
        if h.agentId = c then some (h.marked answer known) else t.standing c := by
  unfold Attempt.trackerMarked marked
  split
  · exact ⟨ht.apply _, standing_of_mark ht hknown fun _ _ => rfl⟩
  · split
    · exact ⟨ht.apply _, standing_of_mark ht hknown fun _ _ => rfl⟩
    · refine ⟨ht, fun c => ?_⟩
      by_cases hc : h.agentId = c
      · simp [← hc, hknown]
      · simp [hc]

/-! ### Every heartbeat -/

theorem refused_of_elsewhere {t : Tracker} (now : Instant)
    (hother : h.OwnedElsewhere (t.standing h.agentId)) :
    ∃ refusal, t.upsert h.executionId h.agentId now = .error refusal := by
  obtain ⟨known, hknown, hne⟩ := hother
  refine ⟨.ownedElsewhere h.agentId known.owner h.executionId, ?_⟩
  simp [Tracker.upsert, (Tracker.standing_eq_some_iff.mp hknown).1, hne]

theorem follows_of_elsewhere (hcons : s.tracker.Consistent)
    (hother : h.OwnedElsewhere (s.tracker.standing h.agentId)) :
    h.Follows s ((Activity.heartbeat h).alone clock reply s)
      (h.disregard (s.tracker.standing h.agentId)) := by
  obtain ⟨refusal, hup⟩ := refused_of_elsewhere clock.wall hother
  rw [Activity.heartbeat_alone (Attempt.process_refused hup)]
  refine ⟨rfl, rfl, hcons, fun c => ?_, rfl, rfl⟩
  split
  next hc => rw [← hc]; rfl
  next => rfl

section Heard

variable {t : Tracker} {heard : Standing}

theorem follows_of_unrecorded (ht : t.Consistent)
    (hup : s.tracker.upsert h.executionId h.agentId clock.wall = .ok t)
    (hstanding : ∀ c, t.standing c = if h.agentId = c then some heard else s.tracker.standing c)
    {fault : Fault} (hr : backendOf reply h.report = .error fault) :
    h.Follows s ((Activity.heartbeat h).alone clock reply s) (h.disregard (some heard)) := by
  have hrun := Attempt.process_heard reply hup
  rw [hr] at hrun
  have hend := Procedure.alone_run_bind_error (f := fun _ => Attempt.engage h)
    (Attempt.alone_ofExcept clock reply { s with tracker := t }
      (.error fault : Except Fault Unit))
  rw [Activity.heartbeat_alone (hrun.trans (congrArg (Course.prepend _) hend))]
  exact ⟨rfl, rfl, ht, hstanding, rfl, rfl⟩

theorem follows_of_recorded (ht : t.Consistent)
    (hup : s.tracker.upsert h.executionId h.agentId clock.wall = .ok t)
    (hstanding : ∀ c, t.standing c = if h.agentId = c then some heard else s.tracker.standing c)
    (hr : backendOf reply h.report = .ok ()) :
    h.Follows s ((Activity.heartbeat h).alone clock reply s)
      (h.engagement (backendOf reply) heard) := by
  have hrun := Attempt.process_heard reply hup
  rw [hr] at hrun
  have hheard : t.standing h.agentId = some heard := by rw [hstanding, if_pos rfl]
  obtain ⟨ho, -, -, -, hterm⟩ := Tracker.standing_eq_some_iff.mp hheard
  obtain ⟨r, asked, hengage, hanswer, hout⟩ := Attempt.engage_alone clock reply
    (s := { s with tracker := t }) (Tracker.mem_owner_iff.mpr ⟨_, ho⟩) rfl
  have hend := Procedure.alone_run_bind_ok (f := fun _ => Attempt.engage h)
    (Attempt.alone_ofExcept clock reply { s with tracker := t }
      (.ok () : Except Fault Unit))
  rw [hengage] at hend
  have hcourse : (Activity.heartbeat h).alone clock reply s = ⟨Attempt.shown r,
      { s with tracker := Attempt.trackerMarked t h (h.decision (backendOf reply)).2 },
      Attempt.recording h clock ++ asked⟩ :=
    Activity.heartbeat_alone (hrun.trans (congrArg (Course.prepend _) hend))
  obtain ⟨hmarked, hmarks⟩ := standing_trackerMarked (h.decision (backendOf reply)).2 ht hheard
  rw [hcourse]
  refine ⟨hanswer, ?_, hmarked, fun c => ?_, rfl, rfl⟩
  · rw [Course.outward_mk, List.filter_append, hout, hterm]
    rfl
  · refine (hmarks c).trans ?_
    rw [hstanding]
    split <;> rfl

end Heard

theorem follows_reaction (hcons : s.tracker.Consistent) :
    h.Follows s ((Activity.heartbeat h).alone clock reply s)
      (h.reaction (backendOf reply) clock.wall (s.tracker.standing h.agentId)) := by
  unfold reaction
  split
  next hother => exact follows_of_elsewhere hcons hother
  next hown =>
    obtain ⟨t, hup, ht, hstanding⟩ := upsert_of_not_elsewhere clock.wall hcons hown
    split
    next fault hr => exact follows_of_unrecorded ht hup hstanding hr
    next u hr => exact follows_of_recorded ht hup hstanding hr

theorem service_of_elsewhere (hother : h.OwnedElsewhere (s.tracker.standing h.agentId)) :
    ((Activity.heartbeat h).alone clock reply s).service = s := by
  obtain ⟨refusal, hup⟩ := refused_of_elsewhere clock.wall hother
  rw [Activity.heartbeat_alone (Attempt.process_refused hup)]

section Calls

variable (backend : (call : BackendCall) → call.Answer)

def inquiries (c : ContainerId) (e : ExecutionId) : List BackendCall :=
  [.initConfig c, .resultsSaved c, .failTests [c], .nextBatch c, .agentStatuses e]

theorem workDecision_sublist (c : ContainerId) (e : ExecutionId) :
    (workDecision backend c e).1.Sublist [.nextBatch c, .agentStatuses e] := by
  unfold workDecision
  split <;> simp

theorem stateDecision_sublist (c : ContainerId) (e : ExecutionId) (state : AgentState) :
    (stateDecision backend c e state).1.Sublist (inquiries c e) := by
  have hwork := (workDecision_sublist backend c e).cons (.failTests [c])
  cases state with
  | idle => exact (hwork.cons _).cons _
  | finished =>
    dsimp only [stateDecision]
    split
    · exact (hwork.cons_cons _).cons _
    · simp [inquiries]
    · simp [inquiries]
  | _ => simp [stateDecision, inquiries]

-- All calls that may follow the report are `inquiries`, in the only order in which they are made.
theorem reaction_calls_nodup (now : Instant) (known : Option Standing) :
    (h.reaction backend now known).calls.Nodup := by
  have hall : (h.report :: inquiries h.agentId h.executionId).Nodup := by
    simp [report, inquiries]
  have hcalls := (stateDecision_sublist backend h.agentId h.executionId h.state).cons_cons h.report
  unfold reaction
  split
  · simp [disregard]
  · split
    · simp [disregard]
    · exact hall.sublist hcalls

end Calls

/-- Whatever has happened before, and whatever the backend answers, a heartbeat is dealt with as the
reaction says. A container that is owned elsewhere leaves the service as it is. No call is made
twice, so that the backend may answer each as it likes. -/
theorem heartbeat_reaction (ops : List Tracker.Operation)
    (finalized : Std.ExtTreeMap ExecutionId Nat compare) (launching : Names) (clock : Clock)
    (reply : (act : Act) → act.Answer) (h : Heartbeat) :
    let before : Service := ⟨Tracker.empty.after ops, finalized, launching⟩
    let known := before.tracker.standing h.agentId
    let course := (Activity.heartbeat h).alone clock reply before
    let r := h.reaction (backendOf reply) clock.wall known
    h.Follows before course r ∧ (h.OwnedElsewhere known → course.service = before) ∧
      r.calls.Nodup :=
  ⟨follows_reaction (Tracker.Consistent.empty.after ops), service_of_elsewhere,
    reaction_calls_nodup ..⟩

end Heartbeat

end AgentFleet
