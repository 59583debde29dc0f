import AgentFleet.Proofs.Fleet.Footprint
import AgentFleet.Proofs.Tracker.Terminating

/-!
Who gets work. A batch is asked for only by an agent's own heartbeat, and only if there is none is
the agent told to end. Whether its container was told to end before, or counts as crashed, is not
looked at: what is asked for by such a container is handed out.
-/

namespace AgentFleet

open Procedure

/-- The agent is without work: it is idle, or done and its results are known to be saved. -/
def Heartbeat.AsksForWork (h : Heartbeat) (past : Past Act.Answer) : Prop :=
  h.state = .idle ∨
    h.state = .finished ∧ ⟨.backend (.resultsSaved h.agentId), .ok true⟩ ∈ past

namespace Fleet

/-! ### The rule of work -/

def dequeue (c : ContainerId) (batch : Option Json) : Sigma Act.Answer :=
  ⟨.backend (.nextBatch c), .ok batch⟩

def freshMark (c : ContainerId) : Sigma Act.Answer :=
  ⟨.memory (.tracker (.markTerminating c)), .ok true⟩

/-- All that agents are given or told is asked for by their heartbeats. -/
def MayEngage (h : Heartbeat) (past : Past Act.Answer) : Act → Prop
  | .backend (.nextBatch c) => h.agentId = c ∧ h.AsksForWork past
  | .memory (.tracker (.markTerminating c)) => h.agentId = c ∧ dequeue c none ∈ past
  | .spawn (.supervise e c) =>
    h.executionId = e ∧ h.agentId = c ∧ ∃ rest, past = freshMark c :: rest
  | _ => True

def workRule : Rule := fun cause past act =>
  act.IsUpkeep ∨ ∃ h, cause = .request (.heartbeat h) ∧ MayEngage h past act

variable {h : Heartbeat} {past : Past Act.Answer} {act : Act}

theorem keeps_of_upkeep {cause : Cause} {α : Type} {p : Activity α} (hp : p.Asks Act.IsUpkeep) :
    p.Keeps (workRule cause) past fun _ _ => True :=
  hp.keeps (fun _ _ hact _ => .inl hact) (fun _ _ _ _ => id) trivial

/-! ### Heartbeats -/

def Unserved (c : ContainerId) (past : Past Act.Answer) : Prop :=
  ∀ batch, dequeue c (some batch) ∉ past

def heartbeatRule (h : Heartbeat) (past : Past Act.Answer) (act : Act) : Prop :=
  Unserved h.agentId past ∧ (act.IsUpkeep ∨ MayEngage h past act)

theorem workRule_of_heartbeatRule (hrule : heartbeatRule h past act) :
    workRule (.request (.heartbeat h)) past act :=
  hrule.2.imp_right fun hmay => ⟨h, rfl, hmay⟩

/-- Work is given exactly if it was asked for and there was some. -/
def GivesWork (c : ContainerId) (r : Except Fault Answer) (past : Past Act.Answer) : Prop :=
  ∀ batch, r = .ok (.newJob batch) ↔ dequeue c (some batch) ∈ past

structure Backed (c : ContainerId) (r : Except Fault Answer) (past : Past Act.Answer) : Prop where
  newJob : GivesWork c r past
  terminate : r = .ok .terminate → dequeue c none ∈ past

section Past

variable {c : ContainerId} {r : Except Fault Answer}

theorem Unserved.cons {answer : act.Answer} (hno : Unserved c past)
    (hne : ∀ batch, (⟨act, answer⟩ : Sigma Act.Answer) ≠ dequeue c (some batch)) :
    Unserved c (⟨act, answer⟩ :: past) := by
  intro batch hmem
  rcases List.mem_cons.mp hmem with heq | hmem
  · exact hne batch heq.symm
  · exact hno batch hmem

theorem givesWork_of_unserved (hno : Unserved c past) (hr : ∀ batch, r ≠ .ok (.newJob batch)) :
    GivesWork c r past := fun batch => iff_of_false (hr batch) (hno batch)

theorem GivesWork.unserved (h : GivesWork c r past) (hr : ∀ batch, r ≠ .ok (.newJob batch)) :
    Unserved c past := fun batch hmem => hr batch ((h batch).mpr hmem)

theorem backed_of_unserved (hno : Unserved c past) (hjob : ∀ batch, r ≠ .ok (.newJob batch))
    (hterm : r ≠ .ok .terminate) : Backed c r past :=
  ⟨givesWork_of_unserved hno hjob, fun hr => (hterm hr).elim⟩

theorem givesWork_of_dequeue (hno : Unserved c past) (batch : Json) :
    GivesWork c (.ok (.newJob batch)) (dequeue c (some batch) :: past) := by
  intro batch'
  constructor
  · intro hr
    cases hr
    exact List.mem_cons_self
  · intro hmem
    rcases List.mem_cons.mp hmem with heq | hmem
    · cases heq
      rfl
    · exact (hno batch' hmem).elim

end Past

theorem assign_keeps (hno : Unserved h.agentId past) (hask : h.AsksForWork past) :
    (Attempt.assign h.agentId h.executionId).run.Keeps (heartbeatRule h) past
      (Backed h.agentId) := by
  refine keeps_run_bind.mpr ⟨⟨hno, .inr ⟨rfl, hask⟩⟩, fun answer => ?_⟩
  rcases answer with fault | batch
  · exact backed_of_unserved (hno.cons nofun) nofun nofun
  · cases batch with
    | some batch => exact ⟨givesWork_of_dequeue hno batch, nofun⟩
    | none =>
      have hnone : Unserved h.agentId (dequeue h.agentId none :: past) := hno.cons nofun
      refine keeps_run_bind.mpr ⟨⟨hnone, .inl trivial⟩, fun answer => ?_⟩
      rcases answer with fault | statuses
      · exact backed_of_unserved (hnone.cons nofun) nofun nofun
      · have hlater : Unserved h.agentId (⟨.backend (.agentStatuses h.executionId), .ok statuses⟩ ::
          dequeue h.agentId none :: past) := hnone.cons nofun
        have hvain := List.mem_cons_of_mem
          (⟨.backend (.agentStatuses h.executionId), .ok statuses⟩ : Sigma Act.Answer)
          (List.mem_cons_self (a := dequeue h.agentId none) (l := past))
        change Keeps _ (ExceptT.run (if _ then _ else _)) _ _
        split
        · exact backed_of_unserved hlater nofun nofun
        · exact ⟨givesWork_of_unserved hlater nofun, fun _ => hvain⟩

theorem answerTo_keeps (hno : Unserved h.agentId past) :
    (Attempt.answerTo h.agentId h.executionId h.state).run.Keeps (heartbeatRule h) past
      (Backed h.agentId) := by
  cases hstate : h.state with
  | starting =>
    refine keeps_run_bind.mpr ⟨⟨hno, .inl trivial⟩, fun answer => ?_⟩
    rcases answer with fault | config
    · exact backed_of_unserved (hno.cons nofun) nofun nofun
    · cases config <;> exact backed_of_unserved (hno.cons nofun) nofun nofun
  | idle => exact assign_keeps hno (.inl hstate)
  | finished =>
    refine keeps_run_bind.mpr ⟨⟨hno, .inl trivial⟩, fun answer => ?_⟩
    have hasked : Unserved h.agentId (⟨.backend (.resultsSaved h.agentId), answer⟩ :: past) :=
      hno.cons nofun
    rcases answer with fault | saved
    · exact backed_of_unserved hasked nofun nofun
    · cases saved with
      | true => exact assign_keeps hasked (.inr ⟨hstate, List.mem_cons_self⟩)
      | false =>
        refine keeps_run_bind.mpr ⟨⟨hasked, .inl trivial⟩, fun answer => ?_⟩
        cases answer <;> exact backed_of_unserved (hasked.cons nofun) nofun nofun
  | busy | backendFailure | backendUnreachable | cliFailed =>
    exact backed_of_unserved hno nofun nofun
  | crashed | terminated | stoppedByOrch =>
    refine keeps_run_bind.mpr (Attempt.keeps_accepted.mpr ⟨⟨hno, .inl trivial⟩, ?_⟩)
    intro answer
    cases answer <;> exact backed_of_unserved (hno.cons nofun) nofun nofun

theorem superviseOnce_keeps (hno : Unserved h.agentId past)
    (hnone : dequeue h.agentId none ∈ past) :
    (Attempt.superviseOnce h.agentId h.executionId).run.Keeps (heartbeatRule h) past
      fun _ past => Unserved h.agentId past := by
  refine keeps_run_bind.mpr (Attempt.keeps_accepted.mpr ⟨⟨hno, .inr ⟨rfl, hnone⟩⟩, ?_⟩)
  intro answer
  have hmarked : Unserved h.agentId
    (⟨.memory (.tracker (.markTerminating h.agentId)), answer⟩ :: past) := hno.cons nofun
  rcases answer with refusal | fresh
  · exact hmarked
  · cases fresh with
    | false => exact hmarked
    | true =>
      refine Attempt.keeps_lift.mpr ⟨⟨hmarked, .inr ⟨rfl, rfl, past, rfl⟩⟩, fun _ => ?_⟩
      exact hmarked.cons nofun

theorem process_keeps (hno : Unserved h.agentId past) :
    (Attempt.process h).run.Keeps (heartbeatRule h) past (GivesWork h.agentId) := by
  refine keeps_run_bind.mpr (Attempt.keeps_lift.mpr ⟨⟨hno, .inl trivial⟩, ?_⟩)
  intro reported
  have hreported : Unserved h.agentId
    (⟨.backend (.reportState h.agentId h.state h.timestamp), reported⟩ :: past) := hno.cons nofun
  refine keeps_run_bind.mpr (Attempt.keeps_lift.mpr ⟨⟨hreported, .inl trivial⟩, ?_⟩)
  intro now
  have hread : Unserved h.agentId (⟨.memory .clock, now⟩ :: _) := hreported.cons nofun
  refine keeps_run_bind.mpr (Attempt.keeps_accepted.mpr ⟨⟨hread, .inl trivial⟩, ?_⟩)
  intro heard
  have hheard : Unserved h.agentId (⟨.memory (.tracker
    (.upsert h.executionId h.agentId now.wall)), heard⟩ :: _) := hread.cons nofun
  rcases heard with refusal | _
  · exact givesWork_of_unserved hheard nofun
  refine keeps_run_bind.mpr (Attempt.keeps_ofExcept.mpr ?_)
  rcases reported with fault | _
  · exact givesWork_of_unserved hheard nofun
  refine keeps_run_bind.mpr ((answerTo_keeps hheard).mono fun r past hbacked => ?_)
  rcases r with fault | answer
  · exact hbacked.newJob
  cases answer with
  | terminate =>
    have hno : Unserved h.agentId past := hbacked.newJob.unserved nofun
    refine keeps_run_bind.mpr ((superviseOnce_keeps hno (hbacked.terminate rfl)).mono ?_)
    intro r past hno
    cases r <;> exact givesWork_of_unserved hno nofun
  | init | newJob | keepOn | wait => exact hbacked.newJob

theorem heartbeat_keeps (hno : Unserved h.agentId past) :
    (Activity.heartbeat h).Keeps (heartbeatRule h) past fun answer =>
      GivesWork h.agentId (.ok answer) := by
  refine keeps_bind.mpr ((process_keeps hno).mono fun r past hgives => ?_)
  cases r with
  | ok answer => exact hgives
  | error fault =>
    have hnone : Unserved h.agentId past := hgives.unserved fun _ hr => by cases hr
    exact givesWork_of_unserved hnone fun _ hr => by cases hr

theorem unserved_nil (c : ContainerId) : Unserved c [] := fun _ => List.not_mem_nil

theorem request_keeps (h : Heartbeat) {s : Settings} :
    ((Cause.request (.heartbeat h)).activity s).Keeps (heartbeatRule h) [] fun _ _ => True :=
  keeps_discard.mpr (keeps_bind.mpr
    ((heartbeat_keeps (unserved_nil h.agentId)).mono fun _ _ _ => trivial))

theorem workRule_kept (s : Settings) : workRule.Kept s := by
  intro cause
  by_cases hbeat : cause.IsHeartbeat
  · obtain ⟨h, rfl⟩ := hbeat.eq_request
    exact Keeps.weaken (request_keeps h) fun _ _ => workRule_of_heartbeatRule
  · exact keeps_of_upkeep (cause.activity_upkeep s hbeat)

/-! ### The mark in the log -/

variable {c : ContainerId} {ev : Event} {older log : List Event}

def Terminating (c : ContainerId) (log : List Event) : Prop := c ∈ (trackerAfter log).terminating

instance : Decidable (Terminating c log) :=
  inferInstanceAs (Decidable (c ∈ (trackerAfter log).terminating))

def TerminatingSince (c : ContainerId) (since log : List Event) : Prop :=
  ∀ between, since <:+ between → between <:+ log → Terminating c between

theorem eq_mark_of_terminating (hno : ¬ Terminating c older) (hc : Terminating c (ev :: older)) :
    ev.act = .memory (.tracker (.markTerminating c)) := by
  unfold Terminating at hno hc
  rcases trackerAfter_step ev older with hsame | ⟨op, hact, hstep⟩
  · rw [hsame] at hc
    exact (hno hc).elim
  · rw [hstep] at hc
    rw [hact, (consistent_trackerAfter older).eq_markTerminating hno hc]

/-! ### Work for containers that were told to end -/

section Runs

variable {s : Settings} {moves : List Move}

def Answered (f : Fleet) (i : Nat) (h : Heartbeat) (answer : Answer) : Prop :=
  ∃ st, f.strands[i]? = some st ∧ st.cause = .request (.heartbeat h) ∧
    (Activity.heartbeat h).Ends [] answer (pastOf i f.log)

/-- An event marked the container as terminating, and it has been so since; the event belongs to a
heartbeat of the container's agent that had asked for work in vain. -/
structure Dismissal (c : ContainerId) (mark : Event) (marked log : List Event) : Prop where
  logged : mark :: marked <:+ log
  act : mark.act = .memory (.tracker (.markTerminating c))
  since : TerminatingSince c (mark :: marked) log
  beat : ∃ h, mark.cause = .request (.heartbeat h) ∧ h.agentId = c
  vain : ∃ asked asking, asked :: asking <:+ marked ∧ asked.strand = mark.strand ∧
    asked.exchange (serviceAfter asking) = dequeue c none

theorem exists_dismissal (hlog : log <:+ (after s moves).log) (hc : Terminating c log) :
    ∃ mark marked, Dismissal c mark marked log := by
  have hnil : ¬ Terminating c [] := Std.ExtTreeSet.not_mem_empty
  obtain ⟨mark, marked, -, hsub, hno, hsince⟩ := exists_since List.nil_suffix hnil hc
  have hact := eq_mark_of_terminating hno (hsince _ List.suffix_rfl hsub)
  have hrule := (traced_after (workRule_kept s) moves).obeyed mark marked (hsub.trans hlog)
  rw [hact] at hrule
  obtain ⟨h, hcause, hagent, hvain⟩ := hrule.resolve_left id
  obtain ⟨asked, asking, hasked, hstrand, hx⟩ := exists_event_of_mem_past hvain
  exact ⟨mark, marked, hsub, hact, hsince, ⟨h, hcause, hagent⟩, asked, asking, hasked, hstrand, hx⟩

/-- A batch is asked for only by a heartbeat of the container's own agent, which reports that it is
idle, or done and its results are known to be saved. If the container is terminating then it was
marked so by an earlier heartbeat of its agent, which had asked for work in vain. A heartbeat is
answered with work exactly if it was given this work when it asked for it. -/
theorem work_on_request (s : Settings) (moves : List Move) (c : ContainerId) :
    (∀ ev older, ev :: older <:+ (after s moves).log → ev.act = .backend (.nextBatch c) →
      (∃ h, ev.cause = .request (.heartbeat h) ∧ h.agentId = c ∧
        h.AsksForWork (pastOf ev.strand older)) ∧
      (Terminating c older → ∃ mark marked, Dismissal c mark marked older)) ∧
    ∀ i h answer, Answered (after s moves) i h answer → h.agentId = c →
      ∀ batch, answer = .newJob batch ↔
        ∃ ev older, ev :: older <:+ (after s moves).log ∧ ev.strand = i ∧
          ev.exchange (serviceAfter older) = dequeue c (some batch) := by
  constructor
  · intro ev older hlog hact
    refine ⟨?_, exists_dismissal (older_suffix hlog)⟩
    have hrule := (traced_after (workRule_kept s) moves).obeyed ev older hlog
    rw [hact] at hrule
    exact hrule.resolve_left id
  · rintro i h answer ⟨st, -, -, hend⟩ rfl batch
    have hgives := (heartbeat_keeps (unserved_nil h.agentId)).of_ends hend batch
    constructor
    · rintro rfl
      exact exists_event_of_mem_past (hgives.mp rfl)
    · rintro ⟨ev, older, hlog, rfl, hx⟩
      exact Except.ok.inj (hgives.mpr (hx ▸ exchange_mem_pastOf hlog))

def dismissed : List Move := beat .idle "e" "a" :: steps {} 0 7

def reportedCrash : List Move := beat .crashed "e" "a" :: steps {} 0 4

def comeback (i : Nat) : List Move :=
  beat .idle "e" "a" :: steps { queue := [.bool true] } i 4

/-- A container that is terminating is given work, and so is one that counts as crashed. -/
theorem work_for_condemned :
    let beat : Heartbeat := ⟨"a", .idle, ⟨"e", 0⟩, ⟨0, 0⟩⟩
    (Terminating "a" (after briefSettings dismissed).log ∧
      Answered (after briefSettings (dismissed ++ comeback 2)) 2 beat (.newJob (.bool true)) ∧
      ∃ ev older, (after briefSettings (dismissed ++ comeback 2)).log = ev :: older ∧
        ev.exchange (serviceAfter older) = dequeue "a" (some (.bool true)) ∧
        Terminating "a" older) ∧
    ("a" ∈ (trackerAfter (after briefSettings reportedCrash).log).crashed ∧
      Answered (after briefSettings (reportedCrash ++ comeback 1)) 1 beat
        (.newJob (.bool true)) ∧
      ∃ ev older, (after briefSettings (reportedCrash ++ comeback 1)).log = ev :: older ∧
        ev.exchange (serviceAfter older) = dequeue "a" (some (.bool true)) ∧
        "a" ∈ (trackerAfter older).crashed) := by
  refine ⟨⟨by decide, ⟨_, rfl, rfl, ?_⟩, _, _, rfl, rfl, by decide⟩,
    ⟨by decide, ⟨_, rfl, rfl, ?_⟩, _, _, rfl, rfl, by decide⟩⟩
  · exact ⟨.ok (), ⟨0, 0, 0⟩, .ok (), .ok (some (.bool true)), rfl, rfl⟩
  · exact ⟨.ok (), ⟨0, 0, 0⟩, .ok (), .ok (some (.bool true)), rfl, rfl⟩

end Runs

end Fleet

end AgentFleet
