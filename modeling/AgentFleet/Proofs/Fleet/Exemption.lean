import AgentFleet.Proofs.Fleet.Supervisions

/-!
How long a container is exempt from counting as stale. It is exempt while it is marked as
terminating, and for all that time some activity waits for its end: the heartbeat that sets the mark
starts the wait with its next question, and when the wait is over the mark is lifted. So if no
activity is late with what it asks next, the mark does not outlast the time that a wait may take.
-/

namespace AgentFleet

open Procedure

inductive Act.OfOutcome (c : ContainerId) : Act → Prop
  | drop : OfOutcome c (memory (.tracker (.delete c)))
  | crash : OfOutcome c (memory (.tracker (.markCrashed c)))

/-- When at the latest a question is answered that is asked at some time. The memory answers at
once; the backend and the runner may take any time. -/
def Act.dueBy (time : Nat) : Act → Option Nat
  | memory _ => some time
  | spawn _ => some time
  | sleep millis => some (time + millis)
  | runnerUntil deadline _ => some (max time deadline)
  | backend _ => none
  | runner _ => none

def Act.LeavesUnmarked (act : Act) : Prop := ∀ c, act ≠ .memory (.tracker (.markTerminating c))

theorem Act.IsUpkeep.leavesUnmarked {act : Act} (h : act.IsUpkeep) : act.LeavesUnmarked := by
  rintro c rfl
  exact h

theorem Attempt.answerTo_leavesUnmarked (c : ContainerId) (e : ExecutionId) (state : AgentState) :
    (answerTo c e state).run.Asks Act.LeavesUnmarked := by
  cases state with
  | starting =>
    refine Asks.run_bind (asks_backend.mpr nofun) fun config => ?_
    cases config <;> exact asks_pure
  | idle => exact assign_asks nofun nofun
  | finished =>
    refine Asks.run_bind (asks_backend.mpr nofun) fun saved => ?_
    split
    · exact assign_asks nofun nofun
    · exact Asks.run_bind (asks_backend.mpr nofun) fun _ => asks_pure
  | busy | backendFailure | backendUnreachable | cliFailed => exact asks_pure
  | crashed | terminated | stoppedByOrch =>
    exact (asks_accepted (asks_query.mpr nofun)).run_bind fun _ => asks_pure

namespace Fleet

variable {s : Settings} {moves : List Move} {m : Move} {f : Fleet} {i : Nat} {e : ExecutionId}
  {c : ContainerId} {ev mark : Event} {older marked log : List Event} {past : Past Act.Answer}
  {act : Act} {cause : Cause}

/-! ### Every mark is followed by a wait -/

/-- The last question was not one that marked a container for the first time. -/
def Unmarked (past : Past Act.Answer) : Prop := ∀ c, past.head? ≠ some (freshMark c)

/-- Who marks a container for the first time starts to wait for its end, and does nothing else
before that. -/
def startRule : Rule := fun cause past act => ∀ c, past.head? = some (freshMark c) →
  ∃ h, cause = .request (.heartbeat h) ∧ act = .spawn (.supervise h.executionId c)

theorem Unmarked.startRule (h : Unmarked past) : startRule cause past act :=
  fun c hmark => (h c hmark).elim

theorem Unmarked.cons {answer : act.Answer} (_ : Unmarked past) (hact : act.LeavesUnmarked) :
    Unmarked (⟨act, answer⟩ :: past) := by
  intro c hmark
  exact hact c (congrArg Sigma.fst (Option.some.inj hmark))

theorem starts_of_asks {α : Type} {p : Activity α} (hp : p.Asks Act.LeavesUnmarked)
    (h : Unmarked past) : p.Keeps (startRule cause) past fun _ => Unmarked :=
  hp.keeps (fun _ _ _ h => h.startRule) (fun _ _ _ hact h => h.cons hact) h

theorem superviseOnce_starts {h : Heartbeat} (hno : Unmarked past) :
    (Attempt.superviseOnce h.agentId h.executionId).run.Keeps
      (startRule (.request (.heartbeat h))) past fun _ => Unmarked := by
  refine keeps_run_bind.mpr (Attempt.keeps_accepted.mpr ⟨hno.startRule, fun answer => ?_⟩)
  rcases answer with refusal | fresh
  · rintro c ⟨⟩
  cases fresh with
  | false => rintro c ⟨⟩
  | true =>
    refine Attempt.keeps_lift.mpr ⟨?_, fun _ => ?_⟩
    · rintro c ⟨⟩
      exact ⟨h, rfl, rfl⟩
    · rintro c ⟨⟩

theorem process_starts {h : Heartbeat} (hno : Unmarked past) :
    (Attempt.process h).run.Keeps (startRule (.request (.heartbeat h))) past fun _ => Unmarked := by
  refine keeps_run_bind.mpr (Attempt.keeps_lift.mpr ⟨hno.startRule, fun reported => ?_⟩)
  have hreported : Unmarked (⟨.backend (.reportState h.agentId h.state h.timestamp), reported⟩ ::
    past) := hno.cons nofun
  refine keeps_run_bind.mpr (Attempt.keeps_lift.mpr ⟨hreported.startRule, fun now => ?_⟩)
  have hread : Unmarked (⟨.memory .clock, now⟩ :: _) := hreported.cons nofun
  refine keeps_run_bind.mpr (Attempt.keeps_accepted.mpr ⟨hread.startRule, fun heard => ?_⟩)
  have hheard : Unmarked (⟨.memory (.tracker (.upsert h.executionId h.agentId now.wall)), heard⟩ ::
    _) := hread.cons nofun
  rcases heard with refusal | _
  · exact hheard
  refine keeps_run_bind.mpr (Attempt.keeps_ofExcept.mpr ?_)
  rcases reported with fault | _
  · exact hheard
  refine keeps_run_bind.mpr ((starts_of_asks (Attempt.answerTo_leavesUnmarked ..) hheard).mono ?_)
  intro r past hno
  rcases r with fault | answer
  · exact hno
  cases answer with
  | terminate =>
    refine keeps_run_bind.mpr ((superviseOnce_starts hno).mono fun r past hno => ?_)
    cases r <;> exact hno
  | init | newJob | keepOn | wait => exact hno

theorem unmarked_nil : Unmarked [] := nofun

theorem activity_starts (s : Settings) (cause : Cause) :
    (cause.activity s).Keeps (startRule cause) [] fun _ => Unmarked := by
  by_cases hbeat : cause.IsHeartbeat
  · obtain ⟨h, rfl⟩ := hbeat.eq_request
    refine keeps_discard.mpr (keeps_bind.mpr (keeps_bind.mpr ?_))
    refine (process_starts unmarked_nil).mono fun r past hno => ?_
    cases r <;> exact hno
  · refine starts_of_asks ((cause.activity_upkeep s hbeat).mono ?_) unmarked_nil
    exact fun _ hact => hact.leavesUnmarked

/-! ### Every wait comes to an outcome in time -/

/-- The wait has not yet told the tracker what came of it. -/
def Undecided (c : ContainerId) (past : Past Act.Answer) : Prop :=
  ∀ x ∈ past, ¬ x.1.OfOutcome c

def deadlineFrom (s : Settings) (start : Clock) : Nat :=
  start.timer + s.shutdown.timeoutSeconds * 1000

def StartedOn (start : Clock) (past : Past Act.Answer) : Prop :=
  [(⟨.memory .clock, start⟩ : Sigma Act.Answer)] <:+ past

/-- A question of a wait that is not over does not reach beyond the deadline. -/
inductive Paced (s : Settings) (past : Past Act.Answer) : Act → Prop
  | memory (op : Local) : Paced s past (.memory op)
  | pause {start now : Clock} {rest : Past Act.Answer} {millis : Nat} :
    StartedOn start past → past = ⟨.memory .clock, now⟩ :: rest →
    (now.timer ≤ deadlineFrom s start → now.timer + millis ≤ deadlineFrom s start) →
    Paced s past (.sleep millis)
  | look {start : Clock} {call : RunnerCall} : StartedOn start past →
    Paced s past (.runnerUntil (deadlineFrom s start) call)

def waitRule (s : Settings) (c : ContainerId) (past : Past Act.Answer) (act : Act) : Prop :=
  (past = [] → act = .memory .clock) ∧ (Undecided c past → Paced s past act)

theorem StartedOn.ne_nil {start : Clock} (h : StartedOn start past) : past ≠ [] := by
  rintro rfl
  cases List.suffix_nil.mp h

theorem StartedOn.cons {start : Clock} (h : StartedOn start past) (x : Sigma Act.Answer) :
    StartedOn start (x :: past) := h.trans (List.suffix_cons _ _)

theorem waitRule_of_started {start : Clock} (h : StartedOn start past) (hact : Paced s past act) :
    waitRule s c past act := ⟨fun hnil => (h.ne_nil hnil).elim, fun _ => hact⟩

theorem awaitStop_paced {start : Clock} (h : StartedOn start past) (checks : Nat) :
    (Activity.awaitStop s.shutdown c (deadlineFrom s start) checks).Keeps (waitRule s c) past
      fun _ => StartedOn start := by
  induction checks generalizing past with
  | zero => exact h
  | succ checks ih =>
    refine keeps_query_bind.mpr ⟨waitRule_of_started h (.memory _), fun now => ?_⟩
    have hread := h.cons ⟨.memory .clock, now⟩
    change Keeps _ (if _ then _ else _) _ _
    split
    next hle =>
      refine keeps_query_bind.mpr
        ⟨waitRule_of_started hread (.pause hread rfl fun _ => hle), fun _ => ?_⟩
      have hslept := hread.cons ⟨.sleep s.shutdown.checkIntervalMillis, ()⟩
      refine keeps_query_bind.mpr ⟨waitRule_of_started hslept (.look hslept), fun looked => ?_⟩
      have hlooked := hslept.cons ⟨.runnerUntil (deadlineFrom s start) (.isStopped c), looked⟩
      split
      · exact hlooked
      · exact hlooked
      · exact ih hlooked
    next =>
      refine keeps_query_bind.mpr
        ⟨waitRule_of_started hread (.pause hread rfl fun hle => ?_), fun _ => hread.cons _⟩
      omega

/-- Once a wait is decided it is bound to no deadline. -/
theorem finalize_decided {x : Sigma Act.Answer} (hx : x.1.OfOutcome c) (hmem : x ∈ past) :
    (Activity.finalize s.liveness e .completed).Keeps (waitRule s c) past fun _ past =>
      x ∈ past := by
  refine (Activity.finalize_asks s.liveness e .completed).keeps (fun past act _ hmem => ?_)
    (fun _ _ _ _ => List.mem_cons_of_mem _) hmem
  exact ⟨fun hnil => by simp [hnil] at hmem, fun hno => (hno x hmem hx).elim⟩

theorem supervise_paced (s : Settings) (e : ExecutionId) (c : ContainerId) :
    (Activity.supervise s e c).Keeps (waitRule s c) [] fun _ past => ¬ Undecided c past := by
  refine keeps_query_bind.mpr ⟨⟨fun _ => rfl, fun _ => .memory _⟩, fun start => ?_⟩
  have hstart : StartedOn start [⟨.memory .clock, start⟩] := List.suffix_rfl
  refine keeps_bind.mpr ((awaitStop_paced hstart _).mono fun outcome past h => ?_)
  have hrule {op : Local} : waitRule s c past (.memory op) := waitRule_of_started h (.memory op)
  have hend {x : Sigma Act.Answer} (hx : x.1.OfOutcome c) :
      (Activity.finalize s.liveness e .completed >>= fun _ => pure outcome).Keeps (waitRule s c)
        (x :: past) fun _ past => ¬ Undecided c past :=
    keeps_bind.mpr ((finalize_decided hx List.mem_cons_self).mono fun _ _ hmem hno =>
      hno x hmem hx)
  cases outcome with
  | stopped =>
    exact keeps_bind.mpr (keeps_discard.mpr ⟨hrule, fun _ => hend .drop⟩)
  | timedOut =>
    exact keeps_bind.mpr (keeps_discard.mpr ⟨hrule, fun _ => hend .crash⟩)

theorem startRule_kept (s : Settings) : startRule.Kept s :=
  fun cause => (activity_starts s cause).mono fun _ _ _ => trivial

def paceRule (s : Settings) : Rule := fun cause past act =>
  ∀ e c, cause = .job (.supervise e c) → waitRule s c past act

theorem paceRule_kept (s : Settings) : (paceRule s).Kept s := by
  intro cause
  by_cases hwait : ∃ e c, cause = .job (.supervise e c)
  · obtain ⟨e, c, rfl⟩ := hwait
    refine keeps_discard.mpr (((supervise_paced s e c).weaken fun past act hrule => ?_).mono
      fun _ _ _ => trivial)
    rintro e' c' ⟨⟩
    exact hrule
  · exact keeps_of_forall fun past act e c hcause => (hwait ⟨e, c, hcause⟩).elim

/-! ### What begins a wait -/

theorem strand_stays {st : Strand} (h : f.strands[i]? = some st) (m : Move) :
    ∃ st', (f.move s m).strands[i]? = some st' ∧ st'.cause = st.cause := by
  obtain ⟨hlt, -⟩ := List.getElem?_eq_some_iff.mp h
  cases m with
  | begin cause => exact ⟨st, (List.getElem?_append_left hlt).trans h, rfl⟩
  | go k clock reply =>
    unfold move go
    dsimp only
    split
    next cause act next hk =>
      rw [List.getElem?_append_left (by rwa [List.length_set])]
      by_cases hki : k = i
      · subst hki
        rw [hk] at h
        cases h
        exact ⟨_, List.getElem?_set_self hlt, rfl⟩
      · exact ⟨st, by rw [List.getElem?_set_ne hki, h], rfl⟩
    next => exact ⟨st, h, rfl⟩

theorem BegunBy.concat (h : BegunBy s moves i ev older) (m : Move) :
    BegunBy s (moves ++ [m]) i ev older := by
  obtain ⟨before, m', hpre, h⟩ := h
  exact ⟨before, m', hpre.trans (List.prefix_append _ _), h⟩

theorem exists_begunBy {job : Job} (h : ev :: older <:+ (after s moves).log)
    (hact : ev.act = .spawn job) : ∃ i st, BegunBy s moves i ev older ∧
      (after s moves).strands[i]? = some st ∧ st.cause = .job job := by
  induction moves using List.reverseRecOn with
  | nil => cases List.suffix_nil.mp h
  | append_singleton moves m ih =>
    by_cases hold : ev :: older <:+ (after s moves).log
    · obtain ⟨i, st, hbegun, hst, hcause⟩ := ih hold
      obtain ⟨st', hst', hsame⟩ := strand_stays (s := s) hst m
      rw [← after_concat] at hst'
      exact ⟨i, st', hbegun.concat m, hst', hsame.trans hcause⟩
    -- The last move was the one that spawned the job.
    · have hnew := h
      rw [after_concat] at hnew
      cases m with
      | begin cause => exact (hold hnew).elim
      | go k clock reply =>
        unfold move go at hnew
        dsimp only at hnew
        split at hnew
        next cause act next hk =>
          obtain ⟨hev, holder⟩ := List.cons.inj ((List.suffix_cons_iff.mp hnew).resolve_right hold)
          have hlog : (after s (moves ++ [.go k clock reply])).log = ev :: older := by
            rw [after_concat, hev, holder]
            simp [move, go, hk]
          refine ⟨(after s moves).strands.length, (Cause.job job).strand s,
            ⟨moves, _, List.prefix_rfl, rfl, holder.symm, hlog⟩, ?_, rfl⟩
          obtain rfl : act = .spawn job := by rwa [hev] at hact
          rw [after_concat, move, go, hk]
          simp [Act.spawned]
        next => exact (hold hnew).elim

theorem BegunBy.pastOf_eq_nil (h : BegunBy s moves i ev older) : pastOf i older = [] := by
  obtain ⟨before, m, -, rfl, rfl, -⟩ := h
  exact (traced_after (workRule_kept s) before).pastOf_eq_nil_of_le (Nat.le_refl _)

/-- An activity asks nothing before it is begun. -/
theorem BegunBy.before_asked {spawn : Event} {earlier : List Event}
    (h : BegunBy s moves i spawn earlier) (hev : ev :: older <:+ (after s moves).log)
    (hi : ev.strand = i) (hact : ev.act ≠ spawn.act) : spawn :: earlier <:+ older := by
  rcases eq_or_before h.logged hev with heq | hsub | hsub
  · exact (hact (congrArg Event.act (List.cons.inj heq).1).symm).elim
  · exact hsub
  · have hmem := exchange_mem_pastOf hsub
    rw [hi, h.pastOf_eq_nil] at hmem
    cases hmem

/-! ### As long as a container is terminating, its end is waited for -/

/-- The event marked the container, which has been terminating since. -/
structure LastMarked (c : ContainerId) (mark : Event) (marked log : List Event) : Prop where
  logged : mark :: marked <:+ log
  fresh : mark.exchange (serviceAfter marked) = freshMark c
  since : TerminatingSince c (mark :: marked) log

/-- The activity waits for the container's end and has not told the tracker what came of it. -/
def Attends (c : ContainerId) (f : Fleet) (i : Nat) : Prop :=
  ∃ e act next, f.strands[i]? = some ⟨.job (.supervise e c), .ask act next⟩ ∧
    Undecided c (pastOf i f.log)

/-- The activity has marked the container, and starts to wait for its end with the next question. -/
def WillAttend (c : ContainerId) (f : Fleet) (i : Nat) : Prop :=
  ∃ h next, f.strands[i]? = some ⟨.request (.heartbeat h),
    .ask (.spawn (.supervise h.executionId c)) next⟩ ∧
    (pastOf i f.log).head? = some (freshMark c)

theorem exists_lastMarked (h : Terminating c log) :
    ∃ mark marked, LastMarked c mark marked log := by
  have hnil : ¬ Terminating c [] := Std.ExtTreeSet.not_mem_empty
  obtain ⟨mark, marked, -, hlog, hno, hsince⟩ := exists_since List.nil_suffix hnil h
  have hyes := hsince _ List.suffix_rfl hlog
  have hact := eq_mark_of_terminating hno hyes
  refine ⟨mark, marked, hlog, ?_, hsince⟩
  obtain ⟨strand, cause, clock, act, reply⟩ := mark
  obtain rfl : act = .memory (.tracker (.markTerminating c)) := hact
  exact congrArg (Sigma.mk _) (Tracker.answer_of_marked hno hyes)

theorem not_terminating_of_outcome (hact : ev.act.OfOutcome c) : ¬ Terminating c (ev :: older) := by
  have hstep : trackerAfter (ev :: older) = (trackerAfter older).after ev.act.operations :=
    tracker_perform ..
  have hcons := consistent_trackerAfter older
  unfold Terminating
  rw [hstep]
  generalize ev.act = act at hact
  cases hact with
  | drop => exact hcons.not_terminating_of_delete
  | crash => exact hcons.not_terminating_of_markCrashed

namespace LastMarked

theorem not_terminating (h : LastMarked c mark marked log) : ¬ Terminating c marked :=
  (Tracker.fresh_mark (Event.of_exchange_memory h.fresh).2.1).1

theorem pastOf_eq (h : LastMarked c mark marked log) :
    pastOf mark.strand (mark :: marked) = freshMark c :: pastOf mark.strand marked := by
  rw [pastOf, if_pos rfl, h.fresh]

theorem not_decided (h : LastMarked c mark marked log) (hlog : ev :: older <:+ log)
    (hsub : mark :: marked <:+ older) : ¬ ev.act.OfOutcome c := fun hact =>
  not_terminating_of_outcome hact (h.since _ (hsub.trans (List.suffix_cons _ _)) hlog)

end LastMarked

/-- The event began the activity to wait for the container's end; it was the next question of the
heartbeat that had marked the container. -/
structure Dispatch (s : Settings) (moves : List Move) (e : ExecutionId) (c : ContainerId)
    (mark : Event) (marked : List Event) (i : Nat) (spawn : Event) (earlier : List Event) :
    Prop where
  begun : BegunBy s moves i spawn earlier
  act : spawn.act = .spawn (.supervise e c)
  wait : ∃ rest, (after s moves).strands[i]? = some ⟨.job (.supervise e c), rest⟩
  strand : spawn.strand = mark.strand
  sub : mark :: marked <:+ earlier
  next : pastOf mark.strand earlier = freshMark c :: pastOf mark.strand marked

theorem Dispatch.before_asked {spawn : Event} {earlier : List Event}
    (h : Dispatch s moves e c mark marked i spawn earlier)
    (hev : ev :: older <:+ (after s moves).log) (hi : ev.strand = i)
    (hact : ev.act ≠ .spawn (.supervise e c)) : spawn :: earlier <:+ older :=
  h.begun.before_asked hev hi (h.act ▸ hact)

namespace LastMarked

variable {spawn : Event} {earlier : List Event}

theorem undecided (h : LastMarked c mark marked (after s moves).log)
    (hsent : Dispatch s moves e c mark marked i spawn earlier) :
    Undecided c (pastOf i (after s moves).log) := by
  intro x hx hact
  obtain ⟨ev, older, hlog, hi, rfl⟩ := exists_event_of_mem_past hx
  have hact : ev.act.OfOutcome c := hact
  have hsub := hsent.before_asked hlog hi fun heq => by
    rw [heq] at hact
    cases hact
  exact h.not_decided hlog (hsent.sub.trans ((List.suffix_cons _ _).trans hsub)) hact

theorem attends (h : LastMarked c mark marked (after s moves).log)
    (hsent : Dispatch s moves e c mark marked i spawn earlier) : Attends c (after s moves) i := by
  obtain ⟨rest, hst⟩ := hsent.wait
  have hno := h.undecided hsent
  have hkeeps : ((Cause.job (.supervise e c)).activity s).Keeps (waitRule s c) []
    fun _ past => ¬ Undecided c past := keeps_discard.mpr (supervise_paced s e c)
  have hrest := hkeeps.of_reaches (reaches_after hst)
  cases rest with
  | done a => exact (hrest hno).elim
  | ask act next => exact ⟨e, act, next, hst, hno⟩

/-- Who marks a container goes on to have its end waited for. -/
theorem followed (h : LastMarked c mark marked (after s moves).log) :
    WillAttend c (after s moves) mark.strand ∧
        pastOf mark.strand (after s moves).log = freshMark c :: pastOf mark.strand marked ∨
      ∃ i e spawn earlier, Dispatch s moves e c mark marked i spawn earlier := by
  have hpast := pastOf_suffix (i := mark.strand) h.logged
  rw [h.pastOf_eq] at hpast
  obtain ⟨newer, hnewer⟩ := hpast
  rcases List.eq_nil_or_concat newer with rfl | ⟨newer, x, rfl⟩
  · left
    have hhead : (pastOf mark.strand (after s moves).log).head? = some (freshMark c) :=
      hnewer ▸ rfl
    obtain ⟨⟨cause, rest⟩, hst, -⟩ :=
      (traced_after (startRule_kept s) moves).caused mark (h.logged.subset List.mem_cons_self)
    have hrest := Keeps.of_reaches (activity_starts s cause) (reaches_after hst)
    cases rest with
    | done a => exact (hrest c hhead).elim
    | ask act next =>
      obtain ⟨beat, rfl, rfl⟩ := hrest.1 c hhead
      exact ⟨⟨beat, next, hst, hhead⟩, hnewer.symm⟩
  · right
    rw [List.concat_eq_append, List.append_assoc, List.singleton_append] at hnewer
    obtain ⟨spawn, earlier, hlog, hstrand, -, hnext⟩ := exists_event_of_past ⟨newer, hnewer⟩
    have hrule := (traced_after (startRule_kept s) moves).obeyed spawn earlier hlog c
    rw [hstrand, hnext] at hrule
    obtain ⟨beat, -, hact⟩ := hrule rfl
    obtain ⟨i, ⟨cause, rest⟩, hbegun, hst, rfl⟩ := exists_begunBy hlog hact
    have hnot : ¬ earlier <:+ marked := by
      intro hsub
      have hle := (pastOf_suffix (i := mark.strand) hsub).length_le
      rw [hnext, List.length_cons] at hle
      omega
    have hsub : mark :: marked <:+ earlier := by
      rcases eq_or_before h.logged hlog with heq | hsub | hsub
      · exact (hnot ((List.cons.inj heq).2 ▸ List.suffix_rfl)).elim
      · exact hsub
      · exact (hnot (older_suffix hsub)).elim
    exact ⟨i, _, spawn, earlier, hbegun, hact, ⟨rest, hst⟩, hstrand, hsub, hnext⟩

end LastMarked

/-! ### No wait outlasts its deadline -/

/-- The event is the last that has happened to the activity: its last question, or what began it. -/
def LastOf (s : Settings) (moves : List Move) (i : Nat) (last : Event) (log : List Event) : Prop :=
  ∃ older, last :: older <:+ log ∧
    (last.strand = i ∧ pastOf i log = last.exchange (serviceAfter older) :: pastOf i older ∨
      pastOf i log = [] ∧ BegunBy s moves i last older)

/-- No activity has ever been late to ask its next question, and none is late now. -/
structure Punctual (s : Settings) (moves : List Move) (now : Nat) : Prop where
  asked : ∀ ev older last limit, ev :: older <:+ (after s moves).log →
    LastOf s moves ev.strand last older → last.act.dueBy last.clock.timer = some limit →
    ev.clock.timer ≤ limit
  asking : ∀ i cause act next last limit,
    (after s moves).strands[i]? = some ⟨cause, .ask act next⟩ →
    LastOf s moves i last (after s moves).log → last.act.dueBy last.clock.timer = some limit →
    now ≤ limit

/-- The question of a wait that has begun by some time is answered before the wait is over. -/
def InTime (s : Settings) (time i : Nat) (ev : Event) (older : List Event) : Prop :=
  ∃ start limit, StartedOn start (pastOf i (ev :: older)) ∧ start.timer ≤ time ∧
    ev.act.dueBy ev.clock.timer = some limit ∧ limit ≤ deadlineFrom s start

theorem exists_lastOf {x : Sigma Act.Answer} {rest : Past Act.Answer}
    (h : pastOf i log = x :: rest) : ∃ last older, LastOf s moves i last log ∧
      last :: older <:+ log ∧ last.strand = i ∧ last.exchange (serviceAfter older) = x ∧
      pastOf i (last :: older) = x :: rest := by
  have hsub : x :: rest <:+ pastOf i log := h ▸ List.suffix_rfl
  obtain ⟨last, older, hlog, hi, hx, hrest⟩ := exists_event_of_past hsub
  refine ⟨last, older, ⟨older, hlog, .inl ⟨hi, ?_⟩⟩, hlog, hi, hx, ?_⟩
  · rw [h, hx, hrest]
  · rw [pastOf, if_pos hi, hx, hrest]

theorem StartedOn.eq {start start' : Clock} (h : StartedOn start past)
    (h' : StartedOn start' past) : start = start' := by
  have heq := (List.suffix_of_suffix_length_le h h' (Nat.le_refl _)).eq_of_length rfl
  exact eq_of_heq (Sigma.mk.inj (List.cons.inj heq).1).2

theorem Paced.dueBy_le {start : Clock} {time limit : Nat} (h : Paced s past act)
    (hstart : StartedOn start past) (hsoon : time ≤ limit) (hlimit : limit ≤ deadlineFrom s start)
    (hread : ∀ now rest, past = ⟨.memory .clock, now⟩ :: rest → now.timer = limit) :
    ∃ due, act.dueBy time = some due ∧ due ≤ deadlineFrom s start := by
  cases h with
  | memory op => exact ⟨time, rfl, hsoon.trans hlimit⟩
  | pause hstart' hpast hle =>
    obtain rfl := hstart.eq hstart'
    have hnow := hread _ _ hpast
    have hend := hle (hnow ▸ hlimit)
    exact ⟨_, rfl, by omega⟩
  | look hstart' =>
    obtain rfl := hstart.eq hstart'
    exact ⟨_, rfl, Nat.max_le.mpr ⟨hsoon.trans hlimit, Nat.le_refl _⟩⟩

namespace Dispatch

variable {spawn : Event} {earlier : List Event} {now : Nat}

theorem timer_le (h : Dispatch s moves e c mark marked i spawn earlier)
    (hmark : LastMarked c mark marked (after s moves).log) (hp : Punctual s moves now) :
    spawn.clock.timer ≤ mark.clock.timer := by
  have hlast : LastOf s moves spawn.strand mark earlier :=
    ⟨marked, h.sub, .inl ⟨h.strand.symm, by rw [h.strand, h.next, hmark.fresh]⟩⟩
  refine hp.asked spawn earlier mark _ h.begun.logged hlast ?_
  rw [(Event.of_exchange_memory hmark.fresh).1]
  rfl

/-- The spawning is the last that has happened to a wait that has not asked anything. -/
theorem lastOf (h : Dispatch s moves e c mark marked i spawn earlier)
    (hsub : spawn :: earlier <:+ log) (hnil : pastOf i log = []) : LastOf s moves i spawn log :=
  ⟨earlier, hsub, .inr ⟨hnil, h.begun⟩⟩

theorem cause_eq (h : Dispatch s moves e c mark marked i spawn earlier)
    (hlog : ev :: older <:+ (after s moves).log) (hi : ev.strand = i) :
    ev.cause = .job (.supervise e c) := by
  obtain ⟨rest, hst⟩ := h.wait
  obtain ⟨st, hst', hcause⟩ :=
    (traced_after (workRule_kept s) moves).caused ev (hlog.subset List.mem_cons_self)
  rw [hi, hst] at hst'
  rw [← hcause, ← Option.some.inj hst']

/-- The first question of a wait is when the clock is read, as soon as it is begun. -/
theorem inTime_first (h : Dispatch s moves e c mark marked i spawn earlier)
    (hmark : LastMarked c mark marked (after s moves).log) (hp : Punctual s moves now)
    (hlog : ev :: older <:+ (after s moves).log) (hi : ev.strand = i)
    (hnil : pastOf i older = []) : InTime s mark.clock.timer i ev older := by
  obtain ⟨hfirst, -⟩ :=
    (traced_after (paceRule_kept s) moves).obeyed ev older hlog e c (h.cause_eq hlog hi)
  rw [hi] at hfirst
  have hact := hfirst hnil
  have hsub := h.before_asked hlog hi (by rw [hact]; nofun)
  have hlast : LastOf s moves ev.strand spawn older := hi ▸ h.lastOf hsub hnil
  have hsoon : ev.clock.timer ≤ spawn.clock.timer :=
    hp.asked ev older spawn _ hlog hlast (by rw [h.act]; rfl)
  have hstart : StartedOn ev.clock (pastOf i (ev :: older)) := by
    rw [pastOf, if_pos hi, hnil]
    obtain ⟨strand, cause, clock, act, reply⟩ := ev
    obtain rfl : act = .memory .clock := hact
    exact List.suffix_rfl
  refine ⟨ev.clock, ev.clock.timer, hstart, hsoon.trans (h.timer_le hmark hp), ?_, ?_⟩
  · rw [hact]
    rfl
  · exact Nat.le_add_right _ _

/-- One question of a wait is in time if the one before it was. -/
theorem inTime_next (h : Dispatch s moves e c mark marked i spawn earlier)
    (hp : Punctual s moves now) (hlog : ev :: older <:+ (after s moves).log) (hi : ev.strand = i)
    (hno : Undecided c (pastOf i older)) {last : Event} {before : List Event}
    (hlast : LastOf s moves i last older) (hlasti : last.strand = i)
    (hpast : pastOf i older = pastOf i (last :: before)) {time : Nat}
    (hbefore : InTime s time i last before) : InTime s time i ev older := by
  obtain ⟨-, hpaced⟩ :=
    (traced_after (paceRule_kept s) moves).obeyed ev older hlog e c (h.cause_eq hlog hi)
  rw [hi] at hpaced
  obtain ⟨start, limit, hstart, htime, hdue, hlimit⟩ := hbefore
  rw [← hpast] at hstart
  have hsoon : ev.clock.timer ≤ limit := hp.asked ev older last limit hlog (hi ▸ hlast) hdue
  have hread : ∀ now rest, pastOf i older = ⟨.memory .clock, now⟩ :: rest → now.timer = limit := by
    intro now rest heq
    rw [hpast, pastOf, if_pos hlasti] at heq
    obtain ⟨hact, hclock, -⟩ := Event.of_exchange_memory (List.cons.inj heq).1
    rw [hact] at hdue
    exact (congrArg Clock.timer hclock).symm.trans (Option.some.inj hdue)
  obtain ⟨due, hdue, hle⟩ := (hpaced hno).dueBy_le hstart hsoon hlimit hread
  refine ⟨start, due, ?_, htime, hdue, hle⟩
  rw [pastOf, if_pos hi]
  exact hstart.cons _

theorem inTime (h : Dispatch s moves e c mark marked i spawn earlier)
    (hmark : LastMarked c mark marked (after s moves).log) (hp : Punctual s moves now)
    (hsub : log <:+ (after s moves).log) (hlog : ev :: older <:+ log) (hi : ev.strand = i) :
    InTime s mark.clock.timer i ev older := by
  induction log generalizing ev older with
  | nil => cases List.suffix_nil.mp hlog
  | cons newest log ih =>
    rcases List.suffix_cons_iff.mp hlog with heq | hlog
    · obtain ⟨rfl, rfl⟩ := List.cons.inj heq
      cases hpast : pastOf i older with
      | nil => exact h.inTime_first hmark hp hsub hi hpast
      | cons x rest =>
        obtain ⟨last, before, hlast, hbefore, hlasti, -, hsame⟩ := exists_lastOf hpast
        have hno : Undecided c (pastOf i older) := fun x hx =>
          hmark.undecided h x ((pastOf_suffix (older_suffix hsub)).subset hx)
        exact h.inTime_next hp hsub hi hno hlast hlasti (hpast.trans hsame.symm)
          (ih (older_suffix hsub) hbefore hlasti)
    · exact ih (older_suffix hsub) hlog hi

theorem now_le (h : Dispatch s moves e c mark marked i spawn earlier)
    (hmark : LastMarked c mark marked (after s moves).log) (hp : Punctual s moves now) :
    now ≤ mark.clock.timer + s.shutdown.timeoutSeconds * 1000 := by
  obtain ⟨e', act, next, hst, -⟩ := hmark.attends h
  cases hpast : pastOf i (after s moves).log with
  | nil =>
    have hlast := h.lastOf h.begun.logged hpast
    have hsoon : now ≤ spawn.clock.timer :=
      hp.asking i _ act next spawn _ hst hlast (by rw [h.act]; rfl)
    exact hsoon.trans ((h.timer_le hmark hp).trans (Nat.le_add_right _ _))
  | cons x rest =>
    obtain ⟨last, before, hlast, hbefore, hlasti, -, -⟩ := exists_lastOf hpast
    obtain ⟨start, limit, -, htime, hdue, hlimit⟩ :=
      h.inTime hmark hp List.suffix_rfl hbefore hlasti
    have hsoon : now ≤ limit := hp.asking i _ act next last limit hst hlast hdue
    unfold deadlineFrom at hlimit
    omega

end Dispatch

theorem LastMarked.now_le {now : Nat} (h : LastMarked c mark marked (after s moves).log)
    (hp : Punctual s moves now) :
    now ≤ mark.clock.timer + s.shutdown.timeoutSeconds * 1000 := by
  rcases h.followed with ⟨⟨beat, next, hst, -⟩, hpast⟩ | ⟨i, e, spawn, earlier, hsent⟩
  · have hlast : LastOf s moves mark.strand mark (after s moves).log :=
      ⟨marked, h.logged, .inl ⟨rfl, by rw [hpast, h.fresh]⟩⟩
    refine (hp.asking _ _ _ _ mark _ hst hlast ?_).trans (Nat.le_add_right _ _)
    rw [(Event.of_exchange_memory h.fresh).1]
    rfl
  · exact hsent.now_le h hp

/-- While a container is terminating its end is waited for, or will be by the next question of the
heartbeat that has just marked it, which asks nothing in between. A wait does not end without
telling the tracker what came of it, and then the container is not terminating any more. So if no
activity is late, it is terminating no longer than a wait may take. -/
theorem terminating_attended (s : Settings) (moves : List Move) (c : ContainerId) :
    (Terminating c (after s moves).log →
      (∃ i, Attends c (after s moves) i) ∨ ∃ i, WillAttend c (after s moves) i) ∧
    (∀ i e, (after s moves).strands[i]? = some ⟨.job (.supervise e c), .done ()⟩ →
      ∃ ev older, ev :: older <:+ (after s moves).log ∧ ev.strand = i ∧ ev.act.OfOutcome c) ∧
    (∀ ev older e, ev :: older <:+ (after s moves).log → ev.cause = .job (.supervise e c) →
      ev.act.OfOutcome c → ¬ Terminating c (ev :: older)) ∧
    (∀ now, Punctual s moves now → Terminating c (after s moves).log →
      ∃ mark marked, mark :: marked <:+ (after s moves).log ∧ ¬ Terminating c marked ∧
        TerminatingSince c (mark :: marked) (after s moves).log ∧
        now ≤ mark.clock.timer + s.shutdown.timeoutSeconds * 1000) := by
  refine ⟨fun h => ?_, fun i e hst => ?_, fun ev older e _ _ => not_terminating_of_outcome,
    fun now hp h => ?_⟩
  · obtain ⟨mark, marked, hmark⟩ := exists_lastMarked h
    rcases hmark.followed with ⟨hwill, -⟩ | ⟨i, e, spawn, earlier, hsent⟩
    · exact .inr ⟨_, hwill⟩
    · exact .inl ⟨i, hmark.attends hsent⟩
  · have hkeeps : ((Cause.job (.supervise e c)).activity s).Keeps (waitRule s c) []
      fun _ past => ¬ Undecided c past := keeps_discard.mpr (supervise_paced s e c)
    have hdecided : ¬ Undecided c (pastOf i (after s moves).log) :=
      hkeeps.of_reaches (reaches_after hst)
    obtain ⟨x, hx, hact⟩ : ∃ x ∈ pastOf i (after s moves).log, x.1.OfOutcome c := by
      simpa [Undecided] using hdecided
    obtain ⟨ev, older, hlog, hi, rfl⟩ := exists_event_of_mem_past hx
    exact ⟨ev, older, hlog, hi, hact⟩
  · obtain ⟨mark, marked, hmark⟩ := exists_lastMarked h
    exact ⟨mark, marked, hmark.logged, hmark.not_terminating, hmark.since, hmark.now_le hp⟩

def drowsing : List Move := dismissed ++ steps {} 1 3

theorem punctual_drowsing : Punctual briefSettings drowsing 1000 where
  asked ev older last limit hlog _ _ := by
    have hstill : ∀ ev ∈ (after briefSettings drowsing).log, ev.clock.timer = 0 := by decide
    rw [hstill ev (hlog.subset List.mem_cons_self)]
    exact Nat.zero_le _
  asking i cause act next last limit hst hlast hdue := by
    obtain ⟨older, hlog, ⟨-, hpast⟩ | ⟨hnil, -⟩⟩ := hlast
    · rcases i with _ | _ | i
      · cases hst
      · have hact : .sleep 1000 = last.act := congrArg Sigma.fst (List.cons.inj hpast).1
        rw [← hact] at hdue
        cases hdue
        exact Nat.le_add_left _ _
      · cases hst
    · rcases i with _ | _ | i
      · cases hst
      · cases hnil
      · cases hst

theorem terminating_attended_drowsing :
    Terminating "a" (after briefSettings drowsing).log ∧ Punctual briefSettings drowsing 1000 ∧
    ∃ mark marked, mark :: marked <:+ (after briefSettings drowsing).log ∧
      ¬ Terminating "a" marked ∧
      TerminatingSince "a" (mark :: marked) (after briefSettings drowsing).log ∧
      1000 ≤ mark.clock.timer + briefSettings.shutdown.timeoutSeconds * 1000 := by
  have hterm : Terminating "a" (after briefSettings drowsing).log := by decide
  exact ⟨hterm, punctual_drowsing,
    (terminating_attended briefSettings drowsing "a").2.2.2 1000 punctual_drowsing hterm⟩

end Fleet

end AgentFleet
