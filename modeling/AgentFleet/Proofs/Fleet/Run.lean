import Mathlib.Data.List.Induction
import AgentFleet.Api.Routes
import AgentFleet.Service.Routines
import AgentFleet.Proofs.Procedure
import AgentFleet.Proofs.Tracker.Standing
import AgentFleet.Rehearsal.Script

/-!
Runs of the service: any number of activities side by side, each begun by a request, by a routine or
as a job, and each going on by one question at a time. The memory answers at once and is the same
for all; the backend, the runner and the clocks may answer anything. What happened is kept in a log,
the last event first, from which all that the service knows can be told.
-/

namespace AgentFleet

inductive Cause where
  | request (command : Api.Command)
  | turn (routine : Routine) (now : Instant)
  | job (job : Job)

def Cause.activity (s : Settings) : Cause → Activity Unit
  | request command => discard command.perform
  | turn routine now => routine.activity s now
  | job j => j.activity s

namespace Act

/-- The memory answers by itself; all else answers as it is told to. -/
def perform (clock : Clock) (s : Service) : (act : Act) → act.Answer → act.Answer × Service
  | memory op, _ => op.apply clock s
  | backend _, reply => (reply, s)
  | runner _, reply => (reply, s)
  | runnerUntil _ _, reply => (reply, s)
  | sleep _, reply => (reply, s)
  | spawn _, reply => (reply, s)

def spawned : Act → List Job
  | spawn job => [job]
  | _ => []

def operations : Act → List Tracker.Operation
  | memory (.tracker op) => [op]
  | _ => []

end Act

/-- A question that an activity asked; `reply` is the answer from outside, if it is for outside. -/
structure Event where
  /-- Tells activities apart. -/
  strand : Nat
  cause : Cause
  clock : Clock
  act : Act
  reply : act.Answer

namespace Event

def answer (ev : Event) (s : Service) : ev.act.Answer := (ev.act.perform ev.clock s ev.reply).1

def after (ev : Event) (s : Service) : Service := (ev.act.perform ev.clock s ev.reply).2

def exchange (ev : Event) (s : Service) : Sigma Act.Answer := ⟨ev.act, ev.answer s⟩

def sent (ev : Event) : Sigma Act.Answer := ⟨ev.act, ev.reply⟩

end Event

structure Strand where
  cause : Cause
  rest : Activity Unit

def Cause.strand (s : Settings) (cause : Cause) : Strand := ⟨cause, cause.activity s⟩

structure Fleet where
  service : Service := {}
  strands : List Strand := []
  /-- What happened, the last event first. -/
  log : List Event := []

inductive Move where
  | begin (cause : Cause)
  /-- The activity asks its next question. -/
  | go (strand : Nat) (clock : Clock) (reply : (act : Act) → act.Answer)

namespace Fleet

def begin (s : Settings) (f : Fleet) (cause : Cause) : Fleet :=
  { f with strands := f.strands ++ [cause.strand s] }

def go (s : Settings) (f : Fleet) (i : Nat) (clock : Clock) (reply : (act : Act) → act.Answer) :
    Fleet :=
  match f.strands[i]? with
  | some ⟨cause, .ask act next⟩ =>
    let (answer, service) := act.perform clock f.service (reply act)
    { service
      strands := f.strands.set i ⟨cause, next answer⟩ ++
        act.spawned.map fun job => (Cause.job job).strand s
      log := ⟨i, cause, clock, act, reply act⟩ :: f.log }
  | _ => f

def move (s : Settings) (f : Fleet) : Move → Fleet
  | .begin cause => f.begin s cause
  | .go i clock reply => f.go s i clock reply

def run (s : Settings) (f : Fleet) (moves : List Move) : Fleet := moves.foldl (move s) f

def after (s : Settings) (moves : List Move) : Fleet := moves.foldl (move s) {}

/-! ### What a log tells -/

def serviceAfter : List Event → Service
  | [] => {}
  | ev :: older => ev.after (serviceAfter older)

def trackerAfter (log : List Event) : Tracker := (serviceAfter log).tracker

def pastOf (i : Nat) : List Event → Procedure.Past Act.Answer
  | [] => []
  | ev :: older =>
    if ev.strand = i then ev.exchange (serviceAfter older) :: pastOf i older else pastOf i older

def operations : List Event → List Tracker.Operation
  | [] => []
  | ev :: older => operations older ++ ev.act.operations

theorem tracker_perform (clock : Clock) (s : Service) (act : Act) (reply : act.Answer) :
    (act.perform clock s reply).2.tracker = s.tracker.after act.operations := by
  cases act with
  | memory op =>
    cases op with
    | claim e =>
      simp only [Act.perform, Local.apply, Service.claim, Act.operations, Tracker.after]
      split <;> rfl
    | _ => rfl
  | _ => rfl

theorem trackerAfter_step (ev : Event) (older : List Event) :
    trackerAfter (ev :: older) = trackerAfter older ∨ ∃ op, ev.act = .memory (.tracker op) ∧
      trackerAfter (ev :: older) = (op.apply (trackerAfter older)).2 := by
  have hstep : trackerAfter (ev :: older) = (trackerAfter older).after ev.act.operations :=
    tracker_perform ..
  rw [hstep]
  unfold Act.operations
  split
  next op hact => exact .inr ⟨op, hact, rfl⟩
  next => exact .inl rfl

theorem trackerAfter_eq (log : List Event) :
    trackerAfter log = Tracker.empty.after (operations log) := by
  induction log with
  | nil => rfl
  | cons ev older ih =>
    rw [operations, Tracker.after_append, ← ih]
    exact tracker_perform ..

theorem consistent_trackerAfter (log : List Event) : (trackerAfter log).Consistent := by
  rw [trackerAfter_eq]
  exact Tracker.Consistent.empty.after _

theorem older_suffix {α : Type} {x : α} {older log : List α} (h : x :: older <:+ log) :
    older <:+ log := (List.suffix_cons _ _).trans h

/-- What holds now, and did not hold at some point, has held since some event after it. -/
theorem exists_since {P : List Event → Prop} {since log : List Event} (hsub : since <:+ log)
    (hno : ¬ P since) (h : P log) :
    ∃ ev older, since <:+ older ∧ ev :: older <:+ log ∧ ¬ P older ∧
      ∀ between, ev :: older <:+ between → between <:+ log → P between := by
  obtain ⟨newer, rfl⟩ := hsub
  induction newer with
  | nil => exact (hno h).elim
  | cons ev newer ih =>
    by_cases hbefore : P (newer ++ since)
    · obtain ⟨first, before, hsince, hlog, hfirst, hafter⟩ := ih hbefore
      refine ⟨first, before, hsince, hlog.trans (List.suffix_cons _ _), hfirst, ?_⟩
      intro between hfrom hto
      rcases List.suffix_cons_iff.mp hto with rfl | hto
      · exact h
      · exact hafter between hfrom hto
    · refine ⟨ev, newer ++ since, List.suffix_append _ _, List.suffix_rfl, hbefore, ?_⟩
      intro between hfrom hto
      rwa [← hfrom.eq_of_length_le hto.length_le]

/-- Some event was one of `P`, with what had happened before it, and since then none was one of
`Q`. -/
def Since (P Q : Event → List Event → Prop) (log : List Event) : Prop :=
  ∃ ev older, ev :: older <:+ log ∧ P ev older ∧
    ∀ later before, later :: before <:+ log → ev :: older <:+ before → ¬ Q later before

theorem since_cons {P Q : Event → List Event → Prop} {ev : Event} {older : List Event} :
    Since P Q (ev :: older) ↔ P ev older ∨ ¬ Q ev older ∧ Since P Q older := by
  constructor
  · rintro ⟨last, before, hlast, hP, hQ⟩
    rcases List.suffix_cons_iff.mp hlast with heq | hlast
    · obtain ⟨rfl, rfl⟩ := List.cons.inj heq
      exact .inl hP
    · refine .inr ⟨hQ ev older List.suffix_rfl hlast, last, before, hlast, hP, ?_⟩
      exact fun later middle hlater => hQ later middle (hlater.trans (List.suffix_cons _ _))
  · rintro (hP | ⟨hev, last, before, hlast, hP, hQ⟩)
    · refine ⟨ev, older, List.suffix_rfl, hP, fun later before hlater hsub => ?_⟩
      have hle := hlater.length_le
      have hlt := hsub.length_le
      simp only [List.length_cons] at hle hlt
      omega
    · refine ⟨last, before, hlast.trans (List.suffix_cons _ _), hP, ?_⟩
      intro later middle hlater hsub
      rcases List.suffix_cons_iff.mp hlater with heq | hlater
      · obtain ⟨rfl, rfl⟩ := List.cons.inj heq
        exact hev
      · exact hQ later middle hlater hsub

theorem pastOf_suffix {i : Nat} {older log : List Event} (h : older <:+ log) :
    pastOf i older <:+ pastOf i log := by
  obtain ⟨newer, rfl⟩ := h
  induction newer with
  | nil => exact List.suffix_rfl
  | cons ev newer ih =>
    rw [List.cons_append, pastOf]
    split
    · exact ih.trans (List.suffix_cons _ _)
    · exact ih

/-- Of two events of a log one is the other or came before it. -/
theorem eq_or_before {a b : Event} {older older' log : List Event} (h : a :: older <:+ log)
    (h' : b :: older' <:+ log) :
    a :: older = b :: older' ∨ a :: older <:+ older' ∨ b :: older' <:+ older := by
  rcases List.suffix_or_suffix_of_suffix h h' with hsub | hsub
  · exact (List.suffix_cons_iff.mp hsub).imp_right .inl
  · exact (List.suffix_cons_iff.mp hsub).imp Eq.symm .inr

/-- What an activity has asked tells its events apart. -/
theorem eq_of_past_length {ev ev' : Event} {older older' log : List Event} (h : ev :: older <:+ log)
    (h' : ev' :: older' <:+ log) (hstrand : ev.strand = ev'.strand)
    (hlen : (pastOf ev.strand older).length = (pastOf ev.strand older').length) :
    ev :: older = ev' :: older' := by
  have hnot : ∀ {a : Event} {l l' : List Event}, a.strand = ev.strand →
      (pastOf ev.strand l).length = (pastOf ev.strand l').length → ¬ a :: l <:+ l' := by
    intro a l l' ha hlen hsub
    have hle := (pastOf_suffix (i := ev.strand) hsub).length_le
    rw [pastOf, if_pos ha, List.length_cons] at hle
    omega
  rcases eq_or_before h h' with he | hsub | hsub
  · exact he
  · exact (hnot rfl hlen hsub).elim
  · exact (hnot hstrand.symm hlen.symm hsub).elim

theorem exchange_mem_pastOf {ev : Event} {older log : List Event} (h : ev :: older <:+ log) :
    ev.exchange (serviceAfter older) ∈ pastOf ev.strand log := by
  refine (pastOf_suffix h).subset ?_
  rw [pastOf, if_pos rfl]
  exact List.mem_cons_self

/-- What an activity has asked is in the log, at the point where it has asked just that. -/
theorem exists_event_of_past {i : Nat} {x : Sigma Act.Answer} {rest : Procedure.Past Act.Answer}
    {log : List Event} (h : x :: rest <:+ pastOf i log) :
    ∃ ev older, ev :: older <:+ log ∧ ev.strand = i ∧ ev.exchange (serviceAfter older) = x ∧
      pastOf i older = rest := by
  induction log with
  | nil => simp [pastOf] at h
  | cons ev older ih =>
    rw [pastOf] at h
    split at h
    next hi =>
      rcases List.suffix_cons_iff.mp h with he | hsub
      · obtain ⟨rfl, rfl⟩ := List.cons.inj he
        exact ⟨ev, older, List.suffix_rfl, hi, rfl, rfl⟩
      · obtain ⟨ev', older', hlog, hev⟩ := ih hsub
        exact ⟨ev', older', hlog.trans (List.suffix_cons _ _), hev⟩
    next =>
      obtain ⟨ev', older', hlog, hev⟩ := ih h
      exact ⟨ev', older', hlog.trans (List.suffix_cons _ _), hev⟩

theorem exists_event_of_mem_past {i : Nat} {x : Sigma Act.Answer} {log : List Event}
    (h : x ∈ pastOf i log) :
    ∃ ev older, ev :: older <:+ log ∧ ev.strand = i ∧ ev.exchange (serviceAfter older) = x := by
  obtain ⟨recent, rest, heq⟩ := List.append_of_mem h
  obtain ⟨ev, older, hlog, hi, hx, -⟩ := exists_event_of_past ⟨recent, heq.symm⟩
  exact ⟨ev, older, hlog, hi, hx⟩

/-- What an activity has asked when it asks nothing more. -/
theorem pastOf_eq_of_last {ev : Event} {older log : List Event} (h : ev :: older <:+ log)
    (hlast : ∀ later before, later :: before <:+ log → later.strand = ev.strand →
      ¬ ev :: older <:+ before) :
    pastOf ev.strand log = ev.exchange (serviceAfter older) :: pastOf ev.strand older := by
  obtain ⟨newer, rfl⟩ := h
  induction newer with
  | nil => exact if_pos rfl
  | cons later newer ih =>
    have hother : later.strand ≠ ev.strand :=
      fun he => hlast later _ List.suffix_rfl he (List.suffix_append _ _)
    rw [List.cons_append, pastOf, if_neg hother]
    exact ih fun l before hsub => hlast l before (hsub.trans (List.suffix_cons _ _))

/-! ### Rules of the activities hold along every run -/

/-- Which question is in order, after what its activity has asked so far. -/
abbrev Rule := Cause → Procedure.Past Act.Answer → Act → Prop

/-- Every activity keeps the rule, whatever it is answered. -/
def Rule.Kept (s : Settings) (R : Rule) : Prop :=
  ∀ cause : Cause, (cause.activity s).Keeps (R cause) [] fun _ _ => True

/-- A fleet whose activities keep a rule: what was asked was in order, and what is still to be asked
will be. -/
structure Traced (s : Settings) (R : Rule) (f : Fleet) : Prop where
  service_eq : f.service = serviceAfter f.log
  caused : ∀ ev ∈ f.log, ∃ st, f.strands[ev.strand]? = some st ∧ st.cause = ev.cause
  obeyed : ∀ ev older, ev :: older <:+ f.log → R ev.cause (pastOf ev.strand older) ev.act
  rest : ∀ (i : Nat) (st : Strand), f.strands[i]? = some st →
    st.rest.Keeps (R st.cause) (pastOf i f.log) fun _ _ => True

section Traced

variable {s : Settings} {R : Rule} {f : Fleet}

theorem Traced.cause_eq (h : f.Traced s R) {ev ev' : Event} (hev : ev ∈ f.log)
    (hev' : ev' ∈ f.log) (hstrand : ev.strand = ev'.strand) : ev.cause = ev'.cause := by
  obtain ⟨st, hst, hcause⟩ := h.caused ev hev
  obtain ⟨st', hst', hcause'⟩ := h.caused ev' hev'
  rw [← hstrand, hst] at hst'
  rw [← hcause, ← hcause', Option.some.inj hst']

theorem pastOf_eq_nil {i : Nat} {log : List Event} (h : ∀ ev ∈ log, ev.strand ≠ i) :
    pastOf i log = [] := by
  induction log with
  | nil => rfl
  | cons ev older ih =>
    rw [pastOf, if_neg (h ev (by simp))]
    exact ih fun ev hev => h ev (by simp [hev])

theorem Traced.pastOf_eq_nil_of_le (h : f.Traced s R) {i : Nat} (hi : f.strands.length ≤ i) :
    pastOf i f.log = [] := by
  refine pastOf_eq_nil fun ev hev he => ?_
  obtain ⟨st, hst, -⟩ := h.caused ev hev
  rw [he, List.getElem?_eq_none hi] at hst
  cases hst

theorem Traced.append (h : f.Traced s R) (hR : R.Kept s) (causes : List Cause) :
    { f with strands := f.strands ++ causes.map (Cause.strand s) }.Traced s R where
  service_eq := h.service_eq
  caused ev hev := by
    obtain ⟨st, hst, hc⟩ := h.caused ev hev
    obtain ⟨hlt, -⟩ := List.getElem?_eq_some_iff.mp hst
    exact ⟨st, by rw [List.getElem?_append_left hlt, hst], hc⟩
  obeyed := h.obeyed
  rest i st hst := by
    rcases Nat.lt_or_ge i f.strands.length with hlt | hge
    · rw [List.getElem?_append_left hlt] at hst
      exact h.rest i st hst
    · rw [List.getElem?_append_right hge, List.getElem?_map, Option.map_eq_some_iff] at hst
      obtain ⟨cause, -, rfl⟩ := hst
      rw [h.pastOf_eq_nil_of_le hge]
      exact hR cause

theorem Traced.ask (h : f.Traced s R) {i : Nat} {cause : Cause} {act : Act}
    {next : act.Answer → Activity Unit} (hst : f.strands[i]? = some ⟨cause, .ask act next⟩)
    (clock : Clock) (reply : act.Answer) :
    Traced s R
      { service := (act.perform clock f.service reply).2
        strands := f.strands.set i ⟨cause, next (act.perform clock f.service reply).1⟩
        log := ⟨i, cause, clock, act, reply⟩ :: f.log } := by
  obtain ⟨hnow, hnext⟩ := h.rest i _ hst
  obtain ⟨hlt, -⟩ := List.getElem?_eq_some_iff.mp hst
  -- The new event obeys the rule because the rest of its strand keeps it.
  constructor
  · simp only [serviceAfter, Event.after, ← h.service_eq]
  · intro ev hev
    rcases List.mem_cons.mp hev with rfl | hev
    · exact ⟨_, List.getElem?_set_self hlt, rfl⟩
    · obtain ⟨st, hs, hc⟩ := h.caused ev hev
      by_cases he : i = ev.strand
      · subst he
        rw [hst] at hs
        exact ⟨_, List.getElem?_set_self hlt, by rw [← hc, ← Option.some.inj hs]⟩
      · exact ⟨st, by rw [List.getElem?_set_ne he, hs], hc⟩
  · intro ev older hsub
    rcases List.suffix_cons_iff.mp hsub with he | hsub
    · obtain ⟨rfl, rfl⟩ := List.cons.inj he
      exact hnow
    · exact h.obeyed ev older hsub
  · intro j st hj
    rw [pastOf]
    split
    next he =>
      obtain rfl : i = j := he
      rw [List.getElem?_set_self hlt] at hj
      cases hj
      rw [Event.exchange, Event.answer, ← h.service_eq]
      exact hnext _
    next he =>
      rw [List.getElem?_set_ne he] at hj
      exact h.rest j st hj

theorem Traced.move (h : f.Traced s R) (hR : R.Kept s) (m : Move) : (f.move s m).Traced s R := by
  cases m with
  | begin cause => exact h.append hR [cause]
  | go i clock reply =>
    unfold Fleet.move Fleet.go
    dsimp only
    split
    next cause act next hst =>
      have hjobs := (h.ask hst clock (reply act)).append hR (act.spawned.map .job)
      rw [List.map_map] at hjobs
      exact hjobs
    next => exact h

theorem traced_start {strands : List Strand}
    (h : ∀ st ∈ strands, st.rest.Keeps (R st.cause) [] fun _ _ => True) :
    Traced s R { strands } where
  service_eq := rfl
  caused := by simp
  obeyed := by simp
  rest _ _ hst := h _ (List.mem_of_getElem? hst)

theorem Traced.run (h : f.Traced s R) (hR : R.Kept s) (moves : List Move) :
    (f.run s moves).Traced s R := by
  induction moves generalizing f with
  | nil => exact h
  | cons m moves ih => exact ih (h.move hR m)

/-- If every activity keeps a rule then so does every run. -/
theorem traced_after (hR : R.Kept s) (moves : List Move) : (after s moves).Traced s R :=
  (traced_start (List.forall_mem_nil _)).run hR moves

end Traced

/-! ### How far an activity has come -/

/-- How `f` came of `first`: each activity is at a point of its text, which is what was left of it
in `first`, or what it was begun for since. -/
structure Spoken (s : Settings) (first f : Fleet) : Prop where
  service_eq : f.service = serviceAfter f.log
  begun : ∀ ev ∈ f.log, ev.strand < f.strands.length
  grown : first.strands.length ≤ f.strands.length
  reached : ∀ (i : Nat) (st : Strand), f.strands[i]? = some st →
    ∃ p : Activity Unit, p.Reaches [] st.rest (pastOf i f.log) ∧
      (first.strands[i]? = some ⟨st.cause, p⟩ ∨
        first.strands.length ≤ i ∧ p = st.cause.activity s)

section Spoken

variable {s : Settings} {first f : Fleet}

theorem Spoken.append (h : Spoken s first f) (causes : List Cause) :
    Spoken s first { f with strands := f.strands ++ causes.map (Cause.strand s) } where
  service_eq := h.service_eq
  begun ev hev := by
    rw [List.length_append]
    exact Nat.lt_add_right _ (h.begun ev hev)
  grown := by
    rw [List.length_append]
    exact Nat.le_add_right_of_le h.grown
  reached i st hst := by
    rcases Nat.lt_or_ge i f.strands.length with hlt | hge
    · rw [List.getElem?_append_left hlt] at hst
      exact h.reached i st hst
    · rw [List.getElem?_append_right hge, List.getElem?_map, Option.map_eq_some_iff] at hst
      obtain ⟨cause, -, rfl⟩ := hst
      refine ⟨cause.activity s, ?_, .inr ⟨h.grown.trans hge, rfl⟩⟩
      rw [pastOf_eq_nil fun ev hev => ((h.begun ev hev).trans_le hge).ne]
      exact .start

theorem Spoken.ask (h : Spoken s first f) {i : Nat} {cause : Cause} {act : Act}
    {next : act.Answer → Activity Unit} (hst : f.strands[i]? = some ⟨cause, .ask act next⟩)
    (clock : Clock) (reply : act.Answer) :
    Spoken s first
      { service := (act.perform clock f.service reply).2
        strands := f.strands.set i ⟨cause, next (act.perform clock f.service reply).1⟩
        log := ⟨i, cause, clock, act, reply⟩ :: f.log } := by
  obtain ⟨hlt, -⟩ := List.getElem?_eq_some_iff.mp hst
  constructor
  · simp only [serviceAfter, Event.after, ← h.service_eq]
  · intro ev hev
    rw [List.length_set]
    rcases List.mem_cons.mp hev with rfl | hev
    · exact hlt
    · exact h.begun ev hev
  · rw [List.length_set]
    exact h.grown
  · intro j st hj
    rw [pastOf]
    split
    next he =>
      obtain rfl : i = j := he
      obtain ⟨p, hreach, hp⟩ := h.reached i _ hst
      rw [List.getElem?_set_self hlt] at hj
      cases hj
      refine ⟨p, ?_, hp⟩
      rw [Event.exchange, Event.answer, ← h.service_eq]
      exact hreach.answered _
    next he =>
      rw [List.getElem?_set_ne he] at hj
      exact h.reached j st hj

theorem Spoken.move (h : Spoken s first f) (m : Move) : Spoken s first (f.move s m) := by
  cases m with
  | begin cause => exact h.append [cause]
  | go i clock reply =>
    unfold Fleet.move Fleet.go
    dsimp only
    split
    next cause act next hst =>
      have hjobs := (h.ask hst clock (reply act)).append (act.spawned.map .job)
      rw [List.map_map] at hjobs
      exact hjobs
    next => exact h

theorem spoken_start (strands : List Strand) :
    Spoken s { strands } { strands } where
  service_eq := rfl
  begun := by simp
  grown := Nat.le_refl _
  reached _ st hst := ⟨st.rest, .start, .inl hst⟩

theorem spoken_run (strands : List Strand) (moves : List Move) :
    Spoken s { strands } (run s { strands } moves) := by
  induction moves using List.reverseRecOn with
  | nil => exact spoken_start strands
  | append_singleton moves m ih =>
    rw [run, List.foldl_append]
    exact ih.move m

/-- In a run from the start each activity is at a point of the text that it was begun for. -/
theorem reaches_after {moves : List Move} {i : Nat} {st : Strand}
    (hst : (after s moves).strands[i]? = some st) :
    (st.cause.activity s).Reaches [] st.rest (pastOf i (after s moves).log) := by
  obtain ⟨p, hreach, hfirst | ⟨-, rfl⟩⟩ := (spoken_run [] moves).reached i st hst
  · cases hfirst
  · exact hreach

end Spoken

end Fleet

namespace Event

variable {ev : Event} {s : Service}

theorem of_sent_backend {call : BackendCall} {answer : call.Answer}
    (h : ev.sent = ⟨.backend call, answer⟩) :
    ev.act = .backend call ∧ ev.exchange s = ⟨.backend call, answer⟩ := by
  obtain ⟨strand, cause, clock, act, reply⟩ := ev
  obtain ⟨rfl, h⟩ := Sigma.mk.inj h
  cases h
  exact ⟨rfl, rfl⟩

theorem of_exchange_memory {op : Local} {answer : op.Answer}
    (h : ev.exchange s = ⟨.memory op, answer⟩) :
    ev.act = .memory op ∧ (op.apply ev.clock s).1 = answer ∧
      ev.after s = (op.apply ev.clock s).2 := by
  obtain ⟨strand, cause, clock, act, reply⟩ := ev
  obtain ⟨rfl, h⟩ := Sigma.mk.inj h
  exact ⟨rfl, eq_of_heq h, rfl⟩

end Event

/-! ### Runs by a script -/

def Rehearsal.Script.reply (script : Script) : (act : Act) → act.Answer
  | .backend call => (script.backend call).1
  | .runner call => (script.runner call).1
  | .runnerUntil _ call => some (script.runner call).1
  | .memory op => (op.apply ⟨0, 0, 0⟩ {}).1
  | .sleep _ => ()
  | .spawn _ => ()

namespace Fleet

/-- An activity goes on for a number of steps, without any time passing. -/
def steps (script : Rehearsal.Script) (i n : Nat) : List Move :=
  List.replicate n (.go i ⟨0, 0, 0⟩ script.reply)

def briefSettings : Settings where
  backend := { url := "http://backend" }
  agent := { runCommand := "run", orchestratorUrl := "http://fleet" }
  shutdown := { maxChecks := 2 }

def beat (state : AgentState) (e : ExecutionId) (c : ContainerId) : Move :=
  .begin (.request (.heartbeat ⟨c, state, ⟨e, 0⟩, ⟨0, 0⟩⟩))

end Fleet

end AgentFleet
