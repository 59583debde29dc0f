import AgentFleet.Proofs.Fleet.Errands
import AgentFleet.Proofs.Fleet.Run

/-!
Runs of the service together with its container engine: any number of activities side by side, each
going on by one question or by one command at a time. The engine may work in any way that its
commands allow, and containers change their status by themselves at any time. What was done is kept
in a log, the last deed first.
-/

namespace AgentFleet

open Procedure Engine

structure World where
  service : Service := {}
  containers : Containers := ∅

/-- The memory and the engine answer by themselves; all else answers as it is told to. -/
def World.perform (w : World) (clock : Clock) (reply : (act : Act) → act.Answer)
    (conduct : Conduct) : (q : Errand) → q.Answer × World
  | .act a =>
    let (answer, service) := a.perform clock w.service (reply a)
    (answer, { w with service })
  | .engine (.run c) =>
    let (outcome, containers) := conduct.run c w.containers
    (outcome, { w with containers })
  | .engine (.pause _) => ((), w)

structure Deed where
  strand : Nat
  cause : Cause
  errand : Errand
  answer : errand.Answer
  before : World
  after : World

def Deed.exchange (d : Deed) : Sigma Errand.Answer := ⟨d.errand, d.answer⟩

structure Duty where
  cause : Cause
  rest : Procedure Errand Errand.Answer Unit

def Cause.duty (s : Settings) (suffixes : Suffixes) (cause : Cause) : Duty :=
  ⟨cause, cause.errands s suffixes⟩

structure Engine.NamedFor (e : ExecutionId) (name : ContainerId) : Prop where
  nameable : Nameable name
  suffixed : ∃ suffix : String, suffix.length = 8 ∧ name = containerName e suffix

def Engine.Named (containers : Containers) : Prop :=
  ∀ (name : ContainerId) (x : Container), containers[name]? = some x → NamedFor x.execution name

structure Remains where
  containers : Containers
  named : Named containers

def Remains.none : Remains := ⟨∅, fun name x => by simp⟩

structure Harbor where
  world : World
  duties : List Duty := []
  /-- What was done, the last deed first. -/
  log : List Deed := []

namespace Harbor

inductive Move where
  | begin (cause : Cause) (suffixes : Suffixes)
  /-- The activity asks its next question; the suffixes are for what it starts. -/
  | go (strand : Nat) (clock : Clock) (reply : (act : Act) → act.Answer) (conduct : Conduct)
    (suffixes : Suffixes)
  /-- Containers change by themselves. -/
  | drift (status : ContainerId → Status)

def go (s : Settings) (h : Harbor) (i : Nat) (clock : Clock) (reply : (act : Act) → act.Answer)
    (conduct : Conduct) (suffixes : Suffixes) : Harbor :=
  match h.duties[i]? with
  | some ⟨cause, .ask q next⟩ =>
    let (answer, world) := h.world.perform clock reply conduct q
    { world
      duties := h.duties.set i ⟨cause, next answer⟩ ++
        q.spawned.map fun job => (Cause.job job).duty s suffixes
      log := ⟨i, cause, q, answer, h.world, world⟩ :: h.log }
  | _ => h

def drift (h : Harbor) (status : ContainerId → Status) : Harbor :=
  let containers := h.world.containers.map fun name x => { x with status := status name }
  { h with world := { h.world with containers } }

def move (s : Settings) (h : Harbor) : Move → Harbor
  | .begin cause suffixes => { h with duties := h.duties ++ [cause.duty s suffixes] }
  | .go i clock reply conduct suffixes => h.go s i clock reply conduct suffixes
  | .drift status => h.drift status

def after (s : Settings) (found : Remains) (moves : List Move) : Harbor :=
  moves.foldl (move s) { world := { containers := found.containers } }

def pastOf (i : Nat) : List Deed → Past Errand.Answer
  | [] => []
  | d :: older => if d.strand = i then d.exchange :: pastOf i older else pastOf i older

theorem exists_deed_of_past {i : Nat} {x : Sigma Errand.Answer} {rest : Past Errand.Answer}
    {log : List Deed} (h : pastOf i log = x :: rest) :
    ∃ d older, d :: older <:+ log ∧ d.strand = i ∧ d.exchange = x ∧ pastOf i older = rest := by
  induction log with
  | nil => cases h
  | cons d older ih =>
    rw [pastOf] at h
    split at h
    next hi =>
      obtain ⟨rfl, rfl⟩ := List.cons.inj h
      exact ⟨d, older, List.suffix_rfl, hi, rfl, rfl⟩
    next =>
      obtain ⟨d', older', hlog, hd⟩ := ih h
      exact ⟨d', older', hlog.trans (List.suffix_cons _ _), hd⟩

/-- Nothing but deeds changes the service, from one deed to the next and then until now. -/
def Chained : List Deed → Service → Prop
  | [], _ => True
  | d :: older, now => d.after.service = now ∧ Chained older d.before.service

theorem Chained.of_suffix {d : Deed} {older log : List Deed} {now : Service}
    (h : Chained log now) (hsub : d :: older <:+ log) : Chained older d.before.service := by
  obtain ⟨newer, rfl⟩ := hsub
  induction newer generalizing now with
  | nil => exact h.2
  | cons later newer ih => exact ih h.2

/-- What is true now, and was not before some deed, was made true by that deed or a later one. -/
theorem Chained.exists_made {P : Service → Prop} {d : Deed} {older log : List Deed} {now : Service}
    (h : Chained log now) (hsub : d :: older <:+ log) (hno : ¬ P d.before.service) (hyes : P now) :
    ∃ d' older', d' :: older' <:+ log ∧ d :: older <:+ d' :: older' ∧
      ¬ P d'.before.service ∧ P d'.after.service := by
  obtain ⟨newer, rfl⟩ := hsub
  induction newer generalizing now with
  | nil => exact ⟨d, older, List.suffix_rfl, List.suffix_rfl, hno, h.1 ▸ hyes⟩
  | cons later newer ih =>
    by_cases hlater : P later.before.service
    · obtain ⟨d', older', hlog, hsince, hmade⟩ := ih hlater h.2
      exact ⟨d', older', hlog.trans (List.suffix_cons _ _), hsince, hmade⟩
    · exact ⟨later, newer ++ d :: older, List.suffix_rfl,
        (List.suffix_append _ _).trans (List.suffix_cons _ _), hlater, h.1 ▸ hyes⟩

/-! ### What is true of every deed -/

/-- The deed is the next one of its activity, and came out as the world lets it. -/
structure Sound (s : Settings) (d : Deed) (past : Past Errand.Answer) : Prop where
  reached : ∃ suffixes next, ((d.cause.errands s suffixes).Reaches [] (.ask d.errand next) past)
  performed : ∃ clock reply conduct, d.before.perform clock reply conduct d.errand =
    (d.answer, d.after)
  named : Named d.before.containers
  consistent : d.before.service.tracker.Consistent

/-- What was done was sound, and what is to be done follows it. -/
structure InOrder (s : Settings) (h : Harbor) : Prop where
  named : Named h.world.containers
  consistent : h.world.service.tracker.Consistent
  chained : Chained h.log h.world.service
  sound : ∀ d older, d :: older <:+ h.log → Sound s d (pastOf d.strand older)
  begun : ∀ d ∈ h.log, d.strand < h.duties.length
  reached : ∀ (i : Nat) (duty : Duty), h.duties[i]? = some duty →
    ∃ suffixes, (duty.cause.errands s suffixes).Reaches [] duty.rest (pastOf i h.log)

section InOrder

variable {s : Settings} {h : Harbor} {i : Nat}

theorem pastOf_eq_nil {log : List Deed} (hno : ∀ d ∈ log, d.strand ≠ i) : pastOf i log = [] := by
  induction log with
  | nil => rfl
  | cons d older ih =>
    obtain ⟨hd, holder⟩ := List.forall_mem_cons.mp hno
    rw [pastOf, if_neg hd, ih holder]

theorem InOrder.append (hin : h.InOrder s) (causes : List Cause) (suffixes : Suffixes) :
    { h with duties := h.duties ++ causes.map (Cause.duty s suffixes) }.InOrder s where
  named := hin.named
  consistent := hin.consistent
  chained := hin.chained
  sound := hin.sound
  begun d hd := by
    rw [List.length_append]
    exact Nat.lt_add_right _ (hin.begun d hd)
  reached i duty hduty := by
    rcases Nat.lt_or_ge i h.duties.length with hlt | hge
    · rw [List.getElem?_append_left hlt] at hduty
      exact hin.reached i duty hduty
    · rw [List.getElem?_append_right hge, List.getElem?_map, Option.map_eq_some_iff] at hduty
      obtain ⟨cause, -, rfl⟩ := hduty
      have hnone : pastOf i h.log = [] := by
        refine pastOf_eq_nil fun d hd heq => ?_
        have hlt := hin.begun d hd
        omega
      exact ⟨suffixes, hnone ▸ .start⟩

/-- A command keeps the names in order if it creates containers under such names only. -/
theorem named_of_answers {c : Command} {outcome : Except String Output}
    {before after : Containers} {suffixes : Suffixes} (hanswers : Answers c before outcome after)
    (hnames : Request.NamesBy suffixes.suffix (.run c)) (hbefore : Named before) : Named after := by
  intro name x hx
  rcases hanswers.exists_before hx with ⟨y, hy, heq⟩ | ⟨hcreate, hname⟩
  · exact heq ▸ hbefore name y hy
  · obtain ⟨n, rfl⟩ := hnames name _ hcreate
    exact ⟨hname, _, suffixes.length_eq n, rfl⟩

theorem named_perform {w : World} {clock : Clock} {reply : (act : Act) → act.Answer}
    {conduct : Conduct} {q : Errand} {suffixes : Suffixes} (hnames : q.NamesBy suffixes.suffix)
    (hw : Named w.containers) : Named (w.perform clock reply conduct q).2.containers := by
  cases q with
  | act a => exact hw
  | engine r =>
    cases r with
    | run c => exact named_of_answers (conduct.answers c w.containers) hnames hw
    | pause millis => exact hw

theorem consistent_perform {w : World} {clock : Clock} {reply : (act : Act) → act.Answer}
    {conduct : Conduct} {q : Errand} (hw : w.service.tracker.Consistent) :
    (w.perform clock reply conduct q).2.service.tracker.Consistent := by
  cases q with
  | act a =>
    change (a.perform clock w.service (reply a)).2.tracker.Consistent
    rw [Fleet.tracker_perform]
    exact hw.after _
  | engine r => cases r <;> exact hw

theorem InOrder.ask (hin : h.InOrder s) {cause : Cause} {q : Errand}
    {next : q.Answer → Procedure Errand Errand.Answer Unit}
    (hduty : h.duties[i]? = some ⟨cause, .ask q next⟩) (clock : Clock)
    (reply : (act : Act) → act.Answer) (conduct : Conduct) :
    let r := h.world.perform clock reply conduct q
    InOrder s
      { world := r.2
        duties := h.duties.set i ⟨cause, next r.1⟩
        log := ⟨i, cause, q, r.1, h.world, r.2⟩ :: h.log } := by
  obtain ⟨suffixes, hreached⟩ := hin.reached i _ hduty
  obtain ⟨hlt, -⟩ := List.getElem?_eq_some_iff.mp hduty
  have hnames : q.NamesBy suffixes.suffix :=
    ((cause.errands_names s suffixes).of_reaches hreached).1
  constructor
  · exact named_perform hnames hin.named
  · exact consistent_perform hin.consistent
  · exact ⟨rfl, hin.chained⟩
  · intro d older hsub
    rcases List.suffix_cons_iff.mp hsub with heq | hsub
    · obtain ⟨rfl, rfl⟩ := List.cons.inj heq
      exact ⟨⟨suffixes, next, hreached⟩, ⟨clock, reply, conduct, rfl⟩, hin.named,
        hin.consistent⟩
    · exact hin.sound d older hsub
  · intro d hd
    rw [List.length_set]
    rcases List.mem_cons.mp hd with rfl | hd
    · exact hlt
    · exact hin.begun d hd
  · intro j duty hj
    rw [pastOf]
    split
    next heq =>
      obtain rfl : i = j := heq
      rw [List.getElem?_set_self hlt] at hj
      cases hj
      exact ⟨suffixes, .answered _ hreached⟩
    next hne =>
      rw [List.getElem?_set_ne hne] at hj
      exact hin.reached j duty hj

theorem InOrder.drift (hin : h.InOrder s) (status : ContainerId → Status) :
    (h.drift status).InOrder s where
  named name x hx := by
    change (h.world.containers.map fun name x => { x with status := status name })[name]? = some x
      at hx
    rw [Std.ExtTreeMap.getElem?_map] at hx
    obtain ⟨y, hy, rfl⟩ := Option.map_eq_some_iff.mp hx
    exact hin.named name y hy
  consistent := hin.consistent
  chained := hin.chained
  sound := hin.sound
  begun := hin.begun
  reached := hin.reached

theorem InOrder.move (hin : h.InOrder s) (m : Move) : (h.move s m).InOrder s := by
  cases m with
  | begin cause suffixes => exact hin.append [cause] suffixes
  | go i clock reply conduct suffixes =>
    unfold Harbor.move Harbor.go
    dsimp only
    split
    next cause q next hduty =>
      have hjobs := (hin.ask hduty clock reply conduct).append (q.spawned.map .job) suffixes
      rw [List.map_map] at hjobs
      exact hjobs
    next => exact hin
  | drift status => exact hin.drift status

theorem inOrder_after (s : Settings) (found : Remains) (moves : List Move) :
    (after s found moves).InOrder s := by
  have hgeneral : ∀ {h : Harbor}, h.InOrder s → (moves.foldl (move s) h).InOrder s := by
    intro h hin
    induction moves generalizing h with
    | nil => exact hin
    | cons m moves ih => exact ih (hin.move m)
  exact hgeneral
    { named := found.named
      consistent := Tracker.Consistent.empty
      chained := trivial
      sound := by simp
      begun := by simp
      reached := by simp }

end InOrder

end Harbor

end AgentFleet
