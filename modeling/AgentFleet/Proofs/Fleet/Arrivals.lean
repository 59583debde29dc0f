import AgentFleet.Proofs.Fleet.Undisturbed
import AgentFleet.Proofs.Tracker.Commuting

/-!
Activities that are about one container each. Two of them that are about different containers do not
notice each other: however they go side by side, they go as if one were over before the other
begins, and it does not matter which. So it is with the heartbeats of different agents.
-/

namespace AgentFleet

open Procedure

/-! ### Questions about one container -/

/-- The memory is asked about nothing but the container. -/
inductive Act.Minds (c : ContainerId) : Act → Prop
  | operation {op : Tracker.Operation} : op.single? = some c → Minds c (memory (.tracker op))
  | clock : Minds c (memory .clock)
  | outward {act : Act} : act.isOutward = true → Minds c act

theorem Act.OfHeartbeat.minds {h : Heartbeat} {act : Act} (hact : act.OfHeartbeat h) :
    act.Minds h.agentId := by
  cases hact with
  | clock => exact .clock
  | hear time => exact .operation rfl
  | crash => exact .operation rfl
  | terminate => exact .operation rfl
  | report | prepare | dequeue | siblings | saved | fail | supervise => exact .outward rfl

theorem Activity.heartbeat_minds (h : Heartbeat) : (heartbeat h).Asks (Act.Minds h.agentId) :=
  (heartbeat_asks h).mono fun _ => Act.OfHeartbeat.minds

section Perform

variable {s : Service} {act act' : Act} {c d : ContainerId}

theorem Act.consistent_perform (hcons : s.tracker.Consistent) (clock : Clock) (act : Act)
    (reply : act.Answer) : (act.perform clock s reply).2.tracker.Consistent := by
  rw [Fleet.tracker_perform]
  exact hcons.after _

/-- A question changes nothing but the tracker, or nothing at all and is answered whatever the
memory holds. -/
theorem Act.Minds.tracks_or_idle (hact : act.Minds c) :
    (∃ op : Tracker.Operation, op.single? = some c ∧ act = .memory (.tracker op)) ∨
      ∀ clock reply, ∃ answer, ∀ s, act.perform clock s reply = (answer, s) := by
  cases hact with
  | operation hop => exact .inl ⟨_, hop, rfl⟩
  | clock => exact .inr fun clock reply => ⟨clock, fun s => rfl⟩
  | outward hout =>
    right
    intro clock reply
    cases act with
    | memory op => cases hout
    | _ => exact ⟨reply, fun s => rfl⟩

/-- Questions about different containers may change places. -/
theorem Act.Minds.perform_comm (hcons : s.tracker.Consistent) (hact : act.Minds c)
    (hact' : act'.Minds d) (hne : c ≠ d) (clock clock' : Clock) (reply : act.Answer)
    (reply' : act'.Answer) :
    (act'.perform clock' (act.perform clock s reply).2 reply').1 =
        (act'.perform clock' s reply').1 ∧
      (act'.perform clock' (act.perform clock s reply).2 reply').2 =
        (act.perform clock (act'.perform clock' s reply').2 reply).2 := by
  rcases hact.tracks_or_idle with ⟨op, hop, rfl⟩ | hidle
  · rcases hact'.tracks_or_idle with ⟨op', hop', rfl⟩ | hidle'
    · have htracker := hcons.apply_comm hop hop' hne
      exact ⟨hcons.answer_apply hop hop' hne, congrArg (fun t => { s with tracker := t }) htracker⟩
    · obtain ⟨answer', hanswer'⟩ := hidle' clock' reply'
      simp [hanswer']
  · obtain ⟨answer, hanswer⟩ := hidle clock reply
    simp [hanswer]

end Perform

/-! ### Two activities side by side -/

namespace Procedure

variable {α β : Type} {p : Activity α} {q : Activity β} {before middle after : Service}
  {asked asked' : List Asked} {a : α} {b : β} {c d : ContainerId}

/-- Two activities may go these ways side by side. Which of them asks next is open. -/
inductive Abreast : Activity α → Activity β → Service → List Asked → List Asked → α → β →
    Service → Prop
  | finished {a : α} {b : β} {after : Service} : Abreast (done a) (done b) after [] [] a b after
  | first {act : Act} {next : act.Answer → Activity α} {q : Activity β} {before after : Service}
      {asked asked' : List Asked} {a : α} {b : β} (clock : Clock) (reply : act.Answer) :
    Abreast (next (act.perform clock before reply).1) q (act.perform clock before reply).2 asked
      asked' a b after →
    Abreast (ask act next) q before (⟨clock, act, (act.perform clock before reply).1⟩ :: asked)
      asked' a b after
  | second {act : Act} {p : Activity α} {next : act.Answer → Activity β} {before after : Service}
      {asked asked' : List Asked} {a : α} {b : β} (clock : Clock) (reply : act.Answer) :
    Abreast p (next (act.perform clock before reply).1) (act.perform clock before reply).2 asked
      asked' a b after →
    Abreast p (ask act next) before asked
      (⟨clock, act, (act.perform clock before reply).1⟩ :: asked') a b after

theorem Abreast.swap (h : Abreast p q before asked asked' a b after) :
    Abreast q p before asked' asked b a after := by
  induction h with
  | finished => exact .finished
  | first clock reply _ ih => exact .second clock reply ih
  | second clock reply _ ih => exact .first clock reply ih

/-- A question of another activity may be put off until an activity is over. -/
theorem Proceeds.put_off {act : Act} {clock : Clock} {reply : act.Answer}
    (hp : p.Asks (Act.Minds c)) (hact : act.Minds d) (hne : c ≠ d)
    (hcons : before.tracker.Consistent)
    (h : p.Proceeds (act.perform clock before reply).2 asked a after) :
    ∃ middle, p.Proceeds before asked a middle ∧
      act.perform clock middle reply = ((act.perform clock before reply).1, after) := by
  induction p generalizing before asked with
  | done a =>
    obtain ⟨rfl, rfl, rfl⟩ := h
    exact ⟨before, ⟨rfl, rfl, rfl⟩, rfl⟩
  | ask own next ih =>
    obtain ⟨clock', reply', later, rfl, h⟩ := h
    obtain ⟨hown, hnext⟩ := hp
    obtain ⟨hanswer, hservice⟩ :=
      hact.perform_comm hcons hown hne.symm clock clock' reply reply'
    obtain ⟨hother, -⟩ :=
      hown.perform_comm hcons hact hne clock' clock reply' reply
    have hcons' := Act.consistent_perform hcons clock' own reply'
    rw [hanswer, hservice] at h
    obtain ⟨middle, hmiddle, heq⟩ := ih _ (hnext _) hcons' h
    refine ⟨middle, ⟨clock', reply', later, ?_, hmiddle⟩, ?_⟩
    · rw [hanswer]
    · rw [heq, hother]

theorem abreast_done (hq : q.Proceeds before asked' b after) :
    Abreast (done a) q before [] asked' a b after := by
  induction q generalizing before asked' with
  | done b =>
    obtain ⟨rfl, rfl, rfl⟩ := hq
    exact .finished
  | ask act next ih =>
    obtain ⟨clock, reply, later, rfl, hq⟩ := hq
    exact .second clock reply (ih _ hq)

/-- Of two activities one may wait until the other is over. -/
theorem Proceeds.abreast (hp : p.Proceeds before asked a middle)
    (hq : q.Proceeds middle asked' b after) : Abreast p q before asked asked' a b after := by
  induction p generalizing before asked with
  | done a =>
    obtain ⟨rfl, rfl, rfl⟩ := hp
    exact abreast_done hq
  | ask act next ih =>
    obtain ⟨clock, reply, later, rfl, hp⟩ := hp
    exact .first clock reply (ih _ hp)

/-- Activities about different containers go side by side as they go one after the other. -/
theorem abreast_iff (hp : p.Asks (Act.Minds c)) (hq : q.Asks (Act.Minds d)) (hne : c ≠ d)
    (hcons : before.tracker.Consistent) :
    Abreast p q before asked asked' a b after ↔
      ∃ middle, p.Proceeds before asked a middle ∧ q.Proceeds middle asked' b after := by
  constructor
  · intro h
    induction h with
    | @finished a b after => exact ⟨after, ⟨rfl, rfl, rfl⟩, rfl, rfl, rfl⟩
    | @first act next q before after asked asked' a b clock reply _ ih =>
      obtain ⟨middle, hmiddle, hafter⟩ :=
        ih (hp.2 _) hq (Act.consistent_perform hcons clock act reply)
      exact ⟨middle, ⟨clock, reply, _, rfl, hmiddle⟩, hafter⟩
    | @second act p next before after asked asked' a b clock reply _ ih =>
      obtain ⟨middle, hmiddle, hafter⟩ :=
        ih hp (hq.2 _) (Act.consistent_perform hcons clock act reply)
      -- The question of the second activity waits until the first is over.
      obtain ⟨earlier, hearlier, heq⟩ := hmiddle.put_off hp hq.1 hne hcons
      refine ⟨earlier, hearlier, clock, reply, asked', ?_, ?_⟩
      · rw [heq]
      · rwa [heq]
  · rintro ⟨middle, hmiddle, hafter⟩
    exact hmiddle.abreast hafter

end Procedure

/-! ### In any order -/

section Order

open Activity Tracker

/-- Whatever has happened before: operations on different containers answer the same and come to the
same tracker in either order; histories in which each container has the same operations in the same
order come to the same tracker, with the same answers; and the heartbeats of different agents that
are dealt with side by side go as if either of them came first. -/
theorem different_containers_commute (ops : List Operation)
    (finalized : Std.ExtTreeMap ExecutionId Nat compare) (launching : Names) :
    let t := empty.after ops
    let before : Service := ⟨t, finalized, launching⟩
    (∀ (c d : ContainerId) (op op' : Operation),
      op.single? = some c → op'.single? = some d → c ≠ d →
      (op'.apply (op.apply t).2).1 = (op'.apply t).1 ∧
        (op.apply (op'.apply t).2).1 = (op.apply t).1 ∧
        (op'.apply (op.apply t).2).2 = (op.apply (op'.apply t).2).2) ∧
    (∀ later later' : List Operation,
      (∀ op ∈ later, op.single?.isSome) → (∀ op ∈ later', op.single?.isSome) →
      (∀ c, historyOf c later = historyOf c later') →
      t.after later = t.after later' ∧
        ∀ c, answersOf c (t.answers later) = answersOf c (t.answers later')) ∧
    ∀ (h h' : Heartbeat) (asked asked' : List Asked) (answer answer' : Answer) (after : Service),
      h.agentId ≠ h'.agentId →
      (Abreast (heartbeat h) (heartbeat h') before asked asked' answer answer' after ↔
        ∃ middle, (heartbeat h).Proceeds before asked answer middle ∧
          (heartbeat h').Proceeds middle asked' answer' after) ∧
      (Abreast (heartbeat h) (heartbeat h') before asked asked' answer answer' after ↔
        ∃ middle, (heartbeat h').Proceeds before asked' answer' middle ∧
          (heartbeat h).Proceeds middle asked answer after) := by
  intro t before
  have hcons : t.Consistent := Consistent.empty.after ops
  refine ⟨?_, ?_, ?_⟩
  · intro c d op op' hop hop' hne
    exact ⟨hcons.answer_apply hop hop' hne, hcons.answer_apply hop' hop hne.symm,
      hcons.apply_comm hop hop' hne⟩
  · intro later later' hlater hlater' hsame
    exact hcons.after_eq_of_histories hlater hlater' hsame
  · intro h h' asked asked' answer answer' after hne
    constructor
    · exact abreast_iff (heartbeat_minds h) (heartbeat_minds h') hne hcons
    · refine Iff.trans ⟨Abreast.swap, Abreast.swap⟩ ?_
      exact abreast_iff (heartbeat_minds h') (heartbeat_minds h) hne.symm hcons

def askingBeat : Heartbeat := ⟨"a", .idle, ⟨"e", 0⟩, ⟨0, 0⟩⟩

def newcomerBeat : Heartbeat := ⟨"b", .crashed, ⟨"e", 0⟩, ⟨0, 0⟩⟩

/-- One container of an execution leaves as another joins it, and their heartbeats cross. -/
theorem different_containers_commute_crossing :
    let t := empty.after [.upsert "e" "a" 0]
    let leave := Operation.delete "a"
    let join := Operation.upsert "e" "b" 5
    (join.apply (leave.apply t).2).2 = (leave.apply (join.apply t).2).2 ∧
    t.after [leave, join, .markCrashed "b"] = t.after [join, .markCrashed "b", leave] ∧
    ∃ asked asked' middle middle' after,
      (heartbeat askingBeat).Proceeds ⟨t, ∅, ∅⟩ asked .terminate middle ∧
      (heartbeat newcomerBeat).Proceeds middle asked' .wait after ∧
      Abreast (heartbeat askingBeat) (heartbeat newcomerBeat) ⟨t, ∅, ∅⟩ asked asked' .terminate
        .wait after ∧
      (heartbeat newcomerBeat).Proceeds ⟨t, ∅, ∅⟩ asked' .wait middle' ∧
      (heartbeat askingBeat).Proceeds middle' asked .terminate after := by
  intro t leave join
  obtain ⟨hpair, hhistories, hbeats⟩ := different_containers_commute [.upsert "e" "a" 0] ∅ ∅
  have hcomm := (hpair "a" "b" leave join rfl rfl (by decide)).2.2
  have hhistory (c : ContainerId) : historyOf c [leave, join, .markCrashed "b"] =
      historyOf c [join, .markCrashed "b", leave] := by
    by_cases ha : "a" = c
    · subst ha
      rfl
    · by_cases hb : "b" = c <;> simp [historyOf, Operation.single?, leave, join, ha, hb]
  have hafter := (hhistories [leave, join, .markCrashed "b"] [join, .markCrashed "b", leave]
    (by decide) (by decide) hhistory).1
  let course := (heartbeat askingBeat).alone ⟨0, 0, 0⟩ (Rehearsal.Script.reply {}) ⟨t, ∅, ∅⟩
  have hasking : (heartbeat askingBeat).Proceeds _ _ .terminate course.service :=
    proceeds_alone (heartbeat askingBeat) ⟨0, 0, 0⟩ (Rehearsal.Script.reply {}) ⟨t, ∅, ∅⟩
  have hnewcomer : (heartbeat newcomerBeat).Proceeds _ _ .wait _ :=
    proceeds_alone (heartbeat newcomerBeat) ⟨0, 0, 0⟩ (Rehearsal.Script.reply {}) course.service
  obtain ⟨hfirst, hsecond⟩ := hbeats askingBeat newcomerBeat _ _ _ _ _ (by decide)
  have habreast := hfirst.mpr ⟨_, hasking, hnewcomer⟩
  obtain ⟨middle', hbefore, hlater⟩ := hsecond.mp habreast
  exact ⟨hcomm, hafter, _, _, _, middle', _, hasking, hnewcomer, habreast, hbefore, hlater⟩

end Order

end AgentFleet
