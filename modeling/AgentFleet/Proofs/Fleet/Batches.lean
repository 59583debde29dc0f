import AgentFleet.Proofs.Fleet.Work

/-!
What becomes of the batches that the backend gives out. An activity that was given one asks nothing
more: it is a heartbeat, and the batch is its answer. So the answers that bring work are the batches
that were given out, each of them once, and if the backend takes them off a queue they are what it
has taken, in its order.
-/

namespace AgentFleet

open Procedure

/-- A batch that the backend gave out, with the activity that asked for it. -/
structure Serving where
  strand : Nat
  container : ContainerId
  batch : Json

def Event.servings : Event → List Serving
  | ⟨i, _, _, .backend (.nextBatch c), .ok (some batch)⟩ => [⟨i, c, batch⟩]
  | _ => []

namespace Fleet

variable {s : Settings} {moves : List Move} {c : ContainerId} {batch : Json} {ev : Event}
  {older log : List Event} {x : Serving}

def servings : List Event → List Serving
  | [] => []
  | ev :: older => servings older ++ ev.servings

theorem servings_of_sent (h : ev.sent = dequeue c (some batch)) :
    ev.servings = [⟨ev.strand, c, batch⟩] := by
  obtain ⟨strand, cause, clock, act, reply⟩ := ev
  obtain ⟨rfl, h⟩ := Sigma.mk.inj h
  obtain rfl := eq_of_heq h
  rfl

theorem sent_of_mem_servings (h : x ∈ ev.servings) :
    ev.strand = x.strand ∧ ev.sent = dequeue x.container (some x.batch) := by
  unfold Event.servings at h
  split at h
  next => rw [List.mem_singleton.mp h]; exact ⟨rfl, rfl⟩
  next => cases h

theorem servings_eq_nil (h : ∀ c batch, ev.sent ≠ dequeue c (some batch)) : ev.servings = [] := by
  refine List.eq_nil_iff_forall_not_mem.mpr fun x hx => ?_
  exact h _ _ (sent_of_mem_servings hx).2

theorem mem_servings_iff :
    x ∈ servings log ↔ ∃ ev older, ev :: older <:+ log ∧ ev.strand = x.strand ∧
      ev.sent = dequeue x.container (some x.batch) := by
  induction log with
  | nil => simp [servings]
  | cons first before ih =>
    rw [servings, List.mem_append, ih]
    constructor
    · rintro (⟨ev, older, hsub, hx⟩ | hx)
      · exact ⟨ev, older, hsub.trans (List.suffix_cons _ _), hx⟩
      · exact ⟨first, before, List.suffix_rfl, sent_of_mem_servings hx⟩
    · rintro ⟨ev, older, hsub, hstrand, hsent⟩
      rcases List.suffix_cons_iff.mp hsub with heq | hsub
      · obtain ⟨rfl, rfl⟩ := List.cons.inj heq
        right
        rw [servings_of_sent hsent, hstrand]
        exact List.mem_singleton_self _
      · exact .inl ⟨ev, older, hsub, hstrand, hsent⟩

/-! ### A backend with a queue -/

/-- The backend may have answered as the log says, if batches came into its queue in the order
`queued` and `left` are still there. It takes a batch off its queue and gives it out in one step,
and a call that fails takes none. -/
inductive Backlog : List Event → List Json → List Json → Prop
  | start : Backlog [] [] []
  | queue {log : List Event} {queued left : List Json} (batch : Json) :
    Backlog log queued left → Backlog log (queued ++ [batch]) (left ++ [batch])
  | take {log : List Event} {queued left : List Json} {ev : Event} {c : ContainerId}
    {batch : Json} :
    Backlog log queued (batch :: left) → ev.sent = dequeue c (some batch) →
      Backlog (ev :: log) queued left
  | empty {log : List Event} {queued : List Json} {ev : Event} {c : ContainerId} :
    Backlog log queued [] → ev.sent = dequeue c none → Backlog (ev :: log) queued []
  | other {log : List Event} {queued left : List Json} {ev : Event} :
    Backlog log queued left → (∀ c answer, ev.sent ≠ dequeue c answer) →
      Backlog (ev :: log) queued left

theorem Backlog.queued_eq {queued left : List Json} (h : Backlog log queued left) :
    (servings log).map Serving.batch ++ left = queued := by
  induction h with
  | start => rfl
  | queue batch _ ih => rw [← List.append_assoc, ih]
  | take _ hsent ih =>
    rw [servings, servings_of_sent hsent, List.map_append, List.append_assoc]
    exact ih
  | empty _ hsent ih =>
    have hnone := servings_eq_nil fun c batch hsome => by
      rw [hsent] at hsome
      cases hsome
    rw [servings, hnone, List.append_nil (servings _)]
    exact ih
  | other _ hother ih =>
    rw [servings, servings_eq_nil fun c batch => hother c (some batch), List.append_nil]
    exact ih

/-! ### Who was given a batch -/

def servedRule : Rule := fun cause past act =>
  ∀ h, cause = .request (.heartbeat h) → heartbeatRule h past act

theorem servedRule_kept (s : Settings) : servedRule.Kept s := by
  intro cause
  by_cases hbeat : cause.IsHeartbeat
  · obtain ⟨h, rfl⟩ := hbeat.eq_request
    refine Keeps.weaken (request_keeps h) fun past act hrule h' heq => ?_
    cases heq
    exact hrule
  · refine keeps_of_forall fun past act h heq => ?_
    subst heq
    exact (hbeat trivial).elim

theorem exists_heartbeat_of_sent (hlog : ev :: older <:+ (after s moves).log)
    (hsent : ev.sent = dequeue c (some batch)) :
    ∃ h, ev.cause = .request (.heartbeat h) ∧ h.agentId = c ∧
      Unserved c (pastOf ev.strand older) := by
  have hact := (Event.of_sent_backend (s := {}) hsent).1
  have hwork := (traced_after (workRule_kept s) moves).obeyed ev older hlog
  rw [hact] at hwork
  obtain ⟨h, hcause, hagent, -⟩ := hwork.resolve_left id
  have hserved := (traced_after (servedRule_kept s) moves).obeyed ev older hlog h hcause
  exact ⟨h, hcause, hagent, hagent ▸ hserved.1⟩

theorem not_served_before (hlog : ev :: older <:+ (after s moves).log)
    (hsent : ev.sent = dequeue c (some batch)) {ev' : Event} {older' : List Event}
    (hsub : ev' :: older' <:+ older) (hstrand : ev'.strand = ev.strand) {c' : ContainerId}
    {batch' : Json} : ev'.sent ≠ dequeue c' (some batch') := by
  intro hsent'
  have hlog' : ev' :: older' <:+ (after s moves).log := hsub.trans (older_suffix hlog)
  obtain ⟨h, hcause, rfl, hno⟩ := exists_heartbeat_of_sent hlog hsent
  obtain ⟨h', hcause', rfl, -⟩ := exists_heartbeat_of_sent hlog' hsent'
  have hsame := (traced_after (servedRule_kept s) moves).cause_eq (hlog.subset List.mem_cons_self)
    (hlog'.subset List.mem_cons_self) hstrand.symm
  rw [hcause, hcause'] at hsame
  cases hsame
  have hmem := exchange_mem_pastOf hsub
  rw [hstrand, (Event.of_sent_backend hsent').2] at hmem
  exact hno batch' hmem

theorem servings_nodup (hsub : log <:+ (after s moves).log) :
    ((servings log).map Serving.strand).Nodup := by
  induction log with
  | nil => exact List.nodup_nil
  | cons ev older ih =>
    have hold := ih (older_suffix hsub)
    rw [servings, List.map_append]
    by_cases hno : ev.servings = []
    · rw [hno]
      simpa using hold
    obtain ⟨x, hx⟩ := List.exists_mem_of_ne_nil _ hno
    obtain ⟨hstrand, hsent⟩ := sent_of_mem_servings hx
    rw [servings_of_sent hsent]
    refine List.nodup_append.mpr ⟨hold, List.pairwise_singleton _ _, ?_⟩
    rintro i hi j hj rfl
    obtain rfl := List.mem_singleton.mp hj
    obtain ⟨y, hy, hsame⟩ := List.mem_map.mp hi
    obtain ⟨ev', older', hbefore, hstrand', hsent'⟩ := mem_servings_iff.mp hy
    exact not_served_before hsub hsent hbefore (hstrand'.trans hsame) hsent'

/-! ### What it was answered -/

/-- An activity that was given a batch has asked nothing since. -/
theorem pastOf_of_sent (hlog : ev :: older <:+ (after s moves).log)
    (hsent : ev.sent = dequeue c (some batch)) :
    pastOf ev.strand (after s moves).log = dequeue c (some batch) :: pastOf ev.strand older := by
  have htraced := traced_after (servedRule_kept s) moves
  obtain ⟨h, hcause, rfl, -⟩ := exists_heartbeat_of_sent hlog hsent
  have hx := (Event.of_sent_backend (s := serviceAfter older) hsent).2
  refine (pastOf_eq_of_last hlog fun later before hlater hstrand hsub => ?_).trans (by rw [hx]; rfl)
  -- A later question of the same heartbeat would have come after a batch.
  have hsame := htraced.cause_eq (hlater.subset List.mem_cons_self)
    (hlog.subset List.mem_cons_self) hstrand
  have hrule := htraced.obeyed later before hlater h (hsame.trans hcause)
  have hmem := exchange_mem_pastOf hsub
  rw [hx, ← hstrand] at hmem
  exact hrule.1 batch hmem

theorem answered_of_sent (hlog : ev :: older <:+ (after s moves).log)
    (hsent : ev.sent = dequeue c (some batch)) :
    ∃ h, h.agentId = c ∧ Answered (after s moves) ev.strand h (.newJob batch) := by
  obtain ⟨h, hcause, rfl, -⟩ := exists_heartbeat_of_sent hlog hsent
  obtain ⟨st, hst, hsame⟩ := (traced_after (servedRule_kept s) moves).caused ev
    (hlog.subset List.mem_cons_self)
  have hthen := reaches_after hst
  rw [hsame, hcause] at hthen
  have hrest := Keeps.of_reaches (request_keeps h) hthen
  have hserved : dequeue h.agentId (some batch) ∈ pastOf ev.strand (after s moves).log := by
    rw [pastOf_of_sent hlog hsent]
    exact List.mem_cons_self
  obtain ⟨cause, rest⟩ := st
  -- What is left of the heartbeat asks nothing: it is over, and its end tells what was answered.
  cases rest with
  | ask act next => exact (hrest.1.1 batch hserved).elim
  | done u =>
    have hends := hthen.ends ⟨rfl, rfl⟩
    obtain ⟨_, _, hperform, -, rfl⟩ := ends_bind.mp hends
    obtain ⟨answer, _, hanswer, -, rfl⟩ := ends_bind.mp hperform
    have hgives := (heartbeat_keeps (unserved_nil h.agentId)).of_ends hanswer batch
    obtain rfl := Except.ok.inj (hgives.mpr hserved)
    exact ⟨h, rfl, _, hst, hsame.trans hcause, hanswer⟩

theorem mem_servings_of_answered {i : Nat} {h : Heartbeat}
    (hans : Answered (after s moves) i h (.newJob batch)) :
    ⟨i, h.agentId, batch⟩ ∈ servings (after s moves).log := by
  obtain ⟨st, -, -, hends⟩ := hans
  have hgives := (heartbeat_keeps (unserved_nil h.agentId)).of_ends hends batch
  obtain ⟨ev, older, hlog, hstrand, hx⟩ := exists_event_of_mem_past (hgives.mp rfl)
  refine mem_servings_iff.mpr ⟨ev, older, hlog, hstrand, ?_⟩
  obtain ⟨strand, cause, clock, act, reply⟩ := ev
  obtain ⟨rfl, hreply⟩ := Sigma.mk.inj hx
  exact Sigma.ext rfl hreply

theorem Answered.unique {f : Fleet} {i : Nat} {h h' : Heartbeat} {answer answer' : Answer}
    (hans : Answered f i h answer) (hans' : Answered f i h' answer') :
    h = h' ∧ answer = answer' := by
  obtain ⟨st, hst, hcause, hends⟩ := hans
  obtain ⟨st', hst', hcause', hends'⟩ := hans'
  obtain rfl := Option.some.inj (hst.symm.trans hst')
  rw [hcause] at hcause'
  cases hcause'
  exact ⟨rfl, hends.unique hends'⟩

/-- Each batch that was given out is the answer to the heartbeat that asked for it, and to no other
one; each answer that brings work brings such a batch. If the backend takes batches off a queue then
those that were given out, in their order, are what it has taken: all that came into the queue but
for what is left. -/
theorem batches_handed_out_once (s : Settings) (moves : List Move) :
    let f := after s moves
    ((servings f.log).map Serving.strand).Nodup ∧
    (∀ x ∈ servings f.log, ∃ h, h.agentId = x.container ∧
      Answered f x.strand h (.newJob x.batch)) ∧
    (∀ i h batch, Answered f i h (.newJob batch) →
      ⟨i, h.agentId, batch⟩ ∈ servings f.log) ∧
    (∀ i h h' answer answer', Answered f i h answer → Answered f i h' answer' →
      h = h' ∧ answer = answer') ∧
    ∀ queued left, Backlog f.log queued left →
      (servings f.log).map Serving.batch ++ left = queued := by
  refine ⟨servings_nodup List.suffix_rfl, fun x hx => ?_, fun _ _ _ => mem_servings_of_answered,
    fun _ _ _ _ _ => Answered.unique, fun _ _ => Backlog.queued_eq⟩
  obtain ⟨ev, older, hlog, hstrand, hsent⟩ := mem_servings_iff.mp hx
  obtain ⟨h, hagent, hans⟩ := answered_of_sent hlog hsent
  exact ⟨h, hagent, hstrand ▸ hans⟩

/-- Three agents ask for work at once: the first one is served last, and the last one not at all. -/
def rivals : List Move :=
  beat .idle "e" "a" :: beat .idle "e" "b" :: beat .idle "e" "c" ::
    (steps {} 0 3 ++ steps {} 1 3 ++ steps {} 2 3 ++
      steps { queue := [.bool true, .bool false], rejected := ["get_next_run_config"] } 2 1 ++
      steps { queue := [.bool true, .bool false] } 1 1 ++ steps { queue := [.bool false] } 0 1)

theorem backlog_rivals :
    Backlog (after briefSettings rivals).log [.bool true, .bool false, .null] [.null] := by
  have hfailed (fault : Fault) (c : ContainerId) (answer : Option Json) :
      (⟨.backend (.nextBatch "c"), .error fault⟩ : Sigma Act.Answer) ≠ dequeue c answer := nofun
  change Backlog _ ([.bool true, .bool false] ++ [.null]) ([] ++ [.null])
  refine .queue _ (.take (.take (.other ?_ (hfailed _)) (by rfl)) (by rfl))
  refine .other (.other (.other ?_ nofun) nofun) nofun
  refine .other (.other (.other ?_ nofun) nofun) nofun
  refine .other (.other (.other ?_ nofun) nofun) nofun
  exact .queue _ (.queue _ .start)

theorem batches_handed_out_once_rivals :
    let f := after briefSettings rivals
    Backlog f.log [.bool true, .bool false, .null] [.null] ∧
    (servings f.log).map Serving.batch ++ [.null] = [.bool true, .bool false, .null] ∧
    ∃ h, h.agentId = "b" ∧ Answered f 1 h (.newJob (.bool true)) := by
  obtain ⟨-, hserved, -, -, hqueue⟩ := batches_handed_out_once briefSettings rivals
  have hfirst : (⟨1, "b", .bool true⟩ : Serving) ∈ servings (after briefSettings rivals).log :=
    List.mem_cons_self
  exact ⟨backlog_rivals, hqueue _ _ backlog_rivals, hserved _ hfirst⟩

end Fleet

end AgentFleet
