import AgentFleet.Proofs.Fleet.Run

/-!
Activities that are carried out while nothing else happens. What comes of one is told by what it is
answered from outside: the value it brings, what it leaves in the memory, and all that it asked. A
chain of activities is told by its links.
-/

namespace AgentFleet

structure Course (α : Type) where
  value : α
  service : Service
  asked : List Act

def Act.isOutward : Act → Bool
  | memory _ => false
  | _ => true

def backendOf (reply : (act : Act) → act.Answer) (call : BackendCall) : call.Answer :=
  reply (.backend call)

namespace Course

variable {α : Type}

def outward (course : Course α) : List Act := course.asked.filter Act.isOutward

def prepend (asked : List Act) (course : Course α) : Course α :=
  { course with asked := asked ++ course.asked }

@[simp] theorem outward_mk (a : α) (s : Service) (asked : List Act) :
    (⟨a, s, asked⟩ : Course α).outward = asked.filter Act.isOutward := rfl

end Course

namespace Procedure

variable {α β : Type} {clock : Clock} {reply : (act : Act) → act.Answer} {s : Service}

/-- Carries an activity out while nothing else happens. -/
def alone (clock : Clock) (reply : (act : Act) → act.Answer) :
    Procedure Act Act.Answer α → Service → Course α
  | done a, s => ⟨a, s, []⟩
  | ask act next, s =>
    let (answer, s) := act.perform clock s (reply act)
    ((next answer).alone clock reply s).prepend [act]

@[simp] theorem alone_done (a : α) : (done a).alone clock reply s = ⟨a, s, []⟩ := rfl

theorem alone_bind (p : Procedure Act Act.Answer α) (f : α → Procedure Act Act.Answer β) :
    (p >>= f).alone clock reply s =
      ((f (p.alone clock reply s).value).alone clock reply
        (p.alone clock reply s).service).prepend (p.alone clock reply s).asked := by
  induction p generalizing s with
  | done a => rfl
  | ask act next ih =>
    have h := ih (act.perform clock s (reply act)).1 (s := (act.perform clock s (reply act)).2)
    exact congrArg (Course.prepend [act]) h

section Attempt

variable {x : Attempt α} {f : α → Attempt β} {s' : Service} {asked : List Act}

theorem alone_run_bind_ok {a : α} (hx : x.run.alone clock reply s = ⟨.ok a, s', asked⟩) :
    (x >>= f).run.alone clock reply s = ((f a).run.alone clock reply s').prepend asked := by
  rw [ExceptT.run_bind, alone_bind, hx]

/-- After a fault nothing follows. -/
theorem alone_run_bind_error {fault : Fault}
    (hx : x.run.alone clock reply s = ⟨.error fault, s', asked⟩) :
    (x >>= f).run.alone clock reply s = ⟨.error fault, s', asked⟩ := by
  rw [ExceptT.run_bind, alone_bind, hx]
  simp [Course.prepend]

end Attempt

end Procedure

namespace Attempt

variable {α : Type} (clock : Clock) (reply : (act : Act) → act.Answer) (s : Service)

@[simp] theorem alone_backend (call : BackendCall) :
    (Attempt.backend call).run.alone clock reply s =
      ⟨backendOf reply call, s, [.backend call]⟩ := rfl

theorem alone_lift (t : Activity α) :
    (lift t).run.alone clock reply s =
      ⟨.ok (t.alone clock reply s).value, (t.alone clock reply s).service,
        (t.alone clock reply s).asked⟩ := by
  refine (Procedure.alone_bind t _).trans ?_
  simp [Course.prepend]

theorem alone_tracker {op : Tracker.Operation} {r : op.Answer}
    (hr : (op.apply s.tracker).1 = r) :
    (Activity.tracker op).alone clock reply s =
      ⟨r, { s with tracker := (op.apply s.tracker).2 }, [.memory (.tracker op)]⟩ := by
  rw [← hr]
  rfl

@[simp] theorem alone_ofExcept (r : Except Fault α) :
    (ofExcept r).run.alone clock reply s = ⟨r, s, []⟩ := by
  cases r <;> rfl

variable {clock reply s} {s' : Service} {asked : List Act}

theorem alone_accepted {t : Activity (Except Tracker.Refusal α)} {r : Except Tracker.Refusal α}
    (ht : t.alone clock reply s = ⟨r, s', asked⟩) :
    (accepted t).run.alone clock reply s = ⟨r.mapError Tracker.Refusal.fault, s', asked⟩ := by
  have hlift := alone_lift clock reply s t
  rw [ht] at hlift
  refine (Procedure.alone_run_bind_ok hlift).trans ?_
  simp [Course.prepend]

end Attempt

end AgentFleet
