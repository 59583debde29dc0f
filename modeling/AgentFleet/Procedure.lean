/-!
Procedures: finite work that goes on by asking its surroundings for something, and continues with
the answer. A procedure says what it asks and nothing about who answers, so that one text serves a
run against the real surroundings, a rehearsal, and a proof about all runs.
-/

namespace AgentFleet

/-- Work that ends with a value of `α`. A question `q : Op` is answered by a value of `Ans q`. -/
inductive Procedure (Op : Type) (Ans : Op → Type) (α : Type) where
  | done (a : α)
  | ask (q : Op) (next : Ans q → Procedure Op Ans α)

namespace Procedure

variable {Op : Type} {Ans : Op → Type} {α β γ : Type}

protected def bind : Procedure Op Ans α → (α → Procedure Op Ans β) → Procedure Op Ans β
  | done a, f => f a
  | ask q next, f => ask q fun answer => (next answer).bind f

instance : Monad (Procedure Op Ans) where
  pure := done
  bind := Procedure.bind

def query (q : Op) : Procedure Op Ans (Ans q) := ask q done

@[simp] theorem pure_eq (a : α) : (pure a : Procedure Op Ans α) = done a := rfl

@[simp] theorem done_bind (a : α) (f : α → Procedure Op Ans β) : done a >>= f = f a := rfl

@[simp] theorem ask_bind (q : Op) (next : Ans q → Procedure Op Ans α)
    (f : α → Procedure Op Ans β) : ask q next >>= f = ask q fun answer => next answer >>= f := rfl

@[simp] theorem query_bind (q : Op) (f : Ans q → Procedure Op Ans β) :
    query q >>= f = ask q f := rfl

theorem bind_done (p : Procedure Op Ans α) : p >>= done = p := by
  induction p with
  | done a => rfl
  | ask q next ih => simp [ih]

theorem bind_assoc (p : Procedure Op Ans α) (f : α → Procedure Op Ans β)
    (g : β → Procedure Op Ans γ) : p >>= f >>= g = p >>= fun a => f a >>= g := by
  induction p with
  | done a => rfl
  | ask q next ih => simp [ih]

instance : LawfulMonad (Procedure Op Ans) :=
  LawfulMonad.mk' _ bind_done (fun _ _ => rfl) bind_assoc

/-- Runs a procedure in a monad that answers its questions. -/
def run {m : Type → Type} [Monad m] (answer : (q : Op) → m (Ans q)) : Procedure Op Ans α → m α
  | done a => pure a
  | ask q next => do (next (← answer q)).run answer

end Procedure

end AgentFleet
