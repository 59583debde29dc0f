import Mathlib.Data.List.Infix
import AgentFleet.Procedure

/-!
What a procedure asks, whatever it is answered. A rule says which question is in order after which
questions and answers; `Keeps` says that a procedure keeps a rule, and what is known at its end. It
is proved along the text of the procedure, one bind at a time, and knows nothing of the
surroundings. `Asks` is for rules that do not look back, `Ends` says what came of a procedure, and
`Reaches` how far it has come.
-/

namespace AgentFleet.Procedure

variable {Op : Type} {Ans : Op → Type} {α β ε : Type}

abbrev Past (Ans : Op → Type) := List (Sigma Ans)

/-- Each question is in order after those that came before it, and `Q` holds at the end. -/
def Keeps (R : Past Ans → Op → Prop) :
    Procedure Op Ans α → Past Ans → (α → Past Ans → Prop) → Prop
  | done a, past, Q => Q a past
  | ask q next, past, Q => R past q ∧ ∀ answer, (next answer).Keeps R (⟨q, answer⟩ :: past) Q

/-- Given some answers, the procedure comes to its end with a value. -/
def Ends : Procedure Op Ans α → Past Ans → α → Past Ans → Prop
  | done a, past, value, later => a = value ∧ past = later
  | ask q next, past, value, later => ∃ answer, (next answer).Ends (⟨q, answer⟩ :: past) value later

/-- Given some answers, the procedure comes to a point where `rest` is what is left of it. -/
inductive Reaches (p : Procedure Op Ans α) (past : Past Ans) :
    Procedure Op Ans α → Past Ans → Prop
  | start : Reaches p past p past
  | answered {q : Op} {next : Ans q → Procedure Op Ans α} {later : Past Ans} (answer : Ans q) :
    Reaches p past (ask q next) later → Reaches p past (next answer) (⟨q, answer⟩ :: later)

def Asks (P : Op → Prop) : Procedure Op Ans α → Prop
  | done _ => True
  | ask q next => P q ∧ ∀ answer, (next answer).Asks P

section Keeps

variable {R : Past Ans → Op → Prop} {p : Procedure Op Ans α} {f : α → Procedure Op Ans β}
  {past : Past Ans}

@[simp] theorem keeps_ask {q : Op} {next : Ans q → Procedure Op Ans α} {Q : α → Past Ans → Prop} :
    (ask q next).Keeps R past Q ↔
      R past q ∧ ∀ answer, (next answer).Keeps R (⟨q, answer⟩ :: past) Q := Iff.rfl

theorem keeps_query_bind {q : Op} {f : Ans q → Procedure Op Ans β} {Q : β → Past Ans → Prop} :
    (query q >>= f).Keeps R past Q ↔
      R past q ∧ ∀ answer, (f answer).Keeps R (⟨q, answer⟩ :: past) Q := Iff.rfl

theorem keeps_bind {Q : β → Past Ans → Prop} :
    (p >>= f).Keeps R past Q ↔ p.Keeps R past fun a past => (f a).Keeps R past Q := by
  induction p generalizing past with
  | done a => rfl
  | ask q next ih => simp only [ask_bind, keeps_ask, ih]

theorem keeps_discard {Q : Unit → Past Ans → Prop} :
    (discard p).Keeps R past Q ↔ p.Keeps R past fun _ past => Q () past := keeps_bind

theorem Keeps.mono {Q Q' : α → Past Ans → Prop} (h : p.Keeps R past Q)
    (hQ : ∀ a past, Q a past → Q' a past) : p.Keeps R past Q' := by
  induction p generalizing past with
  | done a => exact hQ a past h
  | ask q next ih => exact ⟨h.1, fun answer => ih answer (h.2 answer)⟩

theorem Keeps.grows {Q : α → Past Ans → Prop} (h : p.Keeps R past Q) :
    p.Keeps R past fun a past' => Q a past' ∧ past <:+ past' := by
  induction p generalizing past with
  | done a => exact ⟨h, List.suffix_rfl⟩
  | ask q next ih =>
    refine ⟨h.1, fun answer => (ih answer (h.2 answer)).mono ?_⟩
    rintro a past' ⟨hQ, hsub⟩
    exact ⟨hQ, (List.suffix_cons _ _).trans hsub⟩

theorem Keeps.of_ends {Q : α → Past Ans → Prop} (h : p.Keeps R past Q) {value : α}
    {later : Past Ans} (hend : p.Ends past value later) : Q value later := by
  induction p generalizing past with
  | done a =>
    obtain ⟨rfl, rfl⟩ := hend
    exact h
  | ask q next ih =>
    obtain ⟨answer, hend⟩ := hend
    exact ih answer (h.2 answer) hend

theorem Keeps.bind {P : α → Past Ans → Prop} {Q : β → Past Ans → Prop} (h : p.Keeps R past P)
    (hf : ∀ a past', P a past' → past <:+ past' → (f a).Keeps R past' Q) :
    (p >>= f).Keeps R past Q :=
  keeps_bind.mpr (h.grows.mono fun a past' hP => hf a past' hP.1 hP.2)

theorem Keeps.weaken {R' : Past Ans → Op → Prop} {Q : α → Past Ans → Prop} (h : p.Keeps R past Q)
    (hR : ∀ past q, R past q → R' past q) : p.Keeps R' past Q := by
  induction p generalizing past with
  | done a => exact h
  | ask q next ih => exact ⟨hR past q h.1, fun answer => ih answer (h.2 answer)⟩

theorem keeps_of_forall (hR : ∀ past q, R past q) : p.Keeps R past fun _ _ => True := by
  induction p generalizing past with
  | done a => trivial
  | ask q next ih => exact ⟨hR past q, fun answer => ih answer⟩

/-- What is left of a procedure keeps the rule too. -/
theorem Keeps.of_reaches {Q : α → Past Ans → Prop} (h : p.Keeps R past Q)
    {rest : Procedure Op Ans α} {later : Past Ans} (hr : p.Reaches past rest later) :
    rest.Keeps R later Q := by
  induction hr with
  | start => exact h
  | answered answer _ ih => exact ih.2 answer

end Keeps

section Ends

variable {p : Procedure Op Ans α} {f : α → Procedure Op Ans β} {past later : Past Ans} {a b : α}

theorem Ends.suffix (h : p.Ends past a later) : past <:+ later := by
  induction p generalizing past with
  | done a => exact h.2 ▸ List.suffix_rfl
  | ask q next ih =>
    obtain ⟨answer, h⟩ := h
    exact (List.suffix_cons _ _).trans (ih answer h)

/-- The answers decide what comes of a procedure. -/
theorem Ends.unique (h : p.Ends past a later) (h' : p.Ends past b later) : a = b := by
  induction p generalizing past with
  | done c => exact h.1.symm.trans h'.1
  | ask q next ih =>
    obtain ⟨answer, h⟩ := h
    obtain ⟨answer', h'⟩ := h'
    have hsub : ⟨q, answer⟩ :: past <:+ ⟨q, answer'⟩ :: past :=
      List.suffix_of_suffix_length_le h.suffix h'.suffix (Nat.le_refl _)
    obtain rfl := eq_of_heq (Sigma.mk.inj (List.cons.inj (hsub.eq_of_length rfl)).1).2
    exact ih answer h h'

theorem ends_bind {value : β} :
    (p >>= f).Ends past value later ↔
      ∃ a middle, p.Ends past a middle ∧ (f a).Ends middle value later := by
  induction p generalizing past with
  | done a =>
    constructor
    · exact fun h => ⟨a, past, ⟨rfl, rfl⟩, h⟩
    · rintro ⟨_, _, ⟨rfl, rfl⟩, h⟩
      exact h
  | ask q next ih =>
    constructor
    · rintro ⟨answer, h⟩
      obtain ⟨a, middle, hp, hf⟩ := (ih answer).mp h
      exact ⟨a, middle, ⟨answer, hp⟩, hf⟩
    · rintro ⟨a, middle, ⟨answer, hp⟩, hf⟩
      exact ⟨answer, (ih answer).mpr ⟨a, middle, hp, hf⟩⟩

theorem ends_query_bind {q : Op} {f : Ans q → Procedure Op Ans β} {value : β} :
    (query q >>= f).Ends past value later ↔
      ∃ answer, (f answer).Ends (⟨q, answer⟩ :: past) value later := Iff.rfl

theorem Reaches.ends {rest : Procedure Op Ans α} {middle : Past Ans}
    (hr : p.Reaches past rest middle) (h : rest.Ends middle a later) : p.Ends past a later := by
  induction hr with
  | start => exact h
  | answered answer _ ih => exact ih ⟨answer, h⟩

/-! Procedures each of whose questions is replaced by a procedure -/

section Replaced

variable {Op' : Type} {Ans' : Op' → Type} {answer : (q : Op) → Procedure Op' Ans' (Ans q)}
  {before after : Past Ans'} {value : β}

theorem ends_replaced_bind : ((p >>= f).run answer).Ends before value after ↔
    ∃ a middle, (p.run answer).Ends before a middle ∧
      ((f a).run answer).Ends middle value after := by
  have hrun : (p >>= f).run answer = p.run answer >>= fun a => (f a).run answer := by
    induction p with
    | done a => rfl
    | ask q next ih => simp [run, ih]
  rw [hrun, ends_bind]

theorem ends_replaced_query_bind {q : Op} {f : Ans q → Procedure Op Ans β} :
    ((query q >>= f).run answer).Ends before value after ↔
      ∃ a middle, (answer q).Ends before a middle ∧ ((f a).run answer).Ends middle value after :=
  ends_bind

end Replaced

end Ends

section Asks

variable {P : Op → Prop} {p : Procedure Op Ans α} {f : α → Procedure Op Ans β}

@[simp] theorem asks_done {a : α} : (done a : Procedure Op Ans α).Asks P := trivial

@[simp] theorem asks_query {q : Op} : (query q : Procedure Op Ans (Ans q)).Asks P ↔ P q :=
  and_iff_left fun _ => trivial

theorem Asks.bind (hp : p.Asks P) (hf : ∀ a, (f a).Asks P) : (p >>= f).Asks P := by
  induction p with
  | done a => exact hf a
  | ask q next ih => exact ⟨hp.1, fun answer => ih answer (hp.2 answer)⟩

theorem Asks.mono {P' : Op → Prop} (h : p.Asks P) (hP : ∀ q, P q → P' q) : p.Asks P' := by
  induction p with
  | done a => trivial
  | ask q next ih => exact ⟨hP q h.1, fun answer => ih answer (h.2 answer)⟩

theorem Asks.of_reaches (h : p.Asks P) {past later : Past Ans} {rest : Procedure Op Ans α}
    (hr : p.Reaches past rest later) : rest.Asks P := by
  induction hr with
  | start => exact h
  | answered answer _ ih => exact ih.2 answer

/-- What a procedure does not ask was asked and answered before it. -/
theorem Asks.mem_of_ends (h : p.Asks P) {past later : Past Ans} {a : α}
    (hend : p.Ends past a later) {x : Sigma Ans} (hx : x ∈ later) (hP : ¬ P x.1) : x ∈ past := by
  induction p generalizing past with
  | done b => exact hend.2 ▸ hx
  | ask q next ih =>
    obtain ⟨answer, hend⟩ := hend
    rcases List.mem_cons.mp (ih answer (h.2 answer) hend) with rfl | hpast
    · exact (hP h.1).elim
    · exact hpast

/-- When each question is replaced by a procedure, what the procedures ask is asked. -/
theorem Asks.run {Op' : Type} {Ans' : Op' → Type} {P' : Op' → Prop}
    {f : (q : Op) → Procedure Op' Ans' (Ans q)} (h : p.Asks P)
    (hf : ∀ q, P q → (f q).Asks P') : (p.run f).Asks P' := by
  induction p with
  | done a => exact asks_done
  | ask q next ih => exact (hf q h.1).bind fun answer => ih answer (h.2 answer)

/-- A procedure all of whose questions are in order as long as something holds that they do not
change keeps the rule, and it still holds at the end. -/
theorem Asks.keeps (h : p.Asks P) {R : Past Ans → Op → Prop} {I : Past Ans → Prop}
    (hR : ∀ past q, P q → I past → R past q)
    (hI : ∀ past q (answer : Ans q), P q → I past → I (⟨q, answer⟩ :: past)) {past : Past Ans}
    (hpast : I past) : p.Keeps R past fun _ past => I past := by
  induction p generalizing past with
  | done a => exact hpast
  | ask q next ih =>
    exact ⟨hR past q h.1 hpast, fun answer => ih answer (h.2 answer) (hI past q answer h.1 hpast)⟩

end Asks

/-! ### What was not asked yet -/

def Unasked (q : Op) (past : Past Ans) : Prop := ∀ x ∈ past, x.1 ≠ q

section Unasked

variable {R : Past Ans → Op → Prop} {p : Procedure Op Ans α} {past : Past Ans} {q q' : Op}

theorem unasked_nil : Unasked q ([] : Past Ans) := List.forall_mem_nil _

theorem Unasked.cons (h : Unasked q past) (hne : q' ≠ q) (answer : Ans q') :
    Unasked q (⟨q', answer⟩ :: past) := List.forall_mem_cons.mpr ⟨hne, h⟩

theorem Unasked.not_mem (h : Unasked q past) {answer : Ans q} : ⟨q, answer⟩ ∉ past :=
  fun hmem => h _ hmem rfl

/-- A part that does not ask the question keeps a rule that matters only once it is asked. -/
theorem keeps_of_unasked (hR : ∀ past q', Unasked q past → R past q') (h : Unasked q past)
    (hp : p.Asks (· ≠ q)) : p.Keeps R past fun _ past => Unasked q past :=
  hp.keeps (I := Unasked q) (fun past q' _ h => hR past q' h)
    (fun _ _ answer hne h => h.cons hne answer) h

theorem Unasked.of_ends (h : Unasked q past) (hp : p.Asks (· ≠ q)) {value : α} {later : Past Ans}
    (hend : p.Ends past value later) : Unasked q later :=
  (keeps_of_unasked (R := fun _ _ => True) (fun _ _ _ => trivial) h hp).of_ends hend

theorem keeps_query_bind_of_unasked {f : Ans q' → Procedure Op Ans β} {Q : β → Past Ans → Prop}
    (hR : ∀ past q', Unasked q past → R past q') (h : Unasked q past) (hne : q' ≠ q)
    (hf : ∀ answer, Unasked q (⟨q', answer⟩ :: past) →
      (f answer).Keeps R (⟨q', answer⟩ :: past) Q) :
    (query q' >>= f).Keeps R past Q :=
  keeps_query_bind.mpr ⟨hR past q' h, fun answer => hf answer (h.cons hne answer)⟩

end Unasked

/-! ### Procedures that may end early -/

section Attempt

variable {R : Past Ans → Op → Prop} {P : Op → Prop} {x : ExceptT ε (Procedure Op Ans) α}
  {f : α → ExceptT ε (Procedure Op Ans) β} {past : Past Ans}

theorem keeps_run_bind {Q : Except ε β → Past Ans → Prop} :
    (x >>= f).run.Keeps R past Q ↔ x.run.Keeps R past fun r past =>
      match r with
      | .ok a => (f a).run.Keeps R past Q
      | .error e => Q (.error e) past := by
  rw [ExceptT.run_bind, keeps_bind]
  refine iff_of_eq (congrArg (Keeps R x.run past) ?_)
  funext r past
  cases r <;> rfl

theorem Asks.run_bind (hx : x.run.Asks P) (hf : ∀ a, (f a).run.Asks P) : (x >>= f).run.Asks P := by
  rw [ExceptT.run_bind]
  refine hx.bind fun r => ?_
  cases r with
  | ok a => exact hf a
  | error e => exact asks_done

theorem ends_run_bind {later : Past Ans} {result : Except ε β} :
    (x >>= f).run.Ends past result later ↔ ∃ r middle, x.run.Ends past r middle ∧
      match r with
      | .ok a => (f a).run.Ends middle result later
      | .error e => Except.error e = result ∧ middle = later := by
  rw [ExceptT.run_bind, ends_bind]
  refine exists₂_congr fun r middle => and_congr_right fun _ => ?_
  cases r <;> rfl

theorem ends_run_bind_pure {g : α → β} {later : Past Ans} {result : Except ε β} :
    (x >>= fun a => pure (g a)).run.Ends past result later ↔
      ∃ r, x.run.Ends past r later ∧ r.map g = result := by
  rw [ends_run_bind]
  refine exists_congr fun r => ?_
  cases r with
  | ok a => exact ⟨fun ⟨_, hx, hr, heq⟩ => ⟨heq ▸ hx, hr⟩, fun ⟨hx, hr⟩ => ⟨_, hx, hr, rfl⟩⟩
  | error e => exact ⟨fun ⟨_, hx, hr, heq⟩ => ⟨heq ▸ hx, hr⟩, fun ⟨hx, hr⟩ => ⟨_, hx, hr, rfl⟩⟩

end Attempt

end AgentFleet.Procedure
