import AgentFleet.Json.Decoder

/-!
How readers are put together, seen from what they read: forwards, a text on which the parts succeed
is read by the whole; backwards, what the whole yields has the properties that the parts give it.
-/

namespace AgentFleet.Json

namespace Reader

variable {α β : Type} {r : Reader α} {f : α → Reader β} {cs mid rest : List Char} {a : α} {b : β}
  {P : α → Prop} {Q : β → Prop}

theorem bind_ok (h : r cs = .ok (a, mid)) : (r >>= f) cs = f a mid := by
  change (r cs >>= fun p => f p.1 p.2) = _
  rw [h]
  rfl

theorem map_ok {g : α → β} (h : r cs = .ok (a, rest)) : (g <$> r) cs = .ok (g a, rest) := by
  change (r cs >>= fun p => .ok (g p.1, p.2)) = _
  rw [h]
  rfl

theorem of_bind_ok (h : (r >>= f) cs = .ok (b, rest)) :
    ∃ a mid, r cs = .ok (a, mid) ∧ f a mid = .ok (b, rest) := by
  change (r cs >>= fun p => f p.1 p.2) = _ at h
  cases hr : r cs with
  | error e =>
    rw [hr] at h
    cases h
  | ok p =>
    rw [hr] at h
    exact ⟨p.1, p.2, rfl, h⟩

theorem of_map_ok {g : α → β} (h : (g <$> r) cs = .ok (b, rest)) :
    ∃ a, r cs = .ok (a, rest) ∧ g a = b := by
  change (r cs >>= fun p => .ok (g p.1, p.2)) = _ at h
  cases hr : r cs with
  | error e =>
    rw [hr] at h
    cases h
  | ok p =>
    rw [hr] at h
    cases h
    exact ⟨p.1, rfl, rfl⟩

/-- Whatever the reader takes off a text has the property. -/
def Yields (r : Reader α) (P : α → Prop) : Prop := ∀ cs a rest, r cs = .ok (a, rest) → P a

theorem yields_any : Yields r fun _ => True := fun _ _ _ _ => trivial

theorem yields_pure (h : P a) : Yields (pure a) P := by
  rintro cs a rest ⟨⟩
  exact h

theorem yields_throw (e : ReadError) : Yields (throw e) P := nofun

theorem yields_fail (m : Wire.Mismatch) : Yields (Decoder.fail m) P := nofun

theorem Yields.bind (hr : Yields r P) (hf : ∀ a, P a → Yields (f a) Q) : Yields (r >>= f) Q := by
  intro cs b rest h
  obtain ⟨a, mid, ha, hb⟩ := of_bind_ok h
  exact hf a (hr cs a mid ha) mid b rest hb

theorem Yields.map {g : α → β} (hr : Yields r P) (hg : ∀ a, P a → Q (g a)) :
    Yields (g <$> r) Q := by
  intro cs b rest h
  obtain ⟨a, ha, rfl⟩ := of_map_ok h
  exact hg a (hr cs a rest ha)

theorem yields_word (a : α) (letters : List Char) : Yields (Read.word a letters) (· = a) := by
  induction letters with
  | nil => exact yields_pure rfl
  | cons w ws ih =>
    intro cs b rest h
    cases cs with
    | nil => cases h
    | cons c cs =>
      change (if c = w then Read.word a ws cs else _) = _ at h
      split at h
      · exact ih cs b rest h
      · cases h

theorem mismatch_ne_ok (expected : String) : Decoder.mismatch expected cs ≠ .ok (a, rest) := by
  intro h
  obtain ⟨_, _, -, h⟩ := of_bind_ok h
  cases h

theorem Yields.nested {depth : Nat} {inner : Nat → Reader α}
    (h : ∀ below, depth = below + 1 → Yields (inner below) P) :
    Yields (Read.nested depth inner) P := by
  cases depth with
  | zero => exact yields_throw _
  | succ depth => exact h depth rfl

/-! ### Sequences and maps -/

theorem Yields.elementsFrom (hr : Yields r P) (fuel : Nat) (first : Bool) :
    Yields (Read.elementsFrom r fuel first) fun l => ∀ a ∈ l, P a := by
  induction fuel generalizing first with
  | zero => nofun
  | succ fuel ih =>
    refine yields_any.bind fun more _ => ?_
    cases more with
    | false => exact yields_pure nofun
    | true =>
      refine hr.bind fun a ha => (ih false).bind fun l hl => yields_pure ?_
      exact List.forall_mem_cons.mpr ⟨ha, hl⟩

theorem Yields.elementsOf (hr : Yields r P) :
    Yields (Read.elementsOf r) fun l => ∀ a ∈ l, P a :=
  fun cs => hr.elementsFrom (cs.length + 1) true cs

theorem Yields.membersFrom (hr : Yields r P) (fuel : Nat) (first : Bool) :
    Yields (Read.membersFrom r fuel first) fun l => ∀ m ∈ l, P m.2 := by
  induction fuel generalizing first with
  | zero => nofun
  | succ fuel ih =>
    refine yields_any.bind fun name _ => ?_
    cases name with
    | none => exact yields_pure nofun
    | some name =>
      refine yields_any.bind fun _ _ => ?_
      refine hr.bind fun a ha => (ih false).bind fun l hl => yields_pure ?_
      exact List.forall_mem_cons.mpr ⟨ha, hl⟩

theorem Yields.membersOf (hr : Yields r P) :
    Yields (Read.membersOf r) fun l => ∀ m ∈ l, P m.2 :=
  fun cs => hr.membersFrom (cs.length + 1) true cs

end Reader

end AgentFleet.Json
