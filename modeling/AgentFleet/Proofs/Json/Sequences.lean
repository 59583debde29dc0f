import AgentFleet.Proofs.Json.Numbers
import AgentFleet.Proofs.Json.Strings

/-!
Written sequences and maps are read as the elements and members that they were written for, if each
of them is. Element after element, what is left of the text is a comma and the next one, or what
closes the sequence.
-/

namespace AgentFleet.Json

open Read

/-- What is left of a sequence's text: a comma stands before every element but the first one. -/
def listed : Bool → List (List Char) → List Char
  | _, [] => []
  | true, part :: parts => part ++ listed false parts
  | false, part :: parts => ',' :: (part ++ listed false parts)

theorem separated_eq_listed (parts : List (List Char)) : separated parts = listed true parts := by
  induction parts with
  | nil => rfl
  | cons part parts ih =>
    cases parts with
    | nil => simp [separated, listed]
    | cons next parts =>
      rw [separated, ih, listed, listed, listed]
      exact List.cons_ne_nil _ _

theorem closes_listed (parts : List (List Char)) {c : Char} (hc : c = ']' ∨ c = '\x7d')
    (rest : List Char) : Closes (listed false parts ++ c :: rest) := by
  cases parts with
  | nil => exact closes_cons (.inr hc)
  | cons part parts => exact closes_cons (.inl rfl)

theorem length_le_listed {α : Type} {write : α → List Char} {l : List α}
    (h : ∀ a ∈ l, write a ≠ []) (first : Bool) :
    l.length ≤ (listed first (l.map write)).length := by
  induction l generalizing first with
  | nil => exact Nat.zero_le _
  | cons a l ih =>
    obtain ⟨ha, hl⟩ := List.forall_mem_cons.mp h
    have hpos := List.length_pos_iff.mpr ha
    have hrest := ih hl false
    cases first
    all_goals
      simp only [List.map_cons, listed, List.length_cons, List.length_append]
      omega

theorem mem_listed {parts : List (List Char)} {first : Bool} {c : Char}
    (h : c ∈ listed first parts) : c = ',' ∨ ∃ part ∈ parts, c ∈ part := by
  induction parts generalizing first with
  | nil => cases h
  | cons part parts ih =>
    have hsplit : c = ',' ∨ c ∈ part ∨ c ∈ listed false parts := by
      cases first with
      | true => exact .inr (List.mem_append.mp h)
      | false => exact (List.mem_cons.mp h).imp_right List.mem_append.mp
    rcases hsplit with hc | hc | hc
    · exact .inl hc
    · exact .inr ⟨part, List.mem_cons_self, hc⟩
    · refine (ih hc).imp_right ?_
      rintro ⟨other, hother, hc⟩
      exact ⟨other, List.mem_cons_of_mem part hother, hc⟩

/-! ### Elements -/

/-- A value's text starts with a character that is no blank and closes no sequence. -/
def Starts (cs : List Char) : Prop := ∃ c tail, cs = c :: tail ∧ isSpace c = false ∧ c ≠ ']'

theorem skipSpace_cons {c : Char} (h : isSpace c = false) (cs : List Char) :
    skipSpace (c :: cs) = c :: cs := by
  simp [skipSpace, h]

theorem Starts.ne_nil {cs : List Char} (h : Starts cs) : cs ≠ [] := by
  obtain ⟨c, tail, rfl, -, -⟩ := h
  exact List.cons_ne_nil c tail

theorem nextElement_listed {part : List Char} (h : Starts part) (first : Bool)
    (parts : List (List Char)) (rest : List Char) :
    nextElement first (listed first (part :: parts) ++ rest) =
      .ok (true, part ++ (listed false parts ++ rest)) := by
  obtain ⟨c, tail, rfl, hspace, hclose⟩ := h
  cases first with
  | true => simp [nextElement, listed, skipSpace_cons hspace]
  | false =>
    have hcomma : isSpace ',' = false := rfl
    simp [nextElement, listed, skipSpace_cons hspace, skipSpace_cons hcomma, hclose]

variable {α : Type} {item : Reader α} {write : α → List Char}

theorem elementsFrom_listed {l : List α} (hstart : ∀ a ∈ l, Starts (write a))
    (hitem : ∀ a ∈ l, ∀ rest, Closes rest → item (write a ++ rest) = .ok (a, rest))
    {fuel : Nat} (hfuel : l.length < fuel) (first : Bool) (rest : List Char) :
    elementsFrom item fuel first (listed first (l.map write) ++ ']' :: rest) = .ok (l, rest) := by
  induction l generalizing fuel first with
  | nil =>
    cases fuel with
    | zero => exact (Nat.not_lt_zero _ hfuel).elim
    | succ fuel => rfl
  | cons a l ih =>
    obtain ⟨fuel, rfl⟩ := Nat.exists_eq_succ_of_ne_zero (Nat.ne_zero_of_lt hfuel)
    obtain ⟨ha, hl⟩ := List.forall_mem_cons.mp hstart
    obtain ⟨hread, hreads⟩ := List.forall_mem_cons.mp hitem
    have hclose := closes_listed (l.map write) (.inl rfl) rest
    have hrest := ih hl hreads (Nat.lt_of_succ_lt_succ hfuel) false
    rw [List.map_cons, elementsFrom, Reader.bind_ok (nextElement_listed ha first _ _), if_pos rfl,
      Reader.bind_ok (hread _ hclose), Reader.bind_ok hrest]
    rfl

theorem elementsOf_separated {l : List α} (hstart : ∀ a ∈ l, Starts (write a))
    (hitem : ∀ a ∈ l, ∀ rest, Closes rest → item (write a ++ rest) = .ok (a, rest))
    (rest : List Char) :
    elementsOf item (separated (l.map write) ++ ']' :: rest) = .ok (l, rest) := by
  have hlen := length_le_listed (fun a ha => (hstart a ha).ne_nil) true
  rw [separated_eq_listed, elementsOf, elementsFrom_listed hstart hitem]
  rw [List.length_append]
  omega

/-! ### Members -/

theorem nextName_listed (first : Bool) (name : String) (part : List Char)
    (parts : List (List Char)) (rest : List Char) :
    nextName first (listed first ((quoted name ++ ':' :: part) :: parts) ++ rest) =
      .ok (some name, ':' :: (part ++ (listed false parts ++ rest))) := by
  have hbody := Reader.map_ok (g := some)
    (stringBody_escapes name (':' :: (part ++ (listed false parts ++ rest))))
  cases first with
  | true =>
    rw [listed, List.append_assoc, List.append_assoc, List.cons_append, quoted_append]
    exact hbody
  | false =>
    rw [listed, List.cons_append, List.append_assoc, List.append_assoc, List.cons_append,
      quoted_append]
    exact hbody

theorem symbol_cons {c : Char} (h : isSpace c = false) (rest : List Char) :
    symbol c (c :: rest) = .ok ((), rest) := by
  rw [symbol, skipSpace_cons h]
  exact if_pos rfl

def memberText (write : α → List Char) (m : String × α) : List Char :=
  quoted m.1 ++ ':' :: write m.2

/-- There are no more members than characters. -/
theorem length_lt_members (write : α → List Char) (l : List (String × α)) (rest : List Char) :
    l.length < (listed true (l.map (memberText write)) ++ rest).length + 1 := by
  have hlen : l.length ≤ (listed true (l.map (memberText write))).length :=
    length_le_listed (fun m _ => List.cons_ne_nil _ _) true
  rw [List.length_append]
  omega

theorem membersFrom_listed {l : List (String × α)}
    (hitem : ∀ m ∈ l, ∀ rest, Closes rest → item (write m.2 ++ rest) = .ok (m.2, rest))
    {fuel : Nat} (hfuel : l.length < fuel) (first : Bool) (rest : List Char) :
    membersFrom item fuel first (listed first (l.map (memberText write)) ++ '\x7d' :: rest) =
      .ok (l, rest) := by
  induction l generalizing fuel first with
  | nil =>
    cases fuel with
    | zero => exact (Nat.not_lt_zero _ hfuel).elim
    | succ fuel => rfl
  | cons m l ih =>
    obtain ⟨fuel, rfl⟩ := Nat.exists_eq_succ_of_ne_zero (Nat.ne_zero_of_lt hfuel)
    obtain ⟨hread, hreads⟩ := List.forall_mem_cons.mp hitem
    have hclose := closes_listed (l.map (memberText write)) (.inr rfl) rest
    have hrest := ih hreads (Nat.lt_of_succ_lt_succ hfuel) false
    rw [List.map_cons, membersFrom, memberText, Reader.bind_ok (nextName_listed first _ _ _ _)]
    dsimp only
    rw [Reader.bind_ok (symbol_cons rfl _), Reader.bind_ok (hread _ hclose), Reader.bind_ok hrest]
    rfl

theorem membersOf_separated {l : List (String × α)}
    (hitem : ∀ m ∈ l, ∀ rest, Closes rest → item (write m.2 ++ rest) = .ok (m.2, rest))
    (rest : List Char) :
    membersOf item (separated (l.map (memberText write)) ++ '\x7d' :: rest) = .ok (l, rest) := by
  rw [separated_eq_listed]
  exact membersFrom_listed hitem (length_lt_members write l _) true rest

end AgentFleet.Json
