import AgentFleet.Text.CodeTable

/-!
Tables of characters by their lines. What holds of each item that is written down holds of each
range; a character below all of them is in none.
-/

namespace AgentFleet.Text

variable {α : Type} {t : CodeTable α} {r : CodeRange α} {c : Char}

theorem CodeTable.mem_of_search {code start stop : Nat} (h : t.search code start stop = some r) :
    r ∈ t := by
  fun_induction CodeTable.search t code start stop with
  | case1 => cases h
  | case2 _ _ _ _ _ _ _ ih => exact ih h
  | case3 _ _ _ _ _ _ _ _ ih => exact ih h
  | case4 _ _ _ _ _ hget =>
    cases h
    exact Array.mem_of_getElem? hget
  | case5 => cases h

theorem CodeTable.range?_eq_none (h : ∀ r ∈ t, c.toNat < r.low) : t.range? c = none := by
  cases hrange : t.range? c with
  | none => rfl
  | some r =>
    have hlow := (CodeTable.bounds_of_range? hrange).1
    have hbelow := h r (CodeTable.mem_of_search hrange)
    omega

/-! ### Lines -/

inductive Spelled : List String → List (List Char) → Prop
  | nil : Spelled [] []
  | cons {lines : List String} {rows : List (List Char)} (row : List Char)
      (rest : Spelled lines rows) : Spelled (String.ofList row :: lines) (row :: rows)

theorem Spelled.map_toList {lines : List String} {rows : List (List Char)}
    (h : Spelled lines rows) : lines.map String.toList = rows := by
  induction h with
  | nil => rfl
  | cons row _ ih => rw [List.map_cons, String.toList_ofList, ih]

/-- Every range is that of an item; to check the items of all rows is to check all ranges. -/
theorem Spelled.exists_item_of_mem {lines : List String} {rows : List (List Char)}
    (h : Spelled lines rows) {read : List Char → α} {check : List Char → Bool}
    (hcheck : (rows.all fun row => (words row).all check) = true) :
    ∀ r ∈ CodeTable.ofLines read lines, ∃ item, check item = true ∧
      r = CodeRange.ofItem read item := by
  intro r hr
  simp only [CodeTable.ofLines, List.mem_toArray, List.mem_map, List.mem_flatMap] at hr
  obtain ⟨item, ⟨line, hline, hitem⟩, rfl⟩ := hr
  have hrow : line.toList ∈ rows := by
    rw [← h.map_toList]
    exact List.mem_map_of_mem hline
  exact ⟨item, List.all_eq_true.mp (List.all_eq_true.mp hcheck _ hrow) _ hitem, rfl⟩

/-! ### Items -/

def behindCodes (item : List Char) : List Char :=
  match (readCode 0 item).2 with
  | '-' :: rest => (readCode 0 rest).2
  | rest => rest

theorem CodeRange.low_ofItem (read : List Char → α) (item : List Char) :
    (CodeRange.ofItem read item).low = (readCode 0 item).1 := by
  unfold CodeRange.ofItem
  rcases readCode 0 item with ⟨low, rest⟩
  dsimp only
  split <;> rfl

theorem CodeRange.value_ofItem (read : List Char → α) (item : List Char) :
    (CodeRange.ofItem read item).value = read (behindCodes item) := by
  unfold CodeRange.ofItem behindCodes
  rcases readCode 0 item with ⟨low, rest⟩
  cases rest with
  | nil => rfl
  | cons c rest =>
    by_cases hc : c = '-'
    · subst hc
      rfl
    · simp [hc]

end AgentFleet.Text
