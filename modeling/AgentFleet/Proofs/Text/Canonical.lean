import Mathlib.Tactic.SplitIfs
import Mathlib.Tactic.Tauto
import AgentFleet.Proofs.Text.CodeTable
import AgentFleet.Text.Canonical

/-!
Blanks and control characters are kept by composition: they are the same as no other character, and
nothing is composed with them.
-/

namespace AgentFleet.Text

variable {a b c d j : Char} {cs ds : List Char}

/-- Whether an item is for characters above the blanks, and what it says of them begins with such a
one, too. -/
def isAboveBlanks (item : List Char) : Bool :=
  let first := (readCode 0 ((behindCodes item).drop 1)).1
  Nat.blt 0x20 (readCode 0 item).1 && Nat.blt 0x20 first
    && (Nat.blt first 0xD800 || (Nat.blt 0xDFFF first && Nat.blt first 0x110000))

theorem Decomposition.first_of_read {first second : Char}
    (h : Decomposition.read cs = .pair first second) :
    first = Char.ofNat (readCode 0 (cs.drop 1)).1 := by
  unfold Decomposition.read readChar at h
  dsimp only at h
  split at h
  · cases h
    rfl
  · cases h

/-- All decompositions are of characters above the blanks, and pairs begin with such characters. -/
theorem above_blanks_of_mem : ∀ r ∈ decompositions, 0x20 < r.low ∧
    ∀ first second, r.value = .pair first second → 0x20 < first.toNat := by
  have hitems : ∀ r ∈ decompositions, ∃ item, isAboveBlanks item = true ∧
      r = CodeRange.ofItem Decomposition.read item := by
    unfold decompositions
    apply Spelled.exists_item_of_mem
    · repeat apply Spelled.cons
      exact Spelled.nil
    · decide +kernel
  intro r hr
  obtain ⟨item, habove, rfl⟩ := hitems r hr
  simp only [isAboveBlanks, Bool.and_eq_true, Bool.or_eq_true, Nat.blt_eq] at habove
  obtain ⟨⟨hlow, hfirst⟩, hvalid⟩ := habove
  rw [CodeRange.low_ofItem, CodeRange.value_ofItem]
  refine ⟨hlow, fun first second hpair => ?_⟩
  rw [Decomposition.first_of_read hpair]
  generalize (readCode 0 ((behindCodes item).drop 1)).1 = first at *
  have hchar : first.isValidChar := hvalid
  rw [Char.ofNat, dif_pos hchar]
  exact hfirst

theorem range?_decompositions (hj : j.toNat ≤ 0x20) : decompositions.range? j = none := by
  apply CodeTable.range?_eq_none
  intro r hr
  have hlow := (above_blanks_of_mem r hr).1
  omega

theorem decomposeFrom_of_none {table : CodeTable Decomposition} (fuel : Nat)
    (h : table.range? c = none) :
    decomposeFrom table (fuel + 1) c = (Hangul.decompose? c).getD [c] := by
  rw [decomposeFrom, h]

theorem decompose_of_blank (hj : j.toNat ≤ 0x20) : decompose j = [j] := by
  have hhangul : Hangul.decompose? j = none := by
    rw [Hangul.decompose?, Hangul.syllables]
    exact if_neg fun h => by omega
  rw [decompose, longestDecomposition, decomposeFrom_of_none 7 (range?_decompositions hj), hhangul]
  rfl

/-! ### Ordering -/

theorem mem_insertMark : d ∈ insertMark c cs ↔ d = c ∨ d ∈ cs := by
  induction cs with
  | nil => simp [insertMark]
  | cons e cs ih =>
    rw [insertMark]
    split_ifs
    · rw [List.mem_cons, ih, List.mem_cons]
      tauto
    · exact List.mem_cons

theorem mem_orderMarks : d ∈ orderMarks cs ↔ d ∈ cs := by
  induction cs with
  | nil => rfl
  | cons c cs ih =>
    unfold orderMarks at ih ⊢
    rw [List.foldr_cons]
    split_ifs
    · rw [List.mem_cons, ih, List.mem_cons]
    · rw [mem_insertMark, ih, List.mem_cons]

/-! ### Composing -/

theorem mem_of_lookup {table : List ((Char × Char) × Char)} (h : table.lookup (a, b) = some c) :
    ((a, b), c) ∈ table := by
  induction table with
  | nil => cases h
  | cons entry table ih =>
    obtain ⟨key, value⟩ := entry
    rw [List.lookup_cons] at h
    split at h
    next hkey =>
      cases h
      rw [← eq_of_beq hkey]
      exact List.mem_cons_self
    next => exact List.mem_cons_of_mem _ (ih h)

theorem first_of_mem_pairs (h : ((a, b), c) ∈ pairs) : 0x20 < a.toNat := by
  unfold pairs at h
  obtain ⟨r, hr, hpair⟩ := List.mem_filterMap.mp h
  have habove := (above_blanks_of_mem r (Array.mem_toList_iff.mp hr)).2
  cases hvalue : r.value with
  | pair first second =>
    rw [hvalue] at hpair
    cases hpair
    exact habove _ _ hvalue
  | «instead» first more =>
    rw [hvalue] at hpair
    cases hpair

theorem Hangul.compose?_eq_some (h : Hangul.compose? a b = some c) : 0x20 < a.toNat := by
  unfold Hangul.compose? at h
  extract_lets at h
  have hleads : Hangul.leads = 0x1100 := rfl
  have hsyllables : Hangul.syllables = 0xAC00 := rfl
  split_ifs at h <;> omega

theorem composePair?_eq_some {table : List ((Char × Char) × Char)}
    (h : composePair? table a b = some c) :
    leastSecond ≤ b.toNat ∧ (Hangul.compose? a b = some c ∨ table.lookup (a, b) = some c) := by
  unfold composePair? at h
  split_ifs at h with hleast
  refine ⟨Nat.le_of_not_lt hleast, ?_⟩
  cases hhangul : Hangul.compose? a b with
  | none =>
    rw [hhangul] at h
    exact .inr h
  | some composed =>
    rw [hhangul] at h
    exact .inl h

/-- Neither of two characters that are composed is a blank. -/
theorem above_blanks_of_composePair? (h : composePair? pairs a b = some c) :
    0x20 < a.toNat ∧ 0x20 < b.toNat := by
  obtain ⟨hleast, hcomposed⟩ := composePair?_eq_some h
  rw [leastSecond] at hleast
  refine ⟨?_, by omega⟩
  rcases hcomposed with hhangul | hlookup
  · exact Hangul.compose?_eq_some hhangul
  · exact first_of_mem_pairs (mem_of_lookup hlookup)

theorem mem_composeFrom {table : List ((Char × Char) × Char)}
    (htable : ∀ a b c, composePair? table a b = some c → a ≠ j ∧ b ≠ j) {starter : Char}
    {marks : List Char} (h : j ∈ starter :: (marks ++ cs)) :
    j ∈ composeFrom table starter marks cs := by
  induction cs generalizing starter marks with
  | nil =>
    unfold composeFrom
    simpa using h
  | cons c cs ih =>
    unfold composeFrom
    extract_lets reaches
    simp only [List.mem_cons, List.mem_append] at h ih
    split
    next composed hcomposed =>
      -- Neither of the two that are composed is the blank.
      have hpair : composePair? table starter c = some composed := by
        split at hcomposed
        · exact hcomposed
        · cases hcomposed
      obtain ⟨hstarter, hc⟩ := htable _ _ _ hpair
      apply ih
      rcases h with rfl | hmark | rfl | hrest
      · exact absurd rfl hstarter
      · exact .inr (.inl hmark)
      · exact absurd rfl hc
      · exact .inr (.inr hrest)
    next =>
      split_ifs
      · simp only [List.mem_cons, List.mem_append, List.mem_reverse]
        rcases h with rfl | hmark | hrest
        · exact .inl rfl
        · exact .inr (.inl hmark)
        · exact .inr (.inr (ih (by tauto)))
      · apply ih
        rw [List.mem_cons]
        tauto

theorem mem_composeAll (hj : j.toNat ≤ 0x20) (h : j ∈ cs) : j ∈ composeAll cs := by
  unfold composeAll
  extract_lets isStarter
  rw [← List.takeWhile_append_dropWhile (p := (!isStarter ·)) (l := cs), List.mem_append] at h
  rw [List.mem_append]
  apply h.imp_right
  intro hbehind
  cases hstarter : cs.dropWhile (!isStarter ·) with
  | nil =>
    rw [hstarter] at hbehind
    cases hbehind
  | cons starter rest =>
    rw [hstarter] at hbehind
    apply mem_composeFrom ?_ hbehind
    intro a b c hpair
    obtain ⟨ha, hb⟩ := above_blanks_of_composePair? hpair
    constructor <;> rintro rfl <;> omega

/-- A blank is still there when a text is composed. -/
theorem mem_compose_of_blank (hj : j.toNat ≤ 0x20) (h : j ∈ cs) : j ∈ compose cs := by
  rw [compose]
  apply mem_composeAll hj
  rw [mem_orderMarks, List.mem_flatMap]
  exact ⟨j, h, by simp [decompose_of_blank hj]⟩

end AgentFleet.Text
