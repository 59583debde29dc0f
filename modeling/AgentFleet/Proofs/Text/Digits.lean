import AgentFleet.Json.Numeral
import AgentFleet.Time.Timestamp

/-!
Decimal digits. Both readers of digits, that of numerals and that of times, find the number again
that was written digit by digit, if something else than a digit follows.
-/

namespace AgentFleet

namespace Text

def digitValue (c : Char) : Nat := c.toNat - 48

def NoDigit (rest : List Char) : Prop := ∀ c ∈ rest.head?, c.isDigit = false

theorem isDigit_iff {c : Char} : c.isDigit = true ↔ '0' ≤ c ∧ c ≤ '9' := by
  simp [Char.isDigit, Char.le_def]

theorem noDigit_cons {c : Char} {rest : List Char} (h : c.isDigit = false) :
    NoDigit (c :: rest) := by
  intro d hd
  cases hd
  exact h

theorem foldl_digitValue (cs : List Char) (n : Nat) :
    (cs.map digitValue).foldl (fun n d => n * 10 + d) n = Nat.ofDigitChars 10 cs n := by
  rw [Nat.ofDigitChars_eq_foldl, List.foldl_map]
  congr 1
  funext n c
  rw [Nat.mul_comm]
  rfl

theorem toNat_of_isDigit {c : Char} (h : c.isDigit = true) : 48 ≤ c.toNat ∧ c.toNat ≤ 57 := by
  rw [isDigit_iff, Char.le_def, Char.le_def, UInt32.le_iff_toNat_le, UInt32.le_iff_toNat_le] at h
  exact h

theorem digitValue_le {c : Char} (h : c.isDigit = true) : digitValue c ≤ 9 := by
  have hcode := toNat_of_isDigit h
  rw [digitValue]
  omega

theorem foldl_digits_lt {ds : List Nat} (hds : ∀ d ∈ ds, d ≤ 9) :
    ds.foldl (fun n d => n * 10 + d) 0 < Nat.pow 10 ds.length := by
  have hfold : ∀ n, ds.foldl (fun n d => n * 10 + d) n < (n + 1) * 10 ^ ds.length := by
    induction ds with
    | nil => simp
    | cons d ds ih =>
      intro n
      obtain ⟨hd, hds⟩ := List.forall_mem_cons.mp hds
      refine Nat.lt_of_lt_of_le (ih hds (n * 10 + d)) ?_
      rw [List.length_cons, Nat.pow_succ, Nat.mul_comm (10 ^ ds.length), ← Nat.mul_assoc]
      exact Nat.mul_le_mul_right _ (by omega)
  simpa using hfold 0

theorem isDigit_toDigits {n : Nat} : ∀ c ∈ Nat.toDigits 10 n, c.isDigit = true :=
  fun _ hc => Nat.isDigit_of_mem_toDigits (by decide) (by decide) hc

theorem foldl_toDigits (n : Nat) :
    ((Nat.toDigits 10 n).map digitValue).foldl (fun n d => n * 10 + d) 0 = n := by
  rw [foldl_digitValue, Nat.ofDigitChars_ten_toDigits]

theorem exists_toDigits_cons (n : Nat) :
    ∃ c cs, Nat.toDigits 10 n = c :: cs ∧ c.isDigit = true := by
  cases h : Nat.toDigits 10 n with
  | nil => exact (Nat.toDigits_ne_nil h).elim
  | cons c cs => exact ⟨c, cs, rfl, isDigit_toDigits c (h ▸ List.mem_cons_self)⟩

theorem toDigits_ne_zero_cons (n : Nat) (d : Nat) (ds : List Nat) :
    (Nat.toDigits 10 n).map digitValue ≠ 0 :: d :: ds := by
  intro heq
  have hn := foldl_toDigits n
  have hlen : (Nat.toDigits 10 n).length = ds.length + 2 := by
    rw [← List.length_map (f := digitValue), heq]
    rfl
  have hle : ∀ e ∈ d :: ds, e ≤ 9 := by
    intro e he
    have hmem : e ∈ (Nat.toDigits 10 n).map digitValue := heq ▸ List.mem_cons_of_mem 0 he
    obtain ⟨c, hc, rfl⟩ := List.mem_map.mp hmem
    exact digitValue_le (isDigit_toDigits c hc)
  have hlt := foldl_digits_lt hle
  rw [heq, List.foldl_cons, Nat.zero_mul, Nat.zero_add] at hn
  rw [hn] at hlt
  have hshort := (Nat.length_toDigits_le_iff (b := 10) (by decide) (Nat.succ_pos _)).mpr hlt
  rw [hlen] at hshort
  omega

end Text

open Text

namespace Json

theorem digits_append {cs rest : List Char} (hcs : ∀ c ∈ cs, c.isDigit = true)
    (hrest : NoDigit rest) : digits (cs ++ rest) = (cs.map digitValue, rest) := by
  induction cs with
  | nil =>
    cases rest with
    | nil => rfl
    | cons c rest =>
      have hc : ¬ ('0' ≤ c ∧ c ≤ '9') := by
        rw [← isDigit_iff, hrest c rfl]
        exact Bool.false_ne_true
      simp [digits, digit?, hc]
  | cons c cs ih =>
    obtain ⟨hc, hcs⟩ := List.forall_mem_cons.mp hcs
    rw [isDigit_iff] at hc
    simp [digits, digit?, hc, ih hcs, digitValue]

end Json

namespace Timestamp

theorem leadingDigits_append {cs rest : List Char} {most : Nat}
    (hcs : ∀ c ∈ cs, c.isDigit = true) (hlen : cs.length ≤ most)
    (hrest : cs.length = most ∨ NoDigit rest) :
    leadingDigits most (cs ++ rest) = (cs.map digitValue, rest) := by
  induction cs generalizing most with
  | nil =>
    cases most with
    | zero => rfl
    | succ most =>
      cases rest with
      | nil => rfl
      | cons c rest =>
        have hrest := hrest.resolve_left (Nat.succ_ne_zero most).symm
        have hc : ¬ ('0' ≤ c ∧ c ≤ '9') := by
          rw [← isDigit_iff, hrest c rfl]
          exact Bool.false_ne_true
        simp [leadingDigits, hc]
  | cons c cs ih =>
    obtain ⟨hc, hcs⟩ := List.forall_mem_cons.mp hcs
    rw [isDigit_iff] at hc
    cases most with
    | zero => cases hlen
    | succ most =>
      have hih := ih hcs (Nat.le_of_succ_le_succ hlen) (hrest.imp_left Nat.succ.inj)
      simp [leadingDigits, hc, hih, digitValue]

/-! ### Padded numbers -/

theorem toList_padded (width n : Nat) :
    (padded width n).toList =
      List.replicate (width - (Nat.toDigits 10 n).length) '0' ++ Nat.toDigits 10 n := by
  simp [padded]

theorem isDigit_padded {width n : Nat} : ∀ c ∈ (padded width n).toList, c.isDigit = true := by
  intro c hc
  rw [toList_padded, List.mem_append] at hc
  rcases hc with hc | hc
  · rw [List.eq_of_mem_replicate hc]
    rfl
  · exact isDigit_toDigits c hc

theorem length_padded {width n : Nat} (hpos : 0 < width) (h : n < Nat.pow 10 width) :
    (padded width n).toList.length = width := by
  have hlen := (Nat.length_toDigits_le_iff (by decide) hpos).mpr h
  rw [toList_padded, List.length_append, List.length_replicate]
  omega

theorem numberOf_padded (width n : Nat) :
    numberOf ((padded width n).toList.map digitValue) = n := by
  rw [numberOf, foldl_digitValue, toList_padded, Nat.ofDigitChars_append,
    Nat.ofDigitChars_replicate_zero, Nat.mul_zero, Nat.ofDigitChars_ten_toDigits]

theorem padded_ne_nil (width n : Nat) : (padded width n).toList ≠ [] := by
  rw [toList_padded]
  exact List.append_ne_nil_of_right_ne_nil _ Nat.toDigits_ne_nil

/-- A padded number is read again, if it has as many digits as may be read or another character
follows. -/
theorem number_padded {width n most : Nat} {rest : List Char}
    (hlen : (padded width n).toList.length ≤ most)
    (hrest : (padded width n).toList.length = most ∨ NoDigit rest) :
    number most ((padded width n).toList ++ rest) = some (n, rest) := by
  have hread := leadingDigits_append isDigit_padded hlen hrest
  have hsome : (padded width n).toList.map digitValue ≠ [] := by
    simpa using padded_ne_nil width n
  unfold number
  rw [hread]
  split
  next heq => exact (hsome (Prod.mk.inj heq).1).elim
  next ds rest' _ heq =>
    obtain ⟨rfl, rfl⟩ := Prod.mk.inj heq
    rw [numberOf_padded]

end Timestamp

end AgentFleet
