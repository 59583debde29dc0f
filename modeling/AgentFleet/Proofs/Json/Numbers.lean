import AgentFleet.Proofs.Json.Reading
import AgentFleet.Proofs.Text.Digits

/-!
Written integers are read as the integers that they were written for. What follows a value inside a
text, a comma or a bracket, is no part of a number.
-/

namespace AgentFleet.Json

open Read Text

/-- What may follow a value: nothing, a comma, or what closes a sequence or a map. -/
def Closes (rest : List Char) : Prop := ∀ c ∈ rest.head?, c = ',' ∨ c = ']' ∨ c = '\x7d'

theorem closes_nil : Closes [] := nofun

theorem closes_cons {c : Char} {rest : List Char} (h : c = ',' ∨ c = ']' ∨ c = '\x7d') :
    Closes (c :: rest) := by
  intro d hd
  cases hd
  exact h

theorem Closes.noDigit {rest : List Char} (h : Closes rest) : NoDigit rest := by
  intro c hc
  rcases h c hc with rfl | rfl | rfl <;> rfl

theorem fractionPart_of_closes {rest : List Char} (h : Closes rest) :
    fractionPart rest = .ok (none, rest) := by
  unfold fractionPart
  split
  next => rcases h _ rfl with hc | hc | hc <;> cases hc
  next => rfl

theorem exponentPart_of_closes {rest : List Char} (h : Closes rest) :
    exponentPart rest = .ok (none, rest) := by
  unfold exponentPart
  split
  next => rcases h _ rfl with hc | hc | hc <;> cases hc
  next => rcases h _ rfl with hc | hc | hc <;> cases hc
  next => rfl

def digitsOf (n : Nat) : List Nat := (Nat.toDigits 10 n).map digitValue

theorem wholeDigits_toDigits (n : Nat) {rest : List Char} (h : Closes rest) :
    wholeDigits (Nat.toDigits 10 n ++ rest) = .ok (digitsOf n, rest) := by
  have hread := digits_append (isDigit_toDigits (n := n)) h.noDigit
  rw [wholeDigits, hread]
  split
  next heq =>
    have hnil := congrArg List.length (Prod.mk.inj heq).1
    simp [Nat.toDigits_ne_nil] at hnil
  next heq => exact (toDigits_ne_zero_cons n _ _ (Prod.mk.inj heq).1).elim
  next heq =>
    obtain ⟨rfl, rfl⟩ := Prod.mk.inj heq
    rfl

theorem numeral_toDigits (negative : Bool) (n : Nat) {rest : List Char} (h : Closes rest) :
    numeral negative (Nat.toDigits 10 n ++ rest) =
      .ok (⟨negative, digitsOf n, none, none⟩, rest) := by
  rw [numeral, Reader.bind_ok (wholeDigits_toDigits n h), Reader.bind_ok (fractionPart_of_closes h),
    Reader.bind_ok (exponentPart_of_closes h)]
  rfl

theorem le_foldl_digits (ds : List Nat) (n : Nat) : n ≤ ds.foldl (fun n d => n * 10 + d) n := by
  induction ds generalizing n with
  | nil => exact Nat.le_refl n
  | cons d ds ih => exact Nat.le_trans (by omega) (ih (n * 10 + d))

theorem gather_eq {ds : List Nat} {n : Nat}
    (h : ds.foldl (fun n d => n * 10 + d) n ≤ maxGathered) :
    gather n ds = (ds.foldl (fun n d => n * 10 + d) n, []) := by
  induction ds generalizing n with
  | nil => rfl
  | cons d ds ih =>
    have hle : n * 10 + d ≤ maxGathered := Nat.le_trans (le_foldl_digits ds _) h
    rw [gather, if_pos hle, ih h]
    rfl

theorem gather_digitsOf {n : Nat} (h : n ≤ maxGathered) : gather 0 (digitsOf n) = (n, []) := by
  have hn : (digitsOf n).foldl (fun n d => n * 10 + d) 0 = n := foldl_toDigits n
  rw [gather_eq (by rw [hn]; exact h), hn]

theorem startsNumber_of_isDigit {c : Char} (h : c.isDigit = true) : startsNumber c = true := by
  rw [isDigit_iff] at h
  simp [startsNumber, digit?, h]

theorem isSpace_of_startsNumber {c : Char} (h : startsNumber c = true) : isSpace c = false := by
  cases hc : isSpace c with
  | false => rfl
  | true =>
    simp only [isSpace, Bool.or_eq_true, decide_eq_true_eq] at hc
    rcases hc with ((rfl | rfl) | rfl) | rfl <;> cases h

namespace Number

/-- Only integers below zero are told apart as negative. -/
def IsProper : Number → Prop
  | negative n => n.toInt < 0
  | _ => True

/-- A number without a fraction or an exponent. -/
def IsInteger : Number → Prop
  | double _ => False
  | _ => True

theorem toList_text_natural (n : UInt64) :
    (natural n).text.toList = Nat.toDigits 10 n.toNat := by
  rw [text, Nat.toString_eq_ofList_toDigits, String.toList_ofList]

theorem toList_text_negative {n : Int64} (hn : n.toInt < 0) :
    (negative n).text.toList = '-' :: Nat.toDigits 10 n.toInt.natAbs := by
  rw [text]
  cases hm : n.toInt with
  | ofNat m =>
    rw [hm] at hn
    cases hn
  | negSucc m =>
    change ("-" ++ toString (m + 1)).toList = _
    simp

theorem number?_natural (n : UInt64) :
    Numeral.number? ⟨false, digitsOf n.toNat, none, none⟩ = some (natural n) := by
  have hle : n.toNat ≤ maxGathered := Nat.le_of_lt_succ n.toNat_lt
  simp [Numeral.number?, gather_digitsOf hle]

/-- A sixty-four bit integer below zero has an absolute value of at most `2 ^ 63`. -/
theorem number?_negative {n : Int64} (hn : n.toInt < 0) :
    Numeral.number? ⟨true, digitsOf n.toInt.natAbs, none, none⟩ = some (negative n) := by
  have hlow : -2 ^ 63 ≤ n.toInt := n.le_toInt
  have hle : n.toInt.natAbs ≤ maxGathered := by
    rw [maxGathered]
    omega
  have hrange : ¬ (n.toInt.natAbs = 0 ∨ 9223372036854775808 < n.toInt.natAbs) := by omega
  have hback : -(n.toInt.natAbs : Int) = n.toInt := by omega
  rw [Numeral.number?, gather_digitsOf hle]
  dsimp only
  rw [if_pos (by simp), if_pos rfl, if_neg hrange, hback, Int64.ofInt_toInt]

theorem number_natural (n : UInt64) {rest : List Char} (h : Closes rest) :
    Read.number ((natural n).text.toList ++ rest) = .ok (natural n, rest) := by
  have hread := numeral_toDigits false n.toNat h
  obtain ⟨c, cs, hcs, hc⟩ := exists_toDigits_cons n.toNat
  rw [toList_text_natural]
  rw [hcs, List.cons_append] at hread ⊢
  have hsign : c ≠ '-' := by
    rintro rfl
    cases hc
  rw [Read.number]
  refine (Reader.bind_ok (by
    split
    next heq => exact (hsign (List.cons.inj heq).1).elim
    next => exact hread)).trans ?_
  rw [number?_natural]
  rfl

theorem number_negative {n : Int64} (hn : n.toInt < 0) {rest : List Char} (h : Closes rest) :
    Read.number ((negative n).text.toList ++ rest) = .ok (negative n, rest) := by
  rw [toList_text_negative hn]
  refine (Reader.bind_ok (by exact numeral_toDigits true n.toInt.natAbs h)).trans ?_
  rw [number?_negative hn]
  rfl

theorem number_text {n : Number} (hn : n.IsProper) (hint : n.IsInteger) {rest : List Char}
    (h : Closes rest) : Read.number (n.text.toList ++ rest) = .ok (n, rest) := by
  cases n with
  | natural n => exact number_natural n h
  | negative n => exact number_negative hn h
  | double d => exact hint.elim

theorem exists_text_cons {n : Number} (hn : n.IsProper) (hint : n.IsInteger) :
    ∃ c cs, n.text.toList = c :: cs ∧ startsNumber c = true := by
  cases n with
  | natural n =>
    obtain ⟨c, cs, hcs, hc⟩ := exists_toDigits_cons n.toNat
    exact ⟨c, cs, (toList_text_natural n).trans hcs, startsNumber_of_isDigit hc⟩
  | negative n => exact ⟨'-', _, toList_text_negative hn, rfl⟩
  | double d => exact hint.elim

theorem printable_text {n : Number} (hint : n.IsInteger) :
    ∀ c ∈ n.text.toList, 0x20 ≤ c.toNat := by
  have hdigits : ∀ m : Nat, ∀ c ∈ Nat.toDigits 10 m, 0x20 ≤ c.toNat := fun _ c hc =>
    Nat.le_trans (by decide) (toNat_of_isDigit (isDigit_toDigits c hc)).1
  cases n with
  | natural n =>
    rw [toList_text_natural]
    exact hdigits n.toNat
  | negative n =>
    by_cases hn : n.toInt < 0
    · rw [toList_text_negative hn]
      exact List.forall_mem_cons.mpr ⟨by decide, hdigits n.toInt.natAbs⟩
    · obtain ⟨m, hm⟩ := Int.eq_ofNat_of_zero_le (Int.not_lt.mp hn)
      rw [text, hm]
      change ∀ c ∈ (toString m).toList, _
      rw [Nat.toString_eq_ofList_toDigits, String.toList_ofList]
      exact hdigits m
  | double d => exact hint.elim

/-! ### Numbers that are read -/

theorem isProper_of_scaled? {negative : Bool} {gathered : Nat} {exponent : Int} {n : Number}
    (h : scaled? negative gathered exponent = some n) : n.IsProper := by
  rw [scaled?, Option.map_eq_some_iff] at h
  obtain ⟨f, -, rfl⟩ := h
  trivial

theorem isProper_of_number? {x : Numeral} {n : Number} (h : x.number? = some n) : n.IsProper := by
  unfold Numeral.number? at h
  dsimp only at h
  split at h
  next =>
    split at h
    next =>
      split at h
      next =>
        cases h
        trivial
      next hrange =>
        cases h
        rw [IsProper, Int64.toInt_ofInt_of_le (by omega) (by omega)]
        omega
    next =>
      cases h
      trivial
  next =>
    split at h
    next => exact isProper_of_scaled? h
    next =>
      split at h
      next =>
        split at h
        next =>
          cases h
          trivial
        next => cases h
      next => exact isProper_of_scaled? h

theorem yields_number : Reader.Yields Read.number IsProper := by
  refine Reader.yields_any.bind fun x _ => ?_
  cases h : x.number? with
  | none => exact Reader.yields_throw _
  | some n => exact Reader.yields_pure (isProper_of_number? h)

end Number

end AgentFleet.Json
