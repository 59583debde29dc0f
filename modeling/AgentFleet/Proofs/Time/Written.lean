import AgentFleet.Proofs.Text.Digits
import AgentFleet.Proofs.Time.Calendar

/-!
Times and their written form. Every time that is read has a year of the calendar and less than a
second of nanoseconds, or is a leap second at the end of a minute; and the written form of such a
time is read as that time again.
-/

namespace AgentFleet

namespace Text

theorem trimLeft_cons {c : Char} (rest : List Char) (h : isBlank c = false) :
    trimLeft (c :: rest) = c :: rest := by
  simp [trimLeft, h]

theorem isBlank_of_isDigit {c : Char} (h : c.isDigit = true) : isBlank c = false := by
  have hcode := toNat_of_isDigit h
  simp only [isBlank, Bool.or_eq_false_iff, Bool.and_eq_false_iff, decide_eq_false_iff_not,
    beq_eq_false_iff_ne]
  omega

theorem trimLeft_digits {cs : List Char} (hne : cs ≠ []) (hcs : ∀ c ∈ cs, c.isDigit = true)
    (rest : List Char) : trimLeft (cs ++ rest) = cs ++ rest := by
  cases cs with
  | nil => exact (hne rfl).elim
  | cons c cs => exact trimLeft_cons _ (isBlank_of_isDigit (hcs c List.mem_cons_self))

end Text

open Text

namespace Timestamp

/-- A time that may be read: its year is one of the calendar, and only the last second of a minute
may be a leap second. -/
structure IsProper (t : Timestamp) : Prop where
  year_ge : minYear ≤ (Date.ofDays (t.seconds / secondsPerDay)).year
  year_le : (Date.ofDays (t.seconds / secondsPerDay)).year ≤ maxYear
  nanos : t.nanos < billion ∨ t.nanos < 2 * billion ∧ t.seconds % 60 = 59

/-! ### What is read -/

theorem length_leadingDigits {most : Nat} {cs rest : List Char} {ds : List Nat}
    (h : leadingDigits most cs = (ds, rest)) : ds.length ≤ most ∧ ∀ d ∈ ds, d ≤ 9 := by
  induction most generalizing cs ds with
  | zero =>
    cases h
    simp
  | succ most ih =>
    cases cs with
    | nil =>
      cases h
      simp
    | cons c cs =>
      rw [leadingDigits] at h
      split at h
      next hc =>
        cases h
        obtain ⟨hlen, hds⟩ := ih rfl
        have hhigh : c.toNat ≤ 57 := UInt32.le_iff_toNat_le.mp (Char.le_def.mp hc.2)
        refine ⟨Nat.succ_le_succ hlen, List.forall_mem_cons.mpr ⟨?_, hds⟩⟩
        omega
      next =>
        cases h
        simp

theorem readFraction_lt {cs rest : List Char} {n : Nat}
    (h : readFraction cs = some (n, rest)) : n < billion := by
  unfold readFraction at h
  split at h
  next cs =>
    split at h
    next => cases h
    next ds rest' _ hds =>
      cases h
      obtain ⟨hlen, hle⟩ := length_leadingDigits hds
      have hlt : numberOf ds < 10 ^ ds.length := foldl_digits_lt hle
      calc numberOf ds * Nat.pow 10 (9 - ds.length)
          < 10 ^ ds.length * 10 ^ (9 - ds.length) :=
            Nat.mul_lt_mul_of_pos_right hlt (Nat.pow_pos (by decide))
        _ = billion := by rw [← Nat.pow_add, Nat.add_sub_cancel' hlen, billion]
  next =>
    cases h
    decide

theorem readHoursMinutes_dvd {cs rest : List Char} {offset : Int}
    (h : readHoursMinutes cs = some (offset, rest)) : 60 ∣ offset := by
  simp only [readHoursMinutes, Option.bind_eq_bind, Option.bind_eq_some_iff] at h
  obtain ⟨⟨hours, cs⟩, -, ⟨minutes, cs'⟩, -, h⟩ := h
  dsimp only at h
  split at h
  next =>
    cases h
    omega
  next => cases h

/-- Offsets are given in whole minutes. -/
theorem readOffset_dvd {cs rest : List Char} {offset : Int}
    (h : readOffset cs = some (offset, rest)) : 60 ∣ offset := by
  have hshort : ∀ cs, readOffset.short cs = some (offset, rest) → 60 ∣ offset := by
    intro cs h
    unfold readOffset.short at h
    split at h
    · cases h
      exact Int.dvd_zero _
    · cases h
      exact Int.dvd_zero _
    · exact readHoursMinutes_dvd h
    · obtain ⟨⟨s, rest'⟩, hs, he⟩ := Option.map_eq_some_iff.mp h
      cases he
      exact Int.dvd_neg.mpr (readHoursMinutes_dvd hs)
    · obtain ⟨⟨s, rest'⟩, hs, he⟩ := Option.map_eq_some_iff.mp h
      cases he
      exact Int.dvd_neg.mpr (readHoursMinutes_dvd hs)
    · cases h
  unfold readOffset at h
  split at h
  next =>
    split at h
    · cases h
      exact Int.dvd_zero _
    · exact hshort _ h
  next => exact hshort _ h

theorem isProper_of_ofParts {date : Date} {hour minute second nanos : Nat} {offset : Int}
    {t : Timestamp} (h : ofParts date hour minute second nanos offset = some t)
    (hnanos : nanos < billion) (hoffset : 60 ∣ offset) : t.IsProper := by
  simp only [ofParts, Option.ite_none_right_eq_some, Option.some.injEq] at h
  obtain ⟨-, hyear, rfl⟩ := h
  refine ⟨hyear.1, hyear.2, ?_⟩
  by_cases hleap : second = 60
  · right
    simp only [hleap, if_true, secondsPerDay]
    refine ⟨by omega, ?_⟩
    obtain ⟨k, rfl⟩ := hoffset
    omega
  · left
    simpa [hleap] using hnanos

theorem of_bind_eq_some {α β : Type} {x : Option α} {f : α → Option β} {b : β}
    (h : (x >>= f) = some b) : ∃ a, x = some a ∧ f a = some b :=
  Option.bind_eq_some_iff.mp h

theorem isProper_of_ofChars {cs : List Char} {t : Timestamp} (h : ofChars? cs = some t) :
    t.IsProper := by
  unfold ofChars? at h
  obtain ⟨⟨year, _⟩, -, h⟩ := of_bind_eq_some h
  obtain ⟨_, -, h⟩ := of_bind_eq_some h
  obtain ⟨⟨month, _⟩, -, h⟩ := of_bind_eq_some h
  obtain ⟨_, -, h⟩ := of_bind_eq_some h
  obtain ⟨⟨day, _⟩, -, h⟩ := of_bind_eq_some h
  dsimp only at h
  split at h
  next =>
    split at h
    next =>
      obtain ⟨_, -, h⟩ := of_bind_eq_some h
      obtain ⟨⟨hour, _⟩, -, h⟩ := of_bind_eq_some h
      obtain ⟨_, -, h⟩ := of_bind_eq_some h
      obtain ⟨⟨minute, _⟩, -, h⟩ := of_bind_eq_some h
      obtain ⟨_, -, h⟩ := of_bind_eq_some h
      obtain ⟨⟨second, _⟩, -, h⟩ := of_bind_eq_some h
      obtain ⟨⟨nanos, _⟩, hnanos, h⟩ := of_bind_eq_some h
      obtain ⟨⟨offset, _⟩, hoffset, h⟩ := of_bind_eq_some h
      dsimp only at h
      split at h
      next => exact isProper_of_ofParts h (readFraction_lt hnanos) (readOffset_dvd hoffset)
      next => cases h
    next => cases h
  next => cases h

/-! ### Reading what was written -/

theorem bind_of_eq_some {α β : Type} {x : Option α} {f : α → Option β} {a : α} (h : x = some a) :
    (x >>= f) = f a := by
  rw [h]
  rfl

theorem spacedNumber_padded {n : Nat} (h : n < 100) (rest : List Char) :
    spacedNumber 2 ((padded 2 n).toList ++ rest) = some (n, rest) := by
  have hlen : (padded 2 n).toList.length = 2 := length_padded (by decide) h
  rw [spacedNumber, trimLeft_digits (padded_ne_nil 2 n) isDigit_padded]
  exact number_padded (Nat.le_of_eq hlen) (.inl hlen)

theorem mark_cons {c : Char} (h : isBlank c = false) (rest : List Char) :
    mark c (c :: rest) = some rest := by
  simp [mark, trimLeft_cons rest h]

/-- A year with more than four digits, or a negative one, stands behind its sign. -/
theorem number_signed (n : Nat) (rest : List Char) :
    number ((padded 4 n).toList ++ '-' :: rest).length ((padded 4 n).toList ++ '-' :: rest) =
      some (n, '-' :: rest) := by
  refine number_padded ?_ (.inr (noDigit_cons rfl))
  rw [List.length_append]
  exact Nat.le_add_right ..

theorem readYear_padded {n : Nat} (h : n < 10000) (rest : List Char) :
    readYear ((padded 4 n).toList ++ '-' :: rest) = some ((n : Int), '-' :: rest) := by
  have hlen : (padded 4 n).toList.length = 4 := length_padded (by decide) h
  have hread : number 4 ((padded 4 n).toList ++ '-' :: rest) = some (n, '-' :: rest) :=
    number_padded (Nat.le_of_eq hlen) (.inl hlen)
  have hhead : ∀ c cs, (padded 4 n).toList ++ '-' :: rest = c :: cs → c.isDigit = true := by
    intro c cs heq
    rw [List.append_eq_cons_iff] at heq
    obtain ⟨hnil, -⟩ | ⟨cs', heq, -⟩ := heq
    · exact (padded_ne_nil 4 n hnil).elim
    · exact isDigit_padded c (heq ▸ List.mem_cons_self)
  unfold readYear
  rw [trimLeft_digits (padded_ne_nil 4 n) isDigit_padded]
  split
  next heq => cases hhead _ _ heq
  next heq => cases hhead _ _ heq
  next =>
    rw [hread]
    rfl

theorem readYear_minus (n : Nat) (rest : List Char) :
    readYear (("-" ++ padded 4 n).toList ++ '-' :: rest) = some (-(n : Int), '-' :: rest) := by
  have hread : readYear (("-" ++ padded 4 n).toList ++ '-' :: rest) =
      (number ((padded 4 n).toList ++ '-' :: rest).length ((padded 4 n).toList ++ '-' :: rest)).map
        fun p => (-(p.1 : Int), p.2) := by
    rw [String.toList_append]
    rfl
  rw [hread, number_signed]
  rfl

theorem readYear_plus (n : Nat) (rest : List Char) :
    readYear (("+" ++ padded 4 n).toList ++ '-' :: rest) = some ((n : Int), '-' :: rest) := by
  have hread : readYear (("+" ++ padded 4 n).toList ++ '-' :: rest) =
      (number ((padded 4 n).toList ++ '-' :: rest).length ((padded 4 n).toList ++ '-' :: rest)).map
        fun p => ((p.1 : Int), p.2) := by
    rw [String.toList_append]
    rfl
  rw [hread, number_signed]
  rfl

theorem readYear_yearText (year : Int) (rest : List Char) :
    readYear ((yearText year).toList ++ '-' :: rest) = some (year, '-' :: rest) := by
  unfold yearText
  split
  next hshort => rw [readYear_padded (by omega), Int.toNat_of_nonneg hshort.1]
  next hlong =>
    split
    next hneg =>
      have hyear : -(year.natAbs : Int) = year := by omega
      rw [readYear_minus, hyear]
    next hpos =>
      have hyear : (year.natAbs : Int) = year := by omega
      rw [readYear_plus, hyear]

theorem readFraction_padded {width n : Nat} (hpos : 0 < width) (hwidth : width ≤ 9)
    (h : n < Nat.pow 10 width) (rest : List Char) :
    readFraction ('.' :: ((padded width n).toList ++ 'Z' :: rest)) =
      some (n * Nat.pow 10 (9 - width), 'Z' :: rest) := by
  have hlen : (padded width n).toList.length = width := length_padded hpos h
  have hread : leadingDigits 9 ((padded width n).toList ++ 'Z' :: rest) =
      ((padded width n).toList.map digitValue, 'Z' :: rest) :=
    leadingDigits_append isDigit_padded (Nat.le_trans (Nat.le_of_eq hlen) hwidth)
      (.inr (noDigit_cons rfl))
  have hend : leadingDigits ('Z' :: rest).length ('Z' :: rest) = ([], 'Z' :: rest) := rfl
  have hsome : (padded width n).toList.map digitValue ≠ [] := by
    simpa using padded_ne_nil width n
  rw [readFraction, hread]
  split
  next heq => exact (hsome (Prod.mk.inj heq).1).elim
  next ds rest' _ heq =>
    obtain ⟨rfl, rfl⟩ := Prod.mk.inj heq
    rw [hend, numberOf_padded, List.length_map, hlen]

theorem readFraction_fractionText {nanos : Nat} (h : nanos < billion) (rest : List Char) :
    readFraction ((fractionText nanos).toList ++ 'Z' :: rest) = some (nanos, 'Z' :: rest) := by
  rw [billion] at h
  have hread : ∀ width n, 0 < width → width ≤ 9 → n < 10 ^ width → n * 10 ^ (9 - width) = nanos →
      readFraction (("." ++ padded width n).toList ++ 'Z' :: rest) = some (nanos, 'Z' :: rest) := by
    intro width n hpos hwidth hn hnanos
    have hdot : ".".toList = ['.'] := by decide
    rw [String.toList_append, hdot, List.singleton_append, List.cons_append,
      readFraction_padded hpos hwidth hn]
    exact congrArg (fun n => some (n, 'Z' :: rest)) hnanos
  unfold fractionText
  split
  next hzero =>
    rw [hzero]
    rfl
  next =>
    split
    next hmillis => exact hread 3 _ (by decide) (by decide) (by omega) (by omega)
    next =>
      split
      next hmicros => exact hread 6 _ (by decide) (by decide) (by omega) (by omega)
      next => exact hread 9 _ (by decide) (by decide) h (by omega)

theorem ofParts_text {t : Timestamp} (h : t.IsProper) :
    let second := (t.seconds % secondsPerDay).toNat
    let leap := decide (billion ≤ t.nanos)
    ofParts (Date.ofDays (t.seconds / secondsPerDay)) (second / 3600) (second / 60 % 60)
      (second % 60 + (if leap then 1 else 0)) (if leap then t.nanos - billion else t.nanos) 0 =
        some t := by
  obtain ⟨seconds, nanos⟩ := t
  obtain ⟨hge, hle, hnanos⟩ := h
  have hvalid := Date.isValid_ofDays (seconds / secondsPerDay)
  have hdays := Date.toDays_ofDays (seconds / secondsPerDay)
  dsimp only at hge hle hnanos ⊢
  have hday : (seconds % secondsPerDay).toNat < 86400 := by
    rw [secondsPerDay]
    omega
  have hseconds :
      seconds / secondsPerDay * secondsPerDay + ((seconds % secondsPerDay).toNat : Int) =
        seconds := by
    rw [secondsPerDay]
    omega
  have hminute : seconds % 60 = ((seconds % secondsPerDay).toNat % 60 : Nat) := by
    rw [secondsPerDay]
    omega
  generalize (seconds % secondsPerDay).toNat = second at *
  by_cases hleap : billion ≤ nanos
  · obtain ⟨hlt, hlast⟩ := hnanos.resolve_left (Nat.not_lt.mpr hleap)
    have hend : second % 60 = 59 := by omega
    have hsum : second / 3600 * 3600 + second / 60 % 60 * 60 + 59 = second := by omega
    have hparts : (Date.ofDays (seconds / secondsPerDay)).IsValid ∧
        minYear ≤ (Date.ofDays (seconds / secondsPerDay)).year ∧
        (Date.ofDays (seconds / secondsPerDay)).year ≤ maxYear ∧ second / 3600 < 24 ∧
        second / 60 % 60 < 60 ∧ 59 + 1 ≤ 60 :=
      ⟨hvalid, hge, hle, by omega, by omega, by omega⟩
    simp only [hleap, decide_true, if_true, ofParts, hend, hparts, hsum, hdays, Int.sub_zero,
      hseconds, and_self, Nat.sub_add_cancel]
  · have hsum : second / 3600 * 3600 + second / 60 % 60 * 60 + second % 60 = second := by omega
    have hparts : (Date.ofDays (seconds / secondsPerDay)).IsValid ∧
        minYear ≤ (Date.ofDays (seconds / secondsPerDay)).year ∧
        (Date.ofDays (seconds / secondsPerDay)).year ≤ maxYear ∧ second / 3600 < 24 ∧
        second / 60 % 60 < 60 ∧ second % 60 ≤ 60 :=
      ⟨hvalid, hge, hle, by omega, by omega, by omega⟩
    have hshort : second % 60 ≠ 60 := by omega
    simp only [hleap, decide_false, Bool.false_eq_true, if_false, ofParts, Nat.add_zero, hparts,
      hshort, hsum, hdays, Int.sub_zero, hseconds, and_self, if_true]

theorem toList_text (t : Timestamp) :
    let date := Date.ofDays (t.seconds / secondsPerDay)
    let second := (t.seconds % secondsPerDay).toNat
    let leap := decide (billion ≤ t.nanos)
    t.text.toList = (yearText date.year).toList ++ '-' :: ((padded 2 date.month).toList ++
      '-' :: ((padded 2 date.day).toList ++ 'T' :: ((padded 2 (second / 3600)).toList ++
      ':' :: ((padded 2 (second / 60 % 60)).toList ++
      ':' :: ((padded 2 (second % 60 + (if leap then 1 else 0))).toList ++
      ((fractionText (if leap then t.nanos - billion else t.nanos)).toList ++ ['Z'])))))) := by
  simp [text, List.append_assoc]

theorem IsProper.fraction_lt {t : Timestamp} (h : t.IsProper) :
    (if decide (billion ≤ t.nanos) then t.nanos - billion else t.nanos) < billion := by
  have hrange := h.nanos
  split
  next hleap =>
    rw [decide_eq_true_eq] at hleap
    omega
  next hleap =>
    rw [decide_eq_true_eq] at hleap
    omega

theorem two_digits_of_isValid {date : Date} (h : date.IsValid) :
    date.month < 100 ∧ date.day < 100 := by
  obtain ⟨-, hmonth, -, hday⟩ := h
  have hdays : daysInMonth date.year date.month ≤ 31 := by
    unfold daysInMonth
    split
    next => split <;> omega
    all_goals omega
  constructor <;> omega

theorem ofText_text {t : Timestamp} (h : t.IsProper) : ofText? t.text = some t := by
  obtain ⟨hmonth, hdate⟩ := two_digits_of_isValid (Date.isValid_ofDays (t.seconds / secondsPerDay))
  have hparts := ofParts_text h
  have hnanos := h.fraction_lt
  have hday : (t.seconds % secondsPerDay).toNat < 86400 := by
    rw [secondsPerDay]
    omega
  rw [ofText?, toList_text]
  dsimp only at hparts ⊢
  generalize (t.seconds % secondsPerDay).toNat = second at *
  generalize Date.ofDays (t.seconds / secondsPerDay) = date at *
  have hdash : isBlank '-' = false := by decide
  have hcolon : isBlank ':' = false := by decide
  have hseparator : isSeparator 'T' = true := by decide
  have hhour : second / 3600 < 100 := by omega
  have hminute : second / 60 % 60 < 100 := by omega
  have hsecond : second % 60 + (if decide (billion ≤ t.nanos) then 1 else 0) < 100 := by
    split <;> omega
  rw [ofChars?, bind_of_eq_some (readYear_yearText _ _)]
  dsimp only
  rw [bind_of_eq_some (mark_cons hdash _), bind_of_eq_some (spacedNumber_padded hmonth _)]
  dsimp only
  rw [bind_of_eq_some (mark_cons hdash _), bind_of_eq_some (spacedNumber_padded hdate _)]
  dsimp only
  rw [if_pos hseparator, bind_of_eq_some rfl, bind_of_eq_some (spacedNumber_padded hhour _)]
  dsimp only
  rw [bind_of_eq_some (mark_cons hcolon _), bind_of_eq_some (spacedNumber_padded hminute _)]
  dsimp only
  rw [bind_of_eq_some (mark_cons hcolon _), bind_of_eq_some (spacedNumber_padded hsecond _)]
  dsimp only
  rw [bind_of_eq_some (readFraction_fractionText hnanos _)]
  -- What is left to read is the letter of the offset.
  exact hparts

end Timestamp

end AgentFleet
