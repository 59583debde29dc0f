import AgentFleet.Time.Calendar

/-!
The calendar gives every day a date that exists, and that date has the day. Days are counted in eras
of four hundred years, in centuries of an era and in spans of four years of a century; each of these
has one day more than its parts have in common, at its end or not at all.
-/

namespace AgentFleet

def yearOfEra (day : Int) : Int := (day - day / 1460 + day / 36524 - day / 146096) / 365

def dayOfYear (day : Int) : Int :=
  day - (365 * yearOfEra day + yearOfEra day / 4 - yearOfEra day / 100)

/-- Where a day of an era falls: the year is one of the era, the day is one of the year, and only
leap years have a day with number 365. -/
structure FallsIn (year day : Int) : Prop where
  year_nonneg : 0 ≤ year
  year_le : year ≤ 399
  day_nonneg : 0 ≤ day
  day_le : day ≤ 365
  leap : day = 365 → (year + 1) % 4 = 0 ∧ ((year + 1) % 100 ≠ 0 ∨ (year + 1) % 400 = 0)

section Era

variable {day century span rest : Int}

/-- The year of a day that is told by its century, its span of four years, and the day of that. -/
theorem yearOfEra_eq (hcentury : 0 ≤ century ∧ century ≤ 3) (hrest : 0 ≤ rest ∧ rest ≤ 1460)
    (hspan : 0 ≤ span ∧ 1461 * span + rest ≤ 36523)
    (hday : day = 36524 * century + 1461 * span + rest) :
    rest < 1460 - span - 24 * century ∧ yearOfEra day = 100 * century + 4 * span + rest / 365 ∨
      1460 - span - 24 * century ≤ rest ∧ yearOfEra day = 100 * century + 4 * span + 3 := by
  have hdays : day / 36524 = century := by omega
  have hera : day / 146096 = 0 := by omega
  rw [yearOfEra, hdays, hera]
  rcases Int.lt_or_le rest (1460 - span - 24 * century) with hlt | hle
  · have hspans : day / 1460 = 25 * century + span := by omega
    exact .inl ⟨hlt, by omega⟩
  · have hspans : day / 1460 = 25 * century + span + 1 := by omega
    exact .inr ⟨hle, by omega⟩

theorem fallsIn_century (hcentury : 0 ≤ century ∧ century ≤ 3) (hrest : 0 ≤ rest ∧ rest ≤ 1460)
    (hspan : 0 ≤ span ∧ 1461 * span + rest ≤ 36523)
    (hday : day = 36524 * century + 1461 * span + rest) :
    FallsIn (yearOfEra day) (dayOfYear day) := by
  have hyear := yearOfEra_eq hcentury hrest hspan hday
  have hcenturies : yearOfEra day / 100 = century := by omega
  have hspans : yearOfEra day / 4 = 25 * century + span := by omega
  rw [dayOfYear, hcenturies, hspans]
  constructor <;> omega

/-- The last day of an era belongs to no century of it. -/
theorem fallsIn_era (hday : 0 ≤ day ∧ day ≤ 146096) :
    FallsIn (yearOfEra day) (dayOfYear day) := by
  rcases Int.lt_or_le day 146096 with hlt | hle
  · have hparts :
        day = 36524 * (day / 36524) + 1461 * (day % 36524 / 1461) + day % 36524 % 1461 := by omega
    exact fallsIn_century (by omega) (by omega) (by omega) hparts
  · obtain rfl : day = 146096 := by omega
    constructor <;> decide

end Era

namespace Date

theorem ofDays_eq (days : Int) :
    ofDays days =
      let day := (days + 719468) % 146097
      let m := (5 * dayOfYear day + 2) / 153
      let month := if m < 10 then m + 3 else m - 9
      ⟨yearOfEra day + (days + 719468) / 146097 * 400 + (if month ≤ 2 then 1 else 0), month.toNat,
        (dayOfYear day - (153 * m + 2) / 5 + 1).toNat⟩ := rfl

/-- How the date of a day comes about: its day of a year that begins in March falls into month `m`
of that year, which belongs to the next year from January on. -/
theorem ofDays_cases (days : Int) :
    ∃ era year day m, FallsIn year day ∧ m = (5 * day + 2) / 153 ∧
      days + 719468 = 146097 * era + (365 * year + year / 4 - year / 100 + day) ∧
      (m < 10 ∧ ofDays days =
          ⟨year + era * 400, (m + 3).toNat, (day - (153 * m + 2) / 5 + 1).toNat⟩ ∨
        10 ≤ m ∧ ofDays days =
          ⟨year + era * 400 + 1, (m - 9).toNat, (day - (153 * m + 2) / 5 + 1).toNat⟩) := by
  have hrange : 0 ≤ (days + 719468) % 146097 ∧ (days + 719468) % 146097 ≤ 146096 := by omega
  have hfalls := fallsIn_era hrange
  refine ⟨(days + 719468) / 146097, _, _, _, hfalls, rfl, ?_, ?_⟩
  · rw [dayOfYear]
    omega
  · have hlast := hfalls.day_le
    rw [ofDays_eq]
    dsimp only
    generalize yearOfEra ((days + 719468) % 146097) = year
    generalize dayOfYear ((days + 719468) % 146097) = day at *
    split
    next hm =>
      have hlate : ¬ (5 * day + 2) / 153 + 3 ≤ 2 := by
        have := hfalls.day_nonneg
        omega
      rw [if_neg hlate, Int.add_zero]
      exact .inl ⟨hm, rfl⟩
    next hm =>
      have hearly : (5 * day + 2) / 153 - 9 ≤ 2 := by omega
      rw [if_pos hearly]
      exact .inr ⟨Int.not_lt.mp hm, rfl⟩

theorem toDays_ofDays (days : Int) : (ofDays days).toDays = days := by
  obtain ⟨era, year, day, m, hfalls, hm, hdays, hdate⟩ := ofDays_cases days
  obtain ⟨hyear, hyear', hday, hday', -⟩ := hfalls
  have hfours : (year + era * 400) / 4 = year / 4 + 100 * era := by omega
  have hcenturies : (year + era * 400) / 100 = year / 100 + 4 * era := by omega
  have heras : (year + era * 400) / 400 = era := by omega
  have hfirst : 0 ≤ day - (153 * m + 2) / 5 + 1 := by omega
  rcases hdate with ⟨hlt, hdate⟩ | ⟨hle, hdate⟩
  · have hlate : ¬ (m + 3).toNat ≤ 2 := by omega
    have hmonth : (((m + 3).toNat : Int) + 9) % 12 = m := by omega
    rw [hdate, toDays]
    dsimp only
    rw [if_neg hlate, hmonth, hfours, hcenturies, heras, Int.toNat_of_nonneg hfirst]
    omega
  · have hearly : (m - 9).toNat ≤ 2 := by omega
    have hmonth : (((m - 9).toNat : Int) + 9) % 12 = m := by omega
    rw [hdate, toDays]
    dsimp only
    rw [if_pos hearly, hmonth, Int.add_sub_cancel, hfours, hcenturies, heras,
      Int.toNat_of_nonneg hfirst]
    omega

theorem isLeapYear_of_fallsIn {era year day : Int} (hfalls : FallsIn year day) (hday : day = 365) :
    isLeapYear (year + era * 400 + 1) = true := by
  obtain ⟨hfour, hcentury⟩ := hfalls.leap hday
  have hfour' : (year + era * 400 + 1) % 4 = 0 := by omega
  have hcentury' : (year + era * 400 + 1) % 100 ≠ 0 ∨ (year + era * 400 + 1) % 400 = 0 := by omega
  simpa [isLeapYear, hfour'] using hcentury'

theorem isValid_ofDays (days : Int) : (ofDays days).IsValid := by
  obtain ⟨era, year, day, m, hfalls, hm, -, hdate⟩ := ofDays_cases days
  have hday := hfalls.day_nonneg
  have hday' := hfalls.day_le
  rcases hdate with ⟨hlt, hdate⟩ | ⟨hle, hdate⟩
  · rw [hdate]
    refine ⟨by dsimp only; omega, by dsimp only; omega, by dsimp only; omega, ?_⟩
    have hmonths : m = 0 ∨ m = 1 ∨ m = 2 ∨ m = 3 ∨ m = 4 ∨ m = 5 ∨ m = 6 ∨ m = 7 ∨ m = 8 ∨
        m = 9 := by omega
    rcases hmonths with rfl | rfl | rfl | rfl | rfl | rfl | rfl | rfl | rfl | rfl <;>
      simp [daysInMonth] <;> omega
  · rw [hdate]
    refine ⟨by dsimp only; omega, by dsimp only; omega, by dsimp only; omega, ?_⟩
    have hmonths : m = 10 ∨ m = 11 := by omega
    rcases hmonths with rfl | rfl
    · simp [daysInMonth]
      omega
    · -- February has a last day more in the years in which a day has number 365.
      by_cases hlast : day = 365
      · simp [daysInMonth, isLeapYear_of_fallsIn hfalls hlast]
        omega
      · have hshort : 28 ≤ daysInMonth (year + era * 400 + 1) 2 := by
          simp only [daysInMonth]
          split <;> decide
        refine Nat.le_trans ?_ hshort
        dsimp only
        omega

end Date

end AgentFleet
