import TrackerBoard.Time.Calendar

/-! # Days and dates

The year found for a day holds it (`yearOfDay_spec`), because no year starts more than two days
away from where the mean length of a year puts it; the month found for a day of a year holds it
(`monthOfDay_spec`).  Hence the date of a day is a date of the calendar (`isValid_ofDay`), and its
day is the one it was made of (`toDay_ofDay`).
-/

namespace TrackerBoard

/-- A year starts where its mean length of 146097 days in 400 years puts it, within two days. -/
theorem daysBeforeYear_mean (year : Int) :
    146097 * year - 396 ≤ 400 * daysBeforeYear year ∧
      400 * daysBeforeYear year ≤ 146097 * year + 699 := by
  simp only [daysBeforeYear]
  omega

/-- The number of days of a year. -/
def yearLength (year : Int) : Nat := if isLeapYear year then 366 else 365

theorem daysBeforeYear_succ (year : Int) :
    daysBeforeYear (year + 1) = daysBeforeYear year + yearLength year := by
  simp only [daysBeforeYear, yearLength, isLeapYear, decide_eq_true_eq]
  split
  all_goals omega

theorem daysBeforeMonth_succ (year : Int) (month : Nat) :
    daysBeforeMonth year (month + 2) =
      daysBeforeMonth year (month + 1) + monthLength year (month + 1) := rfl

/-- The months of a year fill it. -/
theorem daysBeforeMonth_thirteen (year : Int) : daysBeforeMonth year 13 = yearLength year := by
  simp only [daysBeforeMonth, monthLength, yearLength]
  split
  all_goals rfl

namespace Date

/-- **The year of a day holds it.** -/
theorem yearOfDay_spec (day : Int) :
    daysBeforeYear (yearOfDay day) ≤ day ∧ day < daysBeforeYear (yearOfDay day + 1) := by
  -- the mean length puts the day in its year or in the one before or after
  have hmean := daysBeforeYear_mean
  simp only [yearOfDay]
  split
  · next hlt =>
    have hbefore := hmean (day * 400 / 146097 - 1)
    rw [Int.sub_add_cancel]
    omega
  split
  · next hle =>
    have hafter := hmean (day * 400 / 146097 + 1 + 1)
    omega
  · omega

/-- The month found for a day of a year holds it, and is not after the month it was sought from. -/
theorem monthOfDay_spec (year : Int) (day : Nat) : ∀ month, 0 < month →
    day < daysBeforeMonth year (month + 1) →
      ∃ m d, monthOfDay year day month = (m, d) ∧ 1 ≤ m ∧ m ≤ month ∧ 1 ≤ d ∧
        d ≤ monthLength year m ∧ daysBeforeMonth year m + d = day + 1
  | 0, hpos, _ => absurd hpos (by decide)
  | month + 1, _, hday => by
    rw [monthOfDay]
    split
    · next hle =>
      rw [daysBeforeMonth_succ] at hday
      exact ⟨_, _, rfl, by omega, by omega, by omega, by omega, by omega⟩
    · next hlt =>
      cases month with
      | zero => simp [daysBeforeMonth] at hlt
      | succ month =>
        obtain ⟨m, d, heq, hm, hm', hrest⟩ :=
          monthOfDay_spec year day (month + 1) (by omega) (Nat.not_le.mp hlt)
        exact ⟨m, d, heq, hm, by omega, hrest⟩

/-- The parts of the date of a day. -/
theorem ofDay_spec (day : Int) :
    1 ≤ (ofDay day).month ∧ (ofDay day).month ≤ 12 ∧ 1 ≤ (ofDay day).day ∧
      (ofDay day).day ≤ monthLength (ofDay day).year (ofDay day).month ∧
      daysBeforeYear (ofDay day).year + daysBeforeMonth (ofDay day).year (ofDay day).month +
        (ofDay day).day = day + epochDay + 1 := by
  obtain ⟨hle, hlt⟩ := yearOfDay_spec (day + epochDay)
  rw [daysBeforeYear_succ] at hlt
  obtain ⟨m, d, heq, hm, hm', hd, hd', hsum⟩ :=
    monthOfDay_spec (yearOfDay (day + epochDay))
      (day + epochDay - daysBeforeYear (yearOfDay (day + epochDay))).toNat 12 (by decide)
      (by rw [daysBeforeMonth_thirteen]; omega)
  simp only [ofDay, heq]
  exact ⟨hm, hm', hd, hd', by omega⟩

/-- **The date of a day is a date of the calendar.** -/
theorem isValid_ofDay (day : Int) : (ofDay day).isValid = true := by
  obtain ⟨hm, hm', hd, hd', -⟩ := ofDay_spec day
  exact decide_eq_true ⟨hm, hm', hd, hd'⟩

/-- **The day of the date of a day is that day.** -/
theorem toDay_ofDay (day : Int) : (ofDay day).toDay = day := by
  obtain ⟨-, -, -, -, hsum⟩ := ofDay_spec day
  rw [toDay]
  omega

/-- A month has at most 31 days. -/
theorem monthLength_le (year : Int) (month : Nat) : monthLength year month ≤ 31 := by
  unfold monthLength
  split
  · split <;> decide
  all_goals decide

end Date

end TrackerBoard
