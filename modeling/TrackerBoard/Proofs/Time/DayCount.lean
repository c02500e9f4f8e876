import Mathlib.Data.Int.Basic
import TrackerBoard.Proofs.Time.Calendar

/-! # Days counted one by one

`IsDay d n` says without any formula that a date is the day `n`: 1 January 1970 is the day 0, and
the number goes up by one from each date to the next and down by one to the one before.  A date is
reached in this way exactly when the calendar has it, and `toDay` is the number it is reached with
(`isDay_iff`).

That a date of the calendar is reached is shown from the first days: of a month from that of its
year, and of a year from that of 1970, onwards and backwards.
-/

namespace TrackerBoard

theorem monthLength_pos (year : Int) (month : Nat) : 0 < monthLength year month := by
  unfold monthLength
  split
  · split <;> decide
  all_goals decide

theorem daysBeforeMonth_one (year : Int) : daysBeforeMonth year 1 = 0 := rfl

namespace Date

/-- The date of the day after. -/
def next (d : Date) : Date :=
  if d.day < monthLength d.year d.month then ⟨d.year, d.month, d.day + 1⟩
  else if d.month < 12 then ⟨d.year, d.month + 1, 1⟩
  else ⟨d.year + 1, 1, 1⟩

/-- The date of the day before. -/
def previous (d : Date) : Date :=
  if 1 < d.day then ⟨d.year, d.month, d.day - 1⟩
  else if 1 < d.month then ⟨d.year, d.month - 1, monthLength d.year (d.month - 1)⟩
  else ⟨d.year - 1, 12, monthLength (d.year - 1) 12⟩

/-- A date is some number of days after 1 January 1970, counted one by one in either direction. -/
inductive IsDay : Date → Int → Prop
  | epoch : IsDay ⟨1970, 1, 1⟩ 0
  | next {d : Date} {n : Int} (h : IsDay d n) : IsDay d.next (n + 1)
  | previous {d : Date} {n : Int} (h : IsDay d n) : IsDay d.previous (n - 1)

variable {d : Date} {n : Int} {year : Int} {month day : Nat}

theorem isValid_mk_iff : isValid ⟨year, month, day⟩ = true ↔
    1 ≤ month ∧ month ≤ 12 ∧ 1 ≤ day ∧ day ≤ monthLength year month := by
  rw [isValid, decide_eq_true_iff]

/-- The months of a year fill it, the last one too. -/
theorem daysBeforeMonth_december (year : Int) :
    daysBeforeMonth year 12 + monthLength year 12 = yearLength year :=
  daysBeforeMonth_thirteen year

theorem next_of_lt (h : day < monthLength year month) :
    next ⟨year, month, day⟩ = ⟨year, month, day + 1⟩ := if_pos h

theorem next_lastDay (h : month < 12) :
    next ⟨year, month, monthLength year month⟩ = ⟨year, month + 1, 1⟩ := by
  rw [next, if_neg (Nat.lt_irrefl _), if_pos h]

theorem next_december (year : Int) :
    next ⟨year, 12, monthLength year 12⟩ = ⟨year + 1, 1, 1⟩ := by
  rw [next, if_neg (Nat.lt_irrefl _), if_neg (Nat.lt_irrefl _)]

/-- A date of the calendar is followed by another day of its month, or it is the last day of its
month, or of its year. -/
theorem exists_of_isValid (h : d.isValid = true) :
    ∃ year month day, 1 ≤ month ∧ month ≤ 12 ∧ 1 ≤ day ∧ d = ⟨year, month, day⟩ ∧
      (day < monthLength year month ∨
        day = monthLength year month ∧ (month < 12 ∨ month = 12)) := by
  obtain ⟨year, month, day⟩ := d
  obtain ⟨hmonth, hmonth', hday, hday'⟩ := isValid_mk_iff.mp h
  exact ⟨year, month, day, hmonth, hmonth', hday, rfl, by omega⟩

/-- The calendar has the day after each of its dates, and it is one day later. -/
theorem next_spec (h : d.isValid = true) : d.next.isValid = true ∧ d.next.toDay = d.toDay + 1 := by
  obtain ⟨year, month, day, hmonth, hmonth', hday, rfl, hlt | ⟨rfl, hlt | rfl⟩⟩ :=
    exists_of_isValid h
  · rw [next_of_lt hlt]
    refine ⟨isValid_mk_iff.mpr ⟨hmonth, hmonth', Nat.succ_pos day, hlt⟩, ?_⟩
    simp only [toDay]
    omega
  · have hlength := monthLength_pos year (month + 1)
    obtain ⟨month, rfl⟩ := Nat.exists_eq_add_of_le' hmonth
    rw [next_lastDay hlt]
    refine ⟨isValid_mk_iff.mpr ⟨Nat.succ_pos _, hlt, Nat.le_refl 1, hlength⟩, ?_⟩
    simp only [toDay, daysBeforeMonth_succ]
    omega
  · have hyear := daysBeforeMonth_december year
    rw [next_december]
    refine ⟨isValid_mk_iff.mpr ⟨by decide, by decide, Nat.le_refl 1, monthLength_pos _ _⟩, ?_⟩
    simp only [toDay, daysBeforeYear_succ, daysBeforeMonth_one]
    omega

/-- The day before the day after. -/
theorem previous_next (h : d.isValid = true) : d.next.previous = d := by
  obtain ⟨year, month, day, hmonth, hmonth', hday, rfl, hlt | ⟨rfl, hlt | rfl⟩⟩ :=
    exists_of_isValid h
  · rw [next_of_lt hlt, previous, if_pos (Nat.lt_add_of_pos_left hday)]
    rfl
  · rw [next_lastDay hlt, previous, if_neg (Nat.lt_irrefl 1),
      if_pos (Nat.lt_add_of_pos_left hmonth)]
    rfl
  · rw [next_december, previous, if_neg (Nat.lt_irrefl 1), if_neg (Nat.lt_irrefl 1),
      Int.add_sub_cancel]

/-- The calendar has the day before each of its dates, and that date is the day after it. -/
theorem previous_spec (h : d.isValid = true) : d.previous.isValid = true ∧ d.previous.next = d := by
  obtain ⟨year, month, day⟩ := d
  obtain ⟨hmonth, hmonth', hday, hday'⟩ := isValid_mk_iff.mp h
  simp only [previous]
  split
  · next hlt =>
    obtain ⟨day, rfl⟩ := Nat.exists_eq_add_of_le' hday
    refine ⟨isValid_mk_iff.mpr ⟨hmonth, hmonth', by omega, by omega⟩, ?_⟩
    exact next_of_lt hday'
  split
  · next hfirst hlt =>
    obtain ⟨month, rfl⟩ := Nat.exists_eq_add_of_le' hmonth
    obtain rfl : day = 1 := by omega
    refine ⟨isValid_mk_iff.mpr ⟨by omega, by omega, monthLength_pos _ _, Nat.le_refl _⟩, ?_⟩
    exact next_lastDay hmonth'
  · next hfirst hjanuary =>
    obtain rfl : month = 1 := by omega
    obtain rfl : day = 1 := by omega
    refine ⟨isValid_mk_iff.mpr ⟨by decide, by decide, monthLength_pos _ _, Nat.le_refl _⟩, ?_⟩
    rw [next_december, Int.sub_add_cancel]

theorem toDay_previous (h : d.isValid = true) : d.previous.toDay = d.toDay - 1 := by
  obtain ⟨hvalid, hnext⟩ := previous_spec h
  have hday := (next_spec hvalid).2
  rw [hnext] at hday
  omega

/-- A date that is reached is a date of the calendar, and its number is the day's. -/
theorem IsDay.spec (h : IsDay d n) : d.isValid = true ∧ d.toDay = n := by
  induction h with
  | epoch => decide
  | next h ih =>
    obtain ⟨hvalid, rfl⟩ := ih
    exact next_spec hvalid
  | previous h ih =>
    obtain ⟨hvalid, rfl⟩ := ih
    exact ⟨(previous_spec hvalid).1, toDay_previous hvalid⟩

/-- Of two consecutive dates both are reached or none. -/
theorem isDay_next_iff (h : d.isValid = true) : IsDay d.next (n + 1) ↔ IsDay d n := by
  constructor
  · intro hnext
    have hprevious := hnext.previous
    rwa [previous_next h, Int.add_sub_cancel] at hprevious
  · exact IsDay.next

/-- The days of a month are reached with its first day. -/
theorem isDay_day_iff (hmonth : 1 ≤ month) (hmonth' : month ≤ 12) : ∀ day < monthLength year month,
    (IsDay ⟨year, month, day + 1⟩ (n + day) ↔ IsDay ⟨year, month, 1⟩ n)
  | 0, _ => by rw [Int.natCast_zero, Int.add_zero]
  | day + 1, hday => by
    have hvalid : isValid ⟨year, month, day + 1⟩ = true :=
      isValid_mk_iff.mpr ⟨hmonth, hmonth', Nat.succ_pos day, Nat.le_of_lt hday⟩
    have hnext := isDay_next_iff (n := n + day) hvalid
    rw [next_of_lt hday, Int.add_assoc] at hnext
    exact hnext.trans (isDay_day_iff hmonth hmonth' day (Nat.lt_of_succ_lt hday))

/-- The first day behind a month is reached with the first day of the month. -/
theorem isDay_behind_iff (year : Int) {month : Nat} (hmonth : 1 ≤ month) (hmonth' : month ≤ 12) :
    IsDay (next ⟨year, month, monthLength year month⟩) (n + monthLength year month) ↔
      IsDay ⟨year, month, 1⟩ n := by
  have hpos := monthLength_pos year month
  have hvalid : isValid ⟨year, month, monthLength year month⟩ = true :=
    isValid_mk_iff.mpr ⟨hmonth, hmonth', hpos, Nat.le_refl _⟩
  have hlast := isDay_day_iff (n := n) hmonth hmonth' _ (Nat.sub_one_lt_of_lt hpos)
  rw [Nat.sub_add_cancel hpos] at hlast
  have hnext := isDay_next_iff (n := n + (monthLength year month - 1 : Nat)) hvalid
  rw [Int.add_assoc, ← Int.natCast_succ, Nat.succ_eq_add_one, Nat.sub_add_cancel hpos] at hnext
  exact hnext.trans hlast

/-- The first days of the months of a year are reached with that of the year. -/
theorem isDay_month_iff : ∀ month < 12,
    (IsDay ⟨year, month + 1, 1⟩ (n + daysBeforeMonth year (month + 1)) ↔ IsDay ⟨year, 1, 1⟩ n)
  | 0, _ => by rw [daysBeforeMonth_one, Int.natCast_zero, Int.add_zero]
  | month + 1, hmonth => by
    have hbehind := isDay_behind_iff (n := n + daysBeforeMonth year (month + 1)) year
      (Nat.succ_pos month) (Nat.le_of_lt hmonth)
    rw [next_lastDay hmonth, Int.add_assoc, ← Int.natCast_add, ← daysBeforeMonth_succ] at hbehind
    exact hbehind.trans (isDay_month_iff month (Nat.lt_of_succ_lt hmonth))

/-- The first days of two consecutive years are both reached or none. -/
theorem isDay_year_iff : IsDay ⟨year + 1, 1, 1⟩ (daysBeforeYear (year + 1) - epochDay) ↔
    IsDay ⟨year, 1, 1⟩ (daysBeforeYear year - epochDay) := by
  have hbehind := isDay_behind_iff (n := daysBeforeYear year - epochDay + daysBeforeMonth year 12)
    year (by decide : 1 ≤ 12) (by decide)
  have hyear : daysBeforeYear year - epochDay + daysBeforeMonth year 12 + monthLength year 12 =
      daysBeforeYear (year + 1) - epochDay := by
    rw [daysBeforeYear_succ, ← daysBeforeMonth_december]
    omega
  rw [next_december, hyear] at hbehind
  exact hbehind.trans (isDay_month_iff 11 (by decide))

/-- The first day of every year is reached. -/
theorem isDay_firstDay (year : Int) : IsDay ⟨year, 1, 1⟩ (daysBeforeYear year - epochDay) := by
  -- the step between two years is an equivalence, so it serves both directions from 1970
  induction year using Int.inductionOn' (b := 1970) with
  | zero => exact .epoch
  | succ year _ ih => exact isDay_year_iff.mpr ih
  | pred year _ ih =>
    refine isDay_year_iff.mp ?_
    rwa [Int.sub_add_cancel]

/-- **The days counted one by one are the days of the calendar**, with their numbers. -/
theorem isDay_iff : IsDay d n ↔ d.isValid = true ∧ d.toDay = n := by
  refine ⟨IsDay.spec, ?_⟩
  rintro ⟨hvalid, rfl⟩
  obtain ⟨year, month, day⟩ := d
  obtain ⟨hmonth, hmonth', hday, hday'⟩ := isValid_mk_iff.mp hvalid
  obtain ⟨month, rfl⟩ := Nat.exists_eq_add_of_le' hmonth
  obtain ⟨day, rfl⟩ := Nat.exists_eq_add_of_le' hday
  have hfirst := (isDay_month_iff month hmonth').mpr (isDay_firstDay year)
  have hreached := (isDay_day_iff hmonth hmonth' day hday').mpr hfirst
  have hsum : daysBeforeYear year - epochDay + daysBeforeMonth year (month + 1) + day =
      toDay ⟨year, month + 1, day + 1⟩ := by
    simp only [toDay]
    omega
  rwa [hsum] at hreached

end Date

end TrackerBoard
