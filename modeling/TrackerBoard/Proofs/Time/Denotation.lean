import TrackerBoard.Proofs.Time.DayCount
import TrackerBoard.Proofs.Time.Instant
import TrackerBoard.Proofs.Time.TimestampGrammar

/-! # What a timestamp denotes

The fields of a timestamp denote an instant by counting (`Fields.Denotes`): the days up to the date
one by one, the time of day, and the distance from universal time taken off.  A second 60 is the
leap second behind the second 59.

Fields denote an instant if there are such a date and such a time of day (`Fields.IsPossible`): it
is in range then, because the year has four digits and the distance is less than a day
(`Fields.IsPossible.exists_denotes`).  A text is read as the instant that its fields denote
(`read?_eq_some_iff`).
-/

namespace TrackerBoard

namespace Timestamp

/-- The date can be reached by counting, and the clock shows the time of day; any minute may have a
second 60. -/
def Fields.IsPossible (f : Fields) : Prop :=
  (∃ day, f.date.IsDay day) ∧ f.hour < 24 ∧ f.minute < 60 ∧ f.second ≤ 60

/-- The fields denote an instant. -/
structure Fields.Denotes (f : Fields) (t : Instant) : Prop where
  isPossible : f.IsPossible
  second : ∀ day, f.date.IsDay day →
    t.second = day * 86400 + f.hour * 3600 + f.minute * 60 + min f.second 59 - f.offset
  nanos : t.nanos = f.nanos + if f.second = 60 then 1000000000 else 0

variable {text : List Char} {f : Fields} {t : Instant}

theorem Fields.isPossible_iff : f.IsPossible ↔ f.isValid = true := by
  simp [IsPossible, isValid, Date.isDay_iff]

theorem daysBeforeMonth_le (year : Int) : ∀ month, daysBeforeMonth year month ≤ 31 * month
  | 0 => Nat.zero_le _
  | 1 => Nat.zero_le _
  | month + 2 => by
    have hbefore := daysBeforeMonth_le year (month + 1)
    have hlength := Date.monthLength_le year (month + 1)
    rw [daysBeforeMonth_succ]
    omega

/-- The fields of a text are small: a year of four digits, less than a second of nanoseconds, and
less than a day of whole minutes from universal time. -/
structure Fields.IsSmall (f : Fields) : Prop where
  year : 0 ≤ f.date.year ∧ f.date.year < 10000
  nanos : f.nanos < 1000000000
  offset : -86400 < f.offset ∧ f.offset < 86400 ∧ f.offset % 60 = 0

theorem IsFraction.lt {nanos : Nat} (h : IsFraction text nanos) : nanos < 1000000000 := by
  cases h with
  | absent => decide
  | @digits digits hne hdigits =>
    rw [Nat.div_lt_iff_lt_mul (Nat.pow_pos (by decide)), Nat.mul_comm]
    exact Nat.mul_lt_mul_of_pos_left (Digits.value_lt digits) (by decide)

theorem IsTimestamp.isSmall (h : IsTimestamp text f) : f.IsSmall := by
  cases h with
  | intro hyear hmonth hday hhour hminute hsecond hseparator hfraction hzone =>
    refine ⟨⟨Int.natCast_nonneg _, by dsimp only; omega⟩, hfraction.lt, ?_⟩
    cases hzone
    all_goals dsimp only; omega

/-- What fields denote, with the number of the day in a formula. -/
theorem Fields.denotes_iff : f.Denotes t ↔ f.isValid = true ∧
    t.second = f.date.toDay * 86400 + f.hour * 3600 + f.minute * 60 + min f.second 59 - f.offset ∧
      t.nanos = f.nanos + if f.second = 60 then 1000000000 else 0 := by
  constructor
  · intro h
    have hvalid := isPossible_iff.mp h.isPossible
    obtain ⟨day, hday⟩ := h.isPossible.1
    obtain ⟨hdate, -⟩ := Date.isDay_iff.mp hday
    exact ⟨hvalid, h.second _ (Date.isDay_iff.mpr ⟨hdate, rfl⟩), h.nanos⟩
  · rintro ⟨hvalid, hsecond, hnanos⟩
    refine ⟨isPossible_iff.mpr hvalid, fun day hday => ?_, hnanos⟩
    obtain ⟨-, rfl⟩ := Date.isDay_iff.mp hday
    exact hsecond

/-- **Fields are taken for the instant that they denote**, and for none if they denote none. -/
theorem Fields.instant?_eq_some_iff : f.instant? = some t ↔ f.Denotes t := by
  rw [denotes_iff, instant?]
  by_cases hvalid : f.isValid = true
  · have hsecond : f.second ≤ 60 := (isPossible_iff.mpr hvalid).2.2.2
    rw [if_pos hvalid, and_iff_right hvalid]
    dsimp only
    by_cases hleap : f.second = 60
    · rw [if_pos hleap, if_pos hleap, Instant.make?_eq_some_iff]
      omega
    · rw [if_neg hleap, if_neg hleap, Instant.make?_eq_some_iff]
      omega
  · rw [if_neg hvalid]
    exact iff_of_false nofun fun h => hvalid h.1

/-- No other instant is denoted by the same fields. -/
theorem Fields.Denotes.unique {u : Instant} (h : f.Denotes t) (h' : f.Denotes u) : t = u :=
  Option.some.inj ((instant?_eq_some_iff.mpr h).symm.trans (instant?_eq_some_iff.mpr h'))

/-- A day of a year of four digits is far from the ends of the range. -/
theorem toDay_mem_of_year {d : Date} (hvalid : d.isValid = true)
    (hyear : 0 ≤ d.year ∧ d.year < 10000) : -719528 ≤ d.toDay ∧ d.toDay ≤ 2933000 := by
  obtain ⟨year, month, day⟩ := d
  obtain ⟨-, hmonth, hpos, hday⟩ := Date.isValid_mk_iff.mp hvalid
  have hmean := daysBeforeYear_mean year
  have hmonths := daysBeforeMonth_le year month
  have hlength := Date.monthLength_le year month
  dsimp only at hyear
  simp only [Date.toDay, epochDay]
  omega

/-- **Possible fields of a text denote an instant**: it is never out of range. -/
theorem Fields.IsPossible.exists_denotes (h : f.IsPossible) (hsmall : f.IsSmall) :
    ∃ t, f.Denotes t := by
  have hvalid := isPossible_iff.mp h
  obtain ⟨⟨day, hday⟩, hhour, hminute, hsecond⟩ := h
  obtain ⟨hyear, hnanos, hoffset⟩ := hsmall
  obtain ⟨hdate, rfl⟩ := Date.isDay_iff.mp hday
  have hrange := toDay_mem_of_year hdate hyear
  suffices hmake : ∃ t, Instant.make?
      (f.date.toDay * 86400 + f.hour * 3600 + f.minute * 60 + min f.second 59 - f.offset)
      (f.nanos + if f.second = 60 then 1000000000 else 0) = some t by
    obtain ⟨t, ht⟩ := hmake
    exact ⟨t, denotes_iff.mpr ⟨hvalid, Instant.make?_eq_some_iff.mp ht⟩⟩
  -- the distance is in whole minutes, so a leap second stays on a second 59
  refine ⟨_, dif_pos ⟨?_, ?_, ?_, ?_⟩⟩
  · split
    all_goals omega
  · split
    all_goals omega
  · omega
  · omega

/-- **A text is read as an instant exactly when it has the shape of a timestamp and denotes it.** -/
theorem read?_eq_some_iff :
    read? text = some t ↔ ∃ f, IsTimestamp text f ∧ f.Denotes t := by
  simp only [read?, Option.bind_eq_some_iff, fields?_eq_some_iff, Fields.instant?_eq_some_iff]

end Timestamp

end TrackerBoard
