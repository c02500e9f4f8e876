import TrackerBoard.Proofs.Time.Denotation

/-! # Timestamps read back

A written timestamp is read as the instant it was written for when the year has four digits, and
as none otherwise (`read?_print`): a longer year is written behind a sign, which is never read.
A leap second is written as second 60 and read as such, and a fraction has as many digits as it
needs.
-/

namespace TrackerBoard

namespace Instant

/-- The year of an instant in universal time. -/
def year (t : Instant) : Int := (Date.ofDay (t.second / 86400)).year

/-- Whether the year of an instant is written with four digits and no sign. -/
def HasFourDigitYear (t : Instant) : Prop := 0 ≤ t.year ∧ t.year ≤ 9999

instance (t : Instant) : Decidable t.HasFourDigitYear := inferInstanceAs (Decidable (_ ∧ _))

/-- An instant has a second of the day in every zone: its second there, without the whole days. -/
theorem secondOfDay_eq (t : Instant) (zone : Zone) :
    (t.secondOfDay zone : Int) = (t.second + zone.offset) % 86400 :=
  Int.toNat_of_nonneg (Int.emod_nonneg _ (by decide))

theorem secondOfDay_utc (t : Instant) : (t.secondOfDay .utc : Int) = t.second % 86400 := by
  rw [secondOfDay_eq, Zone.utc, Int.add_zero]

end Instant

namespace Timestamp

open Digits

/-- A fraction of at most nine digits is one in billionths. -/
theorem isFraction_padded {width n nanos : Nat} (hwidth : 0 < width) (hnine : width ≤ 9)
    (h : n < 10 ^ width) (hnanos : n * 10 ^ (9 - width) = nanos) :
    IsFraction ('.' :: padded width n) nanos := by
  have hlength := length_padded hwidth h
  have hpow : 10 ^ 9 = 10 ^ (9 - width) * 10 ^ width := by
    rw [← Nat.pow_add, Nat.sub_add_cancel hnine]
  have hvalue : value (padded width n) * 10 ^ 9 / 10 ^ (padded width n).length = nanos := by
    rw [value_padded hwidth h, hlength, hpow, ← Nat.mul_assoc,
      Nat.mul_div_cancel _ (Nat.pow_pos (by decide)), hnanos]
  have hne : padded width n ≠ [] := List.ne_nil_of_length_pos (by omega)
  rw [← hvalue]
  exact .digits hne fun c hc => isSome_digit?_of_mem_padded hc

/-- **The text of a fraction gives it exactly**, however many digits it needs. -/
theorem isFraction_fractionText {nanos : Nat} (h : nanos < 1000000000) :
    IsFraction (fractionText nanos) nanos := by
  rw [fractionText]
  split
  · next hzero =>
    rw [hzero]
    exact .absent
  split
  · next hmillis => exact isFraction_padded (by decide) (by decide) (by omega) (by omega)
  split
  · next hmicros => exact isFraction_padded (by decide) (by decide) (by omega) (by omega)
  · exact isFraction_padded (by decide) (by decide) (by omega) (by omega)

/-- A written timestamp part by part: the year, and the other fields behind it. -/
theorem print_eq (t : Instant) :
    print t = yearText t.year ++ '-' :: (padded 2 (Date.ofDay (t.second / 86400)).month ++
      '-' :: (padded 2 (Date.ofDay (t.second / 86400)).day ++
      'T' :: (padded 2 (t.secondOfDay .utc / 3600) ++
      ':' :: (padded 2 (t.secondOfDay .utc / 60 % 60) ++
      ':' :: (padded 2 (t.secondOfDay .utc % 60 + t.nanos / 1000000000) ++
      (fractionText (t.nanos % 1000000000) ++ ['Z'])))))) := by
  simp only [print, clockText, Instant.year, List.append_assoc, List.cons_append]

/-- The fields that are written for an instant. -/
def fieldsOf (t : Instant) : Fields where
  date := Date.ofDay (t.second / 86400)
  hour := t.secondOfDay .utc / 3600
  minute := t.secondOfDay .utc / 60 % 60
  second := t.secondOfDay .utc % 60 + t.nanos / 1000000000
  nanos := t.nanos % 1000000000
  offset := 0

/-- The fields of an instant denote it; a second 60 is the leap second of its minute. -/
theorem denotes_fieldsOf (t : Instant) : (fieldsOf t).Denotes t := by
  have hsecond := t.secondOfDay_utc
  have hnanos := t.nanos_lt
  have hleap := t.leap
  have hdate := Date.isValid_ofDay (t.second / 86400)
  have htime : t.secondOfDay .utc / 3600 < 24 ∧ t.secondOfDay .utc / 60 % 60 < 60 ∧
      t.secondOfDay .utc % 60 + t.nanos / 1000000000 ≤ 60 := by
    omega
  have hvalid : (fieldsOf t).isValid = true := decide_eq_true ⟨hdate, htime⟩
  refine Fields.denotes_iff.mpr ⟨hvalid, ?_, ?_⟩
  · simp only [fieldsOf, Date.toDay_ofDay]
    omega
  · by_cases hleapSecond : (fieldsOf t).second = 60
    · rw [if_pos hleapSecond]
      simp only [fieldsOf] at hleapSecond ⊢
      omega
    · rw [if_neg hleapSecond]
      simp only [fieldsOf] at hleapSecond ⊢
      omega

/-- A written timestamp with a year of four digits gives the fields of the instant. -/
theorem isTimestamp_print {t : Instant} (h : t.HasFourDigitYear) :
    IsTimestamp (print t) (fieldsOf t) := by
  obtain ⟨hyear, hyear'⟩ := h
  obtain ⟨-, hmonth, -, hday, -⟩ := Date.ofDay_spec (t.second / 86400)
  have hmonthLength := Date.monthLength_le (Date.ofDay (t.second / 86400)).year
    (Date.ofDay (t.second / 86400)).month
  have hsecond := t.secondOfDay_utc
  have hnanos := t.nanos_lt
  have hcast : (t.year.toNat : Int) = (Date.ofDay (t.second / 86400)).year :=
    Int.toNat_of_nonneg hyear
  have hwritten := IsTimestamp.intro (by omega : t.year.toNat < 10 ^ 4)
    (by omega : (Date.ofDay (t.second / 86400)).month < 10 ^ 2)
    (by omega : (Date.ofDay (t.second / 86400)).day < 10 ^ 2)
    (by omega : t.secondOfDay .utc / 3600 < 10 ^ 2)
    (by omega : t.secondOfDay .utc / 60 % 60 < 10 ^ 2)
    (by omega : t.secondOfDay .utc % 60 + t.nanos / 1000000000 < 10 ^ 2)
    (by decide : 'T' ∈ ['T', 't', ' '])
    (isFraction_fractionText (Nat.mod_lt t.nanos (by decide : 1000000000 > 0)))
    (.utc (by decide : 'Z' ∈ ['Z', 'z']))
  rw [hcast] at hwritten
  rw [print_eq, yearText, if_pos ⟨hyear, hyear'⟩]
  exact hwritten

/-- A year behind a sign is not read. -/
theorem read?_print_of_signed {t : Instant} (h : ¬ t.HasFourDigitYear) :
    read? (print t) = none := by
  have hdigits (sign : Char) (hsign : digit? sign = none) (rest : List Char) :
      Digits.read? 4 0 (sign :: rest) = none := by
    rw [Digits.read?, hsign]
  -- the sign stands where the first digit is read
  rw [Instant.HasFourDigitYear] at h
  rw [print_eq, yearText, if_neg h, read?, fields?, List.cons_append]
  split
  · rw [hdigits '-' rfl]
    rfl
  · rw [hdigits '+' rfl]
    rfl

/-- A year of four digits is read back, with all that follows it. -/
theorem read?_print_of_fourDigits {t : Instant} (h : t.HasFourDigitYear) :
    read? (print t) = some t :=
  read?_eq_some_iff.mpr ⟨fieldsOf t, isTimestamp_print h, denotes_fieldsOf t⟩

/-- **A written timestamp is read as its instant, unless its year has a sign.** -/
theorem read?_print (t : Instant) :
    read? (print t) = if t.HasFourDigitYear then some t else none := by
  split
  · next h => exact read?_print_of_fourDigits h
  · next h => exact read?_print_of_signed h

end Timestamp

end TrackerBoard
