import TrackerBoard.Proofs.Snapshot.Instant
import TrackerBoard.Time.Clock

/-! # The time of day that is shown

In the zone in which a timestamp was written, its instant shows the time of day that stands in the
timestamp (`clockLabel_of_denotes`): a leap second shows as second 60, since it is held on the
second 59 and shows as one more.  The date and the fraction do not show.

An instant counted in milliseconds shows the hours, minutes and seconds that are left of its seconds
when the zone's distance is added and whole days are taken off.  The days are taken off downwards,
also before 1970, so the zone may as well be added to the instant, and whole days do not show.
-/

namespace TrackerBoard

open Digits Json Timestamp

/-- A label shows a time of day: hours, minutes and seconds, each with two digits. -/
def ShowsTime (label : String) (hour minute second : Nat) : Prop :=
  label.toList =
    [(hour / 10).digitChar, (hour % 10).digitChar, ':',
      (minute / 10).digitChar, (minute % 10).digitChar, ':',
      (second / 10).digitChar, (second % 10).digitChar]

/-- A string is a timestamp that gives its time of day in a zone. -/
def IsWrittenIn (s : String) (zone : Zone) : Prop :=
  ∃ f, IsTimestamp s.toList f ∧ f.offset = zone.offset

/-- The time of day as it stands in a timestamp, behind the date. -/
def writtenTime (s : String) : List Char := (s.toList.drop 11).take 8

theorem padded_two {n : Nat} (h : n < 100) :
    padded 2 n = [(n / 10).digitChar, (n % 10).digitChar] := by
  by_cases hsmall : n < 10
  · rw [padded, Nat.toDigits_of_lt_base hsmall, Nat.div_eq_of_lt hsmall, Nat.mod_eq_of_lt hsmall]
    rfl
  · rw [padded, Nat.toDigits_of_base_le (by decide) (Nat.not_lt.mp hsmall),
      Nat.toDigits_of_lt_base (by omega)]
    rfl

namespace Instant

variable {t u : Instant} {zone : Zone}

theorem toList_clockLabel (t : Instant) (zone : Zone) :
    (t.clockLabel zone).toList = clockText (t.secondOfDay zone) (t.nanos / 1000000000) :=
  String.toList_ofList

/-- An instant given in milliseconds is in their second, and in no leap second. -/
theorem second_of_ofMillis? {millis : Int} (h : ofMillis? millis = some t) :
    t.second = millis / 1000 ∧ t.nanos / 1000000000 = 0 := by
  rw [ofMillis?, make?_eq_some_iff] at h
  omega

theorem secondOfDay_lt (t : Instant) (zone : Zone) : t.secondOfDay zone < 86400 := by
  have heq := secondOfDay_eq t zone
  omega

/-- Instants on whole milliseconds show the same when they have the same second of the day. -/
theorem clockLabel_congr {millis millis' : Int} {zone' : Zone} (h : ofMillis? millis = some t)
    (h' : ofMillis? millis' = some u)
    (heq : (millis / 1000 + zone.offset) % 86400 = (millis' / 1000 + zone'.offset) % 86400) :
    t.clockLabel zone = u.clockLabel zone' := by
  obtain ⟨hsecond, hextra⟩ := second_of_ofMillis? h
  obtain ⟨hsecond', hextra'⟩ := second_of_ofMillis? h'
  have hday := secondOfDay_eq t zone
  have hday' := secondOfDay_eq u zone'
  rw [hsecond] at hday
  rw [hsecond'] at hday'
  have hsame : t.secondOfDay zone = u.secondOfDay zone' := by omega
  rw [clockLabel, clockLabel, hextra, hextra', hsame]

/-! ### Instants of timestamps -/

variable {f : Fields}

/-- In the zone of a timestamp the second of the day is that of the clock. -/
theorem secondOfDay_of_denotes (h : f.Denotes t) (hzone : f.offset = zone.offset) :
    t.secondOfDay zone = f.hour * 3600 + f.minute * 60 + min f.second 59 := by
  obtain ⟨⟨day, hday⟩, hhour, hminute, hsecond⟩ := h.isPossible
  have heq := secondOfDay_eq t zone
  rw [h.second day hday, hzone] at heq
  omega

/-- **In the zone of a timestamp its time of day is shown as it is written.** -/
theorem clockLabel_of_denotes (h : f.Denotes t) (hnanos : f.nanos < 1000000000)
    (hzone : f.offset = zone.offset) :
    (t.clockLabel zone).toList = padded 2 f.hour ++ ':' :: padded 2 f.minute ++
      ':' :: padded 2 f.second := by
  obtain ⟨-, hhour, hminute, hsecond⟩ := h.isPossible
  have hextra : t.nanos / 1000000000 = if f.second = 60 then 1 else 0 := by
    rw [h.nanos]
    split
    all_goals omega
  -- the second 60 is the 59 of the clock and the one that is held in the nanoseconds
  have hfields : t.secondOfDay zone / 3600 = f.hour ∧ t.secondOfDay zone / 60 % 60 = f.minute ∧
      t.secondOfDay zone % 60 + t.nanos / 1000000000 = f.second := by
    rw [hextra, secondOfDay_of_denotes h hzone]
    split
    all_goals omega
  rw [toList_clockLabel, clockText, hfields.1, hfields.2.1, hfields.2.2]

end Instant

/-- The time of day stands behind ten characters for the date and one between them. -/
theorem Timestamp.IsTimestamp.writtenTime_eq {s : String} {f : Fields}
    (h : IsTimestamp s.toList f) :
    writtenTime s = padded 2 f.hour ++ ':' :: padded 2 f.minute ++ ':' :: padded 2 f.second := by
  rw [writtenTime]
  generalize s.toList = text at h
  cases h with
  | @intro year month day hour minute second _ _ separator fraction zone hyear hmonth hday hhour
      hminute hsecond =>
    have htwo {n : Nat} (h : n < 10 ^ 2) : (padded 2 n).length = 2 := length_padded (by decide) h
    have hdate : (padded 4 year ++ '-' :: (padded 2 month ++ '-' :: (padded 2 day ++
        [separator]))).length = 11 := by
      simp [length_padded (by decide) hyear, htwo hmonth, htwo hday]
    have htime : (padded 2 hour ++ ':' :: padded 2 minute ++ ':' :: padded 2 second).length = 8 := by
      simp [htwo hhour, htwo hminute, htwo hsecond]
    have htake : (padded 2 hour ++ ':' :: padded 2 minute ++ ':' :: padded 2 second ++
        (fraction ++ zone)).take 8 =
        padded 2 hour ++ ':' :: padded 2 minute ++ ':' :: padded 2 second := List.take_left' htime
    rw [← htake]
    refine congrArg (List.take 8) (Eq.trans (congrArg (List.drop 11) ?_) (List.drop_left' hdate))
    simp

/-- The labels of instants on whole milliseconds. -/
theorem Instant.exists_showsTime {millis : Int} {t : Instant} (h : ofMillis? millis = some t)
    (zone : Zone) : ∃ hour minute second : Nat, hour < 24 ∧ minute < 60 ∧ second < 60 ∧
      hour * 3600 + minute * 60 + second = (millis / 1000 + zone.offset) % 86400 ∧
        ShowsTime (t.clockLabel zone) hour minute second := by
  obtain ⟨hsecond, hextra⟩ := second_of_ofMillis? h
  have hlt := secondOfDay_lt t zone
  have heq := secondOfDay_eq t zone
  rw [hsecond] at heq
  refine ⟨t.secondOfDay zone / 3600, t.secondOfDay zone / 60 % 60, t.secondOfDay zone % 60,
    by omega, by omega, by omega, by omega, ?_⟩
  rw [ShowsTime, toList_clockLabel, clockText, hextra, Nat.add_zero, padded_two (by omega),
    padded_two (by omega), padded_two (by omega)]
  rfl

/-- What the labels of a zone show. -/
structure ShowsTimeOfDay (zone : Zone) : Prop where
  /-- An instant read from a timestamp of the zone shows the time that stands in it. -/
  written : ∀ s t, Field.instant? (.string s) = some t → IsWrittenIn s zone →
    (t.clockLabel zone).toList = writtenTime s
  /-- An instant given in milliseconds shows its seconds in the zone without the whole days. -/
  counted : ∀ millis t, Instant.ofMillis? millis = some t →
    ∃ hour minute second : Nat, hour < 24 ∧ minute < 60 ∧ second < 60 ∧
      hour * 3600 + minute * 60 + second = (millis / 1000 + zone.offset) % 86400 ∧
        ShowsTime (t.clockLabel zone) hour minute second
  /-- Moving the instant by the distance of the zone does the same. -/
  shifted : ∀ millis t u, Instant.ofMillis? millis = some t →
    Instant.ofMillis? (millis + 1000 * zone.offset) = some u →
      t.clockLabel zone = u.clockLabel .utc
  wholeDays : ∀ millis days t u, Instant.ofMillis? millis = some t →
    Instant.ofMillis? (millis + 86400000 * days) = some u → u.clockLabel zone = t.clockLabel zone

/-- **Every string that is read was written in some zone, and the labels of a zone show the time of
day there.** -/
theorem showsTimeOfDay :
    (∀ s t, Field.instant? (.string s) = some t → ∃ zone, IsWrittenIn s zone) ∧
      ∀ zone, ShowsTimeOfDay zone := by
  constructor
  · intro s t hread
    obtain ⟨f, htext, -⟩ := Field.instant?_string_eq_some_iff.mp hread
    obtain ⟨hlower, hupper, -⟩ := htext.isSmall.offset
    exact ⟨⟨f.offset, hlower, hupper⟩, f, htext, rfl⟩
  intro zone
  constructor
  case written =>
    rintro s t hread ⟨f, htext, hzone⟩
    obtain ⟨f', htext', hdenotes⟩ := Field.instant?_string_eq_some_iff.mp hread
    obtain rfl := htext.unique htext'
    rw [htext.writtenTime_eq, Instant.clockLabel_of_denotes hdenotes htext.isSmall.nanos hzone]
  case counted => exact fun millis t hread => Instant.exists_showsTime hread zone
  case shifted =>
    intro millis t u hread hread'
    refine Instant.clockLabel_congr hread hread' ?_
    simp only [Zone.utc]
    omega
  case wholeDays =>
    intro millis days t u hread hread'
    refine Instant.clockLabel_congr hread' hread ?_
    omega

/-- A leap second shows as it is written, in a zone where it is not the last of its day. -/
theorem showsTimeOfDay_leapSecond :
    ∃ t, Field.instant? (.string "2016-12-31 18:59:60.5-05:00") = some t ∧
      (t.clockLabel ⟨-18000, by decide, by decide⟩).toList = "18:59:60".toList := by
  have htext : IsTimestamp "2016-12-31 18:59:60.5-05:00".toList
      ⟨⟨2016, 12, 31⟩, 18, 59, 60, 500000000, -18000⟩ := fields?_eq_some_iff.mp (by rfl)
  obtain ⟨t, hdenotes⟩ := Fields.IsPossible.exists_denotes
    (Fields.isPossible_iff.mpr (by decide)) htext.isSmall
  have hread := Field.instant?_string_eq_some_iff.mpr ⟨_, htext, hdenotes⟩
  have hshown := (showsTimeOfDay.2 ⟨-18000, by decide, by decide⟩).written _ t hread ⟨_, htext, rfl⟩
  exact ⟨t, hread, hshown.trans (by decide +kernel)⟩

end TrackerBoard
