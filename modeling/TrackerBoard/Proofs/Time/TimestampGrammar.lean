import Mathlib.Data.List.TakeWhile
import TrackerBoard.Proofs.Text.Digits
import TrackerBoard.Time.Timestamp

/-! # The grammar of timestamps

`IsTimestamp text f` says without a reader that a text has the shape of a timestamp, and which
fields it gives: date and time of day in digits of fixed count, perhaps a fraction of a second, and
the distance from universal time.  Whether the calendar has the date and the clock the time is
another matter.

The reader takes exactly these texts (`fields?_eq_some_iff`).  Of a fraction it keeps what comes to
whole billionths of a second, however many digits there are.
-/

namespace TrackerBoard.Timestamp

open Digits

/-- The text of a fraction of a second, and the whole billionths in it. -/
inductive IsFraction : List Char → Nat → Prop
  | absent : IsFraction [] 0
  | digits {digits : List Char} (hne : digits ≠ [])
      (hdigits : ∀ c ∈ digits, (digit? c).isSome = true) :
      IsFraction ('.' :: digits) (value digits * 10 ^ 9 / 10 ^ digits.length)

/-- Hours and minutes with a colon between them. -/
def hoursText (hours minutes : Nat) : List Char := padded 2 hours ++ ':' :: padded 2 minutes

/-- The text of a distance from universal time, and its seconds, positive to the east. -/
inductive IsOffset : List Char → Int → Prop
  | utc {c : Char} (hletter : c ∈ ['Z', 'z']) : IsOffset [c] 0
  | east {hours minutes : Nat} (hhours : hours < 24) (hminutes : minutes < 60) :
      IsOffset ('+' :: hoursText hours minutes) (hours * 3600 + minutes * 60)
  | west {c : Char} {hours minutes : Nat} (hsign : c ∈ ['-', '−']) (hhours : hours < 24)
      (hminutes : minutes < 60) :
      IsOffset (c :: hoursText hours minutes) (-(hours * 3600 + minutes * 60))

/-- A text has the shape of a timestamp with these fields. -/
inductive IsTimestamp : List Char → Fields → Prop
  | intro {year month day hour minute second nanos : Nat} {offset : Int} {separator : Char}
      {fraction zone : List Char} (hyear : year < 10 ^ 4) (hmonth : month < 10 ^ 2)
      (hday : day < 10 ^ 2) (hhour : hour < 10 ^ 2) (hminute : minute < 10 ^ 2)
      (hsecond : second < 10 ^ 2) (hseparator : separator ∈ ['T', 't', ' '])
      (hfraction : IsFraction fraction nanos) (hzone : IsOffset zone offset) :
      IsTimestamp
        (padded 4 year ++ '-' :: (padded 2 month ++ '-' :: (padded 2 day ++
          separator :: (padded 2 hour ++ ':' :: (padded 2 minute ++ ':' :: (padded 2 second ++
          (fraction ++ zone)))))))
        ⟨⟨year, month, day⟩, hour, minute, second, nanos, offset⟩

variable {text rest : List Char}

theorem skip?_eq_some_iff {allowed : List Char} :
    skip? allowed text = some rest ↔ ∃ c ∈ allowed, text = c :: rest := by
  constructor
  · intro h
    cases text with
    | nil => cases h
    | cons c text =>
      rw [skip?] at h
      split at h
      · next hmem => exact ⟨c, hmem, congrArg (c :: ·) (Option.some.inj h)⟩
      · cases h
  · rintro ⟨c, hmem, rfl⟩
    exact if_pos hmem

/-! ### Fractions -/

/-- The digits of a fraction are read up to the first other character. -/
theorem fraction?_append {digits : List Char} (hne : digits ≠ [])
    (hdigits : ∀ c ∈ digits, (digit? c).isSome = true)
    (hrest : ∀ c ∈ rest.head?, digit? c = none) :
    fraction? (digits ++ rest) = some (value digits * 10 ^ 9 / 10 ^ digits.length, rest) := by
  have hnone : rest.takeWhile (fun c => (digit? c).isSome) = [] := by
    cases rest with
    | nil => rfl
    | cons c rest => simp [hrest c rfl]
  have htake : (digits ++ rest).takeWhile (fun c => (digit? c).isSome) = digits := by
    rw [List.takeWhile_append_of_pos hdigits, hnone, List.append_nil]
  simp only [fraction?, htake, if_neg hne, value_take_append, List.drop_left]

theorem exists_digits_of_fraction? {nanos : Nat} (h : fraction? text = some (nanos, rest)) :
    ∃ digits, text = digits ++ rest ∧ IsFraction ('.' :: digits) nanos := by
  rw [fraction?] at h
  split at h
  · cases h
  · next hne =>
    simp only [value_take_append, Option.some.injEq, Prod.mk.injEq] at h
    obtain ⟨rfl, rfl⟩ := h
    have hprefix := List.takeWhile_prefix (l := text) fun c => (digit? c).isSome
    refine ⟨_, (List.prefix_iff_eq_append.mp hprefix).symm, .digits hne ?_⟩
    intro c hc
    exact List.mem_takeWhile_imp (p := fun c => (digit? c).isSome) hc

theorem exists_fraction_of_optionalFraction? {nanos : Nat}
    (h : optionalFraction? text = some (nanos, rest)) :
    ∃ fraction, text = fraction ++ rest ∧ IsFraction fraction nanos := by
  unfold optionalFraction? at h
  split at h
  · obtain ⟨digits, rfl, hfraction⟩ := exists_digits_of_fraction? h
    exact ⟨_, rfl, hfraction⟩
  · obtain ⟨rfl, rfl⟩ := Prod.mk.inj (Option.some.inj h)
    exact ⟨[], rfl, .absent⟩

/-- A fraction is read when neither a point nor a digit follows it. -/
theorem IsFraction.read {fraction : List Char} {nanos : Nat} (h : IsFraction fraction nanos)
    (hrest : ∀ c ∈ rest.head?, c ≠ '.' ∧ digit? c = none) :
    optionalFraction? (fraction ++ rest) = some (nanos, rest) := by
  cases h with
  | absent =>
    unfold optionalFraction?
    split
    · next text heq =>
      rw [List.nil_append] at heq
      exact absurd rfl (hrest '.' (by rw [heq]; rfl)).1
    · rfl
  | digits hne hdigits =>
    rw [List.cons_append, optionalFraction?]
    exact fraction?_append hne hdigits fun c hc => (hrest c hc).2

/-! ### Distances from universal time -/

theorem distance?_eq_some_iff {seconds : Nat} : distance? text = some (seconds, rest) ↔
    ∃ hours minutes, hours < 24 ∧ minutes < 60 ∧ text = hoursText hours minutes ++ rest ∧
      seconds = hours * 3600 + minutes * 60 := by
  constructor
  · intro h
    obtain ⟨⟨hours, text₁⟩, hhours, h⟩ := Option.bind_eq_some_iff.mp h
    obtain ⟨text₂, hcolon, h⟩ := Option.bind_eq_some_iff.mp h
    obtain ⟨⟨minutes, text₃⟩, hminutes, h⟩ := Option.bind_eq_some_iff.mp h
    dsimp only at h
    split at h
    · next hvalid =>
      obtain ⟨rfl, rfl⟩ := Prod.mk.inj (Option.some.inj h)
      obtain ⟨-, rfl⟩ := (read?_eq_some_iff (by decide)).mp hhours
      obtain ⟨c, hc, rfl⟩ := skip?_eq_some_iff.mp hcolon
      obtain rfl := List.mem_singleton.mp hc
      obtain ⟨-, rfl⟩ := (read?_eq_some_iff (by decide)).mp hminutes
      refine ⟨hours, minutes, hvalid.1, hvalid.2, ?_, rfl⟩
      rw [hoursText, List.append_assoc, List.cons_append]
    · cases h
  · rintro ⟨hours, minutes, hhours, hminutes, rfl, rfl⟩
    rw [hoursText, List.append_assoc, List.cons_append]
    refine Option.bind_eq_some_iff.mpr ⟨_, read?_padded (by decide) (by omega) _, ?_⟩
    refine Option.bind_eq_some_iff.mpr ⟨_, skip?_eq_some_iff.mpr ⟨':', by decide, rfl⟩, ?_⟩
    refine Option.bind_eq_some_iff.mpr ⟨_, read?_padded (by decide) (by omega) _, ?_⟩
    exact if_pos ⟨hhours, hminutes⟩

/-- A distance behind a sign that gives it a direction. -/
theorem map_distance?_eq_some_iff (direction : Nat → Int) {offset : Int} :
    (distance? text).map (fun (seconds, text) => (direction seconds, text)) = some (offset, rest) ↔
      ∃ hours minutes, hours < 24 ∧ minutes < 60 ∧ text = hoursText hours minutes ++ rest ∧
        offset = direction (hours * 3600 + minutes * 60) := by
  rw [Option.map_eq_some_iff]
  constructor
  · rintro ⟨⟨seconds, back⟩, hdistance, heq⟩
    obtain ⟨rfl, rfl⟩ := Prod.mk.inj heq
    obtain ⟨hours, minutes, hhours, hminutes, rfl, rfl⟩ := distance?_eq_some_iff.mp hdistance
    exact ⟨hours, minutes, hhours, hminutes, rfl, rfl⟩
  · rintro ⟨hours, minutes, hhours, hminutes, rfl, rfl⟩
    exact ⟨_, distance?_eq_some_iff.mpr ⟨hours, minutes, hhours, hminutes, rfl, rfl⟩, rfl⟩

theorem offset?_eq_some_iff {offset : Int} : offset? text = some (offset, rest) ↔
    ∃ zone, text = zone ++ rest ∧ IsOffset zone offset := by
  let east (seconds : Nat) : Int := seconds
  let west (seconds : Nat) : Int := -seconds
  constructor
  · intro h
    unfold offset? at h
    split at h
    · obtain ⟨rfl, rfl⟩ := Prod.mk.inj (Option.some.inj h)
      exact ⟨['Z'], rfl, .utc (by decide)⟩
    · obtain ⟨rfl, rfl⟩ := Prod.mk.inj (Option.some.inj h)
      exact ⟨['z'], rfl, .utc (by decide)⟩
    · obtain ⟨hours, minutes, hhours, hminutes, rfl, rfl⟩ := (map_distance?_eq_some_iff east).mp h
      exact ⟨_, rfl, .east hhours hminutes⟩
    · obtain ⟨hours, minutes, hhours, hminutes, rfl, rfl⟩ := (map_distance?_eq_some_iff west).mp h
      exact ⟨_, rfl, .west (by decide) hhours hminutes⟩
    · obtain ⟨hours, minutes, hhours, hminutes, rfl, rfl⟩ := (map_distance?_eq_some_iff west).mp h
      exact ⟨_, rfl, .west (by decide) hhours hminutes⟩
    · cases h
  · rintro ⟨zone, rfl, hzone⟩
    cases hzone with
    | @utc c hletter =>
      have hcases : c = 'Z' ∨ c = 'z' := by simpa using hletter
      rcases hcases with rfl | rfl
      · rfl
      · rfl
    | @east hours minutes hhours hminutes =>
      exact (map_distance?_eq_some_iff east).mpr ⟨hours, minutes, hhours, hminutes, rfl, rfl⟩
    | @west c hours minutes hsign hhours hminutes =>
      have hcases : c = '-' ∨ c = '−' := by simpa using hsign
      rcases hcases with rfl | rfl
      · exact (map_distance?_eq_some_iff west).mpr ⟨hours, minutes, hhours, hminutes, rfl, rfl⟩
      · exact (map_distance?_eq_some_iff west).mpr ⟨hours, minutes, hhours, hminutes, rfl, rfl⟩

/-- A distance starts with a letter or a sign. -/
theorem IsOffset.head? {zone : List Char} {offset : Int} (h : IsOffset zone offset) :
    ∀ c ∈ zone.head?, c ≠ '.' ∧ digit? c = none := by
  intro c hc
  cases h with
  | @utc letter hletter =>
    obtain rfl := Option.some.inj hc
    have hcases : letter = 'Z' ∨ letter = 'z' := by simpa using hletter
    rcases hcases with rfl | rfl
    all_goals exact ⟨by decide, rfl⟩
  | east hhours hminutes =>
    obtain rfl := Option.some.inj hc
    exact ⟨by decide, rfl⟩
  | @west sign hours minutes hsign hhours hminutes =>
    obtain rfl := Option.some.inj hc
    have hcases : sign = '-' ∨ sign = '−' := by simpa using hsign
    rcases hcases with rfl | rfl
    all_goals exact ⟨by decide, rfl⟩

/-! ### Timestamps -/

/-- **The reader takes exactly the texts with the shape of a timestamp**, and their fields. -/
theorem fields?_eq_some_iff {f : Fields} : fields? text = some f ↔ IsTimestamp text f := by
  constructor
  · intro h
    obtain ⟨⟨year, text₁⟩, hyear, h⟩ := Option.bind_eq_some_iff.mp h
    obtain ⟨text₂, hdash, h⟩ := Option.bind_eq_some_iff.mp h
    obtain ⟨⟨month, text₃⟩, hmonth, h⟩ := Option.bind_eq_some_iff.mp h
    obtain ⟨text₄, hdash', h⟩ := Option.bind_eq_some_iff.mp h
    obtain ⟨⟨day, text₅⟩, hday, h⟩ := Option.bind_eq_some_iff.mp h
    obtain ⟨text₆, hseparator, h⟩ := Option.bind_eq_some_iff.mp h
    obtain ⟨⟨hour, text₇⟩, hhour, h⟩ := Option.bind_eq_some_iff.mp h
    obtain ⟨text₈, hcolon, h⟩ := Option.bind_eq_some_iff.mp h
    obtain ⟨⟨minute, text₉⟩, hminute, h⟩ := Option.bind_eq_some_iff.mp h
    obtain ⟨text₁₀, hcolon', h⟩ := Option.bind_eq_some_iff.mp h
    obtain ⟨⟨second, text₁₁⟩, hsecond, h⟩ := Option.bind_eq_some_iff.mp h
    obtain ⟨⟨nanos, text₁₂⟩, hnanos, h⟩ := Option.bind_eq_some_iff.mp h
    obtain ⟨⟨offset, text₁₃⟩, hoffset, h⟩ := Option.bind_eq_some_iff.mp h
    dsimp only at h
    split at h
    · next hend =>
      subst hend
      obtain rfl := Option.some.inj h
      -- from the front, each part that was read is put in its place in the text
      obtain ⟨hyear', rfl⟩ := (read?_eq_some_iff (by decide)).mp hyear
      obtain ⟨_, hc₁, rfl⟩ := skip?_eq_some_iff.mp hdash
      obtain rfl := List.mem_singleton.mp hc₁
      obtain ⟨hmonth', rfl⟩ := (read?_eq_some_iff (by decide)).mp hmonth
      obtain ⟨_, hc₂, rfl⟩ := skip?_eq_some_iff.mp hdash'
      obtain rfl := List.mem_singleton.mp hc₂
      obtain ⟨hday', rfl⟩ := (read?_eq_some_iff (by decide)).mp hday
      obtain ⟨separator, hseparator', rfl⟩ := skip?_eq_some_iff.mp hseparator
      obtain ⟨hhour', rfl⟩ := (read?_eq_some_iff (by decide)).mp hhour
      obtain ⟨_, hc₃, rfl⟩ := skip?_eq_some_iff.mp hcolon
      obtain rfl := List.mem_singleton.mp hc₃
      obtain ⟨hminute', rfl⟩ := (read?_eq_some_iff (by decide)).mp hminute
      obtain ⟨_, hc₄, rfl⟩ := skip?_eq_some_iff.mp hcolon'
      obtain rfl := List.mem_singleton.mp hc₄
      obtain ⟨hsecond', rfl⟩ := (read?_eq_some_iff (by decide)).mp hsecond
      obtain ⟨fraction, rfl, hfraction⟩ := exists_fraction_of_optionalFraction? hnanos
      obtain ⟨zone, rfl, hzone⟩ := offset?_eq_some_iff.mp hoffset
      rw [List.append_nil]
      exact .intro hyear' hmonth' hday' hhour' hminute' hsecond' hseparator' hfraction hzone
    · cases h
  · intro h
    cases h with
    | intro hyear hmonth hday hhour hminute hsecond hseparator hfraction hzone =>
      have hdash (rest : List Char) : skip? ['-'] ('-' :: rest) = some rest :=
        skip?_eq_some_iff.mpr ⟨_, by decide, rfl⟩
      have hcolon (rest : List Char) : skip? [':'] (':' :: rest) = some rest :=
        skip?_eq_some_iff.mpr ⟨_, by decide, rfl⟩
      have htwo {n : Nat} (hn : n < 10 ^ 2) (rest : List Char) :
          Digits.read? 2 0 (padded 2 n ++ rest) = some (n, rest) := read?_padded (by decide) hn rest
      refine Option.bind_eq_some_iff.mpr ⟨_, read?_padded (by decide) hyear _, ?_⟩
      refine Option.bind_eq_some_iff.mpr ⟨_, hdash _, ?_⟩
      refine Option.bind_eq_some_iff.mpr ⟨_, htwo hmonth _, ?_⟩
      refine Option.bind_eq_some_iff.mpr ⟨_, hdash _, ?_⟩
      refine Option.bind_eq_some_iff.mpr ⟨_, htwo hday _, ?_⟩
      refine Option.bind_eq_some_iff.mpr ⟨_, skip?_eq_some_iff.mpr ⟨_, hseparator, rfl⟩, ?_⟩
      refine Option.bind_eq_some_iff.mpr ⟨_, htwo hhour _, ?_⟩
      refine Option.bind_eq_some_iff.mpr ⟨_, hcolon _, ?_⟩
      refine Option.bind_eq_some_iff.mpr ⟨_, htwo hminute _, ?_⟩
      refine Option.bind_eq_some_iff.mpr ⟨_, hcolon _, ?_⟩
      refine Option.bind_eq_some_iff.mpr ⟨_, htwo hsecond _, ?_⟩
      refine Option.bind_eq_some_iff.mpr ⟨_, hfraction.read hzone.head?, ?_⟩
      have hoffset := offset?_eq_some_iff.mpr ⟨_, (List.append_nil _).symm, hzone⟩
      exact Option.bind_eq_some_iff.mpr ⟨_, hoffset, if_pos rfl⟩

/-- A text gives its fields in one way. -/
theorem IsTimestamp.unique {f f' : Fields} (h : IsTimestamp text f) (h' : IsTimestamp text f') :
    f = f' :=
  Option.some.inj ((fields?_eq_some_iff.mpr h).symm.trans (fields?_eq_some_iff.mpr h'))

end TrackerBoard.Timestamp
