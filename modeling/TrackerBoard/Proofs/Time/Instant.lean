import TrackerBoard.Time.Instant

/-! # Instants counted in milliseconds

An instant that a number of milliseconds stands for has that number (`ofMillis?_eq_some_iff`).  Two
of them are in the order of their numbers, and some seconds before one of them is the instant with a
thousand times as many milliseconds less.  There is an instant some seconds before any other that
is not too close to the earliest one.
-/

namespace TrackerBoard.Instant

/-- The earliest instant. -/
def earliest : Instant := (make? (-8334601228800) 0).get (by decide)

@[simp] theorem second_earliest : earliest.second = -8334601228800 := rfl

@[simp] theorem nanos_earliest : earliest.nanos = 0 := rfl

/-- Whole milliseconds since the start of 1970. -/
def millis (t : Instant) : Int := t.second * 1000 + (t.nanos / 1000000 : Nat)

/-- Some number of milliseconds stands for the instant. -/
def IsWholeMillis (t : Instant) : Prop := ofMillis? t.millis = some t

instance (t : Instant) : Decidable t.IsWholeMillis := inferInstanceAs (Decidable (_ = _))

theorem make?_eq_some_iff {second : Int} {nanos : Nat} {t : Instant} :
    make? second nanos = some t ↔ t.second = second ∧ t.nanos = nanos := by
  unfold make?
  constructor
  · intro h
    split at h
    · cases h
      exact ⟨rfl, rfl⟩
    · cases h
  · rintro ⟨rfl, rfl⟩
    exact dif_pos ⟨t.nanos_lt, t.leap, t.first_le, t.le_last⟩

/-- A number of milliseconds stands for the instant that has it, unless there is a finer part or the
second is a leap second. -/
theorem ofMillis?_eq_some_iff {ms : Int} {t : Instant} :
    ofMillis? ms = some t ↔ t.millis = ms ∧ t.nanos < 1000000000 ∧ t.nanos % 1000000 = 0 := by
  rw [ofMillis?, make?_eq_some_iff, millis]
  omega

theorem isWholeMillis_iff {t : Instant} :
    t.IsWholeMillis ↔ t.nanos < 1000000000 ∧ t.nanos % 1000000 = 0 := by
  rw [IsWholeMillis, ofMillis?_eq_some_iff, and_iff_right rfl]

/-- Instants on whole milliseconds are in the order of these. -/
theorem isUpTo_iff {a b : Instant} (ha : a.IsWholeMillis) (hb : b.IsWholeMillis) :
    a.isUpTo b = true ↔ a.millis ≤ b.millis := by
  rw [isWholeMillis_iff] at ha hb
  rw [isUpTo, decide_eq_true_iff, millis, millis]
  omega

/-- Going back some seconds stays on whole milliseconds. -/
theorem before?_eq_some {t u : Instant} {seconds : Nat} (ht : t.IsWholeMillis)
    (h : t.before? seconds = some u) :
    u.IsWholeMillis ∧ u.millis = t.millis - 1000 * seconds := by
  rw [isWholeMillis_iff] at ht
  -- only a leap second is counted on from the second after it
  rw [before?, if_neg (by omega), make?_eq_some_iff] at h
  rw [isWholeMillis_iff, millis, millis]
  omega

/-- An instant comes after the one some seconds before it, also in a leap second. -/
theorem isUpTo_of_before? {t u : Instant} {seconds : Nat} (hseconds : 0 < seconds)
    (h : t.before? seconds = some u) : t.isUpTo u = false := by
  have hnanos := t.nanos_lt
  rw [isUpTo, decide_eq_false_iff_not]
  by_cases hleapSecond : 1000000000 ≤ t.nanos ∧ 0 < seconds
  · rw [before?, if_pos hleapSecond, make?_eq_some_iff] at h
    omega
  · rw [before?, if_neg hleapSecond, make?_eq_some_iff] at h
    omega

/-- There is an instant some seconds before, unless the earliest one is closer than that. -/
theorem isSome_before? {t : Instant} {seconds : Nat}
    (h : earliest.second + seconds ≤ t.second) : (t.before? seconds).isSome = true := by
  have hlast := t.le_last
  have hnanos := t.nanos_lt
  have hleap := t.leap
  rw [second_earliest] at h
  by_cases hleapSecond : 1000000000 ≤ t.nanos ∧ 0 < seconds
  · rw [before?, if_pos hleapSecond, make?, dif_pos (by omega)]
    rfl
  · have hplain : 1000000000 ≤ t.nanos → seconds = 0 := by omega
    rw [before?, if_neg hleapSecond, make?, dif_pos (by omega)]
    rfl

end TrackerBoard.Instant
