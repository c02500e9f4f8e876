/-!
# Words

Whole numbers as words of 64 bits, if they are in range, and the word nearest to one.
-/

namespace TrackerBoard

/-- The signed word of a whole number. -/
def signedWord? (x : Int) : Option Int64 :=
  if Int64.minValue.toInt ≤ x ∧ x ≤ Int64.maxValue.toInt then some (Int64.ofInt x) else none

/-- A signed word is the word of its value. -/
theorem signedWord?_toInt (n : Int64) : signedWord? n.toInt = some n := by
  rw [signedWord?, if_pos ⟨n.minValue_le_toInt, n.toInt_le⟩, Int64.ofInt_toInt]

theorem signedWord?_eq_some_iff {x : Int} {n : Int64} : signedWord? x = some n ↔ x = n.toInt := by
  constructor
  · intro h
    rw [signedWord?] at h
    split at h
    · next hrange =>
      obtain rfl := Option.some.inj h
      have hmin : Int64.minValue.toInt = -9223372036854775808 := by decide
      have hmax : Int64.maxValue.toInt = 9223372036854775807 := by decide
      rw [Int64.toInt_ofInt_of_le (by omega) (by omega)]
    · exact absurd h (by simp)
  · rintro rfl
    exact signedWord?_toInt n

theorem signedWord?_eq_none_iff {x : Int} :
    signedWord? x = none ↔ x < Int64.minValue.toInt ∨ Int64.maxValue.toInt < x := by
  unfold signedWord?
  by_cases hword : Int64.minValue.toInt ≤ x ∧ x ≤ Int64.maxValue.toInt
  · rw [if_pos hword]
    exact iff_of_false (Option.some_ne_none _) (by omega)
  · rw [if_neg hword]
    exact iff_of_true rfl (by omega)

/-- The natural word of a number. -/
def naturalWord? (n : Nat) : Option UInt64 :=
  if n < UInt64.size then some n.toUInt64 else none

/-- The signed word nearest to a whole number. -/
def nearestWord (x : Int) : Int64 :=
  Int64.ofInt (max Int64.minValue.toInt (min Int64.maxValue.toInt x))

/-- A number beyond the words is cut off at the greatest or the least of them. -/
theorem toInt_nearestWord_eq_max (x : Int) :
    (nearestWord x).toInt = max Int64.minValue.toInt (min Int64.maxValue.toInt x) := by
  have hle : Int64.minValue.toInt ≤ Int64.maxValue.toInt := by decide
  have hlt : Int64.maxValue.toInt < 2 ^ 63 := by decide
  exact Int64.toInt_ofInt_of_le (Int.le_max_left ..)
    (Int.lt_of_le_of_lt (Int.max_le.mpr ⟨hle, Int.min_le_left ..⟩) hlt)

/-- A number in range is its own nearest word. -/
theorem toInt_nearestWord {x : Int} (hlow : Int64.minValue.toInt ≤ x)
    (hhigh : x ≤ Int64.maxValue.toInt) : (nearestWord x).toInt = x := by
  rw [toInt_nearestWord_eq_max, Int.min_eq_right hhigh, Int.max_eq_right hlow]

/-- The natural word nearest to a whole number. -/
def nearestNaturalWord (x : Int) : UInt64 := (min x.toNat (UInt64.size - 1)).toUInt64

theorem toNat_nearestNaturalWord {x : Int} (h : x.toNat < UInt64.size) :
    (nearestNaturalWord x).toNat = x.toNat := by
  rw [nearestNaturalWord, Nat.min_eq_left (Nat.le_sub_one_of_lt h)]
  exact Nat.mod_eq_of_lt h

end TrackerBoard
