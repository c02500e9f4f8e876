import TrackerBoard.Json.Printer
import TrackerBoard.Proofs.Json.Run
import TrackerBoard.Proofs.Text.Utf8

/-! # Whole numbers read back

The decimal digits of a number of 64 bits are gathered without leaving one out, so a whole number
is read as it was written (`run_toDigits`).  A numeral that was read to its last digit goes on with
further digits only: any byte that can stand behind a value ends it.
-/

namespace TrackerBoard.Json.Numeral

open Utf8

/-- A whole number without fraction and exponent, read so far. -/
def gathered (isNegative : Bool) (significand : Nat) : Numeral :=
  ⟨.digits, isNegative, significand, 0, false, false, 0⟩

/-- The byte of a digit. -/
def digitByte (d : Nat) : UInt8 := UInt8.ofNat (48 + d)

theorem encode_digitChar {d : Nat} (h : d < 10) (text : List Char) :
    encode (d.digitChar :: text) = digitByte d :: encode text := by
  have hall : ∀ d < 10, String.utf8EncodeChar d.digitChar = [digitByte d] := by decide
  rw [encode_cons, hall d h]
  rfl

theorem digit?_digitByte {d : Nat} (h : d < 10) : digit? (digitByte d) = some d := by
  have hall : ∀ d < 10, digit? (digitByte d) = some d := by decide
  exact hall d h

/-- A digit that fits is gathered. -/
theorem step_digitByte (isNegative : Bool) {significand d : Nat} (hd : d < 10)
    (hfits : significand * 10 + d < UInt64.size) :
    Step (gathered isNegative significand) (digitByte d)
      (gathered isNegative (significand * 10 + d)) := by
  simp [Step, step, gathered, digit?_digitByte hd, integerDigit, gather, Nat.not_le.mpr hfits]

/-- **The digits of a positive number of 64 bits are gathered to that number.** -/
theorem run_toDigits (isNegative : Bool) {n : Nat} (hpos : 0 < n) (hsize : n < UInt64.size) :
    ∃ d rest, encode (Nat.toDigits 10 n) = digitByte d :: rest ∧ 0 < d ∧ d < 10 ∧
      ByteRun Step (gathered isNegative d) rest (gathered isNegative n) := by
  induction n using Nat.strongRecOn with
  | ind n ih =>
    by_cases hn : n < 10
    · rw [Nat.toDigits_of_lt_base hn, encode_digitChar hn]
      exact ⟨n, [], rfl, hpos, hn, .nil _⟩
    · -- the last digit is one more step behind the run of the others
      obtain ⟨d, rest, hencode, hd, hd', hrun⟩ := ih (n / 10) (by omega) (by omega) (by omega)
      have hmod : n % 10 < 10 := Nat.mod_lt n (by decide)
      have hdigits : n / 10 * 10 + n % 10 = n := Nat.div_add_mod' n 10
      rw [Nat.toDigits_of_base_le (by decide) (Nat.not_lt.mp hn), encode_append, hencode,
        encode_digitChar hmod, encode_nil]
      refine ⟨d, rest ++ [digitByte (n % 10)], rfl, hd, hd', hrun.append (.single ?_)⟩
      have hstep := step_digitByte isNegative hmod (by rw [hdigits]; exact hsize)
      rwa [hdigits] at hstep

theorem start?_digitByte {d : Nat} (hpos : 0 < d) (h : d < 10) :
    start? (digitByte d) = some (gathered false d) := by
  have hall : ∀ d < 10, 0 < d → digitByte d ≠ '-'.toUInt8 ∧ digitByte d ≠ '0'.toUInt8 ∧
      ('1'.toUInt8 ≤ digitByte d ∧ digitByte d ≤ '9'.toUInt8) ∧ (digitByte d).toNat - 48 = d := by
    decide
  obtain ⟨hminus, hzero, hdigit, hvalue⟩ := hall d h hpos
  rw [start?, if_neg hminus, if_neg hzero, if_pos hdigit, hvalue, gathered]

/-- The first digit after a minus sign. -/
theorem step_minus {d : Nat} (hpos : 0 < d) (h : d < 10) :
    Step ⟨.sign, true, 0, 0, false, false, 0⟩ (digitByte d) (gathered true d) := by
  rw [Step, step, digit?_digitByte h]
  split
  all_goals simp_all [gathered]

/-- The byte ends a numeral that was read to a digit of its integer part. -/
def EndsWhole (b : UInt8) : Prop :=
  digit? b = none ∧ b ≠ '.'.toUInt8 ∧ b ≠ 'e'.toUInt8 ∧ b ≠ 'E'.toUInt8

theorem afterInteger_eq_none (n : Numeral) {b : UInt8} (h : EndsWhole b) :
    n.afterInteger b = none := by
  rw [afterInteger, if_neg h.2.1, if_neg (not_or.mpr h.2.2)]

/-- Zero is read by itself. -/
def zero : Numeral := ⟨.leadingZero, false, 0, 0, false, false, 0⟩

theorem step_zero {b : UInt8} (h : EndsWhole b) : zero.step b = .ok none := by
  rw [step, h.1]
  exact congrArg Except.ok (afterInteger_eq_none _ h)

theorem step_gathered (isNegative : Bool) (n : Nat) {b : UInt8} (h : EndsWhole b) :
    (gathered isNegative n).step b = .ok none := by
  rw [step, h.1]
  exact congrArg Except.ok (afterInteger_eq_none _ h)

theorem finish_natural (n : UInt64) : (gathered false n.toNat).finish = .ok (.natural n) := by
  simp [finish, gathered, whole]

theorem finish_negative {n : Int64} (h : n.toInt < 0) :
    (gathered true n.toInt.natAbs).finish = .ok (.negative n) := by
  have habs : -(n.toInt.natAbs : Int) = n.toInt := by omega
  have hzero : n ≠ 0 := by rintro rfl; exact absurd h (by decide)
  have hsigned : (signedWord? n.toInt).filter (· ≠ 0) = some n := by
    rw [signedWord?_toInt, Option.filter_some, if_pos (decide_eq_true hzero)]
  simp only [finish, gathered, whole, habs, hsigned]
  rfl

end TrackerBoard.Json.Numeral
