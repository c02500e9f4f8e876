import Mathlib
import TrackerBoard.Proofs.Number.Rounding

/-! # Doubles as rational numbers

Every finite double denotes one rational number (`doubleValue?`).  It is read as a whole number
exactly when that number is whole, and then as this number (`whole?_ofFloat_eq_some_iff`), whatever
its sign and size, -0 included; and it is rounded to the whole number nearest to it
(`nearest?_ofFloat`).  A word that is no double itself is rounded past no power of two that it
reaches (`exists_doubleValue?_toFloat`).
-/

namespace TrackerBoard

/-- The number that a double denotes by its sign, its mantissa and its exponent; one that is not
finite denotes none. -/
def doubleValue? (x : Float) : Option ℚ :=
  match x.toModel.unpack with
  | .finite sign mantissa exponent _ => some (sign.apply mantissa * 2 ^ exponent)
  | .zero _ => some 0
  | _ => none

/-- The whole number nearest to a rational one, a half going away from zero. -/
def nearestWhole (q : ℚ) : ℤ := if 0 ≤ q then ⌊q + 1 / 2⌋ else -⌊-q + 1 / 2⌋

namespace Binary64

/-- The number that the parts of a double denote. -/
def rational? : Binary64 → Option ℚ
  | finite isNegative mantissa exponent => some (signed isNegative mantissa * 2 ^ exponent)
  | _ => none

theorem rational?_ofFloat (x : Float) : (ofFloat x).rational? = doubleValue? x := by
  rw [ofFloat_eq, doubleValue?]
  cases x.toModel.unpack with
  | notANumber => rfl
  | infinity sign => rfl
  | zero sign => cases sign <;> simp [ofUnpacked, rational?, isNegative, signed]
  | finite sign mantissa exponent h => cases sign <;> rfl

/-! ### Whole numbers -/

theorem signed_mul (isNegative : Bool) (n unit : ℕ) :
    signed isNegative (n * unit) = signed isNegative n * unit := by
  cases isNegative with
  | false => exact Int.natCast_mul n unit
  | true =>
    calc
      _ = -((n * unit : ℕ) : ℤ) := rfl
      _ = -(n : ℤ) * unit := by rw [Int.natCast_mul, Int.neg_mul]

theorem natAbs_signed (isNegative : Bool) (n : ℕ) : (signed isNegative n).natAbs = n := by
  cases isNegative with
  | false => rfl
  | true => exact Int.natAbs_neg n

theorem mul_zpow_eq_iff (a x : ℤ) (k : ℕ) : (a : ℚ) * 2 ^ (k : ℤ) = x ↔ a * (2 ^ k : ℕ) = x := by
  rw [zpow_natCast]
  exact_mod_cast Iff.rfl

theorem mul_zpow_neg_eq_iff (a x : ℤ) (k : ℕ) :
    (a : ℚ) * 2 ^ (-(k : ℤ)) = x ↔ a = x * (2 ^ k : ℕ) := by
  rw [zpow_neg, zpow_natCast, mul_inv_eq_iff_eq_mul₀ (by positivity)]
  exact_mod_cast Iff.rfl

/-- A number of units is divided by the unit, if nothing is left. -/
theorem signed_eq_mul_iff {isNegative : Bool} {mantissa unit : ℕ} (hunit : 0 < unit) {x : ℤ} :
    signed isNegative mantissa = x * unit ↔
      mantissa % unit = 0 ∧ signed isNegative (mantissa / unit) = x := by
  have hne : (unit : ℤ) ≠ 0 := by omega
  constructor
  · intro h
    have hdvd : unit ∣ mantissa := by
      rw [← natAbs_signed isNegative mantissa, h, Int.natAbs_mul, Int.natAbs_natCast]
      exact Nat.dvd_mul_left ..
    refine ⟨Nat.mod_eq_zero_of_dvd hdvd, Int.eq_of_mul_eq_mul_right hne ?_⟩
    rw [← signed_mul, Nat.div_mul_cancel hdvd, h]
  · rintro ⟨hmod, rfl⟩
    rw [← signed_mul, Nat.div_mul_cancel (Nat.dvd_of_mod_eq_zero hmod)]

/-- The parts of a double are read as the whole number that they denote. -/
theorem whole?_eq_some_iff {d : Binary64} {x : ℤ} :
    d.whole? = some x ↔ d.rational? = some (x : ℚ) := by
  cases d with
  | notANumber => simp [whole?, rational?]
  | infinity isNegative => simp [whole?, rational?]
  | finite isNegative mantissa exponent =>
    rw [whole?, rational?, Option.some.injEq]
    by_cases hexponent : 0 ≤ exponent
    · obtain ⟨k, rfl⟩ := Int.eq_ofNat_of_zero_le hexponent
      rw [if_pos hexponent, Int.natAbs_natCast, Nat.one_shiftLeft, Option.some.injEq,
        mul_zpow_eq_iff, signed_mul]
    · obtain ⟨k, rfl⟩ := Int.exists_eq_neg_ofNat (Int.le_of_not_le hexponent)
      rw [if_neg hexponent, Int.natAbs_neg, Int.natAbs_natCast, Nat.one_shiftLeft,
        mul_zpow_neg_eq_iff, signed_eq_mul_iff (Nat.two_pow_pos k)]
      by_cases hmod : mantissa % 2 ^ k = 0
      · rw [if_pos hmod, Option.some.injEq, and_iff_right hmod]
      · rw [if_neg hmod]
        exact iff_of_false (by simp) fun h => hmod h.1

/-- **A double is read as the whole number that it denotes**, and not if it denotes none. -/
theorem whole?_ofFloat_eq_some_iff {x : Float} {k : ℤ} :
    (ofFloat x).whole? = some k ↔ doubleValue? x = some (k : ℚ) := by
  rw [whole?_eq_some_iff, rational?_ofFloat]

/-! ### Nearest whole numbers -/

theorem nearestWhole_intCast (k : ℤ) : nearestWhole k = k := by
  have hhalf (n : ℤ) : ⌊(n : ℚ) + 1 / 2⌋ = n := by
    rw [Int.floor_intCast_add]
    norm_num
  have hneg : ⌊-(k : ℚ) + 1 / 2⌋ = -k := by exact_mod_cast hhalf (-k)
  rw [nearestWhole, hhalf, hneg, neg_neg]
  exact ite_self k

theorem nearestWhole_neg (q : ℚ) : nearestWhole (-q) = -nearestWhole q := by
  rcases lt_trichotomy q 0 with hneg | rfl | hpos
  · rw [nearestWhole, nearestWhole, if_pos (by linarith), if_neg (by linarith), neg_neg]
  · rw [neg_zero, ← Int.cast_zero, nearestWhole_intCast, neg_zero]
  · rw [nearestWhole, nearestWhole, if_neg (by linarith), if_pos (by linarith), neg_neg]

theorem nearestWhole_div (m : ℕ) {unit : ℕ} (hunit : 0 < unit) :
    nearestWhole (m / unit) = ((2 * m + unit) / (2 * unit) : ℕ) := by
  have hne : (unit : ℚ) ≠ 0 := by exact_mod_cast hunit.ne'
  have hsum : (m : ℚ) / unit + 1 / 2 = ((2 * m + unit : ℕ) : ℚ) / ((2 * unit : ℕ) : ℚ) := by
    push_cast
    field_simp
  rw [nearestWhole, if_pos (by positivity), hsum, Rat.floor_natCast_div_natCast, Int.natCast_div]

/-- The parts of a double are rounded to the whole number nearest to what they denote. -/
theorem nearest?_eq_map (d : Binary64) : d.nearest? = d.rational?.map nearestWhole := by
  cases d with
  | notANumber => rfl
  | infinity isNegative => rfl
  | finite isNegative mantissa exponent =>
    rw [nearest?, rational?, Option.map_some]
    by_cases hexponent : 0 ≤ exponent
    · obtain ⟨k, rfl⟩ := Int.eq_ofNat_of_zero_le hexponent
      have hvalue : (signed isNegative mantissa : ℚ) * 2 ^ (k : ℤ) =
          (signed isNegative (mantissa * 2 ^ k) : ℤ) := by
        rw [mul_zpow_eq_iff, signed_mul]
      rw [if_pos hexponent, Int.natAbs_natCast, Nat.one_shiftLeft, hvalue, nearestWhole_intCast]
    · obtain ⟨k, rfl⟩ := Int.exists_eq_neg_ofNat (Int.le_of_not_le hexponent)
      have hdiv : (mantissa : ℚ) * 2 ^ (-(k : ℤ)) = mantissa / (2 ^ k : ℕ) := by
        rw [zpow_neg, zpow_natCast, div_eq_mul_inv]
        norm_cast
      have hnearest := nearestWhole_div mantissa (Nat.two_pow_pos k)
      rw [if_neg hexponent, Int.natAbs_neg, Int.natAbs_natCast, Nat.one_shiftLeft]
      cases isNegative with
      | false =>
        have hpositive : ((signed false mantissa : ℤ) : ℚ) = mantissa := Int.cast_natCast mantissa
        rw [hpositive, hdiv, hnearest]
        rfl
      | true =>
        have hnegative : ((signed true mantissa : ℤ) : ℚ) = -mantissa := by
          rw [signed, if_pos rfl, Int.cast_neg, Int.cast_natCast]
        rw [hnegative, neg_mul, hdiv, nearestWhole_neg, hnearest]
        rfl

/-- **A double is rounded to the whole number nearest to what it denotes.** -/
theorem nearest?_ofFloat (x : Float) : (ofFloat x).nearest? = (doubleValue? x).map nearestWhole := by
  rw [nearest?_eq_map, rational?_ofFloat]

/-! ### Rounded words -/

/-- **A positive word and its opposite are rounded to two opposite numbers**, which are not below a
power of two that the word reaches. -/
theorem exists_doubleValue?_toFloat {n : UInt64} (hpos : 0 < n) :
    ∃ q : ℚ, doubleValue? n.toFloat = some q ∧ doubleValue? (-n.toFloat) = some (-q) ∧
      ∀ p : ℕ, 2 ^ p ≤ n.toNat → (2 : ℚ) ^ p ≤ q := by
  obtain ⟨mantissa, e, hdouble, hopposite, hfull, hlow⟩ := exists_ofFloat_toFloat hpos
  refine ⟨mantissa * 2 ^ e, ?_, ?_, ?_⟩
  · rw [← rational?_ofFloat, hdouble]
    rfl
  · rw [← rational?_ofFloat, hopposite, rational?, signed, if_pos rfl, ← neg_mul]
    norm_cast
  · intro p hp
    have hne : n.toNat ≠ 0 := Nat.ne_of_gt hpos
    have hmantissa : 2 ^ 52 ≤ mantissa := by
      have hself := Nat.log2_self_le (Nat.ne_of_gt (pos_of_le_log2 (Nat.le_of_eq hfull.symm)))
      rwa [hfull] at hself
    have hexponent : (p : ℤ) - 52 ≤ e := by
      have hlog := (Nat.le_log2 hne).mpr hp
      omega
    calc
      (2 : ℚ) ^ p = 2 ^ 52 * 2 ^ ((p : ℤ) - 52) := by
        rw [← zpow_natCast, ← zpow_natCast, ← zpow_add₀ (by norm_num)]
        congr 1
        omega
      _ ≤ mantissa * 2 ^ e :=
        mul_le_mul (by exact_mod_cast hmantissa) (zpow_le_zpow_right₀ (by norm_num) hexponent)
          (by positivity) (by positivity)

end Binary64

end TrackerBoard
