import Mathlib
import TrackerBoard.Number.Binary64

/-! # Whole numbers as doubles

A word of 64 bits is rounded to a double of 53 bits.  The parts that are read off the bits of a
double are those of its unpacked form (`ofFloat_eq`), in which it is rounded, packed and negated, so
the bits need to be looked at only here.

A positive number keeps the place of its first bit when it is rounded, or moves it up by one: the
bits behind the first 53 are dropped, and what is left may be raised by one.  So no number falls
below a power of two that it reaches (`exists_ofFloat_toFloat`).
-/

namespace TrackerBoard.Binary64

open Float.Model (Format UnpackedFloat totalExponent)
open Float.Model.UnpackedFloat

/-! ### Unpacked doubles -/

/-- Whether a sign is that of the negative numbers. -/
def isNegative : Sign → Bool
  | .negative => true
  | .positive => false

/-- What an unpacked double denotes. -/
def ofUnpacked : UnpackedFloat → Binary64
  | .notANumber => notANumber
  | .infinity sign => infinity (isNegative sign)
  | .zero sign => finite (isNegative sign) 0 (-1074)
  | .finite sign mantissa exponent _ => finite (isNegative sign) mantissa exponent

section
variable (bits : UInt64)

theorem toNat_unpackMantissa :
    (@unpackMantissa Format.binary64 bits.toBitVec).toNat = bits.toNat % hiddenBit := rfl

theorem toNat_unpackExponent :
    (@unpackExponent Format.binary64 bits.toBitVec).toNat = (bits.toNat >>> 52) % 0x800 := rfl

theorem toNat_unpackSign :
    (@unpackSign Format.binary64 bits.toBitVec).toNat = (bits.toNat >>> 63) % 2 := rfl

theorem isNegative_unpackSign :
    isNegative (Sign.ofBitVec (@unpackSign Format.binary64 bits.toBitVec)) =
      decide (bits.toNat >>> 63 = 1) := by
  have hsign : ∀ bit : BitVec 1, isNegative (Sign.ofBitVec bit) = decide (bit.toNat = 1) := by
    decide
  have hbit : bits.toNat >>> 63 < 2 := by
    have hlt := bits.toNat_lt
    rw [Nat.shiftRight_eq_div_pow]
    omega
  rw [hsign, toNat_unpackSign, Nat.mod_eq_of_lt hbit]

theorem unpackExponent_eq_iff {n : Nat} (h : n < 0x800) :
    @unpackExponent Format.binary64 bits.toBitVec = BitVec.ofNat _ n ↔
      (bits.toNat >>> 52) % 0x800 = n := by
  rw [← BitVec.toNat_inj, toNat_unpackExponent, BitVec.toNat_ofNat]
  exact iff_of_eq (congrArg (_ = ·) (Nat.mod_eq_of_lt h))

theorem unpackMantissa_eq_zero_iff :
    @unpackMantissa Format.binary64 bits.toBitVec = 0#_ ↔ bits.toNat % hiddenBit = 0 := by
  rw [← BitVec.toNat_inj, toNat_unpackMantissa]
  rfl

end

theorem toNat_hiddenBit_append (fraction : BitVec 52) :
    (1#1 ++ fraction).toNat = hiddenBit + fraction.toNat := by
  rw [BitVec.toNat_append, ← Nat.shiftLeft_add_eq_or_of_lt fraction.isLt]
  rfl

/-- **The parts that the bits of a double hold are those of its unpacked form.** -/
theorem ofFloat_eq (x : Float) : ofFloat x = ofUnpacked x.toModel.unpack := by
  have hspecial : @unpackExponent Format.binary64 x.toModel.toBits.toBitVec = -1#_ ↔
      (x.toBits.toNat >>> 52) % 0x800 = 0x7ff := unpackExponent_eq_iff _ (by decide)
  have hleast : @unpackExponent Format.binary64 x.toModel.toBits.toBitVec = 0#_ ↔
      (x.toBits.toNat >>> 52) % 0x800 = 0 := unpackExponent_eq_iff _ (by decide)
  have hzero : @unpackMantissa Format.binary64 x.toModel.toBits.toBitVec = 0#_ ↔
      x.toBits.toNat % hiddenBit = 0 := unpackMantissa_eq_zero_iff _
  have hsign := isNegative_unpackSign x.toModel.toBits
  rw [ofFloat, Float.Model.unpack, unpack]
  dsimp only
  by_cases hexponent : (x.toBits.toNat >>> 52) % 0x800 = 0x7ff
  · rw [if_pos hexponent, if_pos (hspecial.mpr hexponent)]
    by_cases hfraction : x.toBits.toNat % hiddenBit = 0
    · rw [if_pos hfraction, if_pos (hzero.mpr hfraction), ofUnpacked, hsign]
      rfl
    · rw [if_neg hfraction, if_neg (mt hzero.mp hfraction), ofUnpacked]
  · rw [if_neg hexponent, if_neg (mt hspecial.mp hexponent)]
    by_cases hsubnormal : (x.toBits.toNat >>> 52) % 0x800 = 0
    · rw [if_pos hsubnormal, if_pos (hleast.mpr hsubnormal)]
      by_cases hfraction : x.toBits.toNat % hiddenBit = 0
      · rw [dif_pos (hzero.mpr hfraction), ofUnpacked, hsign, hfraction]
        rfl
      · rw [dif_neg (mt hzero.mp hfraction), ofUnpacked, hsign, hleast.mpr hsubnormal]
        rfl
    · rw [if_neg hsubnormal, if_neg (mt hleast.mp hsubnormal), ofUnpacked, hsign,
        toNat_hiddenBit_append (@unpackMantissa Format.binary64 x.toModel.toBits.toBitVec)]
      rfl

/-- The first bit of a mantissa of full length is left out of the bits, and put back. -/
theorem toNat_hiddenBit_append_ofNat {mantissa : Nat} (hpos : 0 < mantissa)
    (hlog : mantissa.log2 = 52) : (1#1 ++ BitVec.ofNat 52 mantissa).toNat = mantissa := by
  obtain ⟨hlow, hhigh⟩ := (Nat.log2_eq_iff (Nat.ne_of_gt hpos)).mp hlog
  rw [toNat_hiddenBit_append, BitVec.toNat_ofNat, hiddenBit]
  omega

/-- A double with a mantissa of full length is packed without loss. -/
theorem unpack_pack {sign : Sign} {mantissa : Nat} {exponent : Int} (hpos : 0 < mantissa)
    (hlog : mantissa.log2 = 52) (hlow : -1074 ≤ exponent) (hhigh : exponent ≤ 971) :
    unpack Format.binary64 (pack Format.binary64 (.finite sign mantissa exponent hpos)) =
      .finite sign mantissa exponent hpos := by
  have hbias : Format.binary64.exponentBias = 1023 := rfl
  have hlength : 52 + 1 = Format.binary64.mantissaBits := rfl
  -- the exponent as its bits hold it; neither the least nor the greatest, which stand for others
  obtain ⟨biased, rfl⟩ : ∃ biased : Nat, exponent = biased - ((1023 : Nat) + (52 : Nat)) :=
    ⟨(exponent + 1075).toNat, by omega⟩
  have hbiased : ((biased : Int) - ((1023 : Nat) + (52 : Nat)) + (1023 : Nat) + (52 : Nat)).toNat =
      biased := by omega
  have htoNat : (BitVec.ofNat 11 biased).toNat = biased := by
    rw [BitVec.toNat_ofNat]
    omega
  have hspecial : BitVec.ofNat 11 biased ≠ -1#11 := by
    intro heq
    have hvalue : biased = 2047 := htoNat.symm.trans (congrArg BitVec.toNat heq)
    omega
  have hleast : BitVec.ofNat 11 biased ≠ 0#11 := by
    intro heq
    have hvalue : biased = 0 := htoNat.symm.trans (congrArg BitVec.toNat heq)
    omega
  rw [pack, hbias, hlog]
  dsimp only
  rw [hbiased, if_neg (by omega), if_pos hlength, unpack]
  dsimp only
  rw [unpackExponent_packComponents, if_neg hspecial, if_neg hleast, hbias]
  refine (UnpackedFloat.finite.injEq ..).mpr ⟨?_, ?_, ?_⟩
  · rw [unpackSign_packComponents, Sign.ofBitVec_toBitVec]
  · rw [unpackMantissa_packComponents]
    exact toNat_hiddenBit_append_ofNat hpos hlog
  · rw [htoNat]

/-! ### Rounding -/

theorem mantissa_shiftRight (m : ExtendedMantissa) (count : Nat) :
    (m >>> count).mantissa = m.mantissa / 2 ^ count := by
  induction count with
  | zero => exact (Nat.div_one m.mantissa).symm
  | succ count ih =>
    have hstep : (m >>> (count + 1)).mantissa = (m >>> count).mantissa / 2 := rfl
    rw [hstep, ih, Nat.div_div_eq_div_mul, Nat.pow_succ]

theorem roundedMantissa_mem (m : ExtendedMantissa) :
    m.mantissa ≤ m.roundedMantissa ∧ m.roundedMantissa ≤ m.mantissa + 1 := by
  obtain ⟨mantissa, roundBit, stickyBit⟩ := m
  cases roundBit <;> cases stickyBit <;>
    simp only [ExtendedMantissa.roundedMantissa, ExtendedMantissa.accuracy,
      Accuracy.roundToNearestEven] <;> omega

theorem log2_div_two_pow {n count : Nat} (h : count ≤ n.log2) (hpos : 0 < n) :
    (n / 2 ^ count).log2 = n.log2 - count := by
  have hlow := Nat.log2_self_le (Nat.ne_of_gt hpos)
  have hhigh := @Nat.lt_log2_self n
  have hsplit : 2 ^ n.log2 = 2 ^ (n.log2 - count) * 2 ^ count := by
    rw [← Nat.pow_add, Nat.sub_add_cancel h]
  have hquotient : 2 ^ (n.log2 - count) ≤ n / 2 ^ count := by
    rw [Nat.le_div_iff_mul_le (Nat.two_pow_pos count), ← hsplit]
    exact hlow
  have hne : n / 2 ^ count ≠ 0 := Nat.ne_of_gt (Nat.lt_of_lt_of_le (Nat.two_pow_pos _) hquotient)
  rw [Nat.log2_eq_iff hne]
  refine ⟨hquotient, ?_⟩
  rw [Nat.div_lt_iff_lt_mul (Nat.two_pow_pos count), Nat.pow_succ, Nat.mul_right_comm, ← hsplit]
  exact hhigh

theorem pos_of_le_log2 {n : Nat} (h : 52 ≤ n.log2) : 0 < n := by
  refine Nat.pos_of_ne_zero fun hzero => ?_
  rw [hzero] at h
  exact absurd h (by decide)

/-- The first 53 bits of a number, and what is to be known of the others. -/
def firstBits (n : Nat) : ExtendedMantissa :=
  (⟨n, false, false⟩ : ExtendedMantissa) >>> (n.log2 - 52)

theorem log2_firstBits {n : Nat} (h : 52 ≤ n.log2) : (firstBits n).mantissa.log2 = 52 := by
  rw [firstBits, mantissa_shiftRight, log2_div_two_pow (Nat.sub_le ..) (pos_of_le_log2 h),
    Nat.sub_sub_self h]

/-- A mantissa that is long enough is cut to its first bits. -/
theorem shiftToTargetExponent_eq {mantissa : Nat} {exponent : Int} (hlog : 52 ≤ mantissa.log2)
    (hlow : -1074 ≤ exponent) :
    shiftToTargetExponent Format.binary64 mantissa exponent .exact =
      (firstBits mantissa, exponent + (mantissa.log2 - 52 : Nat)) := by
  have htarget : Format.binary64.targetExponent (totalExponent mantissa exponent) =
      max (mantissa.log2 + 1 + exponent - 53) (-1074) := rfl
  have hshift : (max (mantissa.log2 + 1 + exponent - 53) (-1074) - exponent).toNat =
      mantissa.log2 - 52 := by omega
  rw [shiftToTargetExponent, htarget, shiftToExponent, hshift]
  rfl

/-- The first bit of a rounded mantissa stays where it is, or moves up by one. -/
theorem log2_roundedMantissa {m : ExtendedMantissa} (h : m.mantissa.log2 = 52) :
    52 ≤ m.roundedMantissa.log2 ∧ m.roundedMantissa.log2 ≤ 53 := by
  have hpos := pos_of_le_log2 (Nat.le_of_eq h.symm)
  obtain ⟨hlow, hhigh⟩ := (Nat.log2_eq_iff (Nat.ne_of_gt hpos)).mp h
  obtain ⟨hle, hle'⟩ := roundedMantissa_mem m
  have hne : m.roundedMantissa ≠ 0 := by omega
  have hlt : m.roundedMantissa.log2 < 54 := (Nat.log2_lt hne).mpr (by omega)
  exact ⟨(Nat.le_log2 hne).mpr (by omega), by omega⟩

/-- A mantissa that is long enough is rounded to one of full length.  The first bit of the number
stays where it is, or moves up by one. -/
theorem exists_roundWithAccuracy (sign : Sign) {mantissa : Nat} {exponent : Int}
    (hlog : 52 ≤ mantissa.log2) (hlow : -1074 ≤ exponent) :
    ∃ rounded e h, roundWithAccuracy Format.binary64 sign mantissa exponent .exact =
      .finite sign rounded e h ∧ rounded.log2 = 52 ∧ mantissa.log2 + exponent ≤ e + 52 ∧
        e + 52 ≤ mantissa.log2 + exponent + 1 := by
  have hrounded := log2_roundedMantissa (log2_firstBits hlog)
  have hfinal := log2_firstBits hrounded.1
  have hne := Nat.ne_of_gt (pos_of_le_log2 (Nat.le_of_eq hfinal.symm))
  -- rounding may carry into one more bit, so the mantissa is cut a second time
  rw [roundWithAccuracy, shiftToTargetExponent_eq hlog hlow]
  dsimp only
  rw [shiftToTargetExponent_eq hrounded.1 (by omega)]
  dsimp only
  rw [dif_neg hne]
  exact ⟨_, _, _, rfl, hfinal, by omega, by omega⟩

theorem log2_shiftLeft {n : Nat} (hpos : 0 < n) (count : Nat) :
    (n <<< count).log2 = n.log2 + count := by
  induction count with
  | zero => rfl
  | succ count ih =>
    have hne : n <<< count ≠ 0 := by
      rw [Nat.shiftLeft_eq]
      exact Nat.ne_of_gt (Nat.mul_pos hpos (Nat.two_pow_pos count))
    rw [Nat.shiftLeft_succ, Nat.log2_two_mul hne, ih, Nat.add_assoc]

/-- A positive number is rounded to a mantissa of full length, after being padded to it if it is
too short. -/
theorem exists_ofNat_eq {n : Nat} (hpos : 0 < n) :
    ∃ mantissa e h, UnpackedFloat.ofNat Format.binary64 n = .finite .positive mantissa e h ∧
      mantissa.log2 = 52 ∧ (n.log2 : Int) ≤ e + 52 ∧ e + 52 ≤ n.log2 + 1 := by
  have hcompare : compare (n : Int) 0 = .gt := Int.compare_eq_gt.mpr (by omega)
  have htarget : Format.binary64.targetExponent (totalExponent n 0) =
      max ((n.log2 : Int) + 1 + 0 - 53) (-1074) := rfl
  have hpadding : (0 - max ((n.log2 : Int) + 1 + 0 - 53) (-1074)).toNat = 52 - n.log2 := by omega
  have hlog := log2_shiftLeft hpos (52 - n.log2)
  have hlong : 52 ≤ (n <<< (52 - n.log2)).log2 := by omega
  have hleast : (-1074 : Int) ≤ 0 - (52 - n.log2 : Nat) := by omega
  rw [UnpackedFloat.ofNat, UnpackedFloat.ofInt, UnpackedFloat.normalize, hcompare]
  dsimp only
  rw [UnpackedFloat.round, Int.toNat_natCast, htarget, decreaseExponent, hpadding]
  dsimp only
  obtain ⟨mantissa, e, h, heq, hfull, hlow, hhigh⟩ :=
    exists_roundWithAccuracy .positive hlong hleast
  exact ⟨mantissa, e, h, heq, hfull, by omega, by omega⟩

/-- **A positive word and its opposite are rounded to the same number**, whose first bit is where
that of the word is, or one place above. -/
theorem exists_ofFloat_toFloat {n : UInt64} (hpos : 0 < n) :
    ∃ mantissa e, ofFloat n.toFloat = finite false mantissa e ∧
      ofFloat (-n.toFloat) = finite true mantissa e ∧ mantissa.log2 = 52 ∧
        (n.toNat.log2 : Int) ≤ e + 52 := by
  have hne : n.toNat ≠ 0 := Nat.ne_of_gt hpos
  obtain ⟨mantissa, e, h, heq, hfull, hlow, hhigh⟩ := exists_ofNat_eq (Nat.pos_of_ne_zero hne)
  have hword : n.toNat.log2 < 64 := (Nat.log2_lt hne).mpr n.toNat_lt
  have hunpack : n.toFloat.toModel.unpack = .finite .positive mantissa e h := by
    have hpack : n.toFloat.toModel.unpack = unpack Format.binary64
      (pack Format.binary64 (UnpackedFloat.ofNat Format.binary64 n.toNat)) := rfl
    rw [hpack, heq, unpack_pack h hfull (by omega) (by omega)]
  have hneg : (-n.toFloat).toModel.unpack = .finite .negative mantissa e h := by
    have hpack : (-n.toFloat).toModel.unpack = unpack Format.binary64
      (pack Format.binary64 n.toFloat.toModel.unpack.neg) := rfl
    rw [hpack, hunpack]
    exact unpack_pack h hfull (by omega) (by omega)
  refine ⟨mantissa, e, ?_, ?_, hfull, hlow⟩
  · rw [ofFloat_eq, hunpack]
    rfl
  · rw [ofFloat_eq, hneg]
    rfl

end TrackerBoard.Binary64
