import TrackerBoard.Json.Value
import TrackerBoard.Json.Fault

/-!
# Numerals

A numeral is read one byte at a time.  Its digits are gathered in a significand of 64 bits; once
a digit would not fit, the rest of that run of digits is left out, each digit of the integer part
counting as one more power of ten.  A numeral without fraction, exponent or left out digits is a
whole number.  Any other is a double: the significand, rounded, times or divided by a power of
ten, in steps of `10 ^ 308`.  A result beyond the doubles is refused; one too small is zero.
-/

namespace TrackerBoard.Json

/-- What the last byte of an unfinished numeral was. -/
inductive Numeral.Place where
  | sign
  | leadingZero
  | digits
  | point
  | fraction
  | exponent
  | exponentSign
  | exponentDigits
  | vanishing
deriving DecidableEq, Repr

/-- A numeral as far as it has been read. -/
structure Numeral where
  place : Numeral.Place
  isNegative : Bool
  /-- The digits gathered so far, as a number below `2 ^ 64`. -/
  significand : Nat
  /-- The power of ten by which the significand is to be multiplied. -/
  shift : Int
  /-- Whether digits of the current run are being left out. -/
  isFull : Bool
  exponentIsNegative : Bool
  exponent : Nat

namespace Numeral

/-- The numeral that starts with the byte `b`. -/
def start? (b : UInt8) : Option Numeral :=
  if b = '-'.toUInt8 then some ⟨.sign, true, 0, 0, false, false, 0⟩
  else if b = '0'.toUInt8 then some ⟨.leadingZero, false, 0, 0, false, false, 0⟩
  else if '1'.toUInt8 ≤ b ∧ b ≤ '9'.toUInt8 then
    some ⟨.digits, false, b.toNat - 48, 0, false, false, 0⟩
  else none

/-- The value of a digit. -/
def digit? (b : UInt8) : Option Nat :=
  if '0'.toUInt8 ≤ b ∧ b ≤ '9'.toUInt8 then some (b.toNat - 48) else none

/-- Takes a digit into the significand if it still fits. -/
def gather (n : Numeral) (d : Nat) : Numeral :=
  if n.isFull ∨ UInt64.size ≤ n.significand * 10 + d then { n with isFull := true }
  else { n with significand := n.significand * 10 + d }

/-- A further digit of the integer part; one that is left out counts as a power of ten. -/
def integerDigit (n : Numeral) (d : Nat) : Numeral :=
  let n := n.gather d
  if n.isFull then { n with shift := n.shift + 1 } else n

/-- A digit of the fraction. -/
def fractionDigit (n : Numeral) (d : Nat) : Numeral :=
  let n := { n.gather d with place := .fraction }
  if n.isFull then n else { n with shift := n.shift - 1 }

/-- The largest exponent that is read digit by digit. -/
def exponentLimit : Nat := 2147483647

/-- A digit of the exponent.  An exponent beyond the limit decides the value by itself: zero, or
too large. -/
def exponentDigit (n : Numeral) (d : Nat) : Except Fault Numeral :=
  if n.exponent * 10 + d ≤ exponentLimit then
    .ok { n with place := .exponentDigits, exponent := n.exponent * 10 + d }
  else if n.significand ≠ 0 ∧ ¬ n.exponentIsNegative then .error .numberTooLarge
  else .ok { n with place := .vanishing }

/-- A point or an exponent mark after the integer part, or the end of the numeral. -/
def afterInteger (n : Numeral) (b : UInt8) : Option Numeral :=
  if b = '.'.toUInt8 then some { n with place := .point, isFull := false }
  else if b = 'e'.toUInt8 ∨ b = 'E'.toUInt8 then some { n with place := .exponent }
  else none

/-- Reads one more byte; `none` if the numeral ended before it. -/
def step (n : Numeral) (b : UInt8) : Except Fault (Option Numeral) :=
  match n.place, digit? b with
  | .sign, some 0 => .ok (some { n with place := .leadingZero })
  | .sign, some d => .ok (some { n with place := .digits, significand := d })
  | .sign, none => .error .badNumber
  | .leadingZero, some _ => .error .badNumber
  | .leadingZero, none => .ok (n.afterInteger b)
  | .digits, some d => .ok (some (n.integerDigit d))
  | .digits, none => .ok (n.afterInteger b)
  | .point, some d => .ok (some (n.fractionDigit d))
  | .point, none => .error .badNumber
  | .fraction, some d => .ok (some (n.fractionDigit d))
  | .fraction, none =>
    .ok (if b = 'e'.toUInt8 ∨ b = 'E'.toUInt8 then some { n with place := .exponent } else none)
  | .exponent, some d => (n.exponentDigit d).map some
  | .exponent, none =>
    if b = '+'.toUInt8 then .ok (some { n with place := .exponentSign })
    else if b = '-'.toUInt8 then
      .ok (some { n with place := .exponentSign, exponentIsNegative := true })
    else .error .badNumber
  | .exponentSign, some d => (n.exponentDigit d).map some
  | .exponentSign, none => .error .badNumber
  | .exponentDigits, some d => (n.exponentDigit d).map some
  | .exponentDigits, none => .ok none
  | .vanishing, some _ => .ok (some n)
  | .vanishing, none => .ok none

/-- The double `10 ^ n`. -/
def powerOfTen (n : Nat) : Float := OfScientific.ofScientific 1 false n

/-- The largest power of ten that is a double. -/
def largestPower : Nat := 308

/-- Divides by `10 ^ n`, by `10 ^ 308` at a time. -/
def shrink (x : Float) (n : Nat) : Float :=
  if n ≤ largestPower then x / powerOfTen n
  else if x == 0 then x
  else shrink (x / powerOfTen largestPower) (n - largestPower)
termination_by n
decreasing_by
  simp only [largestPower] at *
  omega

/-- Multiplies by `10 ^ n`, if that stays finite. -/
def grow? (x : Float) (n : Nat) : Option Float :=
  if n ≤ largestPower then
    let y := x * powerOfTen n
    if y.isInf then none else some y
  else if x == 0 then some x
  else none

/-- The double of `significand · 10 ^ power`. -/
def scale? (significand : Nat) (power : Int) : Option Float :=
  let x := significand.toUInt64.toFloat
  if 0 ≤ power then grow? x power.toNat else some (shrink x power.natAbs)

/-- The double of a numeral with fraction, exponent or left out digits. -/
def float (n : Numeral) (power : Int) : Except Fault Number :=
  match scale? n.significand power with
  | some x => .ok (.float (if n.isNegative then -x else x))
  | none => .error .numberTooLarge

/-- A whole number: a word if one holds it, else the nearest double.  `-0` is a double, since no
word has a signed zero. -/
def whole (n : Numeral) : Number :=
  if ¬ n.isNegative then .natural n.significand.toUInt64
  else
    match (signedWord? (-(n.significand : Int))).filter (· ≠ 0) with
    | some x => .negative x
    | none => .float (-(n.significand.toUInt64.toFloat))

/-- The number of a numeral that ends here. -/
def finish (n : Numeral) : Except Fault Number :=
  match n.place with
  | .sign | .point | .exponent | .exponentSign => .error .endInValue
  | .leadingZero => .ok n.whole
  | .digits => if n.isFull then n.float n.shift else .ok n.whole
  | .fraction => n.float n.shift
  | .exponentDigits =>
    n.float (if n.exponentIsNegative then n.shift - n.exponent else n.shift + n.exponent)
  | .vanishing => .ok (.float (if n.isNegative then -0.0 else 0.0))

end Numeral

end TrackerBoard.Json
