import TrackerBoard.Number.Binary64

/-!
# The shortest decimal of a double

The text of a finite double has the fewest significant digits that still denote no other double;
among those the nearest to its value, and of two that are as near the one away from zero.  Every
real number between the midpoints to its two neighbours reads back as the double, and the
midpoints do so too when its mantissa is even.  For one digit, two digits and so on, the two
neighbours of the value on that decimal grid are tried; seventeen digits always suffice.

The digits are written in positional notation, never with an exponent.
-/

namespace TrackerBoard.Decimal

/-- The positive number `mantissa · 2 ^ exponent` as a fraction. -/
def fraction (mantissa : Nat) (exponent : Int) : Nat × Nat :=
  let unit := 1 <<< exponent.natAbs
  if 0 ≤ exponent then (mantissa * unit, 1) else (mantissa, unit)

/-- The numbers that round to a double, as fractions over one denominator. -/
structure Interval where
  value : Nat
  low : Nat
  high : Nat
  denominator : Nat
  /-- Whether the two ends belong to it. -/
  isClosed : Bool

/-- The interval of `mantissa · 2 ^ exponent`.  Below a power of two the doubles lie twice as
close, so the lower end is half as far there. -/
def Interval.ofParts (mantissa : Nat) (exponent : Int) : Interval :=
  let (numerator, denominator) := fraction mantissa exponent
  let gap := 1 <<< exponent.toNat
  let isLeast := mantissa = Binary64.hiddenBit ∧ -1074 < exponent
  { value := 4 * numerator
    low := 4 * numerator - (if isLeast then gap else 2 * gap)
    high := 4 * numerator + 2 * gap
    denominator := 4 * denominator
    isClosed := mantissa % 2 = 0 }

/-- Whether `digits · 10 ^ power` lies in the interval. -/
def Interval.contains (i : Interval) (digits : Nat) (power : Int) : Bool :=
  let up := Nat.pow 10 power.toNat
  let down := Nat.pow 10 (-power).toNat
  let point := digits * up * i.denominator
  let low := i.low * down
  let high := i.high * down
  if i.isClosed then low ≤ point ∧ point ≤ high else low < point ∧ point < high

/-- The point of the grid `10 ^ power` to be written: the nearer of the value's two neighbours
there, if it rounds to the double, else the other one.  Of two that are as near, the upper one
comes first. -/
def Interval.pick? (i : Interval) (power : Int) : Option Nat :=
  let up := Nat.pow 10 power.toNat
  let down := Nat.pow 10 (-power).toNat
  let numerator := i.value * down
  let denominator := i.denominator * up
  let below := numerator / denominator
  let rest := numerator % denominator
  let order := if 2 * rest < denominator then [below, below + 1] else [below + 1, below]
  order.find? fun digits => 0 < digits ∧ i.contains digits power

/-- The number of decimal digits before the point of `n / d`, less the zeros after it:
`10 ^ (magnitude - 1) ≤ n / d < 10 ^ magnitude`. -/
def magnitude (n d : Nat) : Int :=
  let guess : Int := (Nat.toDigits 10 n).length - (Nat.toDigits 10 d).length
  let isAtLeast (power : Int) : Bool :=
    d * Nat.pow 10 power.toNat ≤ n * Nat.pow 10 (-power).toNat
  if isAtLeast guess then guess + 1 else guess

/-- Tries grids of more and more digits. -/
def Interval.search (i : Interval) (top : Int) (tried : Nat) : Nat → Nat × Int
  | 0 => (0, 0)
  | fuel + 1 =>
    let power := top - (tried + 1)
    match i.pick? power with
    | some digits => (digits, power)
    | none => i.search top (tried + 1) fuel

/-- The largest number of digits that can be needed. -/
def maxDigits : Nat := 17

/-- The digits and the power of ten of a positive `mantissa · 2 ^ exponent`. -/
def shortestParts (mantissa : Nat) (exponent : Int) : Nat × Int :=
  let i := Interval.ofParts mantissa exponent
  i.search (magnitude i.value i.denominator) 0 maxDigits

/-- Writes `digits · 10 ^ power` in positional notation. -/
def positional (digits : Nat) (power : Int) : List Char :=
  let text := Nat.toDigits 10 digits
  if 0 ≤ power then text ++ List.replicate power.toNat '0'
  else
    let places := power.natAbs
    let padded := List.replicate (places + 1 - text.length) '0' ++ text
    padded.take (padded.length - places) ++ '.' :: padded.drop (padded.length - places)

/-- Drops zeros at the end of the digits. -/
def trim (digits : Nat) (power : Int) : Nat → Nat × Int
  | 0 => (digits, power)
  | fuel + 1 =>
    if digits % 10 = 0 ∧ power < 0 then trim (digits / 10) (power + 1) fuel else (digits, power)

/-- The text of a double. -/
def shortest (x : Float) : String :=
  match Binary64.ofFloat x with
  | .notANumber => "NaN"
  | .infinity isNegative => if isNegative then "-inf" else "inf"
  | .finite isNegative mantissa exponent =>
    let text :=
      if mantissa = 0 then ['0']
      else
        let (digits, power) := shortestParts mantissa exponent
        let (digits, power) := trim digits power maxDigits
        positional digits power
    String.ofList (if isNegative then '-' :: text else text)

end TrackerBoard.Decimal
