/-!
# Doubles as exact numbers

A finite double is `± m · 2 ^ q` for a natural number `m` and an integer `q`, both of which can
be read off its bits (`Binary64.ofFloat`).  Whether it is whole, and which whole number is next
to it, is then a question about `m` and `q`, and is answered without rounding.
-/

namespace TrackerBoard

/-- What a double denotes. -/
inductive Binary64 where
  | notANumber
  | infinity (isNegative : Bool)
  /-- the number `± mantissa · 2 ^ exponent` -/
  | finite (isNegative : Bool) (mantissa : Nat) (exponent : Int)
deriving DecidableEq, Repr

namespace Binary64

/-- The first bit of a mantissa of full length, which the bits of a double leave out. -/
def hiddenBit : Nat := 0x10000000000000

/-- Reads the parts of a double off its bits. -/
def ofFloat (x : Float) : Binary64 :=
  let bits := x.toBits.toNat
  let isNegative := decide (bits >>> 63 = 1)
  let exponent : Nat := (bits >>> 52) % 0x800
  let fraction := bits % hiddenBit
  if exponent = 0x7ff then
    if fraction = 0 then infinity isNegative else notANumber
  else if exponent = 0 then finite isNegative fraction (-1074)
  else finite isNegative (hiddenBit + fraction) ((exponent : Int) - 1075)

/-- The double nearest to a signed word. -/
def ofWord (n : Int64) : Float :=
  if n < 0 then -(n.toInt.natAbs.toUInt64.toFloat) else n.toInt.natAbs.toUInt64.toFloat

/-- The number with its sign. -/
def signed (isNegative : Bool) (n : Nat) : Int :=
  if isNegative then -n else n

/-- The whole number that a double is, if it is one. -/
def whole? : Binary64 → Option Int
  | finite isNegative mantissa exponent =>
    let unit := 1 <<< exponent.natAbs
    if 0 ≤ exponent then some (signed isNegative (mantissa * unit))
    else if mantissa % unit = 0 then some (signed isNegative (mantissa / unit))
    else none
  | _ => none

/-- The nearest whole number, a half going away from zero. -/
def nearest? : Binary64 → Option Int
  | finite isNegative mantissa exponent =>
    let unit := 1 <<< exponent.natAbs
    if 0 ≤ exponent then some (signed isNegative (mantissa * unit))
    else some (signed isNegative ((2 * mantissa + unit) / (2 * unit)))
  | _ => none

end Binary64

end TrackerBoard
