import TrackerBoard.Text.Digits
import TrackerBoard.Text.Hex

/-!
# YAML numbers

A whole number is decimal without zeros in front, or hexadecimal, octal or binary behind a mark.
Any other number is a decimal one with a point or an exponent, an infinity, or none at all; it is
read as the nearest double, which must be finite if its digits are.
-/

namespace TrackerBoard.Yaml.Numeral

/-- The number that one or more digits write in a base. -/
def naturalIn? (base : Nat) (digits : List Char) : Option Nat :=
  if digits = [] then none
  else digits.foldlM (fun n c => ((Hex.digit? c).filter (· < base)).map (n * base + ·)) 0

/-- A number without sign: in one of the bases with a mark, or decimal without zeros in front. -/
def unsigned? : List Char → Option Nat
  | '0' :: 'x' :: digits => naturalIn? 16 digits
  | '0' :: 'o' :: digits => naturalIn? 8 digits
  | '0' :: 'b' :: digits => naturalIn? 2 digits
  | '0' :: _ :: _ => none
  | digits => naturalIn? 10 digits

/-- A number with or without a plus sign. -/
def natural? : List Char → Option Nat
  | '+' :: text => unsigned? text
  | text => unsigned? text

/-- A number with or without a sign. -/
def integer? : List Char → Option Int
  | '-' :: text => (unsigned? text).map fun n => -(n : Int)
  | text => (natural? text).map Int.ofNat

/-- Splits digits off the front of a text. -/
def spanDigits (text : List Char) : List Char × List Char :=
  text.span fun c => (Digits.digit? c).isSome

/-- The exponent at the end of a decimal number, which may be missing. -/
def exponent? : List Char → Option Int
  | [] => some 0
  | c :: text =>
    if c = 'e' ∨ c = 'E' then
      match text with
      | '-' :: digits => (Digits.natural? digits).map fun n => -(n : Int)
      | '+' :: digits => (Digits.natural? digits).map Int.ofNat
      | digits => (Digits.natural? digits).map Int.ofNat
    else none

/-- The double nearest to `digits · 10 ^ power`, if it is finite.  Powers beyond every double are
decided without being computed. -/
def nearestDouble? (digits : List Char) (power : Int) : Option Float :=
  let significand := Digits.value digits
  let magnitude := power + (digits.dropWhile (· = '0')).length
  let x : Float :=
    if significand = 0 ∨ magnitude < -400 then 0.0
    else if 400 < magnitude then 1.0 / 0.0
    else if 0 ≤ power then OfScientific.ofScientific significand false power.toNat
    else OfScientific.ofScientific significand true power.natAbs
  if x.isFinite then some x else none

/-- A decimal number without sign: digits with a point anywhere or nowhere, and an exponent. -/
def decimal? (text : List Char) : Option Float := do
  let (whole, text) := spanDigits text
  let (fraction, text) := match text with
    | '.' :: text => spanDigits text
    | text => ([], text)
  let power ← exponent? text
  if whole = [] ∧ fraction = [] then none
  else nearestDouble? (whole ++ fraction) (power - fraction.length)

/-- A decimal number with or without a sign. -/
def signedDecimal? : List Char → Option Float
  | '+' :: text => decimal? text
  | '-' :: text => (decimal? text).map (- ·)
  | text => decimal? text

/-- A decimal number, an infinity, or no number. -/
def double? (text : List Char) : Option Float :=
  match String.ofList text with
  | ".nan" | ".NaN" | ".NAN" => some (0.0 / 0.0)
  | ".inf" | ".Inf" | ".INF" | "+.inf" | "+.Inf" | "+.INF" => some (1.0 / 0.0)
  | "-.inf" | "-.Inf" | "-.INF" => some (-(1.0 / 0.0))
  | _ => signedDecimal? text

end TrackerBoard.Yaml.Numeral
