/-!
# Decimal digits

Writing a number with a least count of digits, and reading a fixed count of digits from the front
of a text.  Only the ten ASCII digits count.
-/

namespace TrackerBoard.Digits

/-- A number in decimal, with zeros in front up to the given width. -/
def padded (width n : Nat) : List Char :=
  let digits := Nat.toDigits 10 n
  List.replicate (width - digits.length) '0' ++ digits

/-- The value of a digit. -/
def digit? (c : Char) : Option Nat :=
  if '0' ≤ c ∧ c ≤ '9' then some (c.toNat - 48) else none

/-- Reads exactly `count` digits, continuing the number `value`. -/
def read? : Nat → Nat → List Char → Option (Nat × List Char)
  | 0, value, text => some (value, text)
  | _ + 1, _, [] => none
  | count + 1, value, c :: text =>
    match digit? c with
    | some d => read? count (value * 10 + d) text
    | none => none

/-- The number that some digits write. -/
def value (digits : List Char) : Nat :=
  digits.foldl (fun value c => value * 10 + (digit? c).getD 0) 0

/-- The natural number that a text writes: one or more digits, and nothing else. -/
def natural? (text : List Char) : Option Nat :=
  if text ≠ [] ∧ text.all (digit? · |>.isSome) then some (value text) else none

end TrackerBoard.Digits
