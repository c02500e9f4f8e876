import TrackerBoard.Number.Binary64
import TrackerBoard.Number.Word

/-!
# Labels of numbers

The leader's signal strength is shown in percent of 255, rounded with a half going away from
zero; counts are shown with a comma between groups of three digits, and those above a million
only as being above it.
-/

namespace TrackerBoard

/-- A signal strength in percent. -/
def signalPercent (raw : Int64) : Int64 :=
  match (Binary64.ofFloat (Binary64.ofWord raw / 255 * 100)).nearest? with
  | some percent => nearestWord percent
  | none => 0

/-- Puts a comma before every third digit, counted from the last. -/
def groupDigits : List Char → List Char
  | [] => []
  | d :: digits =>
    if digits ≠ [] ∧ digits.length % 3 = 0 then d :: ',' :: groupDigits digits
    else d :: groupDigits digits

/-- A count with its digits in groups of three. -/
def groupThousands (n : UInt64) : String :=
  String.ofList (groupDigits (Nat.toDigits 10 n.toNat))

/-- The largest count of frames that is shown exactly. -/
def frameLabelCap : UInt64 := 1000000

/-- A count of frames. -/
def frameLabel (frames : UInt64) : String :=
  if frameLabelCap < frames then ">1M" else groupThousands frames

end TrackerBoard
