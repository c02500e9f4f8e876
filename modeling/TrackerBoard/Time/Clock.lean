import TrackerBoard.Time.Instant
import TrackerBoard.Text.Digits

/-!
# The time of day

The clock label of an instant in a zone is `HH:MM:SS` of the instant moved by the zone's distance.
A leap second shows as one second more than the second that holds it.
-/

namespace TrackerBoard

/-- The second of the day that an instant has in a zone, from 0 to 86399. -/
def Instant.secondOfDay (t : Instant) (zone : Zone) : Nat :=
  ((t.second + zone.offset) % 86400).toNat

/-- Hours, minutes and seconds, two digits each. -/
def clockText (secondOfDay extra : Nat) : List Char :=
  Digits.padded 2 (secondOfDay / 3600) ++ ':' :: Digits.padded 2 (secondOfDay / 60 % 60) ++
    ':' :: Digits.padded 2 (secondOfDay % 60 + extra)

/-- The time of day of an instant in a zone. -/
def Instant.clockLabel (t : Instant) (zone : Zone) : String :=
  String.ofList (clockText (t.secondOfDay zone) (t.nanos / 1000000000))

end TrackerBoard
