/-!
# Instants and zones

An instant is a second of universal time since the start of 1970 and the nanoseconds into it.
A leap second has no number of its own: it is held as the second before it, a second 59, with
its nanoseconds counted on from `10 ^ 9`.  Instants lie in the years -262143 to 262142.

A zone is a distance from universal time of less than a day.
-/

namespace TrackerBoard

/-- An instant of universal time. -/
structure Instant where
  /-- Seconds since 1 January 1970, 00:00:00. -/
  second : Int
  /-- Nanoseconds into the second; a second `10 ^ 9` of them for a leap second. -/
  nanos : Nat
  nanos_lt : nanos < 2000000000
  leap : 1000000000 ≤ nanos → second % 60 = 59
  first_le : -8334601228800 ≤ second
  le_last : second ≤ 8210266876799
deriving DecidableEq

namespace Instant

/-- The instant with these parts, if there is one. -/
def make? (second : Int) (nanos : Nat) : Option Instant :=
  if h : nanos < 2000000000 ∧ (1000000000 ≤ nanos → second % 60 = 59) ∧
      -8334601228800 ≤ second ∧ second ≤ 8210266876799 then
    some ⟨second, nanos, h.1, h.2.1, h.2.2.1, h.2.2.2⟩
  else none

/-- The instant a number of milliseconds after the start of 1970. -/
def ofMillis? (millis : Int) : Option Instant :=
  make? (millis / 1000) (millis % 1000 * 1000000).toNat

/-- Whether an instant is not after another; a leap second comes before the second after it. -/
def isUpTo (a b : Instant) : Bool :=
  a.second < b.second ∨ (a.second = b.second ∧ a.nanos ≤ b.nanos)

/-- The instant some seconds before, if it is in range.  Going back from a leap second counts it
as the second 60 of its minute. -/
def before? (t : Instant) (seconds : Nat) : Option Instant :=
  if 1000000000 ≤ t.nanos ∧ 0 < seconds then
    make? (t.second + 1 - seconds) (t.nanos - 1000000000)
  else make? (t.second - seconds) t.nanos

end Instant

/-- A distance from universal time in seconds, positive to the east. -/
structure Zone where
  offset : Int
  neg_day_lt : -86400 < offset
  lt_day : offset < 86400
deriving DecidableEq

namespace Zone

/-- Universal time. -/
def utc : Zone := ⟨0, by decide, by decide⟩

/-- The zone with this distance, if there is one. -/
def ofOffset? (offset : Int) : Option Zone :=
  if h : -86400 < offset ∧ offset < 86400 then some ⟨offset, h.1, h.2⟩ else none

end Zone

end TrackerBoard
