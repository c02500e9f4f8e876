import TrackerBoard.Json.Value
import TrackerBoard.Number.Binary64
import TrackerBoard.Snapshot.Basic
import TrackerBoard.Time.Timestamp

/-!
# Reading the fields of a snapshot

Each kind of field is read from a JSON value on its own, and a value of another shape is no value
for it.  The caller puts the field's default in its place, so that one bad field never spoils a
snapshot, nor one bad element a list.
-/

namespace TrackerBoard.Field

open Json

/-- The whole number that a number is as a double. -/
def wholeDouble? (n : Number) : Option Int := (Binary64.ofFloat n.toFloat).whole?

/-- A signed word, written whole or as a double. -/
def signedNumber? (n : Number) : Option Int64 :=
  n.int64? <|> ((wholeDouble? n).filter fun x =>
    -9223372036854775808 ≤ x ∧ x < 9223372036854775808).map nearestWord

/-- A natural word, written whole or as a double. -/
def naturalNumber? (n : Number) : Option UInt64 :=
  n.uint64? <|> ((wholeDouble? n).filter fun x =>
    0 ≤ x ∧ x < 18446744073709551616).map nearestNaturalWord

/-- A signed word. -/
def signed? : Value → Option Int64
  | .number n => signedNumber? n
  | _ => none

/-- A natural word. -/
def natural? : Value → Option UInt64
  | .number n => naturalNumber? n
  | _ => none

/-- A signed word written as a whole number, never as a double. -/
def strictSigned? : Value → Option Int64
  | .number n => n.int64?
  | _ => none

/-- A truth value. -/
def bool? : Value → Option Bool
  | .bool b => some b
  | _ => none

/-- A string. -/
def string? : Value → Option String
  | .string s => some s
  | _ => none

/-- An instant: a timestamp, or milliseconds written as a whole number. -/
def instant? : Value → Option Instant
  | .string s => Timestamp.read? s.toList
  | .number n => n.int64?.bind fun millis => Instant.ofMillis? millis.toInt
  | _ => none

/-- State names: one string, or the strings of a list. -/
def names : Value → List String
  | .string name => [name]
  | .list items => items.filterMap string?
  | _ => []

/-- Channels: a whole number, or a list of whole numbers only. -/
def channels? : Value → Option Channels
  | .number n => n.int64?.map .count
  | .list items => (items.mapM strictSigned?).map .list
  | _ => none

/-- A designation: its name, or an object whose only member has that name and the value `null`. -/
def designation? : Value → Option Designation
  | .string name => Designation.ofName? name
  | .object ((name, value) :: members) =>
    if members.all (·.1 == name) then
      match Members.find? ((name, value) :: members) name with
      | some .null => Designation.ofName? name
      | _ => none
    else none
  | _ => none

/-- An event of its three parts, each of which may be absent. -/
def eventOfParts (timestamp source message : Option Value) : TrackerEvent where
  timestamp := timestamp.bind instant?
  source := (source.bind string?).getD ""
  message := (message.bind string?).getD ""

/-- An event: an object, or a list of at most its three parts in order. -/
def event? : Value → Option TrackerEvent
  | .object members =>
    let part := Members.find? members
    some (eventOfParts (part "timestamp") (part "source") (part "message"))
  | .list parts =>
    if parts.length ≤ 3 then some (eventOfParts parts[0]? parts[1]? parts[2]?) else none
  | _ => none

/-- Events: those elements of a list that are events. -/
def events : Value → List TrackerEvent
  | .list items => items.filterMap event?
  | _ => []

end TrackerBoard.Field
