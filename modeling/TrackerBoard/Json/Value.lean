import TrackerBoard.Number.Binary64
import TrackerBoard.Number.Word

/-!
# JSON values

A number keeps the form in which it was written: a whole number that fits 64 bits stays a word,
everything else is a double.  An object keeps its members as written, in order and with repeated
names; `find?` answers with the last member of a name, so an earlier one never shows.
-/

namespace TrackerBoard.Json

/-- A JSON number: a natural word, a negative word, or a double. -/
inductive Number where
  | natural (n : UInt64)
  | negative (n : Int64)
  | float (x : Float)

/-- A JSON value. -/
inductive Value where
  | null
  | bool (b : Bool)
  | number (n : Number)
  | string (s : String)
  | list (items : List Value)
  | object (members : List (String × Value))

instance : Inhabited Value := ⟨.null⟩

/-- The members of an object, as written. -/
abbrev Members := List (String × Value)

/-- The value of a name: that of its last member. -/
def Members.find? (members : Members) (name : String) : Option Value :=
  (members.reverse.find? (·.1 == name)).map (·.2)

namespace Number

/-- The number as a signed word, if it is written as a whole number in range. -/
def int64? : Number → Option Int64
  | natural n => signedWord? n.toNat
  | negative n => some n
  | float _ => none

/-- The number as a natural word, if it is written as one. -/
def uint64? : Number → Option UInt64
  | natural n => some n
  | _ => none

/-- The nearest double. -/
def toFloat : Number → Float
  | natural n => n.toFloat
  | negative n => Binary64.ofWord n
  | float x => x

/-- A number written for an integer: never a double. -/
def ofInt64 (n : Int64) : Number :=
  if n.toInt < 0 then negative n else natural n.toInt.toNat.toUInt64

end Number

namespace Value

/-- A signed word as a value. -/
def int64 (n : Int64) : Value := number (.ofInt64 n)

/-- A natural word as a value. -/
def uint64 (n : UInt64) : Value := number (.natural n)

/-- An absent value is `null`. -/
def option {α : Type} (write : α → Value) : Option α → Value
  | none => null
  | some a => write a

/-- The member of a name, if the value is an object that has one. -/
def get? (value : Value) (name : String) : Option Value :=
  match value with
  | object members => Members.find? members name
  | _ => none

end Value

end TrackerBoard.Json
