import TrackerBoard.Json.Value
import TrackerBoard.Number.Shortest
import TrackerBoard.Text.Hex

/-!
# Writing JSON

A value is written without blanks, its members in their order.  In a string the quote, the
backslash and the control characters are escaped, five of these by a letter and the others by
four hexadecimal digits; all other characters stand for themselves.
-/

namespace TrackerBoard.Json

/-- How a character is written inside a string. -/
def escape (c : Char) : List Char :=
  if c = '"' then ['\\', '"']
  else if c = '\\' then ['\\', '\\']
  else if c = '\x08' then ['\\', 'b']
  else if c = '\x0c' then ['\\', 'f']
  else if c = '\n' then ['\\', 'n']
  else if c = '\r' then ['\\', 'r']
  else if c = '\t' then ['\\', 't']
  else if c.toNat < 0x20 then
    '\\' :: 'u' :: Hex.padded 4 c.toNat
  else [c]

/-- A string between quotes. -/
def quote (s : String) : List Char :=
  '"' :: (s.toList.flatMap escape ++ ['"'])

/-- A number in decimal.  A double keeps a point, and one that is not finite has no number. -/
def Number.print : Number → List Char
  | natural n => (toString n.toNat).toList
  | negative n => (toString n.toInt).toList
  | float x =>
    if x.isFinite then
      let digits := (Decimal.shortest x).toList
      if digits.contains '.' then digits else digits ++ ['.', '0']
    else "null".toList

mutual

/-- The characters of a value. -/
def Value.print : Value → List Char
  | .null => "null".toList
  | .bool true => "true".toList
  | .bool false => "false".toList
  | .number n => n.print
  | .string s => quote s
  | .list items => '[' :: printItems items
  | .object members => '\x7b' :: printMembers members

/-- The items of a list, separated by commas, and the closing bracket. -/
def printItems : List Value → List Char
  | [] => [']']
  | [item] => item.print ++ [']']
  | item :: next :: items => item.print ++ ',' :: printItems (next :: items)

/-- The members of an object, separated by commas, and the closing brace. -/
def printMembers : List (String × Value) → List Char
  | [] => ['\x7d']
  | [(name, value)] => quote name ++ ':' :: value.print ++ ['\x7d']
  | (name, value) :: next :: members =>
    quote name ++ ':' :: value.print ++ ',' :: printMembers (next :: members)

end

/-- The text of a value. -/
def Value.render (value : Value) : String := String.ofList value.print

end TrackerBoard.Json
