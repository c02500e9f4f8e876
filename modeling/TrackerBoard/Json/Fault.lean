/-!
# Why a text is not JSON

A reader that stops names the cause (`Fault`) and the place, a line and a column.  Both count
bytes already taken: the line is one more than the line feeds among them, the column the bytes
since the last of these.
-/

namespace TrackerBoard.Json

/-- The causes for which a text is refused. -/
inductive Fault where
  | endInValue
  | endInList
  | endInObject
  | endInString
  | noValue
  | badWord
  | noColon
  | listNotContinued
  | objectNotContinued
  | keyNotString
  | trailingComma
  | trailingText
  | badNumber
  | numberTooLarge
  | badEscape
  | controlCharacter
  | loneSurrogate
  | surrogateNotFollowed
  | notUtf8
  | tooDeep
deriving DecidableEq, Repr

/-- The wording of a cause. -/
def Fault.text : Fault → String
  | endInValue => "EOF while parsing a value"
  | endInList => "EOF while parsing a list"
  | endInObject => "EOF while parsing an object"
  | endInString => "EOF while parsing a string"
  | noValue => "expected value"
  | badWord => "expected ident"
  | noColon => "expected `:`"
  | listNotContinued => "expected `,` or `]`"
  | objectNotContinued => "expected `,` or `\x7d`"
  | keyNotString => "key must be a string"
  | trailingComma => "trailing comma"
  | trailingText => "trailing characters"
  | badNumber => "invalid number"
  | numberTooLarge => "number out of range"
  | badEscape => "invalid escape"
  | controlCharacter => "control character (\\u0000-\\u001F) found while parsing a string"
  | loneSurrogate => "lone leading surrogate in hex escape"
  | surrogateNotFollowed => "unexpected end of hex escape"
  | notUtf8 => "invalid unicode code point"
  | tooDeep => "recursion limit exceeded"

/-- A cause and its place. -/
structure SyntaxError where
  fault : Fault
  line : Nat
  column : Nat
deriving DecidableEq, Repr

/-- The error after the bytes `taken`. -/
def SyntaxError.after (fault : Fault) (taken : List UInt8) : SyntaxError where
  fault := fault
  line := taken.count 0x0a + 1
  column := (taken.reverse.takeWhile (· != 0x0a)).length

/-- The wording of an error: the cause, then the place. -/
def SyntaxError.message (e : SyntaxError) : String :=
  e.fault.text ++ " at line " ++ toString e.line ++ " column " ++ toString e.column

end TrackerBoard.Json
