import TrackerBoard.Json.Fault
import TrackerBoard.Text.Hex
import TrackerBoard.Text.Utf8

/-!
# Strings between quotes

The bytes of a JSON string are read one at a time.  What they stand for is gathered as bytes too:
a raw byte stands for itself, an escape for the bytes of a character.  At the closing quote the
gathered bytes must be UTF-8.  Characters beyond the first plane are escaped as two halves, a
leading and a trailing surrogate; neither half stands alone.
-/

namespace TrackerBoard.Json

/-- Where the reader stands inside a string. -/
inductive Quoted.Place where
  /-- between characters -/
  | plain
  /-- after a backslash -/
  | escape
  /-- in the four digits of an escape, after a leading surrogate if one was read -/
  | hex (leading : Option Nat) (digits : List UInt8)
  /-- after a leading surrogate, before the backslash of the trailing one -/
  | surrogate (leading : Nat)
  /-- after that backslash -/
  | surrogateEscape (leading : Nat)

/-- A string as far as it has been read. -/
structure Quoted where
  place : Quoted.Place
  /-- The bytes it stands for so far, newest first. -/
  bytes : List UInt8

namespace Quoted

/-- A string of which only the opening quote was read. -/
def start : Quoted := ⟨.plain, []⟩

/-- The number that some hexadecimal digits write. -/
def hexValue? (digits : List UInt8) : Option Nat := Hex.value? (digits.map (Char.ofNat ·.toNat))

/-- The byte that a letter after a backslash stands for. -/
def escaped? (b : UInt8) : Option UInt8 :=
  if b = '"'.toUInt8 ∨ b = '\\'.toUInt8 ∨ b = '/'.toUInt8 then some b
  else if b = 'b'.toUInt8 then some 0x08
  else if b = 'f'.toUInt8 then some 0x0c
  else if b = 'n'.toUInt8 then some 0x0a
  else if b = 'r'.toUInt8 then some 0x0d
  else if b = 't'.toUInt8 then some 0x09
  else none

def isLeading (n : Nat) : Bool := 0xd800 ≤ n ∧ n < 0xdc00

def isTrailing (n : Nat) : Bool := 0xdc00 ≤ n ∧ n < 0xe000

/-- Adds a character and stands between characters again. -/
def push (q : Quoted) (code : Nat) : Quoted :=
  ⟨.plain, (String.utf8EncodeChar (Char.ofNat code)).reverse ++ q.bytes⟩

/-- Takes the value of four hexadecimal digits. -/
def escapeCode (q : Quoted) (leading : Option Nat) (code : Nat) : Except Fault Quoted :=
  match leading with
  | none =>
    if isTrailing code then .error .loneSurrogate
    else if isLeading code then .ok { q with place := .surrogate code }
    else .ok (q.push code)
  | some high =>
    if isTrailing code then
      .ok (q.push (0x10000 + (high - 0xd800) * 0x400 + (code - 0xdc00)))
    else .error .loneSurrogate

/-- Reads one more byte; `none` if it is the closing quote. -/
def step (q : Quoted) (b : UInt8) : Except Fault (Option Quoted) :=
  match q.place with
  | .plain =>
    if b = '"'.toUInt8 then .ok none
    else if b = '\\'.toUInt8 then .ok (some { q with place := .escape })
    else if b < 0x20 then .error .controlCharacter
    else .ok (some { q with bytes := b :: q.bytes })
  | .escape =>
    if b = 'u'.toUInt8 then .ok (some { q with place := .hex none [] })
    else match escaped? b with
      | some raw => .ok (some ⟨.plain, raw :: q.bytes⟩)
      | none => .error .badEscape
  | .hex leading digits =>
    let digits := digits ++ [b]
    if digits.length < 4 then .ok (some { q with place := .hex leading digits })
    else match hexValue? digits with
      | some code => (q.escapeCode leading code).map some
      | none => .error .badEscape
  | .surrogate leading =>
    if b = '\\'.toUInt8 then .ok (some { q with place := .surrogateEscape leading })
    else .error .surrogateNotFollowed
  | .surrogateEscape leading =>
    if b = 'u'.toUInt8 then .ok (some { q with place := .hex (some leading) [] })
    else .error .surrogateNotFollowed

/-- The text of a string whose closing quote was read. -/
def text? (q : Quoted) : Option String :=
  (Utf8.decode? q.bytes.reverse).map String.ofList

/-- How many of its bytes follow the last readable character. -/
def badLength (q : Quoted) : Nat :=
  Utf8.badLength q.bytes.reverse

end Quoted

end TrackerBoard.Json
