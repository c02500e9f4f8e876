import TrackerBoard.Text.Digits
import TrackerBoard.Yaml.Mark

/-!
# Directives

A line that starts with a percent sign gives the version of the language or what a handle stands
for.
-/

namespace TrackerBoard.Yaml

/-- What a directive says. -/
inductive Directive where
  | version (major minor : Nat)
  | handle (name : String) (start : List UInt8)
deriving DecidableEq, Repr

namespace Directive

/-- The most digits of a number in a version. -/
def maxDigits : Nat := 9

/-- A number in a version, and what follows. -/
def number? (c : Cursor) : Option (Nat × Cursor) :=
  let digits := c.text.takeWhile Char.isDigit
  if digits.length ≤ maxDigits then
    (Digits.natural? digits).map (·, c.skip digits.length)
  else none

/-- The version of the language. -/
def version? (c : Cursor) : Option (Directive × Cursor) := do
  let (major, after) ← number? c
  if after.startsWith '.' then
    let (minor, after) ← number? (after.skip 1)
    return (.version major minor, after)
  else none

/-- What a handle stands for. -/
def handle? (c : Cursor) : Option (Directive × Cursor) := do
  let (written, after) := Tag.writtenHandle c
  let (start, rest) ← Tag.chars? true after.skipBlanks
  if c.startsWith '!' ∧ written.endsWith "!" ∧ after.text.head?.any isBlank ∧ start ≠ [] ∧
      startsBlank rest.text then
    return (.handle written (Tag.part start), rest)
  else none

/-- The directive whose sign stands at the cursor, and the cursor at the next line. -/
def read? (c : Cursor) : Option (Directive × Cursor) := do
  let (name, after) := name (c.skip 1)
  let (directive, after) ←
    if ¬ startsBlank after.text then none
    else if name = "YAML" then version? after.skipBlanks
    else if name = "TAG" then handle? after.skipBlanks
    else none
  return (directive, ← after.nextLine?)

end Directive

end TrackerBoard.Yaml
