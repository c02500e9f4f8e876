import TrackerBoard.Text.Hex
import TrackerBoard.Text.Utf8
import TrackerBoard.Yaml.Cursor

/-!
# Anchors and tags

A node may have an anchor (`&name`), by which an alias (`*name`) refers to it, and a tag
(`!handle!rest`, `!rest` or `!<name>`).  A tag names a list of bytes: its handle stands for the
start of the name, and two hexadecimal digits behind a percent sign stand for one byte.
-/

namespace TrackerBoard.Yaml

/-- Whether a character may stand in the name of an anchor or a handle. -/
def isNameChar (c : Char) : Bool := c.isAlphanum ∨ c = '-' ∨ c = '_'

/-- The name at the cursor, and what follows. -/
def name (c : Cursor) : String × Cursor :=
  (String.ofList (c.text.takeWhile isNameChar), c.skipWhile isNameChar)

/-- The name of an anchor behind its sign, and what follows. -/
def anchorName? (c : Cursor) : Option (String × Cursor) :=
  let (anchor, after) := name c
  if anchor ≠ "" ∧ (startsBlank after.text ∨
      after.text.head?.any (· ∈ ['?', ':', ',', ']', '\x7d', '%', '@', '\x60'])) then
    some (anchor, after)
  else none

/-- A tag as it is written: a handle that stands for the start of a name, and the rest of it.  A
tag that is a name as a whole has no handle. -/
structure Tag where
  handle : String
  rest : List UInt8
deriving DecidableEq, Repr

/-- What the handles of a document stand for. -/
abbrev Handles := List (String × List UInt8)

namespace Tag

/-- The tags of the language itself. -/
def language (rest : String) : List UInt8 := Utf8.encode ("tag:yaml.org,2002:" ++ rest).toList

/-- The handles that need no directive. -/
def defaultHandles : Handles := [("!", Utf8.encode ['!']), ("!!", language "")]

/-- The name of a tag. -/
def name? (handles : Handles) (t : Tag) : Option (List UInt8) :=
  if t.handle = "" then some t.rest else (handles.lookup t.handle).map (· ++ t.rest)

/-- Whether a character may stand in a tag as it is; brackets and commas may only where the tag is
written as a whole. -/
def isTagChar (isWhole : Bool) (c : Char) : Bool :=
  isNameChar c || "-;/?:@&=+$.!~*'()".toList.contains c ||
    (isWhole && [',', '[', ']'].contains c)

/-- Whether a byte written in digits may stand here: where `due` bytes of a character are still to
come one of those, else the first one of a character.  The answer is how many are to come then. -/
def due? (due : Nat) (byte : UInt8) : Option Nat :=
  if due = 0 then (Utf8.lead? byte).map (·.1)
  else if byte.toNat / 64 = 2 then some (due - 1)
  else none

/-- The bytes of the characters of a tag, and what follows. -/
def bytes? (isWhole : Bool) : Nat → Nat → Cursor → Option (List UInt8 × Cursor)
  | 0, _, c => some ([], c)
  | fuel + 1, due, c =>
    match c.text with
    | '%' :: high :: low :: _ => do
      let byte := (← Hex.value? [high, low]).toUInt8
      let (bytes, c) ← bytes? isWhole fuel (← due? due byte) (c.skip 3)
      return (byte :: bytes, c)
    | d :: _ =>
      if due ≠ 0 ∨ d = '%' then none
      else if isTagChar isWhole d then do
        let (bytes, c) ← bytes? isWhole fuel 0 (c.skip 1)
        return (d.toUInt8 :: bytes, c)
      else some ([], c)
    | [] => if due ≠ 0 then none else some ([], c)

/-- What the characters of a tag stand for, and what follows. -/
def chars? (isWhole : Bool) (c : Cursor) : Option (List UInt8 × Cursor) :=
  bytes? isWhole c.text.length 0 c

/-- Part of a name, which a byte of zero ends. -/
def part (bytes : List UInt8) : List UInt8 := bytes.takeWhile (· ≠ 0)

/-- The handle at the cursor, with its signs, and what follows. -/
def writtenHandle (c : Cursor) : String × Cursor :=
  let (text, after) := name (c.skip 1)
  if after.startsWith '!' then ("!" ++ text ++ "!", after.skip 1) else ("!" ++ text, after)

/-- A tag, its sign standing at the cursor, and what follows.  Only a tag without handle may be
the sign alone. -/
def read? (c : Cursor) : Option (Tag × Cursor) :=
  if (c.skip 1).startsWith '<' then do
    let (rest, after) ← chars? true (c.skip 2)
    if rest ≠ [] ∧ after.startsWith '>' then some (⟨"", part rest⟩, after.skip 1) else none
  else
    let (handle, after) := writtenHandle c
    if handle ≠ "!" ∧ handle.endsWith "!" then do
      let (rest, after) ← chars? false after
      if rest ≠ [] then some (⟨handle, part rest⟩, after) else none
    else do
      let (rest, after) ← chars? false (c.skip 1)
      some (if part rest = [] then ⟨"", Utf8.encode ['!']⟩ else ⟨"!", part rest⟩, after)

end Tag

end TrackerBoard.Yaml
