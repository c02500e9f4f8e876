import TrackerBoard.Yaml.Scalar

/-!
# Block scalars

A block scalar stands in lines of its own behind a sign, all of them indented by as much.  It
keeps its line breaks (`|`) or folds them (`>`); lines that are indented by more are not folded.
Of the line breaks at its end one is kept, or none, or all.
-/

namespace TrackerBoard.Yaml.BlockScalar

/-- What happens to the line breaks at the end. -/
inductive Chomping where
  | clip
  | strip
  | keep
deriving DecidableEq

/-- The marks behind the sign. -/
structure Header where
  chomping : Chomping := .clip
  indent : Option Nat := none

/-- Reads at most `count` marks behind the sign, each at most once. -/
def header? : Nat → Header → List Char → Option (Header × List Char)
  | 0, h, text => some (h, text)
  | _ + 1, h, [] => some (h, [])
  | count + 1, h, c :: text =>
    if c = '-' ∨ c = '+' then
      if h.chomping = .clip then
        header? count { h with chomping := if c = '-' then .strip else .keep } text
      else none
    else if '1' ≤ c ∧ c ≤ '9' then
      if h.indent.isNone then header? count { h with indent := some (c.toNat - 48) } text else none
    else some (h, c :: text)

/-- The indentation of the first line that is not empty, or of an empty one before it that is
indented by more. -/
def indentation? : Nat → Nat → List Char → Option Nat
  | deepest, column, [] => some (max deepest column)
  | deepest, column, c :: text =>
    if c = ' ' then indentation? deepest (column + 1) text
    else if c = '\t' then none
    else if isBreak c then indentation? (max deepest column) 0 text
    else some (max deepest column)

/-- Skips empty lines and the indentation of the next one, and keeps the line breaks. -/
def emptyLines? (indent : Nat) : Position → List Char → Option (List Char × Cursor)
  | p, [] => some ([], ⟨p, []⟩)
  | p, c :: text =>
    if c = ' ' ∧ p.column < indent then emptyLines? indent (p.after c) text
    else if c = '\t' ∧ p.column < indent then none
    else if isBreak c then
      (emptyLines? indent (p.after c) text).map fun (breaks, next) => (c :: breaks, next)
    else some ([], ⟨p, c :: text⟩)

/-- A line, its line break if it has one, and the line breaks of the empty lines after it. -/
structure Line where
  text : List Char
  ending : List Char
  empties : List Char

/-- The lines from the cursor on that are indented by `indent`. -/
def lines? (indent : Nat) : Nat → Cursor → Option (List Line × Cursor)
  | 0, c => some ([], c)
  | fuel + 1, c =>
    if c.column = indent ∧ c.text ≠ [] then do
      let text := c.text.takeWhile (¬ isBreak ·)
      let lineEnd := c.skip text.length
      let nextLine := lineEnd.skip 1
      let (empties, next) ← emptyLines? indent nextLine.position nextLine.text
      let (lines, after) ← lines? indent fuel next
      return (⟨text, lineEnd.text.take 1, empties⟩ :: lines, after)
    else return ([], c)

/-- What stands between two lines. -/
def join (isFolded : Bool) (line next : Line) : List Char :=
  let isMore (l : Line) : Bool := l.text.head?.any isBlank
  if isFolded ∧ line.ending = ['\n'] ∧ ¬ isMore line ∧ ¬ isMore next then
    if line.empties = [] then [' '] else line.empties
  else line.ending ++ line.empties

/-- The text of some lines, with what is kept of the line breaks at the end. -/
def text (isFolded : Bool) (chomping : Chomping) : List Line → List Char
  | [] => []
  | [line] =>
    line.text ++ (match chomping with
      | .strip => []
      | .clip => line.ending
      | .keep => line.ending ++ line.empties)
  | line :: next :: lines =>
    line.text ++ join isFolded line next ++ text isFolded chomping (next :: lines)

/-- A block scalar, the sign of which stands at the cursor.  Its lines start at the column `least`
or later, and never at the first. -/
def read? (least : Nat) (c : Cursor) : Option (List Char × Cursor) := do
  let isFolded := c.startsWith '>'
  let (header, rest) ← header? 2 {} (c.text.drop 1)
  let body ← (c.skip (c.text.length - rest.length)).nextLine?
  let indent ← match header.indent with
    | some n => some (least - 1 + n)
    | none => (indentation? 0 0 body.text).map (max · (max least 1))
  let (empties, start) ← emptyLines? indent body.position body.text
  let (lines, after) ← lines? indent body.text.length start
  let front := if lines.isEmpty ∧ header.chomping ≠ .keep then [] else empties
  return (front ++ text isFolded header.chomping lines, after)

end TrackerBoard.Yaml.BlockScalar
