/-!
# Cursors

A cursor is what is left of a document, and the position in it where that starts.  Between the
parts of a document there may be gaps of blanks, line breaks and comments.  Where a block
collection may start, a gap holds no tab.
-/

namespace TrackerBoard.Yaml

/-- A line break: a line feed, or the separator of lines or of paragraphs. -/
def isBreak (c : Char) : Bool := c = '\n' ∨ c = '\u2028' ∨ c = '\u2029'

def isBlank (c : Char) : Bool := c = ' ' ∨ c = '\t'

/-- Whether a text starts with a blank or a line break, or is over. -/
def startsBlank : List Char → Bool
  | [] => true
  | c :: _ => isBlank c ∨ isBreak c

/-- A place in a document: how many bytes of UTF-8 and how many lines are before it, and how many
characters of its own line. -/
structure Position where
  offset : Nat := 0
  line : Nat := 0
  column : Nat := 0
deriving DecidableEq, Repr

/-- The place behind a character. -/
def Position.after (p : Position) (c : Char) : Position :=
  let offset := p.offset + c.utf8Size
  if isBreak c then ⟨offset, p.line + 1, 0⟩ else ⟨offset, p.line, p.column + 1⟩

/-- What is left of a document. -/
structure Cursor where
  position : Position
  text : List Char
deriving DecidableEq, Repr

namespace Cursor

/-- The start of a document. -/
def ofText (text : List Char) : Cursor := ⟨{}, text⟩

def column (c : Cursor) : Nat := c.position.column

/-- The cursor some characters later. -/
def skip (c : Cursor) (count : Nat) : Cursor :=
  ⟨(c.text.take count).foldl Position.after c.position, c.text.drop count⟩

/-- The cursor behind all characters of a kind. -/
def skipWhile (c : Cursor) (p : Char → Bool) : Cursor := c.skip (c.text.takeWhile p).length

/-- Skips blanks of the line. -/
def skipBlanks (c : Cursor) : Cursor := c.skipWhile isBlank

/-- Whether a character stands at the cursor. -/
def startsWith (c : Cursor) (expected : Char) : Bool := c.text.head? = some expected

/-- Whether three of a character start a line here, as between documents. -/
def atMarkerOf (mark : Char) (c : Cursor) : Bool :=
  c.column == 0 && c.text.take 3 == [mark, mark, mark] && startsBlank (c.text.drop 3)

/-- Whether a line with three dashes or three points stands here. -/
def atMarker (c : Cursor) : Bool := c.atMarkerOf '-' || c.atMarkerOf '.'

/-- The cursor at the next line, if only blanks and a comment are left of this one. -/
def nextLine? (c : Cursor) : Option Cursor :=
  let c := c.skipBlanks
  let c := if c.startsWith '#' then c.skipWhile (¬ isBreak ·) else c
  if c.text.head?.all isBreak then some (c.skip 1) else none

/-! ### Gaps -/

/-- The mark that may start any line and means nothing there. -/
def byteOrderMark : Char := '\ufeff'

/-- Skips a gap.  `isFree` tells whether a block collection may start, which a line break allows
again outside brackets; `inComment` tells whether a comment was begun. -/
def gapFrom (inFlow : Bool) : Bool → Bool → Position → List Char → Bool × Cursor
  | isFree, _, p, [] => (isFree, ⟨p, []⟩)
  | isFree, inComment, p, c :: text =>
    if isBreak c then gapFrom inFlow (isFree ∨ ¬ inFlow) false (p.after c) text
    else if inComment ∨ c = '#' then gapFrom inFlow isFree true (p.after c) text
    else if c = ' ' ∨ (c = '\t' ∧ (inFlow ∨ ¬ isFree)) ∨ (c = byteOrderMark ∧ p.column = 0) then
      gapFrom inFlow isFree false (p.after c) text
    else (isFree, ⟨p, c :: text⟩)

/-- Skips a gap, and tells whether a block collection may start behind it. -/
def gap (inFlow isFree : Bool) (c : Cursor) : Bool × Cursor :=
  gapFrom inFlow isFree false c.position c.text

/-- Skips blanks and line breaks inside a scalar, and keeps the breaks.  A tab may not stand in the
first `least` columns of a later line; `isLater` tells whether a break was passed. -/
def linesFrom (least : Nat) : Bool → Position → List Char → Option (List Char × Cursor)
  | _, p, [] => some ([], ⟨p, []⟩)
  | isLater, p, c :: text =>
    if isBreak c then
      (linesFrom least true (p.after c) text).map fun (breaks, next) => (c :: breaks, next)
    else if c = '\t' ∧ isLater ∧ p.column < least then none
    else if isBlank c then linesFrom least isLater (p.after c) text
    else some ([], ⟨p, c :: text⟩)

/-- Skips blanks and line breaks inside a scalar, and keeps the breaks. -/
def lines? (least : Nat) (c : Cursor) : Option (List Char × Cursor) :=
  linesFrom least false c.position c.text

end Cursor

end TrackerBoard.Yaml
