import TrackerBoard.Yaml.Token

/-!
# Layout

Outside brackets the columns tell what belongs together.  A block collection starts at a column,
and it is over where something starts before that column.

A key without a question mark is known by the colon behind it.  So wherever a key may start, the
place is kept, one for each bracket that is open, and the colon puts the tokens for the key where
it started.  The colon must be on the same line and not too far away.  What starts at the column
of the innermost block collection has to be a key.
-/

namespace TrackerBoard.Yaml

/-- A place where a key may have started. -/
structure PendingKey where
  start : Position
  /-- How many tokens are before it. -/
  count : Nat
  /-- Whether it must turn out to be a key. -/
  isRequired : Bool
deriving DecidableEq, Repr

/-- The furthest that a key reaches, in bytes. -/
def PendingKey.maxLength : Nat := 1024

/-- Whether a colon may follow at a place. -/
def PendingKey.reaches (k : PendingKey) (p : Position) : Bool :=
  k.start.line = p.line ∧ p.offset ≤ k.start.offset + maxLength

/-- A document that is read in part. -/
structure Layout where
  cursor : Cursor
  /-- Newest first. -/
  tokens : List Token := []
  count : Nat := 0
  /-- The columns of the open block collections, innermost first. -/
  columns : List Nat := []
  pending : Option PendingKey := none
  /-- What is pending outside each of the open brackets, innermost first. -/
  outer : List (Option PendingKey) := []
  /-- Whether a block collection or a key without a question mark may start. -/
  isFree : Bool := true

namespace Layout

/-- Whether a bracket is open. -/
def inFlow (l : Layout) : Bool := ¬ l.outer.isEmpty

/-- The first column inside the innermost block collection. -/
def least (l : Layout) : Nat :=
  match l.columns with
  | [] => 0
  | column :: _ => column + 1

/-- Adds a token. -/
def add (l : Layout) (t : Token) : Layout :=
  { l with tokens := t :: l.tokens, count := l.count + 1 }

/-- Adds a token where others are already behind it: only `count` tokens are before it. -/
def insert (l : Layout) (count : Nat) (t : Token) : Layout :=
  { l with tokens := l.tokens.insertIdx (l.count - count) t, count := l.count + 1 }

/-- Adds the token of some characters at the cursor. -/
def take (l : Layout) (length : Nat) (t : Token) : Layout :=
  { l.add t with cursor := l.cursor.skip length }

/-! ### Block collections -/

/-- Ends block collections from the innermost on, as long as their columns say so. -/
def close (isOver : Nat → Bool) (l : Layout) : Layout :=
  if l.inFlow then l
  else
    let ends := l.columns.takeWhile isOver
    { l with
      tokens := ends.map (fun _ => .blockEnd) ++ l.tokens
      count := l.count + ends.length
      columns := l.columns.drop ends.length }

/-- Ends all block collections. -/
def closeAll (l : Layout) : Layout := l.close fun _ => true

/-- Starts a block collection at a column, unless that is the column of the innermost one;
`count` tokens are before it. -/
def start (l : Layout) (column count : Nat) (t : Token) : Layout :=
  if ¬ l.inFlow ∧ l.least ≤ column then { l.insert count t with columns := column :: l.columns }
  else l

/-! ### Keys -/

/-- Forgets the pending key, which must not be required. -/
def forget? (l : Layout) : Option Layout :=
  if l.pending.any (·.isRequired) then none else some { l with pending := none }

/-- Keeps the cursor as a place where a key may have started. -/
def await? (l : Layout) : Option Layout :=
  if l.isFree then do
    let isRequired : Bool := ¬ l.inFlow ∧ l.least = l.cursor.column + 1
    return { ← l.forget? with pending := some ⟨l.cursor.position, l.count, isRequired⟩ }
  else some l

/-- Skips a gap, and ends the block collections that the column behind it ends. -/
def skipGap (l : Layout) : Layout :=
  let (isFree, cursor) := l.cursor.gap l.inFlow l.isFree
  { l with cursor, isFree }.close (cursor.column < ·)

end Layout

end TrackerBoard.Yaml
