import TrackerBoard.Yaml.BlockScalar
import TrackerBoard.Yaml.Layout

/-!
# From text to tokens

What token starts at the cursor, and what it does to the layout.
-/

namespace TrackerBoard.Yaml

namespace Layout

/-- A directive. -/
def directive? (l : Layout) : Option Layout := do
  let l ← l.closeAll.forget?
  let (directive, after) ← Directive.read? l.cursor
  return { l.add (.directive directive) with cursor := after, isFree := false }

/-- A line between documents. -/
def marker? (l : Layout) (t : Token) : Option Layout := do
  return { (← l.closeAll.forget?).take 3 t with isFree := false }

/-- An opening bracket. -/
def open? (l : Layout) (t : Token) : Option Layout := do
  let l ← l.await?
  return { l.take 1 t with pending := none, outer := l.pending :: l.outer, isFree := true }

/-- A closing bracket. -/
def close? (l : Layout) (t : Token) : Option Layout := do
  let l ← l.forget?
  return { l.take 1 t with pending := l.outer.head?.join, outer := l.outer.tail, isFree := false }

/-- A comma. -/
def comma? (l : Layout) : Option Layout := do
  return { (← l.forget?).take 1 .comma with isFree := true }

/-- The dash of an item. -/
def dash? (l : Layout) : Option Layout := do
  if l.isFree ∨ l.inFlow then
    let l ← (l.start l.cursor.column l.count .listStart).forget?
    return { l.take 1 .dash with isFree := true }
  else none

/-- The question mark of a key. -/
def key? (l : Layout) : Option Layout := do
  if l.isFree ∨ l.inFlow then
    let l ← (l.start l.cursor.column l.count .mappingStart).forget?
    return { l.take 1 .key with isFree := ¬ l.inFlow }
  else none

/-- The colon of a value. -/
def value? (l : Layout) : Option Layout :=
  match l.pending.filter (·.reaches l.cursor.position) with
  | some k =>
    let l := (l.insert k.count .key).start k.start.column k.count .mappingStart
    some { l.take 1 .value with pending := none, isFree := false }
  | none => do
    let l ← l.forget?
    if l.isFree ∨ l.inFlow then
      let l := l.start l.cursor.column l.count .mappingStart
      return { l.take 1 .value with isFree := ¬ l.inFlow }
    else none

/-- A token that may start a key and is not a block scalar. -/
def node? {α : Type} (l : Layout) (read : Cursor → Option (α × Cursor)) (token : α → Token) :
    Option Layout := do
  let l ← l.await?
  let (x, cursor) ← read l.cursor
  return { l.add (token x) with cursor, isFree := false }

/-- A tag, which a blank must follow, or a comma between brackets. -/
def tag? (l : Layout) : Option Layout := do
  let l ← l.node? Tag.read? .tag
  if startsBlank l.cursor.text ∨ (l.inFlow ∧ l.cursor.startsWith ',') then return l else none

/-- A plain scalar. -/
def plain? (l : Layout) : Option Layout := do
  let l ← l.await?
  let p ← Scalar.plain? l.inFlow l.least l.cursor
  let token := Token.scalar (String.ofList p.text) .plain
  return { l.add token with cursor := p.next, isFree := p.endsLine }

/-- A block scalar. -/
def block? (l : Layout) (style : Style) : Option Layout := do
  let l ← l.forget?
  let (text, cursor) ← BlockScalar.read? l.least l.cursor
  return { l.add (.scalar (String.ofList text) style) with cursor, isFree := true }

/-- The token that starts with a character at the cursor, if no line between documents is there. -/
def token? (l : Layout) : Char → Option Layout
  | '[' => l.open? .listOpen
  | '\x7b' => l.open? .mappingOpen
  | ']' => l.close? .listClose
  | '\x7d' => l.close? .mappingClose
  | ',' => l.comma?
  | '*' => l.node? (fun c => anchorName? (c.skip 1)) .reference
  | '&' => l.node? (fun c => anchorName? (c.skip 1)) .anchor
  | '!' => l.tag?
  | '"' | '\'' => l.node? Scalar.quoted? fun text => .scalar (String.ofList text) .quoted
  | c =>
    let isSign : Bool := startsBlank l.cursor.text.tail
    if c = '-' ∧ isSign then l.dash?
    else if c = '?' ∧ (l.inFlow ∨ isSign) then l.key?
    else if c = ':' ∧ (l.inFlow ∨ isSign) then l.value?
    else if c = '|' ∧ ¬ l.inFlow then l.block? .literal
    else if c = '>' ∧ ¬ l.inFlow then l.block? .quoted
    else l.plain?

/-- Reads the token at the cursor. -/
def step? (l : Layout) (c : Char) : Option Layout :=
  if c = '%' ∧ l.cursor.column = 0 then l.directive?
  else if l.cursor.atMarkerOf '-' then l.marker? .documentStart
  else if l.cursor.atMarkerOf '.' then l.marker? .documentEnd
  else l.token? c

/-- Reads tokens to the end; each is at least one character long, so there are no more than
`fuel`. -/
def run? : Nat → Layout → Option (List Token)
  | 0, _ => none
  | fuel + 1, l =>
    let l := l.skipGap
    match l.cursor.text with
    | [] => l.closeAll.forget?.map (·.tokens.reverse)
    | c :: _ => l.step? c >>= run? fuel

end Layout

/-! ### The characters of a document -/

/-- Whether a document may hold a character. -/
def isAllowed (c : Char) : Bool :=
  c = '\t' ∨ c = '\n' ∨ ('\x20' ≤ c ∧ c ≤ '\x7e') ∨
    ('\u00a0' ≤ c ∧ c ≠ '\ufffe' ∧ c ≠ '\uffff')

/-- Makes a line feed of every line break but the two separators. -/
def normalize : List Char → List Char
  | [] => []
  | '\r' :: '\n' :: text => '\n' :: normalize text
  | '\r' :: text => '\n' :: normalize text
  | '\u0085' :: text => '\n' :: normalize text
  | c :: text => c :: normalize text

/-- The tokens of a document. -/
def Token.ofText? (text : String) : Option (List Token) :=
  let chars := normalize text.toList
  if chars.all isAllowed then Layout.run? (chars.length + 1) { cursor := .ofText chars } else none

end TrackerBoard.Yaml
