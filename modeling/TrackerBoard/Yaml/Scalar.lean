import TrackerBoard.Text.Hex
import TrackerBoard.Yaml.Cursor

/-!
# Plain and quoted scalars

A scalar without quotes ends where something else may begin; in single quotes a quote is written
twice; in double quotes a backslash starts an escape.  All of them may run over several lines,
which are then folded: a line feed becomes a space, and each further one stays.
-/

namespace TrackerBoard.Yaml

/-- How a scalar was written. -/
inductive Style where
  /-- without quotes -/
  | plain
  /-- in lines of its own, with its line breaks -/
  | literal
  /-- in quotes, or in lines of its own that are folded -/
  | quoted
deriving DecidableEq, Repr

namespace Scalar

/-- What the line breaks between two lines of a scalar become. -/
def fold : List Char → List Char
  | ['\n'] => [' ']
  | '\n' :: breaks => breaks
  | breaks => breaks

/-! ### Plain scalars -/

/-- The characters with a meaning of their own inside brackets. -/
def flowIndicators : List Char := [',', '[', ']', '\x7b', '\x7d']

/-- The characters with which no plain scalar starts. -/
def indicators : List Char :=
  flowIndicators ++ ['#', '&', '*', '!', '|', '>', '\'', '"', '%', '@', '\x60']

/-- Whether a plain scalar may start here. -/
def startsPlain (inFlow : Bool) : List Char → Bool
  | [] => false
  | c :: text =>
    if startsBlank (c :: text) ∨ c ∈ indicators then false
    else if c = '-' then ¬ startsBlank text
    else if c = '?' ∨ c = ':' then ¬ inFlow ∧ ¬ startsBlank text
    else true

/-- How many characters of a line belong to a plain scalar, blanks at its end included.  Inside
brackets a colon must not stand before one of the characters with a meaning there. -/
def plainLength? (inFlow : Bool) : Bool → List Char → Option Nat
  | _, [] => some 0
  | afterBlank, c :: text =>
    if isBreak c ∨ (c = '#' ∧ afterBlank) ∨ (c = ':' ∧ startsBlank text) ∨
        (inFlow ∧ c ∈ flowIndicators) then some 0
    else if inFlow ∧ c = ':' ∧ text.head?.any (· ∈ '?' :: flowIndicators) then none
    else (plainLength? inFlow (isBlank c) text).map (· + 1)

/-- Drops blanks at the end. -/
def trimEnd (text : List Char) : List Char := (text.reverse.dropWhile isBlank).reverse

/-- The part of a plain scalar on one line, and the cursor behind its last character. -/
def plainLine? (inFlow : Bool) (c : Cursor) : Option (List Char × Cursor) := do
  let line := trimEnd (c.text.take (← plainLength? inFlow false c.text))
  return (line, c.skip line.length)

/-- A plain scalar as it was read. -/
structure Plain where
  text : List Char
  /-- Whether a line break follows it. -/
  endsLine : Bool
  /-- The cursor behind the blanks and the line breaks that follow it. -/
  next : Cursor

/-- Further lines of a plain scalar; in block context they start at the column `least` or later. -/
def plainLines? (inFlow : Bool) (least : Nat) : Nat → List Char → Cursor → Option Plain
  | 0, _, _ => none
  | fuel + 1, sofar, c => do
    let (breaks, next) ← c.lines? least
    let continues : Bool :=
      breaks ≠ [] ∧ (inFlow ∨ least ≤ next.column) ∧ next.text ≠ [] ∧ ¬ next.atMarker ∧
        ¬ next.startsWith '#'
    let (line, after) ← if continues then plainLine? inFlow next else some ([], next)
    if line = [] then return ⟨sofar, breaks ≠ [], next⟩
    else plainLines? inFlow least fuel (sofar ++ fold breaks ++ line) after

/-- A plain scalar. -/
def plain? (inFlow : Bool) (least : Nat) (c : Cursor) : Option Plain :=
  if startsPlain inFlow c.text then do
    let (line, after) ← plainLine? inFlow c
    plainLines? inFlow least c.text.length line after
  else none

/-! ### Quoted scalars -/

/-- The escapes of one letter. -/
def escapes : List (Char × Char) :=
  [('0', '\x00'), ('a', '\x07'), ('b', '\x08'), ('t', '\t'), ('\t', '\t'), ('n', '\n'),
    ('v', '\x0b'), ('f', '\x0c'), ('r', '\x0d'), ('e', '\x1b'), (' ', ' '), ('"', '"'),
    ('/', '/'), ('\\', '\\'), ('N', '\u0085'), ('_', '\u00a0'), ('L', '\u2028'), ('P', '\u2029')]

/-- How many hexadecimal digits follow a letter. -/
def hexWidth? : Char → Option Nat
  | 'x' => some 2
  | 'u' => some 4
  | 'U' => some 8
  | _ => none

/-- The character of some hexadecimal digits. -/
def hexChar? (digits : List Char) : Option Char :=
  ((Hex.value? digits).filter (·.isValidChar)).map Char.ofNat

/-- An escape after its backslash, within a line. -/
def escape? : List Char → Option (Char × List Char)
  | [] => none
  | c :: text =>
    match hexWidth? c with
    | some width =>
      if width ≤ text.length then (hexChar? (text.take width)).map (·, text.drop width) else none
    | none => (escapes.lookup c).map (·, text)

/-- The body of a quoted scalar up to its closing quote; `sofar` comes newest first, and `blanks`
are the blanks read last, which a line break would drop. -/
def quotedBody? (quote : Char) : Nat → List Char → List Char → Cursor → Option (List Char × Cursor)
  | 0, _, _, _ => none
  | fuel + 1, sofar, blanks, c =>
    let keep := blanks ++ sofar
    match c.text with
    | [] => none
    | d :: text =>
      if c.atMarker then none
      else if isBreak d then do
        let (breaks, next) ← c.lines? 0
        quotedBody? quote fuel ((fold breaks).reverse ++ sofar) [] next
      else if isBlank d then quotedBody? quote fuel sofar (d :: blanks) (c.skip 1)
      else if d = quote then
        if quote = '\'' ∧ text.head? = some quote then
          quotedBody? quote fuel (quote :: keep) [] (c.skip 2)
        else some (keep.reverse, c.skip 1)
      else if d = '\\' ∧ quote = '"' then
        if text.head?.any isBreak then do
          let (breaks, next) ← (c.skip 1).lines? 0
          quotedBody? quote fuel (breaks.tail.reverse ++ keep) [] next
        else do
          let (e, rest) ← escape? text
          quotedBody? quote fuel (e :: keep) [] (c.skip (c.text.length - rest.length))
      else quotedBody? quote fuel (d :: keep) [] (c.skip 1)

/-- A quoted scalar. -/
def quoted? (c : Cursor) : Option (List Char × Cursor) :=
  match c.text with
  | quote :: _ =>
    if quote = '"' ∨ quote = '\'' then quotedBody? quote c.text.length [] [] (c.skip 1) else none
  | [] => none

end Scalar

end TrackerBoard.Yaml
