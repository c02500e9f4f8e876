import TrackerBoard.Text.Digits
import TrackerBoard.Text.Hex

/-!
# Socket addresses

An address of four bytes or of eight words, and a port.  The words are written in hexadecimal
between brackets; the longest run of zero words, if it is longer than one, is left out, and an
address that stands for one of four bytes ends like that one.
-/

namespace TrackerBoard

/-- A socket address. -/
inductive SocketAddress where
  | bytes (host : List Nat) (port : Nat)
  /-- eight words, the number of the interface, and the port -/
  | words (host : List Nat) (scope : Nat) (port : Nat)
deriving DecidableEq, Repr

namespace SocketAddress

/-! ### Reading -/

/-- Reads a number of as many digits as there are, at least one. -/
def number? (base : Nat) (digit? : Char → Option Nat) (text : List Char) :
    Option (Nat × Nat × List Char) :=
  let digits := text.takeWhile fun c => (digit? c).isSome
  if digits = [] then none
  else
    some (digits.foldl (fun n c => n * base + (digit? c).getD 0) 0, digits.length,
      text.drop digits.length)

/-- Drops one character from the front. -/
def skip? (expected : Char) : List Char → Option (List Char)
  | c :: text => if c = expected then some text else none
  | [] => none

/-- A byte: up to three digits, without zeros in front. -/
def byte? (text : List Char) : Option (Nat × List Char) := do
  let (n, count, rest) ← number? 10 Digits.digit? text
  if count ≤ 3 ∧ n < 256 ∧ (count = 1 ∨ text.head? ≠ some '0') then some (n, rest) else none

/-- Four bytes with points between them. -/
def fourBytes? (text : List Char) : Option (List Nat × List Char) := do
  let (a, text) ← byte? text
  let (b, text) ← byte? (← skip? '.' text)
  let (c, text) ← byte? (← skip? '.' text)
  let (d, text) ← byte? (← skip? '.' text)
  return ([a, b, c, d], text)

/-- A word: up to four hexadecimal digits. -/
def word? (text : List Char) : Option (Nat × List Char) := do
  let (n, count, rest) ← number? 16 Hex.digit? text
  if count ≤ 4 then some (n, rest) else none

/-- Words with colons between them, at most `limit`; four bytes may stand for the last two. -/
def wordList : Nat → Bool → List Char → List Nat × Bool × List Char
  | 0, _, text => ([], false, text)
  | limit + 1, isFirst, text =>
    match if isFirst then some text else skip? ':' text with
    | none => ([], false, text)
    | some start =>
      match if 0 < limit then fourBytes? start else none with
      | some ([a, b, c, d], rest) => ([a * 256 + b, c * 256 + d], true, rest)
      | _ =>
        match word? start with
        | none => ([], false, text)
        | some (w, rest) =>
          let (ws, endsInBytes, rest) := wordList limit false rest
          (w :: ws, endsInBytes, rest)

/-- Eight words, of which a run of zeros may be left out. -/
def eightWords? (text : List Char) : Option (List Nat × List Char) :=
  let (head, endsInBytes, rest) := wordList 8 true text
  if head.length = 8 then some (head, rest)
  else if endsInBytes then none
  else do
    let rest ← skip? ':' rest
    let rest ← skip? ':' rest
    let (tail, _, rest) := wordList (7 - head.length) true rest
    return (head ++ List.replicate (8 - head.length - tail.length) 0 ++ tail, rest)

/-- A port behind a colon, at the end. -/
def port? (text : List Char) : Option Nat := do
  let text ← skip? ':' text
  let (port, _, rest) ← number? 10 Digits.digit? text
  if port < UInt16.size ∧ rest = [] then some port else none

/-- The number of an interface behind a percent sign, which may be missing. -/
def scope? (text : List Char) : Option (Nat × List Char) :=
  match text with
  | '%' :: text => do
    let (scope, _, rest) ← number? 10 Digits.digit? text
    if scope < UInt32.size then some (scope, rest) else none
  | text => some (0, text)

/-- Reads an address. -/
def ofText? (text : String) : Option SocketAddress :=
  match text.toList with
  | '[' :: text => do
    let (host, text) ← eightWords? text
    let (scope, text) ← scope? text
    let port ← port? (← skip? ']' text)
    return words host scope port
  | text => do
    let (host, text) ← fourBytes? text
    let port ← port? text
    return bytes host port

/-! ### Writing -/

/-- Numbers with points between them. -/
def bytesText (host : List Nat) : String := ".".intercalate (host.map toString)

/-- Words in hexadecimal with colons between them. -/
def wordsText (host : List Nat) : String :=
  ":".intercalate (host.map fun w => String.ofList (Nat.toDigits 16 w))

/-- The start and the length of the first longest run of zeros, counted from `index`. -/
def longestRun : Nat → List Nat → Nat × Nat
  | _, [] => (0, 0)
  | index, w :: host =>
    let later := longestRun (index + 1) host
    let length := ((w :: host).takeWhile (· = 0)).length
    if later.2 ≤ length ∧ 0 < length then (index, length) else later

/-- The text of eight words. -/
def hostText (host : List Nat) : String :=
  match host with
  | [0, 0, 0, 0, 0, 0xffff, high, low] =>
    "::ffff:" ++ bytesText [high / 256, high % 256, low / 256, low % 256]
  | _ =>
    let (start, length) := longestRun 0 host
    if 1 < length then
      wordsText (host.take start) ++ "::" ++ wordsText (host.drop (start + length))
    else wordsText host

/-- The text of an address. -/
def text : SocketAddress → String
  | bytes host port => bytesText host ++ ":" ++ toString port
  | words host scope port =>
    let scopeText := if scope = 0 then "" else "%" ++ toString scope
    "[" ++ hostText host ++ scopeText ++ "]:" ++ toString port

end SocketAddress

end TrackerBoard
