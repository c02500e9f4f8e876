import TrackerBoard.Json.Numeral
import TrackerBoard.Json.Quoted

/-!
# Reading JSON

The reader is a machine that takes one byte at a time.  Its state is the stack of lists and
objects that are open, and the place inside the innermost one.  A text is JSON when the machine
takes every byte of it and may stop there.  As every byte is looked at once, an error is at the
byte that caused it, and reading a text in two pieces is reading the first and then the second
(`run_append`).
-/

namespace TrackerBoard.Json

/-- A list or an object whose next value is awaited; values already read come newest first. -/
inductive Container where
  | list (items : List Value)
  | object (members : Members) (name : String)

namespace Reader

/-- The place inside the innermost open container, or outside of all. -/
inductive Place where
  /-- a value must follow -/
  | value
  /-- after an opening bracket -/
  | firstItem
  /-- after a comma in a list -/
  | nextItem
  /-- after an opening brace -/
  | firstName
  /-- after a comma in an object with these members -/
  | nextName (members : Members)
  /-- inside the name of a member -/
  | name (members : Members) (text : Quoted)
  /-- after the name of a member -/
  | colon (members : Members) (name : String)
  /-- inside one of the three words, before these letters -/
  | word (rest : List UInt8) (value : Value)
  /-- inside a number -/
  | number (n : Numeral)
  /-- inside a string -/
  | string (text : Quoted)
  /-- after a value -/
  | done (value : Value)

end Reader

/-- A state of the reader. -/
structure Reader where
  stack : List Container
  place : Reader.Place

/-- Why and where the reader stopped: a cause, and how far before the byte just taken. -/
structure Halt where
  fault : Fault
  back : Nat

namespace Reader

/-- Nothing has been read. -/
def start : Reader := ⟨[], .value⟩

/-- The number of containers that may be open at once. -/
def depthLimit : Nat := 127

/-- Space, tab, line feed and carriage return may stand between the parts of a text. -/
def isBlank (b : UInt8) : Bool :=
  b == 0x20 || b == 0x09 || b == 0x0a || b == 0x0d

/-- The letters of a word. -/
def letters (word : String) : List UInt8 := word.toList.map Char.toUInt8

/-- The first byte of a value. -/
def startValue (stack : List Container) (b : UInt8) : Except Halt Reader :=
  if b = '"'.toUInt8 then .ok ⟨stack, .string .start⟩
  else if b = '['.toUInt8 then
    if stack.length < depthLimit then .ok ⟨.list [] :: stack, .firstItem⟩
    else .error ⟨.tooDeep, 0⟩
  else if b = 0x7b then
    if stack.length < depthLimit then .ok ⟨stack, .firstName⟩ else .error ⟨.tooDeep, 0⟩
  else if b = 'n'.toUInt8 then .ok ⟨stack, .word (letters "ull") .null⟩
  else if b = 't'.toUInt8 then .ok ⟨stack, .word (letters "rue") (.bool true)⟩
  else if b = 'f'.toUInt8 then .ok ⟨stack, .word (letters "alse") (.bool false)⟩
  else match Numeral.start? b with
    | some n => .ok ⟨stack, .number n⟩
    | none => .error ⟨.noValue, 0⟩

/-- A byte after a complete value. -/
def afterValue (stack : List Container) (value : Value) (b : UInt8) : Except Halt Reader :=
  if isBlank b then .ok ⟨stack, .done value⟩
  else match stack with
    | [] => .error ⟨.trailingText, 0⟩
    | .list items :: stack =>
      if b = ','.toUInt8 then .ok ⟨.list (value :: items) :: stack, .nextItem⟩
      else if b = ']'.toUInt8 then .ok ⟨stack, .done (.list (value :: items).reverse)⟩
      else .error ⟨.listNotContinued, 0⟩
    | .object members name :: stack =>
      if b = ','.toUInt8 then .ok ⟨stack, .nextName ((name, value) :: members)⟩
      else if b = 0x7d then .ok ⟨stack, .done (.object ((name, value) :: members).reverse)⟩
      else .error ⟨.objectNotContinued, 0⟩

/-- A byte of a string; `close` takes the text at the closing quote. -/
def stepQuoted (text : Quoted) (b : UInt8) (more : Quoted → Reader) (close : String → Reader) :
    Except Halt Reader :=
  match text.step b with
  | .error fault => .error ⟨fault, 0⟩
  | .ok (some text) => .ok (more text)
  | .ok none =>
    match text.text? with
    | some s => .ok (close s)
    | none => .error ⟨.notUtf8, text.badLength⟩

/-- A byte of a number, or the byte after it. -/
def stepNumber (stack : List Container) (n : Numeral) (b : UInt8) : Except Halt Reader :=
  match n.step b with
  | .error fault => .error ⟨fault, 0⟩
  | .ok (some n) => .ok ⟨stack, .number n⟩
  | .ok none =>
    match n.finish with
    | .ok x => afterValue stack (.number x) b
    | .error fault => .error ⟨fault, 1⟩

/-- Takes one byte. -/
def step (r : Reader) (b : UInt8) : Except Halt Reader :=
  match r.place with
  | .value => if isBlank b then .ok r else startValue r.stack b
  | .firstItem =>
    if isBlank b then .ok r
    else if b = ']'.toUInt8 then .ok ⟨r.stack.tail, .done (.list [])⟩
    else startValue r.stack b
  | .nextItem =>
    if isBlank b then .ok r
    else if b = ']'.toUInt8 then .error ⟨.trailingComma, 0⟩
    else startValue r.stack b
  | .firstName =>
    if isBlank b then .ok r
    else if b = 0x7d then .ok ⟨r.stack, .done (.object [])⟩
    else if b = '"'.toUInt8 then .ok ⟨r.stack, .name [] .start⟩
    else .error ⟨.keyNotString, 0⟩
  | .nextName members =>
    if isBlank b then .ok r
    else if b = 0x7d then .error ⟨.trailingComma, 0⟩
    else if b = '"'.toUInt8 then .ok ⟨r.stack, .name members .start⟩
    else .error ⟨.keyNotString, 0⟩
  | .name members text =>
    stepQuoted text b (fun text => ⟨r.stack, .name members text⟩)
      (fun name => ⟨r.stack, .colon members name⟩)
  | .colon members name =>
    if isBlank b then .ok r
    else if b = ':'.toUInt8 then .ok ⟨.object members name :: r.stack, .value⟩
    else .error ⟨.noColon, 0⟩
  | .word [] value => afterValue r.stack value b
  | .word (letter :: rest) value =>
    if b = letter then
      .ok ⟨r.stack, if rest.isEmpty then .done value else .word rest value⟩
    else .error ⟨.badWord, 0⟩
  | .number n => stepNumber r.stack n b
  | .string text =>
    stepQuoted text b (fun text => ⟨r.stack, .string text⟩)
      (fun s => ⟨r.stack, .done (.string s)⟩)
  | .done value => afterValue r.stack value b

/-- Takes the bytes of a text in turn.  An error tells how many of them were taken, counted from
`taken`. -/
def run (r : Reader) (taken : Nat) : List UInt8 → Except (Fault × Nat) Reader
  | [] => .ok r
  | b :: bytes =>
    match r.step b with
    | .ok r => r.run (taken + 1) bytes
    | .error halt => .error (halt.fault, taken + 1 - halt.back)

/-- The value of a container, or of nothing, whose last value ends here. -/
def close (stack : List Container) (value : Value) : Except Fault Value :=
  match stack with
  | [] => .ok value
  | .list _ :: _ => .error .endInList
  | .object _ _ :: _ => .error .endInObject

/-- The value read, if the text may end here. -/
def finish (r : Reader) : Except Fault Value :=
  match r.place with
  | .value | .nextItem | .nextName _ | .word _ _ => .error .endInValue
  | .firstItem => .error .endInList
  | .firstName | .colon _ _ => .error .endInObject
  | .name _ _ | .string _ => .error .endInString
  | .number n =>
    match n.finish with
    | .ok x => close r.stack (.number x)
    | .error fault => .error fault
  | .done value => close r.stack value

theorem run_append (r : Reader) (taken : Nat) (front back : List UInt8) :
    r.run taken (front ++ back) =
      (r.run taken front).bind fun r => r.run (taken + front.length) back := by
  induction front generalizing r taken with
  | nil => rfl
  | cons b front ih =>
    simp only [List.cons_append, run]
    split
    · rw [ih, List.length_cons, Nat.add_assoc, Nat.add_comm 1]
    · rfl

end Reader

/-- Reads a text that holds one value. -/
def parse (body : List UInt8) : Except SyntaxError Value :=
  match Reader.start.run 0 body with
  | .error (fault, taken) => .error (.after fault (body.take taken))
  | .ok r =>
    match r.finish with
    | .ok value => .ok value
    | .error fault => .error (.after fault body)

end TrackerBoard.Json
