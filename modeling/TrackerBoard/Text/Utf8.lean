/-!
# UTF-8

Texts as bytes and bytes as texts.  `encode` writes every character in its one UTF-8 form.
`next?` reads one character from the front of a byte string, accepting the shortest form of a
Unicode scalar value and nothing else, and `scan` repeats it as far as it goes: it splits a byte
string into the characters of its longest readable front part and the bytes from the first
unreadable sequence on.  A byte string is a text when nothing is left over (`decode?`).
-/

namespace TrackerBoard.Utf8

/-- The UTF-8 bytes of a text. -/
def encode (text : List Char) : List UInt8 :=
  text.flatMap String.utf8EncodeChar

@[simp] theorem encode_nil : encode [] = [] := rfl

@[simp] theorem encode_cons (c : Char) (text : List Char) :
    encode (c :: text) = String.utf8EncodeChar c ++ encode text := rfl

@[simp] theorem encode_append (s t : List Char) : encode (s ++ t) = encode s ++ encode t := by
  simp [encode]

/-- Appends the six bits of each of the next `count` continuation bytes (`10xxxxxx`) to `bits`. -/
def continue? : Nat → Nat → List UInt8 → Option (Nat × List UInt8)
  | 0, bits, bytes => some (bits, bytes)
  | _ + 1, _, [] => none
  | count + 1, bits, b :: bytes =>
    if b.toNat / 64 = 2 then continue? count (bits * 64 + b.toNat % 64) bytes else none

theorem continue?_length {count bits value : Nat} {bytes rest : List UInt8}
    (h : continue? count bits bytes = some (value, rest)) : rest.length ≤ bytes.length := by
  induction count generalizing bits bytes with
  | zero =>
    simp only [continue?, Option.some.injEq, Prod.mk.injEq] at h
    exact h.2 ▸ Nat.le_refl _
  | succ count ih =>
    cases bytes with
    | nil => simp [continue?] at h
    | cons b bytes =>
      simp only [continue?] at h
      split at h
      · exact Nat.le_succ_of_le (ih h)
      · simp at h

/-- The character of a scalar value, refusing values below `least`: those have a shorter form. -/
def scalar? (least value : Nat) : Option Char :=
  if h : value.isValidChar then
    if least ≤ value then some (Char.ofNatAux value h) else none
  else none

/-- How many continuation bytes a lead byte announces, the bits it holds itself, and the least
value that needs this many bytes. -/
def lead? (b : UInt8) : Option (Nat × Nat × Nat) :=
  if b.toNat < 0x80 then some (0, b.toNat, 0)
  else if b.toNat / 32 = 6 then some (1, b.toNat % 32, 0x80)
  else if b.toNat / 16 = 14 then some (2, b.toNat % 16, 0x800)
  else if b.toNat / 8 = 30 then some (3, b.toNat % 8, 0x10000)
  else none

/-- The first character of a byte string and the bytes after it. -/
def next? : List UInt8 → Option (Char × List UInt8)
  | [] => none
  | b :: bytes => do
    let (count, bits, least) ← lead? b
    let (value, rest) ← continue? count bits bytes
    let c ← scalar? least value
    return (c, rest)

theorem next?_length {bytes rest : List UInt8} {c : Char} (h : next? bytes = some (c, rest)) :
    rest.length < bytes.length := by
  cases bytes with
  | nil => simp [next?] at h
  | cons b bytes =>
    simp only [next?, Option.bind_eq_bind, Option.bind_eq_some_iff, Option.pure_def,
      Option.some.injEq, Prod.mk.injEq] at h
    obtain ⟨⟨count, bits, least⟩, -, ⟨value, rest'⟩, hrest, c', -, -, rfl⟩ := h
    exact Nat.lt_succ_of_le (continue?_length hrest)

/-- The characters of the longest readable front part, and the bytes that follow it. -/
def scan (bytes : List UInt8) : List Char × List UInt8 :=
  match h : next? bytes with
  | none => ([], bytes)
  | some (c, rest) =>
    have := next?_length h
    let (text, bad) := scan rest
    (c :: text, bad)
termination_by bytes.length

/-- The text of a byte string that is UTF-8 throughout. -/
def decode? (bytes : List UInt8) : Option (List Char) :=
  match scan bytes with
  | (text, []) => some text
  | _ => none

/-- How many bytes from the first unreadable sequence to the end. -/
def badLength (bytes : List UInt8) : Nat :=
  (scan bytes).2.length

end TrackerBoard.Utf8
