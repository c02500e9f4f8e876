import TrackerBoard.Proofs.Json.Quoted

/-! # The grammar of strings

A string is made of pieces between two quotes: a byte that stands for itself, a letter behind a
backslash, or the code of a character in four hexadecimal digits, twice four for a character beyond
the first plane.  What the pieces stand for must be the UTF-8 bytes of a text (`IsString`).  The
letters, the digits and the two halves of a pair are those of the grammar; that the reader goes by
the same tables is proved (`escaped?_eq_some_iff`, `isCode_iff`).

The reader of strings takes exactly these texts: the pieces of a string are read as the bytes they
stand for (`Content.run`), and what was read between two pieces is made of pieces
(`content_of_run`).
-/

namespace TrackerBoard.Json

namespace Quoted

/-- The bytes of an escape by a code. -/
def codeText (digits : List UInt8) : List UInt8 := '\\'.toUInt8 :: 'u'.toUInt8 :: digits

/-- The letters that may stand behind a backslash, each with the byte that it stands for. -/
def escapeLetters : List (UInt8 × UInt8) :=
  [('"'.toUInt8, 0x22), ('\\'.toUInt8, 0x5c), ('/'.toUInt8, 0x2f), ('b'.toUInt8, 0x08),
    ('f'.toUInt8, 0x0c), ('n'.toUInt8, 0x0a), ('r'.toUInt8, 0x0d), ('t'.toUInt8, 0x09)]

/-- A hexadecimal digit, in either case, and its value. -/
inductive IsHexDigit : UInt8 → Nat → Prop
  | decimal {d : Nat} (h : d < 10) : IsHexDigit (UInt8.ofNat (0x30 + d)) d
  | upper {d : Nat} (h : d < 6) : IsHexDigit (UInt8.ofNat (0x41 + d)) (10 + d)
  | lower {d : Nat} (h : d < 6) : IsHexDigit (UInt8.ofNat (0x61 + d)) (10 + d)

/-- Four hexadecimal digits write this code. -/
inductive IsCode : List UInt8 → Nat → Prop
  | intro {b₁ b₂ b₃ b₄ : UInt8} {d₁ d₂ d₃ d₄ : Nat} (h₁ : IsHexDigit b₁ d₁)
      (h₂ : IsHexDigit b₂ d₂) (h₃ : IsHexDigit b₃ d₃) (h₄ : IsHexDigit b₄ d₄) :
      IsCode [b₁, b₂, b₃, b₄] (((d₁ * 16 + d₂) * 16 + d₃) * 16 + d₄)

/-- A piece of a string, and the bytes it stands for. -/
inductive Piece : List UInt8 → List UInt8 → Prop
  | raw {b : UInt8} (h : IsRaw b) : Piece [b] [b]
  | letter {b c : UInt8} (h : (b, c) ∈ escapeLetters) : Piece ['\\'.toUInt8, b] [c]
  | code {digits : List UInt8} {code : Nat} (h : IsCode digits code)
      (hwhole : code < 0xd800 ∨ 0xe000 ≤ code) :
      Piece (codeText digits) (String.utf8EncodeChar (Char.ofNat code))
  | pair {digits digits' : List UInt8} {high low : Nat} (h : IsCode digits high)
      (h' : IsCode digits' low) (hhigh : 0xd800 ≤ high ∧ high < 0xdc00)
      (hlow : 0xdc00 ≤ low ∧ low < 0xe000) :
      Piece (codeText digits ++ codeText digits')
        (String.utf8EncodeChar (Char.ofNat (0x10000 + (high - 0xd800) * 0x400 + (low - 0xdc00))))

/-- Some pieces one after the other, and the bytes they stand for. -/
inductive Content : List UInt8 → List UInt8 → Prop
  | nil : Content [] []
  | snoc {text bytes piece more : List UInt8} (h : Content text bytes) (h' : Piece piece more) :
      Content (text ++ piece) (bytes ++ more)

end Quoted

/-- The bytes are a string between its quotes. -/
def IsString (text : List UInt8) (s : String) : Prop :=
  ∃ inner, text = '"'.toUInt8 :: (inner ++ ['"'.toUInt8]) ∧
    Quoted.Content inner (Utf8.encode s.toList)

namespace Quoted

/-! ### The tables of the reader -/

/-- The reader takes the letters of the grammar for their bytes. -/
theorem escaped?_eq_some_iff {b c : UInt8} : escaped? b = some c ↔ (b, c) ∈ escapeLetters := by
  constructor
  · intro h
    rw [escaped?] at h
    split at h
    · next hself =>
      obtain rfl := Option.some.inj h
      rcases hself with rfl | rfl | rfl
      all_goals decide
    iterate 5
      split at h
      · next hletter =>
        obtain rfl := Option.some.inj h
        rw [hletter]
        decide
    exact absurd h (Option.some_ne_none c).symm
  · intro h
    simp only [escapeLetters, List.mem_cons, List.not_mem_nil, or_false, Prod.mk.injEq] at h
    rcases h with ⟨rfl, rfl⟩ | ⟨rfl, rfl⟩ | ⟨rfl, rfl⟩ | ⟨rfl, rfl⟩ | ⟨rfl, rfl⟩ | ⟨rfl, rfl⟩ |
      ⟨rfl, rfl⟩ | ⟨rfl, rfl⟩
    all_goals rfl

/-- The reader takes the digits of the grammar for their values. -/
theorem isHexDigit_iff {b : UInt8} {d : Nat} :
    Hex.digit? (Char.ofNat b.toNat) = some d ↔ IsHexDigit b d := by
  constructor
  · intro h
    have hlt := b.toNat_lt
    have hchar : (Char.ofNat b.toNat).toNat = b.toNat := by
      rw [Char.ofNat, dif_pos (.inl (by omega))]
      rfl
    have hbetween {low high : Char} (hrange : low ≤ Char.ofNat b.toNat ∧ Char.ofNat b.toNat ≤ high) :
        low.toNat ≤ b.toNat ∧ b.toNat ≤ high.toNat := by
      rw [← hchar]
      exact hrange
    rw [Hex.digit?, hchar] at h
    rw [← UInt8.ofNat_toNat (x := b)]
    split at h
    · next hrange =>
      obtain ⟨hlow, hhigh⟩ : 0x30 ≤ b.toNat ∧ b.toNat ≤ 0x39 := hbetween hrange
      obtain ⟨k, hk⟩ := Nat.exists_eq_add_of_le hlow
      obtain rfl : k = d := by rw [← Option.some.inj h, hk, Nat.add_sub_cancel_left]
      rw [hk]
      exact .decimal (by omega)
    split at h
    · next hrange =>
      obtain ⟨hlow, hhigh⟩ : 0x61 ≤ b.toNat ∧ b.toNat ≤ 0x66 := hbetween hrange
      obtain ⟨k, hk⟩ := Nat.exists_eq_add_of_le hlow
      obtain rfl : 10 + k = d := by
        rw [← Option.some.inj h]
        omega
      rw [hk]
      exact .lower (by omega)
    split at h
    · next hrange =>
      obtain ⟨hlow, hhigh⟩ : 0x41 ≤ b.toNat ∧ b.toNat ≤ 0x46 := hbetween hrange
      obtain ⟨k, hk⟩ := Nat.exists_eq_add_of_le hlow
      obtain rfl : 10 + k = d := by
        rw [← Option.some.inj h]
        omega
      rw [hk]
      exact .upper (by omega)
    · exact absurd h (Option.some_ne_none d).symm
  · have hdecimal : ∀ d < 10, Hex.digit? (Char.ofNat (UInt8.ofNat (0x30 + d)).toNat) = some d := by
      decide
    have hupper : ∀ d < 6, Hex.digit? (Char.ofNat (UInt8.ofNat (0x41 + d)).toNat) =
        some (10 + d) := by decide
    have hlower : ∀ d < 6, Hex.digit? (Char.ofNat (UInt8.ofNat (0x61 + d)).toNat) =
        some (10 + d) := by decide
    intro h
    cases h with
    | decimal h => exact hdecimal _ h
    | upper h => exact hupper _ h
    | lower h => exact hlower _ h

theorem isCode_iff {digits : List UInt8} {code : Nat} :
    IsCode digits code ↔ digits.length = 4 ∧ hexValue? digits = some code := by
  constructor
  · intro h
    cases h with
    | intro h₁ h₂ h₃ h₄ =>
      refine ⟨rfl, ?_⟩
      simp [hexValue?, Hex.value?, isHexDigit_iff.mpr h₁, isHexDigit_iff.mpr h₂,
        isHexDigit_iff.mpr h₃, isHexDigit_iff.mpr h₄]
  · rintro ⟨hlength, hvalue⟩
    match digits, hlength with
    | [b₁, b₂, b₃, b₄], _ =>
      simp only [hexValue?, Hex.value?, List.map_cons, List.map_nil, List.foldlM_cons,
        List.foldlM_nil, Option.bind_eq_bind, Option.bind_eq_some_iff, Option.map_eq_some_iff,
        Option.pure_def, Option.some.injEq] at hvalue
      obtain ⟨_, ⟨d₁, h₁, rfl⟩, _, ⟨d₂, h₂, rfl⟩, _, ⟨d₃, h₃, rfl⟩, _, ⟨d₄, h₄, rfl⟩, rfl⟩ := hvalue
      rw [Nat.zero_mul, Nat.zero_add]
      exact .intro (isHexDigit_iff.mp h₁) (isHexDigit_iff.mp h₂) (isHexDigit_iff.mp h₃)
        (isHexDigit_iff.mp h₄)

theorem isLeading_eq_true_iff {n : Nat} : isLeading n = true ↔ 0xd800 ≤ n ∧ n < 0xdc00 :=
  decide_eq_true_iff

theorem isTrailing_eq_true_iff {n : Nat} : isTrailing n = true ↔ 0xdc00 ≤ n ∧ n < 0xe000 :=
  decide_eq_true_iff

/-! ### Strings are read -/

section Read
variable {acc digits text bytes : List UInt8} {leading : Option Nat} {code : Nat}

/-- Four digits are taken together. -/
theorem run_digits (h : IsCode digits code) {q : Quoted}
    (hcode : escapeCode ⟨.hex leading digits.dropLast, acc⟩ leading code = .ok q) :
    ByteRun Step ⟨.hex leading [], acc⟩ digits q := by
  obtain ⟨hlength, hvalue⟩ := isCode_iff.mp h
  match digits, hlength with
  | [d₁, d₂, d₃, d₄], _ =>
    refine .cons (step_digit leading d₁ (by simp)) (.cons (step_digit leading d₂ (by simp)) ?_)
    refine .cons (step_digit leading d₃ (by simp)) (.single ?_)
    have hcode' : escapeCode ⟨.hex leading [d₁, d₂, d₃], acc⟩ leading code = .ok q := hcode
    simp [Step, step, hvalue, hcode', Except.map]

theorem step_unicode (acc : List UInt8) :
    Step ⟨.escape, acc⟩ 'u'.toUInt8 ⟨.hex none [], acc⟩ := by
  rw [Step]
  rfl

/-- **A piece is read as the bytes that it stands for.** -/
theorem Piece.run {piece more : List UInt8} (h : Piece piece more) (acc : List UInt8) :
    ByteRun Step ⟨.plain, acc⟩ piece ⟨.plain, more.reverse ++ acc⟩ := by
  cases h with
  | raw h => exact .single (step_raw h)
  | letter h =>
    have hescaped := escaped?_eq_some_iff.mpr h
    refine run_letter ?_ hescaped
    rintro rfl
    have hnone : escaped? 'u'.toUInt8 = none := rfl
    exact absurd (hnone.symm.trans hescaped) (Option.some_ne_none _).symm
  | @code digits code h hwhole =>
    have hleading : isLeading code = false := decide_eq_false (by omega)
    have htrailing : isTrailing code = false := decide_eq_false (by omega)
    refine .cons (step_backslash acc) (.cons (step_unicode acc) (run_digits h ?_))
    simp [escapeCode, hleading, htrailing, push]
  | @pair digits digits' high low h h' hhigh hlow =>
    have hleading := isLeading_eq_true_iff.mpr hhigh
    have hnone : isTrailing high = false := decide_eq_false (by omega)
    have htrailing := isTrailing_eq_true_iff.mpr hlow
    have hfirst : ByteRun Step ⟨.plain, acc⟩ (codeText digits) ⟨.surrogate high, acc⟩ := by
      refine .cons (step_backslash acc) (.cons (step_unicode acc) (run_digits h ?_))
      simp [escapeCode, hleading, hnone]
    have hbackslash : Step ⟨.surrogate high, acc⟩ '\\'.toUInt8 ⟨.surrogateEscape high, acc⟩ := by
      rw [Step]
      rfl
    have hunicode : Step ⟨.surrogateEscape high, acc⟩ 'u'.toUInt8 ⟨.hex (some high) [], acc⟩ := by
      rw [Step]
      rfl
    refine hfirst.append (.cons hbackslash (.cons hunicode (run_digits h' ?_)))
    simp [escapeCode, htrailing, push]

/-- **The pieces of a string are read as the bytes that they stand for.** -/
theorem Content.run (h : Content text bytes) :
    ByteRun Step .start text ⟨.plain, bytes.reverse⟩ := by
  induction h with
  | nil => exact .nil _
  | snoc _ h' ih =>
    rw [List.reverse_append]
    exact ih.append (h'.run _)

end Read

/-! ### Nothing else is read -/

/-- What the bytes read so far are of the pieces of a string. -/
inductive Partial : List UInt8 → Quoted → Prop
  | plain {text bytes : List UInt8} (h : Content text bytes) : Partial text ⟨.plain, bytes.reverse⟩
  | escape {text bytes : List UInt8} (h : Content text bytes) :
      Partial (text ++ ['\\'.toUInt8]) ⟨.escape, bytes.reverse⟩
  | hex {text bytes digits : List UInt8} (h : Content text bytes) (hdigits : digits.length < 4) :
      Partial (text ++ codeText digits) ⟨.hex none digits, bytes.reverse⟩
  | surrogate {text bytes digits : List UInt8} {high : Nat} (h : Content text bytes)
      (hdigits : IsCode digits high) (hleading : isLeading high = true) :
      Partial (text ++ codeText digits) ⟨.surrogate high, bytes.reverse⟩
  | surrogateEscape {text bytes digits : List UInt8} {high : Nat} (h : Content text bytes)
      (hdigits : IsCode digits high) (hleading : isLeading high = true) :
      Partial (text ++ (codeText digits ++ ['\\'.toUInt8])) ⟨.surrogateEscape high, bytes.reverse⟩
  | trailing {text bytes digits digits' : List UInt8} {high : Nat} (h : Content text bytes)
      (hdigits : IsCode digits high) (hleading : isLeading high = true)
      (hdigits' : digits'.length < 4) :
      Partial (text ++ (codeText digits ++ codeText digits'))
        ⟨.hex (some high) digits', bytes.reverse⟩

section Partial
variable {text bytes digits digits' : List UInt8} {q q' : Quoted} {b : UInt8} {high : Nat}

theorem Content.toPartial (h : Content text bytes) {acc : List UInt8}
    (hacc : acc = bytes.reverse) : Partial text ⟨.plain, acc⟩ := by
  rw [hacc]
  exact .plain h

/-- A byte between two pieces. -/
theorem Partial.step_plain (h : Content text bytes) (hstep : Step ⟨.plain, bytes.reverse⟩ b q') :
    Partial (text ++ [b]) q' := by
  rw [Step, Quoted.step] at hstep
  dsimp only at hstep
  split at hstep
  · exact absurd hstep (by simp)
  split at hstep
  · next hb =>
    obtain rfl := Option.some.inj (Except.ok.inj hstep)
    rw [hb]
    exact .escape h
  split at hstep
  · exact absurd hstep (by simp)
  · next hquote hslash hcontrol =>
    obtain rfl := Option.some.inj (Except.ok.inj hstep)
    exact (h.snoc (.raw ⟨hquote, hslash, hcontrol⟩)).toPartial (by simp)

/-- A byte behind a backslash. -/
theorem Partial.step_escape (h : Content text bytes)
    (hstep : Step ⟨.escape, bytes.reverse⟩ b q') :
    Partial (text ++ ['\\'.toUInt8] ++ [b]) q' := by
  rw [Step, Quoted.step] at hstep
  dsimp only at hstep
  rw [List.append_assoc]
  split at hstep
  · next hb =>
    obtain rfl := Option.some.inj (Except.ok.inj hstep)
    rw [hb]
    exact .hex h (by decide)
  split at hstep
  · next c hc =>
    obtain rfl := Option.some.inj (Except.ok.inj hstep)
    exact (h.snoc (.letter (escaped?_eq_some_iff.mp hc))).toPartial (by simp)
  · exact absurd hstep (by simp)

/-- A digit of a code, which may be the fourth. -/
theorem step_hex {leading : Option Nat} {acc : List UInt8} (hdigits : digits.length < 4)
    (hstep : Step ⟨.hex leading digits, acc⟩ b q') :
    ((digits ++ [b]).length < 4 ∧ q' = ⟨.hex leading (digits ++ [b]), acc⟩) ∨
      ∃ code, IsCode (digits ++ [b]) code ∧
        escapeCode ⟨.hex leading digits, acc⟩ leading code = .ok q' := by
  rw [Step, Quoted.step] at hstep
  dsimp only at hstep
  split at hstep
  · next hlt => exact .inl ⟨hlt, (Option.some.inj (Except.ok.inj hstep)).symm⟩
  · next hge =>
    have hlength : (digits ++ [b]).length = 4 := by
      rw [List.length_append, List.length_singleton] at hge ⊢
      omega
    split at hstep
    · next code hcode =>
      refine .inr ⟨code, isCode_iff.mpr ⟨hlength, hcode⟩, ?_⟩
      cases hresult : escapeCode ⟨.hex leading digits, acc⟩ leading code with
      | ok q =>
        rw [hresult] at hstep
        rw [Option.some.inj (Except.ok.inj hstep)]
      | error fault =>
        rw [hresult] at hstep
        exact absurd hstep (by simp [Except.map])
    · exact absurd hstep (by simp)

theorem Partial.step_code (h : Content text bytes) (hdigits : digits.length < 4)
    (hstep : Step ⟨.hex none digits, bytes.reverse⟩ b q') :
    Partial (text ++ codeText digits ++ [b]) q' := by
  have htext : text ++ codeText digits ++ [b] = text ++ codeText (digits ++ [b]) := by
    simp [codeText]
  rw [htext]
  rcases step_hex hdigits hstep with ⟨hlt, rfl⟩ | ⟨code, hcode, hresult⟩
  · exact .hex h hlt
  · rw [escapeCode] at hresult
    dsimp only at hresult
    split at hresult
    · exact absurd hresult (by simp)
    · next htrailing =>
      split at hresult
      · next hleading =>
        obtain rfl := Except.ok.inj hresult
        exact .surrogate h hcode hleading
      · next hleading =>
        obtain rfl := Except.ok.inj hresult
        rw [isTrailing_eq_true_iff] at htrailing
        rw [isLeading_eq_true_iff] at hleading
        exact (h.snoc (.code hcode (by omega))).toPartial (by simp)

theorem Partial.step_trailing (h : Content text bytes) (hdigits : IsCode digits high)
    (hleading : isLeading high = true) (hdigits' : digits'.length < 4)
    (hstep : Step ⟨.hex (some high) digits', bytes.reverse⟩ b q') :
    Partial (text ++ (codeText digits ++ codeText digits') ++ [b]) q' := by
  have htext : text ++ (codeText digits ++ codeText digits') ++ [b] =
      text ++ (codeText digits ++ codeText (digits' ++ [b])) := by
    simp [codeText]
  rw [htext]
  rcases step_hex hdigits' hstep with ⟨hlt, rfl⟩ | ⟨code, hcode, hresult⟩
  · exact .trailing h hdigits hleading hlt
  · rw [escapeCode] at hresult
    split at hresult
    · next htrailing =>
      obtain rfl := Except.ok.inj hresult
      exact (h.snoc (.pair hdigits hcode (isLeading_eq_true_iff.mp hleading)
        (isTrailing_eq_true_iff.mp htrailing))).toPartial (by simp)
    · exact absurd hresult (by simp)

theorem Partial.step (h : Partial text q) (hstep : Step q b q') : Partial (text ++ [b]) q' := by
  cases h with
  | plain h => exact step_plain h hstep
  | escape h => exact step_escape h hstep
  | hex h hdigits => exact step_code h hdigits hstep
  | surrogate h hdigits hleading =>
    rw [Step, Quoted.step] at hstep
    dsimp only at hstep
    split at hstep
    · next hb =>
      obtain rfl := Option.some.inj (Except.ok.inj hstep)
      rw [hb, List.append_assoc]
      exact .surrogateEscape h hdigits hleading
    · exact absurd hstep (by simp)
  | surrogateEscape h hdigits hleading =>
    rw [Step, Quoted.step] at hstep
    dsimp only at hstep
    split at hstep
    · next hb =>
      obtain rfl := Option.some.inj (Except.ok.inj hstep)
      rw [hb, List.append_assoc, List.append_assoc]
      exact .trailing h hdigits hleading (by decide)
    · exact absurd hstep (by simp)
  | trailing h hdigits hleading hdigits' => exact step_trailing h hdigits hleading hdigits' hstep

/-- **What was read between two pieces is made of pieces.** -/
theorem content_of_run (h : ByteRun Step .start text q) (hplain : q.place = .plain) :
    Content text q.bytes.reverse := by
  have hpartial : Partial ([] ++ text) q :=
    h.preserves (P := fun q text => Partial text q) (fun _ _ _ _ h => h.step) (.plain .nil)
  rw [List.nil_append] at hpartial
  cases hpartial with
  | plain hcontent =>
    rw [List.reverse_reverse]
    exact hcontent
  | _ => exact absurd hplain (by simp)

/-- Only a quote between two pieces closes a string. -/
theorem step_eq_none (h : q.step b = .ok none) : q.place = .plain ∧ b = '"'.toUInt8 := by
  rw [Quoted.step] at h
  cases hplace : q.place with
  | plain =>
    simp only [hplace] at h
    split at h
    · next hquote => exact ⟨rfl, hquote⟩
    · repeat' split at h
      all_goals exact absurd h (by simp)
  | hex leading digits =>
    simp only [hplace] at h
    repeat' split at h
    · exact absurd h (by simp)
    · next code _ =>
      -- the fourth digit may fail, but it does not close the string
      cases hcode : q.escapeCode leading code with
      | ok _ => simp [hcode, Except.map] at h
      | error _ => simp [hcode, Except.map] at h
    · exact absurd h (by simp)
  | escape | surrogate _ | surrogateEscape _ =>
    simp only [hplace] at h
    repeat' split at h
    all_goals exact absurd h (by simp)

/-- **What was read up to the closing quote is a string.** -/
theorem isString_of_run (h : ByteRun Step .start text q) (hstep : q.step b = .ok none)
    {s : String} (htext : q.text? = some s) : IsString ('"'.toUInt8 :: (text ++ [b])) s := by
  obtain ⟨hplain, rfl⟩ := step_eq_none hstep
  have hcontent := content_of_run h hplain
  rw [text?, Option.map_eq_some_iff] at htext
  obtain ⟨cs, hdecode, rfl⟩ := htext
  rw [Utf8.decode?_eq_some_iff.mp hdecode, ← String.toList_ofList (l := cs)] at hcontent
  exact ⟨text, rfl, hcontent⟩

end Partial

end Quoted

end TrackerBoard.Json
