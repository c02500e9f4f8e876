import TrackerBoard.Json.Printer
import TrackerBoard.Proofs.Json.Run
import TrackerBoard.Proofs.Text.Utf8

/-! # Strings read back

What the writer puts between quotes for a character, be it the character itself, a letter behind
a backslash or four hexadecimal digits, is read as the UTF-8 bytes of that character
(`run_escape`).  A string between quotes is therefore read as it was (`run_string_quote`,
`run_name_quote`), whatever characters it has.
-/

namespace TrackerBoard.Json.Quoted

open Utf8

/-- Bytes that stand for themselves inside a string. -/
def IsRaw (b : UInt8) : Prop := b ≠ '"'.toUInt8 ∧ b ≠ '\\'.toUInt8 ∧ ¬ b < 0x20

theorem step_raw {bytes : List UInt8} {b : UInt8} (h : IsRaw b) :
    Step ⟨.plain, bytes⟩ b ⟨.plain, b :: bytes⟩ := by
  rw [Step, step, if_neg h.1, if_neg h.2.1, if_neg h.2.2]

theorem run_raw {bytes raw : List UInt8} (h : ∀ b ∈ raw, IsRaw b) :
    ByteRun Step ⟨.plain, bytes⟩ raw ⟨.plain, raw.reverse ++ bytes⟩ := by
  induction raw generalizing bytes with
  | nil => exact .nil _
  | cons b raw ih =>
    rw [List.reverse_cons, List.append_assoc]
    exact .cons (step_raw (h b (by simp))) (ih fun b' hb' => h b' (by simp [hb']))

/-- A character that needs no escape is written in raw bytes. -/
theorem isRaw_of_mem {c : Char} (hquote : c ≠ '"') (hslash : c ≠ '\\') (hcontrol : 0x20 ≤ c.toNat)
    {b : UInt8} (hb : b ∈ String.utf8EncodeChar c) : IsRaw b := by
  rcases ascii_or_beyond c with ⟨hlt, h⟩ | ⟨-, h⟩
  · -- an ASCII character is its own byte, so what it is not, its byte is not
    rw [h, List.mem_singleton] at hb
    have hbyte : b.toNat = c.toNat := by rw [hb, toNat_ofNat_of_lt (by omega)]
    refine ⟨?_, ?_, ?_⟩
    · rintro rfl
      exact hquote (Char.toNat_inj.mp hbyte.symm)
    · rintro rfl
      exact hslash (Char.toNat_inj.mp hbyte.symm)
    · rw [UInt8.lt_iff_toNat_lt, hbyte]
      exact Nat.not_lt.mpr hcontrol
  · -- the bytes of any other are beyond the quote, the backslash and the controls
    have hle := h b hb
    refine ⟨?_, ?_, ?_⟩
    · rintro rfl
      exact absurd hle (by decide)
    · rintro rfl
      exact absurd hle (by decide)
    · rw [UInt8.lt_iff_toNat_lt]
      exact Nat.not_lt.mpr (Nat.le_trans (by decide) hle)

/-- A control character is written with four digits, which are read as its code. -/
theorem hexValue?_encode_padded :
    ∀ n < 0x20, (encode (Hex.padded 4 n)).length = 4 ∧
      hexValue? (encode (Hex.padded 4 n)) = some n := by
  decide

theorem step_backslash (bytes : List UInt8) :
    Step ⟨.plain, bytes⟩ '\\'.toUInt8 ⟨.escape, bytes⟩ := by
  rw [Step]
  rfl

theorem step_digit {bytes digits : List UInt8} (leading : Option Nat) (b : UInt8)
    (h : digits.length < 3) :
    Step ⟨.hex leading digits, bytes⟩ b ⟨.hex leading (digits ++ [b]), bytes⟩ := by
  have hlength : (digits ++ [b]).length < 4 := by rw [List.length_append]; exact Nat.succ_lt_succ h
  simp only [Step, step, if_pos hlength]

/-- A letter behind a backslash is read as the byte that it stands for. -/
theorem run_letter {bytes : List UInt8} {letter raw : UInt8} (hletter : letter ≠ 'u'.toUInt8)
    (hraw : escaped? letter = some raw) :
    ByteRun Step ⟨.plain, bytes⟩ ['\\'.toUInt8, letter] ⟨.plain, raw :: bytes⟩ := by
  refine .cons (step_backslash bytes) (.single ?_)
  simp only [Step, step, if_neg hletter, hraw]

/-- Four digits behind a backslash and `u` are read as the character of their value. -/
theorem run_code (bytes : List UInt8) {digits : List UInt8} {code : Nat}
    (hlength : digits.length = 4) (hvalue : hexValue? digits = some code) (hcode : code < 0xd800) :
    ByteRun Step ⟨.plain, bytes⟩ ('\\'.toUInt8 :: 'u'.toUInt8 :: digits)
      (push ⟨.plain, bytes⟩ code) := by
  match digits, hlength with
  | [d₁, d₂, d₃, d₄], _ =>
    have hu : Step ⟨.escape, bytes⟩ 'u'.toUInt8 ⟨.hex none [], bytes⟩ := by rw [Step]; rfl
    have htrailing : isTrailing code = false := by simp [isTrailing]; omega
    have hleading : isLeading code = false := by simp [isLeading]; omega
    refine .cons (step_backslash bytes) (.cons hu ?_)
    refine .cons (step_digit none d₁ (by simp)) (.cons (step_digit none d₂ (by simp)) ?_)
    refine .cons (step_digit none d₃ (by simp)) (.single ?_)
    simp [Step, step, hvalue, escapeCode, htrailing, hleading, push, Except.map]

/-- **An escaped character is read as its UTF-8 bytes.** -/
theorem run_escape (c : Char) (bytes : List UInt8) :
    ByteRun Step ⟨.plain, bytes⟩ (encode (escape c))
      ⟨.plain, (String.utf8EncodeChar c).reverse ++ bytes⟩ := by
  unfold escape
  -- the seven escapes by a letter
  iterate 7
    split
    · subst c; exact run_letter (by decide) (by decide)
  split
  · next hlt =>
    obtain ⟨hlength, hvalue⟩ := hexValue?_encode_padded c.toNat hlt
    have hrun := run_code bytes hlength hvalue (by omega)
    rw [push, Char.ofNat_toNat] at hrun
    exact hrun
  · next hquote hslash _ _ _ _ _ hcontrol =>
    rw [encode_cons, encode_nil, List.append_nil]
    exact run_raw fun b hb => isRaw_of_mem hquote hslash (Nat.not_lt.mp hcontrol) hb

/-- What is written between the quotes of a string is read as the bytes of the string. -/
theorem run_flatMap_escape (text : List Char) (bytes : List UInt8) :
    ByteRun Step ⟨.plain, bytes⟩ (encode (text.flatMap escape))
      ⟨.plain, (encode text).reverse ++ bytes⟩ := by
  induction text generalizing bytes with
  | nil => exact .nil _
  | cons c text ih =>
    rw [List.flatMap_cons, encode_append, encode_cons, List.reverse_append, List.append_assoc]
    exact (run_escape c bytes).append (ih _)

/-- The bytes gathered from a written string are its text. -/
theorem text?_encode (s : String) : text? ⟨.plain, (encode s.toList).reverse⟩ = some s := by
  simp [text?, decode?_encode]

end TrackerBoard.Json.Quoted

namespace TrackerBoard.Json.Reader

open Quoted Utf8

/-- The bytes after the opening quote of a string that is a value. -/
theorem run_string_quote (stack : List Container) (s : String) :
    ByteRun Step ⟨stack, .string .start⟩ (encode (s.toList.flatMap escape ++ ['"']))
      ⟨stack, .done (.string s)⟩ := by
  have hbody := run_flatMap_escape s.toList []
  rw [List.append_nil] at hbody
  rw [encode_append]
  refine (run_string hbody).append (.single ?_)
  simp only [Step, step, stepQuoted, text?_encode]
  rfl

/-- The bytes after the opening quote of a string that names a member. -/
theorem run_name_quote (stack : List Container) (members : Members) (name : String) :
    ByteRun Step ⟨stack, .name members .start⟩ (encode (name.toList.flatMap escape ++ ['"']))
      ⟨stack, .colon members name⟩ := by
  have hbody := run_flatMap_escape name.toList []
  rw [List.append_nil] at hbody
  rw [encode_append]
  refine (run_name hbody).append (.single ?_)
  simp only [Step, step, stepQuoted, text?_encode]
  rfl

end TrackerBoard.Json.Reader
