import TrackerBoard.Text.Utf8

/-! # UTF-8 read back

Reading the UTF-8 form of a character takes exactly its bytes and gives the character back
(`next?_encode`), so the bytes of a text decode to that text (`decode?_encode`).  A byte of a
character outside ASCII is never an ASCII byte (`ascii_or_beyond`), so that a reader looking for
ASCII marks cannot stop inside a character.

Nothing else is read: the bytes of which a character was read are its UTF-8 form (`next?_some`), so
a byte string decodes to a text exactly when it is the bytes of that text
(`decode?_eq_some_iff`).
-/

namespace TrackerBoard.Utf8

theorem toNat_ofNat_of_lt {n : Nat} (h : n < 256) : (UInt8.ofNat n).toNat = n := by
  rw [UInt8.toNat_ofNat', Nat.mod_eq_of_lt h]

theorem toNat_lt (c : Char) : c.toNat < 0x110000 := by
  have h : c.toNat.isValidChar := c.valid
  simp only [Nat.isValidChar] at h
  omega

@[simp] theorem continue?_zero (bits : Nat) (bytes : List UInt8) :
    continue? 0 bits bytes = some (bits, bytes) := rfl

/-- A continuation byte adds the six bits it was made of. -/
theorem continue?_cons (count bits n : Nat) (rest : List UInt8) :
    continue? (count + 1) bits (UInt8.ofNat (n % 64 + 128) :: rest) =
      continue? count (bits * 64 + n % 64) rest := by
  have hbyte : (UInt8.ofNat (n % 64 + 128)).toNat = n % 64 + 128 :=
    toNat_ofNat_of_lt (by omega)
  rw [continue?, hbyte, if_pos (by omega)]
  congr 1
  omega

/-- A character whose code needs the announced length is read from its code. -/
theorem scalar?_toNat {c : Char} {least : Nat} (h : least ≤ c.toNat) :
    scalar? least c.toNat = some c := by
  have hvalid : c.toNat.isValidChar := c.valid
  rw [scalar?, dif_pos hvalid, if_pos h]
  rfl

section Lead
variable {n : Nat}

theorem lead?_ascii (h : n < 0x80) : lead? (UInt8.ofNat n) = some (0, n, 0) := by
  rw [lead?, toNat_ofNat_of_lt (by omega), if_pos h]

theorem lead?_two : lead? (UInt8.ofNat (n % 32 + 0xc0)) = some (1, n % 32, 0x80) := by
  rw [lead?, toNat_ofNat_of_lt (by omega), if_neg (by omega), if_pos (by omega)]
  congr 3
  omega

theorem lead?_three : lead? (UInt8.ofNat (n % 16 + 0xe0)) = some (2, n % 16, 0x800) := by
  rw [lead?, toNat_ofNat_of_lt (by omega), if_neg (by omega), if_neg (by omega),
    if_pos (by omega)]
  congr 3
  omega

theorem lead?_four : lead? (UInt8.ofNat (n % 8 + 0xf0)) = some (3, n % 8, 0x10000) := by
  rw [lead?, toNat_ofNat_of_lt (by omega), if_neg (by omega), if_neg (by omega),
    if_neg (by omega), if_pos (by omega)]
  congr 3
  omega

end Lead

/-- The bytes of a character by the length of its form. -/
theorem utf8EncodeChar_cases (c : Char) :
    (c.toNat < 0x80 ∧ String.utf8EncodeChar c = [UInt8.ofNat c.toNat]) ∨
    (0x80 ≤ c.toNat ∧ c.toNat < 0x800 ∧ String.utf8EncodeChar c =
      [UInt8.ofNat (c.toNat / 64 % 32 + 0xc0), UInt8.ofNat (c.toNat % 64 + 128)]) ∨
    (0x800 ≤ c.toNat ∧ c.toNat < 0x10000 ∧ String.utf8EncodeChar c =
      [UInt8.ofNat (c.toNat / 4096 % 16 + 0xe0), UInt8.ofNat (c.toNat / 64 % 64 + 128),
        UInt8.ofNat (c.toNat % 64 + 128)]) ∨
    (0x10000 ≤ c.toNat ∧ String.utf8EncodeChar c =
      [UInt8.ofNat (c.toNat / 262144 % 8 + 0xf0), UInt8.ofNat (c.toNat / 4096 % 64 + 128),
        UInt8.ofNat (c.toNat / 64 % 64 + 128), UInt8.ofNat (c.toNat % 64 + 128)]) := by
  have hval : c.val.toNat = c.toNat := rfl
  unfold String.utf8EncodeChar
  simp only [hval]
  split
  · exact .inl ⟨by omega, rfl⟩
  split
  · exact .inr (.inl ⟨by omega, by omega, rfl⟩)
  split
  · exact .inr (.inr (.inl ⟨by omega, by omega, rfl⟩))
  · exact .inr (.inr (.inr ⟨by omega, rfl⟩))

/-- A lead byte and its continuation bytes give a character when they hold its code. -/
theorem next?_cons {b : UInt8} {count bits least : Nat} {bytes rest : List UInt8} {c : Char}
    (hlead : lead? b = some (count, bits, least))
    (hcont : continue? count bits bytes = some (c.toNat, rest)) (hleast : least ≤ c.toNat) :
    next? (b :: bytes) = some (c, rest) := by
  simp [next?, hlead, hcont, scalar?_toNat hleast]

/-- **Reading the first character of a text takes its bytes and no others.** -/
theorem next?_encode (c : Char) (bytes : List UInt8) :
    next? (String.utf8EncodeChar c ++ bytes) = some (c, bytes) := by
  have hmax := toNat_lt c
  -- by the length of the form: the lead byte tells it, and six bits follow in each other byte
  rcases utf8EncodeChar_cases c with ⟨hlt, h⟩ | ⟨hle, hlt, h⟩ | ⟨hle, hlt, h⟩ | ⟨hle, h⟩
  · rw [h]
    exact next?_cons (lead?_ascii hlt) rfl (Nat.zero_le _)
  · rw [h, List.cons_append]
    refine next?_cons lead?_two ?_ hle
    simp only [List.cons_append, List.nil_append, continue?_cons, continue?_zero,
      Option.some.injEq, Prod.mk.injEq, and_true]
    omega
  · rw [h, List.cons_append]
    refine next?_cons lead?_three ?_ hle
    simp only [List.cons_append, List.nil_append, continue?_cons, continue?_zero,
      Option.some.injEq, Prod.mk.injEq, and_true]
    omega
  · rw [h, List.cons_append]
    refine next?_cons lead?_four ?_ hle
    simp only [List.cons_append, List.nil_append, continue?_cons, continue?_zero,
      Option.some.injEq, Prod.mk.injEq, and_true]
    omega

/-- An ASCII character is one byte, and no byte of any other is an ASCII byte. -/
theorem ascii_or_beyond (c : Char) :
    (c.toNat < 0x80 ∧ String.utf8EncodeChar c = [UInt8.ofNat c.toNat]) ∨
      (0x80 ≤ c.toNat ∧ ∀ b ∈ String.utf8EncodeChar c, 0x80 ≤ b.toNat) := by
  rcases utf8EncodeChar_cases c with h | ⟨hle, -, h⟩ | ⟨hle, -, h⟩ | ⟨hle, h⟩
  · exact .inl h
  all_goals
    refine .inr ⟨by omega, ?_⟩
    rw [h]
    simp only [List.forall_mem_cons, List.not_mem_nil, false_implies, implies_true, and_true]
    simp only [UInt8.toNat_ofNat']
    omega

theorem encode_cons_ascii {c : Char} (h : c.toNat < 0x80) (text : List Char) :
    encode (c :: text) = c.toUInt8 :: encode text := by
  rcases ascii_or_beyond c with ⟨-, hbytes⟩ | ⟨hle, -⟩
  · rw [encode_cons, hbytes]
    rfl
  · omega

theorem scan_cons (c : Char) (bytes : List UInt8) :
    scan (String.utf8EncodeChar c ++ bytes) = (c :: (scan bytes).1, (scan bytes).2) := by
  rw [scan]
  split
  · next h => simp [next?_encode] at h
  · next d rest h =>
    obtain ⟨rfl, rfl⟩ : c = d ∧ bytes = rest := by simpa [next?_encode] using h
    rfl

theorem scan_encode (text : List Char) : scan (encode text) = (text, []) := by
  induction text with
  | nil => rw [encode_nil, scan]; rfl
  | cons c text ih => rw [encode_cons, scan_cons, ih]

/-- **The bytes of a text decode to it.** -/
theorem decode?_encode (text : List Char) : decode? (encode text) = some text := by
  rw [decode?, scan_encode]

/-- A byte is the one made of its number. -/
theorem eq_ofNat {b : UInt8} {n : Nat} (h : n = b.toNat) : b = UInt8.ofNat n := by
  rw [h, UInt8.ofNat_toNat]

theorem continue?_succ {count bits value : Nat} {bytes rest : List UInt8}
    (h : continue? (count + 1) bits bytes = some (value, rest)) :
    ∃ b tail, bytes = b :: tail ∧ b.toNat / 64 = 2 ∧
      continue? count (bits * 64 + b.toNat % 64) tail = some (value, rest) := by
  cases bytes with
  | nil => exact absurd h (Option.some_ne_none _).symm
  | cons b tail =>
    rw [continue?] at h
    split at h
    · next hb => exact ⟨b, tail, rfl, hb, h⟩
    · exact absurd h (Option.some_ne_none _).symm

theorem scalar?_some {least value : Nat} {c : Char} (h : scalar? least value = some c) :
    c.toNat = value ∧ least ≤ value := by
  rw [scalar?] at h
  by_cases hvalid : value.isValidChar
  · rw [dif_pos hvalid] at h
    by_cases hle : least ≤ value
    · rw [if_pos hle] at h
      obtain rfl := Option.some.inj h
      exact ⟨UInt32.toNat_ofNatLT, hle⟩
    · rw [if_neg hle] at h
      exact absurd h (Option.some_ne_none _).symm
  · rw [dif_neg hvalid] at h
    exact absurd h (Option.some_ne_none _).symm

section Form
variable {c : Char} {b b₁ b₂ b₃ : UInt8}

theorem utf8EncodeChar_one (hcode : c.toNat = b.toNat) (h : b.toNat < 0x80) :
    String.utf8EncodeChar c = [b] := by
  rcases utf8EncodeChar_cases c with ⟨-, hform⟩ | ⟨hle, -⟩ | ⟨hle, -⟩ | ⟨hle, -⟩
  · rw [hform, ← eq_ofNat hcode]
  all_goals omega

theorem utf8EncodeChar_two (h : b.toNat / 32 = 6) (h₁ : b₁.toNat / 64 = 2)
    (hcode : c.toNat = b.toNat % 32 * 64 + b₁.toNat % 64) (hleast : 0x80 ≤ c.toNat) :
    String.utf8EncodeChar c = [b, b₁] := by
  rcases utf8EncodeChar_cases c with ⟨hlt, -⟩ | ⟨-, -, hform⟩ | ⟨hle, -⟩ | ⟨hle, -⟩
  · omega
  · rw [hform, ← eq_ofNat (b := b) (by omega), ← eq_ofNat (b := b₁) (by omega)]
  all_goals omega

theorem utf8EncodeChar_three (h : b.toNat / 16 = 14) (h₁ : b₁.toNat / 64 = 2)
    (h₂ : b₂.toNat / 64 = 2)
    (hcode : c.toNat = (b.toNat % 16 * 64 + b₁.toNat % 64) * 64 + b₂.toNat % 64)
    (hleast : 0x800 ≤ c.toNat) : String.utf8EncodeChar c = [b, b₁, b₂] := by
  rcases utf8EncodeChar_cases c with ⟨hlt, -⟩ | ⟨-, hlt, -⟩ | ⟨-, -, hform⟩ | ⟨hle, -⟩
  · omega
  · omega
  · rw [hform, ← eq_ofNat (b := b) (by omega), ← eq_ofNat (b := b₁) (by omega),
      ← eq_ofNat (b := b₂) (by omega)]
  · omega

theorem utf8EncodeChar_four (h : b.toNat / 8 = 30) (h₁ : b₁.toNat / 64 = 2)
    (h₂ : b₂.toNat / 64 = 2) (h₃ : b₃.toNat / 64 = 2)
    (hcode : c.toNat =
      ((b.toNat % 8 * 64 + b₁.toNat % 64) * 64 + b₂.toNat % 64) * 64 + b₃.toNat % 64)
    (hleast : 0x10000 ≤ c.toNat) : String.utf8EncodeChar c = [b, b₁, b₂, b₃] := by
  rcases utf8EncodeChar_cases c with ⟨hlt, -⟩ | ⟨-, hlt, -⟩ | ⟨-, hlt, -⟩ | ⟨-, hform⟩
  · omega
  · omega
  · omega
  · rw [hform, ← eq_ofNat (b := b) (by omega), ← eq_ofNat (b := b₁) (by omega),
      ← eq_ofNat (b := b₂) (by omega), ← eq_ofNat (b := b₃) (by omega)]

end Form

/-- **A character is read from its bytes and from nothing else.** -/
theorem next?_some {bytes rest : List UInt8} {c : Char} (h : next? bytes = some (c, rest)) :
    bytes = String.utf8EncodeChar c ++ rest := by
  cases bytes with
  | nil => exact absurd h (Option.some_ne_none _).symm
  | cons b bytes =>
    simp only [next?, Option.bind_eq_bind, Option.bind_eq_some_iff, Option.pure_def,
      Option.some.injEq, Prod.mk.injEq, Prod.exists] at h
    obtain ⟨count, bits, least, hlead, value, rest', hcont, c', hscalar, rfl, rfl⟩ := h
    obtain ⟨rfl, hleast⟩ := scalar?_some hscalar
    -- by what the lead byte announces: each byte that it announces is taken off in turn
    rw [lead?] at hlead
    split at hlead
    · next hlt =>
      obtain ⟨rfl, rfl, rfl⟩ : 0 = count ∧ b.toNat = bits ∧ 0 = least := by simpa using hlead
      obtain ⟨hcode, rfl⟩ : b.toNat = c'.toNat ∧ bytes = rest' := by simpa using hcont
      rw [utf8EncodeChar_one hcode.symm hlt]
      rfl
    split at hlead
    · next hlead₂ =>
      obtain ⟨rfl, rfl, rfl⟩ : 1 = count ∧ b.toNat % 32 = bits ∧ 0x80 = least := by
        simpa using hlead
      obtain ⟨b₁, tail, rfl, h₁, hcont⟩ := continue?_succ hcont
      obtain ⟨hcode, rfl⟩ := Prod.mk.inj (Option.some.inj hcont)
      rw [utf8EncodeChar_two hlead₂ h₁ hcode.symm hleast]
      rfl
    split at hlead
    · next hlead₃ =>
      obtain ⟨rfl, rfl, rfl⟩ : 2 = count ∧ b.toNat % 16 = bits ∧ 0x800 = least := by
        simpa using hlead
      obtain ⟨b₁, tail, rfl, h₁, hcont⟩ := continue?_succ hcont
      obtain ⟨b₂, tail, rfl, h₂, hcont⟩ := continue?_succ hcont
      obtain ⟨hcode, rfl⟩ := Prod.mk.inj (Option.some.inj hcont)
      rw [utf8EncodeChar_three hlead₃ h₁ h₂ hcode.symm hleast]
      rfl
    split at hlead
    · next hlead₄ =>
      obtain ⟨rfl, rfl, rfl⟩ : 3 = count ∧ b.toNat % 8 = bits ∧ 0x10000 = least := by
        simpa using hlead
      obtain ⟨b₁, tail, rfl, h₁, hcont⟩ := continue?_succ hcont
      obtain ⟨b₂, tail, rfl, h₂, hcont⟩ := continue?_succ hcont
      obtain ⟨b₃, tail, rfl, h₃, hcont⟩ := continue?_succ hcont
      obtain ⟨hcode, rfl⟩ := Prod.mk.inj (Option.some.inj hcont)
      rw [utf8EncodeChar_four hlead₄ h₁ h₂ h₃ hcode.symm hleast]
      rfl
    · exact absurd hlead (Option.some_ne_none _).symm

theorem scan_append (bytes : List UInt8) :
    encode (scan bytes).1 ++ (scan bytes).2 = bytes := by
  fun_induction scan bytes with
  | case1 bytes h => rfl
  | case2 bytes c rest h hlt text bad hscan ih =>
    rw [hscan] at ih
    rw [encode_cons, List.append_assoc, ih]
    exact (next?_some h).symm

/-- **A byte string decodes to a text exactly when it is the bytes of that text.** -/
theorem decode?_eq_some_iff {bytes : List UInt8} {text : List Char} :
    decode? bytes = some text ↔ bytes = encode text := by
  constructor
  · intro h
    rw [decode?] at h
    split at h
    · next t hscan =>
      obtain rfl := Option.some.inj h
      have happend := scan_append bytes
      rw [hscan, List.append_nil] at happend
      exact happend.symm
    · exact absurd h (Option.some_ne_none _).symm
  · rintro rfl
    exact decode?_encode text

end TrackerBoard.Utf8
