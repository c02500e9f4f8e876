import Mathlib.Algebra.Group.Nat.Defs
import Mathlib.Data.List.Induction
import TrackerBoard.Text.Digits

/-! # Digits read back

A number written with a least count of digits has exactly that count when it is small enough, and
reading that many digits gives the number back (`read?_padded`).  Nothing else is read as the number
(`read?_eq_some_iff`).
-/

namespace TrackerBoard.Digits

variable {n width : Nat}

theorem digit?_digitChar (h : n < 10) : digit? n.digitChar = some n := by
  have hall : ∀ n < 10, digit? n.digitChar = some n := by decide
  exact hall n h

theorem digit?_zero : digit? '0' = some 0 := rfl

/-- Reading a number of digits is reading some of them and then the others. -/
theorem read?_add {count more value middle result : Nat} {front back rest : List Char}
    (h : read? count value front = some (middle, []))
    (h' : read? more middle back = some (result, rest)) :
    read? (count + more) value (front ++ back) = some (result, rest) := by
  induction count generalizing value front with
  | zero =>
    simp only [read?, Option.some.injEq, Prod.mk.injEq] at h
    obtain ⟨rfl, rfl⟩ := h
    rw [Nat.zero_add]
    exact h'
  | succ count ih =>
    cases front with
    | nil => simp [read?] at h
    | cons c front =>
      rw [List.cons_append, Nat.add_right_comm, read?]
      rw [read?] at h
      split at h
      · exact ih h
      · cases h

/-- What is read of a front part of a text is read before the rest. -/
theorem read?_append {count value result : Nat} {front : List Char} (back : List Char)
    (h : read? count value front = some (result, [])) :
    read? count value (front ++ back) = some (result, back) :=
  read?_add h (rfl : read? 0 result back = some (result, back))

/-- The digits of a number are read as the number. -/
theorem read?_toDigits (n : Nat) :
    read? (Nat.toDigits 10 n).length 0 (Nat.toDigits 10 n) = some (n, []) := by
  induction n using Nat.strongRecOn with
  | ind n ih =>
    by_cases hn : n < 10
    · rw [Nat.toDigits_of_lt_base hn]
      simp [read?, digit?_digitChar hn]
    · rw [Nat.toDigits_of_base_le (by decide) (Nat.not_lt.mp hn), List.length_append]
      refine read?_add (ih (n / 10) (by omega)) ?_
      have hdigit := digit?_digitChar (Nat.mod_lt n (by decide : 0 < 10))
      simp only [List.length_singleton, read?, hdigit, Option.some.injEq, Prod.mk.injEq, and_true]
      omega

/-- Zeros at the end are powers of ten. -/
theorem read?_replicate (count value : Nat) :
    read? count value (List.replicate count '0') = some (value * 10 ^ count, []) := by
  induction count generalizing value with
  | zero => simp [read?]
  | succ count ih =>
    rw [List.replicate_succ, read?, digit?_zero]
    simp only [ih, Nat.pow_succ', Nat.add_zero, Nat.mul_assoc]

theorem length_toDigits_le (hwidth : 0 < width) (h : n < 10 ^ width) :
    (Nat.toDigits 10 n).length ≤ width :=
  (Nat.length_toDigits_le_iff (by decide) hwidth).mpr h

/-- A number that needs no more digits than the least count has exactly that count. -/
theorem length_padded (hwidth : 0 < width) (h : n < 10 ^ width) :
    (padded width n).length = width := by
  have hle := length_toDigits_le hwidth h
  rw [padded, List.length_append, List.length_replicate]
  omega

/-- **A number written in a fixed count of digits is read back.** -/
theorem read?_padded (hwidth : 0 < width) (h : n < 10 ^ width) (back : List Char) :
    read? width 0 (padded width n ++ back) = some (n, back) := by
  have hle := length_toDigits_le hwidth h
  have hzeros := read?_replicate (width - (Nat.toDigits 10 n).length) 0
  rw [Nat.zero_mul] at hzeros
  have hread := read?_add hzeros (read?_toDigits n)
  rw [Nat.sub_add_cancel hle] at hread
  exact read?_append back hread

/-- The value of some digits is what reading all of them gives. -/
theorem value_of_read? {count result : Nat} {digits : List Char}
    (h : read? count 0 digits = some (result, [])) : value digits = result := by
  suffices hfold : ∀ (count start : Nat) (digits : List Char),
      read? count start digits = some (result, []) →
        digits.foldl (fun value c => value * 10 + (digit? c).getD 0) start = result from
    hfold count 0 digits h
  intro count
  induction count with
  | zero =>
    intro start digits h
    simp only [read?, Option.some.injEq, Prod.mk.injEq] at h
    obtain ⟨rfl, rfl⟩ := h
    rfl
  | succ count ih =>
    intro start digits h
    cases digits with
    | nil => simp [read?] at h
    | cons c digits =>
      rw [read?] at h
      split at h
      · next d hd =>
        rw [List.foldl_cons, hd]
        exact ih _ _ h
      · cases h

theorem value_padded (hwidth : 0 < width) (h : n < 10 ^ width) : value (padded width n) = n := by
  have hread := read?_padded hwidth h []
  rw [List.append_nil] at hread
  exact value_of_read? hread

/-- Every character of a written number is a digit. -/
theorem isSome_digit?_of_mem_padded {c : Char} (h : c ∈ padded width n) :
    (digit? c).isSome = true := by
  rw [padded, List.mem_append] at h
  rcases h with h | h
  · rw [List.eq_of_mem_replicate h, digit?_zero]
    rfl
  · have hdigit : '0' ≤ c ∧ c ≤ '9' := by
      simpa [Char.isDigit, Char.le_def] using Nat.isDigit_of_mem_toDigits (by decide) (by decide) h
    rw [digit?, if_pos hdigit]
    rfl

/-! ### What digits are read from -/

theorem digit?_lt {c : Char} {d : Nat} (h : digit? c = some d) : d < 10 := by
  rw [digit?] at h
  split at h
  · next hdigit =>
    have hle : c.toNat ≤ '9'.toNat := hdigit.2
    have hnine : '9'.toNat = 57 := rfl
    have hvalue := Option.some.inj h
    omega
  · cases h

/-- No two characters are the same digit. -/
theorem digit?_injective {c c' : Char} {d : Nat} (h : digit? c = some d) (h' : digit? c' = some d) :
    c = c' := by
  rw [digit?] at h h'
  split at h
  · split at h'
    · next hdigit hdigit' =>
      have hle : '0'.toNat ≤ c.toNat := hdigit.1
      have hle' : '0'.toNat ≤ c'.toNat := hdigit'.1
      have hzero : '0'.toNat = 48 := rfl
      have hvalue := Option.some.inj h
      have hvalue' := Option.some.inj h'
      refine Char.toNat_inj.mp ?_
      omega
    · cases h'
  · cases h

/-- The digits that are read follow the digits of the number before. -/
theorem div_of_read? {count value result : Nat} {text rest : List Char}
    (h : read? count value text = some (result, rest)) : result / 10 ^ count = value := by
  induction count generalizing value text with
  | zero =>
    simp only [read?, Option.some.injEq, Prod.mk.injEq] at h
    rw [h.1, Nat.pow_zero, Nat.div_one]
  | succ count ih =>
    cases text with
    | nil => simp [read?] at h
    | cons c text =>
      rw [read?] at h
      split at h
      · next d hd =>
        have hlt := digit?_lt hd
        rw [Nat.pow_succ, ← Nat.div_div_eq_div_mul, ih h]
        omega
      · cases h

/-- What is read of a text is some characters at its front. -/
theorem exists_front_of_read? {count value result : Nat} {text rest : List Char}
    (h : read? count value text = some (result, rest)) :
    ∃ front, text = front ++ rest ∧ read? count value front = some (result, []) := by
  induction count generalizing value text with
  | zero =>
    simp only [read?, Option.some.injEq, Prod.mk.injEq] at h
    obtain ⟨rfl, rfl⟩ := h
    exact ⟨[], rfl, rfl⟩
  | succ count ih =>
    cases text with
    | nil => simp [read?] at h
    | cons c text =>
      rw [read?] at h
      split at h
      · next d hd =>
        obtain ⟨front, rfl, hfront⟩ := ih h
        refine ⟨c :: front, rfl, ?_⟩
        rw [read?, hd]
        exact hfront
      · cases h

/-- No two texts of as many digits are read as the same number. -/
theorem read?_injective {count value result : Nat} {text text' : List Char}
    (h : read? count value text = some (result, []))
    (h' : read? count value text' = some (result, [])) : text = text' := by
  induction count generalizing value text text' with
  | zero =>
    simp only [read?, Option.some.injEq, Prod.mk.injEq] at h h'
    rw [h.2, h'.2]
  | succ count ih =>
    cases text with
    | nil => simp [read?] at h
    | cons c text =>
      cases text' with
      | nil => simp [read?] at h'
      | cons c' text' =>
        rw [read?] at h h'
        split at h
        · next d hd =>
          split at h'
          · next d' hd' =>
            -- both digits stand where the result has them
            have hdigit : value * 10 + d = value * 10 + d' :=
              (div_of_read? h).symm.trans (div_of_read? h')
            obtain rfl : d = d' := by omega
            rw [digit?_injective hd hd', ih h h']
          · cases h'
        · cases h

/-- **A fixed count of digits is read as a number exactly when it is the number's.** -/
theorem read?_eq_some_iff (hwidth : 0 < width) {text rest : List Char} :
    read? width 0 text = some (n, rest) ↔ n < 10 ^ width ∧ text = padded width n ++ rest := by
  constructor
  · intro h
    have hlt : n < 10 ^ width :=
      (Nat.div_eq_zero_iff_lt (Nat.pow_pos (by decide))).mp (div_of_read? h)
    obtain ⟨front, rfl, hfront⟩ := exists_front_of_read? h
    have hpadded := read?_padded hwidth hlt []
    rw [List.append_nil] at hpadded
    exact ⟨hlt, congrArg (· ++ rest) (read?_injective hfront hpadded)⟩
  · rintro ⟨hlt, rfl⟩
    exact read?_padded hwidth hlt rest

/-! ### The value of digits -/

theorem value_snoc (digits : List Char) (c : Char) :
    value (digits ++ [c]) = value digits * 10 + (digit? c).getD 0 := by
  rw [value, List.foldl_append]
  rfl

theorem value_append (front back : List Char) :
    value (front ++ back) = value front * 10 ^ back.length + value back := by
  induction back using List.reverseRecOn with
  | nil => simp [value]
  | append_singleton back c ih =>
    rw [← List.append_assoc, value_snoc, value_snoc, ih, List.length_append,
      List.length_singleton, Nat.pow_succ, Nat.add_mul, Nat.mul_assoc, Nat.add_assoc]

theorem value_lt (digits : List Char) : value digits < 10 ^ digits.length := by
  induction digits using List.reverseRecOn with
  | nil => decide
  | append_singleton digits c ih =>
    have hdigit : (digit? c).getD 0 < 10 := by
      cases h : digit? c with
      | none => decide
      | some d => exact digit?_lt h
    rw [value_snoc, List.length_append, List.length_singleton, Nat.pow_succ]
    omega

theorem value_replicate (zeros : Nat) : value (List.replicate zeros '0') = 0 := by
  have hread := read?_replicate zeros 0
  rw [Nat.zero_mul] at hread
  exact value_of_read? hread

/-- Some digits, with zeros behind them if there are too few, are the whole units of a fraction. -/
theorem value_take_append (digits : List Char) (places : Nat) :
    value (digits.take places ++ List.replicate (places - (digits.take places).length) '0') =
      value digits * 10 ^ places / 10 ^ digits.length := by
  rw [value_append, value_replicate, List.length_replicate, Nat.add_zero]
  by_cases h : digits.length ≤ places
  · have hpow : 10 ^ places = 10 ^ (places - digits.length) * 10 ^ digits.length := by
      rw [← Nat.pow_add, Nat.sub_add_cancel h]
    rw [List.take_of_length_le h, hpow, ← Nat.mul_assoc,
      Nat.mul_div_cancel _ (Nat.pow_pos (by decide))]
  · -- the digits beyond the places come to less than one unit
    obtain ⟨more, hmore⟩ := Nat.exists_eq_add_of_le (Nat.le_of_not_le h)
    have hlength : (digits.take places).length = places := List.length_take_of_le (by omega)
    have hdrop : (digits.drop places).length = more := by
      rw [List.length_drop, hmore, Nat.add_sub_cancel_left]
    have hsmall := value_lt (digits.drop places)
    have hvalue := value_append (digits.take places) (digits.drop places)
    rw [List.take_append_drop] at hvalue
    rw [hdrop] at hsmall hvalue
    rw [hlength, Nat.sub_self, Nat.pow_zero, Nat.mul_one, hmore, Nat.add_comm places more,
      Nat.pow_add, Nat.mul_div_mul_right _ _ (Nat.pow_pos (by decide)), hvalue, Nat.mul_comm,
      Nat.mul_add_div (Nat.pow_pos (by decide)), Nat.div_eq_of_lt hsmall, Nat.add_zero]

end TrackerBoard.Digits
