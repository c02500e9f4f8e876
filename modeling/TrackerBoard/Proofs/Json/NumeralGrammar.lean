import Mathlib.Data.List.Induction
import TrackerBoard.Proofs.Json.Numeral

/-! # The grammar of numerals

A numeral is a decimal, with or without an exponent (`IsNumeral`).  A decimal has an integer part
that starts with zero only if it is zero, and perhaps digits behind a point.  Its digits are
gathered one after the other, and the number follows from what was gathered.  An exponent beyond the
limit makes the number zero, or too large.

The reader of numerals takes exactly these texts: it reads every one of them as its number
(`IsNumeral.reads`), and what it has read when it may stop is one of them (`Reads.isNumeral`).
-/

namespace TrackerBoard.Json.Numeral

/-! ### Numerals as they are written -/

/-- The bytes of some digits. -/
def digitBytes (digits : List (Fin 10)) : List UInt8 := digits.map fun d : Fin 10 => digitByte d

/-- The number that some digits write. -/
def digitsValue (digits : List (Fin 10)) : Nat := digits.foldl (fun n (d : Fin 10) => n * 10 + d) 0

/-- A numeral without exponent. -/
structure Decimal where
  isNegative : Bool
  integer : List (Fin 10)
  /-- The digits behind the point; there is no point if there are none. -/
  fraction : List (Fin 10)
  /-- The integer part starts with zero only if it is zero. -/
  canonical : integer = [0] ∨ ∃ d digits, integer = d :: digits ∧ d ≠ 0

/-- The sign of an exponent. -/
inductive ExponentSign where
  | none
  | plus
  | minus
deriving DecidableEq

/-- The bytes of a sign. -/
def ExponentSign.text : ExponentSign → List UInt8
  | none => []
  | plus => ['+'.toUInt8]
  | minus => ['-'.toUInt8]

/-- An exponent. -/
structure Exponent where
  mark : UInt8
  sign : ExponentSign
  digits : List (Fin 10)
  isMark : mark = 'e'.toUInt8 ∨ mark = 'E'.toUInt8
  digits_ne_nil : digits ≠ []

namespace Decimal
variable (d : Decimal)

/-- The bytes of a decimal up to its point. -/
def wholeText : List UInt8 :=
  (if d.isNegative then ['-'.toUInt8] else []) ++ digitBytes d.integer

/-- The bytes of a decimal. -/
def text : List UInt8 :=
  d.wholeText ++ if d.fraction = [] then [] else '.'.toUInt8 :: digitBytes d.fraction

/-- What the digits up to the point come to. -/
def wholePart : Numeral :=
  d.integer.foldl (fun n (x : Fin 10) => n.integerDigit x)
    ⟨if d.integer = [0] then .leadingZero else .digits, d.isNegative, 0, 0, false, false, 0⟩

/-- What all digits come to. -/
def numeral : Numeral :=
  if d.fraction = [] then d.wholePart
  else d.fraction.foldl (fun n (x : Fin 10) => n.fractionDigit x)
    { d.wholePart with place := .point, isFull := false }

end Decimal

namespace Exponent

/-- The bytes of an exponent. -/
def text (e : Exponent) : List UInt8 := e.mark :: (e.sign.text ++ digitBytes e.digits)

def isNegative (e : Exponent) : Bool := e.sign = .minus

end Exponent

/-- The number of a decimal with an exponent, unless it is too large. -/
def Decimal.times? (d : Decimal) (e : Exponent) : Option Number :=
  let n := d.numeral
  let power := digitsValue e.digits
  if power ≤ exponentLimit then
    (n.float (if e.isNegative then n.shift - power else n.shift + power)).toOption
  else if n.significand ≠ 0 ∧ ¬ e.isNegative then none
  else some (.float (if n.isNegative then -0.0 else 0.0))

/-- The bytes are a numeral that is in range, and this is its number. -/
inductive IsNumeral : List UInt8 → Number → Prop
  | decimal (d : Decimal) {x : Number} (h : d.numeral.finish = .ok x) : IsNumeral d.text x
  | scientific (d : Decimal) (e : Exponent) {x : Number} (h : d.times? e = some x) :
      IsNumeral (d.text ++ e.text) x

/-! ### Reading digits -/

/-- The bytes, of which the first starts a numeral, lead to this state. -/
def Reads (bytes : List UInt8) (n : Numeral) : Prop :=
  ∃ b rest n₀, bytes = b :: rest ∧ start? b = some n₀ ∧ ByteRun Step n₀ rest n

section Reads
variable {bytes more : List UInt8} {n n' : Numeral} {b : UInt8}

theorem Reads.append (h : Reads bytes n) (h' : ByteRun Step n more n') :
    Reads (bytes ++ more) n' := by
  obtain ⟨b, rest, n₀, rfl, hstart, hrun⟩ := h
  exact ⟨b, rest ++ more, n₀, rfl, hstart, hrun.append h'⟩

theorem Reads.snoc (h : Reads bytes n) (h' : Step n b n') : Reads (bytes ++ [b]) n' :=
  h.append (.single h')

theorem reads_start {n : Numeral} (h : start? b = some n) : Reads [b] n :=
  ⟨b, [], n, rfl, h, .nil n⟩

end Reads

theorem digit?_digitByte_fin (x : Fin 10) : digit? (digitByte x) = some (x : Nat) :=
  digit?_digitByte x.isLt

/-- A byte with the value of a digit is that of the digit. -/
theorem exists_digitByte {b : UInt8} {d : Nat} (h : digit? b = some d) :
    ∃ x : Fin 10, b = digitByte x ∧ d = x := by
  rw [digit?] at h
  split at h
  · next hle =>
    obtain rfl := Option.some.inj h
    obtain ⟨hlow, hhigh⟩ := hle
    rw [UInt8.le_iff_toNat_le] at hlow hhigh
    have hlow' : 48 ≤ b.toNat := hlow
    have hhigh' : b.toNat ≤ 57 := hhigh
    refine ⟨⟨b.toNat - 48, by omega⟩, ?_, rfl⟩
    have hbyte : 48 + (b.toNat - 48) = b.toNat := by omega
    rw [digitByte, hbyte, UInt8.ofNat_toNat]
  · exact absurd h (Option.some_ne_none _).symm

theorem digitBytes_append (digits more : List (Fin 10)) :
    digitBytes (digits ++ more) = digitBytes digits ++ digitBytes more := List.map_append

theorem digitsValue_snoc (digits : List (Fin 10)) (x : Fin 10) :
    digitsValue (digits ++ [x]) = digitsValue digits * 10 + x := by
  rw [digitsValue, List.foldl_append]
  rfl

@[simp] theorem gather_place (n : Numeral) (d : Nat) : (n.gather d).place = n.place := by
  rw [gather]
  split
  · rfl
  · rfl

@[simp] theorem integerDigit_place (n : Numeral) (d : Nat) :
    (n.integerDigit d).place = n.place := by
  rw [integerDigit]
  split
  · exact gather_place n d
  · exact gather_place n d

@[simp] theorem fractionDigit_place (n : Numeral) (d : Nat) :
    (n.fractionDigit d).place = .fraction := by
  rw [fractionDigit]
  split
  · rfl
  · rfl

/-- A byte of a numeral after the first digit of its integer part. -/
theorem step_integerDigit {n : Numeral} (h : n.place = .digits) (x : Fin 10) :
    Step n (digitByte x) (n.integerDigit x) := by
  rw [Step, step, h, digit?_digitByte_fin]

theorem step_fractionDigit {n : Numeral} (h : n.place = .point ∨ n.place = .fraction)
    (x : Fin 10) : Step n (digitByte x) (n.fractionDigit x) := by
  rcases h with h | h
  · rw [Step, step, h, digit?_digitByte_fin]
  · rw [Step, step, h, digit?_digitByte_fin]

theorem run_integerDigits {n : Numeral} (h : n.place = .digits) (digits : List (Fin 10)) :
    ByteRun Step n (digitBytes digits)
      (digits.foldl (fun n (x : Fin 10) => n.integerDigit x) n) := by
  induction digits generalizing n with
  | nil => exact .nil n
  | cons x digits ih =>
    exact .cons (step_integerDigit h x) (ih ((integerDigit_place n x).trans h))

theorem run_fractionDigits {n : Numeral} (h : n.place = .point ∨ n.place = .fraction)
    (digits : List (Fin 10)) :
    ByteRun Step n (digitBytes digits)
      (digits.foldl (fun n (x : Fin 10) => n.fractionDigit x) n) := by
  induction digits generalizing n with
  | nil => exact .nil n
  | cons x digits ih =>
    exact .cons (step_fractionDigit h x) (ih (.inr (fractionDigit_place n x)))

/-! ### Decimals are read -/

/-- What was read of an exponent. -/
def exponentPart (n : Numeral) : Bool × Nat := (n.exponentIsNegative, n.exponent)

/-- What no digit changes, no digits change. -/
theorem foldl_kept {α : Type} (g : Numeral → α) {f : Numeral → Fin 10 → Numeral}
    (h : ∀ n x, g (f n x) = g n) (digits : List (Fin 10)) (n : Numeral) :
    g (digits.foldl f n) = g n := by
  induction digits generalizing n with
  | nil => rfl
  | cons x digits ih => rw [List.foldl_cons, ih, h]

namespace Decimal
variable (d : Decimal)

theorem wholePart_place :
    d.wholePart.place = if d.integer = [0] then .leadingZero else .digits :=
  foldl_kept (·.place) (fun n x => integerDigit_place n x) _ _

/-- The first digit is gathered, whatever follows it. -/
theorem integerDigit_first (place : Place) (isNegative : Bool) (x : Fin 10) :
    integerDigit ⟨place, isNegative, 0, 0, false, false, 0⟩ x =
      ⟨place, isNegative, x, 0, false, false, 0⟩ := by
  have hfits : ¬ UInt64.size ≤ (x : Nat) := by
    simp only [UInt64.size]
    omega
  simp [integerDigit, gather, hfits]

/-- The first digit behind a minus sign. -/
theorem step_minus_digit (x : Fin 10) :
    Step ⟨.sign, true, 0, 0, false, false, 0⟩ (digitByte x)
      ⟨if x = 0 then .leadingZero else .digits, true, x, 0, false, false, 0⟩ := by
  by_cases hx : x = 0
  · subst hx
    rw [Step]
    rfl
  · rw [if_neg hx]
    exact step_minus (Nat.pos_of_ne_zero (Fin.val_ne_zero_iff.mpr hx)) x.isLt

/-- The first digit, behind the sign if there is one. -/
theorem reads_first (isNegative : Bool) (x : Fin 10) :
    Reads ((if isNegative then ['-'.toUInt8] else []) ++ [digitByte x])
      ⟨if x = 0 then .leadingZero else .digits, isNegative, x, 0, false, false, 0⟩ := by
  cases isNegative with
  | false =>
    by_cases hx : x = 0
    · subst hx
      exact reads_start rfl
    · rw [if_neg hx]
      exact reads_start (start?_digitByte (Nat.pos_of_ne_zero (Fin.val_ne_zero_iff.mpr hx)) x.isLt)
  | true =>
    have hminus : Reads ['-'.toUInt8] ⟨.sign, true, 0, 0, false, false, 0⟩ := reads_start rfl
    exact hminus.snoc (step_minus_digit x)

theorem reads_wholeText : Reads d.wholeText d.wholePart := by
  rw [wholeText, wholePart]
  rcases d.canonical with h | ⟨x, digits, h, hx⟩
  · rw [h, if_pos rfl, List.foldl_cons, integerDigit_first]
    exact reads_first d.isNegative 0
  · have hne : ¬ x :: digits = [0] := fun heq => hx (List.cons.inj heq).1
    have hfirst := reads_first d.isNegative x
    rw [if_neg hx] at hfirst
    rw [h, if_neg hne, List.foldl_cons, integerDigit_first, digitBytes, List.map_cons,
      List.append_cons]
    exact hfirst.append (run_integerDigits rfl digits)

theorem step_point :
    Step d.wholePart '.'.toUInt8 { d.wholePart with place := .point, isFull := false } := by
  have hplace := d.wholePart_place
  split at hplace
  · rw [Step, step, hplace]
    rfl
  · rw [Step, step, hplace]
    rfl

/-- **A decimal is read as what its digits come to.** -/
theorem reads_text : Reads d.text d.numeral := by
  rw [text, numeral]
  by_cases h : d.fraction = []
  · rw [if_pos h, if_pos h, List.append_nil]
    exact d.reads_wholeText
  · rw [if_neg h, if_neg h, List.append_cons]
    exact (d.reads_wholeText.snoc d.step_point).append (run_fractionDigits (.inl rfl) d.fraction)

theorem text_of_nil (h : d.fraction = []) : d.text = d.wholeText := by
  rw [text, if_pos h, List.append_nil]

theorem numeral_of_nil (h : d.fraction = []) : d.numeral = d.wholePart := if_pos h

theorem numeral_place_of_nil (h : d.fraction = []) :
    d.numeral.place = if d.integer = [0] then .leadingZero else .digits := by
  rw [d.numeral_of_nil h, wholePart_place]

theorem numeral_place_of_ne_nil (h : d.fraction ≠ []) : d.numeral.place = .fraction := by
  rw [numeral, if_neg h, ← List.dropLast_concat_getLast h, List.foldl_append]
  exact fractionDigit_place _ _

/-- A decimal has been read up to one of the places where it may end. -/
theorem numeral_place : d.numeral.place = .leadingZero ∨ d.numeral.place = .digits ∨
    d.numeral.place = .fraction := by
  by_cases h : d.fraction = []
  · rw [d.numeral_place_of_nil h]
    split
    · exact .inl rfl
    · exact .inr (.inl rfl)
  · exact .inr (.inr (d.numeral_place_of_ne_nil h))

/-- A decimal says nothing of an exponent. -/
theorem numeral_exponentPart : d.numeral.exponentPart = (false, 0) := by
  have hinteger (n : Numeral) (x : Fin 10) : (n.integerDigit x).exponentPart = n.exponentPart := by
    rw [integerDigit, gather]
    split <;> split <;> rfl
  have hfraction (n : Numeral) (x : Fin 10) :
      (n.fractionDigit x).exponentPart = n.exponentPart := by
    rw [fractionDigit, gather]
    split <;> split <;> rfl
  have hwhole : d.wholePart.exponentPart = (false, 0) := foldl_kept exponentPart hinteger _ _
  rw [numeral]
  split
  · exact hwhole
  · rw [foldl_kept exponentPart hfraction]
    exact hwhole

end Decimal

/-! ### Exponents are read -/

/-- Where a reader stands behind the sign and some digits of an exponent. -/
def exponentPlace (sign : ExponentSign) (digits : List (Fin 10)) : Place :=
  if digits ≠ [] then .exponentDigits else if sign = .none then .exponent else .exponentSign

/-- A numeral with an exponent within the limit, or with a part of one. -/
def scaled (n : Numeral) (sign : ExponentSign) (digits : List (Fin 10)) : Numeral :=
  { n with
    place := exponentPlace sign digits
    exponentIsNegative := sign = .minus
    exponent := digitsValue digits }

/-- What the sign and some digits of an exponent lead to.  Beyond the limit the number is zero, and
only its sign matters. -/
inductive ExponentState (n : Numeral) (sign : ExponentSign) (digits : List (Fin 10)) :
    Numeral → Prop
  | within (h : digitsValue digits ≤ exponentLimit) :
      ExponentState n sign digits (n.scaled sign digits)
  | beyond {n' : Numeral} (h : exponentLimit < digitsValue digits)
      (hzero : n.significand = 0 ∨ sign = .minus) (hplace : n'.place = .vanishing)
      (hsign : n'.isNegative = n.isNegative) : ExponentState n sign digits n'

section Exponent
variable {n n' : Numeral} {sign : ExponentSign} {digits : List (Fin 10)} {b : UInt8}

theorem scaled_none (h : n.exponentPart = (false, 0)) :
    n.scaled .none [] = { n with place := .exponent } := by
  obtain ⟨hnegative, hexponent⟩ := Prod.mk.inj h
  simp [scaled, exponentPlace, digitsValue, hnegative, hexponent]

theorem step_mark (h : n.place = .leadingZero ∨ n.place = .digits ∨ n.place = .fraction)
    (hb : b = 'e'.toUInt8 ∨ b = 'E'.toUInt8) (hpart : n.exponentPart = (false, 0)) :
    Step n b (n.scaled .none []) := by
  rw [scaled_none hpart]
  rcases h with h | h | h <;> rcases hb with rfl | rfl
  all_goals
    rw [Step, step, h]
    rfl

/-- The sign of an exponent stands before its digits. -/
theorem run_exponentSign : ByteRun Step (n.scaled .none []) sign.text (n.scaled sign []) := by
  cases sign with
  | none => exact .nil _
  | plus =>
    refine .single ?_
    rw [Step]
    rfl
  | minus =>
    refine .single ?_
    rw [Step]
    rfl

theorem exponentPlace_cases (sign : ExponentSign) (digits : List (Fin 10)) :
    exponentPlace sign digits = .exponent ∨ exponentPlace sign digits = .exponentSign ∨
      exponentPlace sign digits = .exponentDigits := by
  rw [exponentPlace]
  split
  · exact .inr (.inr rfl)
  split
  · exact .inl rfl
  · exact .inr (.inl rfl)

/-- A digit behind the mark, the sign or the digits of an exponent is one of its digits. -/
theorem step_scaled {d : Nat} (h : digit? b = some d) :
    (n.scaled sign digits).step b = ((n.scaled sign digits).exponentDigit d).map some := by
  have hplace : (n.scaled sign digits).place = exponentPlace sign digits := rfl
  rcases exponentPlace_cases sign digits with h' | h' | h'
  all_goals rw [step, hplace, h', h]

theorem exponentDigit_scaled (x : Fin 10) :
    (n.scaled sign digits).exponentDigit x =
      if digitsValue (digits ++ [x]) ≤ exponentLimit then .ok (n.scaled sign (digits ++ [x]))
      else if n.significand ≠ 0 ∧ sign ≠ .minus then .error .numberTooLarge
      else .ok { n.scaled sign digits with place := .vanishing } := by
  rw [exponentDigit, digitsValue_snoc]
  simp [scaled, exponentPlace, digitsValue_snoc]

/-- A digit of an exponent leads on, unless it makes the number too large. -/
theorem step_exponentDigit (h : ExponentState n sign digits n') (x : Fin 10) :
    (∃ n'', Step n' (digitByte x) n'' ∧ ExponentState n sign (digits ++ [x]) n'') ∨
      n'.step (digitByte x) = .error .numberTooLarge ∧
        exponentLimit < digitsValue (digits ++ [x]) ∧ n.significand ≠ 0 ∧ sign ≠ .minus := by
  have hvalue := digitsValue_snoc digits x
  cases h with
  | within h =>
    have hstep : (n.scaled sign digits).step (digitByte x) = _ :=
      step_scaled (digit?_digitByte_fin x)
    rw [exponentDigit_scaled] at hstep
    split at hstep
    · next hlimit => exact .inl ⟨_, hstep, .within hlimit⟩
    split at hstep
    · next hlimit hlarge => exact .inr ⟨hstep, Nat.not_le.mp hlimit, hlarge⟩
    · next hlimit hsmall =>
      have hzero : n.significand = 0 ∨ sign = .minus := by
        by_cases hs : n.significand = 0
        · exact .inl hs
        · exact .inr (Decidable.byContradiction fun hm => hsmall ⟨hs, hm⟩)
      exact .inl ⟨_, hstep, .beyond (Nat.not_le.mp hlimit) hzero rfl rfl⟩
  | beyond h hzero hplace hsign =>
    refine .inl ⟨n', ?_, .beyond (by omega) hzero hplace hsign⟩
    rw [Step, step, hplace, digit?_digitByte_fin]

/-- The digits of an exponent are read, unless they make the number too large. -/
theorem run_exponentDigits (n : Numeral) (sign : ExponentSign) (digits : List (Fin 10))
    (hrange : digitsValue digits ≤ exponentLimit ∨ n.significand = 0 ∨ sign = .minus) :
    ∃ n', ByteRun Step (n.scaled sign []) (digitBytes digits) n' ∧
      ExponentState n sign digits n' := by
  induction digits using List.reverseRecOn with
  | nil => exact ⟨_, .nil _, .within (Nat.zero_le _)⟩
  | append_singleton digits x ih =>
    have hvalue := digitsValue_snoc digits x
    obtain ⟨n', hrun, hstate⟩ := ih (hrange.imp_left fun h => by omega)
    rcases step_exponentDigit hstate x with ⟨n'', hstep, hstate'⟩ | ⟨-, hlimit, hs, hm⟩
    · refine ⟨n'', ?_, hstate'⟩
      rw [digitBytes_append]
      exact hrun.append (.single hstep)
    · exact absurd hrange (by simp [hs, hm, hlimit])

end Exponent

/-! ### Numerals are read -/

/-- A numeral may end here, and its number is then this. -/
structure MayEnd (n : Numeral) (x : Number) : Prop where
  finish : n.finish = .ok x
  step : ∀ b, EndsWhole b → n.step b = .ok none

theorem Decimal.mayEnd (d : Decimal) {x : Number} (h : d.numeral.finish = .ok x) :
    MayEnd d.numeral x := by
  refine ⟨h, fun b hb => ?_⟩
  rcases d.numeral_place with hplace | hplace | hplace
  · rw [Numeral.step, hplace, hb.1]
    exact congrArg Except.ok (afterInteger_eq_none _ hb)
  · rw [Numeral.step, hplace, hb.1]
    exact congrArg Except.ok (afterInteger_eq_none _ hb)
  · rw [Numeral.step, hplace, hb.1]
    exact congrArg Except.ok (if_neg (not_or.mpr hb.2.2))

theorem toOption_eq_some_iff {ε α : Type} {r : Except ε α} {a : α} :
    r.toOption = some a ↔ r = .ok a := by
  cases r <;> simp [Except.toOption]

section Scientific
variable {d : Decimal} {e : Exponent} {n : Numeral} {x : Number}

/-- With all digits of its exponent a numeral has the number of the grammar, or is too large. -/
theorem finish_of_exponentState (h : ExponentState d.numeral e.sign e.digits n) :
    n.finish = .ok x ↔ d.times? e = some x := by
  cases h with
  | within h =>
    have hplace : (d.numeral.scaled e.sign e.digits).place = .exponentDigits :=
      if_pos e.digits_ne_nil
    rw [finish, hplace, Decimal.times?, if_pos h, toOption_eq_some_iff]
    rfl
  | beyond h hzero hplace hsign =>
    have hnonzero : ¬ (d.numeral.significand ≠ 0 ∧ ¬ e.isNegative = true) := by
      rintro ⟨hs, hm⟩
      exact hzero.elim hs fun hminus => hm (decide_eq_true hminus)
    rw [finish, hplace, Decimal.times?, if_neg (Nat.not_le.mpr h), if_neg hnonzero, hsign]
    simp

theorem mayEnd_of_exponentState (h : ExponentState d.numeral e.sign e.digits n)
    (hx : d.times? e = some x) : MayEnd n x := by
  refine ⟨(finish_of_exponentState h).mpr hx, fun b hb => ?_⟩
  have hplace : n.place = .exponentDigits ∨ n.place = .vanishing := by
    cases h with
    | within _ => exact .inl (if_pos e.digits_ne_nil)
    | beyond _ _ hplace _ => exact .inr hplace
  rcases hplace with hplace | hplace
  · rw [Numeral.step, hplace, hb.1]
  · rw [Numeral.step, hplace, hb.1]

/-- A number in range has an exponent that can be read. -/
theorem range_of_times? (h : d.times? e = some x) :
    digitsValue e.digits ≤ exponentLimit ∨ d.numeral.significand = 0 ∨ e.sign = .minus := by
  rw [Decimal.times?] at h
  split at h
  · next hlimit => exact .inl hlimit
  split at h
  · exact absurd h (Option.some_ne_none _).symm
  · next hnonzero =>
    by_cases hs : d.numeral.significand = 0
    · exact .inr (.inl hs)
    · refine .inr (.inr (Decidable.byContradiction fun hm => hnonzero ⟨hs, ?_⟩))
      exact fun hminus => hm (of_decide_eq_true hminus)

end Scientific

/-- **A numeral is read as its number.** -/
theorem IsNumeral.reads {bytes : List UInt8} {x : Number} (h : IsNumeral bytes x) :
    ∃ n, Reads bytes n ∧ MayEnd n x := by
  cases h with
  | decimal d h => exact ⟨d.numeral, d.reads_text, d.mayEnd h⟩
  | scientific d e h =>
    have hmark := step_mark d.numeral_place e.isMark d.numeral_exponentPart
    obtain ⟨n, hrun, hstate⟩ :=
      run_exponentDigits d.numeral e.sign e.digits (range_of_times? h)
    refine ⟨n, d.reads_text.append (.cons hmark (run_exponentSign.append hrun)), ?_⟩
    exact mayEnd_of_exponentState hstate h

/-! ### Nothing else is read -/

/-- What the bytes read so far are of a numeral. -/
inductive Partial : List UInt8 → Numeral → Prop
  | sign : Partial ['-'.toUInt8] ⟨.sign, true, 0, 0, false, false, 0⟩
  | decimal (d : Decimal) : Partial d.text d.numeral
  | point (d : Decimal) (h : d.fraction = []) :
      Partial (d.text ++ ['.'.toUInt8]) { d.numeral with place := .point, isFull := false }
  | exponent (d : Decimal) {mark : UInt8} (hmark : mark = 'e'.toUInt8 ∨ mark = 'E'.toUInt8)
      {sign : ExponentSign} {digits : List (Fin 10)} {n : Numeral}
      (h : ExponentState d.numeral sign digits n) :
      Partial (d.text ++ mark :: (sign.text ++ digitBytes digits)) n

namespace Decimal

/-- The decimal of one digit. -/
def ofDigit (isNegative : Bool) (x : Fin 10) : Decimal where
  isNegative := isNegative
  integer := [x]
  fraction := []
  canonical := by
    by_cases hx : x = 0
    · exact .inl (by rw [hx])
    · exact .inr ⟨x, [], rfl, hx⟩

theorem numeral_ofDigit (isNegative : Bool) (x : Fin 10) :
    (ofDigit isNegative x).numeral =
      ⟨if x = 0 then .leadingZero else .digits, isNegative, x, 0, false, false, 0⟩ := by
  calc (ofDigit isNegative x).numeral
    _ = integerDigit
        ⟨if [x] = [0] then .leadingZero else .digits, isNegative, 0, 0, false, false, 0⟩ x := rfl
    _ = _ := by rw [integerDigit_first]; simp only [List.cons.injEq, and_true]

variable (d : Decimal) (x : Fin 10)

/-- A decimal with another digit of its integer part, which is not zero. -/
def addInteger (h : d.integer ≠ [0]) : Decimal where
  isNegative := d.isNegative
  integer := d.integer ++ [x]
  fraction := []
  canonical := by
    obtain ⟨y, digits, heq, hy⟩ := d.canonical.resolve_left h
    exact .inr ⟨y, digits ++ [x], by rw [heq]; rfl, hy⟩

/-- A decimal with another digit behind its point. -/
def addFraction : Decimal := { d with fraction := d.fraction ++ [x] }

theorem text_addInteger (hnil : d.fraction = []) (h : d.integer ≠ [0]) :
    (d.addInteger x h).text = d.text ++ [digitByte x] := by
  rw [text_of_nil _ rfl, d.text_of_nil hnil, wholeText, addInteger, digitBytes_append,
    ← List.append_assoc]
  rfl

theorem numeral_addInteger (hnil : d.fraction = []) (h : d.integer ≠ [0]) :
    (d.addInteger x h).numeral = d.numeral.integerDigit x := by
  obtain ⟨y, digits, heq, hy⟩ := d.canonical.resolve_left h
  have hne : d.integer ++ [x] ≠ [0] := by
    rw [heq]
    exact fun h => hy (List.cons.inj h).1
  rw [numeral_of_nil _ rfl, d.numeral_of_nil hnil, wholePart, wholePart, if_neg h, addInteger,
    if_neg hne, List.foldl_append]
  rfl

theorem addFraction_ne_nil : (d.addFraction x).fraction ≠ [] := by
  simp [addFraction]

/-- The first digit behind the point. -/
theorem text_addFraction_of_nil (hnil : d.fraction = []) :
    (d.addFraction x).text = d.text ++ ['.'.toUInt8] ++ [digitByte x] := by
  rw [text, if_neg (d.addFraction_ne_nil x), d.text_of_nil hnil, addFraction, hnil,
    List.append_assoc]
  rfl

theorem numeral_addFraction_of_nil (hnil : d.fraction = []) :
    (d.addFraction x).numeral =
      fractionDigit { d.numeral with place := .point, isFull := false } x := by
  rw [numeral, if_neg (d.addFraction_ne_nil x), d.numeral_of_nil hnil, addFraction, hnil]
  rfl

/-- Any other digit behind the point. -/
theorem text_addFraction (hne : d.fraction ≠ []) :
    (d.addFraction x).text = d.text ++ [digitByte x] := by
  rw [text, if_neg (d.addFraction_ne_nil x), text, if_neg hne, addFraction, digitBytes_append,
    List.append_assoc]
  rfl

theorem numeral_addFraction (hne : d.fraction ≠ []) :
    (d.addFraction x).numeral = d.numeral.fractionDigit x := by
  rw [numeral, if_neg (d.addFraction_ne_nil x), numeral, if_neg hne, addFraction,
    List.foldl_append]
  rfl

end Decimal

section Partial
variable {bytes : List UInt8} {n n' : Numeral} {b : UInt8}

theorem Partial.ofDigit (isNegative : Bool) (x : Fin 10) :
    Partial ((if isNegative then ['-'.toUInt8] else []) ++ [digitByte x])
      ⟨if x = 0 then .leadingZero else .digits, isNegative, x, 0, false, false, 0⟩ := by
  have h := Partial.decimal (Decimal.ofDigit isNegative x)
  rw [Decimal.numeral_ofDigit, Decimal.text_of_nil _ rfl] at h
  exact h

theorem Partial.start (h : start? b = some n) : Partial [b] n := by
  rw [start?] at h
  split at h
  · next hb =>
    obtain rfl := Option.some.inj h
    rw [hb]
    exact .sign
  split at h
  · next hb =>
    obtain rfl := Option.some.inj h
    rw [hb]
    exact .ofDigit false 0
  split at h
  · next hb =>
    obtain rfl := Option.some.inj h
    have hdigit : digit? b = some (b.toNat - 48) := by
      rw [digit?, if_pos ⟨UInt8.le_trans (by decide) hb.1, hb.2⟩]
    obtain ⟨x, rfl, hx⟩ := exists_digitByte hdigit
    have hne : x ≠ 0 := by
      rintro rfl
      exact absurd hb.1 (by decide)
    have h := Partial.ofDigit false x
    rw [if_neg hne] at h
    rw [hx]
    exact h
  · exact absurd h (Option.some_ne_none _).symm

/-- A mark or a point behind an integer part. -/
theorem afterInteger_eq_some (h : n.afterInteger b = some n') :
    (b = '.'.toUInt8 ∧ n' = { n with place := .point, isFull := false }) ∨
      ((b = 'e'.toUInt8 ∨ b = 'E'.toUInt8) ∧ n' = { n with place := .exponent }) := by
  rw [afterInteger] at h
  split at h
  · next hb => exact .inl ⟨hb, (Option.some.inj h).symm⟩
  split at h
  · next hb => exact .inr ⟨hb, (Option.some.inj h).symm⟩
  · exact absurd h (Option.some_ne_none _).symm

/-- The mark of an exponent behind a decimal. -/
theorem Partial.mark (d : Decimal) (hb : b = 'e'.toUInt8 ∨ b = 'E'.toUInt8) :
    Partial (d.text ++ [b]) { d.numeral with place := .exponent } := by
  rw [← scaled_none d.numeral_exponentPart]
  exact @Partial.exponent d b hb .none [] _ (.within (Nat.zero_le _))

/-- A byte behind an integer part. -/
theorem Partial.step_whole (d : Decimal) (hnil : d.fraction = []) (hstep : Step d.numeral b n') :
    Partial (d.text ++ [b]) n' := by
  have hplace := d.numeral_place_of_nil hnil
  have hafter (h : d.numeral.afterInteger b = some n') : Partial (d.text ++ [b]) n' := by
    rcases afterInteger_eq_some h with ⟨rfl, rfl⟩ | ⟨hb, rfl⟩
    · exact .point d hnil
    · exact .mark d hb
  rw [Step, Numeral.step, hplace] at hstep
  by_cases hzero : d.integer = [0]
  · rw [if_pos hzero] at hstep
    cases hdigit : digit? b with
    | none =>
      rw [hdigit] at hstep
      exact hafter (Except.ok.inj hstep)
    | some v =>
      rw [hdigit] at hstep
      exact absurd hstep (by simp)
  · rw [if_neg hzero] at hstep
    cases hdigit : digit? b with
    | none =>
      rw [hdigit] at hstep
      exact hafter (Except.ok.inj hstep)
    | some v =>
      rw [hdigit] at hstep
      obtain ⟨x, rfl, rfl⟩ := exists_digitByte hdigit
      obtain rfl := Option.some.inj (Except.ok.inj hstep)
      rw [← d.text_addInteger x hnil hzero, ← d.numeral_addInteger x hnil hzero]
      exact .decimal _

/-- A byte behind the digits of a fraction. -/
theorem Partial.step_fraction (d : Decimal) (hne : d.fraction ≠ [])
    (hstep : Step d.numeral b n') : Partial (d.text ++ [b]) n' := by
  rw [Step, Numeral.step, d.numeral_place_of_ne_nil hne] at hstep
  cases hdigit : digit? b with
  | none =>
    rw [hdigit] at hstep
    have hmark := Except.ok.inj hstep
    split at hmark
    · next hb =>
      obtain rfl := Option.some.inj hmark
      exact .mark d hb
    · exact absurd hmark (Option.some_ne_none _).symm
  | some v =>
    rw [hdigit] at hstep
    obtain ⟨x, rfl, rfl⟩ := exists_digitByte hdigit
    obtain rfl := Option.some.inj (Except.ok.inj hstep)
    rw [← d.text_addFraction x hne, ← d.numeral_addFraction x hne]
    exact .decimal _

/-- A byte behind a minus sign. -/
theorem Partial.step_sign (hstep : Step ⟨.sign, true, 0, 0, false, false, 0⟩ b n') :
    Partial (['-'.toUInt8] ++ [b]) n' := by
  cases hdigit : digit? b with
  | none =>
    rw [Step, Numeral.step, hdigit] at hstep
    exact absurd hstep (by simp)
  | some v =>
    obtain ⟨x, rfl, rfl⟩ := exists_digitByte hdigit
    obtain rfl := Option.some.inj (Except.ok.inj (hstep.symm.trans (Decimal.step_minus_digit x)))
    exact .ofDigit true x

/-- A byte behind a point. -/
theorem Partial.step_point (d : Decimal) (hnil : d.fraction = [])
    (hstep : Step { d.numeral with place := .point, isFull := false } b n') :
    Partial (d.text ++ ['.'.toUInt8] ++ [b]) n' := by
  cases hdigit : digit? b with
  | none =>
    rw [Step, Numeral.step, hdigit] at hstep
    exact absurd hstep (by simp)
  | some v =>
    rw [Step, Numeral.step, hdigit] at hstep
    obtain ⟨x, rfl, rfl⟩ := exists_digitByte hdigit
    obtain rfl := Option.some.inj (Except.ok.inj hstep)
    rw [← d.text_addFraction_of_nil x hnil, ← d.numeral_addFraction_of_nil x hnil]
    exact .decimal _

/-- Another byte than a digit leads on only behind the mark, and only if it is a sign. -/
theorem exists_sign_of_step {sign : ExponentSign} {digits : List (Fin 10)}
    (hdigit : digit? b = none) (hstep : Step (n.scaled sign digits) b n') :
    digits = [] ∧ sign = .none ∧
      ∃ sign' : ExponentSign, [b] = sign'.text ∧ n' = n.scaled sign' [] := by
  have hplace : (n.scaled sign digits).place = exponentPlace sign digits := rfl
  rw [Step, Numeral.step, hplace, hdigit, exponentPlace] at hstep
  by_cases hdigits : digits = []
  · by_cases hsign : sign = .none
    · subst hdigits hsign
      refine ⟨rfl, rfl, ?_⟩
      rw [if_neg (not_not_intro rfl), if_pos rfl] at hstep
      dsimp only at hstep
      split at hstep
      · next hb => exact ⟨.plus, by rw [hb]; rfl, (Option.some.inj (Except.ok.inj hstep)).symm⟩
      split at hstep
      · next hb => exact ⟨.minus, by rw [hb]; rfl, (Option.some.inj (Except.ok.inj hstep)).symm⟩
      · exact absurd hstep (by simp)
    · rw [if_neg (not_not_intro hdigits), if_neg hsign] at hstep
      exact absurd hstep (by simp)
  · rw [if_pos hdigits] at hstep
    exact absurd hstep (by simp)

/-- A byte behind the mark of an exponent, its sign or its digits. -/
theorem Partial.step_exponent (d : Decimal) {mark : UInt8}
    (hmark : mark = 'e'.toUInt8 ∨ mark = 'E'.toUInt8) {sign : ExponentSign}
    {digits : List (Fin 10)} (h : ExponentState d.numeral sign digits n) (hstep : Step n b n') :
    Partial (d.text ++ mark :: (sign.text ++ digitBytes digits) ++ [b]) n' := by
  cases hdigit : digit? b with
  | some v =>
    obtain ⟨x, rfl, rfl⟩ := exists_digitByte hdigit
    have hstate : ExponentState d.numeral sign (digits ++ [x]) n' := by
      rcases step_exponentDigit h x with ⟨n'', hstep', hstate⟩ | ⟨herror, -⟩
      · obtain rfl := Option.some.inj (Except.ok.inj (hstep.symm.trans hstep'))
        exact hstate
      · rw [Step, herror] at hstep
        exact absurd hstep (by simp)
    have hpartial := Partial.exponent d hmark hstate
    rw [digitBytes_append, ← List.append_assoc] at hpartial
    rw [List.append_assoc, List.cons_append]
    exact hpartial
  | none =>
    cases h with
    | within h =>
      obtain ⟨rfl, rfl, sign, hsign, rfl⟩ := exists_sign_of_step hdigit hstep
      rw [List.append_assoc, List.cons_append, ExponentSign.text, digitBytes, List.map_nil,
        List.append_nil, List.nil_append, hsign, ← List.append_nil sign.text]
      exact @Partial.exponent d mark hmark sign [] _ (.within h)
    | beyond _ _ hplace _ =>
      rw [Step, Numeral.step, hplace, hdigit] at hstep
      exact absurd hstep (by simp)

theorem Partial.step (h : Partial bytes n) (hstep : Step n b n') : Partial (bytes ++ [b]) n' := by
  cases h with
  | sign => exact step_sign hstep
  | decimal d =>
    by_cases h : d.fraction = []
    · exact step_whole d h hstep
    · exact step_fraction d h hstep
  | point d h => exact step_point d h hstep
  | exponent d hmark h => exact step_exponent d hmark h hstep

/-- **What has been read when a numeral may end is a numeral.** -/
theorem Reads.isNumeral (h : Reads bytes n) {x : Number} (hfinish : n.finish = .ok x) :
    IsNumeral bytes x := by
  obtain ⟨b, rest, n₀, rfl, hstart, hrun⟩ := h
  have hpartial : Partial ([b] ++ rest) n :=
    hrun.preserves (P := fun n bytes => Partial bytes n) (fun _ _ _ _ h => h.step) (.start hstart)
  rw [List.singleton_append] at hpartial
  generalize b :: rest = bytes at hpartial ⊢
  cases hpartial with
  | sign => exact absurd hfinish (by simp [finish])
  | decimal d => exact .decimal d hfinish
  | point d h => exact absurd hfinish (by simp [finish])
  | @exponent d mark hmark sign digits _ h =>
    by_cases hdigits : digits = []
    · subst hdigits
      cases h with
      | within h =>
        have hplace : (d.numeral.scaled sign []).place = exponentPlace sign [] := rfl
        rw [finish, hplace, exponentPlace, if_neg (not_not_intro rfl)] at hfinish
        by_cases hsign : sign = .none
        · rw [if_pos hsign] at hfinish
          exact absurd hfinish (by simp)
        · rw [if_neg hsign] at hfinish
          exact absurd hfinish (by simp)
      | beyond h => exact absurd h (by decide)
    · let e : Exponent := ⟨mark, sign, digits, hmark, hdigits⟩
      exact .scientific d e ((finish_of_exponentState (e := e) h).mp hfinish)

end Partial

end TrackerBoard.Json.Numeral
