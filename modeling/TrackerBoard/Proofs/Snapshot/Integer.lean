import Mathlib
import TrackerBoard.Proofs.Json.GrammarSound
import TrackerBoard.Proofs.Number.Rational
import TrackerBoard.Snapshot.Field

/-! # Whole numbers in snapshots

A field that holds a word is read from a number of any form: a word, or a double that is whole.  A
word that the field cannot hold is tried as a double all the same, and rounding could bring it back
into range.  It never does: what is read for a field is the number itself, and a number is read
whenever the field can hold it (`readsExactly`).

This needs that a word that is kept as a negative one is below zero.  It is in every value that is
read from a text (`isProper_of_parse`).
-/

namespace TrackerBoard

namespace Json

/-- The rational number that a number is.  A double that is not finite is none. -/
def Number.rational? : Number → Option ℚ
  | natural n => some n.toNat
  | negative n => some n.toInt
  | float x => doubleValue? x

/-- The rational number that a value is, if it is a number. -/
def Value.rational? : Value → Option ℚ
  | number n => n.rational?
  | _ => none

/-! ### Negative words -/

/-- A word that is kept as a negative one is below zero. -/
def Number.IsProper : Number → Prop
  | negative n => n.toInt < 0
  | _ => True

/-- Every number in the value is proper. -/
inductive Value.IsProper : Value → Prop
  | null : IsProper .null
  | bool (b : Bool) : IsProper (.bool b)
  | number {n : Number} (h : n.IsProper) : IsProper (.number n)
  | string (s : String) : IsProper (.string s)
  | list {items : List Value} (h : ∀ item ∈ items, IsProper item) : IsProper (.list items)
  | object {members : Members} (h : ∀ m ∈ members, IsProper m.2) : IsProper (.object members)

namespace Numeral
variable {n : Numeral} {x : Number}

theorem isProper_whole (n : Numeral) : n.whole.IsProper := by
  rw [whole]
  split
  · trivial
  split
  · next word hword =>
    obtain ⟨hsigned, hne⟩ := Option.filter_eq_some_iff.mp hword
    have hvalue := signedWord?_eq_some_iff.mp hsigned
    have hzero : word.toInt ≠ 0 := fun h => of_decide_eq_true hne (Int64.toInt_inj.mp h)
    rw [Number.IsProper]
    omega
  · trivial

theorem isProper_of_float {power : Int} (h : n.float power = .ok x) : x.IsProper := by
  rw [float] at h
  split at h
  · cases h
    trivial
  · cases h

theorem isProper_of_finish (h : n.finish = .ok x) : x.IsProper := by
  have hwhole : .ok n.whole = (.ok x : Except Fault Number) → x.IsProper := by
    intro h
    cases h
    exact n.isProper_whole
  rw [finish] at h
  split at h
  · cases h
  · cases h
  · cases h
  · cases h
  · exact hwhole h
  · split at h
    · exact isProper_of_float h
    · exact hwhole h
  · exact isProper_of_float h
  · exact isProper_of_float h
  · cases h
    trivial

end Numeral

/-- Every number in the part of a text is proper. -/
def Part.IsProper : Part → Prop
  | .value v => v.IsProper
  | .padded v => v.IsProper
  | .items vs => ∀ item ∈ vs, item.IsProper
  | .members ms => ∀ m ∈ ms, m.2.IsProper

theorem Spells.isProper {depth : ℕ} {part : Part} {text : List UInt8} (h : Spells depth part text) :
    part.IsProper := by
  induction h with
  | null => exact Value.IsProper.null
  | true => exact Value.IsProper.bool _
  | false => exact Value.IsProper.bool _
  | number h =>
    obtain ⟨n, -, hend⟩ := h.reads
    exact Value.IsProper.number (Numeral.isProper_of_finish hend.finish)
  | string _ => exact Value.IsProper.string _
  | emptyList _ _ => exact Value.IsProper.list (List.forall_mem_nil _)
  | list _ _ ih => exact Value.IsProper.list ih
  | emptyObject _ _ => exact Value.IsProper.object (List.forall_mem_nil _)
  | object _ _ ih => exact Value.IsProper.object ih
  | padded _ _ _ ih => exact ih
  | item _ ih =>
    rw [Part.IsProper, List.forall_mem_singleton]
    exact ih
  | nextItem _ _ ih ih' =>
    rw [Part.IsProper, List.forall_mem_append, List.forall_mem_singleton]
    exact ⟨ih, ih'⟩
  | member _ _ ih =>
    rw [Part.IsProper, List.forall_mem_singleton]
    exact ih
  | nextMember _ _ _ ih ih' =>
    rw [Part.IsProper, List.forall_mem_append, List.forall_mem_singleton]
    exact ⟨ih, ih'⟩

/-- Every value that is read from a text is proper. -/
theorem isProper_of_parse {body : List UInt8} {value : Value} (h : parse body = .ok value) :
    value.IsProper :=
  (isText_of_parse h).isProper

end Json

namespace Field

open Json

/-! ### Words in range -/

/-- The double of a word is not below a power of two that the word reaches. -/
theorem two_pow_le_of_wholeDouble? {n : UInt64} {x : ℤ} {p : ℕ} (hp : 2 ^ p ≤ n.toNat)
    (h : wholeDouble? (.natural n) = some x) : 2 ^ p ≤ x := by
  have hpos : 0 < n := UInt64.lt_iff_toNat_lt.mpr (Nat.lt_of_lt_of_le (Nat.two_pow_pos p) hp)
  obtain ⟨q, hq, -, hle⟩ := Binary64.exists_doubleValue?_toFloat hpos
  have hx : q = x := Option.some.inj (hq.symm.trans (Binary64.whole?_ofFloat_eq_some_iff.mp h))
  have hpower := hle p hp
  rw [hx] at hpower
  exact_mod_cast hpower

/-- The largest word is rounded to a number that is no word. -/
example : wholeDouble? (.natural 18446744073709551615) = some 18446744073709551616 := by
  decide +kernel

/-- The double of a negative word is below zero. -/
theorem neg_of_wholeDouble? {n : Int64} {x : ℤ} (hneg : n.toInt < 0)
    (h : wholeDouble? (.negative n) = some x) : x < 0 := by
  have hlow := n.le_toInt
  have habs : n.toInt.natAbs.toUInt64.toNat = n.toInt.natAbs := Nat.mod_eq_of_lt (by omega)
  have hone : 2 ^ 0 ≤ n.toInt.natAbs.toUInt64.toNat := by omega
  have hfloat : Number.toFloat (.negative n) = -n.toInt.natAbs.toUInt64.toFloat :=
    if_pos (Int64.lt_iff_toInt_lt.mpr hneg)
  obtain ⟨q, -, hq, hle⟩ := Binary64.exists_doubleValue?_toFloat (UInt64.lt_iff_toNat_lt.mpr hone)
  have hwhole := Binary64.whole?_ofFloat_eq_some_iff.mp h
  rw [hfloat, hq] at hwhole
  have hx : -q = x := Option.some.inj hwhole
  have hpower := hle 0 hone
  have hbelow : (x : ℚ) < 0 := by
    rw [← hx]
    linarith
  exact_mod_cast hbelow

/-- A number that a filter keeps is found again behind a map that is exact on what is kept. -/
theorem map_map_filter_eq_some_iff {α β : Type} {p : ℤ → Bool} {word : ℤ → α} {value : α → β}
    {whole : Option ℤ} {b : β} {k : ℤ} (hexact : ∀ x, p x = true → (value (word x) = b ↔ x = k)) :
    ((whole.filter p).map word).map value = some b ↔ whole = some k ∧ p k = true := by
  cases whole with
  | none => simp
  | some x =>
    rw [Option.filter_some, Option.some.injEq]
    by_cases hx : p x = true
    · rw [if_pos hx, Option.map_some, Option.map_some, Option.some.injEq, hexact x hx]
      exact ⟨fun h => ⟨h, h ▸ hx⟩, And.left⟩
    · rw [if_neg hx]
      exact iff_of_false (by simp) fun h => hx (h.1 ▸ h.2)

/-- A whole number in range is its own nearest word, and no other is kept. -/
theorem map_nearestWord_eq_some_iff {whole : Option ℤ} {k : ℤ} :
    ((whole.filter fun x => -9223372036854775808 ≤ x ∧ x < 9223372036854775808).map
        nearestWord).map Int64.toInt = some k ↔
      whole = some k ∧ -2 ^ 63 ≤ k ∧ k < 2 ^ 63 := by
  rw [map_map_filter_eq_some_iff (k := k), decide_eq_true_iff]
  · norm_num
  intro x hx
  obtain ⟨hlow, hhigh⟩ := of_decide_eq_true hx
  have hmin := Int64.toInt_minValue
  have hmax := Int64.toInt_maxValue
  rw [toInt_nearestWord (by omega) (by omega)]

/-- As for signed words. -/
theorem map_nearestNaturalWord_eq_some_iff {whole : Option ℤ} {k : ℕ} :
    ((whole.filter fun x => 0 ≤ x ∧ x < 18446744073709551616).map
        nearestNaturalWord).map UInt64.toNat = some k ↔
      whole = some (k : ℤ) ∧ k < 2 ^ 64 := by
  rw [map_map_filter_eq_some_iff (k := (k : ℤ)), decide_eq_true_iff]
  · exact and_congr_right fun _ => by omega
  intro x hx
  obtain ⟨hlow, hhigh⟩ := of_decide_eq_true hx
  have hsize : UInt64.size = 18446744073709551616 := rfl
  rw [toNat_nearestNaturalWord (by omega)]
  omega

/-! ### Exact reading -/

theorem signedNumber?_eq_or (n : Number) :
    signedNumber? n = n.int64?.or (((wholeDouble? n).filter fun x =>
      -9223372036854775808 ≤ x ∧ x < 9223372036854775808).map nearestWord) := by
  rw [signedNumber?, Option.orElse_eq_orElse, Option.orElse_eq_or]

theorem naturalNumber?_eq_or (n : Number) :
    naturalNumber? n = n.uint64?.or (((wholeDouble? n).filter fun x =>
      0 ≤ x ∧ x < 18446744073709551616).map nearestNaturalWord) := by
  rw [naturalNumber?, Option.orElse_eq_orElse, Option.orElse_eq_or]

/-- A signed word is read from the numbers that it can hold, and from no others. -/
theorem signedNumber?_eq_some_iff {n : Number} {k : ℤ} :
    (signedNumber? n).map Int64.toInt = some k ↔
      n.rational? = some (k : ℚ) ∧ -2 ^ 63 ≤ k ∧ k < 2 ^ 63 := by
  cases n with
  | natural n =>
    rw [signedNumber?_eq_or, Number.int64?, Number.rational?, Option.some.injEq]
    cases hword : signedWord? n.toNat with
    | some word =>
      have hvalue := signedWord?_eq_some_iff.mp hword
      have hhigh := word.toInt_lt
      rw [Option.some_or, Option.map_some, Option.some.injEq, ← hvalue]
      norm_cast
      omega
    | none =>
      -- a word past the signed ones is tried as a double, which is past them too
      have hmin := Int64.toInt_minValue
      have hmax := Int64.toInt_maxValue
      have hrange := signedWord?_eq_none_iff.mp hword
      rw [Option.none_or, map_nearestWord_eq_some_iff]
      refine iff_of_false ?_ ?_
      · rintro ⟨hdouble, -, hhigh⟩
        exact absurd (two_pow_le_of_wholeDouble? (by omega) hdouble) (Int.not_le.mpr hhigh)
      · rintro ⟨hvalue, -, hhigh⟩
        have hk : (n.toNat : ℤ) = k := by exact_mod_cast hvalue
        omega
  | negative n =>
    have hlow := n.le_toInt
    have hhigh := n.toInt_lt
    rw [signedNumber?_eq_or, Number.int64?, Option.some_or, Option.map_some, Number.rational?,
      Option.some.injEq, Option.some.injEq]
    norm_cast
    omega
  | float x =>
    rw [signedNumber?_eq_or, Number.int64?, Option.none_or, map_nearestWord_eq_some_iff,
      wholeDouble?, Binary64.whole?_ofFloat_eq_some_iff]
    rfl

/-- A natural word is read from the numbers that it can hold, and from no others. -/
theorem naturalNumber?_eq_some_iff {n : Number} (hproper : n.IsProper) {k : ℕ} :
    (naturalNumber? n).map UInt64.toNat = some k ↔
      n.rational? = some (k : ℚ) ∧ k < 2 ^ 64 := by
  cases n with
  | natural n =>
    have hlt := n.toNat_lt
    rw [naturalNumber?_eq_or, Number.uint64?, Option.some_or, Option.map_some, Number.rational?,
      Option.some.injEq, Option.some.injEq]
    norm_cast
    omega
  | negative n =>
    have hneg : n.toInt < 0 := hproper
    have hword : (Number.negative n).uint64? = none := rfl
    rw [naturalNumber?_eq_or, hword, Option.none_or, map_nearestNaturalWord_eq_some_iff,
      Number.rational?, Option.some.injEq]
    refine iff_of_false ?_ ?_
    · rintro ⟨hdouble, -⟩
      exact absurd (neg_of_wholeDouble? hneg hdouble) (by omega)
    · rintro ⟨hvalue, -⟩
      have hk : n.toInt = k := by exact_mod_cast hvalue
      omega
  | float x =>
    have hword : (Number.float x).uint64? = none := rfl
    rw [naturalNumber?_eq_or, hword, Option.none_or, map_nearestNaturalWord_eq_some_iff,
      wholeDouble?, Binary64.whole?_ofFloat_eq_some_iff]
    rfl

section
variable {v : Value}

theorem signed?_eq_some_iff {k : ℤ} :
    (signed? v).map Int64.toInt = some k ↔
      v.rational? = some (k : ℚ) ∧ -2 ^ 63 ≤ k ∧ k < 2 ^ 63 := by
  cases v with
  | number n => exact signedNumber?_eq_some_iff
  | _ => simp [signed?, Value.rational?]

theorem natural?_eq_some_iff (hproper : v.IsProper) {k : ℕ} :
    (natural? v).map UInt64.toNat = some k ↔ v.rational? = some (k : ℚ) ∧ k < 2 ^ 64 := by
  cases hproper with
  | number h => exact naturalNumber?_eq_some_iff h
  | _ => simp [natural?, Value.rational?]

end

/-- The value is read as the number that it is, by the reader of signed words and by that of natural
ones, whenever the word can hold it. -/
structure ReadsExactly (v : Value) : Prop where
  signed : ∀ k : ℤ, (signed? v).map Int64.toInt = some k ↔
    v.rational? = some (k : ℚ) ∧ -2 ^ 63 ≤ k ∧ k < 2 ^ 63
  natural : ∀ k : ℕ, (natural? v).map UInt64.toNat = some k ↔
    v.rational? = some (k : ℚ) ∧ k < 2 ^ 64
  /-- Where both can hold it, both read it. -/
  agree : ∀ k : ℕ, (natural? v).map UInt64.toNat = some k ∧ k < 2 ^ 63 ↔
    (signed? v).map Int64.toInt = some (k : ℤ)
  /-- Only a number below zero is read as one, and no natural word is read from it. -/
  negative : ∀ n, signed? v = some n → n.toInt < 0 →
    (∃ q < 0, v.rational? = some q) ∧ natural? v = none

/-- **No number is brought into range by rounding.** -/
theorem readsExactly {v : Value} (h : v.IsProper) : ReadsExactly v where
  signed _ := signed?_eq_some_iff
  natural _ := natural?_eq_some_iff h
  agree k := by
    rw [natural?_eq_some_iff h, signed?_eq_some_iff, Int.cast_natCast, and_assoc]
    exact and_congr_right fun _ => by omega
  negative n hn hneg := by
    have hvalue : v.rational? = some (n.toInt : ℚ) :=
      (signed?_eq_some_iff.mp (congrArg (Option.map Int64.toInt) hn)).1
    refine ⟨⟨n.toInt, by exact_mod_cast hneg, hvalue⟩, ?_⟩
    cases hnatural : natural? v with
    | none => rfl
    | some m =>
      have hvalue' : v.rational? = some ((m.toNat : ℕ) : ℚ) :=
        ((natural?_eq_some_iff h).mp (congrArg (Option.map UInt64.toNat) hnatural)).1
      have heq : n.toInt = m.toNat := by
        exact_mod_cast Option.some.inj (hvalue.symm.trans hvalue')
      omega

/-- A negative word is read as it is. -/
theorem readsExactly_negative :
    (Value.number (.negative (-63))).IsProper ∧ ReadsExactly (.number (.negative (-63))) ∧
      natural? (.number (.negative (-63))) = none :=
  have hproper : (Value.number (.negative (-63))).IsProper :=
    .number (show (-63 : Int64).toInt < 0 by decide)
  ⟨hproper, readsExactly hproper, ((readsExactly hproper).negative (-63) rfl (by decide)).2⟩

end Field

end TrackerBoard
