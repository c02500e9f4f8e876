import TrackerBoard.Proofs.Json.Numeral
import TrackerBoard.Proofs.Json.Quoted

/-! # Values read back

A written value is read as it was (`parse_render`) when it has no doubles, whose digits need not
determine them, and nests no deeper than the reader allows.  The proof follows the value.  What it
says of a part is that the reader, wherever a value may stand, takes the bytes of the part and
then stands where that value has just ended (`Reads`, `Holds`): a word, a string, a list and an
object end with their last byte, a numeral only with the byte behind it.
-/

namespace TrackerBoard.Json

open Utf8 Reader

/-- The values without doubles in which at most `depth` lists and objects lie inside each other. -/
inductive Value.IsPlain : Nat → Value → Prop
  | null {depth : Nat} : IsPlain depth .null
  | bool {depth : Nat} (b : Bool) : IsPlain depth (.bool b)
  | natural {depth : Nat} (n : UInt64) : IsPlain depth (.number (.natural n))
  | negative {depth : Nat} {n : Int64} (h : n.toInt < 0) : IsPlain depth (.number (.negative n))
  | string {depth : Nat} (s : String) : IsPlain depth (.string s)
  | list {depth : Nat} {items : List Value} (h : ∀ item ∈ items, IsPlain depth item) :
      IsPlain (depth + 1) (.list items)
  | object {depth : Nat} {members : Members} (h : ∀ m ∈ members, IsPlain depth m.2) :
      IsPlain (depth + 1) (.object members)

namespace Reader
variable {stack : List Container} {value : Value}

/-- The bytes that may stand behind a value inside a list or an object. -/
def IsEnd (b : UInt8) : Prop :=
  b = ','.toUInt8 ∨ b = ']'.toUInt8 ∨ b = 0x7d ∨ isBlank b = true

theorem IsEnd.endsWhole {b : UInt8} (h : IsEnd b) : Numeral.EndsWhole b := by
  have hcases : b = ','.toUInt8 ∨ b = ']'.toUInt8 ∨ b = 0x7d ∨ b = 0x20 ∨ b = 0x09 ∨ b = 0x0a ∨
      b = 0x0d := by
    simpa [IsEnd, isBlank, or_assoc] using h
  rcases hcases with rfl | rfl | rfl | rfl | rfl | rfl | rfl
  all_goals exact ⟨by decide, by decide, by decide, by decide⟩

/-- The reader stands behind a value: a byte that can follow is taken as such, and the text may
end here if nothing is open. -/
structure Holds (r : Reader) (stack : List Container) (value : Value) : Prop where
  next : ∀ b, IsEnd b → r.step b = afterValue stack value b
  finish : r.finish = close stack value

theorem holds_done (stack : List Container) (value : Value) :
    Holds ⟨stack, .done value⟩ stack value := ⟨fun _ _ => rfl, rfl⟩

/-- A numeral that may end here is a value that has just ended. -/
theorem holds_number {n : Numeral} {x : Number}
    (hstep : ∀ b, Numeral.EndsWhole b → n.step b = .ok none) (hfinish : n.finish = .ok x) :
    Holds ⟨stack, .number n⟩ stack (.number x) where
  next b hb := by simp only [step, stepNumber, hstep b hb.endsWhole, hfinish]
  finish := by simp only [Reader.finish, hfinish]

/-- The bytes are those of a value: the first one starts it, and the others lead to its end. -/
def Reads (stack : List Container) (bytes : List UInt8) (value : Value) : Prop :=
  ∃ b rest r r', bytes = b :: rest ∧ isBlank b = false ∧ b ≠ ']'.toUInt8 ∧
    startValue stack b = .ok r ∧ ByteRun Step r rest r' ∧ Holds r' stack value

/-- The places at which a value may stand. -/
def AwaitsValue (place : Place) : Prop :=
  place = .value ∨ place = .firstItem ∨ place = .nextItem

/-- The places at which the name of a member may stand, behind these members. -/
def AwaitsName (place : Place) (taken : Members) : Prop :=
  place = .nextName taken ∨ (place = .firstName ∧ taken = [])

theorem AwaitsName.step_quote {place : Place} {taken : Members} (h : AwaitsName place taken) :
    Step ⟨stack, place⟩ '"'.toUInt8 ⟨stack, .name taken .start⟩ := by
  rcases h with rfl | ⟨rfl, rfl⟩
  all_goals rw [Step]; rfl

/-- Wherever a value may stand, its bytes lead to its end. -/
theorem Reads.run {bytes : List UInt8} {place : Place} (h : Reads stack bytes value)
    (hplace : AwaitsValue place) :
    ∃ r, ByteRun Step ⟨stack, place⟩ bytes r ∧ Holds r stack value := by
  obtain ⟨b, rest, r, r', rfl, hblank, hbracket, hstart, hrun, hholds⟩ := h
  refine ⟨r', .cons ?_ hrun, hholds⟩
  rcases hplace with rfl | rfl | rfl
  all_goals simp [Step, step, hblank, hbracket, hstart]

/-! ### Words, numbers and strings -/

theorem run_word (stack : List Container) (value : Value) (b : UInt8) (rest : List UInt8) :
    ByteRun Step ⟨stack, .word (b :: rest) value⟩ (b :: rest) ⟨stack, .done value⟩ := by
  induction rest generalizing b with
  | nil => exact .single (by simp [Step, step])
  | cons c rest ih => exact .cons (by simp [Step, step]) (ih c)

theorem reads_null (stack : List Container) : Reads stack (encode "null".toList) .null :=
  ⟨_, _, _, _, rfl, rfl, by decide, rfl, run_word stack .null _ _, holds_done _ _⟩

theorem reads_bool (stack : List Container) (b : Bool) :
    Reads stack (encode (Value.bool b).print) (.bool b) := by
  cases b with
  | true => exact ⟨_, _, _, _, rfl, rfl, by decide, rfl, run_word stack _ _ _, holds_done _ _⟩
  | false => exact ⟨_, _, _, _, rfl, rfl, by decide, rfl, run_word stack _ _ _, holds_done _ _⟩

theorem reads_string (stack : List Container) (s : String) :
    Reads stack (encode (quote s)) (.string s) :=
  ⟨_, _, _, _, rfl, rfl, by decide, rfl, run_string_quote stack s, holds_done _ _⟩

/-- The byte that starts a numeral starts a number. -/
theorem startValue_number {b : UInt8} {n : Numeral} (h : Numeral.start? b = some n) :
    startValue stack b = .ok ⟨stack, .number n⟩ := by
  have hother : b ≠ '"'.toUInt8 ∧ b ≠ '['.toUInt8 ∧ b ≠ 0x7b ∧ b ≠ 'n'.toUInt8 ∧
      b ≠ 't'.toUInt8 ∧ b ≠ 'f'.toUInt8 := by
    refine ⟨?_, ?_, ?_, ?_, ?_, ?_⟩
    all_goals
      rintro rfl
      exact absurd h (Option.some_ne_none n).symm
  obtain ⟨h₁, h₂, h₃, h₄, h₅, h₆⟩ := hother
  rw [startValue, if_neg h₁, if_neg h₂, if_neg h₃, if_neg h₄, if_neg h₅, if_neg h₆, h]

/-- The digits of a number, read from the first one on. -/
theorem reads_toDigits (stack : List Container) {n : Nat} (hpos : 0 < n)
    (hsize : n < UInt64.size) {x : Number}
    (hfinish : (Numeral.gathered false n).finish = .ok x) :
    Reads stack (encode (Nat.toDigits 10 n)) (.number x) := by
  obtain ⟨d, rest, hencode, hd, hd', hrun⟩ := Numeral.run_toDigits false hpos hsize
  have hstart := Numeral.start?_digitByte hd hd'
  have hother : ∀ d < 10, isBlank (Numeral.digitByte d) = false ∧
      Numeral.digitByte d ≠ ']'.toUInt8 := by decide
  exact ⟨_, rest, _, _, hencode, (hother d hd').1, (hother d hd').2, startValue_number hstart,
    run_number hrun, holds_number (fun _ => Numeral.step_gathered false n) hfinish⟩

theorem reads_natural (stack : List Container) (n : UInt64) :
    Reads stack (encode (Number.natural n).print) (.number (.natural n)) := by
  rw [Number.print, Nat.toString_eq_repr, Nat.toList_repr]
  rcases Nat.eq_zero_or_pos n.toNat with hzero | hpos
  · obtain rfl : n = 0 := UInt64.toNat_inj.mp hzero
    exact ⟨_, _, _, _, rfl, rfl, by decide, startValue_number rfl, .nil _,
      holds_number (fun _ => Numeral.step_zero) rfl⟩
  · exact reads_toDigits stack hpos n.toNat_lt (Numeral.finish_natural n)

theorem reads_negative (stack : List Container) {n : Int64} (h : n.toInt < 0) :
    Reads stack (encode (Number.negative n).print) (.number (.negative n)) := by
  have hsize : n.toInt.natAbs < UInt64.size := by
    have hle := n.le_toInt
    simp only [UInt64.size]
    omega
  obtain ⟨d, rest, hencode, hd, hd', hrun⟩ := Numeral.run_toDigits true (by omega) hsize
  have hprint : (Number.negative n).print = '-' :: Nat.toDigits 10 n.toInt.natAbs := by
    have habs : (-n.toInt).toNat = n.toInt.natAbs := by omega
    rw [Number.print, Int.toString_eq_repr, Int.repr_eq_if, if_neg (by omega), habs,
      String.toList_append, Nat.toList_repr]
    rfl
  rw [hprint, encode_cons_ascii (by decide), hencode]
  exact ⟨_, _, _, _, rfl, rfl, by decide, startValue_number rfl,
    run_number (.cons (Numeral.step_minus hd hd') hrun),
    holds_number (fun _ => Numeral.step_gathered true _) (Numeral.finish_negative h)⟩

/-! ### Lists and objects -/

theorem encode_append_ascii (front : List Char) {c : Char} (h : c.toNat < 0x80)
    (back : List Char) :
    encode (front ++ c :: back) = encode front ++ c.toUInt8 :: encode back := by
  rw [encode_append, encode_cons_ascii h]

/-- The items of a list that is open, after some that were read. -/
theorem run_printItems {items : List Value} (hne : items ≠ [])
    (h : ∀ item ∈ items, ∀ inner : List Container, inner.length = stack.length + 1 →
      Reads inner (encode item.print) item)
    (taken : List Value) {place : Place} (hplace : AwaitsValue place) :
    ByteRun Step ⟨.list taken :: stack, place⟩ (encode (printItems items))
      ⟨stack, .done (.list (taken.reverse ++ items))⟩ := by
  induction items generalizing taken place with
  | nil => exact absurd rfl hne
  | cons item items ih =>
    obtain ⟨r, hrun, hholds⟩ := (h item (by simp) (.list taken :: stack) rfl).run hplace
    -- the byte behind an item ends it, also when it is a numeral, and closes or goes on
    cases items with
    | nil =>
      have hclose : r.step ']'.toUInt8 = .ok ⟨stack, .done (.list (item :: taken).reverse)⟩ :=
        hholds.next _ (.inr (.inl rfl))
      rw [List.reverse_cons] at hclose
      rw [printItems, encode_append_ascii _ (by decide)]
      exact hrun.append (.single hclose)
    | cons next items =>
      have hcomma : r.step ','.toUInt8 = .ok ⟨.list (item :: taken) :: stack, .nextItem⟩ :=
        hholds.next _ (.inl rfl)
      have hrest := ih (by simp) (fun i hi => h i (by simp [hi])) (item :: taken)
        (.inr (.inr rfl))
      rw [List.reverse_cons, List.append_assoc] at hrest
      rw [printItems, encode_append_ascii _ (by decide)]
      exact hrun.append (.cons hcomma hrest)

/-- A member of an object that is open, after some members that were read. -/
theorem run_member {taken : Members} {name : String} {value : Value} {place : Place}
    (hplace : AwaitsName place taken)
    (h : Reads (.object taken name :: stack) (encode value.print) value) :
    ∃ r, ByteRun Step ⟨stack, place⟩ (encode (quote name ++ ':' :: value.print)) r ∧
      Holds r (.object taken name :: stack) value := by
  obtain ⟨r, hrun, hholds⟩ := h.run (.inl rfl)
  have hcolon : Step ⟨stack, .colon taken name⟩ ':'.toUInt8
      ⟨.object taken name :: stack, .value⟩ := by
    rw [Step]
    rfl
  refine ⟨r, ?_, hholds⟩
  rw [encode_append_ascii _ (by decide), quote, encode_cons_ascii (by decide)]
  exact .cons hplace.step_quote ((run_name_quote stack taken name).append (.cons hcolon hrun))

/-- The members of an object that is open, after some that were read. -/
theorem run_printMembers {members : Members} (hne : members ≠ [])
    (h : ∀ m ∈ members, ∀ inner : List Container, inner.length = stack.length + 1 →
      Reads inner (encode m.2.print) m.2)
    (taken : Members) {place : Place} (hplace : AwaitsName place taken) :
    ByteRun Step ⟨stack, place⟩ (encode (printMembers members))
      ⟨stack, .done (.object (taken.reverse ++ members))⟩ := by
  induction members generalizing taken place with
  | nil => exact absurd rfl hne
  | cons m members ih =>
    obtain ⟨name, value⟩ := m
    have hreads := h (name, value) (by simp) (.object taken name :: stack) rfl
    obtain ⟨r, hrun, hholds⟩ := run_member hplace hreads
    cases members with
    | nil =>
      have hclose : r.step '\x7d'.toUInt8 =
          .ok ⟨stack, .done (.object ((name, value) :: taken).reverse)⟩ :=
        hholds.next _ (.inr (.inr (.inl rfl)))
      rw [List.reverse_cons] at hclose
      rw [printMembers, encode_append_ascii _ (by decide)]
      exact hrun.append (.single hclose)
    | cons next members =>
      have hcomma : r.step ','.toUInt8 = .ok ⟨stack, .nextName ((name, value) :: taken)⟩ :=
        hholds.next _ (.inl rfl)
      have hrest := ih (by simp) (fun m hm => h m (by simp [hm])) ((name, value) :: taken)
        (.inl rfl)
      rw [List.reverse_cons, List.append_assoc] at hrest
      rw [printMembers, encode_append_ascii _ (by decide)]
      exact hrun.append (.cons hcomma hrest)

theorem reads_list {items : List Value} (hdepth : stack.length < depthLimit)
    (h : ∀ item ∈ items, ∀ inner : List Container, inner.length = stack.length + 1 →
      Reads inner (encode item.print) item) :
    Reads stack (encode (Value.list items).print) (.list items) := by
  have hstart : startValue stack '['.toUInt8 = .ok ⟨.list [] :: stack, .firstItem⟩ :=
    if_pos hdepth
  rw [Value.print, encode_cons_ascii (by decide)]
  refine ⟨_, _, _, _, rfl, rfl, by decide, hstart, ?_, holds_done _ _⟩
  cases items with
  | nil =>
    have hclose : Step ⟨.list [] :: stack, .firstItem⟩ ']'.toUInt8 ⟨stack, .done (.list [])⟩ := by
      rw [Step]
      rfl
    exact .single hclose
  | cons item items => exact run_printItems (by simp) h [] (.inr (.inl rfl))

theorem reads_object {members : Members} (hdepth : stack.length < depthLimit)
    (h : ∀ m ∈ members, ∀ inner : List Container, inner.length = stack.length + 1 →
      Reads inner (encode m.2.print) m.2) :
    Reads stack (encode (Value.object members).print) (.object members) := by
  have hstart : startValue stack '\x7b'.toUInt8 = .ok ⟨stack, .firstName⟩ := if_pos hdepth
  rw [Value.print, encode_cons_ascii (by decide)]
  refine ⟨_, _, _, _, rfl, rfl, by decide, hstart, ?_, holds_done _ _⟩
  cases members with
  | nil =>
    have hclose : Step ⟨stack, .firstName⟩ '\x7d'.toUInt8 ⟨stack, .done (.object [])⟩ := by
      rw [Step]
      rfl
    exact .single hclose
  | cons m members => exact run_printMembers (by simp) h [] (.inr ⟨rfl, rfl⟩)

/-- **Wherever there is room for it, a plain value is read as it was written.** -/
theorem reads_print {depth : Nat} {value : Value} (h : value.IsPlain depth)
    {stack : List Container} (hroom : stack.length + depth ≤ depthLimit) :
    Reads stack (encode value.print) value := by
  -- what is open around a part takes one level of room more than what is open around the whole
  induction h generalizing stack with
  | null => exact reads_null stack
  | bool b => exact reads_bool stack b
  | natural n => exact reads_natural stack n
  | negative h => exact reads_negative stack h
  | string s => exact reads_string stack s
  | list _ ih =>
    exact reads_list (by omega) fun item hitem inner hinner => ih item hitem (by omega)
  | object _ ih =>
    exact reads_object (by omega) fun m hm inner hinner => ih m hm (by omega)

end Reader

/-- **Reading undoes writing**, for a plain value that nests no deeper than the reader allows. -/
theorem parse_render {depth : Nat} {value : Value} (h : value.IsPlain depth)
    (hdepth : depth ≤ depthLimit) : parse (encode value.render.toList) = .ok value := by
  have hroom : ([] : List Container).length + depth ≤ depthLimit := by simpa using hdepth
  obtain ⟨r, hrun, hholds⟩ := (reads_print h hroom).run (.inl rfl)
  rw [Value.render, String.toList_ofList]
  exact parse_eq_ok hrun hholds.finish

end TrackerBoard.Json
