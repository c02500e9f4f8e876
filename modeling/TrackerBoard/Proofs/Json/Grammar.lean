import TrackerBoard.Proofs.Json.NumeralGrammar
import TrackerBoard.Proofs.Json.RoundTrip
import TrackerBoard.Proofs.Json.StringGrammar

/-! # The grammar of JSON

`IsText body value` says that a text is JSON and which value it holds, without a reader: a value
between blanks, in the form that the grammar gives it (`Spells`).  Lists and objects nest no deeper
than the reader's limit, numbers are in range, and strings are UTF-8.

Every text of a value is read as that value (`parse_of_isText`).  The proof follows the grammar:
wherever a part may stand, the reader takes its bytes and then stands where the part has just ended
(`Part.Leads`).
-/

namespace TrackerBoard.Json

open Reader

/-- Space, tab, line feed and carriage return. -/
def blankBytes : List UInt8 := [' '.toUInt8, '\t'.toUInt8, '\n'.toUInt8, '\r'.toUInt8]

/-- Nothing but blanks. -/
def IsBlanks (bytes : List UInt8) : Prop := ∀ b ∈ bytes, b ∈ blankBytes

/-- The reader passes over the blanks of the grammar. -/
theorem isBlank_iff {b : UInt8} : isBlank b = true ↔ b ∈ blankBytes := by
  have hspace : ' '.toUInt8 = 0x20 := rfl
  have htab : '\t'.toUInt8 = 0x09 := rfl
  have hlineFeed : '\n'.toUInt8 = 0x0a := rfl
  have hreturn : '\r'.toUInt8 = 0x0d := rfl
  simp [isBlank, blankBytes, hspace, htab, hlineFeed, hreturn, or_assoc]

theorem isBlanks_nil : IsBlanks [] := by simp [IsBlanks]

theorem IsBlanks.snoc {blanks : List UInt8} (h : IsBlanks blanks) {b : UInt8}
    (hb : isBlank b = true) : IsBlanks (blanks ++ [b]) := by
  intro c hc
  rcases List.mem_append.mp hc with hc | hc
  · exact h c hc
  · rw [List.mem_singleton.mp hc]
    exact isBlank_iff.mp hb

/-- The bytes are the name of a member, with the blanks around it. -/
def IsName (text : List UInt8) (name : String) : Prop :=
  ∃ front inner back, text = front ++ (inner ++ back) ∧ IsBlanks front ∧ IsString inner name ∧
    IsBlanks back

/-- The parts of a text. -/
inductive Part where
  | value (value : Value)
  /-- a value and the blanks around it -/
  | padded (value : Value)
  /-- the items of a list, of which there are some -/
  | items (items : List Value)
  /-- the members of an object, of which there are some -/
  | members (members : Members)

/-- The bytes are a part of a text, inside of so many lists and objects. -/
inductive Spells : Nat → Part → List UInt8 → Prop
  | null {depth : Nat} : Spells depth (.value .null) (letters "null")
  | true {depth : Nat} : Spells depth (.value (.bool true)) (letters "true")
  | false {depth : Nat} : Spells depth (.value (.bool false)) (letters "false")
  | number {depth : Nat} {text : List UInt8} {x : Number} (h : Numeral.IsNumeral text x) :
      Spells depth (.value (.number x)) text
  | string {depth : Nat} {text : List UInt8} {s : String} (h : IsString text s) :
      Spells depth (.value (.string s)) text
  | emptyList {depth : Nat} {blanks : List UInt8} (room : depth < depthLimit)
      (h : IsBlanks blanks) :
      Spells depth (.value (.list [])) ('['.toUInt8 :: (blanks ++ [']'.toUInt8]))
  | list {depth : Nat} {text : List UInt8} {items : List Value} (room : depth < depthLimit)
      (h : Spells (depth + 1) (.items items) text) :
      Spells depth (.value (.list items)) ('['.toUInt8 :: (text ++ [']'.toUInt8]))
  | emptyObject {depth : Nat} {blanks : List UInt8} (room : depth < depthLimit)
      (h : IsBlanks blanks) :
      Spells depth (.value (.object [])) (0x7b :: (blanks ++ [0x7d]))
  | object {depth : Nat} {text : List UInt8} {members : Members} (room : depth < depthLimit)
      (h : Spells (depth + 1) (.members members) text) :
      Spells depth (.value (.object members)) (0x7b :: (text ++ [0x7d]))
  | padded {depth : Nat} {front text back : List UInt8} {value : Value} (hfront : IsBlanks front)
      (h : Spells depth (.value value) text) (hback : IsBlanks back) :
      Spells depth (.padded value) (front ++ (text ++ back))
  | item {depth : Nat} {text : List UInt8} {value : Value} (h : Spells depth (.padded value) text) :
      Spells depth (.items [value]) text
  | nextItem {depth : Nat} {text more : List UInt8} {items : List Value} {value : Value}
      (h : Spells depth (.items items) text) (h' : Spells depth (.padded value) more) :
      Spells depth (.items (items ++ [value])) (text ++ ','.toUInt8 :: more)
  | member {depth : Nat} {nameText text : List UInt8} {name : String} {value : Value}
      (hname : IsName nameText name) (h : Spells depth (.padded value) text) :
      Spells depth (.members [(name, value)]) (nameText ++ ':'.toUInt8 :: text)
  | nextMember {depth : Nat} {text nameText more : List UInt8} {members : Members} {name : String}
      {value : Value} (h : Spells depth (.members members) text) (hname : IsName nameText name)
      (h' : Spells depth (.padded value) more) :
      Spells depth (.members (members ++ [(name, value)]))
        (text ++ ','.toUInt8 :: (nameText ++ ':'.toUInt8 :: more))

/-- Lists and objects without items are no such parts: they have their own texts. -/
theorem Spells.ne_empty {depth : Nat} {part : Part} {text : List UInt8}
    (h : Spells depth part text) : part ≠ .items [] ∧ part ≠ .members [] := by
  cases h with
  | _ => simp

/-- The bytes are a text of the value. -/
def IsText (body : List UInt8) (value : Value) : Prop := Spells 0 (.padded value) body

namespace Reader

/-! ### Blanks, numbers and strings -/

section Parts
variable {stack : List Container} {value : Value} {r : Reader} {blanks text : List UInt8}

/-- Blanks where the reader passes over them. -/
theorem run_blanks (h : ∀ b, isBlank b = true → r.step b = .ok r) (hblanks : IsBlanks blanks) :
    ByteRun Step r blanks r := by
  induction blanks with
  | nil => exact .nil r
  | cons b blanks ih =>
    exact .cons (h b (isBlank_iff.mpr (hblanks b List.mem_cons_self)))
      (ih fun b' hb' => hblanks b' (List.mem_cons_of_mem b hb'))

theorem step_done_blank (stack : List Container) (value : Value) {b : UInt8}
    (hb : isBlank b = true) : step ⟨stack, .done value⟩ b = .ok ⟨stack, .done value⟩ := by
  simp only [step, afterValue, hb, if_true]

/-- Blanks behind a value leave it the value that has just ended. -/
theorem Holds.run_blanks (h : Holds r stack value) (hblanks : IsBlanks blanks) :
    ∃ r', ByteRun Step r blanks r' ∧ Holds r' stack value := by
  cases blanks with
  | nil => exact ⟨r, .nil r, h⟩
  | cons b blanks =>
    have hb := isBlank_iff.mpr (hblanks b List.mem_cons_self)
    have hstep : Step r b ⟨stack, .done value⟩ := by
      rw [Step, h.next b (.inr (.inr (.inr hb)))]
      simp only [afterValue, hb, if_true]
    refine ⟨_, .cons hstep ?_, holds_done stack value⟩
    exact Reader.run_blanks (fun b hb => step_done_blank stack value hb) fun b' hb' =>
      hblanks b' (List.mem_cons_of_mem b hb')

/-- A number does not start with a blank or a closing bracket. -/
theorem start?_blank {b : UInt8} (h : isBlank b = true ∨ b = ']'.toUInt8) :
    Numeral.start? b = none := by
  have hcases : b = 0x20 ∨ b = 0x09 ∨ b = 0x0a ∨ b = 0x0d ∨ b = ']'.toUInt8 := by
    simpa [isBlank, or_assoc] using h
  rcases hcases with rfl | rfl | rfl | rfl | rfl
  all_goals rfl

theorem reads_isNumeral (stack : List Container) {x : Number} (h : Numeral.IsNumeral text x) :
    Reads stack text (.number x) := by
  obtain ⟨n, ⟨b, rest, n₀, rfl, hstart, hrun⟩, hend⟩ := h.reads
  have hother : ¬ (isBlank b = true ∨ b = ']'.toUInt8) := by
    intro hb
    exact absurd (hstart.symm.trans (start?_blank hb)) (Option.some_ne_none n₀)
  obtain ⟨hblank, hbracket⟩ := not_or.mp hother
  exact ⟨b, rest, _, _, rfl, Bool.not_eq_true _ ▸ hblank, hbracket,
    startValue_number hstart, run_number hrun, holds_number hend.step hend.finish⟩

/-- The inside of a string and the quote at its end. -/
theorem run_string_content {inner : List UInt8} {s : String}
    (h : Quoted.Content inner (Utf8.encode s.toList)) :
    ByteRun Step ⟨stack, .string .start⟩ (inner ++ ['"'.toUInt8]) ⟨stack, .done (.string s)⟩ := by
  refine (run_string h.run).append (.single ?_)
  simp only [Step, step, stepQuoted, Quoted.text?_encode]
  rfl

theorem run_name_content {members : Members} {inner : List UInt8} {name : String}
    (h : Quoted.Content inner (Utf8.encode name.toList)) :
    ByteRun Step ⟨stack, .name members .start⟩ (inner ++ ['"'.toUInt8])
      ⟨stack, .colon members name⟩ := by
  refine (run_name h.run).append (.single ?_)
  simp only [Step, step, stepQuoted, Quoted.text?_encode]
  rfl

theorem reads_isString (stack : List Container) {s : String} (h : IsString text s) :
    Reads stack text (.string s) := by
  obtain ⟨inner, rfl, hcontent⟩ := h
  exact ⟨_, _, _, _, rfl, rfl, by decide, rfl, run_string_content hcontent, holds_done _ _⟩

theorem AwaitsName.step_blank {place : Place} {taken : Members} (h : AwaitsName place taken)
    {b : UInt8} (hb : isBlank b = true) : step ⟨stack, place⟩ b = .ok ⟨stack, place⟩ := by
  rcases h with rfl | ⟨rfl, rfl⟩
  all_goals simp only [step, hb, if_true]

theorem AwaitsValue.step_blank {place : Place} (h : AwaitsValue place) {b : UInt8}
    (hb : isBlank b = true) : step ⟨stack, place⟩ b = .ok ⟨stack, place⟩ := by
  rcases h with rfl | rfl | rfl
  all_goals simp only [step, hb, if_true]

/-- The name of a member and the colon behind it. -/
theorem run_isName {place : Place} {taken : Members} {name : String}
    (hplace : AwaitsName place taken) (h : IsName text name) :
    ByteRun Step ⟨stack, place⟩ (text ++ [':'.toUInt8]) ⟨.object taken name :: stack, .value⟩ := by
  obtain ⟨front, _, back, rfl, hfront, ⟨inner, rfl, hcontent⟩, hback⟩ := h
  have hname : ByteRun Step ⟨stack, place⟩ ('"'.toUInt8 :: (inner ++ ['"'.toUInt8]))
      ⟨stack, .colon taken name⟩ :=
    .cons hplace.step_quote (run_name_content hcontent)
  have hcolon : Step ⟨stack, .colon taken name⟩ ':'.toUInt8
      ⟨.object taken name :: stack, .value⟩ := by
    rw [Step]
    rfl
  have hbehind : ∀ b, isBlank b = true →
      step ⟨stack, .colon taken name⟩ b = .ok ⟨stack, .colon taken name⟩ := by
    intro b hb
    simp only [step, hb, if_true]
  refine ((run_blanks (fun b => hplace.step_blank) hfront).append ?_).append (.single hcolon)
  exact hname.append (run_blanks hbehind hback)

/-- The value of a member or item between its blanks. -/
theorem run_padded {place : Place} {front back : List UInt8} (hplace : AwaitsValue place)
    (hfront : IsBlanks front) (h : Reads stack text value) (hback : IsBlanks back) :
    ∃ r, ByteRun Step ⟨stack, place⟩ (front ++ (text ++ back)) r ∧ Holds r stack value := by
  obtain ⟨r, hrun, hholds⟩ := h.run hplace
  obtain ⟨r', hrun', hholds'⟩ := hholds.run_blanks hback
  exact ⟨r', (run_blanks (fun b => hplace.step_blank) hfront).append (hrun.append hrun'), hholds'⟩

end Parts

end Reader

/-! ### Every part leads to its end -/

/-- Where the part may stand, its bytes lead the reader to its end: a value may stand wherever one
is awaited, the items of a list behind its bracket, the members of an object behind its brace. -/
def Part.Leads (depth : Nat) (text : List UInt8) : Part → Prop
  | .value v => ∀ stack, stack.length = depth → Reads stack text v
  | .padded v => ∀ stack place, stack.length = depth → AwaitsValue place →
      ∃ r, ByteRun Step ⟨stack, place⟩ text r ∧ Holds r stack v
  | .items vs => ∀ stack, stack.length + 1 = depth →
      ∃ taken v r, vs = taken.reverse ++ [v] ∧
        ByteRun Step ⟨.list [] :: stack, .firstItem⟩ text r ∧ Holds r (.list taken :: stack) v
  | .members ms => ∀ stack, stack.length + 1 = depth →
      ∃ taken name v r, ms = taken.reverse ++ [(name, v)] ∧
        ByteRun Step ⟨stack, .firstName⟩ text r ∧ Holds r (.object taken name :: stack) v

section Leads
variable {depth : Nat} {text : List UInt8}

theorem Part.Leads.list {items : List Value} (room : depth < depthLimit)
    (h : (Part.items items).Leads (depth + 1) text) :
    (Part.value (.list items)).Leads depth ('['.toUInt8 :: (text ++ [']'.toUInt8])) := by
  rintro stack rfl
  have hstart : startValue stack '['.toUInt8 = .ok ⟨.list [] :: stack, .firstItem⟩ := if_pos room
  obtain ⟨taken, value, r, rfl, hrun, hholds⟩ := h stack rfl
  have hclose : Step r ']'.toUInt8 ⟨stack, .done (.list (taken.reverse ++ [value]))⟩ := by
    rw [Step, hholds.next _ (.inr (.inl rfl)), ← List.reverse_cons]
    rfl
  exact ⟨_, _, _, _, rfl, rfl, by decide, hstart, hrun.append (.single hclose), holds_done _ _⟩

theorem Part.Leads.object {members : Members} (room : depth < depthLimit)
    (h : (Part.members members).Leads (depth + 1) text) :
    (Part.value (.object members)).Leads depth (0x7b :: (text ++ [0x7d])) := by
  rintro stack rfl
  have hstart : startValue stack 0x7b = .ok ⟨stack, .firstName⟩ := if_pos room
  obtain ⟨taken, name, value, r, rfl, hrun, hholds⟩ := h stack rfl
  have hclose : Step r 0x7d ⟨stack, .done (.object (taken.reverse ++ [(name, value)]))⟩ := by
    rw [Step, hholds.next _ (.inr (.inr (.inl rfl))), ← List.reverse_cons]
    rfl
  exact ⟨_, _, _, _, rfl, rfl, by decide, hstart, hrun.append (.single hclose), holds_done _ _⟩

theorem leads_emptyList (room : depth < depthLimit) (hblanks : IsBlanks text) :
    (Part.value (.list [])).Leads depth ('['.toUInt8 :: (text ++ [']'.toUInt8])) := by
  rintro stack rfl
  have hstart : startValue stack '['.toUInt8 = .ok ⟨.list [] :: stack, .firstItem⟩ := if_pos room
  have hfirst : AwaitsValue .firstItem := .inr (.inl rfl)
  have hclose : Step ⟨.list [] :: stack, .firstItem⟩ ']'.toUInt8 ⟨stack, .done (.list [])⟩ := by
    rw [Step]
    rfl
  have hrun := (run_blanks (fun b => hfirst.step_blank) hblanks).append (.single hclose)
  exact ⟨_, _, _, _, rfl, rfl, by decide, hstart, hrun, holds_done _ _⟩

theorem leads_emptyObject (room : depth < depthLimit) (hblanks : IsBlanks text) :
    (Part.value (.object [])).Leads depth (0x7b :: (text ++ [0x7d])) := by
  rintro stack rfl
  have hstart : startValue stack 0x7b = .ok ⟨stack, .firstName⟩ := if_pos room
  have hfirst : AwaitsName .firstName [] := .inr ⟨rfl, rfl⟩
  have hclose : Step ⟨stack, .firstName⟩ 0x7d ⟨stack, .done (.object [])⟩ := by
    rw [Step]
    rfl
  have hrun := (run_blanks (fun b => hfirst.step_blank) hblanks).append (.single hclose)
  exact ⟨_, _, _, _, rfl, rfl, by decide, hstart, hrun, holds_done _ _⟩

/-- One more item, behind a comma. -/
theorem Part.Leads.nextItem {items : List Value} {value : Value} {more : List UInt8}
    (h : (Part.items items).Leads depth text) (h' : (Part.padded value).Leads depth more) :
    (Part.items (items ++ [value])).Leads depth (text ++ ','.toUInt8 :: more) := by
  rintro stack hdepth
  obtain ⟨taken, last, r, rfl, hrun, hholds⟩ := h stack hdepth
  have hcomma : Step r ','.toUInt8 ⟨.list (last :: taken) :: stack, .nextItem⟩ := by
    rw [Step, hholds.next _ (.inl rfl)]
    rfl
  obtain ⟨r', hrun', hholds'⟩ :=
    h' (.list (last :: taken) :: stack) .nextItem hdepth (.inr (.inr rfl))
  refine ⟨last :: taken, value, r', ?_, hrun.append (.cons hcomma hrun'), hholds'⟩
  rw [List.reverse_cons]

/-- One member, behind its name and the colon. -/
theorem Part.Leads.run_member {taken : Members} {name : String} {value : Value} {place : Place}
    {nameText : List UInt8} {stack : List Container} (h : (Part.padded value).Leads depth text)
    (hdepth : stack.length + 1 = depth) (hplace : AwaitsName place taken)
    (hname : IsName nameText name) :
    ∃ r, ByteRun Step ⟨stack, place⟩ (nameText ++ ':'.toUInt8 :: text) r ∧
      Holds r (.object taken name :: stack) value := by
  obtain ⟨r, hrun, hholds⟩ := h (.object taken name :: stack) .value hdepth (.inl rfl)
  refine ⟨r, ?_, hholds⟩
  rw [List.append_cons]
  exact (run_isName hplace hname).append hrun

/-- One more member, behind a comma. -/
theorem Part.Leads.nextMember {members : Members} {name : String} {value : Value}
    {nameText more : List UInt8} (h : (Part.members members).Leads depth text)
    (hname : IsName nameText name) (h' : (Part.padded value).Leads depth more) :
    (Part.members (members ++ [(name, value)])).Leads depth
      (text ++ ','.toUInt8 :: (nameText ++ ':'.toUInt8 :: more)) := by
  rintro stack hdepth
  obtain ⟨taken, lastName, last, r, rfl, hrun, hholds⟩ := h stack hdepth
  have hcomma : Step r ','.toUInt8 ⟨stack, .nextName ((lastName, last) :: taken)⟩ := by
    rw [Step, hholds.next _ (.inl rfl)]
    rfl
  obtain ⟨r', hrun', hholds'⟩ := h'.run_member hdepth (.inl rfl) hname
  refine ⟨_, name, value, r', ?_, hrun.append (.cons hcomma hrun'), hholds'⟩
  rw [List.reverse_cons]

end Leads

/-- **Whatever the grammar makes of some bytes, the reader makes of them.** -/
theorem Spells.leads {depth : Nat} {part : Part} {text : List UInt8} (h : Spells depth part text) :
    part.Leads depth text := by
  induction h with
  | null => exact fun stack _ => reads_null stack
  | true => exact fun stack _ => reads_bool stack .true
  | false => exact fun stack _ => reads_bool stack .false
  | number h => exact fun stack _ => reads_isNumeral stack h
  | string h => exact fun stack _ => reads_isString stack h
  | emptyList room h => exact leads_emptyList room h
  | list room _ ih => exact ih.list room
  | emptyObject room h => exact leads_emptyObject room h
  | object room _ ih => exact ih.object room
  | padded hfront _ hback ih =>
    exact fun stack place hdepth hplace => run_padded hplace hfront (ih stack hdepth) hback
  | item _ ih =>
    intro stack hdepth
    obtain ⟨r, hrun, hholds⟩ := ih (.list [] :: stack) .firstItem hdepth (.inr (.inl rfl))
    exact ⟨[], _, r, rfl, hrun, hholds⟩
  | nextItem _ _ ih ih' => exact ih.nextItem ih'
  | member hname _ ih =>
    intro stack hdepth
    obtain ⟨r, hrun, hholds⟩ := ih.run_member hdepth (.inr ⟨rfl, rfl⟩) hname
    exact ⟨[], _, _, r, rfl, hrun, hholds⟩
  | nextMember _ hname _ ih ih' => exact ih.nextMember hname ih'

/-- **A text of a value is read as that value.** -/
theorem parse_of_isText {body : List UInt8} {value : Value} (h : IsText body value) :
    parse body = .ok value := by
  obtain ⟨r, hrun, hholds⟩ := h.leads [] .value rfl (.inl rfl)
  exact parse_eq_ok hrun hholds.finish

end TrackerBoard.Json
