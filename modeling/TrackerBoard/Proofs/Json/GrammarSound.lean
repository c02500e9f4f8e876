import TrackerBoard.Proofs.Json.Grammar

/-! # The reader takes nothing but JSON

What the reader has taken when it may stop is a text of the value that it returns
(`isText_of_parse`), so that it reads a text exactly as the grammar has it (`parse_eq_ok_iff`).

The proof is an invariant of the reader.  In every state the bytes taken so far are those of the
containers that are open, up to the place where their next value belongs (`Before`), and behind them
the part that the place tells of (`Reached`).  A step of the reader adds its byte to that part, or
closes it; what a byte can do where a value starts or has ended is said once for all (`Starts`,
`Follows`).
-/

namespace TrackerBoard.Json

namespace Reader

/-! ### What a byte can do -/

/-- The bytes that may follow a value, and where they lead. -/
inductive Follows : List Container → Value → UInt8 → Reader → Prop
  | blank {stack : List Container} {value : Value} {b : UInt8} (hb : isBlank b = true) :
      Follows stack value b ⟨stack, .done value⟩
  | nextItem {stack : List Container} {items : List Value} {value : Value} :
      Follows (.list items :: stack) value ','.toUInt8 ⟨.list (value :: items) :: stack, .nextItem⟩
  | closeList {stack : List Container} {items : List Value} {value : Value} :
      Follows (.list items :: stack) value ']'.toUInt8
        ⟨stack, .done (.list (value :: items).reverse)⟩
  | nextName {stack : List Container} {members : Members} {name : String} {value : Value} :
      Follows (.object members name :: stack) value ','.toUInt8
        ⟨stack, .nextName ((name, value) :: members)⟩
  | closeObject {stack : List Container} {members : Members} {name : String} {value : Value} :
      Follows (.object members name :: stack) value 0x7d
        ⟨stack, .done (.object ((name, value) :: members).reverse)⟩

/-- The bytes that may start a value, and where they lead. -/
inductive Starts (stack : List Container) : UInt8 → Reader → Prop
  | quote : Starts stack '"'.toUInt8 ⟨stack, .string .start⟩
  | bracket (room : stack.length < depthLimit) :
      Starts stack '['.toUInt8 ⟨.list [] :: stack, .firstItem⟩
  | brace (room : stack.length < depthLimit) : Starts stack 0x7b ⟨stack, .firstName⟩
  | null : Starts stack 'n'.toUInt8 ⟨stack, .word (letters "ull") .null⟩
  | true : Starts stack 't'.toUInt8 ⟨stack, .word (letters "rue") (.bool true)⟩
  | false : Starts stack 'f'.toUInt8 ⟨stack, .word (letters "alse") (.bool false)⟩
  | number {b : UInt8} {n : Numeral} (h : Numeral.start? b = some n) :
      Starts stack b ⟨stack, .number n⟩

section Bytes
variable {stack : List Container} {value : Value} {b : UInt8} {r : Reader}

theorem follows_of_afterValue (h : afterValue stack value b = .ok r) :
    Follows stack value b r := by
  rw [afterValue.eq_def] at h
  split at h
  · next hb =>
    obtain rfl := Except.ok.inj h
    exact .blank hb
  split at h
  · exact absurd h (by simp)
  · repeat' split at h
    · next hb =>
      obtain rfl := Except.ok.inj h
      exact hb ▸ .nextItem
    · next hb =>
      obtain rfl := Except.ok.inj h
      exact hb ▸ .closeList
    · exact absurd h (by simp)
  · repeat' split at h
    · next hb =>
      obtain rfl := Except.ok.inj h
      exact hb ▸ .nextName
    · next hb =>
      obtain rfl := Except.ok.inj h
      exact hb ▸ .closeObject
    · exact absurd h (by simp)

theorem starts_of_startValue (h : startValue stack b = .ok r) : Starts stack b r := by
  rw [startValue] at h
  repeat' split at h
  · next hb =>
    obtain rfl := Except.ok.inj h
    exact hb ▸ .quote
  · next hb room =>
    obtain rfl := Except.ok.inj h
    exact hb ▸ .bracket room
  · exact absurd h (by simp)
  · next hb room =>
    obtain rfl := Except.ok.inj h
    exact hb ▸ .brace room
  · exact absurd h (by simp)
  · next hb =>
    obtain rfl := Except.ok.inj h
    exact hb ▸ .null
  · next hb =>
    obtain rfl := Except.ok.inj h
    exact hb ▸ .true
  · next hb =>
    obtain rfl := Except.ok.inj h
    exact hb ▸ .false
  · next hn =>
    obtain rfl := Except.ok.inj h
    exact .number hn
  · exact absurd h (by simp)

theorem stepQuoted_eq_ok {q : Quoted} {more : Quoted → Reader} {close : String → Reader}
    (h : stepQuoted q b more close = .ok r) :
    (∃ q', Quoted.Step q b q' ∧ r = more q') ∨
      ∃ s, q.step b = .ok none ∧ q.text? = some s ∧ r = close s := by
  rw [stepQuoted] at h
  split at h
  · exact absurd h (by simp)
  · next q' hstep => exact .inl ⟨q', hstep, (Except.ok.inj h).symm⟩
  · next hstep =>
    split at h
    · next s htext => exact .inr ⟨s, hstep, htext, (Except.ok.inj h).symm⟩
    · exact absurd h (by simp)

theorem stepNumber_eq_ok {n : Numeral} (h : stepNumber stack n b = .ok r) :
    (∃ n', Numeral.Step n b n' ∧ r = ⟨stack, .number n'⟩) ∨
      ∃ x, n.finish = .ok x ∧ afterValue stack (.number x) b = .ok r := by
  rw [stepNumber] at h
  split at h
  · exact absurd h (by simp)
  · next n' hstep => exact .inl ⟨n', hstep, (Except.ok.inj h).symm⟩
  · split at h
    · next x hfinish => exact .inr ⟨x, hfinish, h⟩
    · exact absurd h (by simp)

end Bytes

/-! ### What has been read of a text -/

/-- The bytes of a list behind its bracket, up to where its next item belongs.  The items come
newest first. -/
inductive ItemsHead (depth : Nat) : List Value → List UInt8 → Prop
  | nil : ItemsHead depth [] []
  | comma {items : List Value} {text : List UInt8} (h : Spells depth (.items items.reverse) text) :
      ItemsHead depth items (text ++ [','.toUInt8])

/-- The bytes of an object behind its brace, up to where its next member belongs.  The members come
newest first. -/
inductive MembersHead (depth : Nat) : Members → List UInt8 → Prop
  | nil : MembersHead depth [] []
  | comma {members : Members} {text : List UInt8}
      (h : Spells depth (.members members.reverse) text) :
      MembersHead depth members (text ++ [','.toUInt8])

/-- The bytes of a text up to where the next value of the innermost open container belongs. -/
inductive Before : List Container → List UInt8 → Prop
  | nil : Before [] []
  | list {stack : List Container} {items : List Value} {front blanks head : List UInt8}
      (h : Before stack front) (hblanks : IsBlanks blanks) (room : stack.length < depthLimit)
      (hhead : ItemsHead (stack.length + 1) items head) :
      Before (.list items :: stack) (front ++ (blanks ++ '['.toUInt8 :: head))
  | object {stack : List Container} {members : Members} {name : String}
      {front blanks head nameText : List UInt8} (h : Before stack front)
      (hblanks : IsBlanks blanks) (room : stack.length < depthLimit)
      (hhead : MembersHead (stack.length + 1) members head) (hname : IsName nameText name) :
      Before (.object members name :: stack)
        (front ++ (blanks ++ 0x7b :: (head ++ (nameText ++ [':'.toUInt8]))))

/-- The text ends with these bytes, which stand where the next value belongs. -/
def Behind (stack : List Container) (part text : List UInt8) : Prop :=
  ∃ front blanks, text = front ++ (blanks ++ part) ∧ Before stack front ∧ IsBlanks blanks

/-- The text ends with these bytes, which stand where the next member of an object belongs. -/
def InObject (stack : List Container) (members : Members) (part text : List UInt8) : Prop :=
  ∃ head, Behind stack (0x7b :: (head ++ part)) text ∧ stack.length < depthLimit ∧
    MembersHead (stack.length + 1) members head

/-- The text ends with a value, perhaps with blanks behind it. -/
def Ended (stack : List Container) (value : Value) (text : List UInt8) : Prop :=
  ∃ part back, Behind stack (part ++ back) text ∧ Spells stack.length (.value value) part ∧
    IsBlanks back

/-- The text leads to this place. -/
def ReachedPlace (stack : List Container) (text : List UInt8) : Place → Prop
  | .value | .nextItem => Behind stack [] text
  | .firstItem => Behind stack [] text ∧ ∃ outer, stack = .list [] :: outer
  | .firstName => ∃ blanks, InObject stack [] blanks text ∧ IsBlanks blanks
  | .nextName members => ∃ blanks, InObject stack members blanks text ∧ IsBlanks blanks
  | .name members q => ∃ blanks inner,
      InObject stack members (blanks ++ '"'.toUInt8 :: inner) text ∧ IsBlanks blanks ∧
        ByteRun Quoted.Step .start inner q
  | .colon members name => ∃ nameText, InObject stack members nameText text ∧ IsName nameText name
  | .word rest v => ∃ part, Behind stack part text ∧ rest ≠ [] ∧
      Spells stack.length (.value v) (part ++ rest)
  | .number n => ∃ part, Behind stack part text ∧ Numeral.Reads part n
  | .string q => ∃ inner, Behind stack ('"'.toUInt8 :: inner) text ∧
      ByteRun Quoted.Step .start inner q
  | .done v => Ended stack v text

/-- The text leads to this state of the reader. -/
def Reached (r : Reader) (text : List UInt8) : Prop := ReachedPlace r.stack text r.place

section Parts
variable {stack outer : List Container} {part text : List UInt8} {value : Value} {b : UInt8}
  {members : Members} {r : Reader}

theorem Before.behind (h : Before stack text) : Behind stack [] text :=
  ⟨text, [], by simp, h, isBlanks_nil⟩

theorem Behind.snoc (h : Behind stack part text) (b : UInt8) :
    Behind stack (part ++ [b]) (text ++ [b]) := by
  obtain ⟨front, blanks, rfl, hbefore, hblanks⟩ := h
  exact ⟨front, blanks, by simp, hbefore, hblanks⟩

theorem Behind.blank (h : Behind stack [] text) (hb : isBlank b = true) :
    Behind stack [] (text ++ [b]) := by
  obtain ⟨front, blanks, rfl, hbefore, hblanks⟩ := h
  exact ⟨front, blanks ++ [b], by simp, hbefore, hblanks.snoc hb⟩

theorem InObject.snoc (h : InObject stack members part text) (b : UInt8) :
    InObject stack members (part ++ [b]) (text ++ [b]) := by
  obtain ⟨head, hbehind, room, hhead⟩ := h
  refine ⟨head, ?_, room, hhead⟩
  have hmore := hbehind.snoc b
  rwa [List.cons_append, List.append_assoc] at hmore

theorem Ended.blank (h : Ended stack value text) (hb : isBlank b = true) :
    Ended stack value (text ++ [b]) := by
  obtain ⟨part, back, hbehind, hspells, hback⟩ := h
  refine ⟨part, back ++ [b], ?_, hspells, hback.snoc hb⟩
  rw [← List.append_assoc]
  exact hbehind.snoc b

theorem Behind.ended (h : Behind stack part text)
    (hspells : Spells stack.length (.value value) part) : Ended stack value text :=
  ⟨part, [], by rwa [List.append_nil], hspells, isBlanks_nil⟩

/-! ### Values end and containers go on -/

/-- The items of a list up to the one that has just ended. -/
theorem Ended.toItems {items : List Value} (h : Ended (.list items :: outer) value text) :
    ∃ inner, Behind outer ('['.toUInt8 :: inner) text ∧ outer.length < depthLimit ∧
      Spells (outer.length + 1) (.items (value :: items).reverse) inner := by
  obtain ⟨part, back, ⟨_, blanks, rfl, hbefore, hblanks⟩, hspells, hback⟩ := h
  have hitem := Spells.padded hblanks hspells hback
  cases hbefore with
  | @list _ _ front blanks' head hbefore hblanks' room hhead =>
    refine ⟨head ++ (blanks ++ (part ++ back)), ⟨front, blanks', by simp, hbefore, hblanks'⟩,
      room, ?_⟩
    rw [List.reverse_cons]
    cases hhead with
    | nil => exact .item hitem
    | comma h =>
      rw [List.append_assoc]
      exact .nextItem h hitem

/-- The members of an object up to the one whose value has just ended. -/
theorem Ended.toMembers {name : String} (h : Ended (.object members name :: outer) value text) :
    ∃ inner, Behind outer (0x7b :: inner) text ∧ outer.length < depthLimit ∧
      Spells (outer.length + 1) (.members ((name, value) :: members).reverse) inner := by
  obtain ⟨part, back, ⟨_, blanks, rfl, hbefore, hblanks⟩, hspells, hback⟩ := h
  have hmember := Spells.padded hblanks hspells hback
  cases hbefore with
  | @object _ _ _ front blanks' head nameText hbefore hblanks' room hhead hname =>
    refine ⟨head ++ (nameText ++ ':'.toUInt8 :: (blanks ++ (part ++ back))),
      ⟨front, blanks', by simp, hbefore, hblanks'⟩, room, ?_⟩
    rw [List.reverse_cons]
    cases hhead with
    | nil => exact .member hname hmember
    | comma h =>
      rw [List.append_assoc]
      exact .nextMember h hname hmember

/-- A container that opens, or goes on, awaits its next value. -/
theorem Behind.awaitsItem {items : List Value} {head : List UInt8}
    (h : Behind stack ('['.toUInt8 :: head) text) (room : stack.length < depthLimit)
    (hhead : ItemsHead (stack.length + 1) items head) :
    Behind (.list items :: stack) [] text := by
  obtain ⟨front, blanks, rfl, hbefore, hblanks⟩ := h
  exact (Before.list hbefore hblanks room hhead).behind

theorem Behind.inObject {head : List UInt8} (h : Behind stack (0x7b :: head) text)
    (room : stack.length < depthLimit) (hhead : MembersHead (stack.length + 1) members head) :
    InObject stack members [] text :=
  ⟨head, by rwa [List.append_nil], room, hhead⟩

/-- A byte behind a value. -/
theorem Ended.step (h : Ended stack value text) (hfollows : Follows stack value b r) :
    Reached r (text ++ [b]) := by
  cases hfollows with
  | blank hb => exact h.blank hb
  | nextItem =>
    obtain ⟨inner, hbehind, room, hitems⟩ := h.toItems
    exact (hbehind.snoc _).awaitsItem room (.comma hitems)
  | closeList =>
    obtain ⟨inner, hbehind, room, hitems⟩ := h.toItems
    exact (hbehind.snoc _).ended (.list room hitems)
  | nextName =>
    obtain ⟨inner, hbehind, room, hmembers⟩ := h.toMembers
    exact ⟨[], (hbehind.snoc _).inObject room (.comma hmembers), isBlanks_nil⟩
  | closeObject =>
    obtain ⟨inner, hbehind, room, hmembers⟩ := h.toMembers
    exact (hbehind.snoc _).ended (.object room hmembers)

/-- The first byte of a value. -/
theorem Behind.start (h : Behind stack [] text) (hstarts : Starts stack b r) :
    Reached r (text ++ [b]) := by
  have hfirst := h.snoc b
  rw [List.nil_append] at hfirst
  cases hstarts with
  | quote => exact ⟨[], hfirst, .nil _⟩
  | bracket room => exact ⟨hfirst.awaitsItem room .nil, stack, rfl⟩
  | brace room => exact ⟨[], hfirst.inObject room .nil, isBlanks_nil⟩
  -- behind its first letter the rest of a word is the only way on
  | null => exact ⟨_, hfirst, by decide, .null⟩
  | true => exact ⟨_, hfirst, by decide, .true⟩
  | false => exact ⟨_, hfirst, by decide, .false⟩
  | number hn => exact ⟨_, hfirst, Numeral.reads_start hn⟩

theorem ItemsHead.of_nil {depth : Nat} {head : List UInt8} (h : ItemsHead depth [] head) :
    head = [] := by
  cases h with
  | nil => rfl
  | comma h => exact absurd rfl h.ne_empty.1

theorem MembersHead.of_nil {depth : Nat} {head : List UInt8} (h : MembersHead depth [] head) :
    head = [] := by
  cases h with
  | nil => rfl
  | comma h => exact absurd rfl h.ne_empty.2

/-- A bracket that closes a list without items. -/
theorem Behind.closeList (h : Behind (.list [] :: outer) [] text) :
    Ended outer (.list []) (text ++ [']'.toUInt8]) := by
  obtain ⟨_, blanks, rfl, hbefore, hblanks⟩ := h
  cases hbefore with
  | @list _ _ front blanks' head hbefore hblanks' room hhead =>
    obtain rfl := hhead.of_nil
    have hbehind : Behind outer ('['.toUInt8 :: (blanks ++ [']'.toUInt8]))
        (front ++ (blanks' ++ ['['.toUInt8]) ++ (blanks ++ []) ++ [']'.toUInt8]) :=
      ⟨front, blanks', by simp, hbefore, hblanks'⟩
    exact hbehind.ended (.emptyList room hblanks)

/-- A brace that closes an object without members. -/
theorem InObject.closeObject {blanks : List UInt8} (h : InObject stack [] blanks text)
    (hblanks : IsBlanks blanks) : Ended stack (.object []) (text ++ [0x7d]) := by
  obtain ⟨head, hbehind, room, hhead⟩ := h
  obtain rfl := hhead.of_nil
  exact (hbehind.snoc 0x7d).ended (.emptyObject room hblanks)

end Parts

/-! ### A step adds to the part, or closes it -/

section Step
variable {stack : List Container} {blanks text : List UInt8} {b : UInt8} {value : Value}
  {members : Members} {name : String} {r r' : Reader}

/-- A byte inside a word, which may be the last one. -/
theorem reached_word {rest : List UInt8} (h : ReachedPlace stack text (.word rest value))
    (hstep : Step ⟨stack, .word rest value⟩ b r) : Reached r (text ++ [b]) := by
  obtain ⟨part, hbehind, hne, hspells⟩ := h
  cases rest with
  | nil => exact absurd rfl hne
  | cons letter rest =>
    simp only [Step, step] at hstep
    split at hstep
    · next hb =>
      obtain rfl := Except.ok.inj hstep
      have hmore := hbehind.snoc b
      rw [← hb, List.append_cons] at hspells
      cases rest with
      | nil =>
        rw [List.append_nil] at hspells
        exact hmore.ended hspells
      | cons next rest => exact ⟨_, hmore, by simp, hspells⟩
    · exact absurd hstep (by simp)

theorem Behind.number {n : Numeral} {x : Number} {part : List UInt8}
    (h : Behind stack part text) (hreads : Numeral.Reads part n) (hfinish : n.finish = .ok x) :
    Ended stack (.number x) text :=
  h.ended (.number (hreads.isNumeral hfinish))

/-- A byte inside a number, or behind it. -/
theorem reached_number {n : Numeral} (h : ReachedPlace stack text (.number n))
    (hstep : Step ⟨stack, .number n⟩ b r) : Reached r (text ++ [b]) := by
  obtain ⟨part, hbehind, hreads⟩ := h
  rcases stepNumber_eq_ok hstep with ⟨n', hmove, rfl⟩ | ⟨x, hfinish, hafter⟩
  · exact ⟨_, hbehind.snoc b, hreads.snoc hmove⟩
  · exact (hbehind.number hreads hfinish).step (follows_of_afterValue hafter)

/-- A byte inside a string, or its closing quote. -/
theorem reached_string {q : Quoted} (h : ReachedPlace stack text (.string q))
    (hstep : Step ⟨stack, .string q⟩ b r) : Reached r (text ++ [b]) := by
  obtain ⟨inner, hbehind, hrun⟩ := h
  rcases stepQuoted_eq_ok hstep with ⟨q', hmove, rfl⟩ | ⟨s, hclose, htext, rfl⟩
  · exact ⟨_, hbehind.snoc b, hrun.append (.single hmove)⟩
  · exact (hbehind.snoc b).ended (.string (Quoted.isString_of_run hrun hclose htext))

/-- A byte inside the name of a member, or its closing quote. -/
theorem reached_name {q : Quoted} (h : ReachedPlace stack text (.name members q))
    (hstep : Step ⟨stack, .name members q⟩ b r) : Reached r (text ++ [b]) := by
  obtain ⟨blanks, inner, hinObject, hblanks, hrun⟩ := h
  have hmore := hinObject.snoc b
  rw [List.append_assoc] at hmore
  rcases stepQuoted_eq_ok hstep with ⟨q', hmove, rfl⟩ | ⟨s, hclose, htext, rfl⟩
  · exact ⟨blanks, _, hmore, hblanks, hrun.append (.single hmove)⟩
  · have hstring := Quoted.isString_of_run hrun hclose htext
    exact ⟨_, hmore, blanks, _, [], by simp, hblanks, hstring, isBlanks_nil⟩

/-- The colon behind a name, or a blank before it. -/
theorem reached_colon (h : ReachedPlace stack text (.colon members name))
    (hstep : Step ⟨stack, .colon members name⟩ b r) : Reached r (text ++ [b]) := by
  obtain ⟨nameText, hinObject, hname⟩ := h
  simp only [Step, step] at hstep
  split at hstep
  · next hb =>
    obtain rfl := Except.ok.inj hstep
    obtain ⟨front, inner, back, rfl, hfront, hstring, hback⟩ := hname
    exact ⟨_, hinObject.snoc b, front, inner, back ++ [b], by simp, hfront, hstring,
      hback.snoc hb⟩
  split at hstep
  · next hb =>
    obtain rfl := Except.ok.inj hstep
    obtain ⟨head, ⟨front, blanks, rfl, hbefore, hblanks⟩, room, hhead⟩ := hinObject
    have hawaits := (Before.object hbefore hblanks room hhead hname).behind
    rw [hb]
    simpa [Reached, ReachedPlace] using hawaits
  · exact absurd hstep (by simp)

/-- The quote that opens a name, or a blank before it. -/
theorem InObject.openName (h : InObject stack members blanks text) (hblanks : IsBlanks blanks) :
    ReachedPlace stack (text ++ ['"'.toUInt8]) (.name members .start) :=
  ⟨blanks, [], h.snoc _, hblanks, .nil _⟩

theorem reached_firstName (h : ReachedPlace stack text .firstName)
    (hstep : Step ⟨stack, .firstName⟩ b r) : Reached r (text ++ [b]) := by
  obtain ⟨blanks, hinObject, hblanks⟩ := h
  simp only [Step, step] at hstep
  split at hstep
  · next hb =>
    obtain rfl := Except.ok.inj hstep
    exact ⟨_, hinObject.snoc b, hblanks.snoc hb⟩
  split at hstep
  · next hb =>
    obtain rfl := Except.ok.inj hstep
    rw [hb]
    exact hinObject.closeObject hblanks
  split at hstep
  · next hb =>
    obtain rfl := Except.ok.inj hstep
    rw [hb]
    exact hinObject.openName hblanks
  · exact absurd hstep (by simp)

theorem reached_nextName (h : ReachedPlace stack text (.nextName members))
    (hstep : Step ⟨stack, .nextName members⟩ b r) : Reached r (text ++ [b]) := by
  obtain ⟨blanks, hinObject, hblanks⟩ := h
  simp only [Step, step] at hstep
  split at hstep
  · next hb =>
    obtain rfl := Except.ok.inj hstep
    exact ⟨_, hinObject.snoc b, hblanks.snoc hb⟩
  split at hstep
  · exact absurd hstep (by simp)
  split at hstep
  · next hb =>
    obtain rfl := Except.ok.inj hstep
    rw [hb]
    exact hinObject.openName hblanks
  · exact absurd hstep (by simp)

theorem reached_firstItem (h : ReachedPlace stack text .firstItem)
    (hstep : Step ⟨stack, .firstItem⟩ b r) : Reached r (text ++ [b]) := by
  obtain ⟨hbehind, outer, rfl⟩ := h
  simp only [Step, step] at hstep
  split at hstep
  · next hb =>
    obtain rfl := Except.ok.inj hstep
    exact ⟨hbehind.blank hb, outer, rfl⟩
  split at hstep
  · next hb =>
    obtain rfl := Except.ok.inj hstep
    rw [hb]
    exact hbehind.closeList
  · exact hbehind.start (starts_of_startValue hstep)

theorem reached_nextItem (h : ReachedPlace stack text .nextItem)
    (hstep : Step ⟨stack, .nextItem⟩ b r) : Reached r (text ++ [b]) := by
  simp only [Step, step] at hstep
  split at hstep
  · next hb =>
    obtain rfl := Except.ok.inj hstep
    exact Behind.blank h hb
  split at hstep
  · exact absurd hstep (by simp)
  · exact Behind.start h (starts_of_startValue hstep)

theorem reached_value (h : ReachedPlace stack text .value)
    (hstep : Step ⟨stack, .value⟩ b r) : Reached r (text ++ [b]) := by
  simp only [Step, step] at hstep
  split at hstep
  · next hb =>
    obtain rfl := Except.ok.inj hstep
    exact Behind.blank h hb
  · exact Behind.start h (starts_of_startValue hstep)

/-- **A step of the reader keeps what was read a part of a text.** -/
theorem Reached.step (h : Reached r text) (hstep : Step r b r') : Reached r' (text ++ [b]) := by
  obtain ⟨stack, place⟩ := r
  cases place with
  | value => exact reached_value h hstep
  | firstItem => exact reached_firstItem h hstep
  | nextItem => exact reached_nextItem h hstep
  | firstName => exact reached_firstName h hstep
  | nextName members => exact reached_nextName h hstep
  | name members q => exact reached_name h hstep
  | colon members name => exact reached_colon h hstep
  | word rest value => exact reached_word h hstep
  | number n => exact reached_number h hstep
  | string q => exact reached_string h hstep
  | done value => exact Ended.step h (follows_of_afterValue hstep)

/-- Whatever the reader has taken leads to its state. -/
theorem reached_of_run (h : ByteRun Step .start text r) : Reached r text :=
  h.preserves (P := Reached) (fun _ _ _ _ h => h.step) (Before.nil.behind)

theorem close_eq_ok {result : Value} (h : close stack value = .ok result) :
    stack = [] ∧ result = value := by
  rw [close.eq_def] at h
  split at h
  · exact ⟨rfl, (Except.ok.inj h).symm⟩
  · exact absurd h (by simp)
  · exact absurd h (by simp)

/-- A text may end behind its value.  A number need not have ended: one more digit could follow. -/
theorem finish_eq_ok (h : r.finish = .ok value) :
    r = ⟨[], .done value⟩ ∨
      ∃ n x, r = ⟨[], .number n⟩ ∧ n.finish = .ok x ∧ value = .number x := by
  obtain ⟨stack, place⟩ := r
  cases place with
  | number n =>
    simp only [finish] at h
    split at h
    · next x hx =>
      obtain ⟨rfl, rfl⟩ := close_eq_ok h
      exact .inr ⟨n, x, rfl, hx, rfl⟩
    · exact absurd h (by simp)
  | done v =>
    obtain ⟨rfl, rfl⟩ := close_eq_ok h
    exact .inl rfl
  | _ => exact absurd h (by simp [finish])

/-- A value that ends outside of all containers is the whole text. -/
theorem Ended.isText (h : Ended [] value text) : IsText text value := by
  obtain ⟨part, back, ⟨_, blanks, rfl, hbefore, hblanks⟩, hspells, hback⟩ := h
  cases hbefore with
  | nil =>
    rw [List.nil_append]
    exact .padded hblanks hspells hback

/-- **Where the reader may stop, it has taken a text of its value.** -/
theorem Reached.isText (h : Reached r text) (hfinish : r.finish = .ok value) :
    IsText text value := by
  rcases finish_eq_ok hfinish with rfl | ⟨n, x, rfl, hx, rfl⟩
  · exact Ended.isText h
  · obtain ⟨part, hbehind, hreads⟩ := h
    exact (hbehind.number hreads hx).isText

end Step

end Reader

open Reader (depthLimit)

variable {body : List UInt8} {value value' : Value}

/-- **What is read is a text of the value.** -/
theorem isText_of_parse (h : parse body = .ok value) : IsText body value := by
  obtain ⟨r, hrun, hfinish⟩ := exists_run_of_parse h
  exact (Reader.reached_of_run hrun).isText hfinish

/-- **A text is read as a value exactly when it is a text of it.** -/
theorem parse_eq_ok_iff : parse body = .ok value ↔ IsText body value :=
  ⟨isText_of_parse, parse_of_isText⟩

/-- What is written for a plain value is a text of it. -/
theorem isText_render {depth : Nat} (h : value.IsPlain depth) (hdepth : depth ≤ depthLimit) :
    IsText (Utf8.encode value.render.toList) value :=
  isText_of_parse (parse_render h hdepth)

/-- A text is the text of one value only. -/
theorem IsText.unique (h : IsText body value) (h' : IsText body value') : value = value' :=
  Except.ok.inj ((parse_of_isText h).symm.trans (parse_of_isText h'))

end TrackerBoard.Json
