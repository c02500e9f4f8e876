import Mathlib.Data.List.Basic
import Mathlib.Data.List.Induction
import TrackerBoard.Frame.Label
import TrackerBoard.Proofs.Text.Digits

/-! # Labels of counts

Where a comma goes is decided from the left, by how many digits are still to come; the groups are
counted from the right.  Both come to the same (`DigitGroups.groupDigits_digits`), because three more
digits at the end move no comma before them.  So the label of a count has one to three digits in
front and three behind every comma, and without its commas it is the decimal text of the count, which
it therefore determines.  A count of frames above a million has a label of its own, that of no other
count (`labelsCount`).
-/

namespace TrackerBoard

/-- Up to three digits need no comma. -/
theorem groupDigits_of_length_le {digits : List Char} (h : digits.length ≤ 3) :
    groupDigits digits = digits := by
  match digits, h with
  | [], _ => rfl
  | [_], _ => rfl
  | [_, _], _ => rfl
  | [_, _, _], _ => rfl

/-- Three more digits are one more group, and leave the others as they are. -/
theorem groupDigits_append_three {front : List Char} (h : front ≠ []) {group : List Char}
    (hgroup : group.length = 3) :
    groupDigits (front ++ group) = groupDigits front ++ ',' :: group := by
  induction front with
  | nil => exact absurd rfl h
  | cons d front ih =>
    have hne : group ≠ [] := List.ne_nil_of_length_pos (by omega)
    cases front with
    | nil =>
      rw [List.singleton_append, groupDigits, if_pos ⟨hne, by rw [hgroup]⟩,
        groupDigits_of_length_le (by omega)]
      rfl
    | cons e front =>
      have hlength : (e :: front ++ group).length % 3 = (e :: front).length % 3 := by
        rw [List.length_append, hgroup, Nat.add_mod_right]
      rw [List.cons_append, groupDigits, groupDigits, hlength, ih (List.cons_ne_nil e front)]
      by_cases hcomma : (e :: front).length % 3 = 0
      · rw [if_pos ⟨by simp, hcomma⟩, if_pos ⟨by simp, hcomma⟩]
        rfl
      · rw [if_neg fun hand => hcomma hand.2, if_neg fun hand => hcomma hand.2]
        rfl

/-- The text has a group of so many digits in front, and then a comma or nothing. -/
def BeginsWithGroup (size : Nat) (text : List Char) : Prop :=
  ∃ group rest, text = group ++ rest ∧ group.length = size ∧ (∀ c ∈ group, c.isDigit = true) ∧
    (rest = [] ∨ rest.head? = some ',')

/-- What comes behind a character that some text before it does not have. -/
theorem exists_eq_append_of_notMem {c : Char} {before behind front back : List Char}
    (h : c ∉ before) (heq : before ++ behind = front ++ c :: back) :
    ∃ middle, behind = middle ++ c :: back := by
  rcases List.append_eq_append_iff.mp heq with ⟨middle, -, hbehind⟩ | ⟨middle, hbefore, hmiddle⟩
  · exact ⟨middle, hbehind⟩
  · cases middle with
    | nil => exact ⟨[], hmiddle.symm⟩
    | cons d middle =>
      obtain ⟨rfl, -⟩ := List.cons.inj hmiddle
      exact absurd (hbefore ▸ List.mem_append_right front List.mem_cons_self) h

/-- The digits of a number by its groups: one to three of them in the first, three in each other. -/
structure DigitGroups where
  first : List Char
  others : List (List Char)
  first_pos : 0 < first.length
  first_le : first.length ≤ 3
  length_other : ∀ group ∈ others, group.length = 3

namespace DigitGroups

/-- All digits, without commas. -/
def digits (g : DigitGroups) : List Char := g.first ++ g.others.flatten

/-- The groups with a comma before each but the first. -/
def text (g : DigitGroups) : List Char := g.first ++ g.others.flatMap (',' :: ·)

/-- **The commas that are put between digits are those between their groups.** -/
theorem groupDigits_digits (g : DigitGroups) : groupDigits g.digits = g.text := by
  obtain ⟨first, others, hpos, hle, hlength⟩ := g
  rw [digits, text]
  dsimp only at *
  induction others using List.reverseRecOn with
  | nil => simpa using groupDigits_of_length_le hle
  | append_singleton others group ih =>
    have hothers := ih fun group h => hlength group (List.mem_append_left _ h)
    have hgroup : group.length = 3 := hlength group (List.mem_append_right _ List.mem_cons_self)
    have hne : first ++ others.flatten ≠ [] :=
      List.append_ne_nil_of_left_ne_nil (List.ne_nil_of_length_pos hpos) _
    rw [List.flatten_append, List.flatten_singleton, ← List.append_assoc,
      groupDigits_append_three hne hgroup, hothers, List.flatMap_append, List.flatMap_singleton,
      List.append_assoc]

/-- Any digits fall into groups. -/
theorem exists_digits_eq {digits : List Char} (h : digits ≠ []) :
    ∃ g : DigitGroups, g.digits = digits := by
  induction hn : digits.length using Nat.strongRecOn generalizing digits with
  | ind n ih =>
    subst hn
    by_cases hle : digits.length ≤ 3
    · exact ⟨⟨digits, [], List.length_pos_iff.mpr h, hle, by simp⟩, List.append_nil digits⟩
    · -- the last three digits are a group, and some are before them
      have hfront : (digits.take (digits.length - 3)).length = digits.length - 3 :=
        List.length_take_of_le (by omega)
      obtain ⟨g, hg⟩ := ih _ (by omega) (List.ne_nil_of_length_pos (by omega)) hfront
      refine ⟨⟨g.first, g.others ++ [digits.drop (digits.length - 3)], g.first_pos, g.first_le, ?_⟩, ?_⟩
      · intro group hgroup
        rcases List.mem_append.mp hgroup with hother | hlast
        · exact g.length_other group hother
        · rw [List.mem_singleton.mp hlast, List.length_drop]
          omega
      · rw [DigitGroups.digits, List.flatten_append, List.flatten_singleton, ← List.append_assoc]
        dsimp only
        rw [← DigitGroups.digits, hg, List.take_append_drop]

variable (g : DigitGroups)

/-- Without the commas the digits are left. -/
theorem filter_text (h : ',' ∉ g.digits) : g.text.filter (· ≠ ',') = g.digits := by
  have hkept : ∀ part : List Char, part ⊆ g.digits → part.filter (· ≠ ',') = part := by
    intro part hpart
    exact List.filter_eq_self.mpr fun c hc => decide_eq_true fun heq => h (heq ▸ hpart hc)
  have hfirst : g.first.filter (· ≠ ',') = g.first := hkept _ (List.subset_append_left ..)
  have hothers : (g.others.flatMap (',' :: ·)).filter (· ≠ ',') = g.others.flatten := by
    rw [List.filter_flatMap, List.flatten_eq_flatMap]
    refine List.flatMap_congr fun group hgroup => ?_
    rw [List.filter_cons_of_neg (by simp), id]
    exact hkept _ fun c hc => List.mem_append_right _ (List.mem_flatten_of_mem hgroup hc)
  rw [text, digits, List.filter_append, hfirst, hothers]

variable {g}

theorem head?_flatMap_comma (groups : List (List Char)) :
    groups.flatMap (',' :: ·) = [] ∨ (groups.flatMap (',' :: ·)).head? = some ',' := by
  cases groups with
  | nil => exact .inl rfl
  | cons group groups => exact .inr rfl

theorem beginsWithGroup_text (h : ∀ c ∈ g.digits, c.isDigit = true) :
    BeginsWithGroup g.first.length g.text :=
  ⟨g.first, g.others.flatMap (',' :: ·), rfl, rfl, fun c hc => h c (List.mem_append_left _ hc),
    head?_flatMap_comma g.others⟩

theorem comma_notMem (h : ∀ c ∈ g.digits, c.isDigit = true) : ',' ∉ g.digits :=
  fun hcomma => absurd (h _ hcomma) (by decide)

/-- Behind every comma between groups stands a group. -/
theorem exists_group_of_comma {groups : List (List Char)} (h : ',' ∉ groups.flatten)
    {front back : List Char} (htext : groups.flatMap (',' :: ·) = front ++ ',' :: back) :
    ∃ group ∈ groups, ∃ rest : List (List Char), back = group ++ rest.flatMap (',' :: ·) := by
  induction groups generalizing front with
  | nil => exact absurd htext (by simp)
  | cons group groups ih =>
    rw [List.flatten_cons, List.mem_append, not_or] at h
    rw [List.flatMap_cons, List.cons_append] at htext
    cases front with
    | nil => exact ⟨group, List.mem_cons_self, groups, (List.cons.inj htext).2.symm⟩
    | cons c front =>
      obtain ⟨middle, hmiddle⟩ := exists_eq_append_of_notMem h.1 (List.cons.inj htext).2
      obtain ⟨next, hnext, rest, hback⟩ := ih h.2 hmiddle
      exact ⟨next, List.mem_cons_of_mem _ hnext, rest, hback⟩

theorem beginsWithGroup_of_comma (h : ∀ c ∈ g.digits, c.isDigit = true) {front back : List Char}
    (htext : g.text = front ++ ',' :: back) : BeginsWithGroup 3 back := by
  have hcomma := comma_notMem h
  rw [digits, List.mem_append, not_or] at hcomma
  obtain ⟨middle, hmiddle⟩ := exists_eq_append_of_notMem hcomma.1 htext
  obtain ⟨group, hgroup, rest, hback⟩ := exists_group_of_comma hcomma.2 hmiddle
  exact ⟨group, _, hback, g.length_other group hgroup,
    fun c hc => h c (List.mem_append_right _ (List.mem_flatten_of_mem hgroup hc)),
    head?_flatMap_comma rest⟩

end DigitGroups

/-- A text that writes a count in groups of three digits. -/
structure IsGrouped (n : UInt64) (text : List Char) : Prop where
  /-- Without its commas it is the decimal text of the count. -/
  digits : text.filter (· ≠ ',') = (toString n).toList
  first : ∃ size, 1 ≤ size ∧ size ≤ 3 ∧ BeginsWithGroup size text
  behindComma : ∀ front back, text = front ++ ',' :: back → BeginsWithGroup 3 back

theorem isGrouped_groupThousands (n : UInt64) : IsGrouped n (groupThousands n).toList := by
  have hdigit : ∀ c ∈ Nat.toDigits 10 n.toNat, c.isDigit = true :=
    fun c => Nat.isDigit_of_mem_toDigits (by decide) (by decide)
  obtain ⟨g, hg⟩ := DigitGroups.exists_digits_eq (Nat.toDigits_ne_nil (b := 10) (n := n.toNat))
  rw [groupThousands, String.toList_ofList, ← hg, g.groupDigits_digits]
  rw [← hg] at hdigit
  exact
    { digits := by
        rw [g.filter_text (DigitGroups.comma_notMem hdigit), hg]
        exact Nat.toList_repr.symm
      first := ⟨_, g.first_pos, g.first_le, DigitGroups.beginsWithGroup_text hdigit⟩
      behindComma := fun front back htext => DigitGroups.beginsWithGroup_of_comma hdigit htext }

/-- A label tells its count. -/
theorem groupThousands_injective {m n : UInt64} (h : groupThousands m = groupThousands n) :
    m = n := by
  have hm := (isGrouped_groupThousands m).digits
  have hn := (isGrouped_groupThousands n).digits
  have hdigits : Nat.toDigits 10 m.toNat = Nat.toDigits 10 n.toNat := by
    calc
      _ = (toString m).toList := Nat.toList_repr.symm
      _ = (toString n).toList := by rw [← hm, ← hn, h]
      _ = _ := Nat.toList_repr
  apply UInt64.toNat_inj.mp
  calc
    _ = Digits.value (Nat.toDigits 10 m.toNat) :=
      (Digits.value_of_read? (Digits.read?_toDigits m.toNat)).symm
    _ = n.toNat := by rw [hdigits, Digits.value_of_read? (Digits.read?_toDigits n.toNat)]

/-- The label of a count begins with a digit. -/
theorem groupThousands_ne_capped (n : UInt64) : groupThousands n ≠ ">1M" := by
  intro h
  have hdigits := (isGrouped_groupThousands n).digits
  rw [h] at hdigits
  have hmem : '>' ∈ Nat.toDigits 10 n.toNat := by
    rw [← Nat.toList_repr]
    exact hdigits ▸ (by decide)
  exact absurd (Nat.isDigit_of_mem_toDigits (by decide) (by decide) hmem) (by decide)

theorem frameLabel_of_le {n : UInt64} (h : n ≤ 1000000) : frameLabel n = groupThousands n :=
  if_neg (UInt64.not_lt.mpr h)

theorem frameLabel_of_lt {n : UInt64} (h : 1000000 < n) : frameLabel n = ">1M" :=
  if_pos h

/-- What the labels of a count tell of it. -/
structure LabelsCount (n : UInt64) : Prop where
  grouped : IsGrouped n (groupThousands n).toList
  /-- The grouped digits are those of no other count. -/
  determines : ∀ m, groupThousands m = groupThousands n → m = n
  exact : n ≤ 1000000 → frameLabel n = groupThousands n
  capped : 1000000 < n → frameLabel n = ">1M"
  /-- Counts of frames up to the cap have labels of their own, -/
  injective : n ≤ 1000000 → ∀ m ≤ 1000000, frameLabel m = frameLabel n → m = n
  /-- and none of them is that of the counts above. -/
  ne_capped : n ≤ 1000000 → ∀ m, 1000000 < m → frameLabel n ≠ frameLabel m

/-- **The label of a count is its decimal text in groups of three digits**, up to a million. -/
theorem labelsCount (n : UInt64) : LabelsCount n where
  grouped := isGrouped_groupThousands n
  determines _ := groupThousands_injective
  exact := frameLabel_of_le
  capped := frameLabel_of_lt
  injective hn m hm h := by
    rw [frameLabel_of_le hn, frameLabel_of_le hm] at h
    exact groupThousands_injective h
  ne_capped hn m hm := by
    rw [frameLabel_of_le hn, frameLabel_of_lt hm]
    exact groupThousands_ne_capped n

/-- The last count that is shown exactly and the first that is not. -/
theorem labelsCount_million : frameLabel 1000000 = "1,000,000" ∧ frameLabel 1000001 = ">1M" ∧
    BeginsWithGroup 3 "000".toList :=
  ⟨(labelsCount 1000000).exact (by decide), (labelsCount 1000001).capped (by decide),
    (labelsCount 1000000).grouped.behindComma "1,000".toList "000".toList (by rfl)⟩

end TrackerBoard
