import Mathlib.Data.List.Infix
import TrackerBoard.Text.Occurrence

/-! # Words in joined texts

A word without the separator cannot reach across one, so it stands in texts that are joined exactly
when it stands in one of them (`infix_intercalate_iff`).  The texts themselves may hold separators:
they are not taken apart again.
-/

namespace TrackerBoard

variable {word front back : List Char} {c : Char}

theorem occursIn_eq_true_iff {text : List Char} : occursIn word text = true ↔ word <:+: text := by
  rw [occursIn_iff]
  constructor
  · rintro ⟨front, back, rfl⟩
    exact ⟨front, back, rfl⟩
  · rintro ⟨front, back, rfl⟩
    exact ⟨front, back, rfl⟩

/-- Of a text that starts with the separator only the empty word is a beginning. -/
theorem eq_nil_of_isPrefix_cons (hc : c ∉ word) (h : word <+: c :: back) : word = [] := by
  cases word with
  | nil => rfl
  | cons d word =>
    obtain ⟨rfl, -⟩ := List.cons_prefix_cons.mp h
    exact absurd List.mem_cons_self hc

/-- **A word without the separator stands on one side of it.** -/
theorem infix_append_cons_iff (hc : c ∉ word) :
    word <:+: front ++ c :: back ↔ word <:+: front ∨ word <:+: back := by
  constructor
  · intro h
    rcases List.infix_append_iff.mp h with hfront | hback | ⟨left, right, rfl, hleft, hright⟩
    · exact .inl hfront
    · rcases List.infix_cons_iff.mp hback with hprefix | hback
      · rw [eq_nil_of_isPrefix_cons hc hprefix]
        exact .inl List.nil_infix
      · exact .inr hback
    · -- a word across the border of the front part ends before the separator
      have hnotMem : c ∉ right := fun hmem => hc (List.mem_append_right _ hmem)
      rw [eq_nil_of_isPrefix_cons hnotMem hright, List.append_nil]
      exact .inl hleft.isInfix
  · rintro (hfront | hback)
    · exact hfront.trans (List.prefix_append _ _).isInfix
    · exact hback.trans ((List.suffix_cons c back).trans (List.suffix_append _ _)).isInfix

/-- **A word without the separator stands in the joined texts exactly when it stands in one of
them.** -/
theorem infix_intercalate_iff (hne : word ≠ []) (hc : c ∉ word) (parts : List (List Char)) :
    word <:+: [c].intercalate parts ↔ ∃ part ∈ parts, word <:+: part := by
  induction parts with
  | nil => simpa using hne
  | cons part parts ih =>
    cases parts with
    | nil => simp
    | cons next parts =>
      rw [List.intercalate_cons_cons, List.append_assoc, List.singleton_append,
        infix_append_cons_iff hc, ih]
      exact (List.exists_mem_cons_iff ..).symm

end TrackerBoard
