/-!
# Occurrence of a word in a text

`occursIn word text` decides whether `word` stands somewhere in `text` as it is
(`occursIn_iff`).
-/

namespace TrackerBoard

/-- Whether the characters of `word` stand one after the other in a text. -/
def occursIn (word : List Char) : List Char → Bool
  | [] => word.isEmpty
  | c :: text => word.isPrefixOf (c :: text) || occursIn word text

theorem occursIn_iff {word text : List Char} :
    occursIn word text = true ↔ ∃ front back, text = front ++ word ++ back := by
  induction text with
  | nil =>
    rw [occursIn, List.isEmpty_iff]
    constructor
    · rintro rfl
      exact ⟨[], [], rfl⟩
    · rintro ⟨front, back, h⟩
      simpa using (List.append_eq_nil_iff.1 (List.append_eq_nil_iff.1 h.symm).1).2
  | cons c text ih =>
    rw [occursIn, Bool.or_eq_true, ih, List.isPrefixOf_iff_prefix]
    constructor
    · rintro (⟨back, h⟩ | ⟨front, back, h⟩)
      · exact ⟨[], back, by simp [h]⟩
      · exact ⟨c :: front, back, by simp [h]⟩
    · rintro ⟨front, back, h⟩
      cases front with
      | nil => exact .inl ⟨back, by simpa using h.symm⟩
      | cons d front =>
        rw [List.cons_append, List.cons_append, List.cons.injEq] at h
        exact .inr ⟨front, back, h.2⟩

end TrackerBoard
