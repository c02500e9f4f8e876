import TrackerBoard.Chance.Plan

/-! # What a plan yields

For each way to put a plan together, what it can come to when it does not fail, and when it fails
and how.  A plan that is made of these is then opened question by question, and a statement about
its result, or about its failure, holds whatever the answers are.
-/

namespace TrackerBoard.Plan

variable {ε α β : Type}

@[simp] theorem yields_pure_iff {a b : α} :
    (pure a : Plan ε α).Yields (.ok b) ↔ b = a := by
  constructor
  · intro h
    cases h
    rfl
  · rintro rfl
    exact .done b

@[simp] theorem not_yields_fail {e : ε} {b : α} : ¬ (fail e : Plan ε α).Yields (.ok b) := by
  intro h
  cases h

/-- One plan after another comes to what the second makes of what the first comes to. -/
theorem yields_bind_iff {p : Plan ε α} {f : α → Plan ε β} {b : β} :
    (p >>= f).Yields (.ok b) ↔ ∃ a, p.Yields (.ok a) ∧ (f a).Yields (.ok b) := by
  constructor
  · intro h
    induction p with
    | done a => exact ⟨a, .done a, h⟩
    | fail e => cases h
    | ask question next ih =>
      cases h with
      | ask answer h =>
        obtain ⟨a, ha, hb⟩ := ih answer h
        exact ⟨a, .ask answer ha, hb⟩
  · rintro ⟨a, ha, hb⟩
    induction p with
    | done a' =>
      cases ha
      exact hb
    | fail e => cases ha
    | ask question next ih =>
      cases ha with
      | ask answer ha => exact .ask answer (ih answer ha)

/-- A number between two others can be any of them. -/
theorem yields_between_iff {fault : DrawFault → ε} {low high x : Int} :
    (between fault low high).Yields (.ok x) ↔ low ≤ x ∧ x ≤ high := by
  rw [between]
  by_cases hrange : low ≤ high
  · rw [dif_pos hrange]
    constructor
    · intro h
      cases h with
      | ask answer h =>
        cases h
        have hlt := answer.isLt
        omega
    · intro hx
      have hlt : (x - low).toNat < (high - low + 1).toNat := by omega
      have hsum : low + ((x - low).toNat : Int) = x := by omega
      refine .ask ⟨(x - low).toNat, hlt⟩ ?_
      rw [hsum]
      exact .done x
  · rw [dif_neg hrange]
    exact ⟨fun h => absurd h not_yields_fail, fun h => absurd (Int.le_trans h.1 h.2) hrange⟩

/-- What is chosen from a list is one of its elements, and none only from the empty list. -/
theorem yields_choose_iff {as : List α} {a? : Option α} :
    (choose as : Plan ε (Option α)).Yields (.ok a?) ↔
      (as = [] ∧ a? = none) ∨ ∃ a ∈ as, a? = some a := by
  rw [choose]
  by_cases hlength : 0 < as.length
  · rw [dif_pos hlength]
    have hne : as ≠ [] := List.ne_nil_of_length_pos hlength
    constructor
    · intro h
      cases h with
      | ask answer h =>
        cases h
        exact .inr ⟨_, List.getElem_mem _, rfl⟩
    · rintro (⟨hnil, -⟩ | ⟨a, ha, rfl⟩)
      · exact absurd hnil hne
      · obtain ⟨i, hi, rfl⟩ := List.getElem_of_mem ha
        exact .ask ⟨i, hi⟩ (.done _)
  · have hnil : as = [] := List.eq_nil_of_length_eq_zero (Nat.eq_zero_of_not_pos hlength)
    rw [dif_neg hlength, hnil]
    exact (yields_pure_iff (ε := ε)).trans (by simp)

/-! ### When a plan fails -/

@[simp] theorem not_yields_error_pure {a : α} {e : ε} :
    ¬ (pure a : Plan ε α).Yields (.error e) := by
  intro h
  cases h

@[simp] theorem yields_error_fail_iff {e e' : ε} :
    (fail e : Plan ε α).Yields (.error e') ↔ e' = e := by
  constructor
  · intro h
    cases h
    rfl
  · rintro rfl
    exact .fail e'

/-- One plan after another fails when the first does, or when the second fails on something that
the first comes to. -/
theorem yields_error_bind_iff {p : Plan ε α} {f : α → Plan ε β} {e : ε} :
    (p >>= f).Yields (.error e) ↔
      p.Yields (.error e) ∨ ∃ a, p.Yields (.ok a) ∧ (f a).Yields (.error e) := by
  constructor
  · intro h
    induction p with
    | done a => exact .inr ⟨a, .done a, h⟩
    | fail e' =>
      cases h
      exact .inl (.fail e)
    | ask question next ih =>
      cases h with
      | ask answer h =>
        rcases ih answer h with hfirst | ⟨a, ha, hsecond⟩
        · exact .inl (.ask answer hfirst)
        · exact .inr ⟨a, .ask answer ha, hsecond⟩
  · rintro (hfirst | ⟨a, ha, hsecond⟩)
    · induction p with
      | done a => cases hfirst
      | fail e' =>
        cases hfirst
        exact .fail e
      | ask question next ih =>
        cases hfirst with
        | ask answer h => exact .ask answer (ih answer h)
    · induction p with
      | done a' =>
        cases ha
        exact hsecond
      | fail e' => cases ha
      | ask question next ih =>
        cases ha with
        | ask answer h => exact .ask answer (ih answer h)

/-- What is not certain can go either way. -/
theorem yields_chance_iff {fault : DrawFault → ε} {p : Float} {b : Bool} :
    (chance fault p).Yields (.ok b) ↔
      isProbability p = true ∧ ((p == 1) = true → b = true) := by
  unfold chance
  by_cases hp : isProbability p = true
  · rw [if_pos hp, and_iff_right hp]
    by_cases hcertain : (p == 1) = true
    · rw [if_pos hcertain, forall_prop_of_true hcertain]
      exact yields_pure_iff
    · rw [if_neg hcertain]
      exact iff_of_true (.ask b (.done b)) (fun h => absurd h hcertain)
  · rw [if_neg hp]
    exact iff_of_false not_yields_fail (fun h => hp h.1)

/-- Yes or no is drawn unless the double is no probability. -/
theorem yields_error_chance_iff {fault : DrawFault → ε} {p : Float} {e : ε} :
    (chance fault p).Yields (.error e) ↔
      isProbability p = false ∧ e = fault .notAProbability := by
  unfold chance
  by_cases hp : isProbability p = true
  · rw [if_pos hp]
    refine iff_of_false ?_ (fun h => absurd hp (by rw [h.1]; exact Bool.false_ne_true))
    intro h
    split at h
    · cases h
    · cases h with
      | ask answer h => cases h
  · rw [if_neg hp, yields_error_fail_iff, and_iff_right (Bool.eq_false_iff.mpr hp)]

/-- A number between two others is drawn unless they are in the wrong order. -/
theorem yields_error_between_iff {fault : DrawFault → ε} {low high : Int} {e : ε} :
    (between fault low high).Yields (.error e) ↔ high < low ∧ e = fault .emptyRange := by
  unfold between
  by_cases hrange : low ≤ high
  · rw [dif_pos hrange]
    refine iff_of_false ?_ (fun h => absurd hrange (Int.not_le.mpr h.1))
    intro h
    cases h with
    | ask answer h => cases h
  · rw [dif_neg hrange, yields_error_fail_iff, and_iff_right (Int.not_le.mp hrange)]

theorem not_yields_error_choose {as : List α} {e : ε} :
    ¬ (choose as : Plan ε (Option α)).Yields (.error e) := by
  unfold choose
  intro h
  split at h
  · cases h with
    | ask answer h => cases h
  · cases h

theorem not_yields_error_word {e : ε} : ¬ (word : Plan ε UInt32).Yields (.error e) := by
  intro h
  cases h with
  | ask answer h => cases h

end TrackerBoard.Plan
