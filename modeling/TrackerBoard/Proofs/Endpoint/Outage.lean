import Mathlib.Data.List.DropRight
import Mathlib.Data.Nat.Periodic
import TrackerBoard.Endpoint.Outage

/-! # The share of steps that are down

Counted from zero, a step is down when its place in the period is not before the first place that
is (`isDownIn_succ_iff`).  This depends on the place alone, so every window as long as a period has
as many steps that are down as the first period has, wherever the window starts.  In a period these
are its last steps, as many as the schedule says, and all of them if it says more
(`filter_isDownIn_period`).

Words have differences and remainders of any two words, but these mean something only for a larger
and a smaller word, and for a divisor other than zero.  `isDown?` asks for no others, whatever
schedule is made, though a schedule can be written down for which it does.
-/

namespace TrackerBoard

/-- The elements of a range from the `k`-th on are the range without its first `k`. -/
theorem filter_le_range' {start size k : Nat} (h : k ≤ size) :
    (List.range' start size).filter (start + k ≤ ·) = (List.range' start size).drop k := by
  have hsplit : List.range' start k ++ List.range' (start + k) (size - k) =
      List.range' start size := by
    have happend := @List.range'_append start k (size - k) 1
    rwa [Nat.one_mul, Nat.add_sub_cancel' h] at happend
  rw [← hsplit, List.filter_append]
  have hfront : (List.range' start k).filter (start + k ≤ ·) = [] := by
    rw [List.filter_eq_nil_iff]
    intro i hi
    have hlt := (List.mem_range'_1.mp hi).2
    simp only [decide_eq_true_eq]
    omega
  have hback : (List.range' (start + k) (size - k)).filter (start + k ≤ ·) =
      List.range' (start + k) (size - k) := by
    rw [List.filter_eq_self]
    intro i hi
    exact decide_eq_true (List.mem_range'_1.mp hi).1
  rw [hfront, hback, List.nil_append, List.drop_left' List.length_range']

/-- All windows as long as a period count the same. -/
theorem countP_range'_of_periodic {period : Nat} {p : Nat → Bool} (hp : Function.Periodic p period)
    (start : Nat) : (List.range' start period).countP p = (List.range period).countP p := by
  have hcount := Nat.filter_multiset_Ico_card_eq_of_periodic start period (p · = true)
    (hp.comp (· = true))
  have hwindow : Multiset.Ico start (start + period) =
      (List.range' start period : Multiset Nat) := by
    show ((List.range' start (start + period - start) : List Nat) : Multiset Nat) = _
    rw [Nat.add_sub_cancel_left]
  rw [hwindow, ← Multiset.countP_eq_card_filter, Multiset.coe_countP, Nat.count] at hcount
  simpa using hcount

namespace OutageSchedule

/-- Whether the endpoint is down in a round; rounds are counted from one. -/
def isDownIn (s : OutageSchedule) (number : Nat) : Bool :=
  s.isDown number.toUInt64

/-- The difference of two words, if the first is not smaller. -/
def difference? (a b : UInt64) : Option UInt64 := if b ≤ a then some (a - b) else none

/-- The remainder of a division, unless it is by zero. -/
def remainder? (a b : UInt64) : Option UInt64 := if b = 0 then none else some (a % b)

/-- The first step of a period that is down, unless telling it takes a difference below zero. -/
def firstDown? (every length : UInt64) : Option UInt64 :=
  if length ≤ every then difference? every length else some 0

/-- Whether the endpoint is down at a step, unless telling it takes a difference below zero or a
division by zero. -/
def isDown? (s : OutageSchedule) (step : UInt64) : Option Bool :=
  match s.every with
  | some every =>
    if 0 < step then do
      let first ← firstDown? every s.length
      let place ← remainder? (← difference? step 1) every
      return first ≤ place
    else return false
  | none => return false

variable {period length : UInt64}

theorem new_some (h : 0 < period) : new (some period) length = ⟨some period, length⟩ := by
  rw [new, Option.filter_some, if_pos (decide_eq_true h)]

/-- A schedule without a period, or with one of no steps, is never down. -/
theorem isDown_new_eq_false {every : Option UInt64} (h : every = none ∨ every = some 0)
    (step : UInt64) : (new every length).isDown step = false := by
  rcases h with rfl | rfl
  · rfl
  · rfl

theorem firstDown?_eq (every length : UInt64) :
    firstDown? every length = some (firstDown every length) := by
  rw [firstDown?, firstDown, difference?]
  split
  · rfl
  · rfl

/-- Every difference and every remainder that is asked for is there. -/
theorem isDown?_new (every : Option UInt64) (length step : UInt64) :
    (new every length).isDown? step = some ((new every length).isDown step) := by
  rcases every with _ | period
  · rfl
  by_cases hperiod : 0 < period
  · rw [new_some hperiod, isDown?, isDown]
    by_cases hstep : 0 < step
    · have hone : 1 ≤ step := by
        rw [UInt64.le_iff_toNat_le]
        exact UInt64.lt_iff_toNat_lt.mp hstep
      have hdifference : difference? step 1 = some (step - 1) := if_pos hone
      have hremainder : remainder? (step - 1) period = some ((step - 1) % period) := by
        rw [remainder?, if_neg]
        rintro rfl
        exact absurd hperiod (by decide)
      simp [hstep, firstDown?_eq, hdifference, hremainder]
    · simp [hstep]
  · have hzero : period = 0 := by
      rwa [UInt64.not_lt, UInt64.le_zero_iff] at hperiod
    subst hzero
    rfl

/-- A schedule that is written down, and not made, can divide by its period of no steps. -/
example : isDown? ⟨some 0, 1⟩ 1 = none := by decide

theorem toNat_firstDown (period length : UInt64) :
    (firstDown period length).toNat = period.toNat - length.toNat := by
  rw [firstDown]
  by_cases h : length ≤ period
  · rw [if_pos h, UInt64.toNat_sub_of_le _ _ h]
  · rw [if_neg h]
    rw [UInt64.le_iff_toNat_le] at h
    show 0 = _
    omega

/-- Whether a step is down depends on its place in the period alone. -/
theorem isDownIn_succ_iff (hperiod : 0 < period) {place : Nat} (hword : place + 1 < UInt64.size) :
    (new (some period) length).isDownIn (place + 1) = true ↔
      period.toNat - length.toNat ≤ place % period.toNat := by
  have hstep : (place + 1).toUInt64.toNat = place + 1 := UInt64.toNat_ofNat_of_lt' hword
  have hone : (1 : UInt64) ≤ (place + 1).toUInt64 := by
    rw [UInt64.le_iff_toNat_le, hstep]
    exact Nat.succ_pos place
  have hplace : ((place + 1).toUInt64 - 1).toNat = place := by
    rw [UInt64.toNat_sub_of_le _ _ hone, hstep]
    rfl
  have hpos : 0 < (place + 1).toUInt64 := by
    rw [UInt64.lt_iff_toNat_lt, hstep]
    exact Nat.succ_pos place
  rw [new_some hperiod, isDownIn, isDown, decide_eq_true_iff, and_iff_right hpos,
    UInt64.le_iff_toNat_le, toNat_firstDown, UInt64.toNat_mod, hplace]

/-- In a period the last steps are down, and as many as the schedule says. -/
theorem filter_isDownIn_period (hperiod : 0 < period) {start : Nat}
    (hstart : start % period.toNat = 0) (hword : start + period.toNat < UInt64.size) :
    (List.range' (start + 1) period.toNat).filter (new (some period) length).isDownIn =
      (List.range' (start + 1) period.toNat).rtake (min length.toNat period.toNat) := by
  have hdown : ∀ step ∈ List.range' (start + 1) period.toNat,
      (new (some period) length).isDownIn step =
        decide (start + 1 + (period.toNat - length.toNat) ≤ step) := by
    intro step hstep
    obtain ⟨hge, hlt⟩ := List.mem_range'_1.mp hstep
    obtain ⟨place, rfl⟩ : ∃ place, step = start + place + 1 := ⟨step - start - 1, by omega⟩
    have hplace : (start + place) % period.toNat = place := by
      rw [Nat.add_mod, hstart, Nat.zero_add, Nat.mod_mod, Nat.mod_eq_of_lt (by omega)]
    rw [Bool.eq_iff_iff, isDownIn_succ_iff hperiod (by omega), hplace, decide_eq_true_iff]
    omega
  rw [List.filter_congr hdown, filter_le_range' (Nat.sub_le _ _), List.rtake, List.length_range']
  congr 1
  omega

/-- In a window as long as a period as many steps are down as in a period. -/
theorem countP_isDownIn_window (hperiod : 0 < period) {first : Nat}
    (hword : first + period.toNat < UInt64.size) :
    (List.range' (first + 1) period.toNat).countP (new (some period) length).isDownIn =
      min length.toNat period.toNat := by
  -- the schedule itself has a period only as far as there are words, its rule has it everywhere
  let isDownAt (place : Nat) : Bool := period.toNat - length.toNat ≤ place % period.toNat
  have hperiodic : Function.Periodic isDownAt period.toNat := by
    intro place
    simp only [isDownAt, Nat.add_mod_right]
  have hwindow (first : Nat) (hword : first + period.toNat < UInt64.size) :
      (List.range' (first + 1) period.toNat).countP (new (some period) length).isDownIn =
        (List.range period.toNat).countP isDownAt := by
    rw [← countP_range'_of_periodic hperiodic first, Nat.add_comm first 1,
      ← List.map_add_range', List.countP_map]
    apply List.countP_congr
    intro place hplace
    have hlt := (List.mem_range'_1.mp hplace).2
    rw [Function.comp_apply, Nat.add_comm 1 place, isDownIn_succ_iff hperiod (by omega)]
    exact decide_eq_true_iff.symm
  have hsmall : 0 + period.toNat < UInt64.size := by
    rw [Nat.zero_add]
    exact period.toNat_lt
  rw [hwindow first hword, ← hwindow 0 hsmall, List.countP_eq_length_filter,
    filter_isDownIn_period hperiod (Nat.zero_mod _) hsmall, List.rtake, List.length_drop,
    List.length_range']
  omega

/-- What is known of a schedule that is made of a period, if there is one, and a number of
steps. -/
structure TakesShare (every : Option UInt64) (length : UInt64) (s : OutageSchedule) : Prop where
  /-- Of as many steps in a row as the period has, wherever they start, this many are down. -/
  share : ∀ period, every = some period → 0 < period → ∀ start, 0 < start →
    start + period.toNat ≤ UInt64.size →
      (List.range' start period.toNat).countP s.isDownIn = min length.toNat period.toNat
  /-- In a period these are the last ones. -/
  tail : ∀ period, every = some period → 0 < period → ∀ j,
    period.toNat * (j + 1) < UInt64.size →
      (List.range' (period.toNat * j + 1) period.toNat).filter s.isDownIn =
        (List.range' (period.toNat * j + 1) period.toNat).rtake (min length.toNat period.toNat)
  never : every = none ∨ every = some 0 → ∀ step, s.isDown step = false
  /-- No difference is below zero, and no division is by zero. -/
  defined : ∀ step, s.isDown? step = some (s.isDown step)

/-- **A schedule takes its share of every period, at the period's end**, and of every window that
is as long. -/
theorem takesShare_new (every : Option UInt64) (length : UInt64) :
    TakesShare every length (new every length) := by
  constructor
  case share =>
    rintro period rfl hperiod start hstart hword
    obtain ⟨first, rfl⟩ : ∃ first, start = first + 1 := ⟨start - 1, by omega⟩
    exact countP_isDownIn_window hperiod (by omega)
  case tail =>
    rintro period rfl hperiod j hword
    exact filter_isDownIn_period hperiod (Nat.mul_mod_right _ _) hword
  case never => exact isDown_new_eq_false
  case defined => exact isDown?_new every length

/-- Two of five steps are down, also in a window across two periods. -/
theorem takesShare_new_across :
    TakesShare (some 5) 2 (new (some 5) 2) ∧
      (List.range' 8 5).filter (new (some 5) 2).isDownIn = [9, 10] ∧
      (List.range' 10 5).filter (new (some 5) 2).isDownIn = [10, 14] :=
  ⟨takesShare_new (some 5) 2, by decide, by decide⟩

end OutageSchedule

end TrackerBoard
