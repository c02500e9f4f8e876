import Mathlib.Data.List.DropRight
import Mathlib.Data.List.Induction
import TrackerBoard.Poll.History

/-! # What a history holds

A history is the end of the list of all samples that were ever added, and its revision is the
length of that list (`ofSamples_eq`).  Whatever calls added them, all that is seen of it follows from
that list alone (`keepsLast_after`).
-/

namespace TrackerBoard

section
variable {α : Type}

theorem rtake_eq_nil_iff {as : List α} {n : Nat} (h : 0 < n) : as.rtake n = [] ↔ as = [] := by
  rw [List.rtake, List.drop_eq_nil_iff, ← List.length_eq_zero_iff]
  omega

theorem getLast?_rtake {n : Nat} (h : 0 < n) (as : List α) :
    (as.rtake n).getLast? = as.getLast? := by
  rw [List.rtake, List.getLast?_drop]
  by_cases hnil : as = []
  · rw [hnil]
    rfl
  · have hpos := List.length_pos_iff.mpr hnil
    rw [if_neg (by omega)]

/-- The end of a list, kept up to a capacity while the list grows. -/
theorem pushBounded_rtake {capacity : Nat} (positive : 0 < capacity) (as : List α) (a : α) :
    pushBounded capacity (as.rtake capacity) a = (as ++ [a]).rtake capacity := by
  have hlength : (as.rtake capacity).length = min capacity as.length := by
    rw [List.rtake, List.length_drop]
    omega
  rw [pushBounded, hlength]
  by_cases hfull : capacity ≤ as.length
  · -- a full list loses the first of the elements it holds
    rw [if_pos (Nat.min_eq_left hfull), List.rtake, List.rtake, List.tail_drop,
      List.length_append, List.length_singleton,
      List.drop_append_of_le_length (by omega : as.length + 1 - capacity ≤ as.length),
      Nat.sub_add_comm hfull]
  · have hall : as.length + 1 - capacity = 0 := by omega
    rw [if_neg (by omega), List.rtake, List.rtake, List.length_append, List.length_singleton, hall,
      Nat.sub_eq_zero_of_le (by omega), List.drop_zero, List.drop_zero]

end

/-- A call that adds a sample to a history. -/
inductive HistoryCall where
  | push (dbm : Int64)
  | pushSignal (dbm : Option Int64)

/-- The sample that a call adds; a missing signal is one of -100 dBm. -/
def HistoryCall.sample : HistoryCall → Int64
  | push dbm => dbm
  | pushSignal dbm => dbm.getD (-100)

namespace History

/-- A new history after some samples. -/
def ofSamples (capacity : Nat) (samples : List Int64) : History :=
  samples.foldl push (withCapacity capacity)

theorem ofSamples_snoc (capacity : Nat) (samples : List Int64) (dbm : Int64) :
    ofSamples capacity (samples ++ [dbm]) = (ofSamples capacity samples).push dbm := by
  rw [ofSamples, List.foldl_append]
  rfl

/-- **A history holds the last samples that were added, and has counted all of them.** -/
theorem ofSamples_eq (capacity : Nat) (samples : List Int64) :
    ofSamples capacity samples =
      ⟨samples.rtake (max capacity 1), max capacity 1, samples.length⟩ := by
  induction samples using List.reverseRecOn with
  | nil => simp [ofSamples, withCapacity]
  | append_singleton samples dbm ih =>
    have hpositive : 0 < max capacity 1 := by omega
    rw [ofSamples_snoc, ih, push, pushBounded_rtake hpositive, List.length_append]
    rfl

/-- The history after a call. -/
def call (h : History) : HistoryCall → History
  | .push dbm => h.push dbm
  | .pushSignal dbm => h.pushSignal dbm

theorem call_eq (h : History) (c : HistoryCall) : h.call c = h.push c.sample := by
  cases c with
  | push dbm => rfl
  | pushSignal dbm => rfl

/-- A new history after some calls. -/
def after (capacity : Nat) (calls : List HistoryCall) : History :=
  calls.foldl call (withCapacity capacity)

/-- Of the calls only their samples count. -/
theorem after_eq (capacity : Nat) (calls : List HistoryCall) :
    after capacity calls = ofSamples capacity (calls.map HistoryCall.sample) := by
  rw [after, ofSamples, List.foldl_map, funext₂ call_eq]

/-- What is seen of a history is the end of the samples that were added. -/
structure KeepsLast (capacity : Nat) (added : List Int64) (h : History) : Prop where
  /-- Oldest first, and one at least. -/
  samples : h.samples = added.rtake (max capacity 1)
  size : h.size = min added.length (max capacity 1)
  latest : h.latest? = added.getLast?
  isEmpty : h.isEmpty = true ↔ added = []
  revision : h.revision = added.length

/-- The revision of a history is the number of calls. -/
theorem revision_after (capacity : Nat) (calls : List HistoryCall) :
    (after capacity calls).revision = calls.length := by
  rw [after_eq, ofSamples_eq, List.length_map]

/-- **A history holds the last samples that any calls added**, and its revision tells any two points
of a run apart. -/
theorem keepsLast_after (capacity : Nat) (calls : List HistoryCall) :
    KeepsLast capacity (calls.map HistoryCall.sample) (after capacity calls) ∧
      ∀ i j, i < j → j ≤ calls.length →
        (after capacity (calls.take i)).revision ≠ (after capacity (calls.take j)).revision := by
  have hpositive : 0 < max capacity 1 := by omega
  refine ⟨?_, ?_⟩
  · rw [after_eq, ofSamples_eq]
    exact
      { samples := rfl
        size := by
          rw [size, List.rtake, List.length_drop]
          omega
        latest := getLast?_rtake hpositive _
        isEmpty := by rw [isEmpty, List.isEmpty_iff, rtake_eq_nil_iff hpositive]
        revision := rfl }
  · intro i j hlt hle
    rw [revision_after, revision_after, List.length_take_of_le hle,
      List.length_take_of_le (by omega)]
    exact Nat.ne_of_lt hlt

/-- A history of no capacity holds one sample all the same. -/
theorem keepsLast_after_missing :
    (after 0 [.push (-55), .pushSignal none]).samples = [-100] ∧
      (after 0 [.push (-55)]).revision ≠ (after 0 [.push (-55), .pushSignal none]).revision :=
  ⟨(keepsLast_after 0 [.push (-55), .pushSignal none]).1.samples,
    (keepsLast_after 0 [.push (-55), .pushSignal none]).2 1 2 (by decide) (by decide)⟩

end History

end TrackerBoard
