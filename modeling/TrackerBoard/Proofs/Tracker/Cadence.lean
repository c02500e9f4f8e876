import Mathlib.Data.List.Induction
import TrackerBoard.Tracker.Designator

/-! # When the designator sweeps

A designator is told of traces and of ends of cycles, in any order.  Two things about it decide
whether the next cycle ends in a sweep: whether a bandit was traced in that cycle, which is read
off the calls since the last end of a cycle (`hasContact_after`), and the counter, which is read
off the number of cycles alone (`cycles_after`).

The counter is put back to zero before it is raised, so it stands at one after the cycle that
could be a sweep.  The first such cycle is the fifth, and every fourth follows (`sweeps_iff`): the
distance between two sweeps is one less than `sweepBreak` (`not_every_fifth_cycle_sweeps`).
-/

namespace TrackerBoard

/-- What a designator is told. -/
inductive DesignatorCall where
  | trace (channel : Int64)
  | designate
deriving DecidableEq

namespace Designator

/-- The designator after a call. -/
def call (d : Designator) : DesignatorCall → Designator
  | .trace channel => d.trace channel
  | .designate => d.designate.1

/-- A new designator after some calls. -/
def after (configured : List Int64) (calls : List DesignatorCall) : Designator :=
  calls.foldl call (new configured)

/-- The number of the cycle that has not ended yet, counted from one. -/
def cycleNumber (calls : List DesignatorCall) : Nat := calls.count .designate + 1

/-- The calls since the last cycle ended. -/
def sinceCycle (calls : List DesignatorCall) : List DesignatorCall :=
  (calls.reverse.takeWhile (· ≠ .designate)).reverse

/-- A bandit was traced since the last cycle ended. -/
def TracedSinceCycle (calls : List DesignatorCall) : Prop :=
  ∃ channel, .trace channel ∈ sinceCycle calls

variable (configured : List Int64) (calls : List DesignatorCall)

theorem after_snoc (c : DesignatorCall) :
    after configured (calls ++ [c]) = (after configured calls).call c := by
  rw [after, List.foldl_append]
  rfl

@[simp] theorem cycleNumber_nil : cycleNumber [] = 1 := rfl

@[simp] theorem cycleNumber_snoc_trace (channel : Int64) :
    cycleNumber (calls ++ [.trace channel]) = cycleNumber calls := by
  simp [cycleNumber]

@[simp] theorem cycleNumber_snoc_designate :
    cycleNumber (calls ++ [.designate]) = cycleNumber calls + 1 := by
  simp [cycleNumber]

@[simp] theorem sinceCycle_snoc_trace (channel : Int64) :
    sinceCycle (calls ++ [.trace channel]) = sinceCycle calls ++ [.trace channel] := by
  simp [sinceCycle]

@[simp] theorem sinceCycle_snoc_designate : sinceCycle (calls ++ [.designate]) = [] := by
  simp [sinceCycle]

/-- A designator has a contact when a bandit was traced since the last cycle ended. -/
theorem hasContact_after :
    (after configured calls).hasContact = true ↔ TracedSinceCycle calls := by
  rw [TracedSinceCycle]
  induction calls using List.reverseRecOn with
  | nil => simp [after, new, sinceCycle]
  | append_singleton calls c _ =>
    rw [after_snoc]
    cases c with
    | trace channel => simp [call, trace]
    | designate => simp [call, designate]

/-- The counter of a designator in its cycle of some number: from the second cycle on it runs from
one to four and starts again. -/
def counterIn : Nat → Nat
  | 0 => 0
  | 1 => 0
  | cycle + 2 => cycle % (sweepBreak - 1) + 1

/-- One end of a cycle takes the counter to that of the next cycle. -/
theorem counterIn_succ (cycle : Nat) (h : 0 < cycle) :
    (if counterIn cycle = sweepBreak - 1 then 0 else counterIn cycle) + 1 =
      counterIn (cycle + 1) := by
  match cycle, h with
  | 1, _ => rfl
  | cycle + 2, _ =>
    by_cases hlast : counterIn (cycle + 2) = sweepBreak - 1
    · rw [if_pos hlast]
      simp only [counterIn, sweepBreak] at hlast ⊢
      omega
    · rw [if_neg hlast]
      simp only [counterIn, sweepBreak] at hlast ⊢
      omega

/-- **The counter depends on the number of the cycle alone.** -/
theorem cycles_after : (after configured calls).cycles = counterIn (cycleNumber calls) := by
  induction calls using List.reverseRecOn with
  | nil => rfl
  | append_singleton calls c ih =>
    rw [after_snoc]
    cases c with
    | trace channel =>
      rw [cycleNumber_snoc_trace, ← ih]
      rfl
    | designate =>
      rw [cycleNumber_snoc_designate, ← counterIn_succ (cycleNumber calls) (Nat.succ_pos _), ← ih]
      rfl

/-- The counter stands before a sweep in the fifth cycle and in every fourth after it. -/
theorem counterIn_eq_iff {cycle : Nat} :
    counterIn cycle = sweepBreak - 1 ↔ sweepBreak ≤ cycle ∧ cycle % (sweepBreak - 1) = 1 := by
  match cycle with
  | 0 => decide
  | 1 => decide
  | cycle + 2 =>
    simp only [counterIn, sweepBreak]
    omega

/-- A cycle takes all channels again when it had no contact. -/
theorem verdict_eq_unlocked_iff {d : Designator} : d.verdict = .unlocked ↔ d.hasContact = false := by
  rw [verdict]
  by_cases hcontact : d.hasContact = true
  · rw [if_neg (not_not.mpr hcontact), hcontact]
    refine iff_of_false ?_ Bool.false_ne_true.symm
    split <;> exact nofun
  · rw [if_pos hcontact]
    exact iff_of_true rfl (Bool.eq_false_iff.mpr hcontact)

/-- The end of a cycle is a sweep when the counter says so and a bandit was traced. -/
theorem status_designate_eq_sweeping (d : Designator) :
    d.designate.1.status = .sweeping ↔ d.cycles = sweepBreak - 1 ∧ d.hasContact = true := by
  simp only [designate, verdict]
  split
  · next h => simp_all
  split
  · next h => simp_all
  · next h => simp_all

/-- **A cycle ends in a sweep exactly when a bandit was traced in it and it is the fifth, the
ninth, the thirteenth, and so on.** -/
theorem sweeps_iff :
    (after configured calls).designate.1.status = .sweeping ↔
      sweepBreak ≤ cycleNumber calls ∧ cycleNumber calls % (sweepBreak - 1) = 1 ∧
        TracedSinceCycle calls := by
  rw [status_designate_eq_sweeping, cycles_after, counterIn_eq_iff, hasContact_after, and_assoc]

/-- It is not every fifth cycle that can be a sweep: the ninth can, after eight cycles without a
trace. -/
theorem not_every_fifth_cycle_sweeps :
    ¬ ∀ (configured : List Int64) (calls : List DesignatorCall),
      (after configured calls).designate.1.status = .sweeping ↔
        sweepBreak ∣ cycleNumber calls ∧ TracedSinceCycle calls := by
  intro h
  have hninth := (h [1, 6] (List.replicate 8 .designate ++ [.trace 6])).mp (by decide)
  exact absurd hninth.1 (by decide)

end Designator

end TrackerBoard
