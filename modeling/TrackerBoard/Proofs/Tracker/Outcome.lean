import TrackerBoard.Proofs.Tracker.Cadence

/-! # What a cycle of the designator comes to

Nothing of a trace shows before the cycle ends, and nothing of it is left after that.  So the
channels that a cycle ends with are told by the calls since the cycle before (`designated_after`):
all configured ones, or those that were traced, each once and in the order of their first traces.
The first cycle is the one exception.  It starts with all configured channels designated, and so it
locks onto all of them (`tracedChannels_firstCycle`).

Two designators that differ only in what they show end the cycle in the same way
(`SameCycle.designate_eq`), and after the end of a cycle two that have seen as many cycles differ in
nothing else.  Hence no trace counts beyond its cycle (`designate_after_forgets`).
-/

namespace TrackerBoard

/-- The channel that a designator is told of. -/
def DesignatorCall.channel? : DesignatorCall → Option Int64
  | .trace channel => some channel
  | .designate => none

namespace Designator

variable (configured : List Int64) (calls : List DesignatorCall)

/-- The channels that were traced since the last cycle ended, in the order of the traces. -/
def tracedSinceCycle (calls : List DesignatorCall) : List Int64 :=
  (sinceCycle calls).filterMap DesignatorCall.channel?

@[simp] theorem tracedSinceCycle_snoc_trace (channel : Int64) :
    tracedSinceCycle (calls ++ [.trace channel]) = tracedSinceCycle calls ++ [channel] := by
  rw [tracedSinceCycle, sinceCycle_snoc_trace, List.filterMap_append]
  rfl

@[simp] theorem tracedSinceCycle_snoc_designate :
    tracedSinceCycle (calls ++ [.designate]) = [] := by
  rw [tracedSinceCycle, sinceCycle_snoc_designate, List.filterMap_nil]

@[simp] theorem configured_after : (after configured calls).configured = configured := by
  induction calls using List.reverseRecOn with
  | nil => rfl
  | append_singleton calls c ih =>
    rw [after_snoc]
    cases c with
    | trace channel => exact ih
    | designate => exact ih

theorem eraseDups_snoc (channels : List Int64) (channel : Int64) :
    (channels ++ [channel]).eraseDups =
      if channel ∈ channels.eraseDups then channels.eraseDups
      else channels.eraseDups ++ [channel] := by
  rw [List.eraseDups_append]
  by_cases h : channel ∈ channels
  · rw [if_pos (List.mem_eraseDups.mpr h)]
    simp [List.removeAll, h]
  · rw [if_neg fun hmem => h (List.mem_eraseDups.mp hmem)]
    simp [List.removeAll, h, List.eraseDups_cons]

/-- **From the second cycle on the designated channels are those traced in the cycle**, each once,
in the order of their first traces. -/
theorem designated_after (h : 1 < cycleNumber calls) :
    (after configured calls).designated = (tracedSinceCycle calls).eraseDups := by
  induction calls using List.reverseRecOn with
  | nil => exact absurd h (by decide)
  | append_singleton calls c ih =>
    rw [after_snoc]
    cases c with
    | trace channel =>
      rw [cycleNumber_snoc_trace] at h
      rw [tracedSinceCycle_snoc_trace, eraseDups_snoc, ← ih h]
      rfl
    | designate =>
      rw [tracedSinceCycle_snoc_designate]
      rfl

/-- In the first cycle the designated channels are the configured ones, and behind them others that
are not configured. -/
theorem exists_designated_eq_append (h : cycleNumber calls = 1) :
    ∃ others, (after configured calls).designated = configured ++ others ∧
      ∀ channel ∈ others, channel ∉ configured := by
  induction calls using List.reverseRecOn with
  | nil => exact ⟨[], (List.append_nil configured).symm, by simp⟩
  | append_singleton calls c ih =>
    cases c with
    | trace channel =>
      rw [cycleNumber_snoc_trace] at h
      obtain ⟨others, hdesignated, hothers⟩ := ih h
      rw [after_snoc, call, trace, hdesignated]
      by_cases hmem : channel ∈ configured ++ others
      · exact ⟨others, if_pos hmem, hothers⟩
      -- a channel that is new to the list is not configured, since the configured ones are on it
      · refine ⟨others ++ [channel], (if_neg hmem).trans (List.append_assoc ..), ?_⟩
        rw [List.forall_mem_append, List.forall_mem_singleton]
        exact ⟨hothers, fun hconfigured => hmem (List.mem_append_left _ hconfigured)⟩
    | designate =>
      rw [cycleNumber_snoc_designate] at h
      exact absurd (Nat.succ.inj h) (Nat.succ_ne_zero _)

/-- **The first cycle has traced all configured channels**, as often as they are configured. -/
theorem tracedChannels_firstCycle (h : cycleNumber calls = 1) :
    (after configured calls).tracedChannels = configured := by
  obtain ⟨others, hdesignated, hothers⟩ := exists_designated_eq_append configured calls h
  rw [tracedChannels, configured_after, hdesignated, List.filter_append,
    List.filter_eq_self.mpr fun channel hmem => decide_eq_true hmem,
    List.filter_eq_nil_iff.mpr fun channel hmem => by simpa using hothers channel hmem,
    List.append_nil]

/-- Two designators agree in all that counts for the end of the cycle. -/
structure SameCycle (d d' : Designator) : Prop where
  configured : d.configured = d'.configured
  designated : d.designated = d'.designated
  hasContact : d.hasContact = d'.hasContact
  cycles : d.cycles = d'.cycles

section SameCycle
variable {d d' : Designator}

/-- Designators that agree but for what they show end the cycle in the same way. -/
theorem SameCycle.designate_eq (h : SameCycle d d') : d.designate = d'.designate := by
  -- what the one shows is written anew, so the equation holds field by field
  obtain ⟨configured, designated, _, hasContact, _, cycles⟩ := d
  obtain ⟨rfl, rfl, rfl, rfl⟩ := h
  rfl

theorem SameCycle.call (h : SameCycle d d') (c : DesignatorCall) :
    SameCycle (d.call c) (d'.call c) := by
  cases c with
  | trace channel =>
    refine ⟨h.configured, ?_, rfl, h.cycles⟩
    simp only [Designator.call, trace, h.designated]
  | designate =>
    simp only [Designator.call, h.designate_eq]
    exact ⟨rfl, rfl, rfl, rfl⟩

theorem SameCycle.foldl_call (h : SameCycle d d') (calls : List DesignatorCall) :
    SameCycle (calls.foldl Designator.call d) (calls.foldl Designator.call d') := by
  induction calls generalizing d d' with
  | nil => exact h
  | cons c calls ih => exact ih (h.call c)

end SameCycle

/-- The end of a cycle leaves of the traces only what it shows. -/
theorem sameCycle_after {earlier earlier' : List DesignatorCall}
    (h : cycleNumber earlier = cycleNumber earlier') :
    SameCycle (after configured (earlier ++ [.designate]))
      (after configured (earlier' ++ [.designate])) where
  configured := by rw [configured_after, configured_after]
  designated := by rw [after_snoc, after_snoc]; rfl
  hasContact := by rw [after_snoc, after_snoc]; rfl
  cycles := by rw [cycles_after, cycles_after, cycleNumber_snoc_designate,
    cycleNumber_snoc_designate, h]

/-- **A trace does not count beyond the end of its cycle**: all later cycles end the same way
whatever was traced before it, and log the same. -/
theorem designate_after_forgets {earlier earlier' : List DesignatorCall}
    (h : cycleNumber earlier = cycleNumber earlier') (later : List DesignatorCall) :
    (after configured (earlier ++ .designate :: later)).designate =
      (after configured (earlier' ++ .designate :: later)).designate := by
  have hlater := (sameCycle_after configured h).foldl_call later
  rw [after, after, ← List.foldl_append, ← List.foldl_append, List.append_assoc,
    List.append_assoc] at hlater
  exact hlater.designate_eq

/-- The counter stays below the number of the first cycle that can be a sweep. -/
theorem cycles_after_lt : (after configured calls).cycles < sweepBreak := by
  rw [cycles_after]
  unfold counterIn sweepBreak
  split
  all_goals omega

/-- What is shown while some calls are made, and what the end of the cycle then comes to. -/
structure EndsCycle (configured : List Int64) (calls : List DesignatorCall) : Prop where
  /-- A trace shows nothing before the cycle ends. -/
  trace : ∀ channel,
    (after configured (calls ++ [.trace channel])).status = (after configured calls).status ∧
      (after configured (calls ++ [.trace channel])).active = (after configured calls).active
  unlocked : (after configured calls).designate.1.status = .unlocked ↔ ¬ TracedSinceCycle calls
  resumed : (after configured calls).designate.1.status ≠ .locked →
    (after configured calls).designate.1.active = configured
  lockedFirst : cycleNumber calls = 1 →
    (after configured calls).designate.1.status = .locked →
      (after configured calls).designate.1.active = configured
  lockedLater : 1 < cycleNumber calls →
    (after configured calls).designate.1.status = .locked →
      (after configured calls).designate.1.active =
        (tracedSinceCycle calls).eraseDups.filter (· ∈ configured)
  /-- What was traced in earlier cycles makes no difference, not even to what is logged. -/
  forgets : ∀ earlier later, calls = earlier ++ .designate :: later →
    ∀ earlier', cycleNumber earlier' = cycleNumber earlier →
      (after configured (earlier' ++ .designate :: later)).designate =
        (after configured calls).designate
  counter : (after configured calls).cycles < sweepBreak ∧ sweepBreak < UInt16.size

/-- **A cycle ends with the channels that its traces call for**, and with nothing of the cycles
before it. -/
theorem endsCycle_after : EndsCycle configured calls where
  trace channel := by
    rw [after_snoc]
    exact ⟨rfl, rfl⟩
  unlocked := by
    rw [← hasContact_after, Bool.not_eq_true]
    exact verdict_eq_unlocked_iff
  resumed hfree := (if_neg hfree).trans (configured_after configured calls)
  lockedFirst hfirst hlocked := (if_pos hlocked).trans (tracedChannels_firstCycle configured calls hfirst)
  lockedLater hlater hlocked := by
    have hactive : (after configured calls).designate.1.active =
        (after configured calls).tracedChannels := if_pos hlocked
    rw [hactive, tracedChannels, configured_after, designated_after configured calls hlater]
  forgets earlier later hcalls earlier' hcycle := by
    rw [hcalls]
    exact designate_after_forgets configured hcycle later
  counter := ⟨cycles_after_lt configured calls, by decide⟩

/-- A repeated trace and one of an unknown channel are left out; the order is that of the traces. -/
theorem endsCycle_after_repeatedTrace :
    (after [1, 6, 11] [.designate, .trace 6, .trace 14, .trace 1, .trace 6]).designate.1.active =
      [6, 1] := by
  have hlocked := (endsCycle_after [1, 6, 11]
    [.designate, .trace 6, .trace 14, .trace 1, .trace 6]).lockedLater (by decide) (by decide)
  rw [hlocked]
  decide

end Designator

end TrackerBoard
