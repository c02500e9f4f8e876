import TrackerBoard.Proofs.Simulation.Channels
import TrackerBoard.Proofs.Simulation.Link
import TrackerBoard.Proofs.Simulation.Tracking
import TrackerBoard.Proofs.Tracker.Verdict

/-! # Steps that cannot be made

A scenario that is not refused has probabilities, so every question of a step can be asked, and on
each part of a step it is shown whether the part can fail.  The one that can is the ping: the drift
of the signal strength is not bounded by the scenario's check, and the strength after the drift need
not be a word (`yields_error_receivePing_iff`).  This is the only way in which a step of a run fails
(`Run.faults`), and it does come up (`exists_overflow`), but not if the drift leaves room for the
strength (`Run.length_drawn`).
-/

namespace TrackerBoard

/-- Everything that a scenario says of chances is a probability. -/
structure Scenario.HasProbabilities (scenario : Scenario) : Prop where
  pingLoss : isProbability scenario.pingLossProbability = true
  outOfSync : isProbability scenario.outOfSyncProbability = true
  trackRequest : isProbability scenario.trackRequestProbability = true
  trackCancel : isProbability scenario.trackCancelProbability = true
  contact : isProbability scenario.contactProbability = true
  monitorFailure : isProbability scenario.monitorFailureProbability = true
  deviceFailure : isProbability scenario.deviceFailureProbability = true

/-- A scenario that is not refused has probabilities. -/
theorem Scenario.hasProbabilities_of_validate {scenario : Scenario}
    (h : scenario.validate = .ok ()) : scenario.HasProbabilities := by
  have hall : ∀ entry ∈ scenario.probabilities, isProbability entry.2 = true := by
    intro entry hentry
    unfold validate at h
    split at h
    · cases h
    case h_2 hnone => simpa using List.find?_eq_none.mp hnone entry hentry
  simp only [probabilities, List.forall_mem_cons] at hall
  obtain ⟨hloss, hsync, hrequest, hcancel, hcontact, hmonitor, hdevice, -⟩ := hall
  exact ⟨hloss, hsync, hrequest, hcancel, hcontact, hmonitor, hdevice⟩

namespace Designator

/-- Ending a cycle keeps the number of cycles below that of a sweep. -/
theorem cycles_designate {d : Designator} (h : d.cycles < sweepBreak) :
    d.designate.1.cycles < sweepBreak := by
  show (if d.cycles = sweepBreak - 1 then 0 else d.cycles) + 1 < sweepBreak
  have hbreak : sweepBreak = 5 := rfl
  split <;> omega

end Designator

/-- A move in which the bandit is heard is a contact. -/
theorem Session.Moves.isHeard {scenario : Scenario} {now : Instant} {s s' : Session}
    {recorded : List TrackerEvent} {heard : Bool} (h : s.Moves scenario now s' recorded heard)
    (hheard : heard = true) : s.data.IsHeard scenario now s'.data := by
  have htracking : s'.data.isTracking = true := by
    obtain ⟨-, hhears, -⟩ := h
    subst hheard
    cases hhears <;> rfl
  rcases h.advances htracking with ⟨hsilence, -⟩ | ⟨-, hcontact⟩
  · exact absurd (hsilence.symm.trans hheard) Bool.false_ne_true
  · exact hcontact

namespace SimulatedTracker

variable {t : SimulatedTracker} {now : Instant} {scenario : Scenario} {run : List MadeStep}
  {e : StepFault}

theorem not_yields_error_chance {p : Float} (hp : isProbability p = true) :
    ¬ (chance p).Yields (.error e) := by
  intro h
  have hnot := (Plan.yields_error_chance_iff.mp h).1
  exact Bool.false_ne_true (hnot.symm.trans hp)

theorem not_yields_error_between {low high : Int} (h : low ≤ high) :
    ¬ (between low high).Yields (.error e) := by
  intro herror
  have hempty := (Plan.yields_error_between_iff.mp herror).1
  omega

theorem yields_error_drifted_iff {rssi : Int64} {drift : Int} :
    (drifted rssi drift).Yields (.error e) ↔
      e = .rssiOverflow ∧ signedWord? (rssi.toInt + drift) = none := by
  unfold drifted
  cases signedWord? (rssi.toInt + drift) with
  | none => simp
  | some x => exact iff_of_false Plan.not_yields_error_pure (fun h => Option.some_ne_none x h.2)

/-- The strength can drift beyond the largest word, unless every ping is lost. -/
def CanOverflow (t : SimulatedTracker) : Prop :=
  (t.scenario.pingLossProbability == 1) = false ∧
    Int64.maxValue.toInt < t.leaderRssi.toInt + t.scenario.leaderRssiDrift.toInt

/-- Some drift of the strength is too large exactly if the largest one is. -/
theorem exists_overflow_iff (hrssi : IsStrength t.leaderRssi) :
    (∃ drift : Int, (-(max t.scenario.leaderRssiDrift.toInt 0) ≤ drift ∧
        drift ≤ max t.scenario.leaderRssiDrift.toInt 0) ∧
      signedWord? (t.leaderRssi.toInt + drift) = none) ↔
    Int64.maxValue.toInt < t.leaderRssi.toInt + t.scenario.leaderRssiDrift.toInt := by
  obtain ⟨hnonneg, hle⟩ := hrssi
  have hmin : Int64.minValue.toInt = -9223372036854775808 := by decide
  have hmax : Int64.maxValue.toInt = 9223372036854775807 := by decide
  have hdrift : t.scenario.leaderRssiDrift.toInt ≤ Int64.maxValue.toInt :=
    Int64.toInt_le t.scenario.leaderRssiDrift
  constructor
  · rintro ⟨drift, ⟨hlow, hhigh⟩, hoverflow⟩
    rw [signedWord?_eq_none_iff] at hoverflow
    omega
  · intro hoverflow
    refine ⟨t.scenario.leaderRssiDrift.toInt, by omega, ?_⟩
    rw [signedWord?_eq_none_iff]
    exact .inr hoverflow

/-- A ping fails when the strength drifts too far. -/
theorem yields_error_receivePing_iff (hvalid : t.scenario.validate = .ok ())
    (hrssi : IsStrength t.leaderRssi) :
    (t.receivePing now).Yields (.error e) ↔ e = .rssiOverflow ∧ t.CanOverflow := by
  have hprobabilities := Scenario.hasProbabilities_of_validate hvalid
  rw [receivePing, Plan.yields_error_bind_iff,
    or_iff_right (not_yields_error_chance hprobabilities.pingLoss), CanOverflow, ← exists_overflow_iff hrssi]
  constructor
  · rintro ⟨isLost, hlost, h⟩
    cases isLost with
    | true => exact absurd h Plan.not_yields_error_pure
    | false =>
      have huncertain : ¬ (t.scenario.pingLossProbability == 1) = true := fun hcertain =>
        Bool.false_ne_true ((Plan.yields_chance_iff.mp hlost).2 hcertain)
      rcases Plan.yields_error_bind_iff.mp h with hempty | ⟨drift, hdrift, h⟩
      · exact absurd hempty (not_yields_error_between (by omega))
      have hrange := Plan.yields_between_iff.mp hdrift
      rcases Plan.yields_error_bind_iff.mp h with hoverflow | ⟨rssi, -, h⟩
      · obtain ⟨rfl, hnone⟩ := yields_error_drifted_iff.mp hoverflow
        exact ⟨rfl, Bool.eq_false_iff.mpr huncertain, drift, hrange, hnone⟩
      rcases Plan.yields_error_bind_iff.mp h with hnot | ⟨isStale, -, h⟩
      · exact absurd hnot (not_yields_error_chance hprobabilities.outOfSync)
      · exact absurd h Plan.not_yields_error_pure
  · rintro ⟨rfl, huncertain, drift, hrange, hnone⟩
    refine ⟨false, Plan.yields_chance_iff.mpr ⟨hprobabilities.pingLoss, ?_⟩, ?_⟩
    · intro hcertain
      exact absurd hcertain (Bool.eq_false_iff.mp huncertain)
    · apply Plan.yields_error_bind_iff.mpr
      refine .inr ⟨drift, Plan.yields_between_iff.mpr hrange, ?_⟩
      apply Plan.yields_error_bind_iff.mpr
      exact .inl (yields_error_drifted_iff.mpr ⟨rfl, hnone⟩)

/-- A request is always drawn. -/
theorem not_yields_error_handleRequests (hvalid : t.scenario.validate = .ok ()) :
    ¬ (t.handleRequests now).Yields (.error e) := by
  have hprobabilities := Scenario.hasProbabilities_of_validate hvalid
  intro h
  unfold handleRequests at h
  split at h
  · rcases Plan.yields_error_bind_iff.mp h with hnot | ⟨isCanceled, -, h⟩
    · exact not_yields_error_chance hprobabilities.trackCancel hnot
    · cases isCanceled <;> exact Plan.not_yields_error_pure h
  · rcases Plan.yields_error_bind_iff.mp h with hnot | ⟨isRequested, -, h⟩
    · exact not_yields_error_chance hprobabilities.trackRequest hnot
    · cases isRequested <;> exact Plan.not_yields_error_pure h

theorem not_yields_error_traceBandit : ¬ t.traceBandit.Yields (.error e) := by
  intro h
  rw [traceBandit] at h
  rcases Plan.yields_error_bind_iff.mp h with hnot | ⟨channel?, -, h⟩
  · exact Plan.not_yields_error_choose hnot
  · cases channel? <;> exact Plan.not_yields_error_pure h

theorem not_yields_error_openTrack : ¬ (t.openTrack now).Yields (.error e) := by
  intro h
  unfold openTrack at h
  split at h
  · rcases Plan.yields_error_bind_iff.mp h with hnot | ⟨word, -, h⟩
    · exact Plan.not_yields_error_word hnot
    · exact Plan.not_yields_error_pure h
  · exact Plan.not_yields_error_pure h

/-- A contact is always drawn: its ranges are not empty. -/
theorem not_yields_error_listen (hvalid : t.scenario.validate = .ok ()) :
    ¬ (t.listen now).Yields (.error e) := by
  have hprobabilities := Scenario.hasProbabilities_of_validate hvalid
  intro h
  unfold listen at h
  split at h
  · rcases Plan.yields_error_bind_iff.mp h with hnot | ⟨isHeard, -, h⟩
    · exact not_yields_error_chance hprobabilities.contact hnot
    cases isHeard with
    | false => exact Plan.not_yields_error_pure h
    | true =>
      rcases Plan.yields_error_bind_iff.mp h with hnot | ⟨t₁, -, h⟩
      · exact not_yields_error_traceBandit hnot
      rcases Plan.yields_error_bind_iff.mp h with hnot | ⟨⟨t₂, recorded⟩, -, h⟩
      · exact not_yields_error_openTrack hnot
      rcases Plan.yields_error_bind_iff.mp h with hnot | ⟨frames, -, h⟩
      · exact not_yields_error_between (by omega) hnot
      rcases Plan.yields_error_bind_iff.mp h with hnot | ⟨signal, -, h⟩
      · exact not_yields_error_between (by decide) hnot
      · exact Plan.not_yields_error_pure h
  · exact Plan.not_yields_error_pure h

/-- Once its ping is dealt with a step is made, if there is a moment from which pings count. -/
theorem not_yields_error_afterPing (hvalid : t.scenario.validate = .ok ())
    (hnow : Instant.earliest.second + Watchdog.timeout ≤ now.second) :
    ¬ (t.afterPing now).Yields (.error e) := by
  intro h
  rw [afterPing] at h
  rcases Plan.yields_error_bind_iff.mp h with hnot | ⟨⟨t₁, requests⟩, hrequested, h⟩
  · exact not_yields_error_handleRequests hvalid hnot
  have hscenario₁ := (requested_of_yields hrequested).scenario_steps.1
  rcases Plan.yields_error_bind_iff.mp h with hnot | ⟨⟨t₂, contact⟩, hlistened, h⟩
  · exact not_yields_error_listen (hscenario₁ ▸ hvalid) hnot
  have hscenario₂ := (listened_of_yields hlistened).scenario_steps.1.trans hscenario₁
  have hscenario : t₂.endCycle.1.scenario = t.scenario := by
    rw [endCycle_fst]
    exact hscenario₂
  have hprobabilities := Scenario.hasProbabilities_of_validate (hscenario ▸ hvalid)
  -- the pair that the end of the cycle gives is taken apart by its projections
  simp only at h
  rcases Plan.yields_error_bind_iff.mp h with hnot | ⟨monitorsFail, -, h⟩
  · exact not_yields_error_chance hprobabilities.monitorFailure hnot
  rcases Plan.yields_error_bind_iff.mp h with hnot | ⟨deviceFails, -, h⟩
  · exact not_yields_error_chance hprobabilities.deviceFailure hnot
  obtain ⟨states, hstates⟩ := Option.isSome_iff_exists.mp
    (t₂.endCycle.1.watchdog.isSome_evaluate? hnow banditHash)
  rw [hstates] at h
  exact Plan.not_yields_error_pure h

/-- **A step fails when the strength drifts too far**, and in no other way. -/
theorem yields_error_step_iff (hvalid : t.scenario.validate = .ok ())
    (hrssi : IsStrength t.leaderRssi)
    (hnow : Instant.earliest.second + Watchdog.timeout ≤ now.second) :
    (t.step now).Yields (.error e) ↔ e = .rssiOverflow ∧ t.CanOverflow := by
  have hping : ({ t with steps := t.steps + 1 }.receivePing now).Yields (.error e) ↔
      e = .rssiOverflow ∧ t.CanOverflow := yields_error_receivePing_iff hvalid hrssi
  rw [step_eq, Plan.yields_error_bind_iff, hping]
  apply or_iff_left
  rintro ⟨t₁, hpinged, h⟩
  have hscenario : t₁.scenario = t.scenario := by rw [(pinged_of_yields hpinged).eq]
  exact not_yields_error_afterPing (hscenario ▸ hvalid) hnow h

/-- **A scenario whose drift leaves room for the strength is never at a loss**: a step is made at
every moment, whatever a generator draws. -/
theorem Run.length_drawn (h : Run scenario t run) (hvalid : scenario.validate = .ok ())
    (hdrift : 255 + scenario.leaderRssiDrift.toInt ≤ Int64.maxValue.toInt) (g : Generator)
    {moments : List Instant}
    (hmoments : ∀ now ∈ moments, Instant.earliest.second + Watchdog.timeout ≤ now.second) :
    (t.drawn g moments).length = moments.length := by
  induction moments generalizing t run g with
  | nil => rfl
  | cons now moments ih =>
    rw [List.forall_mem_cons] at hmoments
    obtain ⟨hnow, hmoments⟩ := hmoments
    have hscenario := h.scenario_steps.1
    have hsafe : ∀ e, ¬ (t.step now).Yields (.error e) := by
      intro e herror
      have hstrength := h.isStrength
      rw [yields_error_step_iff (hscenario ▸ hvalid) hstrength hnow, CanOverflow, hscenario]
        at herror
      have hle := hstrength.2
      omega
    obtain ⟨r, g', hrun⟩ := Plan.exists_run_eq_ok hsafe g
    have hyields := Plan.yields_run (t.step now) g
    rw [hrun] at hyields
    let s : MadeStep := { r with now := now }
    have hstep : Run scenario s.tracker (run ++ [s]) := h.step hyields
    unfold drawn
    rw [hrun]
    exact congrArg (· + 1) (ih hstep g' hmoments)

theorem Listens.cycles {d d' : Designator} {heard : Bool} (h : Listens scenario d d' heard) :
    d'.cycles = d.cycles := by
  cases h <;> rfl

/-- The designator counts no further than to the next sweep. -/
theorem Run.cycles_lt (h : Run scenario t run) (hchannels : scenario.channels ≠ []) :
    t.designator.cycles < Designator.sweepBreak := by
  induction h with
  | start => exact Nat.succ_pos _
  | @step t run s h hstep ih =>
    obtain ⟨d, hlistens, hdesignator⟩ := h.exists_listens hchannels (stepped_of_yields hstep)
    have hcycles : d.cycles < Designator.sweepBreak := by
      rw [hlistens.cycles]
      exact ih
    rw [hdesignator]
    split
    · exact Designator.cycles_designate hcycles
    · exact hcycles

/-- What is known of the next step of a run at a moment, whatever is drawn in it. -/
structure FailsOnlyByDrift (scenario : Scenario) (t : SimulatedTracker) (now : Instant) :
    Prop where
  fault_iff : ∀ e, (t.step now).Yields (.error e) ↔ e = .rssiOverflow ∧ t.CanOverflow
  /-- Without a drift that is too large a step is made for every generator. -/
  made : t.leaderRssi.toInt + scenario.leaderRssiDrift.toInt ≤ Int64.maxValue.toInt →
    ∀ g, ∃ r g', (t.step now).run g = .ok (r, g')
  strength : IsStrength t.leaderRssi
  /-- The drift has a negative. -/
  drift : (signedWord? (-(max scenario.leaderRssiDrift.toInt 0))).isSome = true
  steps : (naturalWord? (t.steps + 1)).isSome = true
  /-- The number of steps is not divided by zero. -/
  cycleLength : 0 < cycleLength scenario
  cycles : t.designator.cycles < Designator.sweepBreak
  /-- The number of frames stays at the largest word instead of going beyond it. -/
  heard : ∀ r, (t.step now).Yields (.ok r) → r.heard = true →
    t.sessionData.IsHeard scenario now r.tracker.sessionData

/-- **A step of a run fails only when the strength drifts beyond the largest word.** -/
theorem Run.faults (h : Run scenario t run) (hvalid : scenario.validate = .ok ())
    (hlength : run.length + 1 < UInt64.size)
    (hnow : Instant.earliest.second + Watchdog.timeout ≤ now.second) :
    FailsOnlyByDrift scenario t now := by
  obtain ⟨hscenario, hsteps⟩ := h.scenario_steps
  have hstrength := h.isStrength
  have hfault : ∀ e, (t.step now).Yields (.error e) ↔ e = .rssiOverflow ∧ t.CanOverflow :=
    fun e => yields_error_step_iff (hscenario ▸ hvalid) hstrength hnow
  constructor
  case fault_iff => exact hfault
  case made =>
    intro hdrift g
    apply Plan.exists_run_eq_ok
    intro e herror
    have hoverflow := ((hfault e).mp herror).2.2
    rw [hscenario] at hoverflow
    omega
  case strength => exact hstrength
  case drift =>
    have hmin : Int64.minValue.toInt = -9223372036854775808 := by decide
    have hmax : Int64.maxValue.toInt = 9223372036854775807 := by decide
    have hle : scenario.leaderRssiDrift.toInt ≤ Int64.maxValue.toInt := Int64.toInt_le _
    rw [signedWord?, if_pos (by omega)]
    rfl
  case steps =>
    rw [hsteps, naturalWord?, if_pos hlength]
    rfl
  case cycleLength => exact cycleLength_pos scenario
  case cycles => exact h.cycles_lt (Scenario.channels_ne_nil hvalid)
  case heard =>
    intro r hyields hheard
    let s : MadeStep := { r with now := now }
    have hstepped : t.Stepped s.now s.toStepResult := stepped_of_yields hyields
    obtain ⟨a, b, hbefore, hafter, -, hmoves⟩ := h.exists_move hstepped
    show t.sessionData.IsHeard scenario now s.tracker.sessionData
    rw [hbefore, hafter]
    exact hmoves.isHeard hheard

/-- A scenario whose signal strength can drift without bounds. -/
def adrift : Scenario where
  leaderRssiStart := 255
  leaderRssiDrift := Int64.maxValue

/-- Two steps were made in spite of the drift, and a third can be told. -/
theorem faults_adrift :
    ∃ t run, Run adrift t run ∧ adrift.validate = .ok () ∧ run.length = 2 ∧
      run.length + 1 < UInt64.size ∧
      Instant.earliest.second + Watchdog.timeout ≤ epoch.second ∧
      FailsOnlyByDrift adrift t epoch := by
  obtain ⟨t, h⟩ := exists_run_drawn adrift (.ofSeed 7) [epoch, epoch]
  have hvalid : adrift.validate = .ok () := rfl
  have hlength : ((new adrift).drawn (.ofSeed 7) [epoch, epoch]).length = 2 := by decide +kernel
  have hshort : ((new adrift).drawn (.ofSeed 7) [epoch, epoch]).length + 1 < UInt64.size := by
    rw [hlength]
    decide
  have hnow : Instant.earliest.second + Watchdog.timeout ≤ epoch.second := by decide
  exact ⟨t, _, h, hvalid, hlength, hshort, hnow, h.faults hvalid hshort hnow⟩

/-- A scenario that is not refused can fail: the strength of a leader that is heard best drifts by
the largest word. -/
theorem exists_overflow :
    ¬ ∀ (scenario : Scenario) (t : SimulatedTracker) (run : List MadeStep) (now : Instant),
      scenario.validate = .ok () → Run scenario t run → run.length + 1 < UInt64.size →
      Instant.earliest.second + Watchdog.timeout ≤ now.second →
      ∀ e, ¬ (t.step now).Yields (.error e) := by
  intro hnever
  have hvalid : adrift.validate = .ok () := rfl
  have hnow : Instant.earliest.second + Watchdog.timeout ≤ epoch.second := by decide
  have hoverflow : (new adrift).CanOverflow := ⟨rfl, by decide⟩
  apply hnever adrift (new adrift) [] epoch hvalid .start (by decide) hnow .rssiOverflow
  exact (yields_error_step_iff hvalid Run.start.isStrength hnow).mpr ⟨rfl, hoverflow⟩

end SimulatedTracker

end TrackerBoard
