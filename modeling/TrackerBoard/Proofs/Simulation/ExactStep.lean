import TrackerBoard.Proofs.Simulation.Faults

/-! # Steps with exact sums

A step whose drift takes the strength beyond the largest word is not made (`yields_error_step_iff`).
Here the drifted strength is a whole number, which is clamped, and a step comes with the ping that
got through in it (`exactStep`).  Such a step is always made (`not_yields_error_exactStep`).

It leads nowhere else: what is beyond the largest word is clamped to 255, and a smaller drift takes
the strength there as well (`exists_drifted`).  So what a step can come to is what an exact step can
come to (`yields_step_iff`).
-/

namespace TrackerBoard.SimulatedTracker

variable {t t' : SimulatedTracker} {now : Instant} {ping? : Option Ping} {r : StepResult}
  {e : StepFault}

/-- The farthest that the strength drifts in a step, either way. -/
def maxDrift (scenario : Scenario) : Int := max scenario.leaderRssiDrift.toInt 0

/-- The ping that gets through in a step, if it is not lost. -/
def drawPing (t : SimulatedTracker) (now : Instant) : StepPlan (Option Ping) := do
  if ← chance t.scenario.pingLossProbability then
    return none
  let drift ← between (-maxDrift t.scenario) (maxDrift t.scenario)
  let isStale ← chance t.scenario.outOfSyncProbability
  return some ⟨now, clampRssi (t.leaderRssi.toInt + drift),
    if isStale then staleBanditHash else banditHash⟩

/-- What a ping makes of a tracker. -/
def heed (t : SimulatedTracker) : Option Ping → SimulatedTracker
  | none => t
  | some ping =>
    { t with leaderRssi := ping.rssi, watchdog := t.watchdog.registerPing ping }

/-- One step with its ping, at the moment `now`. -/
def exactStep (t : SimulatedTracker) (now : Instant) : StepPlan (Option Ping × StepResult) := do
  let t := { t with steps := t.steps + 1 }
  let ping? ← t.drawPing now
  let result ← (t.heed ping?).afterPing now
  return (ping?, result)

theorem yields_drawPing_iff : (t.drawPing now).Yields (.ok ping?) ↔
    ((chance t.scenario.pingLossProbability).Yields (.ok true) ∧ ping? = none) ∨
      ((chance t.scenario.pingLossProbability).Yields (.ok false) ∧
        ∃ drift isStale, (-maxDrift t.scenario ≤ drift ∧ drift ≤ maxDrift t.scenario) ∧
          (chance t.scenario.outOfSyncProbability).Yields (.ok isStale) ∧
          ping? = some ⟨now, clampRssi (t.leaderRssi.toInt + drift),
            if isStale then staleBanditHash else banditHash⟩) := by
  rw [drawPing, Plan.yields_bind_iff]
  constructor
  · rintro ⟨isLost, hlost, h⟩
    cases isLost with
    | true => exact .inl ⟨hlost, Plan.yields_pure_iff.mp h⟩
    | false =>
      obtain ⟨drift, hdrift, h⟩ := Plan.yields_bind_iff.mp h
      obtain ⟨isStale, hstale, h⟩ := Plan.yields_bind_iff.mp h
      exact .inr ⟨hlost, drift, isStale, Plan.yields_between_iff.mp hdrift, hstale,
        Plan.yields_pure_iff.mp h⟩
  · rintro (⟨hlost, rfl⟩ | ⟨hlost, drift, isStale, hdrift, hstale, rfl⟩)
    · exact ⟨true, hlost, Plan.yields_pure_iff.mpr rfl⟩
    · refine ⟨false, hlost, Plan.yields_bind_iff.mpr ⟨drift, ?_, ?_⟩⟩
      · exact Plan.yields_between_iff.mpr hdrift
      · exact Plan.yields_bind_iff.mpr ⟨isStale, hstale, Plan.yields_pure_iff.mpr rfl⟩

/-- Wherever a drift takes the strength, one with a sum that is a word takes it there. -/
theorem exists_drifted {rssi : Int64} (hrssi : IsStrength rssi) {scenario : Scenario} {drift : Int}
    (hdrift : -maxDrift scenario ≤ drift ∧ drift ≤ maxDrift scenario) :
    ∃ drift', (-maxDrift scenario ≤ drift' ∧ drift' ≤ maxDrift scenario) ∧
      (drifted rssi drift').Yields (.ok (clampRssi (rssi.toInt + drift))) := by
  obtain ⟨hnonneg, hle⟩ := hrssi
  have hmin : Int64.minValue.toInt = -9223372036854775808 := by decide
  have hmax : Int64.maxValue.toInt = 9223372036854775807 := by decide
  have hbound : maxDrift scenario ≤ Int64.maxValue.toInt := by
    have hword := Int64.toInt_le scenario.leaderRssiDrift
    rw [maxDrift]
    omega
  have hisWord (x : Int) (hx : Int64.minValue.toInt ≤ x ∧ x ≤ Int64.maxValue.toInt) :
      (signedWord? x).isSome = true := by
    rw [signedWord?, if_pos hx]
    rfl
  by_cases hword : rssi.toInt + drift ≤ Int64.maxValue.toInt
  · refine ⟨drift, hdrift, yields_drifted_iff.mpr ⟨hisWord _ ?_, rfl⟩⟩
    omega
  · refine ⟨Int64.maxValue.toInt - rssi.toInt, by omega, yields_drifted_iff.mpr ⟨hisWord _ ?_, ?_⟩⟩
    · omega
    · apply Int64.toInt_inj.mp
      rw [toInt_clampRssi, toInt_clampRssi]
      omega

/-- A ping makes of a tracker what the ping with an exact sum does. -/
theorem yields_receivePing_iff (hrssi : IsStrength t.leaderRssi) :
    (t.receivePing now).Yields (.ok t') ↔
      ∃ ping?, (t.drawPing now).Yields (.ok ping?) ∧ t' = t.heed ping? := by
  constructor
  · intro h
    rw [receivePing, Plan.yields_bind_iff] at h
    obtain ⟨isLost, hlost, h⟩ := h
    cases isLost with
    | true =>
      exact ⟨none, yields_drawPing_iff.mpr (.inl ⟨hlost, rfl⟩), Plan.yields_pure_iff.mp h⟩
    | false =>
      obtain ⟨drift, hdrift, h⟩ := Plan.yields_bind_iff.mp h
      obtain ⟨rssi, hdrifted, h⟩ := Plan.yields_bind_iff.mp h
      obtain ⟨isStale, hstale, h⟩ := Plan.yields_bind_iff.mp h
      obtain rfl := (yields_drifted_iff.mp hdrifted).2
      obtain rfl := Plan.yields_pure_iff.mp h
      have hrange := Plan.yields_between_iff.mp hdrift
      exact ⟨_, yields_drawPing_iff.mpr (.inr ⟨hlost, drift, isStale, hrange, hstale, rfl⟩), rfl⟩
  · rintro ⟨ping?, hping, rfl⟩
    rw [receivePing, Plan.yields_bind_iff]
    rcases yields_drawPing_iff.mp hping with
      ⟨hlost, rfl⟩ | ⟨hlost, drift, isStale, hdrift, hstale, rfl⟩
    · exact ⟨true, hlost, Plan.yields_pure_iff.mpr rfl⟩
    · obtain ⟨drift', hdrift', hdrifted⟩ := exists_drifted hrssi hdrift
      refine ⟨false, hlost, Plan.yields_bind_iff.mpr ⟨drift', ?_, ?_⟩⟩
      · exact Plan.yields_between_iff.mpr hdrift'
      · apply Plan.yields_bind_iff.mpr
        refine ⟨_, hdrifted, Plan.yields_bind_iff.mpr ⟨isStale, hstale, ?_⟩⟩
        exact Plan.yields_pure_iff.mpr rfl

theorem yields_exactStep_iff : (t.exactStep now).Yields (.ok (ping?, r)) ↔
    ({ t with steps := t.steps + 1 }.drawPing now).Yields (.ok ping?) ∧
      (({ t with steps := t.steps + 1 }.heed ping?).afterPing now).Yields (.ok r) := by
  rw [exactStep, Plan.yields_bind_iff]
  constructor
  · rintro ⟨drawn, hping, h⟩
    obtain ⟨result, hresult, h⟩ := Plan.yields_bind_iff.mp h
    obtain ⟨rfl, rfl⟩ := Prod.mk.inj (Plan.yields_pure_iff.mp h)
    exact ⟨hping, hresult⟩
  · rintro ⟨hping, hresult⟩
    exact ⟨ping?, hping, Plan.yields_bind_iff.mpr ⟨r, hresult, Plan.yields_pure_iff.mpr rfl⟩⟩

/-- **A step comes to what an exact step does**, with some ping or none. -/
theorem yields_step_iff (hrssi : IsStrength t.leaderRssi) :
    (t.step now).Yields (.ok r) ↔ ∃ ping?, (t.exactStep now).Yields (.ok (ping?, r)) := by
  have hcounted : IsStrength { t with steps := t.steps + 1 }.leaderRssi := hrssi
  rw [step_eq, Plan.yields_bind_iff]
  constructor
  · rintro ⟨t₁, hpinged, hresult⟩
    obtain ⟨ping?, hping, rfl⟩ := (yields_receivePing_iff hcounted).mp hpinged
    exact ⟨ping?, yields_exactStep_iff.mpr ⟨hping, hresult⟩⟩
  · rintro ⟨ping?, h⟩
    obtain ⟨hping, hresult⟩ := yields_exactStep_iff.mp h
    exact ⟨_, (yields_receivePing_iff hcounted).mpr ⟨ping?, hping, rfl⟩, hresult⟩

theorem heed_scenario (t : SimulatedTracker) (ping? : Option Ping) :
    (t.heed ping?).scenario = t.scenario := by
  cases ping? <;> rfl

theorem not_yields_error_drawPing (hvalid : t.scenario.validate = .ok ()) :
    ¬ (t.drawPing now).Yields (.error e) := by
  have hprobabilities := Scenario.hasProbabilities_of_validate hvalid
  have hrange : -maxDrift t.scenario ≤ maxDrift t.scenario := by
    rw [maxDrift]
    omega
  intro h
  rw [drawPing] at h
  rcases Plan.yields_error_bind_iff.mp h with hnot | ⟨isLost, -, h⟩
  · exact not_yields_error_chance hprobabilities.pingLoss hnot
  cases isLost with
  | true => exact Plan.not_yields_error_pure h
  | false =>
    rcases Plan.yields_error_bind_iff.mp h with hnot | ⟨drift, -, h⟩
    · exact not_yields_error_between hrange hnot
    rcases Plan.yields_error_bind_iff.mp h with hnot | ⟨isStale, -, h⟩
    · exact not_yields_error_chance hprobabilities.outOfSync hnot
    · exact Plan.not_yields_error_pure h

/-- **An exact step is made**, if there is a moment from which pings count. -/
theorem not_yields_error_exactStep (hvalid : t.scenario.validate = .ok ())
    (hnow : Instant.earliest.second + Watchdog.timeout ≤ now.second) :
    ¬ (t.exactStep now).Yields (.error e) := by
  intro h
  rw [exactStep] at h
  rcases Plan.yields_error_bind_iff.mp h with hnot | ⟨ping?, -, h⟩
  · exact not_yields_error_drawPing hvalid hnot
  rcases Plan.yields_error_bind_iff.mp h with hnot | ⟨result, -, h⟩
  · have hheeded : ({ t with steps := t.steps + 1 }.heed ping?).scenario.validate = .ok () := by
      rw [heed_scenario]
      exact hvalid
    exact not_yields_error_afterPing hheeded hnow hnot
  · exact Plan.not_yields_error_pure h

end TrackerBoard.SimulatedTracker
