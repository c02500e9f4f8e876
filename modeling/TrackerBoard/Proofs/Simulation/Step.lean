import TrackerBoard.Proofs.Chance.Yields
import TrackerBoard.Simulation.Node

/-! # What a step can do

Each part of a step is opened once: what it can make of a tracker is a relation with a case for each
way in which the draws can go (`Pinged`, `Requested`, `Listened`), and a step is these parts one
after the other (`Stepped`); what follows the ping is kept apart (`Continued`).  What holds of every
step is then shown case by case, without a look at the plan.
-/

namespace TrackerBoard.SimulatedTracker

variable {t t' : SimulatedTracker} {now : Instant}

/-- What the ping of a step can make of a tracker. -/
inductive Pinged (t : SimulatedTracker) (now : Instant) : SimulatedTracker → Prop
  | lost : Pinged t now t
  | received {drift : Int} {rssi : Int64} {banditHash : String}
      (hdrift : -(max t.scenario.leaderRssiDrift.toInt 0) ≤ drift ∧
        drift ≤ max t.scenario.leaderRssiDrift.toInt 0)
      (hrssi : (drifted t.leaderRssi drift).Yields (.ok rssi)) :
      Pinged t now
        { t with
          leaderRssi := rssi
          watchdog := t.watchdog.registerPing ⟨now, rssi, banditHash⟩ }

theorem pinged_of_yields (h : (t.receivePing now).Yields (.ok t')) : t.Pinged now t' := by
  rw [receivePing, Plan.yields_bind_iff] at h
  obtain ⟨isLost, -, h⟩ := h
  cases isLost with
  | true =>
    obtain rfl := Plan.yields_pure_iff.mp h
    exact .lost
  | false =>
    obtain ⟨drift, hdrift, h⟩ := Plan.yields_bind_iff.mp h
    obtain ⟨rssi, hrssi, h⟩ := Plan.yields_bind_iff.mp h
    obtain ⟨isStale, -, h⟩ := Plan.yields_bind_iff.mp h
    obtain rfl := Plan.yields_pure_iff.mp h
    exact .received (Plan.yields_between_iff.mp hdrift) hrssi

/-- A ping changes nothing but what is known of the leader. -/
theorem Pinged.eq (h : t.Pinged now t') :
    t' = { t with leaderRssi := t'.leaderRssi, watchdog := t'.watchdog } := by
  cases h <;> rfl

/-- What the leader can ask for in a step. -/
inductive Requested (t : SimulatedTracker) (now : Instant) : SimulatedTracker → Activity → Prop
  | nothing : Requested t now t {}
  | tracking (hidle : t.isTracking = false) :
      Requested t now (t.startTracking.record (requestEvent now))
        { recorded := [requestEvent now]
          logs := [.info ("leader requested tracking of [" ++ t.scenario.trackingTarget ++ "]")] }
  | cancel (htracking : t.isTracking = true) :
      Requested t now (t.stopTracking.record (cancelEvent now))
        { recorded := [cancelEvent now], logs := [.info "leader canceled all tracking"] }

theorem requested_of_yields {a : Activity} (h : (t.handleRequests now).Yields (.ok (t', a))) :
    t.Requested now t' a := by
  rw [handleRequests] at h
  cases htracking : t.isTracking with
  | true =>
    rw [if_pos htracking, Plan.yields_bind_iff] at h
    obtain ⟨isCanceled, -, h⟩ := h
    cases isCanceled with
    | true =>
      obtain ⟨rfl, rfl⟩ := Prod.mk.inj (Plan.yields_pure_iff.mp h)
      exact .cancel htracking
    | false =>
      obtain ⟨rfl, rfl⟩ := Prod.mk.inj (Plan.yields_pure_iff.mp h)
      exact .nothing
  | false =>
    rw [if_neg (by rw [htracking]; exact Bool.false_ne_true), Plan.yields_bind_iff] at h
    obtain ⟨isRequested, -, h⟩ := h
    cases isRequested with
    | true =>
      obtain ⟨rfl, rfl⟩ := Prod.mk.inj (Plan.yields_pure_iff.mp h)
      exact .tracking htracking
    | false =>
      obtain ⟨rfl, rfl⟩ := Prod.mk.inj (Plan.yields_pure_iff.mp h)
      exact .nothing

theorem Requested.scenario_steps {a : Activity} (h : t.Requested now t' a) :
    t'.scenario = t.scenario ∧ t'.steps = t.steps := by
  cases h <;> exact ⟨rfl, rfl⟩

/-- What a trace of the bandit can make of a tracker. -/
inductive Traced (t : SimulatedTracker) : SimulatedTracker → Prop
  | onChannel {channel : Int64} (hchannel : channel ∈ t.scenario.channels) :
      Traced t { t with designator := t.designator.trace channel }
  | nowhere (hchannels : t.scenario.channels = []) : Traced t t

theorem traced_of_yields (h : t.traceBandit.Yields (.ok t')) : t.Traced t' := by
  rw [traceBandit, Plan.yields_bind_iff] at h
  obtain ⟨channel?, hchannel, h⟩ := h
  obtain ⟨hchannels, rfl⟩ | ⟨channel, hmem, rfl⟩ := Plan.yields_choose_iff.mp hchannel
  · obtain rfl := Plan.yields_pure_iff.mp h
    exact .nowhere hchannels
  · obtain rfl := Plan.yields_pure_iff.mp h
    exact .onChannel hmem

/-- A trace changes nothing but the designator. -/
theorem Traced.eq (h : t.Traced t') : t' = { t with designator := t'.designator } := by
  cases h <;> rfl

/-- What the identifier of a contact can be, and what is recorded of it. -/
inductive Opened (t : SimulatedTracker) (now : Instant) :
    SimulatedTracker → List TrackerEvent → Prop
  | first (word : UInt32) (hnone : t.track = none) :
      Opened t now
        { t.record (contactEvent now (trackName word)) with track := some (trackName word) }
        [contactEvent now (trackName word)]
  | again {track : String} (hsome : t.track = some track) : Opened t now t []

theorem opened_of_yields {recorded : List TrackerEvent}
    (h : (t.openTrack now).Yields (.ok (t', recorded))) : t.Opened now t' recorded := by
  rw [openTrack] at h
  cases htrack : t.track with
  | none =>
    rw [if_pos (by rw [htrack]; rfl), Plan.yields_bind_iff] at h
    obtain ⟨word, -, h⟩ := h
    obtain ⟨rfl, rfl⟩ := Prod.mk.inj (Plan.yields_pure_iff.mp h)
    exact .first word htrack
  | some track =>
    rw [if_neg (by rw [htrack]; exact Bool.false_ne_true)] at h
    obtain ⟨rfl, rfl⟩ := Prod.mk.inj (Plan.yields_pure_iff.mp h)
    exact .again htrack

theorem Opened.scenario_steps {recorded : List TrackerEvent} (h : t.Opened now t' recorded) :
    t'.scenario = t.scenario ∧ t'.steps = t.steps := by
  cases h <;> exact ⟨rfl, rfl⟩

/-- The largest number of frames that are heard at one contact. -/
def maxFrames (s : Scenario) : Nat := max s.maxFramesPerContact.toNat 1

/-- What listening can make of a tracker. -/
inductive Listened (t : SimulatedTracker) (now : Instant) : SimulatedTracker → Activity → Prop
  | silence : Listened t now t {}
  | contact (frames signal : Int) {t₁ t₂ : SimulatedTracker} {recorded : List TrackerEvent}
      (htracking : t.isTracking = true) (htraced : t.Traced t₁)
      (hopened : t₁.Opened now t₂ recorded)
      (hframes : 1 ≤ frames ∧ frames ≤ maxFrames t.scenario)
      (hsignal : -95 ≤ signal ∧ signal ≤ -30) :
      Listened t now (t₂.hear now frames.toNat (Int64.ofInt signal))
        { recorded := recorded, heard := true }

theorem listened_of_yields {a : Activity} (h : (t.listen now).Yields (.ok (t', a))) :
    t.Listened now t' a := by
  rw [listen] at h
  cases htracking : t.isTracking with
  | false =>
    rw [if_neg (by rw [htracking]; exact Bool.false_ne_true)] at h
    obtain ⟨rfl, rfl⟩ := Prod.mk.inj (Plan.yields_pure_iff.mp h)
    exact .silence
  | true =>
    rw [if_pos htracking, tryContact, Plan.yields_bind_iff] at h
    obtain ⟨isHeard, -, h⟩ := h
    cases isHeard with
    | false =>
      obtain ⟨rfl, rfl⟩ := Prod.mk.inj (Plan.yields_pure_iff.mp h)
      exact .silence
    | true =>
      obtain ⟨t₁, htraced, h⟩ := Plan.yields_bind_iff.mp h
      obtain ⟨⟨t₂, recorded⟩, hopened, h⟩ := Plan.yields_bind_iff.mp h
      obtain ⟨frames, hframes, h⟩ := Plan.yields_bind_iff.mp h
      obtain ⟨signal, hsignal, h⟩ := Plan.yields_bind_iff.mp h
      obtain ⟨rfl, rfl⟩ := Prod.mk.inj (Plan.yields_pure_iff.mp h)
      have htraced := traced_of_yields htraced
      have hopened := opened_of_yields hopened
      have hrange := Plan.yields_between_iff.mp hframes
      have hmax : frames ≤ maxFrames t.scenario := by
        have hscenario := hopened.scenario_steps.1
        rw [htraced.eq] at hscenario
        rw [← hscenario, maxFrames]
        omega
      exact .contact frames signal htracking htraced hopened ⟨hrange.1, hmax⟩
        (Plan.yields_between_iff.mp hsignal)

theorem Listened.scenario_steps {a : Activity} (h : t.Listened now t' a) :
    t'.scenario = t.scenario ∧ t'.steps = t.steps := by
  cases h with
  | silence => exact ⟨rfl, rfl⟩
  | contact frames signal htracking htraced hopened hframes hsignal =>
    obtain ⟨hscenario, hsteps⟩ := hopened.scenario_steps
    rw [htraced.eq] at hscenario hsteps
    exact ⟨hscenario, hsteps⟩

variable (t) in
/-- The end of a cycle changes nothing but the designator. -/
theorem endCycle_fst : t.endCycle.1 = { t with designator := t.endCycle.1.designator } := by
  rw [endCycle]
  split <;> rfl

/-- What a step can come to: a ping, a request, a contact, and the end of a cycle. -/
inductive Stepped (t : SimulatedTracker) (now : Instant) : StepResult → Prop
  | made {t₁ t₂ t₃ : SimulatedTracker} {requests contact : Activity} {states : List TrackerState}
      {deviceLive monitorsLive : Bool}
      (hpinged : { t with steps := t.steps + 1 }.Pinged now t₁)
      (hrequested : t₁.Requested now t₂ requests)
      (hlistened : t₂.Listened now t₃ contact)
      (hstates : t₃.endCycle.1.watchdog.evaluate? now banditHash = some states) :
      Stepped t now
        { tracker := t₃.endCycle.1
          snapshot := t₃.endCycle.1.snapshot now states deviceLive monitorsLive
          logs := requests.logs ++ t₃.endCycle.2
          recorded := requests.recorded ++ contact.recorded
          heard := contact.heard }

/-! ### The part of a step after its ping -/

/-- A step once its ping is dealt with. -/
def afterPing (t : SimulatedTracker) (now : Instant) : StepPlan StepResult := do
  let (t, requests) ← t.handleRequests now
  let (t, contact) ← t.listen now
  let (t, cycleLogs) := t.endCycle
  let monitorsFail ← chance t.scenario.monitorFailureProbability
  let deviceFails ← chance t.scenario.deviceFailureProbability
  match t.watchdog.evaluate? now banditHash with
  | some states =>
    return {
      tracker := t
      snapshot := t.snapshot now states (!deviceFails) (!monitorsFail)
      logs := requests.logs ++ cycleLogs
      recorded := requests.recorded ++ contact.recorded
      heard := contact.heard }
  | none => .fail .clockOutOfRange

theorem step_eq : t.step now =
    { t with steps := t.steps + 1 }.receivePing now >>= fun t => t.afterPing now := rfl

/-- What a step can come to once its ping is dealt with. -/
inductive Continued (t : SimulatedTracker) (now : Instant) : StepResult → Prop
  | made {t₁ t₂ : SimulatedTracker} {requests contact : Activity} {states : List TrackerState}
      {deviceLive monitorsLive : Bool}
      (hrequested : t.Requested now t₁ requests)
      (hlistened : t₁.Listened now t₂ contact)
      (hstates : t₂.endCycle.1.watchdog.evaluate? now banditHash = some states) :
      Continued t now
        { tracker := t₂.endCycle.1
          snapshot := t₂.endCycle.1.snapshot now states deviceLive monitorsLive
          logs := requests.logs ++ t₂.endCycle.2
          recorded := requests.recorded ++ contact.recorded
          heard := contact.heard }

theorem continued_of_yields {r : StepResult} (h : (t.afterPing now).Yields (.ok r)) :
    t.Continued now r := by
  rw [afterPing, Plan.yields_bind_iff] at h
  obtain ⟨⟨t₁, requests⟩, hrequested, h⟩ := h
  obtain ⟨⟨t₂, contact⟩, hlistened, h⟩ := Plan.yields_bind_iff.mp h
  -- the pair that the end of the cycle gives is taken apart by its projections
  simp only at h
  obtain ⟨monitorsFail, -, h⟩ := Plan.yields_bind_iff.mp h
  obtain ⟨deviceFails, -, h⟩ := Plan.yields_bind_iff.mp h
  cases hstates : t₂.endCycle.1.watchdog.evaluate? now banditHash with
  | none =>
    rw [hstates] at h
    exact absurd h Plan.not_yields_fail
  | some states =>
    rw [hstates] at h
    obtain rfl := Plan.yields_pure_iff.mp h
    exact .made (requested_of_yields hrequested) (listened_of_yields hlistened) hstates

/-- **A step does one of these things.** -/
theorem stepped_of_yields {r : StepResult} (h : (t.step now).Yields (.ok r)) : t.Stepped now r := by
  rw [step_eq, Plan.yields_bind_iff] at h
  obtain ⟨t₁, hpinged, hrest⟩ := h
  cases continued_of_yields hrest with
  | made hrequested hlistened hstates =>
    exact .made (pinged_of_yields hpinged) hrequested hlistened hstates

theorem Stepped.exists_continued {r : StepResult} (h : t.Stepped now r) :
    ∃ t₁, { t with steps := t.steps + 1 }.Pinged now t₁ ∧ t₁.Continued now r := by
  cases h with
  | made hpinged hrequested hlistened hstates =>
    exact ⟨_, hpinged, .made hrequested hlistened hstates⟩

theorem Stepped.scenario_steps {r : StepResult} (h : t.Stepped now r) :
    r.tracker.scenario = t.scenario ∧ r.tracker.steps = t.steps + 1 := by
  cases h with
  | made hpinged hrequested hlistened hstates =>
    obtain ⟨hscenario, hsteps⟩ := hrequested.scenario_steps
    obtain ⟨hscenario', hsteps'⟩ := hlistened.scenario_steps
    rw [endCycle_fst, hscenario', hscenario, hsteps', hsteps, hpinged.eq]
    exact ⟨rfl, rfl⟩

end TrackerBoard.SimulatedTracker
