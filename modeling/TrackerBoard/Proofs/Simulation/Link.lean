import TrackerBoard.Proofs.Simulation.Run

/-! # The link to the leader in a step

Of all that a step can do, only a ping that gets through changes how strongly the leader is heard
and what the watchdog knows (`Stepped.exists_pinged`).  So the strength never leaves the range to
which it is clamped (`Run.isStrength`).
-/

namespace TrackerBoard.SimulatedTracker

variable {t t' : SimulatedTracker} {now : Instant} {scenario : Scenario} {run : List MadeStep}

/-- What a tracker knows of the leader. -/
def link (t : SimulatedTracker) : Int64 × Watchdog := (t.leaderRssi, t.watchdog)

theorem Requested.link_eq {a : Activity} (h : t.Requested now t' a) : t'.link = t.link := by
  cases h <;> rfl

theorem Opened.link_eq {recorded : List TrackerEvent} (h : t.Opened now t' recorded) :
    t'.link = t.link := by
  cases h <;> rfl

theorem Listened.link_eq {a : Activity} (h : t.Listened now t' a) : t'.link = t.link := by
  cases h with
  | silence => rfl
  | contact frames signal htracking htraced hopened hframes hsignal =>
    obtain ⟨d, rfl⟩ : ∃ d, _ = { t with designator := d } := ⟨_, htraced.eq⟩
    exact hopened.link_eq

/-- After its ping a step leaves what is known of the leader as it is. -/
theorem Continued.link_eq {r : StepResult} (h : t.Continued now r) : r.tracker.link = t.link := by
  cases h with
  | made hrequested hlistened hstates =>
    rw [endCycle_fst]
    exact hlistened.link_eq.trans hrequested.link_eq

/-- What is shown of the leader is what the watchdog knows. -/
theorem Continued.shows {r : StepResult} (h : t.Continued now r) :
    r.snapshot.leaderSignalStrength = r.tracker.watchdog.leaderRssi ∧
      ∃ states, r.tracker.watchdog.evaluate? now banditHash = some states ∧
        r.snapshot.trackerState = states.map (·.name) := by
  cases h with
  | made hrequested hlistened hstates => exact ⟨rfl, _, hstates, rfl⟩

/-- A step leaves what is known of the leader as its ping left it. -/
theorem Stepped.exists_pinged {r : StepResult} (h : t.Stepped now r) :
    ∃ t₁, { t with steps := t.steps + 1 }.Pinged now t₁ ∧ r.tracker.link = t₁.link := by
  obtain ⟨t₁, hpinged, hcontinued⟩ := h.exists_continued
  exact ⟨t₁, hpinged, hcontinued.link_eq⟩

/-- A signal strength as it is shown. -/
def IsStrength (rssi : Int64) : Prop := 0 ≤ rssi.toInt ∧ rssi.toInt ≤ 255

theorem toInt_clampRssi (x : Int) : (clampRssi x).toInt = max 0 (min 255 x) :=
  Int64.toInt_ofInt_of_le (by omega) (by omega)

theorem isStrength_clampRssi (x : Int) : IsStrength (clampRssi x) := by
  rw [IsStrength, toInt_clampRssi]
  omega

/-- A strength drifts to the sum, clamped, if that is a word. -/
theorem yields_drifted_iff {rssi rssi' : Int64} {drift : Int} :
    (drifted rssi drift).Yields (.ok rssi') ↔
      (signedWord? (rssi.toInt + drift)).isSome = true ∧
        rssi' = clampRssi (rssi.toInt + drift) := by
  unfold drifted
  cases hword : signedWord? (rssi.toInt + drift) with
  | none => exact iff_of_false Plan.not_yields_fail (fun h => Bool.false_ne_true h.1)
  | some x =>
    rw [signedWord?_eq_some_iff.mp hword, Option.isSome_some, and_iff_right rfl]
    exact Plan.yields_pure_iff

theorem Pinged.isStrength (h : t.Pinged now t') (hrssi : IsStrength t.leaderRssi) :
    IsStrength t'.leaderRssi := by
  cases h with
  | lost => exact hrssi
  | received _ hyields =>
    rw [(yields_drifted_iff.mp hyields).2]
    exact isStrength_clampRssi _

/-- The leader is heard with a strength from 0 to 255 all the time. -/
theorem Run.isStrength (h : Run scenario t run) : IsStrength t.leaderRssi := by
  induction h with
  | start => exact isStrength_clampRssi _
  | @step t run s h hstep ih =>
    obtain ⟨t₁, hpinged, hlink⟩ := (stepped_of_yields hstep).exists_pinged
    have hrssi : s.tracker.leaderRssi = t₁.leaderRssi := congrArg Prod.fst hlink
    rw [hrssi]
    exact hpinged.isStrength ih

end TrackerBoard.SimulatedTracker
