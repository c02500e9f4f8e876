import TrackerBoard.Proofs.Simulation.ExactStep

/-! # The last ping in the snapshots

How strongly the leader is heard is kept twice: in the tracker, as the strength that drifts, and in
the watchdog, as part of the last ping.  A snapshot shows the second, beside the states by which the
watchdog judges that ping.

Both are told by the pings that got through (`ExactRun.link_eq`), and so is what a snapshot shows of
the leader (`ExactRun.shows`).  Before the first ping the two differ: the strength that drifts
starts where the scenario says, and what is shown is 0.  From then on they are the same.  So the
strength that is shown moves when a ping gets through, by as much as it drifts, and the states beside
it are about the same ping (`ExactRun.showsLastPing`).
-/

namespace TrackerBoard

theorem TrackerState.name_injective : Function.Injective TrackerState.name := by
  intro a b h
  cases a <;> cases b <;> first | rfl | exact absurd h (by decide)

namespace Watchdog

variable {pings : List Ping} {ping : Ping} {now : Instant} {banditHash : String}
  {states : List TrackerState}

theorem leaderRssi_after (pings : List Ping) :
    (after pings).leaderRssi = (pings.getLast?.map (·.rssi)).getD 0 := by
  rw [leaderRssi, lastPing_after]

theorem dark_notMem_liveStates (ping : Ping) (banditHash : String) :
    .dark ∉ liveStates ping banditHash := by
  intro hdark
  have hmem := (judges_liveStates ping banditHash).inOrder.subset hdark
  exact absurd hmem (by decide)

/-- Without a ping the link is dark. -/
theorem evaluate?_after_nil (h : (after []).evaluate? now banditHash = some states) :
    states = [.dark] :=
  (Option.some.inj h).symm

/-- The states of a link are about its last ping, unless the link is dark, which it is not at the
moment of that ping. -/
theorem evaluate?_after_last (h : (after pings).evaluate? now banditHash = some states)
    (hlast : pings.getLast? = some ping) :
    (states = [.dark] ∧ ping.receivedAt ≠ now) ∨ states = liveStates ping banditHash := by
  rw [evaluate?, lastPing_after, hlast] at h
  obtain ⟨limit, hlimit, hstates⟩ := Option.map_eq_some_iff.mp h
  by_cases hold : ping.receivedAt.isUpTo limit = true
  · rw [if_pos hold] at hstates
    refine .inl ⟨hstates.symm, ?_⟩
    rintro rfl
    rw [Instant.isUpTo_of_before? (by decide) hlimit] at hold
    exact Bool.false_ne_true hold
  · rw [if_neg hold] at hstates
    exact .inr hstates.symm

end Watchdog

namespace SimulatedTracker

variable {t : SimulatedTracker} {now : Instant} {scenario : Scenario} {pings : List Ping}

/-! ### Runs with their pings -/

/-- A step that was made at a moment, with the ping that got through in it, if one did. -/
structure PingedStep extends MadeStep where
  ping : Option Ping

/-- The tracker after some exact steps of a run, oldest first. -/
inductive ExactRun (scenario : Scenario) : SimulatedTracker → List PingedStep → Prop
  | start : ExactRun scenario (.new scenario) []
  | step {t : SimulatedTracker} {run : List PingedStep} {s : PingedStep}
      (h : ExactRun scenario t run)
      (hstep : (t.exactStep s.now).Yields (.ok (s.ping, s.toStepResult))) :
      ExactRun scenario s.tracker (run ++ [s])

/-- The pings that got through in some steps, oldest first. -/
def pingsIn (run : List PingedStep) : List Ping := run.filterMap (·.ping)

variable {run : List PingedStep} {s : PingedStep}

theorem pingsIn_snoc_lost (h : s.ping = none) : pingsIn (run ++ [s]) = pingsIn run := by
  simp [pingsIn, h]

theorem pingsIn_snoc_received {ping : Ping} (h : s.ping = some ping) :
    pingsIn (run ++ [s]) = pingsIn run ++ [ping] := by
  simp [pingsIn, h]

theorem ExactRun.exists_before (h : ExactRun scenario t (run ++ [s])) :
    ∃ t₀, ExactRun scenario t₀ run ∧
      (t₀.exactStep s.now).Yields (.ok (s.ping, s.toStepResult)) ∧ t = s.tracker := by
  generalize hall : run ++ [s] = all at h
  cases h with
  | start => exact absurd hall (List.concat_ne_nil s run)
  | step h hstep =>
    obtain ⟨rfl, hlast⟩ := List.append_inj' hall rfl
    obtain rfl := List.singleton_inj.mp hlast
    exact ⟨_, h, hstep, rfl⟩

/-- Exact steps are steps. -/
theorem ExactRun.isRun (h : ExactRun scenario t run) :
    Run scenario t (run.map (·.toMadeStep)) := by
  induction h with
  | start => exact .start
  | @step t run s h hstep ih =>
    rw [List.map_append]
    exact ih.step ((yields_step_iff ih.isStrength).mpr ⟨s.ping, hstep⟩)

/-- The steps of a run are exact steps with some pings. -/
theorem Run.exists_exactRun {run : List MadeStep} (h : Run scenario t run) :
    ∃ pinged, ExactRun scenario t pinged ∧ pinged.map (·.toMadeStep) = run := by
  induction h with
  | start => exact ⟨[], .start, rfl⟩
  | @step t run s h hstep ih =>
    obtain ⟨pinged, hpinged, rfl⟩ := ih
    obtain ⟨ping, hexact⟩ := (yields_step_iff h.isStrength).mp hstep
    let last : PingedStep := { s with ping := ping }
    have hlast : ExactRun scenario last.tracker (pinged ++ [last]) := hpinged.step hexact
    exact ⟨pinged ++ [last], hlast, List.map_append⟩

/-! ### What is known of the leader -/

/-- What a tracker of a scenario knows of the leader after some pings. -/
def linkAfter (scenario : Scenario) (pings : List Ping) : Int64 × Watchdog :=
  ((pings.getLast?.map (·.rssi)).getD (clampRssi scenario.leaderRssiStart.toInt), .after pings)

theorem linkAfter_snoc (scenario : Scenario) (pings : List Ping) (ping : Ping) :
    linkAfter scenario (pings ++ [ping]) = (ping.rssi, ⟨some ping⟩) := by
  rw [linkAfter, List.getLast?_concat, Watchdog.after, List.foldl_append]
  rfl

/-- What is known of the leader is told by the pings that got through. -/
theorem ExactRun.link_eq (h : ExactRun scenario t run) :
    t.link = linkAfter scenario (pingsIn run) := by
  induction h with
  | start => rfl
  | @step t run s h hstep ih =>
    obtain ⟨-, hresult⟩ := yields_exactStep_iff.mp hstep
    rw [(continued_of_yields hresult).link_eq]
    cases hping : s.ping with
    | none =>
      rw [pingsIn_snoc_lost hping]
      exact ih
    | some ping =>
      rw [pingsIn_snoc_received hping, linkAfter_snoc]
      rfl

/-- What a snapshot shows of the leader is told by the pings that got through. -/
theorem ExactRun.shows (h : ExactRun scenario t (run ++ [s])) :
    s.snapshot.leaderSignalStrength = (Watchdog.after (pingsIn (run ++ [s]))).leaderRssi ∧
      ∃ states, (Watchdog.after (pingsIn (run ++ [s]))).evaluate? s.now banditHash = some states ∧
        s.snapshot.trackerState = states.map (·.name) := by
  have hwatchdog : t.watchdog = Watchdog.after (pingsIn (run ++ [s])) :=
    congrArg Prod.snd h.link_eq
  obtain ⟨t₀, -, hstep, rfl⟩ := h.exists_before
  rw [← hwatchdog]
  exact (continued_of_yields (yields_exactStep_iff.mp hstep).2).shows

/-- From the first ping on, the strength that drifts is the one that is shown. -/
theorem ExactRun.strength_eq (h : ExactRun scenario t (run ++ [s]))
    (hpings : pingsIn (run ++ [s]) ≠ []) : s.snapshot.leaderSignalStrength = t.leaderRssi := by
  have hrssi : t.leaderRssi = (linkAfter scenario (pingsIn (run ++ [s]))).1 :=
    congrArg Prod.fst h.link_eq
  rw [h.shows.1, hrssi]
  rcases List.eq_nil_or_concat' (pingsIn (run ++ [s])) with hnil | ⟨front, ping, hsnoc⟩
  · exact absurd hnil hpings
  · rw [hsnoc, Watchdog.leaderRssi_after, linkAfter_snoc, List.getLast?_concat]
    rfl

/-- Two strengths that are no further apart than the strength drifts in one step. -/
def WithinDrift (scenario : Scenario) (a b : Int) : Prop :=
  a - maxDrift scenario ≤ b ∧ b ≤ a + maxDrift scenario

/-- A ping that gets through comes now, and its strength has drifted. -/
theorem withinDrift_of_yields {ping : Ping} (hrssi : IsStrength t.leaderRssi)
    (h : (t.drawPing now).Yields (.ok (some ping))) :
    ping.receivedAt = now ∧ WithinDrift t.scenario t.leaderRssi.toInt ping.rssi.toInt := by
  rcases yields_drawPing_iff.mp h with ⟨-, hnone⟩ | ⟨-, drift, isStale, hdrift, -, hping⟩
  · exact absurd hnone (Option.some_ne_none ping)
  · obtain rfl := Option.some.inj hping
    obtain ⟨hnonneg, hle⟩ := hrssi
    refine ⟨rfl, ?_⟩
    rw [WithinDrift, toInt_clampRssi]
    omega

/-- A step whose ping gets through shows a strength that has drifted from the one before it. -/
theorem ExactRun.received {ping : Ping} (h : ExactRun scenario t (run ++ [s]))
    (hping : s.ping = some ping) :
    ∃ t₀, ExactRun scenario t₀ run ∧ ping.receivedAt = s.now ∧
      WithinDrift scenario t₀.leaderRssi.toInt s.snapshot.leaderSignalStrength.toInt := by
  have hstrength : s.snapshot.leaderSignalStrength = ping.rssi := by
    rw [h.shows.1, pingsIn_snoc_received hping, Watchdog.leaderRssi_after, List.getLast?_concat]
    rfl
  obtain ⟨t₀, h₀, hstep, -⟩ := h.exists_before
  have hdraws := (yields_exactStep_iff.mp hstep).1
  rw [hping] at hdraws
  have hrssi : IsStrength { t₀ with steps := t₀.steps + 1 }.leaderRssi := h₀.isRun.isStrength
  have hdrifted : ping.receivedAt = s.now ∧
      WithinDrift t₀.scenario t₀.leaderRssi.toInt ping.rssi.toInt :=
    withinDrift_of_yields hrssi hdraws
  rw [h₀.isRun.scenario_steps.1, ← hstrength] at hdrifted
  exact ⟨t₀, h₀, hdrifted⟩

/-- What the snapshot of a step shows of the leader, after the steps of a run. -/
structure ShowsLastPing (scenario : Scenario) (run : List PingedStep) (s : PingedStep) :
    Prop where
  strength : 0 ≤ s.snapshot.leaderSignalStrength.toInt ∧
    s.snapshot.leaderSignalStrength.toInt ≤ 255
  /-- Nothing is heard of the leader until a ping gets through. -/
  dark : pingsIn (run ++ [s]) = [] →
    s.snapshot.leaderSignalStrength = 0 ∧ s.snapshot.trackerState = [TrackerState.dark.name]
  /-- Strength and states are about the last ping that got through. -/
  last : ∀ ping, (pingsIn (run ++ [s])).getLast? = some ping →
    s.snapshot.leaderSignalStrength = ping.rssi ∧
      (s.snapshot.trackerState = [TrackerState.dark.name] ∨
        s.snapshot.trackerState = (Watchdog.liveStates ping banditHash).map (·.name))
  lost : s.ping = none → ∀ previous, run.getLast? = some previous →
    s.snapshot.leaderSignalStrength = previous.snapshot.leaderSignalStrength
  drift : s.ping ≠ none → pingsIn run ≠ [] → ∃ previous, run.getLast? = some previous ∧
    WithinDrift scenario previous.snapshot.leaderSignalStrength.toInt
      s.snapshot.leaderSignalStrength.toInt
  /-- The first strength that is shown has drifted from where the scenario starts. -/
  first : s.ping ≠ none → pingsIn run = [] →
    WithinDrift scenario (max 0 (min 255 scenario.leaderRssiStart.toInt))
      s.snapshot.leaderSignalStrength.toInt
  live : s.ping ≠ none → TrackerState.dark.name ∉ s.snapshot.trackerState
  weak : TrackerState.online.name ∈ s.snapshot.trackerState →
    (TrackerState.weak.name ∈ s.snapshot.trackerState ↔
      s.snapshot.leaderSignalStrength.toInt < 50)

/-- **A snapshot shows the last ping of the leader.** -/
theorem ExactRun.showsLastPing (h : ExactRun scenario t (run ++ [s])) :
    ShowsLastPing scenario run s := by
  obtain ⟨hstrength, states, hverdict, hstates⟩ := h.shows
  have hlast : ∀ ping, (pingsIn (run ++ [s])).getLast? = some ping →
      s.snapshot.leaderSignalStrength = ping.rssi ∧
        ((states = [.dark] ∧ ping.receivedAt ≠ s.now) ∨
          states = Watchdog.liveStates ping banditHash) := by
    intro ping hping
    refine ⟨?_, Watchdog.evaluate?_after_last hverdict hping⟩
    rw [hstrength, Watchdog.leaderRssi_after, hping]
    rfl
  have hdark : pingsIn (run ++ [s]) = [] → states = [.dark] := by
    intro hpings
    rw [hpings] at hverdict
    exact Watchdog.evaluate?_after_nil hverdict
  have hreceived : s.ping ≠ none → ∃ ping, s.ping = some ping := Option.ne_none_iff_exists'.mp
  constructor
  case strength =>
    by_cases hpings : pingsIn (run ++ [s]) = []
    · rw [hstrength, hpings]
      exact ⟨by decide, by decide⟩
    · rw [h.strength_eq hpings]
      exact h.isRun.isStrength
  case dark =>
    intro hpings
    rw [hstates, hdark hpings, hstrength, hpings]
    exact ⟨rfl, rfl⟩
  case last =>
    intro ping hping
    obtain ⟨hrssi, ⟨hdarkened, -⟩ | hlive⟩ := hlast ping hping
    · exact ⟨hrssi, .inl (by rw [hstates, hdarkened]; rfl)⟩
    · exact ⟨hrssi, .inr (by rw [hstates, hlive])⟩
  case lost =>
    intro hlost previous hprevious
    obtain ⟨front, rfl⟩ := List.getLast?_eq_some_iff.mp hprevious
    obtain ⟨t₀, h₀, -⟩ := h.exists_before
    rw [hstrength, pingsIn_snoc_lost hlost, h₀.shows.1]
  case drift =>
    intro hping hpings
    obtain ⟨ping, hping⟩ := hreceived hping
    obtain ⟨t₀, h₀, -, hdrifted⟩ := h.received hping
    rcases List.eq_nil_or_concat' run with rfl | ⟨front, previous, rfl⟩
    · exact absurd rfl hpings
    · rw [← h₀.strength_eq hpings] at hdrifted
      exact ⟨previous, List.getLast?_concat, hdrifted⟩
  case first =>
    intro hping hpings
    obtain ⟨ping, hping⟩ := hreceived hping
    obtain ⟨t₀, h₀, -, hdrifted⟩ := h.received hping
    have hstart : t₀.leaderRssi = clampRssi scenario.leaderRssiStart.toInt := by
      have hlink := h₀.link_eq
      rw [hpings] at hlink
      exact congrArg Prod.fst hlink
    rw [hstart, toInt_clampRssi] at hdrifted
    exact hdrifted
  case live =>
    intro hping
    obtain ⟨ping, hping⟩ := hreceived hping
    obtain ⟨t₀, -, hnow, -⟩ := h.received hping
    have hlastPing : (pingsIn (run ++ [s])).getLast? = some ping := by
      rw [pingsIn_snoc_received hping, List.getLast?_concat]
    obtain ⟨-, ⟨-, hold⟩ | hlive⟩ := hlast ping hlastPing
    · exact absurd hnow hold
    · rw [hstates, hlive, List.mem_map_of_injective TrackerState.name_injective]
      exact Watchdog.dark_notMem_liveStates ping banditHash
  case weak =>
    rw [hstates, List.mem_map_of_injective TrackerState.name_injective,
      List.mem_map_of_injective TrackerState.name_injective]
    intro honline
    cases hping : (pingsIn (run ++ [s])).getLast? with
    | none =>
      rw [hdark (List.getLast?_eq_none_iff.mp hping)] at honline
      exact absurd honline (by decide)
    | some ping =>
      obtain ⟨hrssi, ⟨hdarkened, -⟩ | hlive⟩ := hlast ping hping
      · rw [hdarkened] at honline
        exact absurd honline (by decide)
      · rw [hlive, (Watchdog.judges_liveStates ping banditHash).weak, hrssi]
        exact Int64.lt_iff_toInt_lt

/-- After a run a step can be made with any ping that can get through, or with none. -/
theorem ExactRun.exists_step {ping? : Option Ping} (h : ExactRun scenario t run)
    (hvalid : scenario.validate = .ok ())
    (hnow : Instant.earliest.second + Watchdog.timeout ≤ now.second)
    (hping : ({ t with steps := t.steps + 1 }.drawPing now).Yields (.ok ping?)) :
    ∃ s : PingedStep, s.ping = ping? ∧ ExactRun scenario s.tracker (run ++ [s]) := by
  have hheeded : ({ t with steps := t.steps + 1 }.heed ping?).scenario.validate = .ok () := by
    rw [heed_scenario]
    exact h.isRun.scenario_steps.1.symm ▸ hvalid
  obtain ⟨r, g, hrun⟩ := Plan.exists_run_eq_ok
    (fun e => not_yields_error_afterPing hheeded hnow) (.ofSeed scenario.seed)
  have hresult := Plan.yields_run (({ t with steps := t.steps + 1 }.heed ping?).afterPing now)
    (.ofSeed scenario.seed)
  rw [hrun] at hresult
  let s : PingedStep := { r with now := now, ping := ping? }
  have hstep : (t.exactStep s.now).Yields (.ok (s.ping, s.toStepResult)) :=
    yields_exactStep_iff.mpr ⟨hping, hresult⟩
  exact ⟨s, rfl, h.step hstep⟩

/-- What the pings of the leader do in the runs of a scenario. -/
structure FollowsPings (scenario : Scenario) : Prop where
  /-- A run is made of exact steps, and exact steps lead nowhere else. -/
  run_iff : ∀ t run, Run scenario t run ↔
    ∃ pinged, ExactRun scenario t pinged ∧ pinged.map (·.toMadeStep) = run
  /-- A step is made whatever is drawn, unless the earliest instant is too close. -/
  made : ∀ t run now, ExactRun scenario t run →
    Instant.earliest.second + Watchdog.timeout ≤ now.second →
      ∀ e, ¬ (t.exactStep now).Yields (.error e)
  shows : ∀ t run s, ExactRun scenario t (run ++ [s]) → ShowsLastPing scenario run s

/-- **The snapshots of a scenario follow the pings of its leader**, whatever is drawn. -/
theorem followsPings (hvalid : scenario.validate = .ok ()) : FollowsPings scenario := by
  constructor
  case run_iff =>
    intro t run
    constructor
    · intro h
      exact h.exists_exactRun
    · rintro ⟨pinged, h, rfl⟩
      exact h.isRun
  case made =>
    intro t run now h hnow e
    rw [← h.isRun.scenario_steps.1] at hvalid
    exact not_yields_error_exactStep hvalid hnow
  case shows =>
    intro t run s h
    exact h.showsLastPing

/-- The first ping is lost, and the second gets through and is weak. -/
theorem followsPings_adrift :
    adrift.validate = .ok () ∧ FollowsPings adrift ∧
      ∃ t a b, ExactRun adrift t [a, b] ∧ a.snapshot.leaderSignalStrength = 0 ∧
        a.snapshot.trackerState = ["DARK"] ∧ b.snapshot.leaderSignalStrength = 45 ∧
        b.snapshot.trackerState = ["ONLINE", "WEAK"] := by
  have hvalid : adrift.validate = .ok () := rfl
  have hfollows := followsPings hvalid
  have hnow : Instant.earliest.second + Watchdog.timeout ≤ epoch.second := by decide
  have hprobabilities := Scenario.hasProbabilities_of_validate hvalid
  have hlost : (chance adrift.pingLossProbability).Yields (.ok true) :=
    Plan.yields_chance_iff.mpr ⟨hprobabilities.pingLoss, fun _ => rfl⟩
  have hreceived : (chance adrift.pingLossProbability).Yields (.ok false) :=
    Plan.yields_chance_iff.mpr ⟨hprobabilities.pingLoss, nofun⟩
  have hinSync : (chance adrift.outOfSyncProbability).Yields (.ok false) :=
    Plan.yields_chance_iff.mpr ⟨hprobabilities.outOfSync, nofun⟩
  obtain ⟨a, haPing, ha⟩ := ExactRun.start.exists_step hvalid hnow
    (yields_drawPing_iff.mpr (.inl ⟨hlost, rfl⟩))
  have hnone : pingsIn ([] ++ [a]) = [] := pingsIn_snoc_lost haPing
  have hscenario : a.tracker.scenario = adrift := ha.isRun.scenario_steps.1
  have hrssi : a.tracker.leaderRssi = 255 := by
    have hlink := ha.link_eq
    rw [hnone] at hlink
    exact congrArg Prod.fst hlink
  have hdraws : ({ a.tracker with steps := a.tracker.steps + 1 }.drawPing epoch).Yields
      (.ok (some ⟨epoch, 45, banditHash⟩)) := by
    rw [yields_drawPing_iff]
    simp only [hscenario, hrssi]
    exact .inr ⟨hreceived, -210, false, by decide, hinSync, rfl⟩
  obtain ⟨b, hbPing, hb⟩ := ha.exists_step hvalid hnow hdraws
  have hshowsA := hfollows.shows _ [] a ha
  have hshowsB := hfollows.shows _ [a] b hb
  obtain ⟨hstrengthA, hstateA⟩ := hshowsA.dark hnone
  obtain ⟨hstrengthB, hdark | hlive⟩ := hshowsB.last ⟨epoch, 45, banditHash⟩
    (by rw [pingsIn_snoc_received hbPing, List.getLast?_concat])
  · have hbright : TrackerState.dark.name ∉ b.snapshot.trackerState :=
      hshowsB.live (by rw [hbPing]; exact Option.some_ne_none _)
    rw [hdark] at hbright
    exact absurd (List.mem_singleton_self _) hbright
  · exact ⟨hvalid, hfollows, b.tracker, a, b, hb, hstrengthA, hstateA, hstrengthB, hlive⟩

end SimulatedTracker

end TrackerBoard
