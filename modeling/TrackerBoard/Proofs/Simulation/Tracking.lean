import Mathlib.Data.List.DropRight
import TrackerBoard.Proofs.Simulation.Run

/-! # What the tracker says of the bandit

In every snapshot of a run the fields that speak of the bandit agree with each other
(`SessionData.IsConsistent`), from one snapshot of a session to the next they either stay or grow by
a contact (`SessionData.IsHeard`), and all of them come from steps of the session itself: the steps
since the last snapshot that did not track (`sessionSteps`, `IsOwn`).  A session begins with a
request of the leader, and never right after another session (`TracksSessions`).
-/

namespace TrackerBoard

/-- The fields that speak of the bandit agree with each other. -/
structure SessionData.IsConsistent (d : SessionData) : Prop where
  idle : d.isTracking = false →
    d.track = none ∧ d.trackFrames = 0 ∧ d.trackContact = none ∧ d.banditSignal = none
  frames : d.track.isSome ↔ 1 ≤ d.trackFrames
  contact : d.track.isSome ↔ d.trackContact.isSome
  signal : d.track.isSome ↔ d.banditSignal.isSome
  range : ∀ signal ∈ d.banditSignal, -95 ≤ signal ∧ signal ≤ -30

/-- A contact at a moment: the bandit keeps its identifier, and some frames are added. -/
structure SessionData.IsHeard (scenario : Scenario) (now : Instant) (before after : SessionData) :
    Prop where
  track : ∀ track ∈ before.track, after.track = some track
  frames : ∃ n, (1 ≤ n ∧ n ≤ max scenario.maxFramesPerContact.toNat 1) ∧
    after.trackFrames.toNat = min (UInt64.size - 1) (before.trackFrames.toNat + n)
  contact : after.trackContact = some now

namespace Session

variable {scenario : Scenario} {now : Instant} {s s' : Session} {recorded : List TrackerEvent}
  {heard : Bool}

/-- What is said in a session agrees with itself. -/
theorem isConsistent_data (s : Session) : s.data.IsConsistent := by
  cases s with
  | idle => exact ⟨fun _ => ⟨rfl, rfl, rfl, rfl⟩, by decide, by decide, by decide, nofun⟩
  | searching => exact ⟨nofun, by decide, by decide, by decide, nofun⟩
  | inContact c =>
    constructor
    case idle => exact nofun
    case frames =>
      have hframes : 1 ≤ c.frames := by
        have hpos := c.frames_pos
        rw [UInt64.lt_iff_toNat_lt] at hpos
        rw [UInt64.le_iff_toNat_le]
        exact hpos
      exact iff_of_true rfl hframes
    case contact => exact iff_of_true rfl rfl
    case signal => exact iff_of_true rfl rfl
    case range =>
      rintro signal ⟨rfl⟩
      exact ⟨c.le_signal, c.signal_le⟩

/-- What is heard neither begins a session nor ends it. -/
theorem Hears.isTracking (h : s.Hears scenario now s' recorded heard) :
    s'.data.isTracking = s.data.isTracking := by
  cases h <;> rfl

theorem Hears.advances (h : s.Hears scenario now s' recorded heard) :
    (heard = false ∧ s' = s) ∨ (heard = true ∧ s.data.IsHeard scenario now s'.data) := by
  cases h with
  | silence => exact .inl ⟨rfl, rfl⟩
  | @first c frames hframes htotal hheard =>
    refine .inr ⟨rfl, nofun, ⟨frames, hframes, ?_⟩, congrArg some hheard⟩
    exact (congrArg UInt64.toNat htotal).trans (SimulatedTracker.toNat_addFrames 0 frames)
  | @again c c' frames hframes htotal htrack hheard =>
    refine .inr ⟨rfl, ?_, ⟨frames, hframes, ?_⟩, congrArg some hheard⟩
    · rintro track ⟨rfl⟩
      exact congrArg some htrack
    · exact (congrArg UInt64.toNat htotal).trans (SimulatedTracker.toNat_addFrames c.frames frames)

/-- A move to a session that tracks is silence or a contact, whether or not the session begins. -/
theorem Moves.advances (h : s.Moves scenario now s' recorded heard)
    (hafter : s'.data.isTracking = true) :
    (heard = false ∧ s'.data = { s.data with isTracking := true }) ∨
      (heard = true ∧ s.data.IsHeard scenario now s'.data) := by
  obtain ⟨hasks, hhears, -⟩ := h
  have hasked := hhears.isTracking.symm.trans hafter
  rcases hhears.advances with ⟨hsilence, rfl⟩ | ⟨hcontact, hheard⟩
  · refine .inl ⟨hsilence, ?_⟩
    cases hasks with
    | nothing => rw [← hafter]
    | tracking => rfl
    | cancel => exact absurd hasked Bool.false_ne_true
  · refine .inr ⟨hcontact, ?_⟩
    cases hasks with
    | nothing => exact hheard
    | tracking => exact ⟨hheard.track, hheard.frames, hheard.contact⟩
    | cancel => exact absurd hasked Bool.false_ne_true

theorem Asks.track_iff (h : s.Asks now s' recorded) (hafter : s'.data.isTracking = true)
    (track : String) :
    s'.data.track = some track ↔
      s.data.track = some track ∨ SimulatedTracker.contactEvent now track ∈ recorded := by
  cases h with
  | nothing => exact (or_iff_left List.not_mem_nil).symm
  | tracking =>
    refine (or_iff_left ?_).symm
    intro hmem
    have hsource : SimulatedTracker.trackerSource = SimulatedTracker.leaderSource :=
      congrArg TrackerEvent.source (List.mem_singleton.mp hmem)
    exact absurd hsource (by decide)
  | cancel => exact absurd hafter Bool.false_ne_true

theorem Hears.track_iff (h : s.Hears scenario now s' recorded heard) (track : String) :
    s'.data.track = some track ↔
      s.data.track = some track ∨ SimulatedTracker.contactEvent now track ∈ recorded := by
  cases h with
  | silence => exact (or_iff_left List.not_mem_nil).symm
  | again hframes htotal htrack hheard =>
    rw [or_iff_left List.not_mem_nil, data, data, htrack]
  | @first c frames hframes htotal hheard =>
    rw [List.mem_singleton]
    constructor
    · rintro ⟨rfl⟩
      exact .inr rfl
    · rintro (hnone | hevent)
      · exact absurd hnone.symm (Option.some_ne_none track)
      · have hmessage := congrArg TrackerEvent.message hevent
        have htrack := SimulatedTracker.contactMessage_injective hmessage
        exact congrArg some htrack.symm

/-- The identifier that the bandit has in a session was recorded in it. -/
theorem Moves.track_iff (h : s.Moves scenario now s' recorded heard)
    (hafter : s'.data.isTracking = true) (track : String) :
    s'.data.track = some track ↔
      s.data.track = some track ∨ SimulatedTracker.contactEvent now track ∈ recorded := by
  obtain ⟨hasks, hhears, rfl⟩ := h
  have hasked := hhears.isTracking.symm.trans hafter
  rw [hhears.track_iff, hasks.track_iff hasked, List.mem_append, or_assoc]

theorem Hears.requestEvent_notMem (h : s.Hears scenario now s' recorded heard) :
    SimulatedTracker.requestEvent now ∉ recorded := by
  cases h with
  | silence => exact List.not_mem_nil
  | again => exact List.not_mem_nil
  | first hframes htotal hheard =>
    intro hmem
    have hsource : SimulatedTracker.leaderSource = SimulatedTracker.trackerSource :=
      congrArg TrackerEvent.source (List.mem_singleton.mp hmem)
    exact absurd hsource (by decide)

theorem Asks.begins_iff (h : s.Asks now s' recorded) :
    SimulatedTracker.requestEvent now ∈ recorded ↔
      s.data.isTracking = false ∧ s'.data.isTracking = true := by
  cases h with
  | nothing =>
    refine iff_of_false List.not_mem_nil ?_
    rintro ⟨hbefore, hafter⟩
    exact Bool.false_ne_true (hbefore.symm.trans hafter)
  | tracking => exact iff_of_true (List.mem_singleton_self _) ⟨rfl, rfl⟩
  | cancel htracking =>
    refine iff_of_false ?_ (fun hbegins => Bool.false_ne_true hbegins.2)
    intro hmem
    have hmessage : SimulatedTracker.requestMessage = SimulatedTracker.cancelMessage :=
      congrArg TrackerEvent.message (List.mem_singleton.mp hmem)
    exact absurd hmessage (by decide)

/-- A request is recorded exactly when a session begins. -/
theorem Moves.begins_iff (h : s.Moves scenario now s' recorded heard) :
    SimulatedTracker.requestEvent now ∈ recorded ↔
      s.data.isTracking = false ∧ s'.data.isTracking = true := by
  obtain ⟨hasks, hhears, rfl⟩ := h
  rw [List.mem_append, or_iff_left hhears.requestEvent_notMem, hhears.isTracking]
  exact hasks.begins_iff

end Session

namespace SimulatedTracker

variable {t t' : SimulatedTracker} {scenario : Scenario} {run : List MadeStep} {s : MadeStep}

/-- The steps of the session that some steps lead to: the last of them whose snapshots track. -/
def sessionSteps (run : List MadeStep) : List MadeStep := run.rtakeWhile (·.snapshot.isTracking)

/-- The steps with a contact. -/
def heardIn (run : List MadeStep) : List MadeStep := run.filter (·.heard)

theorem sessionSteps_snoc_tracking (h : s.snapshot.isTracking = true) :
    sessionSteps (run ++ [s]) = sessionSteps run ++ [s] :=
  List.rtakeWhile_concat_pos _ _ _ h

theorem sessionSteps_snoc_idle (h : s.snapshot.isTracking = false) :
    sessionSteps (run ++ [s]) = [] :=
  List.rtakeWhile_concat_neg _ _ _ (by rw [h]; exact Bool.false_ne_true)

/-- What is said of the bandit comes from some steps. -/
structure IsOwn (scenario : Scenario) (steps : List MadeStep) (d : SessionData) : Prop where
  track : ∀ track, d.track = some track ↔ ∃ s ∈ steps, contactEvent s.now track ∈ s.recorded
  contact : d.trackContact = (heardIn steps).getLast?.map (·.now)
  signal : d.banditSignal = (heardIn steps).getLast?.bind (·.snapshot.banditSignal)
  le_frames : min (UInt64.size - 1) (heardIn steps).length ≤ d.trackFrames.toNat
  frames_le : d.trackFrames.toNat ≤
    (heardIn steps).length * max scenario.maxFramesPerContact.toNat 1

theorem isOwn_idle : IsOwn scenario [] Session.idle.data := by
  constructor
  case track =>
    intro track
    refine iff_of_false (Option.some_ne_none track).symm ?_
    rintro ⟨s, hs, -⟩
    exact List.not_mem_nil hs
  case contact => rfl
  case signal => rfl
  case le_frames => exact Nat.min_le_right (UInt64.size - 1) 0
  case frames_le => exact Nat.zero_le _

section Step
variable {steps : List MadeStep} {d d' : SessionData}

theorem heardIn_snoc_silence (h : s.heard = false) : heardIn (steps ++ [s]) = heardIn steps := by
  rw [heardIn, List.filter_append, List.filter_singleton, h]
  exact List.append_nil _

theorem heardIn_snoc_contact (h : s.heard = true) :
    heardIn (steps ++ [s]) = heardIn steps ++ [s] := by
  rw [heardIn, List.filter_append, List.filter_singleton, h]
  rfl

theorem IsOwn.snoc_track (h : IsOwn scenario steps d)
    (htrack : ∀ track, d'.track = some track ↔
      d.track = some track ∨ contactEvent s.now track ∈ s.recorded) (track : String) :
    d'.track = some track ↔ ∃ s' ∈ steps ++ [s], contactEvent s'.now track ∈ s'.recorded := by
  rw [htrack, h.track, exists_mem_concat]

theorem IsOwn.snoc_silence (h : IsOwn scenario steps d) (hheard : s.heard = false)
    (htrack : ∀ track, d'.track = some track ↔
      d.track = some track ∨ contactEvent s.now track ∈ s.recorded)
    (hsame : d' = { d with isTracking := true }) : IsOwn scenario (steps ++ [s]) d' := by
  have htrack := h.snoc_track htrack
  subst hsame
  constructor
  case track => exact htrack
  case contact => rw [heardIn_snoc_silence hheard]; exact h.contact
  case signal => rw [heardIn_snoc_silence hheard]; exact h.signal
  case le_frames => rw [heardIn_snoc_silence hheard]; exact h.le_frames
  case frames_le => rw [heardIn_snoc_silence hheard]; exact h.frames_le

theorem IsOwn.snoc_contact (h : IsOwn scenario steps d) (hheard : s.heard = true)
    (htrack : ∀ track, d'.track = some track ↔
      d.track = some track ∨ contactEvent s.now track ∈ s.recorded)
    (hcontact : d.IsHeard scenario s.now d') (hshown : s.snapshot.sessionData = d') :
    IsOwn scenario (steps ++ [s]) d' := by
  have htrack := h.snoc_track htrack
  obtain ⟨n, ⟨hpos, hmax⟩, hframes⟩ := hcontact.frames
  have hlow := h.le_frames
  have hhigh := h.frames_le
  constructor
  case track => exact htrack
  case contact =>
    rw [heardIn_snoc_contact hheard, List.getLast?_concat, hcontact.contact]
    rfl
  case signal =>
    rw [heardIn_snoc_contact hheard, List.getLast?_concat, ← hshown]
    rfl
  case le_frames =>
    rw [heardIn_snoc_contact hheard, List.length_append, List.length_singleton, hframes]
    omega
  case frames_le =>
    rw [heardIn_snoc_contact hheard, List.length_append, List.length_singleton, hframes,
      Nat.succ_mul]
    omega

end Step

/-- What is said of the bandit after a run comes from the steps of its session. -/
theorem Run.isOwn (h : Run scenario t run) : IsOwn scenario (sessionSteps run) t.sessionData := by
  induction h with
  | start => exact isOwn_idle
  | @step t run s h hstep ih =>
    obtain ⟨a, b, hbefore, hafter, hshown, hmoves⟩ := h.exists_move (stepped_of_yields hstep)
    have hsnapshot : s.snapshot.isTracking = b.data.isTracking :=
      congrArg SessionData.isTracking hshown
    rw [hbefore] at ih
    rw [hafter]
    cases htracking : b.data.isTracking with
    | false =>
      rw [sessionSteps_snoc_idle (hsnapshot.trans htracking), Session.eq_idle htracking]
      exact isOwn_idle
    | true =>
      rw [sessionSteps_snoc_tracking (hsnapshot.trans htracking)]
      have htrack := hmoves.track_iff htracking
      -- a session that begins goes on from what is said of none, so both cases go the same way
      rcases hmoves.advances htracking with ⟨hsilence, hsame⟩ | ⟨hcontact, hheard⟩
      · exact ih.snoc_silence hsilence htrack hsame
      · exact ih.snoc_contact hcontact htrack hheard hshown

/-- What the snapshot of the last step of a run says of the bandit. -/
structure TracksSessions (scenario : Scenario) (run : List MadeStep) (s : MadeStep) : Prop where
  consistent : s.snapshot.sessionData.IsConsistent
  target : s.snapshot.trackingTarget =
    if s.snapshot.isTracking then some scenario.trackingTarget else none
  /-- Within a session nothing changes without a contact. -/
  continues : ∀ before, run.getLast? = some before →
    before.snapshot.isTracking = true → s.snapshot.isTracking = true →
      (s.heard = false ∧ s.snapshot.sessionData = before.snapshot.sessionData) ∨
      (s.heard = true ∧
        before.snapshot.sessionData.IsHeard scenario s.now s.snapshot.sessionData)
  own : IsOwn scenario (sessionSteps (run ++ [s])) s.snapshot.sessionData
  begins : requestEvent s.now ∈ s.recorded ↔ sessionSteps (run ++ [s]) = [s]
  /-- Between the first steps of two sessions there is a step whose snapshot does not track. -/
  separated : ∀ earlier first rest, run = earlier ++ first :: rest →
    requestEvent first.now ∈ first.recorded → requestEvent s.now ∈ s.recorded →
      ∃ between ∈ rest, between.snapshot.isTracking = false

theorem Run.sessionSteps_eq_nil_iff (h : Run scenario t run) :
    sessionSteps run = [] ↔ t.isTracking = false := by
  cases h with
  | start => exact iff_of_true rfl rfl
  | @step t run s h hstep =>
    have hshown := (stepped_of_yields hstep).sessionData_snapshot
    have htracking : s.snapshot.isTracking = s.tracker.isTracking :=
      congrArg SessionData.isTracking hshown
    rw [← htracking]
    by_cases hs : s.snapshot.isTracking = true
    · rw [sessionSteps_snoc_tracking hs, hs]
      exact iff_of_false (List.concat_ne_nil s _) Bool.false_ne_true.symm
    · have hs := Bool.eq_false_iff.mpr hs
      exact iff_of_true (sessionSteps_snoc_idle hs) hs

/-- A step that records a request is the first of a session. -/
theorem Run.begins_iff (h : Run scenario t (run ++ [s])) :
    requestEvent s.now ∈ s.recorded ↔ sessionSteps (run ++ [s]) = [s] := by
  obtain ⟨t₀, hrun, hstepped, rfl⟩ := h.exists_before
  obtain ⟨a, b, hbefore, -, hshown, hmoves⟩ := hrun.exists_move hstepped
  have htracked : t₀.isTracking = a.data.isTracking := congrArg SessionData.isTracking hbefore
  have htracking : s.snapshot.isTracking = b.data.isTracking :=
    congrArg SessionData.isTracking hshown
  rw [hmoves.begins_iff, ← htracked, ← htracking, ← hrun.sessionSteps_eq_nil_iff]
  by_cases hs : s.snapshot.isTracking = true
  · rw [sessionSteps_snoc_tracking hs, and_iff_left hs]
    exact List.append_left_eq_self.symm
  · rw [sessionSteps_snoc_idle (Bool.eq_false_iff.mpr hs)]
    exact iff_of_false (fun h => hs h.2) (List.cons_ne_nil s []).symm

/-- Steps that lead to a snapshot that does not track have one after every one that tracks. -/
theorem exists_idle_of_sessionSteps {earlier rest : List MadeStep} {first : MadeStep}
    (h : sessionSteps (earlier ++ first :: rest) = []) (hfirst : first.snapshot.isTracking = true) :
    ∃ between ∈ rest, between.snapshot.isTracking = false := by
  have hne : earlier ++ first :: rest ≠ [] :=
    List.append_ne_nil_of_right_ne_nil _ (List.cons_ne_nil _ _)
  have hlast := List.rtakeWhile_eq_nil_iff.mp h hne
  rw [List.getLast_append_of_right_ne_nil _ _ (List.cons_ne_nil first rest)] at hlast
  rcases List.mem_cons.mp (List.getLast_mem (List.cons_ne_nil first rest)) with hsame | hmem
  · rw [hsame] at hlast
    exact absurd hfirst hlast
  · exact ⟨_, hmem, Bool.eq_false_iff.mpr hlast⟩

theorem Stepped.target {r : StepResult} {now : Instant} (h : t.Stepped now r) :
    r.snapshot.trackingTarget =
      if r.snapshot.isTracking then some t.scenario.trackingTarget else none := by
  rw [← h.scenario_steps.1]
  cases h
  rfl

/-- **Sessions are told apart in the snapshots, and each says only what was heard in it.** -/
theorem Run.tracksSessions (h : Run scenario t (run ++ [s])) : TracksSessions scenario run s := by
  have hown := h.isOwn
  have hbegins := h.begins_iff
  obtain ⟨t₀, hrun, hstepped, rfl⟩ := h.exists_before
  obtain ⟨a, b, hbefore, hafter, hshown, hmoves⟩ := hrun.exists_move hstepped
  constructor
  case consistent =>
    rw [hshown]
    exact b.isConsistent_data
  case target => rw [hstepped.target, hrun.scenario_steps.1]
  case continues =>
    intro last hlast hlastTracking hsTracking
    have hlastShown := (hrun.sessionData_last hlast).trans hbefore
    have htracked : a.data.isTracking = true := hlastShown ▸ hlastTracking
    have htracking : b.data.isTracking = true := hshown ▸ hsTracking
    rw [hshown, hlastShown]
    rcases hmoves.advances htracking with ⟨hsilence, hsame⟩ | hcontact
    · refine .inl ⟨hsilence, ?_⟩
      rw [hsame, ← htracked]
    · exact .inr hcontact
  case own =>
    rw [hshown, ← hafter]
    exact hown
  case begins => exact hbegins
  case separated =>
    intro earlier first rest hearlier hfirst hs
    have hidle : t₀.isTracking = false :=
      (congrArg SessionData.isTracking hbefore).trans (hmoves.begins_iff.mp hs).1
    have hsteps := hrun.sessionSteps_eq_nil_iff.mpr hidle
    rw [hearlier] at hsteps hrun
    rw [List.append_cons] at hrun
    obtain ⟨t₁, hstart⟩ := hrun.exists_prefix
    refine exists_idle_of_sessionSteps hsteps ?_
    by_contra hnot
    have hnone : sessionSteps (earlier ++ [first]) = [] :=
      sessionSteps_snoc_idle (Bool.eq_false_iff.mpr hnot)
    exact List.cons_ne_nil first [] ((hstart.begins_iff.mp hfirst).symm.trans hnone)

/-- A second session, after one that was canceled. -/
theorem tracksSessions_second :
    ∃ t run s, Run eventful t (run ++ [s]) ∧
      (run ++ [s]).map (·.snapshot.isTracking) = [true, false, true] ∧
      TracksSessions eventful run s := by
  obtain ⟨t, h⟩ := exists_run_drawn eventful (.ofSeed 7) [epoch, epoch, epoch]
  have hne : (new eventful).drawn (.ofSeed 7) [epoch, epoch, epoch] ≠ [] := by decide +kernel
  have htracking : ((new eventful).drawn (.ofSeed 7) [epoch, epoch, epoch]).map
      (·.snapshot.isTracking) = [true, false, true] := by decide +kernel
  rw [← List.dropLast_append_getLast hne] at h htracking
  exact ⟨t, _, _, h, htracking, h.tracksSessions⟩

end SimulatedTracker

end TrackerBoard
