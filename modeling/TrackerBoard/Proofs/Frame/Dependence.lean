import TrackerBoard.Frame.Basic

/-! # What the cells of a frame depend on

Each cell is told from a few fields of a snapshot, and the other fields can be anything.  For most
cells these fields are always the same.  The cells of tracking look at less the less is known:
without tracking at nothing else, and without an active track at the target alone, so that what a
snapshot still says of an earlier bandit does not show (`ShowsNoMore`).
-/

namespace TrackerBoard

namespace Snapshot

/-- A snapshot without what is known of a contact. -/
def withoutContact (s : Snapshot) : Snapshot :=
  { s with track := none, trackFrames := 0, trackContact := none, banditSignal := none }

/-- A snapshot without the target and what is known of a contact. -/
def withoutTask (s : Snapshot) : Snapshot := { s.withoutContact with trackingTarget := none }

/-- A snapshot without the time at which it was made. -/
def withoutClock (s : Snapshot) : Snapshot := { s with clock := none }

variable {s s' : Snapshot}

theorem withoutTask_eq_of_withoutContact (h : s.withoutContact = s'.withoutContact) :
    s.withoutTask = s'.withoutTask ∧ s.target = s'.target := by
  have htarget : s.trackingTarget = s'.trackingTarget := by
    show s.withoutContact.trackingTarget = s'.withoutContact.trackingTarget
    rw [h]
  rw [withoutTask, withoutTask, h, target, target, htarget]
  exact ⟨rfl, rfl⟩

/-- A track that is absent or empty is not active. -/
theorem activeTrack_eq_none (h : s.track = none ∨ s.track = some "") : s.activeTrack = none := by
  rcases h with h | h
  · rw [activeTrack, h]
    rfl
  · rw [activeTrack, h]
    rfl

end Snapshot

namespace TrackingCells

variable {s s' : Snapshot} (zone : Zone)

theorem ofSnapshot_idle (h : s.isTracking = false) : ofSnapshot s zone = idle := by
  rw [ofSnapshot, if_neg (by rw [h]; exact Bool.false_ne_true)]

/-- Without an active track only the target shows. -/
theorem ofSnapshot_searching (htracking : s.isTracking = true) (htrack : s.activeTrack = none) :
    ofSnapshot s zone = withoutContact ⟨"TRACKING", .green⟩
      (Indicator.ofOption (⟨·, .neutral⟩) s.target) ⟨"NO CTCT", .red⟩ := by
  rw [ofSnapshot, if_pos htracking, htrack]

end TrackingCells

/-- Without a signal strength the cell says so, and this is when the link is dark. -/
theorem signalCell_eq_notAvailable_iff (states : List String) (strength : Int64) :
    signalCell states strength = .notAvailable ↔ connectionCell states = ⟨"DARK", .red⟩ := by
  have hlabel : (connectionCell states).label = "DARK" ↔ connectionCell states = ⟨"DARK", .red⟩ := by
    rw [connectionCell]
    by_cases hweak : mentions states TrackerState.weak.name = true
    · rw [if_pos hweak]
      decide
    by_cases honline : mentions states TrackerState.online.name = true
    · rw [if_neg hweak, if_pos honline]
      decide
    · rw [if_neg hweak, if_neg honline]
      decide
  rw [← hlabel, signalCell]
  by_cases hdark : (connectionCell states).label = "DARK"
  · rw [if_pos hdark]
    exact iff_of_true rfl hdark
  · rw [if_neg hdark]
    refine iff_of_false ?_ hdark
    intro hcell
    have htone : Tone.neutral = Tone.inactive := congrArg Indicator.tone hcell
    exact absurd htone (by decide)

namespace Frame

variable {s s' : Snapshot} {zone : Zone}

/-- All cells but those of tracking are told without the target and the contact. -/
theorem ofSnapshot_eq_of_withoutTask (hrest : s.withoutTask = s'.withoutTask)
    (htracking : TrackingCells.ofSnapshot s zone = TrackingCells.ofSnapshot s' zone) :
    ofSnapshot s zone = ofSnapshot s' zone :=
  calc ofSnapshot s zone
    _ = { ofSnapshot s.withoutTask zone with tracking := .ofSnapshot s zone } := rfl
    _ = { ofSnapshot s'.withoutTask zone with tracking := .ofSnapshot s' zone } := by
      rw [hrest, htracking]
    _ = ofSnapshot s' zone := rfl

/-- What it takes for two snapshots to be shown alike, as a whole and cell by cell. -/
structure ShowsNoMore (s s' : Snapshot) (zone : Zone) : Prop where
  /-- Without tracking nothing shows of a target or a bandit. -/
  idle : s.isTracking = false → s'.isTracking = false → s.withoutTask = s'.withoutTask →
    ofSnapshot s zone = ofSnapshot s' zone
  /-- Without an active track nothing shows of a contact. -/
  searching : s.isTracking = true → s'.isTracking = true →
    (s.track = none ∨ s.track = some "") → (s'.track = none ∨ s'.track = some "") →
      s.withoutContact = s'.withoutContact → ofSnapshot s zone = ofSnapshot s' zone
  /-- The time at which a snapshot was made never shows. -/
  clock : s.withoutClock = s'.withoutClock → ofSnapshot s zone = ofSnapshot s' zone
  connection : s.trackerState = s'.trackerState →
    (ofSnapshot s zone).connection = (ofSnapshot s' zone).connection
  signal : s.trackerState = s'.trackerState → s.leaderSignalStrength = s'.leaderSignalStrength →
    (ofSnapshot s zone).signal = (ofSnapshot s' zone).signal
  dark : (ofSnapshot s zone).signal = ⟨"N/A", .inactive⟩ ↔
    (ofSnapshot s zone).connection = ⟨"DARK", .red⟩
  deviceLink : s.trackerDeviceLive = s'.trackerDeviceLive →
    (ofSnapshot s zone).deviceLink = (ofSnapshot s' zone).deviceLink
  monitorsLink : s.monitorsLive = s'.monitorsLive →
    (ofSnapshot s zone).monitorsLink = (ofSnapshot s' zone).monitorsLink
  channels : s.channels = s'.channels →
    (ofSnapshot s zone).channels = (ofSnapshot s' zone).channels
  designator : s.channelDesignation = s'.channelDesignation →
    (ofSnapshot s zone).designator = (ofSnapshot s' zone).designator
  events : s.events = s'.events → (ofSnapshot s zone).events = (ofSnapshot s' zone).events
  tracking : s.isTracking = s'.isTracking → s.trackingTarget = s'.trackingTarget →
    s.track = s'.track → s.trackFrames = s'.trackFrames → s.trackContact = s'.trackContact →
      s.banditSignal = s'.banditSignal →
        (ofSnapshot s zone).tracking = (ofSnapshot s' zone).tracking

/-- **A frame shows nothing that is stale, and no cell shows what is not its own.** -/
theorem showsNoMore (s s' : Snapshot) (zone : Zone) : ShowsNoMore s s' zone := by
  constructor
  case idle =>
    intro hidle hidle' hrest
    apply ofSnapshot_eq_of_withoutTask hrest
    rw [TrackingCells.ofSnapshot_idle zone hidle, TrackingCells.ofSnapshot_idle zone hidle']
  case searching =>
    intro htracking htracking' htrack htrack' hrest
    obtain ⟨hrest, htarget⟩ := Snapshot.withoutTask_eq_of_withoutContact hrest
    apply ofSnapshot_eq_of_withoutTask hrest
    have hnone := Snapshot.activeTrack_eq_none htrack
    have hnone' := Snapshot.activeTrack_eq_none htrack'
    rw [TrackingCells.ofSnapshot_searching zone htracking hnone,
      TrackingCells.ofSnapshot_searching zone htracking' hnone', htarget]
  case clock =>
    intro hrest
    show ofSnapshot s.withoutClock zone = ofSnapshot s'.withoutClock zone
    rw [hrest]
  case connection => exact congrArg connectionCell
  case signal =>
    intro hstates hstrength
    show signalCell s.trackerState s.leaderSignalStrength = _
    rw [hstates, hstrength]
    rfl
  case dark => exact signalCell_eq_notAvailable_iff s.trackerState s.leaderSignalStrength
  case deviceLink => exact congrArg linkCell
  case monitorsLink => exact congrArg linkCell
  case channels => exact congrArg channelsCell
  case designator => exact congrArg designatorCell
  case events => exact congrArg (eventLines zone)
  case tracking =>
    intro htracking htarget htrack hframes hcontact hsignal
    show TrackingCells.ofSnapshot s zone = TrackingCells.ofSnapshot s' zone
    simp only [TrackingCells.ofSnapshot, Snapshot.target, Snapshot.activeTrack, htracking, htarget,
      htrack, hframes, hcontact, hsignal]

/-- A bandit that is not tracked any more does not show, nor does one whose track is empty. -/
theorem showsNoMore_lostTrack :
    let idle : Snapshot := {}
    let searching : Snapshot := { isTracking := true, trackingTarget := some "pineapple" }
    ofSnapshot { idle with track := some "a1b2", trackFrames := 42 } .utc = ofSnapshot idle .utc ∧
      ofSnapshot { searching with track := some "", trackFrames := 42 } .utc =
        ofSnapshot searching .utc := by
  intro idle searching
  constructor
  · exact (showsNoMore { idle with track := some "a1b2", trackFrames := 42 } idle .utc).idle
      rfl rfl rfl
  · exact (showsNoMore { searching with track := some "", trackFrames := 42 } searching
      .utc).searching rfl rfl (.inr rfl) (.inl rfl) rfl

end Frame

end TrackerBoard
