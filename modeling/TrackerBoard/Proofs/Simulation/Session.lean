import Mathlib.Data.List.Basic
import TrackerBoard.Proofs.Simulation.Step

/-! # Sessions

A tracker keeps what it knows of a bandit in five fields, each of which is set and reset on its own.
Taken together they are a session: none, one without a contact so far, or one in contact
(`Session.data`).  No other contents of the five fields come up, since what a step does to them is
what a session can go through: the leader asks for something (`Session.Asks`), and then the bandit
may be heard (`Session.Hears`).  So a step of a tracker in some session is a move of that session
(`Stepped.exists_move`).
-/

namespace TrackerBoard

/-- What a tracker, or a snapshot of it, says of the bandit that is tracked. -/
structure SessionData where
  isTracking : Bool
  track : Option String
  trackFrames : UInt64
  trackContact : Option Instant
  banditSignal : Option Int64

/-- What is said of the bandit. -/
def SimulatedTracker.sessionData (t : SimulatedTracker) : SessionData :=
  ⟨t.isTracking, t.track, t.trackFrames, t.trackContact, t.banditSignal⟩

/-- What is said of the bandit. -/
def Snapshot.sessionData (s : Snapshot) : SessionData :=
  ⟨s.isTracking, s.track, s.trackFrames, s.trackContact, s.banditSignal⟩

/-- What is said of the bandit after a contact. -/
def SessionData.hear (d : SessionData) (frames : Nat) (now : Instant) (signal : Int64) :
    SessionData :=
  { d with
    trackFrames := SimulatedTracker.addFrames d.trackFrames frames
    trackContact := some now
    banditSignal := some signal }

/-- A bandit that was heard. -/
structure Contact where
  track : String
  frames : UInt64
  heardAt : Instant
  signal : Int64
  /-- At least one frame was heard. -/
  frames_pos : 0 < frames
  le_signal : -95 ≤ signal
  signal_le : signal ≤ -30

/-- Whether a tracker tracks, and whether it has heard the bandit. -/
inductive Session where
  | idle
  | searching
  | inContact (c : Contact)

namespace Session

/-- What a tracker says in a session. -/
def data : Session → SessionData
  | idle => ⟨false, none, 0, none, none⟩
  | searching => ⟨true, none, 0, none, none⟩
  | inContact c => ⟨true, some c.track, c.frames, some c.heardAt, some c.signal⟩

theorem eq_idle {s : Session} (h : s.data.isTracking = false) : s = idle := by
  cases s with
  | idle => rfl
  | searching => exact absurd h.symm Bool.false_ne_true
  | inContact c => exact absurd h.symm Bool.false_ne_true

theorem eq_searching {s : Session} (htracking : s.data.isTracking = true)
    (hnone : s.data.track = none) : s = searching := by
  cases s with
  | idle => exact absurd htracking Bool.false_ne_true
  | searching => rfl
  | inContact c => exact absurd hnone (Option.some_ne_none c.track)

theorem exists_eq_inContact {s : Session} {track : String} (h : s.data.track = some track) :
    ∃ c, s = inContact c ∧ c.track = track := by
  cases s with
  | idle => exact absurd h.symm (Option.some_ne_none track)
  | searching => exact absurd h.symm (Option.some_ne_none track)
  | inContact c => exact ⟨c, rfl, Option.some.inj h⟩

/-- A session that is asked for, or not, and the events of it. -/
inductive Asks (now : Instant) : Session → Session → List TrackerEvent → Prop
  | nothing (s : Session) : Asks now s s []
  | tracking : Asks now idle searching [SimulatedTracker.requestEvent now]
  | cancel {s : Session} (htracking : s.data.isTracking = true) :
      Asks now s idle [SimulatedTracker.cancelEvent now]

/-- A session in which the bandit is heard, or not, and the events of it. -/
inductive Hears (scenario : Scenario) (now : Instant) :
    Session → Session → List TrackerEvent → Bool → Prop
  | silence (s : Session) : Hears scenario now s s [] false
  | first {c : Contact} {frames : Nat}
      (hframes : 1 ≤ frames ∧ frames ≤ SimulatedTracker.maxFrames scenario)
      (htotal : c.frames = SimulatedTracker.addFrames 0 frames) (hheard : c.heardAt = now) :
      Hears scenario now searching (inContact c) [SimulatedTracker.contactEvent now c.track] true
  | again {c c' : Contact} {frames : Nat}
      (hframes : 1 ≤ frames ∧ frames ≤ SimulatedTracker.maxFrames scenario)
      (htotal : c'.frames = SimulatedTracker.addFrames c.frames frames)
      (htrack : c'.track = c.track) (hheard : c'.heardAt = now) :
      Hears scenario now (inContact c) (inContact c') [] true

/-- What a session goes through in a step, with the events of it. -/
inductive Moves (scenario : Scenario) (now : Instant) (s s' : Session)
    (recorded : List TrackerEvent) (heard : Bool) : Prop
  | move {s₁ : Session} {requests contacts : List TrackerEvent}
      (hasks : Asks now s s₁ requests) (hhears : Hears scenario now s₁ s' contacts heard)
      (hrecorded : recorded = requests ++ contacts)

end Session

namespace SimulatedTracker

variable {t t' : SimulatedTracker} {now : Instant}

theorem head?_contactMessage (track : String) : (contactMessage track).toList.head? = some 'I' := by
  unfold contactMessage
  rw [String.append_assoc, String.toList_append, List.head?_append_of_ne_nil _ (by decide)]
  decide

/-- The message of a contact starts with a letter of its own. -/
theorem contactMessage_ne {track message : String} (h : message.toList.head? ≠ some 'I') :
    contactMessage track ≠ message := by
  rintro rfl
  exact h (head?_contactMessage track)

theorem contactMessage_injective {track track' : String}
    (h : contactMessage track = contactMessage track') : track = track' := by
  unfold contactMessage at h
  exact (String.append_right_inj _).mp ((String.append_left_inj _).mp h)

theorem toNat_addFrames (frames : UInt64) (more : Nat) :
    (addFrames frames more).toNat = min (UInt64.size - 1) (frames.toNat + more) := by
  rw [addFrames, UInt64.toNat_ofNat_of_lt']
  exact Nat.lt_of_le_of_lt (Nat.min_le_left ..) (by decide)

theorem addFrames_pos (frames : UInt64) {more : Nat} (h : 1 ≤ more) :
    0 < addFrames frames more := by
  rw [UInt64.lt_iff_toNat_lt, toNat_addFrames]
  have hsize : 0 < UInt64.size - 1 := by decide
  have hzero : (0 : UInt64).toNat = 0 := rfl
  omega

/-- A signal that is drawn lies in its range. -/
theorem signal_mem {signal : Int} (h : -95 ≤ signal ∧ signal ≤ -30) :
    -95 ≤ Int64.ofInt signal ∧ Int64.ofInt signal ≤ -30 := by
  have hsignal : (Int64.ofInt signal).toInt = signal :=
    Int64.toInt_ofInt_of_le (by omega) (by omega)
  rw [Int64.le_iff_toInt_le, Int64.le_iff_toInt_le, hsignal]
  exact h

variable {s : Session}

/-- What the leader asks of a tracker is asked of its session. -/
theorem Requested.exists_asks {a : Activity} (h : t.Requested now t' a)
    (hs : t.sessionData = s.data) :
    ∃ s', t'.sessionData = s'.data ∧ s.Asks now s' a.recorded := by
  cases h with
  | nothing => exact ⟨s, hs, .nothing s⟩
  | tracking hidle =>
    have hsession : s.data.isTracking = false := hs ▸ hidle
    obtain rfl := Session.eq_idle hsession
    exact ⟨.searching, congrArg (fun d => { d with isTracking := true }) hs, .tracking⟩
  | cancel htracking =>
    have hsession : s.data.isTracking = true := hs ▸ htracking
    exact ⟨.idle, rfl, .cancel hsession⟩

/-- What a tracker hears is heard in its session. -/
theorem Listened.exists_hears {a : Activity} (h : t.Listened now t' a)
    (hs : t.sessionData = s.data) :
    ∃ s', t'.sessionData = s'.data ∧ s.Hears t.scenario now s' a.recorded a.heard := by
  cases h with
  | silence => exact ⟨s, hs, .silence s⟩
  | contact frames signal htracking htraced hopened hframes hsignal =>
    obtain ⟨d, rfl⟩ : ∃ d, _ = { t with designator := d } := ⟨_, htraced.eq⟩
    have hsession : s.data.isTracking = true := hs ▸ htracking
    obtain ⟨hle, hge⟩ := signal_mem hsignal
    have hcount : 1 ≤ frames.toNat ∧ frames.toNat ≤ maxFrames t.scenario := by omega
    cases hopened with
    | first word hnone =>
      obtain rfl := Session.eq_searching hsession ((congrArg SessionData.track hs).symm.trans hnone)
      refine ⟨.inContact ⟨trackName word, addFrames 0 frames.toNat, now, Int64.ofInt signal,
        addFrames_pos 0 hcount.1, hle, hge⟩, ?_, .first hcount rfl rfl⟩
      exact congrArg (fun d => { d.hear frames.toNat now (Int64.ofInt signal) with
        track := some (trackName word) }) hs
    | again hsome =>
      obtain ⟨c, rfl, -⟩ :=
        Session.exists_eq_inContact ((congrArg SessionData.track hs).symm.trans hsome)
      refine ⟨.inContact ⟨c.track, addFrames c.frames frames.toNat, now, Int64.ofInt signal,
        addFrames_pos c.frames hcount.1, hle, hge⟩, ?_, .again hcount rfl rfl rfl⟩
      exact congrArg (fun d => d.hear frames.toNat now (Int64.ofInt signal)) hs

/-- **A step of a tracker in a session is a move of the session.** -/
theorem Stepped.exists_move {r : StepResult} (h : t.Stepped now r) (hs : t.sessionData = s.data) :
    ∃ s', r.tracker.sessionData = s'.data ∧ s.Moves t.scenario now s' r.recorded r.heard := by
  cases h with
  | made hpinged hrequested hlistened hstates =>
    have hs₁ : _ = s.data := (congrArg sessionData hpinged.eq).trans hs
    obtain ⟨s₂, hs₂, hasks⟩ := hrequested.exists_asks hs₁
    obtain ⟨s₃, hs₃, hhears⟩ := hlistened.exists_hears hs₂
    have hscenario :=
      hrequested.scenario_steps.1.trans (congrArg SimulatedTracker.scenario hpinged.eq)
    rw [hscenario] at hhears
    exact ⟨s₃, (congrArg sessionData (endCycle_fst _)).trans hs₃, .move hasks hhears rfl⟩

/-- A step shows the session that it leaves. -/
theorem Stepped.sessionData_snapshot {r : StepResult} (h : t.Stepped now r) :
    r.snapshot.sessionData = r.tracker.sessionData := by
  cases h
  rfl

end SimulatedTracker

end TrackerBoard
