import TrackerBoard.Proofs.Frame.Text
import TrackerBoard.Proofs.Poll.History
import TrackerBoard.Proofs.Simulation.Run

/-! # What the event log tells

The events of a run tell its sessions one after the other: a request, the first contact if there was
one, and the cancel.  What is told of the session that the tracker is in is not yet complete
(`Session.told`), and whatever a step does to the session, the events that it records go on with the
story (`Tells.moves`).  So the last event says in which session the tracker is (`Tells.lastSays`).

The log keeps the end of the story, and a frame shows it backwards, one line for each event with its
time of day, its source and its message (`Run.explains`).
-/

namespace TrackerBoard

theorem rtake_min_length {α : Type} (as : List α) (n : Nat) :
    as.rtake (min as.length n) = as.rtake n := by
  rw [List.rtake, List.rtake]
  congr 1
  omega

/-- A log that holds the end of some events still does so after more of them. -/
theorem EventLog.foldl_add {log : EventLog} {before : List TrackerEvent}
    (h : log.events = before.rtake capacity) (events : List TrackerEvent) :
    (events.foldl add log).events = (before ++ events).rtake capacity := by
  induction events generalizing log before with
  | nil => rw [List.append_nil]; exact h
  | cons e events ih =>
    have hadd : (log.add e).events = (before ++ [e]).rtake capacity := by
      rw [add, h, pushBounded_rtake (by decide)]
    rw [List.foldl_cons, ih hadd, List.append_assoc]
    rfl

namespace Session

open SimulatedTracker

/-- The message of the request that begins a session. -/
def requestText : String := "Received request to track bandit."

/-- The message of the first contact of a session. -/
def contactText (track : String) : String := "Initial contact with bandit, track [" ++ track ++ "]."

/-- The message of the cancel that ends a session. -/
def cancelText : String := "All bandit tracking canceled on leader request."

theorem requestMessage_eq : requestMessage = requestText := rfl

theorem contactMessage_eq (track : String) : contactMessage track = contactText track := rfl

theorem cancelMessage_eq : cancelMessage = cancelText := rfl

/-- What is told of a session up to now. -/
def told : Session → List String
  | idle => []
  | searching => [requestText]
  | inContact c => [requestText, contactText c.track]

/-- What is told of a session that is over. -/
inductive IsRound : List String → Prop
  | unheard : IsRound [requestText, cancelText]
  | heard (track : String) : IsRound [requestText, contactText track, cancelText]

/-- Some messages tell of sessions that are over, and then of one up to now. -/
def Tells (messages : List String) (s : Session) : Prop :=
  ∃ rounds : List (List String), (∀ round ∈ rounds, IsRound round) ∧
    messages = rounds.flatten ++ s.told

variable {messages : List String} {s s' : Session} {now : Instant} {scenario : Scenario}
  {events : List TrackerEvent} {heard : Bool}

/-- A session that is canceled is told to its end. -/
theorem isRound_told (h : s.data.isTracking = true) : IsRound (s.told ++ [cancelText]) := by
  cases s with
  | idle => exact absurd h Bool.false_ne_true
  | searching => exact .unheard
  | inContact c => exact .heard c.track

theorem Tells.asks (h : Tells messages s) (hasks : s.Asks now s' events) :
    Tells (messages ++ events.map (·.message)) s' := by
  obtain ⟨rounds, hrounds, rfl⟩ := h
  cases hasks with
  | nothing => exact ⟨rounds, hrounds, List.append_nil _⟩
  | tracking => exact ⟨rounds, hrounds, by simp [told, requestEvent, requestMessage_eq]⟩
  | cancel htracking =>
    refine ⟨rounds ++ [s.told ++ [cancelText]], ?_, ?_⟩
    · intro round hround
      rcases List.mem_append.mp hround with hround | hround
      · exact hrounds round hround
      · rw [List.mem_singleton.mp hround]
        exact isRound_told htracking
    · simp [told, cancelEvent, cancelMessage_eq]

theorem Tells.hears (h : Tells messages s) (hhears : s.Hears scenario now s' events heard) :
    Tells (messages ++ events.map (·.message)) s' := by
  obtain ⟨rounds, hrounds, rfl⟩ := h
  refine ⟨rounds, hrounds, ?_⟩
  cases hhears with
  | silence => exact List.append_nil _
  | first hframes htotal hheard => simp [told, contactEvent, contactMessage_eq]
  | again hframes htotal htrack hheard => rw [told, told, htrack]; exact List.append_nil _

/-- The events of a step go on with the story. -/
theorem Tells.moves (h : Tells messages s) (hmoves : s.Moves scenario now s' events heard) :
    Tells (messages ++ events.map (·.message)) s' := by
  obtain ⟨hasks, hhears, rfl⟩ := hmoves
  rw [List.map_append, ← List.append_assoc]
  exact (h.asks hasks).hears hhears

theorem Tells.exists_rounds (h : Tells messages s) :
    ∃ rounds : List (List String), (∀ round ∈ rounds, IsRound round) ∧
      messages <+: rounds.flatten := by
  obtain ⟨rounds, hrounds, rfl⟩ := h
  cases htracking : s.data.isTracking with
  | false =>
    rw [eq_idle htracking, told, List.append_nil]
    exact ⟨rounds, hrounds, List.prefix_refl _⟩
  | true =>
    refine ⟨rounds ++ [s.told ++ [cancelText]], ?_, [cancelText], by simp⟩
    intro round hround
    rcases List.mem_append.mp hround with hround | hround
    · exact hrounds round hround
    · rw [List.mem_singleton.mp hround]
      exact isRound_told htracking

/-- What the last message says of the session. -/
inductive LastSays : Option String → Session → Prop
  | nothing : LastSays none idle
  | cancel : LastSays (some cancelText) idle
  | request : LastSays (some requestText) searching
  | contact (c : Contact) : LastSays (some (contactText c.track)) (inContact c)

/-- The last of some rounds ends with its cancel. -/
theorem lastSays_flatten {rounds : List (List String)} (h : ∀ round ∈ rounds, IsRound round) :
    LastSays rounds.flatten.getLast? idle := by
  cases rounds using List.reverseRecOn with
  | nil => exact .nothing
  | append_singleton rounds round =>
    rw [List.flatten_append, List.flatten_singleton]
    cases h round (List.mem_append_right rounds (List.mem_singleton_self round)) with
    | unheard =>
      rw [List.getLast?_append_of_ne_nil _ (List.cons_ne_nil _ _)]
      exact .cancel
    | heard track =>
      rw [List.getLast?_append_of_ne_nil _ (List.cons_ne_nil _ _)]
      exact .cancel

/-- The last message is the last that is told of the session, or the cancel before it. -/
theorem Tells.lastSays (h : Tells messages s) : LastSays messages.getLast? s := by
  obtain ⟨rounds, hrounds, rfl⟩ := h
  cases s with
  | idle =>
    rw [told, List.append_nil]
    exact lastSays_flatten hrounds
  | searching =>
    rw [told, List.getLast?_append_of_ne_nil _ (List.cons_ne_nil _ _)]
    exact .request
  | inContact c =>
    rw [told, List.getLast?_append_of_ne_nil _ (List.cons_ne_nil _ _)]
    exact .contact c

variable {last : Option String}

theorem LastSays.eq_idle (h : LastSays last s)
    (hlast : last = none ∨ last = some cancelText) : s = idle := by
  cases h with
  | nothing => rfl
  | cancel => rfl
  | request =>
    rcases hlast with hnone | hcancel
    · exact absurd hnone (Option.some_ne_none _)
    · exact absurd (Option.some.inj hcancel) (by decide)
  | contact c =>
    rcases hlast with hnone | hcancel
    · exact absurd hnone (Option.some_ne_none _)
    · exact absurd (Option.some.inj hcancel) (contactMessage_ne (by decide))

theorem LastSays.eq_searching (h : LastSays last s) (hlast : last = some requestText) :
    s = searching := by
  cases h with
  | nothing => exact absurd hlast.symm (Option.some_ne_none _)
  | cancel => exact absurd (Option.some.inj hlast) (by decide)
  | request => rfl
  | contact c => exact absurd (Option.some.inj hlast) (contactMessage_ne (by decide))

theorem LastSays.exists_inContact {track : String} (h : LastSays last s)
    (hlast : last = some (contactText track)) : ∃ c, s = inContact c ∧ c.track = track := by
  cases h with
  | nothing => exact absurd hlast.symm (Option.some_ne_none _)
  | cancel => exact absurd (Option.some.inj hlast).symm (contactMessage_ne (by decide))
  | request => exact absurd (Option.some.inj hlast).symm (contactMessage_ne (by decide))
  | contact c => exact ⟨c, rfl, contactMessage_injective (Option.some.inj hlast)⟩

end Session

/-- No line of an event is the one that stands for no events, since it has a source in brackets. -/
theorem TrackerEvent.text_ne (e : TrackerEvent) (zone : Zone) : e.text zone ≠ "No events." := by
  intro h
  have hbracket : '[' ∈ (e.text zone).toList := by simp [text]
  rw [h] at hbracket
  exact absurd hbracket (by decide)

theorem noEvents_notMem (events : List TrackerEvent) (zone : Zone) :
    "No events." ∉ events.map (·.text zone) := by
  intro h
  obtain ⟨e, -, he⟩ := List.mem_map.mp h
  exact e.text_ne zone he

/-- What some events, oldest first, say of the snapshot after them. -/
structure Explains (recorded : List TrackerEvent) (s : Snapshot) : Prop where
  events : s.events = recorded.rtake (min recorded.length 20)
  rounds : ∃ rounds : List (List String), (∀ round ∈ rounds, Session.IsRound round) ∧
    recorded.map (·.message) <+: rounds.flatten
  idle : recorded = [] ∨
      recorded.getLast?.map (·.message) = some Session.cancelText →
    s.isTracking = false ∧ s.track = none
  searching : recorded.getLast?.map (·.message) = some Session.requestText →
    s.isTracking = true ∧ s.track = none
  inContact : ∀ track,
    recorded.getLast?.map (·.message) = some (Session.contactText track) →
      s.isTracking = true ∧ s.track = some track
  noLines : ∀ zone, recorded = [] → (Frame.ofSnapshot s zone).events = ["No events."]
  /-- Newest first, one line for each event. -/
  lines : ∀ zone, recorded ≠ [] →
    (Frame.ofSnapshot s zone).events = s.events.reverse.map (·.text zone) ∧
    "No events." ∉ (Frame.ofSnapshot s zone).events

namespace SimulatedTracker

variable {t t' : SimulatedTracker} {now : Instant} {scenario : Scenario} {run : List MadeStep}
  {s : MadeStep}

theorem Requested.events {a : Activity} (h : t.Requested now t' a) :
    t'.events = a.recorded.foldl EventLog.add t.events := by
  cases h <;> rfl

theorem Opened.events {recorded : List TrackerEvent} (h : t.Opened now t' recorded) :
    t'.events = recorded.foldl EventLog.add t.events := by
  cases h <;> rfl

theorem Listened.events {a : Activity} (h : t.Listened now t' a) :
    t'.events = a.recorded.foldl EventLog.add t.events := by
  cases h with
  | silence => rfl
  | contact frames signal htracking htraced hopened hframes hsignal =>
    have hevents := hopened.events
    rw [htraced.eq] at hevents
    exact hevents

/-- The log takes the events that a step records. -/
theorem Stepped.events {r : StepResult} (h : t.Stepped now r) :
    r.tracker.events = r.recorded.foldl EventLog.add t.events := by
  cases h with
  | made hpinged hrequested hlistened hstates =>
    rw [endCycle_fst, List.foldl_append, ← congrArg SimulatedTracker.events hpinged.eq,
      ← hrequested.events]
    exact hlistened.events

theorem Stepped.snapshot_events {r : StepResult} (h : t.Stepped now r) :
    r.snapshot.events = r.tracker.events.events := by
  cases h
  rfl

/-- The log holds the last of the events that were recorded. -/
theorem Run.events (h : Run scenario t run) :
    t.events.events = (recordedIn run).rtake EventLog.capacity := by
  induction h with
  | start => rfl
  | step h hstep ih =>
    rw [(stepped_of_yields hstep).events, EventLog.foldl_add ih, recordedIn_snoc]

/-- The events of a run tell of the session that it has led to. -/
theorem Run.exists_tells (h : Run scenario t run) :
    ∃ session : Session, t.sessionData = session.data ∧
      Session.Tells ((recordedIn run).map (·.message)) session := by
  induction h with
  | start => exact ⟨.idle, rfl, [], fun _ h => absurd h List.not_mem_nil, rfl⟩
  | step h hstep ih =>
    obtain ⟨session, hdata, htells⟩ := ih
    obtain ⟨session', hdata', hmoves⟩ := (stepped_of_yields hstep).exists_move hdata
    refine ⟨session', hdata', ?_⟩
    rw [recordedIn_snoc, List.map_append]
    exact htells.moves hmoves

/-- **The events of a run explain what the tracker shows after it.** -/
theorem Run.explains (h : Run scenario t (run ++ [s])) :
    Explains (recordedIn (run ++ [s])) s.snapshot := by
  obtain ⟨session, hdata, htells⟩ := h.exists_tells
  have hlog := h.events
  obtain ⟨t₀, -, hstepped, rfl⟩ := h.exists_before
  generalize recordedIn (run ++ [s]) = recorded at *
  have hlast : Session.LastSays (recorded.getLast?.map (·.message)) session := by
    rw [← List.getLast?_map]
    exact htells.lastSays
  have hshown : s.snapshot.sessionData = session.data := hstepped.sessionData_snapshot.trans hdata
  have hevents : s.snapshot.events = recorded.rtake EventLog.capacity := by
    rw [hstepped.snapshot_events]
    exact hlog
  have hnil : s.snapshot.events = [] ↔ recorded = [] := by
    rw [hevents]
    exact rtake_eq_nil_iff (by decide)
  constructor
  case events => exact hevents.trans (rtake_min_length recorded EventLog.capacity).symm
  case rounds => exact htells.exists_rounds
  case idle =>
    intro hmessage
    have hidle : recorded.getLast?.map (·.message) = none ∨
        recorded.getLast?.map (·.message) = some Session.cancelText := by
      refine hmessage.imp_left ?_
      rintro rfl
      rfl
    obtain rfl := hlast.eq_idle hidle
    exact ⟨congrArg SessionData.isTracking hshown, congrArg SessionData.track hshown⟩
  case searching =>
    intro hmessage
    obtain rfl := hlast.eq_searching hmessage
    exact ⟨congrArg SessionData.isTracking hshown, congrArg SessionData.track hshown⟩
  case inContact =>
    intro track hmessage
    obtain ⟨c, rfl, rfl⟩ := hlast.exists_inContact hmessage
    exact ⟨congrArg SessionData.isTracking hshown, congrArg SessionData.track hshown⟩
  case noLines =>
    intro zone hrecorded
    rw [Frame.ofSnapshot, eventLines_eq, eventTexts, if_pos (hnil.mpr hrecorded)]
  case lines =>
    intro zone hrecorded
    rw [Frame.ofSnapshot, eventLines_eq, eventTexts, if_neg (mt hnil.mp hrecorded)]
    exact ⟨rfl, noEvents_notMem _ zone⟩

/-- A session from its request to its cancel. -/
theorem explains_canceled :
    ∃ t run s, Run eventful t (run ++ [s]) ∧
      (recordedIn (run ++ [s])).map (·.source) = [leaderSource, trackerSource, leaderSource] ∧
      Explains (recordedIn (run ++ [s])) s.snapshot := by
  obtain ⟨t, h⟩ := exists_run_drawn eventful (.ofSeed 7) [epoch, epoch]
  have hne : (new eventful).drawn (.ofSeed 7) [epoch, epoch] ≠ [] := by decide +kernel
  have hsources : (recordedIn ((new eventful).drawn (.ofSeed 7) [epoch, epoch])).map (·.source) =
      [leaderSource, trackerSource, leaderSource] := by decide +kernel
  rw [← List.dropLast_append_getLast hne] at h hsources
  exact ⟨t, _, _, h, hsources, h.explains⟩

end SimulatedTracker

end TrackerBoard
