import Mathlib
import TrackerBoard.Proofs.Frame.Connection
import TrackerBoard.Proofs.Frame.Dependence
import TrackerBoard.Proofs.Frame.Label
import TrackerBoard.Proofs.Number.Rational
import TrackerBoard.Proofs.Time.Clock

/-! # The texts that are shown

What a frame shows of a snapshot, letter by letter: the twelve cells (`Snapshot.cellTexts`), the line
of an event (`TrackerEvent.text`), and the wording of a failure (`FetchFailure.text`).  They are
written down from the fields alone, and the frame is proved to show exactly these
(`Frame.cellTexts_ofSnapshot`, `eventLines_eq`).  So what is shown or logged can be told in its own
words.
-/

namespace TrackerBoard

/-! ### Numbers and times -/

/-- A number below a hundred in two digits. -/
def twoDigits (n : ℕ) : String := String.ofList [(n / 10).digitChar, (n % 10).digitChar]

/-- Hours, minutes and seconds of the day in a zone; a leap second is a second 60. -/
def Instant.timeText (t : Instant) (zone : Zone) : String :=
  let ofDay := ((t.second + zone.offset) % 86400).toNat
  twoDigits (ofDay / 3600) ++ ":" ++ twoDigits (ofDay / 60 % 60) ++ ":" ++
    twoDigits (ofDay % 60 + t.nanos / 1000000000)

/-- A number with a comma before every three of its last digits. -/
def groupedText (n : ℕ) : String :=
  if n < 1000 then toString n
  else groupedText (n / 1000) ++ "," ++ String.ofList
    [(n / 100 % 10).digitChar, (n / 10 % 10).digitChar, (n % 10).digitChar]

/-- A count of frames, up to a million. -/
def countText (n : UInt64) : String := if n.toNat ≤ 1000000 then groupedText n.toNat else ">1M"

/-- A signal strength in percent of 255: as a double, rounded to the nearest whole number. -/
def percentOf (strength : Int64) : ℤ :=
  let size := strength.toInt.natAbs.toUInt64.toFloat
  match doubleValue? ((if strength.toInt < 0 then -size else size) / 255 * 100) with
  | some q => max (-2 ^ 63) (min (2 ^ 63 - 1) (nearestWhole q))
  | none => 0

theorem Instant.clockLabel_eq (t : Instant) (zone : Zone) : t.clockLabel zone = t.timeText zone := by
  have hlt := t.nanos_lt
  have hday := t.secondOfDay_lt zone
  have hofDay : t.secondOfDay zone = ((t.second + zone.offset) % 86400).toNat := rfl
  rw [timeText, ← hofDay, clockLabel, clockText, padded_two (by omega), padded_two (by omega),
    padded_two (by omega)]
  apply String.toList_injective
  simp [twoDigits]

/-- A number from a thousand on is its thousands, and three digits more. -/
theorem toDigits_eq_append {n : ℕ} (h : 1000 ≤ n) :
    Nat.toDigits 10 n = Nat.toDigits 10 (n / 1000) ++
      [(n / 100 % 10).digitChar, (n / 10 % 10).digitChar, (n % 10).digitChar] := by
  have hhundreds : n / 10 / 10 = n / 100 := Nat.div_div_eq_div_mul ..
  have hthousands : n / 100 / 10 = n / 1000 := Nat.div_div_eq_div_mul ..
  rw [Nat.toDigits_of_base_le (by decide) (by omega : 10 ≤ n),
    Nat.toDigits_of_base_le (by decide) (by omega : 10 ≤ n / 10), hhundreds,
    Nat.toDigits_of_base_le (by decide) (by omega : 10 ≤ n / 100), hthousands, List.append_assoc,
    List.append_assoc]
  rfl

theorem ofList_groupDigits (n : ℕ) :
    String.ofList (groupDigits (Nat.toDigits 10 n)) = groupedText n := by
  induction n using Nat.strongRecOn with
  | ind n ih =>
    rw [groupedText]
    by_cases hsmall : n < 1000
    · rw [if_pos hsmall,
        groupDigits_of_length_le (Digits.length_toDigits_le (by decide) hsmall)]
      rfl
    · rw [if_neg hsmall, ← ih (n / 1000) (by omega), toDigits_eq_append (by omega),
        groupDigits_append_three Nat.toDigits_ne_nil rfl]
      apply String.toList_injective
      simp

theorem groupThousands_eq (n : UInt64) : groupThousands n = groupedText n.toNat :=
  ofList_groupDigits n.toNat

theorem frameLabel_eq (n : UInt64) : frameLabel n = countText n := by
  rw [countText]
  by_cases hle : n.toNat ≤ 1000000
  · rw [if_pos hle, frameLabel_of_le (UInt64.le_iff_toNat_le.mpr hle), groupThousands_eq]
  · rw [if_neg hle, frameLabel_of_lt (UInt64.lt_iff_toNat_lt.mpr (Nat.lt_of_not_le hle))]

theorem toInt_signalPercent (strength : Int64) :
    (signalPercent strength).toInt = percentOf strength := by
  have hword : Binary64.ofWord strength =
      if strength.toInt < 0 then -strength.toInt.natAbs.toUInt64.toFloat
      else strength.toInt.natAbs.toUInt64.toFloat := by
    rw [Binary64.ofWord]
    exact if_congr Int64.lt_iff_toInt_lt rfl rfl
  have hmin := Int64.toInt_minValue
  have hmax : Int64.maxValue.toInt = 2 ^ 63 - 1 := Int64.toInt_maxValue
  rw [signalPercent, hword, Binary64.nearest?_ofFloat, percentOf]
  cases doubleValue? _ with
  | none => rfl
  | some q =>
    rw [Option.map_some]
    dsimp only
    rw [toInt_nearestWord_eq_max, hmin, hmax]

/-! ### Cells -/

/-- The texts of the twelve cells. -/
structure CellTexts where
  connection : String
  signal : String
  deviceLink : String
  monitorsLink : String
  channels : String
  designator : String
  task : String
  target : String
  track : String
  frameCount : String
  contactTime : String
  banditSignal : String

/-- The labels of the cells of a frame. -/
def Frame.cellTexts (f : Frame) : CellTexts where
  connection := f.connection.label
  signal := f.signal.label
  deviceLink := f.deviceLink.label
  monitorsLink := f.monitorsLink.label
  channels := f.channels.label
  designator := f.designator.label
  task := f.tracking.task.label
  target := f.tracking.target.label
  track := f.tracking.track.label
  frameCount := f.tracking.frameCount.label
  contactTime := f.tracking.contactTime.label
  banditSignal := f.tracking.banditSignal.label

/-- The text of a value that may be missing. -/
def textOr {α : Type} (missing : String) (text : α → String) : Option α → String
  | some a => text a
  | none => missing

def liveText (live : Bool) : String := if live then "ONLINE" else "OFFLINE"

def channelsText : Channels → String
  | .count n => toString n.toInt
  | .list channels => ",".intercalate (channels.map fun channel => toString channel.toInt)

def designationText : Designation → String
  | .unlocked => "UNLOCKED"
  | .locked => "LOCKED"
  | .sweeping => "SWEEPING"

namespace Snapshot
variable (s : Snapshot) (zone : Zone)

/-- A weak link is shown as weak, whatever else the state names say of it. -/
def connectionText : String :=
  if ∃ name ∈ s.trackerState, "WEAK".toList <:+: name.toList then "WEAK"
  else if ∃ name ∈ s.trackerState, "ONLINE".toList <:+: name.toList then "ONLINE"
  else "DARK"

/-- A dark link has no signal. -/
def signalText : String :=
  if s.connectionText = "DARK" then "N/A" else toString (percentOf s.leaderSignalStrength) ++ "%"

/-- The track that is shown: while the tracker tracks, and unless it is empty. -/
def shownTrack : Option String := if s.isTracking then s.track.filter (· ≠ "") else none

/-- The text of what is known of a contact, while there is one. -/
def contactText (text : String) : String := if s.shownTrack.isSome then text else "N/A"

/-- The texts of the cells, from the fields alone. -/
def cellTexts : CellTexts where
  connection := s.connectionText
  signal := s.signalText
  deviceLink := liveText s.trackerDeviceLive
  monitorsLink := liveText s.monitorsLive
  channels := textOr "N/A" channelsText s.channels
  designator := textOr "Unknown" designationText s.channelDesignation
  task := if s.isTracking then "TRACKING" else "NONE"
  target := if s.isTracking then textOr "N/A" id (s.trackingTarget.filter (· ≠ "")) else "NONE"
  track := if s.isTracking then textOr "NO CTCT" id s.shownTrack else "N/A"
  frameCount := s.contactText (countText s.trackFrames)
  contactTime := s.contactText (textOr "N/A" (·.timeText zone) s.trackContact)
  banditSignal := s.contactText
    (textOr "N/A" (fun dbm => toString dbm.toInt ++ " dBm") s.banditSignal)

end Snapshot

theorem label_ofOption {α : Type} (cell : α → Indicator) (a : Option α) :
    (Indicator.ofOption cell a).label = textOr "N/A" (fun a => (cell a).label) a := by
  cases a with
  | none => rfl
  | some a => rfl

theorem label_connectionCell (s : Snapshot) :
    (connectionCell s.trackerState).label = s.connectionText := by
  have hweakName : TrackerState.weak.name = "WEAK" := rfl
  have honlineName : TrackerState.online.name = "ONLINE" := rfl
  rw [connectionCell, Snapshot.connectionText, hweakName, honlineName]
  by_cases hweak : mentions s.trackerState "WEAK" = true
  · rw [if_pos hweak, if_pos (mentions_eq_true_iff.mp hweak)]
  rw [if_neg hweak, if_neg (mt mentions_eq_true_iff.mpr hweak)]
  by_cases honline : mentions s.trackerState "ONLINE" = true
  · rw [if_pos honline, if_pos (mentions_eq_true_iff.mp honline)]
  · rw [if_neg honline, if_neg (mt mentions_eq_true_iff.mpr honline)]

theorem label_signalCell (s : Snapshot) :
    (signalCell s.trackerState s.leaderSignalStrength).label = s.signalText := by
  rw [signalCell, Snapshot.signalText, label_connectionCell, toInt_signalPercent]
  by_cases hdark : s.connectionText = "DARK"
  · rw [if_pos hdark, if_pos hdark]
    rfl
  · rw [if_neg hdark, if_neg hdark]

theorem label_linkCell (live : Bool) : (linkCell live).label = liveText live := by
  cases live with
  | true => rfl
  | false => rfl

theorem label_channelsCell (channels : Option Channels) :
    (channelsCell channels).label = textOr "N/A" channelsText channels := by
  rcases channels with _ | n | channels
  · rfl
  · rfl
  · rfl

theorem label_designatorCell (designation : Option Designation) :
    (designatorCell designation).label = textOr "Unknown" designationText designation := by
  rcases designation with _ | _ | _ | _
  · rfl
  · rfl
  · rfl
  · rfl

theorem TrackingCells.ofSnapshot_inContact {s : Snapshot} (zone : Zone) {track : String}
    (htracking : s.isTracking = true) (htrack : s.activeTrack = some track) :
    ofSnapshot s zone =
      { task := ⟨"TRACKING", .green⟩
        target := Indicator.ofOption (⟨·, .neutral⟩) s.target
        track := ⟨track, .green⟩
        frameCount := ⟨frameLabel s.trackFrames, .neutral⟩
        contactTime := Indicator.ofOption (fun t => ⟨t.clockLabel zone, .neutral⟩) s.trackContact
        banditSignal := Indicator.ofOption dbmCell s.banditSignal } := by
  rw [ofSnapshot, if_pos htracking, htrack]

/-- **The cells of a frame show the texts of its snapshot.** -/
theorem Frame.cellTexts_ofSnapshot (s : Snapshot) (zone : Zone) :
    (ofSnapshot s zone).cellTexts = s.cellTexts zone := by
  rw [cellTexts, Snapshot.cellTexts]
  simp only [ofSnapshot, label_connectionCell, label_signalCell, label_linkCell, label_channelsCell,
    label_designatorCell, Snapshot.contactText, Snapshot.shownTrack]
  by_cases htracking : s.isTracking = true
  · have hactive : s.track.filter (· ≠ "") = s.activeTrack := rfl
    have htarget : s.trackingTarget.filter (· ≠ "") = s.target := rfl
    simp only [htracking, if_true, hactive, htarget]
    cases htrack : s.activeTrack with
    | none =>
      simp only [TrackingCells.ofSnapshot_searching zone htracking htrack,
        TrackingCells.withoutContact, label_ofOption]
      rfl
    | some track =>
      simp only [TrackingCells.ofSnapshot_inContact zone htracking htrack, label_ofOption,
        frameLabel_eq, Instant.clockLabel_eq]
      rfl
  · simp only [htracking, TrackingCells.ofSnapshot_idle zone (Bool.eq_false_of_not_eq_true htracking)]
    rfl

/-! ### Lines -/

/-- The line of an event: its time of day, if it has one, its source in brackets, and what happened. -/
def TrackerEvent.text (e : TrackerEvent) (zone : Zone) : String :=
  textOr "N/A" (·.timeText zone) e.timestamp ++ " [" ++ e.source ++ "]: " ++ e.message

theorem eventLine_eq (zone : Zone) (e : TrackerEvent) : eventLine zone e = e.text zone := by
  obtain ⟨timestamp, source, message⟩ := e
  cases timestamp with
  | none => rfl
  | some t => exact congrArg (· ++ " [" ++ source ++ "]: " ++ message) (t.clockLabel_eq zone)

/-- The lines of some events, newest first. -/
def eventTexts (events : List TrackerEvent) (zone : Zone) : List String :=
  if events = [] then ["No events."] else events.reverse.map (·.text zone)

theorem eventLines_eq (zone : Zone) (events : List TrackerEvent) :
    eventLines zone events = eventTexts events zone := by
  have hline : eventLine zone = (·.text zone) := funext (eventLine_eq zone)
  rw [eventLines, eventTexts, hline]
  exact if_congr List.isEmpty_iff rfl rfl

/-- The wording of a failure. -/
def FetchFailure.text : FetchFailure → String
  | .transport reason => "transport error: " ++ reason
  | .status code => "endpoint answered with HTTP status " ++ toString code.toNat
  | .decode reason => "undecodable snapshot: " ++ reason

theorem FetchFailure.message_eq (e : FetchFailure) : e.message = e.text := by
  cases e with
  | transport reason => rfl
  | status code => rfl
  | decode reason => rfl

end TrackerBoard
