import Mathlib.Data.List.Induction
import TrackerBoard.Proofs.Time.Instant
import TrackerBoard.Tracker.Watchdog

/-! # The verdict on the link

A watchdog is told of pings, in any order of their times, and is asked for the states of the link.
Only the ping that it was told of last counts (`lastPing_after`), even if an earlier one is younger.
If there is none, or it is too old, the link is dark; otherwise the states say what there is to say
of that ping, in a fixed order (`Judges`).

A ping is too old as soon as its age reaches the timeout (`evaluate?_after`), and not only beyond it
(`dark_at_timeout`).
-/

namespace TrackerBoard

/-- How many milliseconds ago a ping was received. -/
def Ping.age (ping : Ping) (now : Instant) : Int := now.millis - ping.receivedAt.millis

namespace Watchdog

/-- A new watchdog after some pings, the last one at the end. -/
def after (pings : List Ping) : Watchdog := pings.foldl registerPing new

/-- Of all pings only the last one is kept. -/
theorem lastPing_after (pings : List Ping) : (after pings).lastPing = pings.getLast? := by
  induction pings using List.reverseRecOn with
  | nil => rfl
  | append_singleton pings ping _ =>
    rw [after, List.foldl_append, List.getLast?_concat]
    rfl

/-- The timeout in milliseconds. -/
def timeoutMillis : Int := 1000 * timeout

/-- The states of a link say of a ping that it came, and then whether it was weak and whether it
names another list of bandits. -/
structure Judges (ping : Ping) (banditHash : String) (states : List TrackerState) : Prop where
  online : states.head? = some .online
  inOrder : states.Sublist [.online, .weak, .outOfSync]
  weak : .weak ∈ states ↔ ping.rssi < weakThreshold
  outOfSync : .outOfSync ∈ states ↔ ping.banditHash ≠ banditHash

theorem judges_liveStates (ping : Ping) (banditHash : String) :
    Judges ping banditHash (liveStates ping banditHash) := by
  unfold liveStates
  by_cases hweak : ping.rssi < weakThreshold
  · by_cases hhash : ping.banditHash ≠ banditHash
    · constructor <;> simp [hweak, hhash]
    · constructor <;> simp [hweak, hhash]
  · by_cases hhash : ping.banditHash ≠ banditHash
    · constructor <;> simp [hweak, hhash]
    · constructor <;> simp [hweak, hhash]

theorem Judges.ne_dark {ping : Ping} {banditHash : String} {states : List TrackerState}
    (h : Judges ping banditHash states) : states ≠ [.dark] := by
  rintro rfl
  exact absurd h.online (by decide)

variable {pings : List Ping} {now : Instant}

/-- The last ping comes before the moment from which pings count if its age is the timeout or
more. -/
theorem isUpTo_before?_iff {ping : Ping} {limit : Instant} (hnow : now.IsWholeMillis)
    (hping : ping.receivedAt.IsWholeMillis) (hlimit : now.before? timeout = some limit) :
    ping.receivedAt.isUpTo limit = true ↔ timeoutMillis ≤ ping.age now := by
  obtain ⟨hwhole, hmillis⟩ := Instant.before?_eq_some hnow hlimit
  rw [Instant.isUpTo_iff hping hwhole, hmillis, Ping.age, timeoutMillis]
  omega

/-- There is a moment from which pings count, unless the earliest instant is too close. -/
theorem exists_before?_timeout (hnow : now.IsWholeMillis)
    (hearliest : Instant.earliest.millis + timeoutMillis ≤ now.millis) :
    ∃ limit, now.before? timeout = some limit := by
  apply Option.isSome_iff_exists.mp
  apply Instant.isSome_before?
  rw [Instant.isWholeMillis_iff] at hnow
  simp only [Instant.millis, Instant.second_earliest, Instant.nanos_earliest, timeoutMillis,
    timeout] at hearliest ⊢
  omega

/-- There is a verdict unless the earliest instant is too close. -/
theorem isSome_evaluate? (w : Watchdog) (h : Instant.earliest.second + timeout ≤ now.second)
    (banditHash : String) : (w.evaluate? now banditHash).isSome = true := by
  rw [evaluate?]
  cases w.lastPing with
  | none => rfl
  | some ping =>
    rw [Option.isSome_map]
    exact Instant.isSome_before? h

/-- What is said of the link after some pings. -/
structure IsVerdict (pings : List Ping) (now : Instant) (banditHash : String)
    (states : List TrackerState) : Prop where
  dark : states = [.dark] ↔ ∀ ping, pings.getLast? = some ping → timeoutMillis ≤ ping.age now
  live : ∀ ping, pings.getLast? = some ping → ping.age now < timeoutMillis →
    Judges ping banditHash states

/-- **The link is dark when no ping came or the last one is as old as the timeout**, and otherwise
it is judged by that ping. -/
theorem evaluate?_after (hnow : now.IsWholeMillis)
    (hpings : ∀ ping ∈ pings, ping.receivedAt.IsWholeMillis)
    (hearliest : Instant.earliest.millis + timeoutMillis ≤ now.millis) (banditHash : String) :
    ∃ states, (after pings).evaluate? now banditHash = some states ∧
      IsVerdict pings now banditHash states := by
  rw [evaluate?, lastPing_after]
  cases hlast : pings.getLast? with
  | none =>
    refine ⟨[.dark], rfl, ?_, ?_⟩
    · simp [hlast]
    · simp [hlast]
  | some last =>
    obtain ⟨limit, hlimit⟩ := exists_before?_timeout hnow hearliest
    have hold := isUpTo_before?_iff hnow (hpings last (List.mem_of_getLast? hlast)) hlimit
    simp only [hlimit, Option.map_some, Option.some.injEq, exists_eq_left']
    by_cases hdark : timeoutMillis ≤ last.age now
    · rw [if_pos (hold.mpr hdark)]
      constructor
      · simp [hlast, hdark]
      · intro ping hping hyoung
        obtain rfl := Option.some.inj (hlast.symm.trans hping)
        exact absurd hdark (Int.not_le.mpr hyoung)
    · rw [if_neg (fun h => hdark (hold.mp h))]
      have hjudges := judges_liveStates last banditHash
      constructor
      · simp [hlast, hdark, hjudges.ne_dark]
      · intro ping hping _
        obtain rfl := Option.some.inj (hlast.symm.trans hping)
        exact hjudges

/-- The ping that comes last counts, although its time is older than that of the one before. -/
theorem evaluate?_after_late :
    let early : Instant := ⟨0, 1000000, by decide, by decide, by decide, by decide⟩
    let now : Instant := ⟨20, 0, by decide, by decide, by decide, by decide⟩
    let pings : List Ping := [⟨now, 200, "h"⟩, ⟨early, 49, "old"⟩]
    now.IsWholeMillis ∧ (∀ ping ∈ pings, ping.receivedAt.IsWholeMillis) ∧
      Instant.earliest.millis + timeoutMillis ≤ now.millis ∧
      ∃ states, (after pings).evaluate? now "h" = some states ∧ IsVerdict pings now "h" states ∧
        states = [.online, .weak, .outOfSync] := by
  intro early now pings
  have hnow : now.IsWholeMillis := by decide
  have hpings : ∀ ping ∈ pings, ping.receivedAt.IsWholeMillis := by decide
  have hearliest : Instant.earliest.millis + timeoutMillis ≤ now.millis := by decide
  obtain ⟨states, hstates, hverdict⟩ := evaluate?_after hnow hpings hearliest "h"
  have hvalue : (after pings).evaluate? now "h" = some [.online, .weak, .outOfSync] := by decide
  exact ⟨hnow, hpings, hearliest, states, hstates, hverdict,
    Option.some.inj (hstates.symm.trans hvalue)⟩

/-- A ping that is not older than the timeout can be too old already: one whose age is the
timeout. -/
theorem dark_at_timeout :
    ¬ ∀ (pings : List Ping) (now : Instant) (banditHash : String), now.IsWholeMillis →
      (∀ ping ∈ pings, ping.receivedAt.IsWholeMillis) →
      Instant.earliest.millis + timeoutMillis ≤ now.millis →
      ((after pings).evaluate? now banditHash = some [.dark] ↔
        ∀ ping, pings.getLast? = some ping → timeoutMillis < ping.age now) := by
  intro h
  let start : Instant := ⟨0, 0, by decide, by decide, by decide, by decide⟩
  let now : Instant := ⟨20, 0, by decide, by decide, by decide, by decide⟩
  let ping : Ping := ⟨start, 200, "h"⟩
  have holder := (h [ping] now "h" (by decide) (by decide) (by decide)).mp (by decide)
  exact absurd (holder ping rfl) (by decide)

end Watchdog

end TrackerBoard
