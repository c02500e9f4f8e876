import Mathlib.Data.List.DropRight
import Mathlib.Data.List.Induction
import TrackerBoard.Dashboard.Basic
import TrackerBoard.Proofs.Poll.Calls

/-! # The chart that is kept

The dashboard keeps the chart that it drew last, and a number that says for which history it was
drawn.  In any order it is told of ticks and outcomes and has to draw its chart, always at the same
size (`Dashboard.after`).  The number is compared with the revision of the history, not the samples,
so a full history that takes in the very sample it drops is told apart from one that took in none.

The number and the revision agree between any two events; a message then empties the cache exactly
when it brings a snapshot (`update_ok`, `update_error`).  So what is kept, and what a draw shows, is
always the chart of the history as it is, and it is drawn once for each history that is looked at
(`keepsChart_after`).
-/

namespace TrackerBoard

/-- What can happen to a dashboard: it is told of something, or it has to draw its chart. -/
inductive DashboardEvent where
  | told (zone : Zone) (message : DashboardMessage)
  | draw

/-- Whether a message brings a snapshot. -/
def DashboardMessage.bringsSnapshot : DashboardMessage → Bool
  | fetched (.ok _) => true
  | _ => false

namespace DashboardEvent

/-- Whether an event brings a snapshot. -/
def bringsSnapshot : DashboardEvent → Bool
  | told _ message => message.bringsSnapshot
  | draw => false

/-- The events since the last one that brought a snapshot. -/
def sinceSnapshot (events : List DashboardEvent) : List DashboardEvent :=
  events.rtakeWhile fun e => !e.bringsSnapshot

end DashboardEvent

namespace Dashboard

variable {d : Dashboard} (zone : Zone)

theorem beginTick_history (p : Poller) : p.beginTick.2.history = p.history := by
  rw [Poller.beginTick_snd]

theorem complete_error_history (p : Poller) (e : FetchFailure) :
    (p.complete zone (.error e)).1.history = p.history := by
  rw [Poller.complete_error_fst]

/-- A failure leaves the chart alone if it was drawn for the history as it is. -/
theorem update_error (h : d.chartRevision = d.poller.history.revision) (e : FetchFailure) :
    (d.update zone (.fetched (.error e))).dashboard =
      { d with poller := (d.poller.complete zone (.error e)).1 } := by
  show refreshChart { d with poller := (d.poller.complete zone (.error e)).1 } = _
  rw [refreshChart, if_pos]
  rw [complete_error_history]
  exact h.symm

/-- A snapshot empties the cache, whatever its sample is. -/
theorem update_ok (h : d.chartRevision = d.poller.history.revision) (s : Snapshot) :
    (d.update zone (.fetched (.ok s))).dashboard =
      { d with
        poller := (d.poller.complete zone (.ok s)).1
        chartCache := none
        chartRevision := d.poller.history.revision + 1 } := by
  have hrevision : (d.poller.complete zone (.ok s)).1.history.revision =
      d.poller.history.revision + 1 := by
    rw [Poller.complete_ok_fst]
    rfl
  show refreshChart { d with poller := (d.poller.complete zone (.ok s)).1 } = _
  -- the revision has gone on, so it is not the one of the chart
  rw [refreshChart, if_neg]
  · simp only [hrevision]
  · simp only [hrevision, h]
    omega

variable (width height : Float32)

/-- The dashboard after an event. -/
def handle (d : Dashboard) : DashboardEvent → Dashboard
  | .told zone message => (d.update zone message).dashboard
  | .draw => (d.drawChart width height).1

/-- A dashboard that was just started, after some events. -/
def after (endpoint : String) (events : List DashboardEvent) : Dashboard :=
  events.foldl (handle width height) (boot endpoint).dashboard

/-- The chart of the history as it is. -/
def currentChart (d : Dashboard) : List Vertex :=
  Chart.steppedPoints d.poller.history.samples width height

/-- What is known of the chart of a dashboard after some events. -/
structure KeepsChart (events : List DashboardEvent) (d : Dashboard) : Prop where
  revision : d.chartRevision = d.poller.history.revision
  /-- Every snapshot is a revision of the history. -/
  counted : d.poller.history.revision = events.countP (·.bringsSnapshot)
  /-- What is kept is never stale. -/
  current : ∀ vertices, d.chartCache = some vertices → vertices = d.currentChart width height
  /-- It is kept until the next snapshot. -/
  kept : d.chartCache.isSome = true ↔ .draw ∈ DashboardEvent.sinceSnapshot events

variable {width height} {events : List DashboardEvent} {zone} {d' : Dashboard}

theorem currentChart_congr (h : d'.poller.history = d.poller.history) :
    d'.currentChart width height = d.currentChart width height := by
  rw [currentChart, currentChart, h]

theorem keepsChart_boot (endpoint : String) :
    KeepsChart width height [] (boot endpoint).dashboard where
  revision := rfl
  counted := rfl
  current := by
    intro vertices h
    cases h
  kept := iff_of_false Bool.false_ne_true List.not_mem_nil

/-- A message without a snapshot changes nothing about the chart. -/
theorem KeepsChart.quiet (h : KeepsChart width height events d) {message : DashboardMessage}
    (hmessage : message.bringsSnapshot = false)
    (hcache : d'.chartCache = d.chartCache) (hrevision : d'.chartRevision = d.chartRevision)
    (hhistory : d'.poller.history = d.poller.history) :
    KeepsChart width height (events ++ [.told zone message]) d' where
  revision := by rw [hrevision, hhistory, h.revision]
  counted := by
    rw [hhistory, h.counted, List.countP_append]
    simp [DashboardEvent.bringsSnapshot, hmessage]
  current := by
    rw [hcache, currentChart_congr hhistory]
    exact h.current
  kept := by
    rw [hcache, h.kept]
    simp [DashboardEvent.sinceSnapshot, DashboardEvent.bringsSnapshot, hmessage]

/-- A snapshot makes the kept chart stale, so it goes. -/
theorem KeepsChart.snapshot (h : KeepsChart width height events d) (s : Snapshot) :
    KeepsChart width height (events ++ [.told zone (.fetched (.ok s))])
      (d.update zone (.fetched (.ok s))).dashboard := by
  have hcomplete := d.poller.complete_ok_fst zone s
  rw [update_ok zone h.revision]
  constructor
  case revision =>
    rw [hcomplete]
    rfl
  case counted =>
    rw [hcomplete, List.countP_append, ← h.counted]
    rfl
  case current =>
    intro vertices hnone
    cases hnone
  case kept =>
    apply iff_of_false Bool.false_ne_true
    simp [DashboardEvent.sinceSnapshot, DashboardEvent.bringsSnapshot,
      DashboardMessage.bringsSnapshot]

/-- What a draw shows is the chart of the history as it is. -/
theorem KeepsChart.drawChart_snd (h : KeepsChart width height events d) :
    (d.drawChart width height).2 = d.currentChart width height := by
  rw [drawChart]
  cases hcache : d.chartCache with
  | none => rfl
  | some vertices => exact h.current vertices hcache

/-- A draw keeps what it shows. -/
theorem drawChart_fst :
    (d.drawChart width height).1 =
      { d with chartCache := some (d.drawChart width height).2 } := by
  unfold drawChart
  cases hcache : d.chartCache with
  | none => rfl
  | some vertices =>
    show d = { d with chartCache := some vertices }
    rw [← hcache]

theorem KeepsChart.draw (h : KeepsChart width height events d) :
    KeepsChart width height (events ++ [.draw]) (d.drawChart width height).1 := by
  rw [drawChart_fst, h.drawChart_snd]
  constructor
  case revision => exact h.revision
  case counted =>
    rw [List.countP_append, ← h.counted]
    rfl
  case current =>
    intro vertices hvertices
    cases hvertices
    rfl
  case kept =>
    apply iff_of_true rfl
    simp [DashboardEvent.sinceSnapshot, DashboardEvent.bringsSnapshot]

/-- Any event keeps the chart in order. -/
theorem KeepsChart.handle (h : KeepsChart width height events d) (e : DashboardEvent) :
    KeepsChart width height (events ++ [e]) (d.handle width height e) := by
  cases e with
  | draw => exact h.draw
  | told zone message =>
    cases message with
    | tick => exact h.quiet rfl rfl rfl (beginTick_history d.poller)
    | fetched outcome =>
      cases outcome with
      | ok s => exact h.snapshot s
      | error e =>
        rw [Dashboard.handle, update_error zone h.revision]
        exact h.quiet rfl rfl rfl (complete_error_history zone d.poller e)

variable (width height) (endpoint : String) (events)

/-- Whatever happens to a dashboard, its chart is in order. -/
theorem keepsChart : KeepsChart width height events (after width height endpoint events) := by
  induction events using List.reverseRecOn with
  | nil => exact keepsChart_boot endpoint
  | append_singleton events e ih =>
    rw [after, List.foldl_append]
    exact ih.handle e

/-- **The kept chart is never stale and never drawn needlessly**: after any events it is the chart of
the history as it is, a draw shows that chart, and a message empties the cache, whatever it holds,
exactly when it brings a snapshot. -/
theorem keepsChart_after :
    KeepsChart width height events (after width height endpoint events) ∧
      ((after width height endpoint events).drawChart width height).2 =
        (after width height endpoint events).currentChart width height ∧
      ∀ cache zone message,
        (update { after width height endpoint events with chartCache := cache } zone
            message).dashboard.chartCache =
          if message.bringsSnapshot then none else cache := by
  have h := keepsChart width height events endpoint
  refine ⟨h, h.drawChart_snd, ?_⟩
  intro cache zone message
  -- the numbers agree, whatever the cache holds
  have hrevision :
      ({ after width height endpoint events with chartCache := cache } : Dashboard).chartRevision =
        (after width height endpoint events).poller.history.revision := h.revision
  cases message with
  | tick => rfl
  | fetched outcome =>
    cases outcome with
    | ok s =>
      rw [update_ok zone hrevision]
      rfl
    | error e =>
      rw [update_error zone hrevision]
      rfl

end Dashboard

end TrackerBoard
