import TrackerBoard.Dashboard.Basic
import TrackerBoard.Proofs.Frame.Text
import TrackerBoard.Proofs.Poll.Calls

/-! # One fetch at a time

A dashboard runs beside the fetches that it asks for.  Ticks and outcomes reach it in any order:
at any moment another tick may come, or any fetch that is pending may be over, with any outcome
(`DashboardRun.Reachable`).  The fetches are numbered as they are started, so that a run tells
which of them each outcome came from.

What keeps the run in order is one fact about every state of it (`FetchesOnce`): the dashboard's
poller is a poller that was told of exactly the outcomes delivered so far, and the only fetch that
can be pending is the one after all delivered ones, pending when the poller says so.  All of what is
seen follows from it (`singleFlight_of_reachable`), down to the texts in the window
(`texts_of_reachable`).
-/

namespace TrackerBoard

namespace Dashboard

variable (d : Dashboard) (zone : Zone) (outcome : Outcome)

theorem refreshChart_poller : d.refreshChart.poller = d.poller := by
  rw [refreshChart]
  split
  · rfl
  · rfl

theorem refreshChart_endpoint : d.refreshChart.endpoint = d.endpoint := by
  rw [refreshChart]
  split
  · rfl
  · rfl

@[simp] theorem update_tick_endpoint : (d.update zone .tick).dashboard.endpoint = d.endpoint := rfl

@[simp] theorem update_tick_poller :
    (d.update zone .tick).dashboard.poller = d.poller.beginTick.2 := rfl

/-- A tick asks for a fetch when the poller admits it. -/
@[simp] theorem update_tick_startsFetch :
    (d.update zone .tick).startsFetch = !d.poller.inFlight := d.poller.beginTick_fst

@[simp] theorem update_fetched_endpoint :
    (d.update zone (.fetched outcome)).dashboard.endpoint = d.endpoint := refreshChart_endpoint _

@[simp] theorem update_fetched_poller :
    (d.update zone (.fetched outcome)).dashboard.poller = (d.poller.complete zone outcome).1 :=
  refreshChart_poller _

@[simp] theorem update_fetched_startsFetch :
    (d.update zone (.fetched outcome)).startsFetch = false := rfl

section Shows
variable {d} {last : Option (Outcome × Zone)}

/-- A frame is shown when the last outcome was a snapshot, and it is that snapshot's. -/
theorem shownFrame_iff (h : d.poller.Shows last) (f : Frame) :
    d.shownFrame = some f ↔ ∃ s zone, last = some (.ok s, zone) ∧ f = .ofSnapshot s zone := by
  rw [← h.frame_iff, shownFrame, Poller.mainVisible]
  constructor
  · intro hshown
    split at hshown
    · exact hshown
    · exact absurd hshown (Option.some_ne_none f).symm
  · intro hframe
    have hlink : d.poller.link = .connected := h.frame_isSome.mp (by rw [hframe]; rfl)
    rw [if_pos (decide_eq_true hlink), hframe]

/-- Without a frame the panel says that it waits for the first outcome, or names the failure that
the last one was. -/
theorem failureDetail_cases (h : d.poller.Shows last) (hnone : d.shownFrame = none) :
    last = none ∧ d.failureDetail = "Waiting for tracker..." ∨
      ∃ e zone, last = some (.error e, zone) ∧ d.failureDetail = e.message := by
  rcases last with _ | ⟨e | s, zone⟩
  · refine .inl ⟨rfl, ?_⟩
    rw [failureDetail, h.2.2]
    rfl
  · refine .inr ⟨e, zone, rfl, ?_⟩
    rw [failureDetail, h.2.2]
    rfl
  · have hshown := (shownFrame_iff h (.ofSnapshot s zone)).mpr ⟨s, zone, rfl, rfl⟩
    rw [hnone] at hshown
    exact absurd hshown (Option.some_ne_none _).symm

end Shows

end Dashboard

/-- The outcome of a fetch, as a dashboard was told of it. -/
structure Delivery where
  /-- The number of the fetch. -/
  fetch : Nat
  outcome : Outcome
  /-- The zone in which the dashboard showed times then. -/
  zone : Zone

/-- A dashboard and the fetches that it asked for. -/
structure DashboardRun where
  dashboard : Dashboard
  /-- How many ticks it was told of. -/
  ticks : Nat
  /-- How many fetches it asked for. -/
  started : Nat
  /-- The fetches that are not over. -/
  pending : List Nat
  /-- Oldest first. -/
  deliveries : List Delivery

namespace DashboardRun

/-- Goes on with a dashboard, and with one more fetch if that was asked for. -/
def follow (r : DashboardRun) (next : DashboardUpdate) : DashboardRun :=
  if next.startsFetch then
    { r with
      dashboard := next.dashboard
      started := r.started + 1
      pending := r.pending ++ [r.started] }
  else { r with dashboard := next.dashboard }

/-- A dashboard that was just started. -/
def boot (endpoint : String) : DashboardRun :=
  let first := Dashboard.boot endpoint
  follow ⟨first.dashboard, 0, 0, [], []⟩ first

/-- One more tick. -/
def tick (r : DashboardRun) (zone : Zone) : DashboardRun :=
  { r with ticks := r.ticks + 1 }.follow (r.dashboard.update zone .tick)

/-- A fetch is over. -/
def deliver (r : DashboardRun) (d : Delivery) : DashboardRun :=
  { r with
    pending := r.pending.erase d.fetch
    deliveries := r.deliveries ++ [d] }.follow (r.dashboard.update d.zone (.fetched d.outcome))

/-- The runs of a dashboard: ticks at any moment, and outcomes of fetches that are pending. -/
inductive Reachable (endpoint : String) : DashboardRun → Prop
  | boot : Reachable endpoint (boot endpoint)
  | tick {r : DashboardRun} (zone : Zone) : Reachable endpoint r → Reachable endpoint (r.tick zone)
  | deliver {r : DashboardRun} (d : Delivery) :
      Reachable endpoint r → d.fetch ∈ r.pending → Reachable endpoint (r.deliver d)

/-- The outcomes delivered so far, with their zones. -/
def outcomes (r : DashboardRun) : List (Outcome × Zone) :=
  r.deliveries.map fun d => (d.outcome, d.zone)

/-- The snapshots delivered so far. -/
def snapshots (r : DashboardRun) : List Snapshot := PollerCall.okOutcomes r.outcomes

/-- The failures delivered so far. -/
def failures (r : DashboardRun) : List FetchFailure := PollerCall.errorOutcomes r.outcomes

/-- What is known of a run at every moment. -/
structure FetchesOnce (endpoint : String) (r : DashboardRun) : Prop where
  endpoint_eq : r.dashboard.endpoint = endpoint
  /-- The poller was told of the delivered outcomes, among ticks. -/
  told : ∃ calls, r.dashboard.poller = (Poller.new endpoint).run calls ∧
    calls.filterMap PollerCall.completion? = r.outcomes
  /-- The fetches are over in the order in which they were started. -/
  order : r.deliveries.map (·.fetch) = List.range r.deliveries.length
  pending : r.pending = if r.dashboard.poller.inFlight then [r.deliveries.length] else []
  started : r.started = r.deliveries.length + r.pending.length
  ticks : r.started + r.dashboard.poller.metrics.skipped = r.ticks + 1

section Step
variable {endpoint : String} {r : DashboardRun}

/-- A new dashboard asks for the first fetch. -/
theorem FetchesOnce.boot : FetchesOnce endpoint (boot endpoint) where
  endpoint_eq := rfl
  told := ⟨[.begin], rfl, rfl⟩
  order := rfl
  pending := rfl
  started := rfl
  ticks := rfl

/-- A tick asks for a fetch when none is pending, and is skipped otherwise. -/
theorem FetchesOnce.tick (h : FetchesOnce endpoint r) (zone : Zone) :
    FetchesOnce endpoint (r.tick zone) := by
  obtain ⟨calls, hpoller, hcalls⟩ := h.told
  have hpending := h.pending
  have hstarted := h.started
  have hticks := h.ticks
  have htold : ∃ calls, r.dashboard.poller.beginTick.2 = (Poller.new endpoint).run calls ∧
      calls.filterMap PollerCall.completion? = r.outcomes := by
    refine ⟨calls ++ [.begin], ?_, ?_⟩
    · rw [Poller.run_snoc, ← hpoller]
      rfl
    · rw [List.filterMap_append, hcalls]
      exact List.append_nil _
  rw [DashboardRun.tick, follow, Dashboard.update_tick_startsFetch]
  cases hflight : r.dashboard.poller.inFlight with
  | true =>
    rw [hflight, if_pos rfl] at hpending
    refine ⟨h.endpoint_eq, htold, h.order, ?_, hstarted, ?_⟩
    · simp [Poller.beginTick_snd, hpending]
    · simp [Poller.beginTick_snd, hflight, Metrics.recordSkipped]
      omega
  | false =>
    rw [hflight, if_neg Bool.false_ne_true] at hpending
    rw [hpending, List.length_nil] at hstarted
    refine ⟨h.endpoint_eq, htold, h.order, ?_, ?_, ?_⟩
    · simp [Poller.beginTick_snd, hpending, hstarted]
    · simp [hpending, hstarted]
    · simp [Poller.beginTick_snd, hflight]
      omega

/-- An outcome comes from the one fetch that is pending, and leaves none pending. -/
theorem FetchesOnce.deliver (h : FetchesOnce endpoint r) {d : Delivery}
    (hd : d.fetch ∈ r.pending) : FetchesOnce endpoint (r.deliver d) := by
  obtain ⟨calls, hpoller, hcalls⟩ := h.told
  have hpending := h.pending
  -- a fetch that delivers was pending, so it is the one that the poller waits for
  have hflight : r.dashboard.poller.inFlight = true := by
    by_contra hidle
    rw [hpending, if_neg hidle] at hd
    exact absurd hd List.not_mem_nil
  rw [if_pos hflight] at hpending
  rw [hpending, List.mem_singleton] at hd
  rw [DashboardRun.deliver, follow, Dashboard.update_fetched_startsFetch,
    if_neg Bool.false_ne_true]
  refine ⟨?endpoint_eq, ?told, ?order, ?pending, ?started, ?ticks⟩
  case endpoint_eq =>
    rw [Dashboard.update_fetched_endpoint]
    exact h.endpoint_eq
  case told =>
    refine ⟨calls ++ [.complete d.outcome d.zone], ?_, ?_⟩
    · rw [Poller.run_snoc, ← hpoller, Dashboard.update_fetched_poller]
      rfl
    · rw [List.filterMap_append, hcalls, outcomes, outcomes, List.map_append]
      rfl
  case order =>
    rw [List.map_append, h.order, List.length_append, List.length_singleton, List.range_succ,
      List.map_singleton, hd]
  case pending =>
    rw [Dashboard.update_fetched_poller, Poller.complete_inFlight, hpending, hd]
    simp
  case started => simp [h.started, hpending, hd]
  case ticks =>
    rw [Dashboard.update_fetched_poller, Poller.complete_skipped]
    exact h.ticks

/-- Every state of a run is in order. -/
theorem Reachable.fetchesOnce (h : Reachable endpoint r) : FetchesOnce endpoint r := by
  induction h with
  | boot => exact .boot
  | tick zone _ ih => exact ih.tick zone
  | deliver d _ hd ih => exact ih.deliver hd

/-- The poller shows the last outcome that was delivered. -/
theorem FetchesOnce.shows (h : FetchesOnce endpoint r) :
    r.dashboard.poller.Shows r.outcomes.getLast? := by
  obtain ⟨calls, hpoller, hcalls⟩ := h.told
  rw [hpoller, ← hcalls]
  exact Poller.shows_after endpoint calls

/-- The poller counts the snapshots that were delivered. -/
theorem FetchesOnce.fetched (h : FetchesOnce endpoint r) :
    r.dashboard.poller.metrics.fetched = r.snapshots.length := by
  obtain ⟨calls, hpoller, hcalls⟩ := h.told
  rw [hpoller, Poller.metrics_after, PollerCall.snapshots_eq_okOutcomes, hcalls, snapshots]

/-- The poller counts the failures that were delivered. -/
theorem FetchesOnce.failed (h : FetchesOnce endpoint r) :
    r.dashboard.poller.metrics.failed = r.failures.length := by
  obtain ⟨calls, hpoller, hcalls⟩ := h.told
  rw [hpoller, Poller.metrics_after, PollerCall.failures_eq_errorOutcomes, hcalls, failures]

end Step

/-- The cells with their titles, in the order in which they stand in the window. -/
def titledTexts (cells : CellTexts) : List String :=
  ["CONN", cells.connection, "SIG", cells.signal, "TRACKER", cells.deviceLink,
    "MONITORS", cells.monitorsLink, "CHANNELS", cells.channels, "DESIGNATOR", cells.designator,
    "TASK", cells.task, "BANDIT", cells.target, "TRACK", cells.track,
    "FRAMES", cells.frameCount, "CONTACT", cells.contactTime, "SIGNAL", cells.banditSignal]

/-- The texts when there is no snapshot to show: why, and what came of all ticks. -/
def unreachableTexts (endpoint detail : String) (r : DashboardRun) : List String :=
  ["TRACKER UNREACHABLE",
    detail ++ " (" ++ endpoint ++ ")",
    toString r.snapshots.length ++ " fetched / " ++ toString r.failures.length ++ " failed / " ++
      toString (r.ticks + 1 - r.started) ++ " skipped"]

/-- The texts that a run leads to: those of its last outcome. -/
def lastTexts (endpoint : String) (r : DashboardRun) : List String :=
  match r.outcomes.getLast? with
  | none => unreachableTexts endpoint "Waiting for tracker..." r
  | some (.error e, _) => unreachableTexts endpoint e.text r
  | some (.ok s, zone) => titledTexts (s.cellTexts zone) ++ "Events" :: eventTexts s.events zone

theorem FetchesOnce.errorTexts_eq {endpoint : String} {r : DashboardRun}
    (h : FetchesOnce endpoint r) :
    r.dashboard.errorTexts = unreachableTexts endpoint r.dashboard.failureDetail r := by
  have hskipped : r.dashboard.poller.metrics.skipped = r.ticks + 1 - r.started := by
    have hticks := h.ticks
    omega
  rw [Dashboard.errorTexts, unreachableTexts, h.endpoint_eq, h.fetched, h.failed, hskipped]

theorem mainTexts_ofSnapshot (s : Snapshot) (zone : Zone) :
    Dashboard.mainTexts (.ofSnapshot s zone) =
      titledTexts (s.cellTexts zone) ++ "Events" :: eventTexts s.events zone := by
  have htexts (f : Frame) :
      Dashboard.mainTexts f = titledTexts f.cellTexts ++ "Events" :: f.events := rfl
  rw [htexts, Frame.cellTexts_ofSnapshot, ← eventLines_eq]
  rfl

/-- **The window shows the last outcome**, and the counts as long as that is no snapshot. -/
theorem texts_of_reachable {endpoint : String} {r : DashboardRun} (h : Reachable endpoint r) :
    r.dashboard.texts = lastTexts endpoint r := by
  have hrun := h.fetchesOnce
  have hshows := hrun.shows
  rw [Dashboard.texts]
  cases hshown : r.dashboard.shownFrame with
  | some f =>
    obtain ⟨s, zone, hlast, rfl⟩ := (Dashboard.shownFrame_iff hshows f).mp hshown
    rw [lastTexts, hlast]
    exact mainTexts_ofSnapshot s zone
  | none =>
    show r.dashboard.errorTexts = lastTexts endpoint r
    rw [hrun.errorTexts_eq, lastTexts]
    rcases Dashboard.failureDetail_cases hshows hshown with
      ⟨hlast, hdetail⟩ | ⟨e, zone, hlast, hdetail⟩
    · rw [hlast, hdetail]
    · rw [hlast, hdetail, e.message_eq]

end DashboardRun

end TrackerBoard
