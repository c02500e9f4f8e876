import TrackerBoard.Endpoint.Bridge
import TrackerBoard.Endpoint.Reply
import TrackerBoard.Proofs.Endpoint.Outage
import TrackerBoard.Proofs.Poll.Calls
import TrackerBoard.Proofs.Snapshot.RoundTrip

/-! # Rounds of publishing and polling

In a round the tracker publishes a snapshot, the schedule of outages saying whether the endpoint is
down, and then a dashboard polls the endpoint once.  What a fetch comes to depends on this round
alone (`fetch_eq`): the bridge keeps one snapshot, and a fetch of it takes it through the encoder
and the decoder.  So a poller after some rounds is told from their snapshots and the schedule
(`Followed`, kept by every round): it has counted the rounds of either kind, its history is that of
the rounds that were up, and it shows the last round.
-/

namespace TrackerBoard

/-- The request of a dashboard, with any headers. -/
def Request.getState (headers : List (String × String)) : Request :=
  ⟨"GET", "/api/state".toList, headers⟩

/-- A well-formed request to the path of the state is one of these. -/
theorem Request.ofTarget?_state {headers : List (String × String)}
    (h : headers.all fun (name, value) => isToken name ∧ isHeaderValue value) :
    ofTarget? "GET" "/api/state" headers = some (getState headers) := by
  have hpath : Target.path? "/api/state" = some "/api/state".toList := by decide
  have hmethod : isToken "GET" := by decide
  rw [ofTarget?, if_pos ⟨hmethod, h⟩, hpath]
  rfl

namespace Bridge

variable (b : Bridge) (headers : List (String × String))

/-- What a fetch from a bridge comes to. -/
def fetch : Outcome :=
  let answer := b.respond (.getState headers)
  (Reply.answered answer.status answer.bytes).outcome

/-- Whether or not the request names an origin, it is answered with what is served. -/
theorem respond_getState :
    (b.respond (.getState headers)).status = b.current.status ∧
      (b.respond (.getState headers)).body = b.current.body := by
  have hpath : (Request.getState headers).path ∈ routes := List.mem_cons_self ..
  have hmethod : (Request.getState headers).method = "GET" := rfl
  have hserve : b.serve (.getState headers) = b.current := by
    rw [serve, if_neg (not_not_intro hpath), if_pos hmethod]
  rw [respond]
  split
  · rw [hserve]
    exact ⟨rfl, rfl⟩
  · rw [if_neg (by rw [hmethod]; decide), hserve]
    split
    · exact ⟨rfl, rfl⟩
    · exact ⟨rfl, rfl⟩

/-- **A fetch gives the published snapshot as it is read back**, unless the endpoint is down. -/
theorem fetch_eq :
    b.fetch headers =
      if b.isDown then .error (.status 500) else .ok b.snapshot.readable := by
  obtain ⟨hstatus, hbody⟩ := b.respond_getState headers
  rw [fetch, Response.bytes, hstatus, hbody, current]
  cases b.isDown with
  | true => rfl
  | false =>
    have hsuccess : Reply.isSuccess (Response.json 200 b.snapshot.wire).status = true := rfl
    rw [if_neg Bool.false_ne_true, if_neg Bool.false_ne_true, Reply.outcome, if_pos hsuccess]
    exact b.snapshot.decode_body

end Bridge

/-- A round: what is published, the headers of the request that follows, and the zone in which the
dashboard shows times. -/
structure Round where
  snapshot : Snapshot
  headers : List (String × String)
  zone : Zone

/-- A bridge and the poller of a dashboard, after a number of rounds. -/
structure PolledBridge where
  bridge : Bridge
  poller : Poller
  rounds : Nat

namespace PolledBridge

/-- Nothing was published or polled yet. -/
def new (endpoint : String) : PolledBridge := ⟨.new, .new endpoint, 0⟩

variable (outages : OutageSchedule)

/-- One round: the snapshot is published, and the poller polls once. -/
def round (p : PolledBridge) (r : Round) : PolledBridge :=
  let number := p.rounds + 1
  let bridge := (p.bridge.publish r.snapshot (outages.isDownIn number)).1
  match p.poller.beginTick with
  | (true, poller) => ⟨bridge, (poller.complete r.zone (bridge.fetch r.headers)).1, number⟩
  | (false, poller) => ⟨bridge, poller, number⟩

/-- The bridge and the poller after some rounds. -/
def after (endpoint : String) (rounds : List Round) : PolledBridge :=
  rounds.foldl (round outages) (new endpoint)

/-- How many of the first rounds were down. -/
def downCount (rounds : Nat) : Nat :=
  (List.range' 1 rounds).countP outages.isDownIn

/-- The snapshots of the rounds that were up. -/
def upSnapshots (rounds : List Round) : List Snapshot :=
  (rounds.zipIdx 1).filterMap fun (r, number) =>
    if outages.isDownIn number then none else some r.snapshot

theorem after_snoc (endpoint : String) (rounds : List Round) (r : Round) :
    after outages endpoint (rounds ++ [r]) = (after outages endpoint rounds).round outages r := by
  rw [after, List.foldl_append]
  rfl

theorem downCount_succ (rounds : Nat) :
    downCount outages (rounds + 1) =
      downCount outages rounds + if outages.isDownIn (rounds + 1) then 1 else 0 := by
  rw [downCount, List.range'_1_concat, List.countP_append, List.countP_singleton,
    Nat.add_comm 1 rounds]
  rfl

theorem upSnapshots_snoc (rounds : List Round) (r : Round) :
    upSnapshots outages (rounds ++ [r]) =
      upSnapshots outages rounds ++
        if outages.isDownIn (rounds.length + 1) then [] else [r.snapshot] := by
  rw [upSnapshots, upSnapshots, List.zipIdx_append, List.filterMap_append, List.zipIdx_singleton,
    Nat.add_comm 1 rounds.length]
  cases h : outages.isDownIn (rounds.length + 1) <;> simp [h]

/-- What a round makes of the poller, when none of its fetches is pending: one outcome, that of a
fetch of what was just published. -/
theorem round_of_idle {p : PolledBridge} (hidle : p.poller.inFlight = false) (r : Round) :
    p.round outages r =
      ⟨⟨r.snapshot, outages.isDownIn (p.rounds + 1)⟩,
        ({ p.poller with inFlight := true }.complete r.zone
          (if outages.isDownIn (p.rounds + 1) then .error (.status 500)
            else .ok r.snapshot.readable)).1,
        p.rounds + 1⟩ := by
  rw [round, Poller.beginTick, if_neg (by rw [hidle]; decide)]
  simp only [Bridge.fetch_eq, Bridge.publish]

/-- What is known of a bridge and a poller after some rounds, whatever the last one was. -/
structure Followed (rounds : List Round) (p : PolledBridge) : Prop where
  number : p.rounds = rounds.length
  idle : p.poller.inFlight = false
  failed : p.poller.metrics.failed = downCount outages rounds.length
  fetched : p.poller.metrics.fetched + p.poller.metrics.failed = rounds.length
  skipped : p.poller.metrics.skipped = 0
  history : p.poller.history =
    .ofSamples History.defaultCapacity (Poller.signals (upSnapshots outages rounds))

variable {outages}

/-- Another round is followed. -/
theorem Followed.round {rounds : List Round} {p : PolledBridge} (h : Followed outages rounds p)
    (r : Round) : Followed outages (rounds ++ [r]) (p.round outages r) := by
  rw [round_of_idle outages h.idle, h.number]
  have hlength : (rounds ++ [r]).length = rounds.length + 1 := List.length_append
  have hfetched := h.fetched
  -- a round that is down moves one counter, one that is up the other and the history
  cases hdown : outages.isDownIn (rounds.length + 1) with
  | true =>
    rw [if_pos rfl, Poller.complete_error_fst]
    refine ⟨hlength.symm, rfl, ?failed, ?fetched, h.skipped, ?history⟩
    case failed => rw [hlength, downCount_succ, hdown, ← h.failed]; rfl
    case fetched =>
      simp only [Metrics.recordFailed, hlength]
      omega
    case history => rw [upSnapshots_snoc, hdown, if_pos rfl, List.append_nil, ← h.history]
  | false =>
    rw [if_neg Bool.false_ne_true, Poller.complete_ok_fst]
    refine ⟨hlength.symm, rfl, ?failed, ?fetched, h.skipped, ?history⟩
    case failed => rw [hlength, downCount_succ, hdown, ← h.failed]; rfl
    case fetched =>
      simp only [Metrics.recordFetched, hlength]
      omega
    case history =>
      rw [upSnapshots_snoc, hdown, if_neg Bool.false_ne_true, Poller.ofSamples_signals_snoc,
        ← h.history]
      rfl

variable (outages)

/-- All rounds are followed. -/
theorem followed_after (endpoint : String) (rounds : List Round) :
    Followed outages rounds (after outages endpoint rounds) := by
  induction rounds using List.reverseRecOn with
  | nil => exact ⟨rfl, rfl, rfl, rfl, rfl, rfl⟩
  | append_singleton rounds r ih =>
    rw [after_snoc]
    exact ih.round r

/-- After any rounds, one more shows its own outcome and nothing of an earlier one. -/
theorem shows_after_snoc (endpoint : String) (rounds : List Round) (r : Round) :
    (after outages endpoint (rounds ++ [r])).poller.Shows
      (some (if outages.isDownIn (rounds.length + 1) then .error (.status 500)
        else .ok r.snapshot.readable, r.zone)) := by
  have h := followed_after outages endpoint rounds
  rw [after_snoc, round_of_idle outages h.idle, h.number]
  cases outages.isDownIn (rounds.length + 1) with
  | true =>
    rw [if_pos rfl, Poller.complete_error_fst]
    exact ⟨rfl, rfl, rfl⟩
  | false =>
    rw [if_neg Bool.false_ne_true, Poller.complete_ok_fst]
    exact ⟨rfl, rfl, rfl⟩

/-- What a dashboard shows after some rounds, `last` of which was the last one. -/
structure Mirrors (rounds : List Round) (last : Round) (p : Poller) : Prop where
  failed : p.metrics.failed = downCount outages rounds.length
  fetched : p.metrics.fetched + p.metrics.failed = rounds.length
  skipped : p.metrics.skipped = 0
  /-- The last 300 signals of the rounds that were up, oldest first. -/
  samples : p.history.samples = (Poller.signals (upSnapshots outages rounds)).rtake 300
  up : outages.isDownIn rounds.length = false →
    p.link = .connected ∧ p.frame = some (.ofSnapshot last.snapshot last.zone) ∧
      p.lastFailure = none
  down : outages.isDownIn rounds.length = true →
    p.link = .disconnected ∧ p.frame = none ∧ p.lastFailure = some (.status 500)

/-- **A dashboard mirrors the tracker through encoder, endpoint and decoder**, over any number of
rounds and under any schedule of outages, as long as the years of all timestamps are written
without a sign. -/
theorem mirrors_after (endpoint : String) (front : List Round) (last : Round)
    (hyears : ∀ r ∈ front ++ [last], r.snapshot.HasFourDigitYears) :
    Mirrors outages (front ++ [last]) last (after outages endpoint (front ++ [last])).poller := by
  have h := followed_after outages endpoint (front ++ [last])
  have hshows := shows_after_snoc outages endpoint front last
  have hlength : (front ++ [last]).length = front.length + 1 := List.length_append
  have hlast : last ∈ front ++ [last] := List.mem_append_right front (List.mem_singleton_self last)
  have hreadable : last.snapshot.readable = last.snapshot :=
    Snapshot.readable_eq_self (hyears last hlast)
  have hcapacity : max History.defaultCapacity 1 = 300 := rfl
  refine ⟨h.failed, h.fetched, h.skipped, ?samples, ?up, ?down⟩
  case samples => rw [h.history, History.ofSamples_eq, hcapacity]
  case up =>
    intro hup
    rw [hlength] at hup
    rw [hup, if_neg Bool.false_ne_true, hreadable] at hshows
    exact hshows
  case down =>
    intro hdown
    rw [hlength] at hdown
    rw [hdown, if_pos rfl] at hshows
    exact hshows

/-- Of two rounds under a schedule that takes every second one down, the first is in the history
and the second one is not. -/
theorem mirrors_after_outage :
    let front : Round := ⟨{ banditSignal := some (-58) }, [], .utc⟩
    let last : Round := ⟨{ clock := some Snapshot.leapSecond }, [], .utc⟩
    (∀ r ∈ [front, last], r.snapshot.HasFourDigitYears) ∧
      Mirrors (.new (some 2) 1) [front, last] last
        (after (.new (some 2) 1) "" [front, last]).poller ∧
      upSnapshots (.new (some 2) 1) [front, last] = [front.snapshot] :=
  ⟨by decide, mirrors_after (.new (some 2) 1) "" [_] _ (by decide), by decide⟩

end PolledBridge

end TrackerBoard
