import TrackerBoard.Poll.Poller
import TrackerBoard.Proofs.Poll.History

/-! # What a poller is after any calls

A poller is told of ticks and of outcomes of fetches, in any order: an outcome may come without a
tick.  What is seen of it is a function of these calls.  The counters and the history are read off
the list of all calls (`metrics_after`, `history_after`), the link, the frame and the failure off
the last outcome alone (`shows_after`), and whether a tick is admitted off the calls since that
outcome (`inFlight_after`).
-/

namespace TrackerBoard

/-- What a poller is told. -/
inductive PollerCall where
  | begin
  | complete (outcome : Outcome) (zone : Zone)

namespace Poller

variable (p : Poller)

theorem transition_fst (next : Link) : (p.transition next).1 = { p with link := next } := by
  by_cases h : p.link = next
  · simp [transition, ← h]
  · simp [transition, h]

/-- A snapshot moves everything that is shown at once, whatever the link was. -/
theorem complete_ok_fst (zone : Zone) (s : Snapshot) :
    (p.complete zone (.ok s)).1 =
      { p with
        inFlight := false
        metrics := p.metrics.recordFetched
        link := .connected
        lastFailure := none
        history := p.history.pushSignal s.banditSignal
        frame := some (.ofSnapshot s zone) } := by
  simp only [complete, transition_fst]

/-- A failure moves everything that is shown but the history. -/
theorem complete_error_fst (zone : Zone) (e : FetchFailure) :
    (p.complete zone (.error e)).1 =
      { p with
        inFlight := false
        metrics := p.metrics.recordFailed
        link := .disconnected
        lastFailure := some e
        frame := none } := by
  simp only [complete, transition_fst]

/-- After an outcome no fetch is pending, whether or not one was. -/
theorem complete_inFlight (zone : Zone) (outcome : Outcome) :
    (p.complete zone outcome).1.inFlight = false := by
  cases outcome with
  | error e => rw [complete_error_fst]
  | ok s => rw [complete_ok_fst]

theorem complete_skipped (zone : Zone) (outcome : Outcome) :
    (p.complete zone outcome).1.metrics.skipped = p.metrics.skipped := by
  cases outcome with
  | error e =>
    rw [complete_error_fst]
    rfl
  | ok s =>
    rw [complete_ok_fst]
    rfl

theorem beginTick_fst : p.beginTick.1 = !p.inFlight := by
  cases h : p.inFlight <;> simp [beginTick, h]

/-- A tick leaves a fetch pending and touches nothing else but the count of skipped ticks. -/
theorem beginTick_snd :
    p.beginTick.2 =
      { p with
        inFlight := true
        metrics := if p.inFlight then p.metrics.recordSkipped else p.metrics } := by
  cases h : p.inFlight <;> simp [beginTick, h]

/-- The poller after a call. -/
def call : PollerCall → Poller
  | .begin => p.beginTick.2
  | .complete outcome zone => (p.complete zone outcome).1

/-- What a call answers: a tick, whether it is admitted. -/
def answer? : PollerCall → Option Bool
  | .begin => some p.beginTick.1
  | .complete .. => none

/-- The poller after some calls. -/
def run (calls : List PollerCall) : Poller := calls.foldl call p

/-- The answers to some calls. -/
def answers (p : Poller) : List PollerCall → List (Option Bool)
  | [] => []
  | c :: calls => p.answer? c :: answers (p.call c) calls

@[simp] theorem run_nil : p.run [] = p := rfl

theorem run_cons (c : PollerCall) (calls : List PollerCall) :
    p.run (c :: calls) = (p.call c).run calls := rfl

theorem run_append (calls calls' : List PollerCall) :
    p.run (calls ++ calls') = (p.run calls).run calls' := List.foldl_append ..

theorem answers_append (calls calls' : List PollerCall) :
    p.answers (calls ++ calls') = p.answers calls ++ (p.run calls).answers calls' := by
  induction calls generalizing p with
  | nil => rfl
  | cons c calls ih => rw [List.cons_append, answers, answers, ih, run_cons, List.cons_append]

end Poller

namespace PollerCall

/-- The outcome that a call tells of. -/
def completion? : PollerCall → Option (Outcome × Zone)
  | .begin => none
  | .complete outcome zone => some (outcome, zone)

/-- The snapshot that a call tells of. -/
def snapshot? : PollerCall → Option Snapshot
  | .complete (.ok s) _ => some s
  | _ => none

/-- The failure that a call tells of. -/
def failure? : PollerCall → Option FetchFailure
  | .complete (.error e) _ => some e
  | _ => none

/-- The snapshots among the outcomes of some calls. -/
def snapshots (calls : List PollerCall) : List Snapshot := calls.filterMap snapshot?

/-- The failures among the outcomes of some calls. -/
def failures (calls : List PollerCall) : List FetchFailure := calls.filterMap failure?

/-- The last outcome of some calls, with its zone. -/
def lastCompletion? (calls : List PollerCall) : Option (Outcome × Zone) :=
  (calls.filterMap completion?).getLast?

variable (calls : List PollerCall) (outcome : Outcome) (zone : Zone)

@[simp] theorem snapshots_snoc_begin : snapshots (calls ++ [.begin]) = snapshots calls := by
  simp [snapshots, snapshot?]

@[simp] theorem snapshots_snoc_ok (s : Snapshot) :
    snapshots (calls ++ [.complete (.ok s) zone]) = snapshots calls ++ [s] := by
  simp [snapshots, snapshot?]

@[simp] theorem snapshots_snoc_error (e : FetchFailure) :
    snapshots (calls ++ [.complete (.error e) zone]) = snapshots calls := by
  simp [snapshots, snapshot?]

@[simp] theorem failures_snoc_begin : failures (calls ++ [.begin]) = failures calls := by
  simp [failures, failure?]

@[simp] theorem failures_snoc_ok (s : Snapshot) :
    failures (calls ++ [.complete (.ok s) zone]) = failures calls := by
  simp [failures, failure?]

@[simp] theorem failures_snoc_error (e : FetchFailure) :
    failures (calls ++ [.complete (.error e) zone]) = failures calls ++ [e] := by
  simp [failures, failure?]

@[simp] theorem lastCompletion?_snoc_begin :
    lastCompletion? (calls ++ [.begin]) = lastCompletion? calls := by
  simp [lastCompletion?, completion?]

@[simp] theorem lastCompletion?_snoc_complete :
    lastCompletion? (calls ++ [.complete outcome zone]) = some (outcome, zone) := by
  simp [lastCompletion?, completion?]

/-- The snapshots among some outcomes. -/
def okOutcomes (outcomes : List (Outcome × Zone)) : List Snapshot :=
  outcomes.filterMap fun (outcome, _) => outcome.toOption

/-- The failures among some outcomes. -/
def errorOutcomes (outcomes : List (Outcome × Zone)) : List FetchFailure :=
  outcomes.filterMap fun
    | (.error e, _) => some e
    | (.ok _, _) => none

theorem snapshots_eq_okOutcomes :
    snapshots calls = okOutcomes (calls.filterMap completion?) := by
  rw [snapshots, okOutcomes, List.filterMap_filterMap]
  congr 1
  funext c
  rcases c with _ | ⟨_ | _, _⟩ <;> rfl

theorem failures_eq_errorOutcomes :
    failures calls = errorOutcomes (calls.filterMap completion?) := by
  rw [failures, errorOutcomes, List.filterMap_filterMap]
  congr 1
  funext c
  rcases c with _ | ⟨_ | _, _⟩ <;> rfl

end PollerCall

namespace Poller

open PollerCall

variable (endpoint : String) (calls : List PollerCall)

theorem run_snoc (p : Poller) (c : PollerCall) : p.run (calls ++ [c]) = (p.run calls).call c := by
  rw [run_append, run_cons, run_nil]

theorem answers_snoc (p : Poller) (c : PollerCall) :
    p.answers (calls ++ [c]) = p.answers calls ++ [(p.run calls).answer? c] := by
  rw [answers_append, answers, answers]

/-- The answers to the calls since the last outcome. -/
def answersSinceCompletion : List (Option Bool) :=
  ((new endpoint).answers calls).rtakeWhile Option.isSome

/-- **Every snapshot, every failure and every tick that was not admitted is counted once.** -/
theorem metrics_after :
    ((new endpoint).run calls).metrics =
      { fetched := (snapshots calls).length
        failed := (failures calls).length
        skipped := ((new endpoint).answers calls).count (some false) } := by
  induction calls using List.reverseRecOn with
  | nil => rfl
  | append_singleton calls c ih =>
    rw [run_snoc, answers_snoc, List.count_append]
    rcases c with _ | ⟨e | s, zone⟩
    · rw [call, answer?, beginTick_snd, beginTick_fst, ih]
      cases ((new endpoint).run calls).inFlight <;> simp [Metrics.recordSkipped]
    · rw [call, answer?, complete_error_fst, ih]
      simp [Metrics.recordFailed]
    · rw [call, answer?, complete_ok_fst, ih]
      simp [Metrics.recordFetched]

/-- The signals of some snapshots, in dBm; -100 stands for a missing one. -/
def signals (snapshots : List Snapshot) : List Int64 :=
  snapshots.map fun s => s.banditSignal.getD (-100)

theorem ofSamples_signals_snoc (capacity : Nat) (snapshots : List Snapshot) (s : Snapshot) :
    History.ofSamples capacity (signals (snapshots ++ [s])) =
      (History.ofSamples capacity (signals snapshots)).pushSignal s.banditSignal := by
  rw [signals, List.map_append, List.map_singleton, History.ofSamples_snoc]
  rfl

/-- **The history is that of the signals of all snapshots**, whatever came between them. -/
theorem history_after :
    ((new endpoint).run calls).history =
      .ofSamples History.defaultCapacity (signals (snapshots calls)) := by
  induction calls using List.reverseRecOn with
  | nil => rfl
  | append_singleton calls c ih =>
    rw [run_snoc]
    rcases c with _ | ⟨e | s, zone⟩
    · rw [snapshots_snoc_begin, ← ih, call, beginTick_snd]
    · rw [snapshots_snoc_error, ← ih, call, complete_error_fst]
    · rw [snapshots_snoc_ok, ofSamples_signals_snoc, ← ih, call, complete_ok_fst]

/-- **A fetch is pending when a tick was admitted since the last outcome.** -/
theorem inFlight_after :
    ((new endpoint).run calls).inFlight = true ↔
      some true ∈ answersSinceCompletion endpoint calls := by
  rw [answersSinceCompletion]
  induction calls using List.reverseRecOn with
  | nil => simp [new, answers]
  | append_singleton calls c ih =>
    rw [run_snoc, answers_snoc]
    rcases c with _ | ⟨e | s, zone⟩
    · -- the tick is admitted unless one was before it, so that one was in either case
      rw [answer?, List.rtakeWhile_concat_pos _ _ _ rfl, List.mem_append, ← ih, call,
        beginTick_snd, beginTick_fst]
      cases ((new endpoint).run calls).inFlight <;> simp
    · rw [answer?, List.rtakeWhile_concat_neg _ _ _ (by decide), call, complete_error_fst]
      simp
    · rw [answer?, List.rtakeWhile_concat_neg _ _ _ (by decide), call, complete_ok_fst]
      simp

/-- What a poller shows when an outcome was its last one. -/
def Shows (p : Poller) : Option (Outcome × Zone) → Prop
  | none => p.link = .disconnected ∧ p.frame = none ∧ p.lastFailure = none
  | some (.ok s, zone) =>
    p.link = .connected ∧ p.frame = some (.ofSnapshot s zone) ∧ p.lastFailure = none
  | some (.error e, _) => p.link = .disconnected ∧ p.frame = none ∧ p.lastFailure = some e

/-- **What a poller shows depends on the last outcome alone.** -/
theorem shows_after : ((new endpoint).run calls).Shows (lastCompletion? calls) := by
  induction calls using List.reverseRecOn with
  | nil => exact ⟨rfl, rfl, rfl⟩
  | append_singleton calls c ih =>
    rw [run_snoc]
    rcases c with _ | ⟨e | s, zone⟩
    · rw [lastCompletion?_snoc_begin, call, beginTick_snd]
      exact ih
    · rw [lastCompletion?_snoc_complete, call, complete_error_fst]
      exact ⟨rfl, rfl, rfl⟩
    · rw [lastCompletion?_snoc_complete, call, complete_ok_fst]
      exact ⟨rfl, rfl, rfl⟩

section Shows

variable {p : Poller} {last : Option (Outcome × Zone)}

theorem Shows.link_iff (h : p.Shows last) :
    p.link = .connected ↔ ∃ s zone, last = some (.ok s, zone) := by
  rcases last with _ | ⟨e | s, zone⟩
  · simp [h.1]
  · simp [h.1]
  · simp [h.1]

theorem Shows.frame_isSome (h : p.Shows last) : p.frame.isSome = true ↔ p.link = .connected := by
  rcases last with _ | ⟨e | s, zone⟩
  · simp [h.1, h.2.1]
  · simp [h.1, h.2.1]
  · simp [h.1, h.2.1]

theorem Shows.frame_iff (h : p.Shows last) (f : Frame) :
    p.frame = some f ↔ ∃ s zone, last = some (.ok s, zone) ∧ f = .ofSnapshot s zone := by
  rcases last with _ | ⟨e | s, zone⟩
  · simp [h.2.1]
  · simp [h.2.1]
  · simp [h.2.1, eq_comm]

theorem Shows.lastFailure_iff (h : p.Shows last) (e : FetchFailure) :
    p.lastFailure = some e ↔ ∃ zone, last = some (.error e, zone) := by
  rcases last with _ | ⟨e' | s, zone⟩
  · simp [h.2.2]
  · simp [h.2.2]
  · simp [h.2.2]

end Shows

/-- What is seen of a poller, read off the calls that it got. -/
structure Reflects (endpoint : String) (calls : List PollerCall) (p : Poller) : Prop where
  fetched : p.metrics.fetched = (snapshots calls).length
  failed : p.metrics.failed = (failures calls).length
  skipped : p.metrics.skipped = ((new endpoint).answers calls).count (some false)
  /-- A tick is admitted unless one was since the last outcome. -/
  admits : p.beginTick.1 = true ↔ some true ∉ answersSinceCompletion endpoint calls
  /-- The last 300 signals, oldest first. -/
  samples : p.history.samples = (signals (snapshots calls)).rtake 300
  revision : p.history.revision = p.metrics.fetched
  link : p.link = .connected ↔ ∃ s zone, lastCompletion? calls = some (.ok s, zone)
  framePresent : p.frame.isSome = true ↔ p.link = .connected
  frame : ∀ f, p.frame = some f ↔
    ∃ s zone, lastCompletion? calls = some (.ok s, zone) ∧ f = .ofSnapshot s zone
  lastFailure : ∀ e, p.lastFailure = some e ↔
    ∃ zone, lastCompletion? calls = some (.error e, zone)
  mainVisible : p.mainVisible = true ↔ p.link = .connected
  errorVisible : p.errorVisible = !p.mainVisible

/-- **All that is seen of a poller is read off the calls that it got**, and the history off the
snapshots alone: failures and skipped ticks between them leave no mark on it. -/
theorem reflects_run :
    Reflects endpoint calls ((new endpoint).run calls) ∧
      ∀ (endpoint' : String) (calls' : List PollerCall), snapshots calls' = snapshots calls →
        ((new endpoint').run calls').history = ((new endpoint).run calls).history := by
  have hmetrics := metrics_after endpoint calls
  have hcapacity : max History.defaultCapacity 1 = 300 := rfl
  have hhistory := history_after endpoint calls
  rw [History.ofSamples_eq, hcapacity] at hhistory
  have hshows := shows_after endpoint calls
  refine ⟨{ fetched := by rw [hmetrics]
            failed := by rw [hmetrics]
            skipped := by rw [hmetrics]
            admits := ?admits
            samples := by rw [hhistory]
            revision := ?revision
            link := hshows.link_iff
            framePresent := hshows.frame_isSome
            frame := hshows.frame_iff
            lastFailure := hshows.lastFailure_iff
            mainVisible := by simp [mainVisible]
            errorVisible := by simp [errorVisible] }, ?_⟩
  case admits =>
    rw [beginTick_fst, Bool.not_eq_true', ← Bool.not_eq_true, inFlight_after]
  case revision =>
    rw [hhistory, hmetrics, signals, List.length_map]
  intro endpoint' calls' hsnapshots
  rw [history_after, history_after, hsnapshots]

/-- A failure and a skipped tick before a snapshot leave no mark on the history. -/
theorem history_run_after_failure :
    snapshots [.begin, .begin, .complete (.error (.status 500)) .utc, .complete (.ok {}) .utc] =
        snapshots [.complete (.ok {}) .utc] ∧
      ((new "").run [.begin, .begin, .complete (.error (.status 500)) .utc,
        .complete (.ok {}) .utc]).history = ((new "").run [.complete (.ok {}) .utc]).history :=
  ⟨rfl, (reflects_run "" [.complete (.ok {}) .utc]).2 "" _ rfl⟩

end Poller

end TrackerBoard
