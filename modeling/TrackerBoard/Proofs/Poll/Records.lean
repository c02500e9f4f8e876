import Mathlib.Data.List.Defs
import TrackerBoard.Poll.Headless
import TrackerBoard.Proofs.Frame.Text
import TrackerBoard.Proofs.Poll.Calls

/-! # What a poller logs

A poller logs every outcome, and whoever polls without a window logs the poller after it.  What is
written depends on the outcomes before: whether the link changes is told by the last one, and how
long the history is by how many of them were snapshots (`outcomeLog`).  A snapshot is logged with
the texts of its twelve cells and of its newest event (`frameRecords`).  Ticks leave no record, so
the log of any calls is that of their outcomes, one after another (`logs_run`).

The records of a change of the link are told from all others by their first character.  So they can
be picked out of a log, and what is left are changes in turn, one for every outcome of another kind
than the one before it (`filter_outcomesLog`).
-/

namespace TrackerBoard

namespace PollerCall

/-- The outcomes that some calls tell of, with their zones. -/
def completions (calls : List PollerCall) : List (Outcome × Zone) := calls.filterMap completion?

/-- Whether the link is up after some outcomes: whether the last one was a snapshot. -/
def isUp (outcomes : List (Outcome × Zone)) : Bool :=
  outcomes.getLast?.any fun (outcome, _) => outcome.isOk

@[simp] theorem isUp_snoc (outcomes : List (Outcome × Zone)) (last : Outcome × Zone) :
    isUp (outcomes ++ [last]) = last.1.isOk := by
  rw [isUp, List.getLast?_concat]
  rfl

/-- The record of a change of the link. -/
def changeRecord (endpoint : String) : Bool → LogRecord
  | true => ⟨.info, "[" ++ endpoint ++ "] " ++ "link Disconnected -> Connected"⟩
  | false => ⟨.info, "[" ++ endpoint ++ "] " ++ "link Connected -> Disconnected"⟩

/-- Whether a record is one of a change of the link. -/
def isChange (endpoint : String) (r : LogRecord) : Bool :=
  r = changeRecord endpoint true ∨ r = changeRecord endpoint false

/-- The cells in one line, each behind its name. -/
def cellsLine (cells : CellTexts) : String :=
  "CONN " ++ cells.connection ++ " | SIG " ++ cells.signal ++ " | DEV " ++ cells.deviceLink ++
    " | MON " ++ cells.monitorsLink ++ " | CHAN " ++ cells.channels ++ " (" ++ cells.designator ++
    ") | TASK " ++ cells.task ++ " | TGT " ++ cells.target ++ " | TRACK " ++ cells.track ++
    " | FRAMES " ++ cells.frameCount ++ " | CTCT " ++ cells.contactTime ++ " | BSIG " ++
    cells.banditSignal

/-- The line of the newest event, or what stands for it when there is none. -/
def newestLine (zone : Zone) (events : List TrackerEvent) : String :=
  textOr "No events." (·.text zone) events.getLast?

/-- The records of a snapshot, of which there were so many. -/
def frameRecords (count : Nat) (s : Snapshot) (zone : Zone) : List LogRecord :=
  [⟨.info, cellsLine (s.cellTexts zone)⟩,
    ⟨.info, "bandit signal history: " ++ toString (min count 300) ++ " samples, latest " ++
      toString (s.banditSignal.getD (-100)).toInt ++ " dBm"⟩,
    ⟨.info, "latest event: " ++ newestLine zone s.events⟩]

/-- The records of an outcome that comes after some others. -/
def outcomeLog (endpoint : String) (before : List (Outcome × Zone)) :
    Outcome × Zone → List LogRecord
  | (.error e, _) =>
    [⟨.warn, "[" ++ endpoint ++ "] could not fetch tracker state: " ++ e.text⟩] ++
      (if isUp before then [changeRecord endpoint false] else []) ++
      [⟨.warn, "tracker unreachable: " ++ e.text⟩]
  | (.ok s, zone) =>
    (if isUp before then [] else [changeRecord endpoint true]) ++
      frameRecords ((okOutcomes before).length + 1) s zone

/-- The records of some outcomes that come after some others. -/
def outcomesLog (endpoint : String) (before : List (Outcome × Zone)) :
    List (Outcome × Zone) → List LogRecord
  | [] => []
  | next :: outcomes =>
    outcomeLog endpoint before next ++ outcomesLog endpoint (before ++ [next]) outcomes

/-- How often some flags change, the one before them being `last`. -/
def changes (last : Bool) : List Bool → Nat
  | [] => 0
  | flag :: flags => (if flag = last then 0 else 1) + changes flag flags

theorem head?_eventTexts (zone : Zone) (events : List TrackerEvent) :
    (eventTexts events zone).head? = some (newestLine zone events) := by
  rw [eventTexts, newestLine]
  rcases List.eq_nil_or_concat' events with rfl | ⟨older, newest, rfl⟩
  · rfl
  · rw [if_neg (List.concat_ne_nil newest older), List.reverse_append, List.getLast?_concat]
    rfl

end PollerCall

namespace Poller

open PollerCall

variable {p : Poller} {endpoint : String} {zone : Zone}

/-- What is logged at a call: at an outcome what the poller logs, and then the poller itself. -/
def callLog (p : Poller) : PollerCall → List LogRecord
  | .begin => []
  | .complete outcome zone => (p.complete zone outcome).2 ++ (p.complete zone outcome).1.frameLog

/-- What is logged at some calls. -/
def logs (p : Poller) : List PollerCall → List LogRecord
  | [] => []
  | c :: calls => p.callLog c ++ (p.call c).logs calls

variable (p) in
theorem call_endpoint (c : PollerCall) : (p.call c).endpoint = p.endpoint := by
  rcases c with _ | ⟨e | s, zone⟩
  · rw [call, beginTick_snd]
  · rw [call, complete_error_fst]
  · rw [call, complete_ok_fst]

variable (endpoint) in
theorem endpoint_after (calls : List PollerCall) :
    ((new endpoint).run calls).endpoint = endpoint := by
  induction calls using List.reverseRecOn with
  | nil => rfl
  | append_singleton calls c ih => rw [run_snoc, call_endpoint, ih]

/-- The link is up after some calls when the last outcome was a snapshot. -/
theorem Shows.isUp_iff {outcomes : List (Outcome × Zone)} (h : p.Shows outcomes.getLast?) :
    isUp outcomes = true ↔ p.link = .connected := by
  rw [h.link_iff, isUp]
  rcases outcomes.getLast? with _ | ⟨e | s, zone⟩
  · simp
  · simp [Except.isOk, Except.toBool]
  · simp [Except.isOk, Except.toBool]

variable (p) in
/-- The link is logged when it moves. -/
theorem transition_snd (next : Link) :
    (p.transition next).2 =
      if p.link = next then []
      else [.ofEndpoint p.endpoint ("link " ++ p.link.name ++ " -> " ++ next.name)] := by
  rw [transition]
  split
  · rfl
  · rfl

/-- A poller is logged without a record when it was told of no outcome. -/
theorem Shows.frameLog_eq_nil_iff {last : Option (Outcome × Zone)} (h : p.Shows last) :
    p.frameLog = [] ↔ last = none := by
  rcases last with _ | ⟨e | s, zone⟩
  · obtain ⟨-, hframe, hfailure⟩ := h
    rw [frameLog, hframe, hfailure]
    exact iff_of_true rfl rfl
  · obtain ⟨-, hframe, hfailure⟩ := h
    rw [frameLog, hframe, hfailure]
    exact iff_of_false (List.cons_ne_nil _ _) (Option.some_ne_none _)
  · obtain ⟨-, hframe, -⟩ := h
    rw [frameLog, hframe]
    exact iff_of_false (List.cons_ne_nil _ _) (Option.some_ne_none _)

/-- A failure is logged, and after it the link if it was up. -/
theorem complete_error_snd {up : Bool} (hlink : up = true ↔ p.link = .connected)
    (e : FetchFailure) :
    (p.complete zone (.error e)).2 =
      [⟨.warn, "[" ++ p.endpoint ++ "] could not fetch tracker state: " ++ e.text⟩] ++
        (if up then [changeRecord p.endpoint false] else []) := by
  simp only [complete, transition_snd, LogRecord.ofFailure, FetchFailure.message_eq]
  cases hup : p.link with
  | connected =>
    rw [if_pos (hlink.mpr hup), if_neg (by decide)]
    rfl
  | disconnected =>
    have hdown : ¬ up = true := by
      rw [hlink, hup]
      decide
    rw [if_neg hdown, if_pos rfl]
    rfl

/-- Of a snapshot only the link is logged, if it was not up. -/
theorem complete_ok_snd {up : Bool} (hlink : up = true ↔ p.link = .connected) (s : Snapshot) :
    (p.complete zone (.ok s)).2 = if up then [] else [changeRecord p.endpoint true] := by
  simp only [complete, transition_snd]
  cases hup : p.link with
  | connected => rw [if_pos (hlink.mpr hup), if_pos rfl]
  | disconnected =>
    have hdown : ¬ up = true := by
      rw [hlink, hup]
      decide
    rw [if_neg hdown, if_neg (by decide)]
    rfl

/-- The frame of a failure is one line. -/
theorem frameLog_complete_error (e : FetchFailure) :
    (p.complete zone (.error e)).1.frameLog = [⟨.warn, "tracker unreachable: " ++ e.text⟩] := by
  rw [complete_error_fst, ← e.message_eq]
  rfl

/-- The line of a frame has the texts of its cells. -/
theorem frameLine_eq (f : Frame) : frameLine f = cellsLine f.cellTexts := rfl

/-- A history that takes one more signal has it as its newest sample, and its line says so. -/
theorem historyRecord_pushSignal {h : History} {samples : List Int64}
    (hhistory : h = .ofSamples History.defaultCapacity samples) (signal : Option Int64) :
    ((h.pushSignal signal).latest?.map fun latest =>
        LogRecord.info (historyLine (h.pushSignal signal) latest)) =
      some ⟨.info, "bandit signal history: " ++ toString (min (samples.length + 1) 300) ++
        " samples, latest " ++ toString (signal.getD (-100)).toInt ++ " dBm"⟩ := by
  have hcapacity : max History.defaultCapacity 1 = 300 := rfl
  have hpushed : h.pushSignal signal =
      ⟨(samples ++ [signal.getD (-100)]).rtake 300, 300, samples.length + 1⟩ := by
    rw [hhistory, History.pushSignal, ← History.ofSamples_snoc, History.ofSamples_eq, hcapacity,
      List.length_append]
    rfl
  have hsize : (h.pushSignal signal).size = min (samples.length + 1) 300 := by
    rw [hpushed, History.size, List.rtake, List.length_drop, List.length_append,
      List.length_singleton]
    omega
  have hlatest : (h.pushSignal signal).latest? = some (signal.getD (-100)) := by
    rw [hpushed, History.latest?, List.rtake_concat_succ, List.getLast?_concat]
  unfold historyLine
  rw [hlatest, hsize]
  rfl

/-- The frame of a snapshot is three lines. -/
theorem frameLog_complete_ok {samples : List Int64}
    (hhistory : p.history = .ofSamples History.defaultCapacity samples) (s : Snapshot) :
    (p.complete zone (.ok s)).1.frameLog = frameRecords (samples.length + 1) s zone := by
  have hnewest : (Frame.ofSnapshot s zone).events.head? = some (newestLine zone s.events) := by
    rw [Frame.ofSnapshot, eventLines_eq, head?_eventTexts]
  have hcells : frameLine (.ofSnapshot s zone) = cellsLine (s.cellTexts zone) := by
    rw [frameLine_eq, Frame.cellTexts_ofSnapshot]
  rw [complete_ok_fst]
  unfold frameLog
  dsimp only
  rw [historyRecord_pushSignal hhistory, hnewest, hcells]
  rfl

variable (endpoint) in
/-- What is logged at an outcome is told by the outcomes before it. -/
theorem callLog_after (calls : List PollerCall) (outcome : Outcome) (zone : Zone) :
    ((new endpoint).run calls).callLog (.complete outcome zone) =
      outcomeLog endpoint (completions calls) (outcome, zone) := by
  have hlink := (shows_after endpoint calls).isUp_iff
  rw [callLog]
  cases outcome with
  | error e =>
    rw [complete_error_snd hlink, frameLog_complete_error, endpoint_after]
    rfl
  | ok s =>
    have hcount : (signals (snapshots calls)).length = (okOutcomes (completions calls)).length := by
      rw [signals, List.length_map, snapshots_eq_okOutcomes, completions]
    rw [complete_ok_snd hlink, frameLog_complete_ok (history_after endpoint calls), endpoint_after,
      hcount]
    rfl

variable (endpoint) in
/-- **The log of some calls is that of their outcomes**, each of them after those before it. -/
theorem logs_run (before calls : List PollerCall) :
    ((new endpoint).run before).logs calls =
      outcomesLog endpoint (completions before) (completions calls) := by
  induction calls generalizing before with
  | nil => rfl
  | cons c calls ih =>
    rw [logs, ← run_snoc, ih]
    rcases c with _ | ⟨outcome, zone⟩
    · have hbefore : completions (before ++ [.begin]) = completions before := by
        rw [completions, List.filterMap_append]
        exact List.append_nil _
      rw [hbefore]
      rfl
    · have hbefore : completions (before ++ [.complete outcome zone]) =
          completions before ++ [(outcome, zone)] := by
        rw [completions, List.filterMap_append]
        rfl
      rw [hbefore, callLog_after]
      rfl

end Poller

namespace PollerCall

variable {endpoint : String}

theorem head?_append_of_eq {a b : String} {c : Char} (h : a.toList.head? = some c) :
    (a ++ b).toList.head? = some c := by
  rw [String.toList_append, List.head?_append, h, Option.some_or]

theorem head?_cellsLine (cells : CellTexts) : (cellsLine cells).toList.head? = some 'C' := by
  have hstart : "CONN ".toList.head? = some 'C' := by decide
  unfold cellsLine
  simp only [String.toList_append, List.head?_append, hstart, Option.some_or]

/-- A record with another first character than a bracket is none of the link. -/
theorem isChange_info_eq_false {text : String} {c : Char} (hstart : text.toList.head? = some c)
    (hc : c ≠ '[') : isChange endpoint ⟨.info, text⟩ = false := by
  have hbracket (rest : String) : ("[" ++ endpoint ++ "] " ++ rest).toList.head? = some '[' :=
    head?_append_of_eq (head?_append_of_eq (head?_append_of_eq rfl))
  have hne (rest : String) : (⟨.info, text⟩ : LogRecord) ≠ ⟨.info, "[" ++ endpoint ++ "] " ++ rest⟩ := by
    intro hsame
    have htext : text = "[" ++ endpoint ++ "] " ++ rest := congrArg LogRecord.text hsame
    rw [htext, hbracket] at hstart
    exact hc (Option.some.inj hstart).symm
  rw [isChange, decide_eq_false_iff_not]
  rintro (hsame | hsame)
  · exact hne _ hsame
  · exact hne _ hsame

theorem isChange_warn_eq_false (text : String) : isChange endpoint ⟨.warn, text⟩ = false := by
  rw [isChange, decide_eq_false_iff_not]
  have hlevel (up : Bool) : (⟨.warn, text⟩ : LogRecord) ≠ changeRecord endpoint up := by
    intro hsame
    have hinfo : (changeRecord endpoint up).level = .info := by cases up <;> rfl
    rw [← hsame] at hinfo
    exact absurd hinfo nofun
  rintro (hsame | hsame)
  · exact hlevel true hsame
  · exact hlevel false hsame

theorem isChange_changeRecord (up : Bool) : isChange endpoint (changeRecord endpoint up) = true := by
  cases up with
  | true => exact decide_eq_true (.inl rfl)
  | false => exact decide_eq_true (.inr rfl)

/-- No record of a frame is one of the link. -/
theorem isChange_of_mem_frameRecords {count : Nat} {s : Snapshot} {zone : Zone} {r : LogRecord}
    (hr : r ∈ frameRecords count s zone) : isChange endpoint r = false := by
  rw [frameRecords, List.mem_cons, List.mem_cons, List.mem_singleton] at hr
  rcases hr with rfl | rfl | rfl
  · exact isChange_info_eq_false (head?_cellsLine _) (by decide)
  · have hstart : "bandit signal history: ".toList.head? = some 'b' := by decide
    exact isChange_info_eq_false (head?_append_of_eq (head?_append_of_eq
      (head?_append_of_eq (head?_append_of_eq hstart)))) (by decide)
  · have hstart : "latest event: ".toList.head? = some 'l' := by decide
    exact isChange_info_eq_false (head?_append_of_eq hstart) (by decide)

/-- An outcome of another kind than the one before it changes the link, and no other does. -/
theorem filter_outcomeLog (before : List (Outcome × Zone)) (next : Outcome × Zone) :
    (outcomeLog endpoint before next).filter (isChange endpoint) =
      if next.1.isOk = isUp before then [] else [changeRecord endpoint next.1.isOk] := by
  rcases next with ⟨e | s, zone⟩
  · have hkind : (Except.error e : Outcome).isOk = false := rfl
    cases hup : isUp before with
    | true => simp [outcomeLog, hup, hkind, isChange_warn_eq_false, isChange_changeRecord]
    | false => simp [outcomeLog, hup, hkind, isChange_warn_eq_false]
  · have hkind : (Except.ok s : Outcome).isOk = true := rfl
    have hframe : (frameRecords ((okOutcomes before).length + 1) s zone).filter
        (isChange endpoint) = [] := by
      rw [List.filter_eq_nil_iff]
      intro r hr
      rw [isChange_of_mem_frameRecords hr]
      exact Bool.false_ne_true
    cases hup : isUp before with
    | true => simp [outcomeLog, hup, hkind, hframe]
    | false => simp [outcomeLog, hup, hkind, hframe, isChange_changeRecord]

/-- **The records of the link are changes in turn**, one for every outcome of another kind than the
one before it. -/
theorem filter_outcomesLog (before outcomes : List (Outcome × Zone)) :
    (outcomesLog endpoint before outcomes).filter (isChange endpoint) =
      (List.iterate not (!isUp before)
        (changes (isUp before) (outcomes.map (·.1.isOk)))).map (changeRecord endpoint) := by
  induction outcomes generalizing before with
  | nil => rfl
  | cons next outcomes ih =>
    rw [outcomesLog, List.filter_append, filter_outcomeLog, ih, isUp_snoc, List.map_cons, changes]
    by_cases hsame : next.1.isOk = isUp before
    · rw [if_pos hsame, if_pos hsame, hsame, Nat.zero_add, List.nil_append]
    · have hother : next.1.isOk = !isUp before := Bool.eq_not.mpr hsame
      rw [if_neg hsame, if_neg hsame, hother, Nat.add_comm 1]
      rfl

end PollerCall

namespace Poller

open PollerCall

/-- What is logged at some calls of a new poller. -/
structure LogsOutcomes (endpoint : String) (calls : List PollerCall) : Prop where
  /-- The log is that of the outcomes, one after another. -/
  records : (new endpoint).logs calls = outcomesLog endpoint [] (completions calls)
  /-- The link that the next outcome finds. -/
  link : isUp (completions calls) = true ↔ ((new endpoint).run calls).link = .connected
  /-- The link comes up first, and then it goes down and up in turn, as often as the outcomes
  change between failure and snapshot; it starts as after a failure. -/
  linkChanges : ((new endpoint).logs calls).filter (isChange endpoint) =
    (List.iterate not true (changes false ((completions calls).map (·.1.isOk)))).map
      (changeRecord endpoint)
  /-- The poller itself is logged without a record only before the first outcome. -/
  silent : ((new endpoint).run calls).frameLog = [] ↔ completions calls = []

/-- **A poller's log tells its outcomes, and each change of its link once.** -/
theorem logsOutcomes (endpoint : String) (calls : List PollerCall) :
    LogsOutcomes endpoint calls := by
  have hrecords : (new endpoint).logs calls = outcomesLog endpoint [] (completions calls) :=
    logs_run endpoint [] calls
  constructor
  case records => exact hrecords
  case link => exact (shows_after endpoint calls).isUp_iff
  case linkChanges =>
    rw [hrecords, filter_outcomesLog]
    rfl
  case silent =>
    rw [(shows_after endpoint calls).frameLog_eq_nil_iff, lastCompletion?,
      List.getLast?_eq_none_iff, completions]

/-- A failure, two snapshots with a tick between them, and another failure: the link comes up once
and goes down once. -/
theorem logsOutcomes_outage :
    let down : PollerCall := .complete (.error (.status 500)) .utc
    let up : PollerCall := .complete (.ok {}) .utc
    LogsOutcomes "t" [.begin, down, up, .begin, .begin, up, down] ∧
      ((new "t").logs [.begin, down, up, .begin, .begin, up, down]).filter (isChange "t") =
        [⟨.info, "[t] link Disconnected -> Connected"⟩,
          ⟨.info, "[t] link Connected -> Disconnected"⟩] := by
  intro down up
  have hlogs := logsOutcomes "t" [.begin, down, up, .begin, .begin, up, down]
  exact ⟨hlogs, hlogs.linkChanges.trans (by decide)⟩

end Poller

end TrackerBoard
