import TrackerBoard.Proofs.Poll.Schedule

/-! # The poll loop without its clock

Plain polling takes one outcome after another, each after a tick of its own (`Poller.polled`).  It
knows nothing of time.  A loop that is entered with no fetch pending is plain polling: its guard
lets every tick pass, since each outcome is there before the loop waits for the next tick
(`observe_afterFetches`).  So up to any moment the loop has shown what plain polling makes of the
outcomes so far, and it returns with the last outcome that its limit allows
(`observe_eq_seenFetches`, `observe_cases`).

A loop that is entered with a fetch pending waits for an outcome that nobody fetches.  It skips
every tick and does nothing else (`observe_of_inFlight`).
-/

namespace TrackerBoard

namespace Poller

section Polled
variable (p : Poller) (zone : Zone) (outcome : Nat → Outcome)

/-- The calls of plain polling: for each of the first outcomes a tick, and then the outcome. -/
def pollCalls (zone : Zone) (outcome : Nat → Outcome) (count : Nat) : List PollerCall :=
  (List.range count).flatMap fun k => [.begin, .complete (outcome k) zone]

/-- The poller after plain polling for the first outcomes. -/
def polled (count : Nat) : Poller := p.run (pollCalls zone outcome count)

/-- What plain polling logs when it is told of the `k`-th outcome. -/
def pollLog (k : Nat) : List LogRecord :=
  ((p.polled zone outcome k).beginTick.2.complete zone (outcome k)).2

theorem polled_succ (k : Nat) :
    p.polled zone outcome (k + 1) =
      ((p.polled zone outcome k).beginTick.2.complete zone (outcome k)).1 := by
  rw [polled, pollCalls, List.range_succ, List.flatMap_append, run_append]
  rfl

variable {p}

theorem polled_inFlight (hidle : p.inFlight = false) (count : Nat) :
    (p.polled zone outcome count).inFlight = false := by
  cases count with
  | zero => exact hidle
  | succ k => rw [polled_succ, complete_inFlight]

/-- Plain polling skips no tick. -/
theorem polled_skipped (hidle : p.inFlight = false) (count : Nat) :
    (p.polled zone outcome count).metrics.skipped = p.metrics.skipped := by
  induction count with
  | zero => rfl
  | succ k ih =>
    rw [polled_succ, complete_skipped, beginTick_snd, polled_inFlight zone outcome hidle]
    exact ih

/-- Plain polling gets every tick admitted. -/
theorem beginTick_polled (hidle : p.inFlight = false) (count : Nat) :
    (p.polled zone outcome count).beginTick = (true, (p.polled zone outcome count).beginTick.2) :=
  Prod.ext (by rw [beginTick_fst, polled_inFlight zone outcome hidle, Bool.not_false]) rfl

end Polled

/-- The poller after some more skipped ticks. -/
def withSkipped (p : Poller) (count : Nat) : Poller :=
  { p with metrics := { p.metrics with skipped := p.metrics.skipped + count } }

theorem beginTick_withSkipped {p : Poller} (hpending : p.inFlight = true) (count : Nat) :
    (p.withSkipped count).beginTick = (false, p.withSkipped (count + 1)) := by
  have hpending' : (p.withSkipped count).inFlight = true := hpending
  rw [beginTick, if_pos hpending']
  rfl

end Poller

namespace Loop

open Poller

section Turn
variable (fetch : Nat → Fetch) (zone : Zone) (frameLog : Poller → List LogRecord)
  {limit : Option Nat} {deadline : Nat} {l : Loop} {time done : Nat} {q q' : Poller}
  {logs : List LogRecord}

/-- A loop whose next tick is yet to come. -/
theorem observe_of_lt (hlimit : ¬ l.limitReached limit = true)
    (htime : l.ticker.nextTick l.now = time) (h : deadline < time) :
    l.observe fetch zone frameLog limit deadline = .stop l.poller false := by
  subst htime
  rw [observe, if_neg hlimit]
  exact dif_pos h

/-- A loop whose next tick is skipped. -/
theorem observe_skipped (hlimit : ¬ l.limitReached limit = true)
    (htime : l.ticker.nextTick l.now = time) (h : ¬ deadline < time)
    (hbegin : l.poller.beginTick = (false, q)) :
    l.observe fetch zone frameLog limit deadline =
      observe fetch zone frameLog limit deadline ⟨q, .after time, time, l.completed⟩ := by
  subst htime
  rw [observe, if_neg hlimit]
  simp only
  rw [dif_neg h, hbegin]

/-- A loop whose next tick starts a fetch that is not over yet. -/
theorem observe_pending (hlimit : ¬ l.limitReached limit = true)
    (htime : l.ticker.nextTick l.now = time) (h : ¬ deadline < time)
    (hbegin : l.poller.beginTick = (true, q)) (hdone : time + (fetch l.completed).delay = done)
    (hended : deadline < done) :
    l.observe fetch zone frameLog limit deadline =
      (LoopTrace.stop q false).startFetch time := by
  subst htime hdone
  rw [observe, if_neg hlimit]
  simp only
  rw [dif_neg h, hbegin]
  exact if_pos hended

/-- A loop whose next tick starts a fetch that is over by now. -/
theorem observe_completed (hlimit : ¬ l.limitReached limit = true)
    (htime : l.ticker.nextTick l.now = time) (h : ¬ deadline < time)
    (hbegin : l.poller.beginTick = (true, q)) (hdone : time + (fetch l.completed).delay = done)
    (hended : ¬ deadline < done)
    (hcomplete : q.complete zone (fetch l.completed).outcome = (q', logs)) :
    l.observe fetch zone frameLog limit deadline =
      ((observe fetch zone frameLog limit deadline
          ⟨q', .after time, done, l.completed + 1⟩).completeFetch done q'
        (logs ++ frameLog q')).startFetch time := by
  subst htime hdone
  rw [observe, if_neg hlimit]
  simp only
  rw [dif_neg h, hbegin]
  simp only [hcomplete]
  exact if_neg hended

end Turn

section Polling
variable (fetch : Nat → Fetch) (zone : Zone) (frameLog : Poller → List LogRecord)
  (limit : Option Nat) (deadline : Nat)

/-- When the first fetches of a loop are over. -/
def returnTime : Nat → Nat
  | 0 => 0
  | k + 1 => fetchTime fetch k + (fetch k).delay

theorem returnTime_le_fetchTime (k : Nat) : returnTime fetch k ≤ fetchTime fetch k := by
  cases k with
  | zero => exact Nat.zero_le _
  | succ k => exact startTime_add_le _ k

theorem monotone_returnTime : Monotone (returnTime fetch) :=
  monotone_nat_of_le_succ fun k =>
    Nat.le_trans (returnTime_le_fetchTime fetch k) (Nat.le_add_right ..)

/-- Up to any moment some first fetches are over, and if they are not all then the next one is
not. -/
theorem exists_returnTime_le (count : Nat) :
    ∃ k ≤ count, returnTime fetch k ≤ deadline ∧
      (k = count ∨ deadline < returnTime fetch (k + 1)) := by
  induction count with
  | zero => exact ⟨0, Nat.le_refl 0, Nat.zero_le _, .inl rfl⟩
  | succ count ih =>
    obtain ⟨k, hk, hover, rfl | hpending⟩ := ih
    · by_cases hnext : returnTime fetch (k + 1) ≤ deadline
      · exact ⟨k + 1, Nat.le_refl _, hnext, .inl rfl⟩
      · exact ⟨k, Nat.le_succ k, hover, .inr (Nat.not_le.mp hnext)⟩
    · exact ⟨k, Nat.le_succ_of_le hk, hover, .inr hpending⟩

/-- The outcomes of the fetches of a loop. -/
def outcomes (fetch : Nat → Fetch) (k : Nat) : Outcome := (fetch k).outcome

variable (p : Poller)

/-- Where a loop waits for a tick when it has made some fetches. -/
def afterFetches (count : Nat) : Loop where
  poller := p.polled zone (outcomes fetch) count
  ticker :=
    match count with
    | 0 => .start
    | k + 1 => .after (fetchTime fetch k)
  now := returnTime fetch count
  completed := count

theorem nextTick_afterFetches (count : Nat) :
    (afterFetches fetch zone p count).ticker.nextTick (afterFetches fetch zone p count).now =
      fetchTime fetch count := by
  cases count with
  | zero => rfl
  | succ k => exact nextTick_after fetch k

/-- What is seen of a loop that makes some fetches to their end, and then of the rest. -/
def seenFetches (count : Nat) (rest : LoopTrace) : LoopTrace where
  fetchTimes := (List.range count).map (fetchTime fetch) ++ rest.fetchTimes
  frames := (List.range count).map (fun k =>
    (returnTime fetch (k + 1), p.polled zone (outcomes fetch) (k + 1))) ++ rest.frames
  logs := (List.range count).flatMap (fun k => p.pollLog zone (outcomes fetch) k ++
    frameLog (p.polled zone (outcomes fetch) (k + 1))) ++ rest.logs
  poller := rest.poller
  finished := rest.finished

/-- What is seen of a loop of `p` that waits for a tick or an outcome: nothing is shown, and no tick
was skipped. -/
structure IsWaiting (t : LoopTrace) : Prop where
  frames : t.frames = []
  finished : t.finished = false
  skipped : t.poller.metrics.skipped = p.metrics.skipped

variable {p limit deadline}

theorem not_limitReached_afterFetches {k : Nat} (hlimit : ∀ n ∈ limit, k < n) :
    ¬ (afterFetches fetch zone p k).limitReached limit = true := by
  intro hreached
  cases limit with
  | none => exact Bool.false_ne_true hreached
  | some n =>
    have hle : n ≤ k := of_decide_eq_true hreached
    have hlt := hlimit n rfl
    omega

/-- One fetch of the loop is one outcome of plain polling. -/
theorem observe_afterFetches (hidle : p.inFlight = false) {k : Nat} (hlimit : ∀ n ∈ limit, k < n)
    (hover : returnTime fetch (k + 1) ≤ deadline) :
    (afterFetches fetch zone p k).observe fetch zone frameLog limit deadline =
      (((afterFetches fetch zone p (k + 1)).observe fetch zone frameLog limit
        deadline).completeFetch (returnTime fetch (k + 1)) (p.polled zone (outcomes fetch) (k + 1))
          (p.pollLog zone (outcomes fetch) k ++
            frameLog (p.polled zone (outcomes fetch) (k + 1)))).startFetch (fetchTime fetch k) := by
  have hstarted : ¬ deadline < fetchTime fetch k := by
    rw [returnTime] at hover
    omega
  have hcomplete : (p.polled zone (outcomes fetch) k).beginTick.2.complete zone (outcomes fetch k) =
      (p.polled zone (outcomes fetch) (k + 1), p.pollLog zone (outcomes fetch) k) :=
    Prod.ext (polled_succ p zone (outcomes fetch) k).symm rfl
  exact observe_completed fetch zone frameLog (not_limitReached_afterFetches fetch zone hlimit)
    (nextTick_afterFetches fetch zone p k) hstarted (beginTick_polled zone (outcomes fetch) hidle k)
    rfl (Nat.not_lt.mpr hover) hcomplete

/-- A loop whose next fetch is not over shows nothing more, and skips nothing. -/
theorem isWaiting_observe_afterFetches (hidle : p.inFlight = false) {k : Nat}
    (hlimit : ∀ n ∈ limit, k < n) (hpending : deadline < returnTime fetch (k + 1)) :
    IsWaiting p ((afterFetches fetch zone p k).observe fetch zone frameLog limit deadline) := by
  have hskipped := polled_skipped zone (outcomes fetch) hidle k
  have hnot := not_limitReached_afterFetches fetch zone (p := p) hlimit
  have htime := nextTick_afterFetches fetch zone p k
  by_cases hstarted : deadline < fetchTime fetch k
  · rw [observe_of_lt fetch zone frameLog hnot htime hstarted]
    exact ⟨rfl, rfl, hskipped⟩
  · rw [observe_pending fetch zone frameLog hnot htime hstarted
      (beginTick_polled zone (outcomes fetch) hidle k) rfl hpending]
    refine ⟨rfl, rfl, ?_⟩
    rw [← hskipped, beginTick_snd, polled_inFlight zone (outcomes fetch) hidle]
    rfl

/-- **The loop up to the end of a fetch is plain polling.** -/
theorem observe_eq_seenFetches (hidle : p.inFlight = false) {count : Nat}
    (hlimit : ∀ n ∈ limit, count ≤ n) (hover : returnTime fetch count ≤ deadline) :
    (start p).observe fetch zone frameLog limit deadline =
      seenFetches fetch zone frameLog p count
        ((afterFetches fetch zone p count).observe fetch zone frameLog limit deadline) := by
  induction count with
  | zero => rfl
  | succ k ih =>
    have hbefore := Nat.le_trans (monotone_returnTime fetch (Nat.le_succ k)) hover
    rw [ih (fun n hn => Nat.le_of_succ_le (hlimit n hn)) hbefore,
      observe_afterFetches fetch zone frameLog hidle hlimit hover]
    simp [seenFetches, LoopTrace.startFetch, LoopTrace.completeFetch, List.range_succ]

/-- **A loop with a limit** returns when its last fetch is over, and until then has shown what
plain polling makes of the fetches that are over. -/
theorem observe_cases (hidle : p.inFlight = false) (count deadline : Nat) :
    (returnTime fetch count ≤ deadline ∧
      (start p).observe fetch zone frameLog (some count) deadline =
        seenFetches fetch zone frameLog p count
          (.stop (p.polled zone (outcomes fetch) count) true)) ∨
    (deadline < returnTime fetch count ∧
      ∃ k rest, IsWaiting p rest ∧ (start p).observe fetch zone frameLog (some count) deadline =
        seenFetches fetch zone frameLog p k rest) := by
  obtain ⟨k, hk, hover, hlast⟩ := exists_returnTime_le fetch deadline count
  have hle : ∀ n ∈ some count, k ≤ n := fun n hn => Option.mem_some.mp hn ▸ hk
  have hseen := observe_eq_seenFetches fetch zone frameLog hidle hle hover
  rcases Nat.lt_or_eq_of_le hk with hlt | rfl
  · have hpending : deadline < returnTime fetch (k + 1) := hlast.resolve_left (Nat.ne_of_lt hlt)
    have hlimit : ∀ n ∈ some count, k < n := fun n hn => Option.mem_some.mp hn ▸ hlt
    have hwaiting := isWaiting_observe_afterFetches fetch zone frameLog hidle hlimit hpending
    exact .inr ⟨Nat.lt_of_lt_of_le hpending (monotone_returnTime fetch hlt), k, _, hwaiting, hseen⟩
  · refine .inl ⟨hover, ?_⟩
    have hreached : (afterFetches fetch zone p k).limitReached (some k) = true :=
      decide_eq_true (Nat.le_refl k)
    rw [hseen, observe, if_pos hreached]
    rfl

variable (p) in
/-- A loop that was entered with a fetch pending and has skipped `count` ticks. -/
def starving (count : Nat) : Loop where
  poller := p.withSkipped count
  ticker := ⟨count * Ticker.period⟩
  now := (count - 1) * Ticker.period
  completed := 0

theorem nextTick_starving (count : Nat) :
    (starving p count).ticker.nextTick (starving p count).now = count * Ticker.period :=
  Nat.max_eq_right (Nat.mul_le_mul_right _ (Nat.sub_le count 1))

/-- A loop with a fetch pending skips a tick at every full second and does nothing else. -/
theorem observe_starving (hpending : p.inFlight = true) (hlimit : limit ≠ some 0) (count : Nat)
    (hcount : count ≤ deadline / Ticker.period + 1) :
    (starving p count).observe fetch zone frameLog limit deadline =
      .stop (p.withSkipped (deadline / Ticker.period + 1)) false := by
  have hreached : ¬ (starving p count).limitReached limit = true := by
    intro hreached
    cases limit with
    | none => exact Bool.false_ne_true hreached
    | some n => exact hlimit (congrArg some (Nat.le_zero.mp (of_decide_eq_true hreached)))
  have hperiod : 0 < Ticker.period := by decide
  -- the number of ticks that are still to come up to the moment looked at
  induction hleft : deadline / Ticker.period + 1 - count generalizing count with
  | zero =>
    obtain rfl : count = deadline / Ticker.period + 1 := by omega
    have hover : deadline < (deadline / Ticker.period + 1) * Ticker.period :=
      Nat.lt_mul_of_div_lt (Nat.lt_succ_self _) hperiod
    rw [observe_of_lt fetch zone frameLog hreached (nextTick_starving _) hover]
    rfl
  | succ left ih =>
    have hdue : ¬ deadline < count * Ticker.period :=
      Nat.not_lt.mpr ((Nat.le_div_iff_mul_le hperiod).mp (by omega))
    have hbegin : (starving p count).poller.beginTick = (false, p.withSkipped (count + 1)) :=
      beginTick_withSkipped hpending count
    have hnext : (⟨p.withSkipped (count + 1), .after (count * Ticker.period),
        count * Ticker.period, 0⟩ : Loop) = starving p (count + 1) := by
      rw [starving, Ticker.after, Nat.mul_div_cancel _ hperiod, Nat.add_sub_cancel]
    rw [observe_skipped fetch zone frameLog hreached (nextTick_starving count) hdue hbegin]
    exact (congrArg _ hnext).trans (ih (count + 1) (by omega) hreached (by omega))

/-- What is known of a loop that returns after `count` fetches, by what is seen of it up to any
moment. -/
structure RefinesPolling (p : Poller) (count : Nat) (seen : Nat → LoopTrace) : Prop where
  /-- It returns when its last fetch is over. -/
  returns : ∀ deadline, (seen deadline).finished = true ↔ returnTime fetch count ≤ deadline
  fetchCalls : ∀ deadline, (seen deadline).finished = true →
    (seen deadline).fetchTimes.length = count
  frameCalls : ∀ deadline, (seen deadline).finished = true →
    (seen deadline).frames.length = count
  /-- Whether or not it has returned, what it showed is plain polling. -/
  frame : ∀ deadline k time q, (seen deadline).frames[k]? = some (time, q) →
    q = p.polled zone (outcomes fetch) (k + 1)
  poller : ∀ deadline, (seen deadline).finished = true →
    (seen deadline).poller = p.polled zone (outcomes fetch) count
  /-- The lines of plain polling, and after each outcome those of whoever is shown the poller. -/
  logs : ∀ deadline, (seen deadline).finished = true →
    (seen deadline).logs = (List.range count).flatMap fun k =>
      p.pollLog zone (outcomes fetch) k ++ frameLog (p.polled zone (outcomes fetch) (k + 1))
  /-- No tick is skipped. -/
  skipped : ∀ deadline, (seen deadline).poller.metrics.skipped = p.metrics.skipped ∧
    ∀ f ∈ (seen deadline).frames, f.2.metrics.skipped = p.metrics.skipped

theorem getElem?_frames_seenFetches {count k time : Nat} {q : Poller} {rest : LoopTrace}
    (hrest : rest.frames = [])
    (hq : (seenFetches fetch zone frameLog p count rest).frames[k]? = some (time, q)) :
    q = p.polled zone (outcomes fetch) (k + 1) := by
  rw [seenFetches, hrest, List.append_nil, List.getElem?_map] at hq
  obtain ⟨j, hj, hshown⟩ := Option.map_eq_some_iff.mp hq
  obtain ⟨_, rfl⟩ := List.getElem?_eq_some_iff.mp hj
  rw [List.getElem_range] at hshown
  exact (Prod.mk.inj hshown).2.symm

theorem finished_observe_iff (hidle : p.inFlight = false) (count deadline : Nat) :
    ((start p).observe fetch zone frameLog (some count) deadline).finished = true ↔
      returnTime fetch count ≤ deadline := by
  rcases observe_cases fetch zone frameLog hidle count deadline with
    ⟨hover, hseen⟩ | ⟨hpending, k, rest, hwaiting, hseen⟩
  · exact ⟨fun _ => hover, fun _ => by rw [hseen]; rfl⟩
  · rw [hseen]
    exact ⟨fun h => absurd (hwaiting.finished.symm.trans h) Bool.false_ne_true,
      fun h => absurd h (Nat.not_le.mpr hpending)⟩

/-- What is seen of a loop that has returned. -/
theorem observe_of_finished (hidle : p.inFlight = false) {count deadline : Nat}
    (h : ((start p).observe fetch zone frameLog (some count) deadline).finished = true) :
    (start p).observe fetch zone frameLog (some count) deadline =
      seenFetches fetch zone frameLog p count
        (.stop (p.polled zone (outcomes fetch) count) true) := by
  have hover := (finished_observe_iff fetch zone frameLog hidle count deadline).mp h
  rcases observe_cases fetch zone frameLog hidle count deadline with
    ⟨-, hseen⟩ | ⟨hpending, -⟩
  · exact hseen
  · exact absurd hover (Nat.not_le.mpr hpending)

theorem frame_observe (hidle : p.inFlight = false) {count deadline k time : Nat} {q : Poller}
    (hq : ((start p).observe fetch zone frameLog (some count) deadline).frames[k]? =
      some (time, q)) :
    q = p.polled zone (outcomes fetch) (k + 1) := by
  rcases observe_cases fetch zone frameLog hidle count deadline with
    ⟨-, hseen⟩ | ⟨-, m, rest, hwaiting, hseen⟩
  · rw [hseen] at hq
    exact getElem?_frames_seenFetches fetch zone frameLog rfl hq
  · rw [hseen] at hq
    exact getElem?_frames_seenFetches fetch zone frameLog hwaiting.frames hq

theorem skipped_observe (hidle : p.inFlight = false) (count deadline : Nat) :
    ((start p).observe fetch zone frameLog (some count) deadline).poller.metrics.skipped =
      p.metrics.skipped := by
  rcases observe_cases fetch zone frameLog hidle count deadline with
    ⟨-, hseen⟩ | ⟨-, m, rest, hwaiting, hseen⟩
  · rw [hseen]
    exact polled_skipped zone (outcomes fetch) hidle count
  · rw [hseen]
    exact hwaiting.skipped

/-- **The poll loop refines plain polling**, whatever the fetches take, if no fetch is pending when
it is entered.  If one is, then it never gets beyond its guard, and counts its ticks as skipped. -/
theorem refinesPolling_observe (p : Poller) :
    (p.inFlight = false → ∀ count, RefinesPolling fetch zone frameLog p count fun deadline =>
      (start p).observe fetch zone frameLog (some count) deadline) ∧
    (p.inFlight = true → ∀ limit, limit ≠ some 0 → ∀ deadline,
      (start p).observe fetch zone frameLog limit deadline =
        .stop (p.withSkipped (deadline / Ticker.period + 1)) false) := by
  refine ⟨fun hidle count => ?_, fun hpending limit hlimit deadline => ?_⟩
  · have hfinished (deadline : Nat)
        (h : ((start p).observe fetch zone frameLog (some count) deadline).finished = true) :=
      observe_of_finished fetch zone frameLog hidle h
    refine ⟨finished_observe_iff fetch zone frameLog hidle count, ?fetchCalls, ?frameCalls,
      fun _ _ _ _ => frame_observe fetch zone frameLog hidle, ?poller, ?logs, ?skipped⟩
    case fetchCalls =>
      intro deadline h
      simp [hfinished deadline h, seenFetches, LoopTrace.stop]
    case frameCalls =>
      intro deadline h
      simp [hfinished deadline h, seenFetches, LoopTrace.stop]
    case poller =>
      intro deadline h
      rw [hfinished deadline h]
      rfl
    case logs =>
      intro deadline h
      rw [hfinished deadline h]
      exact List.append_nil _
    case skipped =>
      intro deadline
      refine ⟨skipped_observe fetch zone frameLog hidle count deadline, ?_⟩
      rintro ⟨time, q⟩ hq
      obtain ⟨k, hk⟩ := List.getElem?_of_mem hq
      rw [frame_observe fetch zone frameLog hidle hk]
      exact polled_skipped zone (outcomes fetch) hidle (k + 1)
  · have hstart : start p = starving p 0 := by
      simp [start, starving, withSkipped, Ticker.start]
    rw [hstart]
    exact observe_starving fetch zone frameLog hpending hlimit 0 (Nat.zero_le _)

end Polling

/-- A loop whose first fetch takes two seconds and a half and fails has returned by then, as its
second fetch starts at once and takes no time; one that is entered with a fetch pending has skipped
four ticks by then, those at 0, 1000, 2000 and 3000. -/
theorem refinesPolling_slowFailure :
    let fetch : Nat → Fetch := fun k =>
      ⟨if k = 0 then 2500 else 0, if k = 0 then .error (.status 500) else .ok {}⟩
    let seen := fun deadline => (start (.new "")).observe fetch .utc frameLog (some 2) deadline
    let pending := (Poller.new "").beginTick.2
    (Poller.new "").inFlight = false ∧
      RefinesPolling fetch .utc frameLog (.new "") 2 seen ∧ (seen 2500).finished = true ∧
      pending.inFlight = true ∧ (none : Option Nat) ≠ some 0 ∧
      (start pending).observe fetch .utc frameLog none 3500 =
        .stop (pending.withSkipped 4) false := by
  intro fetch seen pending
  have hrefines := (refinesPolling_observe fetch .utc frameLog (.new "")).1 rfl 2
  have hstarving := (refinesPolling_observe fetch .utc frameLog pending).2 rfl none (by decide) 3500
  exact ⟨rfl, hrefines, (hrefines.returns 2500).mpr (by decide), rfl, by decide, hstarving⟩

end Loop

end TrackerBoard
