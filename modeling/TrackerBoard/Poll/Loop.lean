import TrackerBoard.Poll.Poller

/-!
# The poll loop

The loop ticks once a second, in time counted in milliseconds from its start.  A tick whose time
has passed while a fetch was pending comes at once, and the next one is then due at the first
later full second: missed ticks are not made up for.  An admitted tick starts a fetch, and the
loop waits for its outcome before it waits for the next tick.  It returns after a given number of
fetches, if there is one.

`Loop.observe` is what can be seen of the loop up to a moment.  A fetch pending then has started
and nothing more.  Whoever runs the loop is shown the poller after every fetch and may log it.
-/

namespace TrackerBoard

/-- The timer of the loop. -/
structure Ticker where
  /-- When the next tick is due. -/
  due : Nat
deriving DecidableEq, Repr

namespace Ticker

/-- The time between two ticks. -/
def period : Nat := 1000

/-- The first tick is due at once. -/
def start : Ticker := ⟨0⟩

/-- The time of the tick that is awaited from `now` on. -/
def nextTick (t : Ticker) (now : Nat) : Nat := max now t.due

/-- The timer after a tick at `time`: the next is due at the first later full second. -/
def after (time : Nat) : Ticker := ⟨(time / period + 1) * period⟩

theorem lt_due_after (time : Nat) : time < (after time).due := by
  simp only [after, period]
  omega

end Ticker

/-- A call of the fetch: how long it takes, and what it comes to. -/
structure Fetch where
  delay : Nat
  outcome : Outcome

/-- Where the loop stands when it waits for a tick. -/
structure Loop where
  poller : Poller
  ticker : Ticker
  now : Nat
  /-- The number of fetches that were completed. -/
  completed : Nat

/-- What was seen of a loop. -/
structure LoopTrace where
  /-- When each fetch started. -/
  fetchTimes : List Nat
  /-- The poller after each completed fetch, and when. -/
  frames : List (Nat × Poller)
  logs : List LogRecord
  /-- The poller at the end. -/
  poller : Poller
  /-- Whether the loop returned. -/
  finished : Bool

namespace LoopTrace

/-- Nothing more is seen. -/
def stop (poller : Poller) (finished : Bool) : LoopTrace := ⟨[], [], [], poller, finished⟩

/-- A fetch is seen to start. -/
def startFetch (time : Nat) (t : LoopTrace) : LoopTrace :=
  { t with fetchTimes := time :: t.fetchTimes }

/-- A fetch is seen to be completed. -/
def completeFetch (time : Nat) (poller : Poller) (logs : List LogRecord) (t : LoopTrace) :
    LoopTrace :=
  { t with frames := (time, poller) :: t.frames, logs := logs ++ t.logs }

end LoopTrace

namespace Loop

/-- The loop on entry. -/
def start (poller : Poller) : Loop := ⟨poller, .start, 0, 0⟩

/-- Whether the loop has made the number of fetches after which it returns. -/
def limitReached (limit : Option Nat) (l : Loop) : Bool :=
  limit.any (· ≤ l.completed)

/-- What is seen of the loop up to `deadline`, its `k`-th fetch being `fetch k`.  After every fetch
the poller is shown, and `frameLog` of it is logged. -/
def observe (fetch : Nat → Fetch) (zone : Zone) (frameLog : Poller → List LogRecord)
    (limit : Option Nat) (deadline : Nat) (l : Loop) : LoopTrace :=
  if l.limitReached limit then .stop l.poller true
  else
    let time := l.ticker.nextTick l.now
    if _ : deadline < time then .stop l.poller false
    else
      match l.poller.beginTick with
      | (false, poller) =>
        observe fetch zone frameLog limit deadline ⟨poller, .after time, time, l.completed⟩
      | (true, poller) =>
        let call := fetch l.completed
        let done := time + call.delay
        if deadline < done then (LoopTrace.stop poller false).startFetch time
        else
          let (poller, logs) := poller.complete zone call.outcome
          ((observe fetch zone frameLog limit deadline
              ⟨poller, .after time, done, l.completed + 1⟩).completeFetch done poller
            (logs ++ frameLog poller)).startFetch time
termination_by deadline + 1 - l.ticker.due
decreasing_by
  all_goals
    have due_le : l.ticker.due ≤ l.ticker.nextTick l.now := Nat.le_max_right ..
    have lt_due := Ticker.lt_due_after (l.ticker.nextTick l.now)
    have _ : ¬ deadline < l.ticker.nextTick l.now := ‹_›
    show deadline + 1 - (Ticker.after (l.ticker.nextTick l.now)).due < _
    omega

end Loop

end TrackerBoard
