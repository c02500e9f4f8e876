import Mathlib.Order.Monotone.Basic
import TrackerBoard.Poll.Headless
import TrackerBoard.Proofs.Poll.Calls

/-! # When the poll loop fetches

The loop starts its first fetch at once.  Each other fetch starts at the first full second after
the start of the one before it, or when that one is over, whichever is later (`startTime`).  So a
second in which no fetch starts is a second in which one is pending all the time
(`exists_pending_of_idle`), and missed ticks never come in a burst.  What is seen of the loop up to
any moment are the starts up to that moment (`getElem?_fetchTimes_observe`).
-/

namespace TrackerBoard

namespace Loop

/-- The time at which each fetch starts, in milliseconds, if the fetches take these times. -/
def startTime (delay : Nat → Nat) : Nat → Nat
  | 0 => 0
  | k + 1 => max (startTime delay k + delay k) (1000 * (startTime delay k / 1000 + 1))

section Times
variable (delay : Nat → Nat)

/-- A fetch starts when the one before it is over. -/
theorem startTime_add_le (k : Nat) : startTime delay k + delay k ≤ startTime delay (k + 1) :=
  Nat.le_max_left ..

/-- No two fetches start in the same second. -/
theorem startTime_div_lt (k : Nat) :
    startTime delay k / 1000 < startTime delay (k + 1) / 1000 := by
  have hle : 1000 * (startTime delay k / 1000 + 1) ≤ startTime delay (k + 1) :=
    Nat.le_max_right ..
  omega

theorem strictMono_startTime_div : StrictMono fun k => startTime delay k / 1000 :=
  strictMono_nat_of_lt_succ (startTime_div_lt delay)

theorem strictMono_startTime : StrictMono (startTime delay) := by
  refine strictMono_nat_of_lt_succ fun k => ?_
  have hlt := startTime_div_lt delay k
  omega

/-- Two fetches are never pending at once. -/
theorem startTime_add_le_of_lt {i j : Nat} (h : i < j) :
    startTime delay i + delay i ≤ startTime delay j :=
  Nat.le_trans (startTime_add_le delay i) ((strictMono_startTime delay).monotone h)

/-- **A second in which no fetch starts lies within one fetch**, if some fetch starts after it. -/
theorem exists_pending_of_idle {slot j : Nat} (hj : 1000 * (slot + 1) ≤ startTime delay j)
    (hidle : ∀ k < j, startTime delay k / 1000 ≠ slot) :
    ∃ k < j, startTime delay k ≤ 1000 * slot ∧
      1000 * (slot + 1) ≤ startTime delay k + delay k := by
  -- the fetch sought is the last one that starts before the slot ends
  induction j with
  | zero => exact absurd hj (by simp [startTime])
  | succ j ih =>
    by_cases hlater : 1000 * (slot + 1) ≤ startTime delay j
    · obtain ⟨k, hk, hpending⟩ := ih hlater fun k hk => hidle k (by omega)
      exact ⟨k, by omega, hpending⟩
    · have hslot := hidle j (Nat.lt_succ_self j)
      rw [startTime] at hj
      exact ⟨j, Nat.lt_succ_self j, by omega, by omega⟩

end Times

section Observe
variable (fetch : Nat → Fetch) (zone : Zone) (frameLog : Poller → List LogRecord)
  (limit : Option Nat) (deadline : Nat)

/-- The time at which a loop starts its `k`-th fetch. -/
def fetchTime (k : Nat) : Nat := startTime (fun k => (fetch k).delay) k

/-- Whether a loop makes a `k`-th fetch and starts it before the moment looked at. -/
def IsSeen (k : Nat) : Prop := (∀ n ∈ limit, k < n) ∧ fetchTime fetch k ≤ deadline

variable {limit}

theorem not_isSeen_of_limitReached {l : Loop} (h : l.limitReached limit = true) (k : Nat) :
    ¬ IsSeen fetch limit deadline (l.completed + k) := by
  intro hseen
  cases limit with
  | none => exact absurd h Bool.false_ne_true
  | some n =>
    have hle : n ≤ l.completed := of_decide_eq_true h
    have hlt := hseen.1 n rfl
    omega

/-- What starts before something seen is seen itself. -/
theorem IsSeen.mono {j k : Nat} (h : IsSeen fetch limit deadline j) (hle : k ≤ j) :
    IsSeen fetch limit deadline k :=
  ⟨fun n hn => Nat.lt_of_le_of_lt hle (h.1 n hn),
    Nat.le_trans ((strictMono_startTime _).monotone hle) h.2⟩

variable (limit) in
/-- What would start after the moment looked at is not seen, nor is anything later. -/
theorem not_isSeen_of_lt {k : Nat} (h : deadline < fetchTime fetch k) (i : Nat) :
    ¬ IsSeen fetch limit deadline (k + i) := by
  intro hseen
  exact absurd (hseen.mono fetch deadline (Nat.le_add_right k i)).2 (Nat.not_le.mpr h)

theorem isSeen_of_not_limitReached {l : Loop} (h : ¬ l.limitReached limit = true)
    (htime : fetchTime fetch l.completed ≤ deadline) :
    IsSeen fetch limit deadline l.completed := by
  refine ⟨?_, htime⟩
  rintro n hn
  cases hn
  by_contra hle
  exact h (decide_eq_true (Nat.not_lt.mp hle))

/-- When a fetch is over the loop waits for the start of the next one. -/
theorem nextTick_after (k : Nat) :
    (Ticker.after (fetchTime fetch k)).nextTick (fetchTime fetch k + (fetch k).delay) =
      fetchTime fetch (k + 1) := by
  rw [Ticker.nextTick, Ticker.after, Nat.mul_comm]
  rfl

variable (limit)

/-- The starts that are seen of a loop, from where it stands, are those of the schedule. -/
theorem getElem?_fetchTimes_observe (l : Loop) (hidle : l.poller.inFlight = false)
    (htime : l.ticker.nextTick l.now = fetchTime fetch l.completed) (k t : Nat) :
    (l.observe fetch zone frameLog limit deadline).fetchTimes[k]? = some t ↔
      IsSeen fetch limit deadline (l.completed + k) ∧ t = fetchTime fetch (l.completed + k) := by
  fun_induction observe fetch zone frameLog limit deadline l generalizing k with
  | case1 l hlimit =>
    simp [LoopTrace.stop, not_isSeen_of_limitReached fetch deadline hlimit]
  | case2 l hlimit time hdeadline =>
    have hlate : deadline < fetchTime fetch l.completed := htime ▸ hdeadline
    simp [LoopTrace.stop, not_isSeen_of_lt fetch limit deadline hlate]
  | case3 l hlimit time hdeadline p hbegin ih =>
    have hadmitted := l.poller.beginTick_fst
    rw [hbegin, hidle] at hadmitted
    exact absurd hadmitted Bool.false_ne_true
  | case4 l hlimit time hdeadline p hbegin call ended hended =>
    have hseen := isSeen_of_not_limitReached fetch deadline hlimit
      (htime ▸ Nat.not_lt.mp hdeadline)
    cases k with
    | zero => simp [LoopTrace.stop, LoopTrace.startFetch, hseen, ← htime, time, eq_comm]
    | succ k =>
      -- the fetch is still pending, so the next one has not started
      have hle : ended ≤ fetchTime fetch (l.completed + 1) := by
        have hnext := startTime_add_le (fun k => (fetch k).delay) l.completed
        rw [← fetchTime, ← htime] at hnext
        exact hnext
      have hlate := not_isSeen_of_lt fetch limit deadline (Nat.lt_of_lt_of_le hended hle) k
      rw [Nat.add_assoc, Nat.add_comm 1 k] at hlate
      simp [LoopTrace.stop, LoopTrace.startFetch, hlate]
  | case5 l hlimit time hdeadline p hbegin call ended hended q logs hcomplete ih =>
    have hseen := isSeen_of_not_limitReached fetch deadline hlimit
      (htime ▸ Nat.not_lt.mp hdeadline)
    cases k with
    | zero => simp [LoopTrace.startFetch, hseen, ← htime, time, eq_comm]
    | succ k =>
      have hidle' : q.inFlight = false := by
        have hcompleted := p.complete_inFlight zone call.outcome
        rw [hcomplete] at hcompleted
        exact hcompleted
      have htime' : (Ticker.after time).nextTick ended = fetchTime fetch (l.completed + 1) := by
        have hnext := nextTick_after fetch l.completed
        rw [← htime] at hnext
        exact hnext
      have hrest := ih hidle' htime' k
      rw [Nat.add_assoc, Nat.add_comm 1 k] at hrest
      exact hrest

/-- What is known of the starts seen of a loop, its `k`-th fetch being `fetch k`. -/
structure KeepsSchedule (starts : List Nat) : Prop where
  /-- The `k`-th fetch is seen to start at its time, unless the loop is over by then. -/
  start_iff : ∀ k t : Nat, starts[k]? = some t ↔
    (∀ n ∈ limit, k < n) ∧ t ≤ deadline ∧ t = startTime (fun k => (fetch k).delay) k
  /-- A fetch starts when all before it are over. -/
  noOverlap : ∀ i j s t : Nat, i < j → starts[i]? = some s → starts[j]? = some t →
    s + (fetch i).delay ≤ t
  /-- No two fetches start in the same second. -/
  noBurst : ∀ i j s t : Nat, starts[i]? = some s → starts[j]? = some t →
    s / 1000 = t / 1000 → i = j
  /-- A second before the last start in which none starts lies within one fetch. -/
  noGap : ∀ slot : Nat, (∃ t ∈ starts, 1000 * (slot + 1) ≤ t) → (∀ t ∈ starts, t / 1000 ≠ slot) →
    ∃ k s : Nat, starts[k]? = some s ∧ s ≤ 1000 * slot ∧
      1000 * (slot + 1) ≤ s + (fetch k).delay

/-- **The loop keeps its schedule**, whatever fetches take and up to any moment, if no fetch is
pending when it is entered. -/
theorem keepsSchedule_observe {p : Poller} (hidle : p.inFlight = false) :
    KeepsSchedule fetch limit deadline
      ((start p).observe fetch zone frameLog limit deadline).fetchTimes := by
  have hstart (k t : Nat) := getElem?_fetchTimes_observe fetch zone frameLog limit deadline
    (start p) hidle rfl k t
  have hcompleted : (start p).completed = 0 := rfl
  simp only [hcompleted, Nat.zero_add] at hstart
  refine ⟨?start_iff, ?noOverlap, ?noBurst, ?noGap⟩
  case start_iff =>
    intro k t
    rw [hstart, IsSeen, and_assoc]
    refine and_congr_right fun _ => and_congr_left ?_
    rintro rfl
    rfl
  case noOverlap =>
    intro i j s t hij hs ht
    rw [((hstart i s).mp hs).2, ((hstart j t).mp ht).2]
    exact startTime_add_le_of_lt _ hij
  case noBurst =>
    intro i j s t hs ht hslot
    rw [((hstart i s).mp hs).2, ((hstart j t).mp ht).2] at hslot
    exact (strictMono_startTime_div _).injective hslot
  case noGap =>
    rintro slot ⟨t, ht, hlater⟩ hnone
    obtain ⟨j, hj⟩ := List.getElem?_of_mem ht
    obtain ⟨hseen, rfl⟩ := (hstart j t).mp hj
    -- all fetches before the one that starts later are seen as well
    have hstarts (k : Nat) (hk : k < j) := (hstart k _).mpr ⟨hseen.mono fetch deadline hk.le, rfl⟩
    obtain ⟨k, hk, hpending⟩ := exists_pending_of_idle _ hlater fun k hk =>
      hnone _ (List.mem_of_getElem? (hstarts k hk))
    exact ⟨k, _, hstarts k hk, hpending⟩

end Observe

/-- A fetch that takes two seconds and a half is pending through the second that starts at 1000,
and the next one starts when it is over; the third starts at the full second after that. -/
theorem keepsSchedule_slowFetch :
    let fetch : Nat → Fetch := fun k => ⟨if k = 0 then 2500 else 0, .ok {}⟩
    (Poller.new "").inFlight = false ∧
      KeepsSchedule fetch (some 3) 3000
        ((start (.new "")).observe fetch .utc Poller.frameLog (some 3) 3000).fetchTimes ∧
      ((start (.new "")).observe fetch .utc Poller.frameLog (some 3) 3000).fetchTimes[2]? =
        some 3000 := by
  intro fetch
  have hschedule := keepsSchedule_observe fetch .utc Poller.frameLog (some 3) 3000
    (p := .new "") rfl
  refine ⟨rfl, hschedule, (hschedule.start_iff 2 3000).mpr ⟨?_, by decide, by decide⟩⟩
  rintro n ⟨⟩
  decide

end Loop

end TrackerBoard
