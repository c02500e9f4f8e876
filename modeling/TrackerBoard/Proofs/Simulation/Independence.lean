import TrackerBoard.Proofs.Chance.Lockstep
import TrackerBoard.Proofs.Simulation.Run

/-! # What the channel plan has no influence on

The plan of a scenario is its target, its channels, and the length of a designator's cycle.  Take
two trackers whose scenarios differ in the plan alone, and not in how many channels there are.  They
ask the same questions in every step (`Replanned.step`): which channel the bandit is traced on is
drawn by the number of channels, and nobody looks at what the designator makes of it.  So with one
generator the two go through the same steps, and their snapshots differ at most in the fields that
tell of the plan (`snapshots_agree`).
-/

namespace TrackerBoard

/-- What a tracker is to look for, and where. -/
structure ChannelPlan where
  target : String
  cycleSteps : UInt64
  channels : List Int64

namespace Scenario

/-- The plan of a scenario. -/
def plan (s : Scenario) : ChannelPlan := ⟨s.trackingTarget, s.designatorCycleSteps, s.channels⟩

/-- The scenario with another plan. -/
def withPlan (s : Scenario) (plan : ChannelPlan) : Scenario :=
  { s with
    trackingTarget := plan.target
    designatorCycleSteps := plan.cycleSteps
    channels := plan.channels }

/-- The scenario without its plan. -/
def withoutPlan (s : Scenario) : Scenario := s.withPlan ⟨"", 0, []⟩

/-- A scenario that differs from another one in the plan alone is that one with another plan. -/
theorem eq_withPlan {a b : Scenario} (h : a.withoutPlan = b.withoutPlan) :
    b = a.withPlan b.plan := by
  show b.withoutPlan.withPlan b.plan = a.withoutPlan.withPlan b.plan
  rw [h]

end Scenario

/-- A snapshot without the fields that tell of the plan. -/
def Snapshot.withoutPlan (s : Snapshot) : Snapshot :=
  { s with trackingTarget := none, channels := none, channelDesignation := none }

namespace SimulatedTracker

/-- The tracker with another plan, and with what a designator made of that. -/
def withPlan (t : SimulatedTracker) (plan : ChannelPlan) (designator : Designator) :
    SimulatedTracker :=
  { t with scenario := t.scenario.withPlan plan, designator := designator }

/-- The second tracker is the first one with another plan for as many channels. -/
def Replanned (plan : ChannelPlan) (t u : SimulatedTracker) : Prop :=
  t.scenario.channels.length = plan.channels.length ∧
    ∃ designator, u = t.withPlan plan designator

variable {plan : ChannelPlan} {t u : SimulatedTracker}

theorem replanned_new {scenario : Scenario}
    (h : scenario.channels.length = plan.channels.length) :
    Replanned plan (new scenario) (new (scenario.withPlan plan)) :=
  ⟨h, .new plan.channels, rfl⟩

section Step
variable (now : Instant)

/-- The pings of the leader are the same. -/
theorem Replanned.receivePing (h : Replanned plan t u) :
    (t.receivePing now).Lockstep (Replanned plan) (u.receivePing now) := by
  obtain ⟨hlength, designator, rfl⟩ := h
  unfold SimulatedTracker.receivePing
  apply Plan.Lockstep.bind_self
  intro isLost
  apply Plan.Lockstep.branch
  · intro _
    exact .pure ⟨hlength, designator, rfl⟩
  · intro _
    apply Plan.Lockstep.bind_self
    intro drift
    apply Plan.Lockstep.bind_self
    intro rssi
    apply Plan.Lockstep.bind_self
    intro isStale
    exact .pure ⟨hlength, designator, rfl⟩

/-- The leader asks for the same, though it may name another target. -/
theorem Replanned.handleRequests (h : Replanned plan t u) :
    (t.handleRequests now).Lockstep (fun a b => Replanned plan a.1 b.1) (u.handleRequests now) := by
  obtain ⟨hlength, designator, rfl⟩ := h
  unfold SimulatedTracker.handleRequests
  apply Plan.Lockstep.branch
  · intro _
    apply Plan.Lockstep.bind_self
    intro isCanceled
    cases isCanceled with
    | true => exact .pure ⟨hlength, designator, rfl⟩
    | false => exact .pure ⟨hlength, designator, rfl⟩
  · intro _
    apply Plan.Lockstep.bind_self
    intro isRequested
    cases isRequested with
    | true => exact .pure ⟨hlength, designator, rfl⟩
    | false => exact .pure ⟨hlength, designator, rfl⟩

/-- The bandit is traced on a channel at the same place. -/
theorem Replanned.traceBandit (h : Replanned plan t u) :
    t.traceBandit.Lockstep (Replanned plan) u.traceBandit := by
  obtain ⟨hlength, designator, rfl⟩ := h
  unfold SimulatedTracker.traceBandit
  apply (Plan.lockstep_choose hlength).bind
  intro a? b? hsome
  cases a? with
  | none =>
    cases b? with
    | none => exact .pure ⟨hlength, designator, rfl⟩
    | some b => cases hsome
  | some a =>
    cases b? with
    | none => cases hsome
    | some b => exact .pure ⟨hlength, designator.trace b, rfl⟩

/-- The bandit gets the same identifier. -/
theorem Replanned.openTrack (h : Replanned plan t u) :
    (t.openTrack now).Lockstep (fun a b => Replanned plan a.1 b.1) (u.openTrack now) := by
  obtain ⟨hlength, designator, rfl⟩ := h
  unfold SimulatedTracker.openTrack
  apply Plan.Lockstep.branch
  · intro _
    apply Plan.Lockstep.bind_self
    intro word
    exact .pure ⟨hlength, designator, rfl⟩
  · intro _
    exact .pure ⟨hlength, designator, rfl⟩

/-- The bandit is heard at the same time, and as well. -/
theorem Replanned.listen (h : Replanned plan t u) :
    (t.listen now).Lockstep (fun a b => Replanned plan a.1 b.1) (u.listen now) := by
  have hself := h
  obtain ⟨hlength, designator, rfl⟩ := h
  unfold SimulatedTracker.listen SimulatedTracker.tryContact
  apply Plan.Lockstep.branch
  · intro _
    apply Plan.Lockstep.bind_self
    intro isHeard
    apply Plan.Lockstep.branch
    · intro _
      apply hself.traceBandit.bind
      intro t₁ u₁ h₁
      apply (h₁.openTrack now).bind
      rintro ⟨t₂, recorded⟩ ⟨_, recorded'⟩ ⟨hlength₂, designator₂, rfl⟩
      apply Plan.Lockstep.bind_self
      intro frames
      apply Plan.Lockstep.bind_self
      intro signal
      exact .pure ⟨hlength₂, designator₂, rfl⟩
    · intro _
      exact .pure hself
  · intro _
    exact .pure hself

/-- A cycle may end for one of the two and not for the other. -/
theorem Replanned.endCycle (h : Replanned plan t u) :
    Replanned plan t.endCycle.1 u.endCycle.1 := by
  obtain ⟨hlength, designator, rfl⟩ := h
  rw [endCycle_fst t, endCycle_fst (t.withPlan plan designator)]
  exact ⟨hlength, _, rfl⟩

theorem Replanned.snapshot (h : Replanned plan t u) (states : List TrackerState)
    (deviceLive monitorsLive : Bool) :
    (t.snapshot now states deviceLive monitorsLive).withoutPlan =
      (u.snapshot now states deviceLive monitorsLive).withoutPlan := by
  obtain ⟨-, designator, rfl⟩ := h
  rfl

/-- **A step asks the same of both trackers**, and shows the same but for the plan. -/
theorem Replanned.step (h : Replanned plan t u) :
    (t.step now).Lockstep
      (fun r r' => Replanned plan r.tracker r'.tracker ∧
        r.snapshot.withoutPlan = r'.snapshot.withoutPlan)
      (u.step now) := by
  have hcounted : Replanned plan { t with steps := t.steps + 1 } { u with steps := u.steps + 1 } := by
    obtain ⟨hlength, designator, rfl⟩ := h
    exact ⟨hlength, designator, rfl⟩
  unfold SimulatedTracker.step
  apply (hcounted.receivePing now).bind
  intro t₁ u₁ h₁
  apply (h₁.handleRequests now).bind
  rintro ⟨t₂, requests⟩ ⟨u₂, requests'⟩ h₂
  apply (Replanned.listen now h₂).bind
  rintro ⟨t₃, contact⟩ ⟨u₃, contact'⟩ h₃
  have h₄ := Replanned.endCycle h₃
  -- the pairs that the ends of the cycles give are taken apart by their projections
  simp only
  have hwatchdog : u₃.endCycle.1.watchdog = t₃.endCycle.1.watchdog := by
    obtain ⟨-, designator, heq⟩ := h₄
    rw [heq]
    rfl
  have hscenario : t₃.endCycle.1.scenario.withPlan plan = u₃.endCycle.1.scenario := by
    obtain ⟨-, designator, heq⟩ := h₄
    rw [heq]
    rfl
  rw [← hscenario, hwatchdog]
  apply Plan.Lockstep.bind_self
  intro monitorsFail
  apply Plan.Lockstep.bind_self
  intro deviceFails
  cases t₃.endCycle.1.watchdog.evaluate? now banditHash with
  | none => exact .fail _
  | some states => exact .pure ⟨h₄, h₄.snapshot now states _ _⟩

end Step

/-- **The snapshots of the two trackers differ at most in the plan**, whatever a generator draws. -/
theorem Replanned.drawn (h : Replanned plan t u) (g : Generator) (moments : List Instant) :
    (t.drawn g moments).map (·.snapshot.withoutPlan) =
      (u.drawn g moments).map (·.snapshot.withoutPlan) := by
  induction moments generalizing t u g with
  | nil => rfl
  | cons now moments ih =>
    unfold SimulatedTracker.drawn
    rcases (h.step now).run g with ⟨e, ht, hu⟩ | ⟨r, r', g', ht, hu, htracker, hsnapshot⟩
    · rw [ht, hu]
    · rw [ht, hu]
      simp only [List.map_cons, hsnapshot, ih htracker g']

/-- **Two scenarios that differ in the plan alone, for as many channels, give the same snapshots but
for the plan.** -/
theorem snapshots_agree {a b : Scenario} (h : a.withoutPlan = b.withoutPlan)
    (hcount : a.channels.length = b.channels.length) (moments : List Instant) :
    ((new a).drawn (.ofSeed a.seed) moments).map (·.snapshot.withoutPlan) =
      ((new b).drawn (.ofSeed b.seed) moments).map (·.snapshot.withoutPlan) := by
  have hb : b = a.withPlan b.plan := Scenario.eq_withPlan h
  have hreplanned : Replanned b.plan (new a) (new (a.withPlan b.plan)) := replanned_new hcount
  rw [← hb] at hreplanned
  have hseed : a.seed = b.seed := by
    show a.withoutPlan.seed = b.withoutPlan.seed
    rw [h]
  rw [← hseed]
  exact hreplanned.drawn (.ofSeed a.seed) moments

/-- The scenario in which everything happens, with another plan: its channels are others, and its
cycles end at every step. -/
theorem snapshots_agree_eventful :
    let other := eventful.withPlan ⟨"coconut", 1, [36, 40, 44]⟩
    let ours := (new eventful).drawn (.ofSeed eventful.seed) [epoch, epoch]
    let theirs := (new other).drawn (.ofSeed other.seed) [epoch, epoch]
    eventful.withoutPlan = other.withoutPlan ∧
      eventful.channels.length = other.channels.length ∧
      ours.map (·.snapshot.withoutPlan) = theirs.map (·.snapshot.withoutPlan) ∧
      ours.map (·.snapshot.channelDesignation) = [some .unlocked, some .locked] ∧
      theirs.map (·.snapshot.channelDesignation) = [some .locked, some .unlocked] := by
  intro other ours theirs
  have hplan : eventful.withoutPlan = other.withoutPlan := rfl
  have hcount : eventful.channels.length = other.channels.length := rfl
  exact ⟨hplan, hcount, snapshots_agree hplan hcount [epoch, epoch], by decide +kernel,
    by decide +kernel⟩

end SimulatedTracker

end TrackerBoard
