import Mathlib.Data.List.DropRight
import TrackerBoard.Proofs.Simulation.Run
import TrackerBoard.Proofs.Tracker.Cadence

/-! # The channels of a run

A designator that is told only of configured channels keeps its channels within the configured ones
(`Designator.IsSound`).  The one way to have no channel left would be to lock onto no trace at all.
It does not come up: a contact puts a configured channel on the list of designated channels, which
is emptied only together with the contact, and a cycle without a contact does not lock.

In a run the designator is told of a contact whenever the bandit is heard, and it ends a cycle at
every multiple of the cycle length.  So it has a contact exactly when the bandit was heard since the
last multiple (`Run.designates`), and this decides what the snapshots show (`KeepsChannels`).
-/

namespace TrackerBoard

namespace Designator

variable {d : Designator} {channel : Int64} {channels configured : List Int64}

/-- Some channels are configured ones, and none is repeated more often than it is there. -/
def IsWithin (channels configured : List Int64) : Prop :=
  ∀ channel, channels.count channel ≤ configured.count channel

theorem isWithin_nil : IsWithin [] configured := by
  intro channel
  exact Nat.zero_le _

theorem isWithin_refl : IsWithin configured configured := by
  intro channel
  exact Nat.le_refl _

theorem IsWithin.subset (h : IsWithin channels configured) : channels ⊆ configured := by
  intro channel hmem
  have hcount := h channel
  rw [← List.count_pos_iff] at hmem ⊢
  omega

/-- A configured channel that is not among some others can be added to them. -/
theorem IsWithin.snoc (h : IsWithin channels configured) (hnew : channel ∉ channels)
    (hconfigured : channel ∈ configured) : IsWithin (channels ++ [channel]) configured := by
  intro other
  rw [List.count_append, List.count_singleton]
  by_cases hsame : channel = other
  · subst hsame
    have hnone := List.count_eq_zero.mpr hnew
    have hsome := List.count_pos_iff.mpr hconfigured
    rw [hnone, if_pos (beq_self_eq_true channel)]
    omega
  · rw [if_neg (by simpa using hsame)]
    exact h other

/-- A designator never has other channels than the configured ones, and never none. -/
structure IsSound (d : Designator) : Prop where
  designated_within : IsWithin d.designated d.configured
  designated_ne_nil : d.hasContact = true → d.designated ≠ []
  active_within : IsWithin d.active d.configured
  active_ne_nil : d.active ≠ []
  active_eq : d.status ≠ .locked → d.active = d.configured

theorem isSound_new (h : configured ≠ []) : (new configured).IsSound where
  designated_within := isWithin_refl
  designated_ne_nil := fun _ => h
  active_within := isWithin_refl
  active_ne_nil := h
  active_eq := fun _ => rfl

theorem IsSound.trace (h : d.IsSound) (hconfigured : channel ∈ d.configured) :
    (d.trace channel).IsSound := by
  constructor
  case designated_within =>
    rw [Designator.trace]
    by_cases hmem : channel ∈ d.designated
    · rw [if_pos hmem]
      exact h.designated_within
    · rw [if_neg hmem]
      exact h.designated_within.snoc hmem hconfigured
  case designated_ne_nil =>
    intro _
    rw [Designator.trace]
    by_cases hmem : channel ∈ d.designated
    · rw [if_pos hmem]
      exact List.ne_nil_of_mem hmem
    · rw [if_neg hmem]
      exact List.concat_ne_nil channel _
  case active_within => exact h.active_within
  case active_ne_nil => exact h.active_ne_nil
  case active_eq => exact h.active_eq

/-- All traced channels are configured. -/
theorem IsSound.tracedChannels (h : d.IsSound) : d.tracedChannels = d.designated := by
  rw [Designator.tracedChannels, List.filter_eq_self]
  intro channel hmem
  exact decide_eq_true (h.designated_within.subset hmem)

theorem IsSound.designate (h : d.IsSound) : d.designate.1.IsSound := by
  have hconfigured : d.configured ≠ [] := by
    intro hnil
    have hsubset := h.active_within.subset
    rw [hnil] at hsubset
    exact h.active_ne_nil (List.subset_nil.mp hsubset)
  by_cases hlocked : d.verdict = .locked
  · have hcontact : d.hasContact = true := by
      by_contra hnone
      have hunlocked := verdict_eq_unlocked_iff.mpr (Bool.eq_false_iff.mpr hnone)
      rw [hlocked] at hunlocked
      exact absurd hunlocked (by decide)
    have hactive : d.designate.1.active = d.designated := by
      rw [Designator.designate]
      exact (if_pos hlocked).trans h.tracedChannels
    constructor
    case designated_within => exact isWithin_nil
    case designated_ne_nil => exact fun hnone => absurd hnone Bool.false_ne_true
    case active_within => rw [hactive]; exact h.designated_within
    case active_ne_nil => rw [hactive]; exact h.designated_ne_nil hcontact
    case active_eq => exact fun hstatus => absurd hlocked hstatus
  · have hactive : d.designate.1.active = d.configured := by
      rw [Designator.designate]
      exact if_neg hlocked
    constructor
    case designated_within => exact isWithin_nil
    case designated_ne_nil => exact fun hnone => absurd hnone Bool.false_ne_true
    case active_within => rw [hactive]; exact isWithin_refl
    case active_ne_nil => rw [hactive]; exact hconfigured
    case active_eq => exact fun _ => hactive

end Designator

/-- A scenario that is not refused has a channel. -/
theorem Scenario.channels_ne_nil {scenario : Scenario} (h : scenario.validate = .ok ()) :
    scenario.channels ≠ [] := by
  intro hnil
  rw [validate, hnil] at h
  split at h <;> cases h

namespace SimulatedTracker

variable {t t' : SimulatedTracker} {now : Instant} {scenario : Scenario} {run : List MadeStep}
  {s : MadeStep}

/-- A designator is told of a contact on a configured channel, or of nothing. -/
inductive Listens (scenario : Scenario) (d : Designator) : Designator → Bool → Prop
  | silence : Listens scenario d d false
  | contact {channel : Int64} (hchannel : channel ∈ scenario.channels) :
      Listens scenario d (d.trace channel) true

/-- What a designator is told does not show before the cycle ends. -/
theorem Listens.active {d d' : Designator} {heard : Bool} (h : Listens scenario d d' heard) :
    d'.active = d.active := by
  cases h <;> rfl

theorem Listens.status {d d' : Designator} {heard : Bool} (h : Listens scenario d d' heard) :
    d'.status = d.status := by
  cases h <;> rfl

/-- The number of steps in a cycle of the designator. -/
def cycleLength (scenario : Scenario) : Nat := max scenario.designatorCycleSteps.toNat 1

theorem Requested.designator {a : Activity} (h : t.Requested now t' a) :
    t'.designator = t.designator := by
  cases h <;> rfl

theorem Opened.designator {recorded : List TrackerEvent} (h : t.Opened now t' recorded) :
    t'.designator = t.designator := by
  cases h <;> rfl

theorem Traced.listens (h : t.Traced t') (hchannels : t.scenario.channels ≠ []) :
    Listens t.scenario t.designator t'.designator true := by
  cases h with
  | onChannel hchannel => exact .contact hchannel
  | nowhere hnone => exact absurd hnone hchannels

theorem Listened.listens {a : Activity} (h : t.Listened now t' a)
    (hchannels : t.scenario.channels ≠ []) :
    Listens t.scenario t.designator t'.designator a.heard := by
  cases h with
  | silence => exact .silence
  | contact frames signal htracking htraced hopened hframes hsignal =>
    have hlistens := htraced.listens hchannels
    rw [← hopened.designator] at hlistens
    exact hlistens

theorem endCycle_designator (t : SimulatedTracker) :
    t.endCycle.1.designator =
      if t.steps % cycleLength t.scenario = 0 then t.designator.designate.1 else t.designator := by
  rw [endCycle, cycleLength]
  split <;> rfl

/-- A step tells the designator of a contact if there is one, and then it may end a cycle. -/
theorem Stepped.exists_listens {r : StepResult} (h : t.Stepped now r)
    (hchannels : t.scenario.channels ≠ []) :
    ∃ d, Listens t.scenario t.designator d r.heard ∧ r.tracker.designator =
      if (t.steps + 1) % cycleLength t.scenario = 0 then d.designate.1 else d := by
  cases h with
  | @made t₁ t₂ t₃ requests contact states deviceLive monitorsLive hpinged hrequested hlistened
      hstates =>
    have hscenario₁ : t₁.scenario = t.scenario := by rw [hpinged.eq]
    have hsteps₁ : t₁.steps = t.steps + 1 := by rw [hpinged.eq]
    have hdesignator₁ : t₁.designator = t.designator := by rw [hpinged.eq]
    obtain ⟨hscenario₂, hsteps₂⟩ := hrequested.scenario_steps
    obtain ⟨hscenario₃, hsteps₃⟩ := hlistened.scenario_steps
    have hscenario := hscenario₂.trans hscenario₁
    rw [← hscenario] at hchannels
    have hlistens := hlistened.listens hchannels
    rw [hscenario, hrequested.designator, hdesignator₁] at hlistens
    refine ⟨t₃.designator, hlistens, ?_⟩
    rw [endCycle_designator, hscenario₃, hscenario, hsteps₃, hsteps₂, hsteps₁]

/-- A step shows the channels that it leaves. -/
theorem Stepped.snapshot_channels {r : StepResult} (h : t.Stepped now r) :
    r.snapshot.channels = some (.list r.tracker.designator.active) ∧
      r.snapshot.channelDesignation = some r.tracker.designator.status := by
  cases h
  exact ⟨rfl, rfl⟩

/-- The steps since the last end of a cycle. -/
def cycleSteps (scenario : Scenario) (run : List MadeStep) : List MadeStep :=
  run.rtake (run.length % cycleLength scenario)

theorem cycleLength_pos (scenario : Scenario) : 0 < cycleLength scenario := Nat.le_max_right _ _

theorem cycleSteps_append (run : List MadeStep) (s : MadeStep) :
    cycleSteps scenario run ++ [s] =
      (run ++ [s]).rtake (run.length % cycleLength scenario + 1) := by
  rw [List.rtake_concat_succ]
  rfl

theorem mod_add_one_of_end {n cycle : Nat} (hpos : 0 < cycle) (h : (n + 1) % cycle = 0) :
    n % cycle + 1 = cycle := by
  have hlt := Nat.mod_lt n hpos
  rw [← Nat.mod_add_mod] at h
  by_contra hne
  rw [Nat.mod_eq_of_lt (by omega)] at h
  exact Nat.succ_ne_zero _ h

theorem mod_add_one {n cycle : Nat} (hpos : 0 < cycle) (h : (n + 1) % cycle ≠ 0) :
    (n + 1) % cycle = n % cycle + 1 := by
  have hlt := Nat.mod_lt n hpos
  rw [← Nat.mod_add_mod] at h ⊢
  refine Nat.mod_eq_of_lt ?_
  by_contra hge
  have hfull : n % cycle + 1 = cycle := by omega
  rw [hfull, Nat.mod_self] at h
  exact h rfl

/-- The last step of a cycle ends the last of as many steps as a cycle has. -/
theorem cycleSteps_append_of_end (h : (run.length + 1) % cycleLength scenario = 0) :
    cycleSteps scenario run ++ [s] = (run ++ [s]).rtake (cycleLength scenario) := by
  rw [cycleSteps_append, mod_add_one_of_end (cycleLength_pos scenario) h]

theorem cycleSteps_snoc_of_end (h : (run.length + 1) % cycleLength scenario = 0) :
    cycleSteps scenario (run ++ [s]) = [] := by
  rw [cycleSteps, List.length_append, List.length_singleton, h, List.rtake_zero]

theorem cycleSteps_snoc (h : (run.length + 1) % cycleLength scenario ≠ 0) :
    cycleSteps scenario (run ++ [s]) = cycleSteps scenario run ++ [s] := by
  rw [cycleSteps_append, cycleSteps, List.length_append, List.length_singleton,
    mod_add_one (cycleLength_pos scenario) h]

/-- What a designator has come to that was told of the contacts in some steps. -/
structure Designates (scenario : Scenario) (steps : List MadeStep) (d : Designator) : Prop where
  configured : d.configured = scenario.channels
  sound : d.IsSound
  hasContact : d.hasContact = true ↔ ∃ s ∈ steps, s.heard = true

section Designates
variable {d d' : Designator} {steps : List MadeStep}

theorem designates_new (hchannels : scenario.channels ≠ []) :
    Designates scenario [] (.new scenario.channels) where
  configured := rfl
  sound := Designator.isSound_new hchannels
  hasContact := iff_of_false Bool.false_ne_true (by simp)

theorem Designates.designate (h : Designates scenario steps d) :
    Designates scenario [] d.designate.1 where
  configured := h.configured
  sound := h.sound.designate
  hasContact := iff_of_false Bool.false_ne_true (by simp)

theorem Designates.hasContact_eq_false_iff (h : Designates scenario steps d) :
    d.hasContact = false ↔ ∀ s ∈ steps, s.heard = false := by
  rw [← Bool.not_eq_true, h.hasContact]
  simp

theorem Designates.listens (h : Designates scenario steps d)
    (hlistens : Listens scenario d d' s.heard) : Designates scenario (steps ++ [s]) d' := by
  generalize hheard : s.heard = heard at hlistens
  cases hlistens with
  | silence =>
    have hsilent : s.heard ≠ true := by rw [hheard]; exact Bool.false_ne_true
    refine ⟨h.configured, h.sound, ?_⟩
    rw [exists_mem_concat, or_iff_left hsilent]
    exact h.hasContact
  | contact hchannel =>
    rw [← h.configured] at hchannel
    refine ⟨h.configured, h.sound.trace hchannel, iff_of_true rfl ?_⟩
    exact ⟨s, List.mem_append_right _ (List.mem_singleton_self s), hheard⟩

end Designates

/-- The designator is told of what a step of a run heard, and it may end a cycle then. -/
theorem Run.exists_listens (h : Run scenario t run) (hchannels : scenario.channels ≠ [])
    (hstepped : t.Stepped s.now s.toStepResult) :
    ∃ d, Listens scenario t.designator d s.heard ∧ s.tracker.designator =
      if (run.length + 1) % cycleLength scenario = 0 then d.designate.1 else d := by
  obtain ⟨hscenario, hsteps⟩ := h.scenario_steps
  rw [← hscenario] at hchannels ⊢
  rw [← hsteps]
  exact hstepped.exists_listens hchannels

/-- **The designator has a contact exactly when the bandit was heard since the last cycle.** -/
theorem Run.designates (h : Run scenario t run) (hchannels : scenario.channels ≠ []) :
    Designates scenario (cycleSteps scenario run) t.designator := by
  induction h with
  | start => exact designates_new hchannels
  | @step t run s h hstep ih =>
    obtain ⟨d, hlistens, hdesignator⟩ := h.exists_listens hchannels (stepped_of_yields hstep)
    rw [hdesignator]
    by_cases hends : (run.length + 1) % cycleLength scenario = 0
    · rw [if_pos hends, cycleSteps_snoc_of_end hends]
      exact (ih.listens hlistens).designate
    · rw [if_neg hends, cycleSteps_snoc hends]
      exact ih.listens hlistens

/-- What the snapshots of a run show of the channels in the end; before the first step these are all
channels, unlocked. -/
def channelsAfter (scenario : Scenario) (run : List MadeStep) :
    Option Channels × Option Designation :=
  (run.getLast?.map fun s => (s.snapshot.channels, s.snapshot.channelDesignation)).getD
    (some (.list scenario.channels), some .unlocked)

theorem Run.channelsAfter_eq (h : Run scenario t run) :
    channelsAfter scenario run = (some (.list t.designator.active), some t.designator.status) := by
  cases h with
  | start => rfl
  | step h hstep =>
    obtain ⟨hchannels, hstatus⟩ := (stepped_of_yields hstep).snapshot_channels
    rw [channelsAfter, List.getLast?_concat, ← hchannels, ← hstatus]
    rfl

/-- What the snapshot of the last step of a run shows of the channels. -/
structure KeepsChannels (scenario : Scenario) (run : List MadeStep) (s : MadeStep) : Prop where
  channels : ∃ channels, s.snapshot.channels = some (.list channels) ∧ channels ≠ [] ∧
    channels ⊆ scenario.channels ∧ Designator.IsWithin channels scenario.channels
  configured : s.snapshot.channelDesignation = some .unlocked ∨
      s.snapshot.channelDesignation = some .sweeping →
    s.snapshot.channels = some (.list scenario.channels)
  unchanged : ¬ cycleLength scenario ∣ run.length + 1 →
    (s.snapshot.channels, s.snapshot.channelDesignation) = channelsAfter scenario run
  unlocked : cycleLength scenario ∣ run.length + 1 →
    (s.snapshot.channelDesignation = some .unlocked ↔
      ∀ a ∈ (run ++ [s]).rtake (cycleLength scenario), a.heard = false)

/-- **A tracker always has a configured channel to listen on.** -/
theorem Run.keepsChannels (h : Run scenario t (run ++ [s])) (hvalid : scenario.validate = .ok ()) :
    KeepsChannels scenario run s := by
  have hnonempty := Scenario.channels_ne_nil hvalid
  have hdesignates := h.designates hnonempty
  obtain ⟨t₀, hrun, hstepped, rfl⟩ := h.exists_before
  obtain ⟨hchannels, hstatus⟩ := hstepped.snapshot_channels
  obtain ⟨d, hlistens, hdesignator⟩ := hrun.exists_listens hnonempty hstepped
  have hheard := (hrun.designates hnonempty).listens hlistens
  constructor
  case channels =>
    have hwithin := hdesignates.sound.active_within
    rw [hdesignates.configured] at hwithin
    exact ⟨_, hchannels, hdesignates.sound.active_ne_nil, hwithin.subset, hwithin⟩
  case configured =>
    intro hfree
    have hunlocked : s.tracker.designator.status ≠ .locked := by
      intro hlocked
      rw [hstatus, hlocked] at hfree
      exact absurd hfree (by decide)
    rw [hchannels, hdesignates.sound.active_eq hunlocked, hdesignates.configured]
  case unchanged =>
    intro hends
    rw [Nat.dvd_iff_mod_eq_zero] at hends
    rw [if_neg hends] at hdesignator
    rw [hrun.channelsAfter_eq, hchannels, hstatus, hdesignator, hlistens.active, hlistens.status]
  case unlocked =>
    intro hends
    have hends := Nat.mod_eq_zero_of_dvd hends
    rw [if_pos hends] at hdesignator
    rw [hstatus, hdesignator, ← cycleSteps_append_of_end hends, ← hheard.hasContact_eq_false_iff,
      ← Designator.verdict_eq_unlocked_iff]
    exact Option.some_inj

/-- A cycle with a contact locks. -/
theorem keepsChannels_locked :
    ∃ t run s, eventful.validate = .ok () ∧ Run eventful t (run ++ [s]) ∧
      (run ++ [s]).map (·.snapshot.channelDesignation) = [some .unlocked, some .locked] ∧
      KeepsChannels eventful run s := by
  obtain ⟨t, h⟩ := exists_run_drawn eventful (.ofSeed 7) [epoch, epoch]
  have hne : (new eventful).drawn (.ofSeed 7) [epoch, epoch] ≠ [] := by decide +kernel
  have hstatus : ((new eventful).drawn (.ofSeed 7) [epoch, epoch]).map
      (·.snapshot.channelDesignation) = [some .unlocked, some .locked] := by decide +kernel
  rw [← List.dropLast_append_getLast hne] at h hstatus
  have hvalid : eventful.validate = .ok () := by rfl
  exact ⟨t, _, _, hvalid, h, hstatus, h.keepsChannels hvalid⟩

end SimulatedTracker

end TrackerBoard
