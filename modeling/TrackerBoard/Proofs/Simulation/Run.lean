import Mathlib.Data.List.Induction
import TrackerBoard.Chance.Generator
import TrackerBoard.Proofs.Simulation.Session

/-! # Runs

A run of a simulated tracker is any number of steps, at any times, each with whatever its draws
come to.  It starts with the new tracker of a scenario, and every step starts from the tracker that
the step before it left (`Run`).  The last step of a run is one of those that `Stepped` lists
(`Run.exists_before`), which is how a property of all runs is shown by induction.

The steps for which a generator draws are such a run (`exists_run_drawn`).
-/

namespace TrackerBoard.SimulatedTracker

theorem exists_mem_concat {α : Type} {p : α → Prop} {as : List α} {a : α} :
    (∃ b ∈ as ++ [a], p b) ↔ (∃ b ∈ as, p b) ∨ p a := by
  simp only [List.mem_append, List.mem_singleton, or_and_right, exists_or, exists_eq_left]

/-- A step that was made at a moment. -/
structure MadeStep extends StepResult where
  now : Instant

/-- The tracker after some steps of a run, oldest first. -/
inductive Run (scenario : Scenario) : SimulatedTracker → List MadeStep → Prop
  | start : Run scenario (.new scenario) []
  | step {t : SimulatedTracker} {run : List MadeStep} {s : MadeStep} (h : Run scenario t run)
      (hstep : (t.step s.now).Yields (.ok s.toStepResult)) :
      Run scenario s.tracker (run ++ [s])

/-- The events recorded in some steps, oldest first. -/
def recordedIn (run : List MadeStep) : List TrackerEvent := run.flatMap (·.recorded)

@[simp] theorem recordedIn_snoc (run : List MadeStep) (s : MadeStep) :
    recordedIn (run ++ [s]) = recordedIn run ++ s.recorded := by
  simp [recordedIn]

variable {t t' : SimulatedTracker} {scenario : Scenario} {run : List MadeStep} {s : MadeStep}

theorem Run.exists_before (h : Run scenario t (run ++ [s])) :
    ∃ t₀, Run scenario t₀ run ∧ t₀.Stepped s.now s.toStepResult ∧ t = s.tracker := by
  generalize hall : run ++ [s] = all at h
  cases h with
  | start => exact absurd hall (List.concat_ne_nil s run)
  | step h hstep =>
    obtain ⟨rfl, hlast⟩ := List.append_inj' hall rfl
    obtain rfl := List.singleton_inj.mp hlast
    exact ⟨_, h, stepped_of_yields hstep, rfl⟩

/-- What a run starts with is a run. -/
theorem Run.exists_prefix {more : List MadeStep} (h : Run scenario t (run ++ more)) :
    ∃ t', Run scenario t' run := by
  induction more using List.reverseRecOn generalizing t with
  | nil => exact ⟨t, by rwa [List.append_nil] at h⟩
  | append_singleton more s ih =>
    rw [← List.append_assoc] at h
    obtain ⟨t₀, h₀, -⟩ := h.exists_before
    exact ih h₀

/-- A run stays with its scenario and counts its steps. -/
theorem Run.scenario_steps (h : Run scenario t run) :
    t.scenario = scenario ∧ t.steps = run.length := by
  induction h with
  | start => exact ⟨rfl, rfl⟩
  | @step t run s h hstep ih =>
    obtain ⟨hscenario, hsteps⟩ := (stepped_of_yields hstep).scenario_steps
    rw [hscenario, hsteps, ih.2, List.length_append]
    exact ⟨ih.1, rfl⟩

/-- A run leads to a session. -/
theorem Run.exists_session (h : Run scenario t run) :
    ∃ session : Session, t.sessionData = session.data := by
  induction h with
  | start => exact ⟨.idle, rfl⟩
  | step h hstep ih =>
    obtain ⟨session, hdata⟩ := ih
    obtain ⟨session', hdata', -⟩ := (stepped_of_yields hstep).exists_move hdata
    exact ⟨session', hdata'⟩

/-- A step after a run is a move from the session that the run leads to, and it shows where the move
ends. -/
theorem Run.exists_move (h : Run scenario t run) (hstepped : t.Stepped s.now s.toStepResult) :
    ∃ a b : Session, t.sessionData = a.data ∧ s.tracker.sessionData = b.data ∧
      s.snapshot.sessionData = b.data ∧ a.Moves scenario s.now b s.recorded s.heard := by
  obtain ⟨a, hbefore⟩ := h.exists_session
  obtain ⟨b, hafter, hmoves⟩ := hstepped.exists_move hbefore
  rw [h.scenario_steps.1] at hmoves
  exact ⟨a, b, hbefore, hafter, hstepped.sessionData_snapshot.trans hafter, hmoves⟩

/-- The last snapshot of a run shows the session that the run leads to. -/
theorem Run.sessionData_last (h : Run scenario t run) {last : MadeStep}
    (hlast : run.getLast? = some last) : last.snapshot.sessionData = t.sessionData := by
  cases h with
  | start => exact absurd hlast.symm (Option.some_ne_none last)
  | step h hstep =>
    rw [List.getLast?_concat] at hlast
    obtain rfl := Option.some.inj hlast
    exact (stepped_of_yields hstep).sessionData_snapshot

/-- The steps at some moments for which a generator draws, up to the first that cannot be made. -/
def drawn (t : SimulatedTracker) (g : Generator) : List Instant → List MadeStep
  | [] => []
  | now :: moments =>
    match (t.step now).run g with
    | .ok (r, g) => { r with now := now } :: r.tracker.drawn g moments
    | .error _ => []

theorem Run.exists_append_drawn (h : Run scenario t run) (g : Generator) (moments : List Instant) :
    ∃ t', Run scenario t' (run ++ t.drawn g moments) := by
  induction moments generalizing t run g with
  | nil => exact ⟨t, by rw [drawn, List.append_nil]; exact h⟩
  | cons now moments ih =>
    have hyields := Plan.yields_run (t.step now) g
    rw [drawn]
    cases hrun : (t.step now).run g with
    | error e => exact ⟨t, by rw [List.append_nil]; exact h⟩
    | ok result =>
      rw [hrun] at hyields
      let s : MadeStep := { result.1 with now := now }
      have hstep : Run scenario s.tracker (run ++ [s]) := h.step hyields
      rw [List.append_cons]
      exact ih hstep result.2

/-- The steps for which a generator draws are a run. -/
theorem exists_run_drawn (scenario : Scenario) (g : Generator) (moments : List Instant) :
    ∃ t, Run scenario t ((new scenario).drawn g moments) :=
  Run.start.exists_append_drawn g moments

/-- A scenario in which everything that can happen does. -/
def eventful : Scenario where
  pingLossProbability := 1
  trackRequestProbability := 1
  trackCancelProbability := 1
  contactProbability := 1
  designatorCycleSteps := 2
  monitorFailureProbability := 1
  deviceFailureProbability := 1

/-- The moment from which instants are counted. -/
def epoch : Instant := ⟨0, 0, by decide, by decide, by decide, by decide⟩

end TrackerBoard.SimulatedTracker
