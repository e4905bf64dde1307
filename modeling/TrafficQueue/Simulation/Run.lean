import TrafficQueue.Event.Bus
import TrafficQueue.Simulation.Basic

/-!
# Runs with listeners

A run is a simulation together with those who listen: handlers get the events twice in each step,
before and after agents change their routes, and an observer is called around the steps.  Handlers
and observer share a state of their own type and cannot change the simulation.

Main results: `Run.finish_finish`, a run finishes once, and `Run.simulation_advance`, listeners do
not influence the simulation.
-/

namespace TrafficQueue

/-- What to do around the steps of a run. -/
structure Observer (σ : Type) where
  onStepStart : Time → σ → σ := fun _ => id
  onStepEnd : Time → Statistics → σ → σ := fun _ _ => id
  /-- Called after the steps whose number is a multiple of the output interval. -/
  onSnapshot : Time → Statistics → σ → σ := fun _ _ => id
  /-- Called once, when the run is over. -/
  onEnd : Time → Statistics → σ → σ := fun _ _ => id

/-- Two observers, one after the other. -/
def Observer.andThen {σ : Type} (first second : Observer σ) : Observer σ where
  onStepStart now := second.onStepStart now ∘ first.onStepStart now
  onStepEnd now stats := second.onStepEnd now stats ∘ first.onStepEnd now stats
  onSnapshot now stats := second.onSnapshot now stats ∘ first.onSnapshot now stats
  onEnd now stats := second.onEnd now stats ∘ first.onEnd now stats

/-- A simulation and those who listen to it. -/
structure Run (σ : Type) where
  simulation : Simulation
  bus : EventBus σ
  observer : Observer σ
  listeners : σ
  isFinished : Bool := false

namespace Run

variable {σ : Type}

/-- A run before its first step; no more handlers can be registered. -/
def start (simulation : Simulation) (handlers : List (Handler σ)) (observer : Observer σ)
    (listeners : σ) : Run σ :=
  { simulation, bus := { handlers, isSealed := true }, observer, listeners }

/-- Whether a snapshot is due after the step that the clock shows. -/
def snapshotDue (c : Config) (clock : Clock) : Bool :=
  0 < c.outputInterval.toNat && clock.steps % c.outputInterval.toNat = 0

/-- Tells the observer about a step that is over. -/
def observeStep (o : Observer σ) (c : Config) (before : Clock) (stats : Statistics) (x : σ) : σ :=
  let x := o.onStepEnd before.now stats x
  if snapshotDue c before then o.onSnapshot before.now stats x else x

/-- One step.  Events are dispatched when all links have had their turns, and those that come after
them at the end. -/
def advance : Run σ → Except SimulationError (Run σ)
  | ⟨simulation, bus, observer, listeners, isFinished⟩ =>
    let before := simulation.clock
    let listeners := observer.onStepStart before.now listeners
    match simulation.serveLinks with
    | .error e => .error e
    | .ok served =>
      let (bus, listeners) := (bus.emitAll served.events).flush listeners
      match served.changeRoutes with
      | .error e => .error e
      | .ok simulation =>
        let others := simulation.events.drop served.events.length
        let (bus, listeners) := (bus.emitAll others).flush listeners
        let listeners := observeStep observer simulation.config before simulation.stats listeners
        .ok ⟨simulation, bus, observer, listeners, isFinished⟩

/-- So many steps. -/
def advanceBy : Nat → Run σ → Except SimulationError (Run σ)
  | 0, r => .ok r
  | n + 1, r =>
    match r.advance with
    | .error e => .error e
    | .ok r => advanceBy n r

/-- Lets the handlers finish and tells the observer that the run is over, unless that has happened
before. -/
def finish (r : Run σ) : Run σ :=
  if r.isFinished then r
  else
    let (bus, listeners) := r.bus.finish r.listeners
    { r with
      bus
      listeners := r.observer.onEnd r.simulation.now r.simulation.stats listeners
      isFinished := true }

/-- Steps as long as the run goes on, so many at most. -/
def advanceWhile : Nat → Run σ → Except SimulationError (Run σ)
  | 0, r => .ok r
  | n + 1, r =>
    if r.simulation.goesOn then
      match r.advance with
      | .error e => .error e
      | .ok r => advanceWhile n r
    else .ok r

/-- Steps to the end of the run and finishes it.  Every step takes a second at least, so no more
steps fit than seconds are left. -/
def complete (r : Run σ) : Except SimulationError (Run σ) :=
  (r.advanceWhile (r.simulation.config.endTime.since r.simulation.now)).map finish

/-- A run finishes once. -/
theorem finish_finish (r : Run σ) : r.finish.finish = r.finish := by
  unfold finish
  split
  · rfl
  · rfl

@[simp] theorem simulation_finish (r : Run σ) : r.finish.simulation = r.simulation := by
  unfold finish
  split <;> rfl

/-- The simulation of a run goes its way whoever listens. -/
theorem simulation_advance (r : Run σ) :
    r.advance.map Run.simulation = r.simulation.step := by
  obtain ⟨simulation, bus, observer, listeners, isFinished⟩ := r
  simp only [advance, Simulation.step_eq_bind]
  cases simulation.serveLinks with
  | error e => rfl
  | ok served =>
    simp only [Except.bind]
    cases served.changeRoutes <;> rfl

end Run

end TrafficQueue
