import TrafficQueue.Simulation.Traffic

/-!
# Simulations

A simulation is traffic on a network under a configuration, with a clock.  It is built from a
population whose plans fit the network.

Main definitions: `Simulation.build`, `Simulation.step` and `Simulation.history`, the simulation
after any number of steps.  Main results: `Simulation.step_eq_bind`, the two parts of a step, and
`Simulation.clock_history`, the clock after any number of steps.
-/

namespace TrafficQueue

/-- Traffic on a network under a configuration, at a time. -/
structure Simulation where
  config : Config
  network : Network
  clock : Clock
  traffic : Traffic

namespace Simulation

/-- An agent finds out when its first activity ends; if it has somewhere to go, it lives. -/
def enter (start : Time) (t : Traffic) (a : Agent) : Traffic :=
  match a.schedule start with
  | (.scheduled time, a) =>
    { t with
      agents := t.agents.push a
      endQueue := (t.endQueue.push time a.id).2
      stats := { t.stats with living := t.stats.living + 1 } }
  | (_, a) => { t with agents := t.agents.push a }

/-- The traffic before the first step. -/
def initialTraffic (c : Config) (net : Network) (agents : Array Agent)
    (replanner : Option Replanner) : Traffic :=
  agents.foldl (enter c.startTime) { agents := #[], queues := .ofNetwork net c, replanner }

/-- Without a choice of strategies, all agents may replan if there is a replanner. -/
def defaultStrategy (replanner : Option Replanner) : AgentId → Person → Strategy := fun _ _ =>
  if replanner.isSome then .withinDay else .followRoute

/-- The simulation of a population, if the configuration is sound and all plans fit. -/
def build (c : Config) (net : Network) (people : Population) (replanner : Option Replanner)
    (strategy : Option (AgentId → Person → Strategy)) : Except SimulationError Simulation := do
  c.validate.mapError .config
  (people.validate net).mapError .population
  let agents := people.agents (strategy.getD (defaultStrategy replanner))
  return ⟨c, net, c.clock, initialTraffic c net agents replanner⟩

/-- What time it is. -/
def now (s : Simulation) : Time := s.clock.now

/-- The counts so far. -/
def stats (s : Simulation) : Statistics := s.traffic.stats

/-- Nobody is left who will do anything. -/
def isFinished (s : Simulation) : Bool := s.stats.living = 0 && s.traffic.endQueue.isEmpty

/-- Whether the run goes on: there is time left and somebody to simulate. -/
def goesOn (s : Simulation) : Bool := s.now < s.config.endTime && !s.isFinished

/-- One step, after which the clock has advanced. -/
def step : Simulation → Except SimulationError Simulation
  | ⟨config, network, clock, traffic⟩ =>
    match traffic.step network clock.now with
    | .error e => .error e
    | .ok traffic => .ok ⟨config, network, clock.advance, traffic⟩

/-- The first part of a step: activities end and all links have their turns. -/
def serveLinks : Simulation → Except SimulationError Simulation
  | ⟨config, network, clock, traffic⟩ =>
    match traffic.afterNodes network clock.now with
    | .error e => .error e
    | .ok traffic => .ok ⟨config, network, clock, traffic⟩

/-- The second part of a step: agents change their routes, and the clock advances. -/
def changeRoutes : Simulation → Except SimulationError Simulation
  | ⟨config, network, clock, traffic⟩ =>
    match traffic.replanAgents network clock.now with
    | .error e => .error e
    | .ok traffic => .ok ⟨config, network, clock.advance, traffic.countStep⟩

/-- A step has two parts, one after the other. -/
theorem step_eq_bind (s : Simulation) : s.step = s.serveLinks.bind changeRoutes := by
  obtain ⟨config, network, clock, traffic⟩ := s
  simp only [step, serveLinks, Traffic.step_eq]
  cases traffic.afterNodes network clock.now with
  | error e => rfl
  | ok served =>
    simp only [Except.bind, changeRoutes]
    cases served.replanAgents network clock.now <;> rfl

/-- The events of the last step. -/
def events (s : Simulation) : List Event := s.traffic.emitted.toList

/-- The simulation after so many steps. -/
def history (s : Simulation) : Nat → Except SimulationError Simulation
  | 0 => .ok s
  | n + 1 => (s.history n).bind step

/-- A step moves the clock on, and keeps the configuration and the network. -/
theorem clock_step {s t : Simulation} (h : s.step = .ok t) :
    t.clock = s.clock.advance ∧ t.config = s.config ∧ t.network = s.network := by
  obtain ⟨config, network, clock, traffic⟩ := s
  simp only [step] at h
  cases hstep : traffic.step network clock.now with
  | error e =>
    rw [hstep] at h
    cases h
  | ok after =>
    rw [hstep] at h
    cases h
    exact ⟨rfl, rfl, rfl⟩

/-- Steps move the clock on, one after the other, and keep the configuration and the network. -/
theorem clock_history {s t : Simulation} {n : Nat} (h : s.history n = .ok t) :
    t.clock = s.clock.advanceBy n ∧ t.config = s.config ∧ t.network = s.network := by
  induction n generalizing t with
  | zero =>
    cases h
    exact ⟨rfl, rfl, rfl⟩
  | succ n ih =>
    cases hn : s.history n with
    | error e =>
      rw [history, hn] at h
      cases h
    | ok m =>
      rw [history, hn] at h
      obtain ⟨h₁, h₂, h₃⟩ := clock_step h
      obtain ⟨i₁, i₂, i₃⟩ := ih hn
      exact ⟨by rw [h₁, i₁, Clock.advanceBy_succ], h₂.trans i₂, h₃.trans i₃⟩

end Simulation

end TrafficQueue
