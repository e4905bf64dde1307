import TrafficQueue.EndQueue
import TrafficQueue.Replanning.Replanner
import TrafficQueue.Simulation.Statistics

/-!
# Traffic

Agents, link queues and the agents that wait for the end of their activity, and what one step does
to them: activities end, the queues are updated, due vehicles cross the nodes, and discontent
agents change their routes.

Main definitions: `Traffic.afterNodes`, a step up to its first dispatch of events, and
`Traffic.step`.
-/

namespace TrafficQueue

/-- What can stop a simulation. -/
inductive SimulationError where
  | config (e : ConfigError)
  | population (e : PlanError)
  | queue (e : QueueError)
  | agent (e : AgentError)
  | replanning (e : ReplanError)
  /-- A vehicle on the network has a driver who is not among the agents. -/
  | unknownAgent (a : AgentId)
  /-- An agent is on a link, or asks for one, that is not in the network. -/
  | offNetwork (a : AgentId)

/-- What is told of an error. -/
def SimulationError.message : SimulationError → String
  | .config e => "invalid configuration: " ++ e.message
  | .population e => "invalid population: " ++ e.message
  | .queue e => "queue model: " ++ e.message
  | .agent e => e.message
  | .replanning e => "within-day replanning: " ++ e.message
  | .unknownAgent a => "vehicle of unknown agent " ++ a.text ++ " on the network"
  | .offNetwork a => "agent " ++ a.text ++ " is off the network"

/-- All that moves, and what has been counted of it. -/
structure Traffic where
  agents : Array Agent
  queues : QueueNetwork Float
  endQueue : EndQueue := {}
  /-- Who offers other routes; without it no route is replaced. -/
  replanner : Option Replanner := none
  stats : Statistics := {}
  /-- The events of the last step, in the order in which they were emitted. -/
  emitted : Array Event := #[]

namespace Traffic

/-- The agent with a number. -/
def agent? (t : Traffic) (a : AgentId) : Option Agent := t.agents[a.index]?

/-- Schedules or counts out an agent after a transition. -/
def settle (a : AgentId) (transition : Transition) (t : Traffic) : Traffic :=
  match transition with
  | .scheduled time => { t with endQueue := (t.endQueue.push time a).2 }
  | .completed | .stuck _ => { t with stats := t.stats.settle transition }
  | .resting | .enRoute => t

/-! ## Ending activities -/

/-- The activity of an agent ends. -/
def endActivity (now : Time) : Traffic → AgentId → Except SimulationError Traffic
  | ⟨agents, queues, endQueue, replanner, stats, emitted⟩, id =>
    match agents[id.index]? with
    | none => .error (.unknownAgent id)
    | some a =>
      match a.endActivity now queues with
      | (⟨_, _, .error e⟩, _) => .error (.agent e)
      | (⟨a, events, .ok transition⟩, queues) =>
        .ok (settle id transition
          ⟨agents.setIfInBounds id.index a, queues, endQueue, replanner, stats.depart transition,
            emitted ++ events⟩)

/-- All activities end that are due. -/
def endActivities (t : Traffic) (now : Time) : Except SimulationError Traffic :=
  let (due, endQueue) := t.endQueue.drain now
  due.foldlM (endActivity now) { t with endQueue }

/-! ## Crossing nodes -/

/-- The head of a link moves on to the next link if it is released. -/
def moveHead (now : Time) (l next : LinkId) (a : Agent) :
    Traffic → Except SimulationError (Bool × Traffic)
  | ⟨agents, queues, endQueue, replanner, stats, emitted⟩ =>
    match queues.release l now (.link next) with
    | .error e => .error (.queue e)
    | .ok (none, queues) =>
      .ok (false,
        ⟨agents.setIfInBounds a.id.index a, queues, endQueue, replanner, stats, emitted⟩)
    | .ok (some _, queues) =>
      match a.crossNode next now queues with
      | (⟨_, _, .error e⟩, _) => .error (.agent e)
      | (⟨a, events, .ok ()⟩, queues) =>
        .ok (true,
          ⟨agents.setIfInBounds a.id.index a, queues, endQueue, replanner, stats,
            emitted ++ events⟩)

/-- The head of a link arrives at its destination if it is released. -/
def arriveHead (now : Time) (l : LinkId) (a : Agent) :
    Traffic → Except SimulationError (Bool × Traffic)
  | ⟨agents, queues, endQueue, replanner, stats, emitted⟩ =>
    match queues.release l now .exit with
    | .error e => .error (.queue e)
    | .ok (none, queues) =>
      .ok (false,
        ⟨agents.setIfInBounds a.id.index a, queues, endQueue, replanner, stats, emitted⟩)
    | .ok (some _, queues) =>
      match a.arrive now with
      | ⟨_, _, .error e⟩ => .error (.agent e)
      | ⟨a, events, .ok transition⟩ =>
        .ok (true, settle a.id transition
          ⟨agents.setIfInBounds a.id.index a, queues, endQueue, replanner,
            stats.arrive transition, emitted ++ events⟩)

/-- The head of a link is taken out of the simulation. -/
def removeHead (now : Time) (l : LinkId) (a : Agent) (reason : StuckReason) :
    Traffic → Except SimulationError (Bool × Traffic)
  | ⟨agents, queues, endQueue, replanner, stats, emitted⟩ =>
    match queues.evict l with
    | .error e => .error (.queue e)
    | .ok (_, queues) =>
      let effect := a.remove reason now
      .ok (true, settle a.id effect.answer
        ⟨agents.setIfInBounds a.id.index effect.agent, queues, endQueue, replanner, stats,
          emitted ++ effect.events⟩)

/-- Whether the head of a link may leave as far as its exit time is concerned. -/
def isDue (t : Traffic) (now : Time) (l : LinkId) : Bool :=
  (t.queues.head? l).any fun head => head.earliestExit ≤ now

/-- The head of a link gets its turn if it is due; the answer says whether it left the link. -/
def serveHead (net : Network) (now : Time) (l : LinkId) (t : Traffic) :
    Except SimulationError (Bool × Traffic) :=
  match t.queues.head? l with
  | none => .ok (false, t)
  | some head =>
    if head.earliestExit ≤ now then
      match t.agent? head.vehicle.driver with
      | none => .error (.unknownAgent head.vehicle.driver)
      | some a =>
        match a.chooseNext net with
        | none => .error (.offNetwork a.id)
        | some (.link next, a) => t.moveHead now l next a
        | some (.arrive, a) => t.arriveHead now l a
        | some (.stuck reason, a) => t.removeHead now l a reason
    else .ok (false, t)

/-- Serves heads of a link one after the other, so many at most, until one stays. -/
def serveHeads (net : Network) (now : Time) (l : LinkId) :
    Nat → Traffic → Except SimulationError Traffic
  | 0, t => .ok t
  | turns + 1, t =>
    match t.serveHead net now l with
    | .error e => .error e
    | .ok (false, t) => .ok t
    | .ok (true, t) => serveHeads net now l turns t

/-- The turns that a vehicle can take on one link within a step, whatever its route is. -/
def turnsOf (t : Traffic) (v : Vehicle) : Nat :=
  ((t.agent? v.driver).bind Agent.route?).elim 1 fun route => route.via.length + 2

/-- As many turns as the heads of a link can take in a step.  A vehicle that comes back onto the
link is not due again in the same step, except at the end of time, where every exit is due; then
the lengths of the routes are a bound. -/
def turns (t : Traffic) (now : Time) (l : LinkId) : Nat :=
  let vehicles := ((t.queues.link? l).map LinkQueue.vehicles).getD []
  if now = .never then vehicles.foldr (fun v sum => t.turnsOf v + sum) 0 else vehicles.length

/-- Serves the heads of a link as long as they are due and leave. -/
def serveLink (net : Network) (now : Time) (t : Traffic) (l : LinkId) :
    Except SimulationError Traffic :=
  if t.isDue now l then t.serveHeads net now l (t.turns now l) else .ok t

/-- Serves the links into all nodes, node by node. -/
def crossNodes (t : Traffic) (net : Network) (now : Time) : Except SimulationError Traffic :=
  net.nodeIds.foldlM (fun t n => ((net.entering n).getD []).foldlM (serveLink net now) t) t

/-! ## Replanning -/

/-- An agent gets another route if the replanner gives one. -/
def replanAgent (net : Network) (now : Time) : Traffic → Agent → Except SimulationError Traffic
  | ⟨agents, queues, endQueue, some r, stats, emitted⟩, a =>
    match r.replan a net now with
    | .error e => .error (.replanning e)
    | .ok none => .ok ⟨agents, queues, endQueue, some r, stats, emitted⟩
    | .ok (some done) =>
      .ok ⟨agents.setIfInBounds a.id.index done.agent, queues, endQueue, some done.replanner,
        { stats with replans := stats.replans + 1 }, emitted.push done.event⟩
  | t, _ => .ok t

/-- All agents get their chance for another route, in the order of their numbers. -/
def replanAgents (t : Traffic) (net : Network) (now : Time) : Except SimulationError Traffic :=
  if t.replanner.isNone then .ok t else t.agents.foldlM (replanAgent net now) t

/-! ## One step -/

/-- Forgets the events of the step before. -/
def clearEvents (t : Traffic) : Traffic := { t with emitted := #[] }

/-- The start of a step on every link. -/
def updateLinks : Traffic → Time → Traffic
  | ⟨agents, queues, endQueue, replanner, stats, emitted⟩, now =>
    ⟨agents, queues.update now, endQueue, replanner, stats, emitted⟩

/-- Counts the step and what it left. -/
def countStep (t : Traffic) : Traffic :=
  { t with
    stats :=
      { t.stats with
        steps := t.stats.steps + 1
        events := t.stats.events + t.emitted.size
        inTraffic := t.queues.traffic } }

/-- The traffic when all links have had their turns in a step. -/
def afterNodes (t : Traffic) (net : Network) (now : Time) : Except SimulationError Traffic := do
  let t ← t.clearEvents.endActivities now
  (t.updateLinks now).crossNodes net now

/-- What happens in a step at the given time. -/
def step (t : Traffic) (net : Network) (now : Time) : Except SimulationError Traffic := do
  let t ← t.afterNodes net now
  let t ← t.replanAgents net now
  return t.countStep

/-- After the turns of the links a step goes on with replanning and counting. -/
theorem step_eq (t : Traffic) (net : Network) (now : Time) :
    t.step net now =
      (t.afterNodes net now).bind fun u => (u.replanAgents net now).map countStep := by
  unfold step
  simp only [bind, Except.bind, pure, Except.pure]
  cases t.afterNodes net now with
  | error e => rfl
  | ok served =>
    simp only []
    cases served.replanAgents net now <;> rfl

end Traffic

end TrafficQueue
