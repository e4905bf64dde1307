import TrafficQueue.Agent.State
import TrafficQueue.Population
import TrafficQueue.Queue.Link
import TrafficQueue.Text.Quoted

/-!
# Agents

An agent carries out the plan of a person: it knows its place in the plan, the link that it is on
and how far it has come on the route of the current leg.

Main result: `Population.agents_getElem?`, the agents of a population are numbered as its persons
are.
-/

namespace TrafficQueue

/-- What an agent keeps from its last choice.  Both parts follow from the plan and the position. -/
structure ChoiceMemo where
  /-- The link chosen next. -/
  next : Option LinkId := none
  /-- The links between departure and arrival of the current leg. -/
  via : Option (List LinkId) := none
deriving DecidableEq

/-- Who carries out a plan: the plan, the place in it and on the network, and what is kept between
the steps. -/
structure Agent where
  id : AgentId
  person : String
  plan : Plan
  strategy : Strategy
  state : AgentState := .atActivity
  /-- Position of the current element of the plan. -/
  element : Nat := 0
  link : LinkId
  /-- When the current activity ends. -/
  departure : Time := .never
  /-- Links entered so far on the current leg. -/
  routeIndex : Nat := 0
  lastReplan : Time := .zero
  memo : ChoiceMemo := {}

namespace Agent

/-- A new agent on the link of the first activity of the plan. -/
def ofPerson (strategy : AgentId → Person → Strategy) (id : AgentId) (person : Person) : Agent :=
  { id
    person := person.name
    plan := person.plan
    strategy := strategy id person
    link := ((person.plan.activity? 0).map Activity.link).getD .unassigned }

/-- Every agent drives the vehicle of its own number. -/
def vehicle (a : Agent) : Vehicle := ⟨a.id.vehicle, a.id⟩

/-- The leg that the agent is on. -/
def leg? (a : Agent) : Option Leg := a.plan.leg? a.element

/-- The route of the current leg. -/
def route? (a : Agent) : Option Route := a.leg?.bind Leg.route

/-- The link where the current leg ends. -/
def destination? (a : Agent) : Option LinkId := a.route?.map Route.destination

/-- Whether the agent's vehicle is on a link. -/
def isEnRoute (a : Agent) : Bool := a.state = .enRoute

/-- An event that happens to the agent on its link. -/
def event (a : Agent) (now : Time) (kind : EventKind) : Event := ⟨now, a.id, a.link, kind⟩

/-- The agent in short. -/
def summary (a : Agent) : String :=
  "Agent \x7b id: " ++ a.id.text ++ ", person: " ++ Text.quote a.person ++ ", state: " ++
    a.state.text ++ ", element: " ++ toString a.element ++ ", link: " ++ a.link.text ++ " \x7d"

end Agent

/-- One agent for each person, in their order. -/
def Population.agents (p : Population) (strategy : AgentId → Person → Strategy) : Array Agent :=
  (p.numbered.map fun entry => Agent.ofPerson strategy entry.1 entry.2).toArray

/-- The agents are the persons, numbered in their order. -/
theorem Population.agents_getElem? (p : Population) (strategy : AgentId → Person → Strategy)
    (i : Nat) :
    (p.agents strategy)[i]? = p.persons[i]?.map (Agent.ofPerson strategy ⟨i⟩) := by
  simp only [agents, numbered, List.getElem?_toArray, List.getElem?_map, List.getElem?_zipIdx,
    Nat.zero_add, Array.getElem?_toList, Option.map_map]
  rfl

end TrafficQueue
