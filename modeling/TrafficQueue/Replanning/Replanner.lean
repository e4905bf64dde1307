import TrafficQueue.Agent.Execution
import TrafficQueue.Plan.LeastTime
import TrafficQueue.Replanning.Rule

/-!
# Replacing the rest of a route

A discontent agent that is en route is offered a route from its link to its destination.  If the
offer fits, the agent keeps the links that it has travelled and goes on with the offer.

Main results: `Replanner.isFitting_iff`, which offers fit, and `Replanner.replan_of_not_eligible`,
who is left alone.
-/

namespace TrafficQueue

/-- When a route is asked for, and for whom.  An agent is asked about once in a step, so until the
last moment of time no two queries of a run have the same occasion. -/
structure Occasion where
  now : Time
  agent : AgentId

/-- Offers a route from a link to a destination.  What is offered may differ from query to query,
even where the same links are asked for at the same time. -/
abbrev RouteProvider := LinkId → LinkId → Occasion → Option Route

/-- How content an agent is at a time; it is the more discontent the further this lies below zero.
By the agent and the time this too may differ from query to query. -/
abbrev Contentment := Agent → Time → Float

/-- Offers least-time routes. -/
def RouteProvider.leastTime (net : Network) : RouteProvider := fun current destination _ =>
  net.route? current destination

/-- Contentment that drops with the time since departure: from one, to zero after `patience`
seconds. -/
def Contentment.ofTravelTime (patience : Float) : Contentment := fun agent now =>
  1.0 - (now.since agent.departure).toFloat / patience

/-- Who gives other routes to discontent agents. -/
structure Replanner where
  rule : ReplanRule
  provider : RouteProvider
  contentment : Contentment
  /-- Routes replaced so far. -/
  replans : Nat := 0

/-- A replaced route: the replanner and the agent after it and the event that tells of it. -/
structure Replanned where
  replanner : Replanner
  agent : Agent
  event : Event

namespace Replanner

/-- Whether the agent may change its route now. -/
def isEligible (r : Replanner) (a : Agent) (now : Time) : Bool :=
  a.strategy.allowsReplanning && a.isEnRoute && a.destination?.any (· ≠ a.link) &&
    r.rule.isElapsed a.lastReplan now

/-- Whether an offer leads from the agent's link to the destination over links of the network. -/
def isFitting (net : Network) (a : Agent) (destination : LinkId) (offer : Route) : Bool :=
  offer.origin = a.link && offer.destination = destination && offer.full.all net.hasLink

/-- The offer for an agent on its way to a destination, if there is one that fits. -/
def offer? (r : Replanner) (a : Agent) (net : Network) (now : Time) : Option Route :=
  a.destination?.bind fun destination =>
    (r.provider a.link destination ⟨now, a.id⟩).filter (isFitting net a destination)

/-- Takes over an offer: the route of the current leg is kept up to the agent's link. -/
def commit (r : Replanner) (a : Agent) (offer : Route) (now : Time) :
    Except ReplanError Replanned := do
  let some old := a.route? | .error (.noCurrentRoute a.id)
  let route ← (old.splice a.routeIndex offer).mapError fun e => .plan a.id (.splice e)
  let plan ← (a.plan.withRoute a.element route).mapError fun e => .plan a.id e
  return { replanner := { r with replans := r.replans + 1 }
           agent := (a.adopt plan).markReplanned now
           event := a.event now (.replan route.full) }

/-- Replaces the rest of the agent's route if it is eligible, its need is large enough and there
is an offer that fits. -/
def replan (r : Replanner) (a : Agent) (net : Network) (now : Time) :
    Except ReplanError (Option Replanned) :=
  if r.isEligible a now && r.rule.isMet (ReplanRule.need (r.contentment a now)) then
    match r.offer? a net now with
    | some offer => (r.commit a offer now).map some
    | none => .ok none
  else .ok none

/-- An offer fits if it leads from the agent to its destination over links of the network. -/
theorem isFitting_iff {net : Network} {a : Agent} {destination : LinkId} {offer : Route} :
    isFitting net a destination offer = true ↔
      offer.origin = a.link ∧ offer.destination = destination ∧
        ∀ l ∈ offer.full, net.hasLink l = true := by
  simp [isFitting, and_assoc]

/-- Whoever is not eligible is left alone. -/
theorem replan_of_not_eligible {r : Replanner} {a : Agent} {now : Time}
    (h : r.isEligible a now = false) (net : Network) : r.replan a net now = .ok none := by
  simp [replan, h]

end Replanner

end TrafficQueue
