import TrafficQueue.Network.Basic
import TrafficQueue.Plan.Basic

/-!
# Scores of plans

A score compares plans for those who look at them; nothing in a run depends on it.
-/

namespace TrafficQueue

/-- A way to score plans. -/
abbrev PlanScore := Plan → Float

namespace PlanScore

/-- All plans are alike. -/
def none : PlanScore := fun _ => 0

/-- The links that the routes of a plan travel, without the ones where they start. -/
def travelled (p : Plan) : List LinkId :=
  (p.legs.filterMap Leg.route).flatMap fun r =>
    if r.isSameLink then [] else r.via ++ [r.destination]

/-- The metres of all travelled links of the network, negated: shorter plans score higher. -/
def length (net : Network) : PlanScore := fun p =>
  let lengths := (travelled p).filterMap fun l => (net.link? l).map Link.length
  let metres := lengths.foldl (· + ·) (-0.0)
  metres.neg

end PlanScore

end TrafficQueue
