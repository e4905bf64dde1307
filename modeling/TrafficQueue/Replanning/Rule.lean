import TrafficQueue.Config.Basic
import TrafficQueue.Decimal.Shortest
import TrafficQueue.Plan.Basic

/-!
# When an agent may change its route

A rule has two parts: the least time between two route changes of an agent, and the need at which an
agent changes its route.  The need is the opposite of the agent's contentment, from zero to one.

Main result: `ReplanRule.make_isOk_iff`, which thresholds are accepted.
-/

namespace TrafficQueue

/-- What can go wrong when routes are changed. -/
inductive ReplanError where
  | invalidThreshold (threshold : Float)
  | noCurrentRoute (agent : AgentId)
  | plan (agent : AgentId) (e : PlanError)

/-- What is told of a refused change. -/
def ReplanError.message : ReplanError → String
  | .invalidThreshold threshold =>
    "replanning threshold must lie in [0, 1], got " ++ Decimal.text threshold
  | .noCurrentRoute agent => "agent " ++ agent.text ++ " has no route on its current leg"
  | .plan agent e => "cannot rebuild plan of agent " ++ agent.text ++ ": " ++ e.message

/-- When an agent may be given another route, and how large its need has to be. -/
structure ReplanRule where
  /-- Least number of seconds between two route changes of an agent. -/
  interval : Nat := 0
  /-- Need at which an agent changes its route. -/
  threshold : Float := 0.5

namespace ReplanRule

/-- The rule with an interval and a threshold from zero to one. -/
def make (interval : Nat) (threshold : Float) : Except ReplanError ReplanRule :=
  if isUnitFraction threshold then .ok ⟨interval, threshold⟩
  else .error (.invalidThreshold threshold)

/-- The rule of a configuration. -/
def ofConfig (c : Config) : ReplanRule := ⟨c.replanningInterval.toNat, c.replanningThreshold⟩

/-- Whether enough time has passed since the last route change. -/
def isElapsed (r : ReplanRule) (last now : Time) : Bool := last.offset r.interval ≤ now

/-- How much an agent of the given contentment needs another route. -/
def need (contentment : Float) : Float :=
  let wish := contentment.neg
  if wish < 0 then 0 else if 1 < wish then 1 else wish

/-- Whether a need is large enough; not-a-number never is. -/
def isMet (r : ReplanRule) (need : Float) : Bool := r.threshold ≤ need

/-- A threshold has to lie between zero and one. -/
theorem make_isOk_iff {interval : Nat} {threshold : Float} :
    (make interval threshold).isOk = true ↔ isUnitFraction threshold = true := by
  unfold make
  split
  · rename_i h
    simp [h, Except.isOk, Except.toBool]
  · rename_i h
    simp [h, Except.isOk, Except.toBool]

end ReplanRule

end TrafficQueue
