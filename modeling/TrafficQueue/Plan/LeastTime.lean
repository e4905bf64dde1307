import TrafficQueue.Network.Path
import TrafficQueue.Plan.Route

/-!
# Least-time routes

The route from link to link along a least-time path.

Main result: `Network.route?_eq_some_iff`, there is a route exactly when there is a path, and its
links in between are the links of the path.
-/

namespace TrafficQueue

/-- A least-time route that departs on link `a` and arrives on link `b`. -/
def Network.route? (net : Network) (a b : LinkId) : Option Route :=
  match net.path a b with
  | .ok p => some ⟨a, p.links, b⟩
  | .error _ => none

/-- A route between two links is a least-time path with its ends. -/
theorem Network.route?_eq_some_iff {net : Network} {a b : LinkId} {r : Route} :
    net.route? a b = some r ↔ ∃ p, net.path a b = .ok p ∧ r = ⟨a, p.links, b⟩ := by
  unfold route?
  cases net.path a b with
  | error e => simp
  | ok p => simp [eq_comm]

end TrafficQueue
