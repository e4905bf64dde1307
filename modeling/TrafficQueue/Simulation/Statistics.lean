import TrafficQueue.Agent.State

/-!
# Counting what happens

The counts of a run: how many agents are in it, how many left it and why, and how much happened.

Main result: `Statistics.living_settle`, who leaves the simulation is counted out of the living.
-/

namespace TrafficQueue

/-- Agents lost, by reason. -/
structure Losses where
  missingRoute : Nat := 0
  inconsistentDestination : Nat := 0
  routeOverrun : Nat := 0
deriving DecidableEq

namespace Losses

/-- How many agents were lost for a reason. -/
def because (l : Losses) : StuckReason → Nat
  | .missingRoute => l.missingRoute
  | .inconsistentDestination => l.inconsistentDestination
  | .routeOverrun => l.routeOverrun

/-- One more loss. -/
def add (l : Losses) : StuckReason → Losses
  | .missingRoute => { l with missingRoute := l.missingRoute + 1 }
  | .inconsistentDestination => { l with inconsistentDestination := l.inconsistentDestination + 1 }
  | .routeOverrun => { l with routeOverrun := l.routeOverrun + 1 }

/-- All losses together. -/
def total (l : Losses) : Nat := StuckReason.all.foldr (fun r sum => l.because r + sum) 0

@[simp] theorem because_add_self (l : Losses) (r : StuckReason) :
    (l.add r).because r = l.because r + 1 := by
  cases r <;> rfl

/-- A loss counts for its own reason only. -/
theorem because_add_of_ne (l : Losses) {r s : StuckReason} (h : r ≠ s) :
    (l.add r).because s = l.because s := by
  cases r <;> cases s <;> first | rfl | exact absurd rfl h

@[simp] theorem total_add (l : Losses) (r : StuckReason) : (l.add r).total = l.total + 1 := by
  cases r <;> simp [total, add, because, StuckReason.all] <;> omega

end Losses

/-- What is counted in a simulation. -/
structure Statistics where
  steps : Nat := 0
  /-- Agents that have not left the simulation. -/
  living : Nat := 0
  lost : Nat := 0
  lostBecause : Losses := {}
  completed : Nat := 0
  departures : Nat := 0
  arrivals : Nat := 0
  replans : Nat := 0
  /-- Events dispatched. -/
  events : Nat := 0
  /-- Vehicles in link queues and waiting beside them. -/
  inTraffic : Nat := 0
deriving DecidableEq

namespace Statistics

/-- Counts who leaves the simulation by a transition. -/
def settle (s : Statistics) : Transition → Statistics
  | .completed => { s with living := s.living - 1, completed := s.completed + 1 }
  | .stuck reason =>
    { s with living := s.living - 1, lost := s.lost + 1, lostBecause := s.lostBecause.add reason }
  | .scheduled _ | .resting | .enRoute => s

/-- Counts the end of an activity.  A leg that stays on its link departs and arrives at once. -/
def depart (s : Statistics) : Transition → Statistics
  | .stuck _ => s
  | .enRoute => { s with departures := s.departures + 1 }
  | .scheduled _ | .resting | .completed =>
    { s with departures := s.departures + 1, arrivals := s.arrivals + 1 }

/-- Counts the end of a leg on the road. -/
def arrive (s : Statistics) : Transition → Statistics
  | .stuck _ => s
  | .scheduled _ | .resting | .enRoute | .completed => { s with arrivals := s.arrivals + 1 }

/-- Who is through with the day or stuck is not counted among the living any more. -/
theorem living_settle (s : Statistics) (t : Transition) :
    (s.settle t).living =
      match t with
      | .completed | .stuck _ => s.living - 1
      | _ => s.living := by
  cases t <;> rfl

end Statistics

end TrafficQueue
