import TrafficQueue.Config.Basic
import TrafficQueue.Decimal.Whole
import TrafficQueue.Geometry.Point
import TrafficQueue.Ident

/-!
# Nodes and links

A link is described by its ends and dimensions; flow and storage capacity may be given or follow
from the dimensions.

Main results: `Link.one_le_freeFlow` and `Link.freeFlow_lt`, the free-flow time of any link is at
least a second and fits the range of times.
-/

namespace TrafficQueue

/-- A place where links meet. -/
structure Node where
  name : String
  position : Point
deriving Inhabited

/-- A directed link as it is described. -/
structure LinkSpec where
  name : String
  source : NodeId
  target : NodeId
  /-- Metres. -/
  length : Float
  /-- Metres per second in free flow. -/
  speed : Float
  lanes : Float := 1
  /-- Vehicles per second, if not derived from the lanes. -/
  flow : Option Float := none
  /-- Vehicles, if not derived from length and lanes. -/
  storage : Option Nat := none

/-- A directed link of a network, with all capacities settled. -/
structure Link where
  name : String
  source : NodeId
  target : NodeId
  length : Float
  speed : Float
  lanes : Float
  flow : Float
  storage : Nat

/-- What is wrong with a link. -/
inductive LinkFlaw where
  | length | speed | lanes | flow | storage
deriving DecidableEq

/-- What is wrong with a link, in words. -/
def LinkFlaw.reason : LinkFlaw → String
  | .length => "length must be positive"
  | .speed => "free speed must be positive"
  | .lanes => "lane count must be positive"
  | .flow => "flow capacity must be positive"
  | .storage => "storage capacity must be at least one vehicle"

/-- What can go wrong with a network or a query to it. -/
inductive NetworkError where
  | missingNode (link : String) (node : NodeId)
  | flawedLink (link : String) (flaw : LinkFlaw)
  | duplicateName (name : String)
  | unknownLink (link : LinkId)
  | noPath (origin destination : LinkId)
  | undefinedMidpoint (link : String)
  | undefinedDistance (link : LinkId)
deriving DecidableEq

/-- What is told of an error. -/
def NetworkError.message : NetworkError → String
  | .missingNode link node => "link `" ++ link ++ "` references missing node " ++ node.text
  | .flawedLink link flaw => "link `" ++ link ++ "`: " ++ flaw.reason
  | .duplicateName name => "duplicate external id `" ++ name ++ "`"
  | .unknownLink link => "link " ++ link.text ++ " not found in network"
  | .noPath origin destination => "no path from " ++ origin.text ++ " to " ++ destination.text
  | .undefinedMidpoint link => "link `" ++ link ++ "` has no midpoint"
  | .undefinedDistance link => "distance to " ++ link.text ++ " is not a number"

namespace LinkSpec

/-- Metres of a lane that a standing vehicle takes up. -/
def cellLength : Float := 7.5

/-- Vehicles per hour that a lane lets through unless said otherwise. -/
def lanePerHour : Float := 1800

/-- A flow given in vehicles per hour, in vehicles per second. -/
def perSecond (perHour : Float) : Float := perHour / 3600

/-- The flow capacity: as given, or from the lanes. -/
def settledFlow (s : LinkSpec) : Float :=
  s.flow.getD (perSecond (s.lanes * lanePerHour))

/-- The storage capacity: as given, or the vehicles that fit, at least one. -/
def settledStorage (s : LinkSpec) : Nat :=
  s.storage.getD (max (Decimal.ceil32 (s.length * s.lanes / cellLength)) 1)

/-- The link with its capacities settled. -/
def settle (s : LinkSpec) : Link :=
  { name := s.name, source := s.source, target := s.target, length := s.length, speed := s.speed
    lanes := s.lanes, flow := s.settledFlow, storage := s.settledStorage }

/-- Whether the link has the flaw. -/
def has (s : LinkSpec) : LinkFlaw → Bool
  | .length => !isPositiveNumber s.length
  | .speed => !isPositiveNumber s.speed
  | .lanes => !isPositiveNumber s.lanes
  | .flow => !isPositiveNumber s.settledFlow
  | .storage => s.settledStorage = 0

/-- The flaws in the order in which they are looked for. -/
def flaws : List LinkFlaw := [.length, .speed, .lanes, .flow, .storage]

/-- Accepts a link between two of `nodeCount` nodes, or names its first problem. -/
def check (s : LinkSpec) (nodeCount : Nat) : Except NetworkError Unit :=
  if nodeCount ≤ s.source.index then .error (.missingNode s.name s.source)
  else if nodeCount ≤ s.target.index then .error (.missingNode s.name s.target)
  else
    match flaws.find? s.has with
    | some flaw => .error (.flawedLink s.name flaw)
    | none => .ok ()

/-- The list has all flaws. -/
theorem mem_flaws (flaw : LinkFlaw) : flaw ∈ flaws := by
  cases flaw <;> decide

/-- A link passes if it leads between nodes and none of its numbers is out of order. -/
theorem check_eq_ok_iff {s : LinkSpec} {n : Nat} :
    s.check n = .ok () ↔ s.source.index < n ∧ s.target.index < n ∧ ∀ flaw, s.has flaw = false := by
  unfold check
  by_cases hs : n ≤ s.source.index
  · simp only [hs, if_true]
    exact ⟨fun h => (by cases h), fun h => absurd h.1 (by omega)⟩
  by_cases ht : n ≤ s.target.index
  · simp only [hs, ht, if_true, if_false]
    exact ⟨fun h => (by cases h), fun h => absurd h.2.1 (by omega)⟩
  simp only [hs, ht, if_false]
  cases hfind : flaws.find? s.has with
  | some flaw =>
    refine ⟨fun h => (by cases h), fun h => ?_⟩
    have := List.find?_some hfind
    rw [h.2.2 flaw] at this
    cases this
  | none =>
    refine ⟨fun _ => ⟨by omega, by omega, fun flaw => ?_⟩, fun _ => rfl⟩
    simpa using List.find?_eq_none.1 hfind flaw (mem_flaws flaw)

end LinkSpec

namespace Link

/-- Seconds to travel the link in free flow, whole and at least one. -/
def freeFlow (l : Link) : Nat :=
  max (Decimal.floor64 (l.length / l.speed)) 1

/-- No link takes less than a second. -/
theorem one_le_freeFlow (l : Link) : 1 ≤ l.freeFlow := Nat.le_max_right _ _

/-- The free-flow time fits 64 bits. -/
theorem freeFlow_lt (l : Link) : l.freeFlow < UInt64.size :=
  Nat.max_lt.2 ⟨Decimal.floor64_lt _, by decide⟩

end Link

end TrafficQueue
