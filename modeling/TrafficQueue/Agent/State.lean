import TrafficQueue.Event.Basic
import TrafficQueue.Time

/-!
# States of an agent

Where an agent stands in its day, and what its operations answer.

Main result: `AgentState.text_injective`.
-/

namespace TrafficQueue

/-- How an agent left the simulation. -/
inductive Removal where
  | completed
  | stuck (reason : StuckReason)
deriving DecidableEq

/-- Where an agent is in the course of its day. -/
inductive AgentState where
  | atActivity
  /-- The activity has ended and the trip has not begun. -/
  | departing
  | enRoute
  /-- Off a link and not yet on the next one or at the activity. -/
  | arriving
  | removed (how : Removal)
deriving DecidableEq

/-- One word for a reason. -/
def StuckReason.label : StuckReason → String
  | .missingRoute => "MissingRoute"
  | .inconsistentDestination => "InconsistentDestination"
  | .routeOverrun => "RouteIndexOverrun"

namespace AgentState

/-- The state in words, for messages. -/
def text : AgentState → String
  | .atActivity => "AtActivity"
  | .departing => "Departing"
  | .enRoute => "EnRouteOnLink"
  | .arriving => "ArrivingAtNode"
  | .removed .completed => "Removed(Completed)"
  | .removed (.stuck reason) => "Removed(Stuck(" ++ reason.label ++ "))"

/-- Whether the agent is out of the simulation for good. -/
def isRemoved : AgentState → Bool
  | .removed _ => true
  | _ => false

/-- The states in which an agent can be. -/
def all : List AgentState :=
  [.atActivity, .departing, .enRoute, .arriving, .removed .completed] ++
    StuckReason.all.map fun reason => .removed (.stuck reason)

/-- The list has all states. -/
theorem mem_all (s : AgentState) : s ∈ all := by
  rcases s with _ | _ | _ | _ | (_ | reason)
  all_goals try decide
  cases reason <;> decide

/-- States are told apart by their words. -/
theorem text_injective {a b : AgentState} (h : a.text = b.text) : a = b := by
  have key : ∀ a ∈ all, ∀ b ∈ all, a.text = b.text → a = b := by decide
  exact key a (mem_all a) b (mem_all b) h

end AgentState

/-- Whether the route of an agent may be replaced while it travels. -/
inductive Strategy where
  | followRoute
  | withinDay
deriving DecidableEq, Inhabited

/-- Whether an agent with this strategy may be given another route. -/
def Strategy.allowsReplanning (s : Strategy) : Bool := s = .withinDay

/-- Where an agent wants to go at the end of its link. -/
inductive NextLink where
  | link (l : LinkId)
  /-- It is on its destination. -/
  | arrive
  /-- Its route cannot be continued. -/
  | stuck (reason : StuckReason)
deriving DecidableEq

/-- What becomes of an agent after an operation. -/
inductive Transition where
  /-- At an activity that it leaves at the given time. -/
  | scheduled (t : Time)
  /-- At an activity that it never leaves. -/
  | resting
  | enRoute
  | completed
  | stuck (reason : StuckReason)
deriving DecidableEq

end TrafficQueue
