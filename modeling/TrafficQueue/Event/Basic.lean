import TrafficQueue.Ident
import TrafficQueue.Mode
import TrafficQueue.Time

/-!
# Events

What happens to an agent, when and on which link.  Every kind of event has a name and a detail in
words.

Main result: `StuckReason.text_injective`.
-/

namespace TrafficQueue

/-- Why an agent is taken out of the simulation before the end of its plan. -/
inductive StuckReason where
  /-- The leg to travel has no route. -/
  | missingRoute
  /-- The leg would end away from its destination. -/
  | inconsistentDestination
  /-- The route ended before the destination. -/
  | routeOverrun
deriving DecidableEq

namespace StuckReason

/-- All reasons. -/
def all : List StuckReason := [.missingRoute, .inconsistentDestination, .routeOverrun]

/-- The reason in words, as it is written with an event. -/
def text : StuckReason → String
  | .missingRoute => "missing route"
  | .inconsistentDestination => "inconsistent destination"
  | .routeOverrun => "route index overrun"

/-- Reasons are told apart by their words. -/
theorem text_injective {a b : StuckReason} (h : a.text = b.text) : a = b := by
  revert h
  cases a <;> cases b <;> decide

end StuckReason

/-- What can happen to an agent. -/
inductive EventKind where
  | activityEnd (activity : String)
  | departure (mode : Mode)
  | linkEnter (vehicle : VehicleId)
  | linkLeave (vehicle : VehicleId)
  | arrival (mode : Mode)
  | activityStart (activity : String)
  /-- The route was replaced; its new full sequence. -/
  | replan (route : List LinkId)
  | stuck (reason : StuckReason)
deriving DecidableEq

namespace EventKind

/-- The name under which events of a kind are counted and written. -/
def name : EventKind → String
  | .activityEnd _ => "actend"
  | .departure _ => "departure"
  | .linkEnter _ => "entered link"
  | .linkLeave _ => "left link"
  | .arrival _ => "arrival"
  | .activityStart _ => "actstart"
  | .replan _ => "replan"
  | .stuck _ => "stuck"

/-- What belongs to the event beside its name, in words. -/
def detail : EventKind → String
  | .activityEnd activity | .activityStart activity => activity
  | .departure mode | .arrival mode => mode.name
  | .linkEnter vehicle | .linkLeave vehicle => toString vehicle.index
  | .replan route => " ".intercalate (route.map fun l => toString l.index)
  | .stuck reason => reason.text

end EventKind

/-- Something that happens: when, to whom and on which link. -/
structure Event where
  time : Time
  agent : AgentId
  link : LinkId
  kind : EventKind
deriving DecidableEq

/-- The event in words. -/
def Event.text (e : Event) : String :=
  e.time.text ++ " " ++ e.kind.name ++ " " ++ e.agent.text ++ " on " ++ e.link.text

end TrafficQueue
