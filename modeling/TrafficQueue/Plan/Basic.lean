import TrafficQueue.Mode
import TrafficQueue.Plan.Activity
import TrafficQueue.Plan.Route

/-!
# Plans

A plan is meant to be an activity, a leg, an activity and so on; nothing is checked when it is put
together.

Main results: `Plan.leg_withRoute_self` and `Plan.element_withRoute_of_ne`, what replacing the route
of one leg does to the elements.
-/

namespace TrafficQueue

/-- A trip to the next activity.  A leg without a route cannot be travelled. -/
structure Leg where
  mode : Mode
  route : Option Route
deriving DecidableEq

/-- A part of a plan. -/
inductive PlanElement where
  | activity (a : Activity)
  | leg (l : Leg)

namespace PlanElement

/-- The activity, if the element is one. -/
def activity? : PlanElement → Option Activity
  | .activity a => some a
  | .leg _ => none

/-- The leg, if the element is one. -/
def leg? : PlanElement → Option Leg
  | .activity _ => none
  | .leg l => some l

/-- Equality as the parts compare. -/
def same : PlanElement → PlanElement → Bool
  | .activity a, .activity b => a.same b
  | .leg l, .leg m => l = m
  | _, _ => false

end PlanElement

/-- Activities and the legs between them. -/
structure Plan where
  elements : List PlanElement

/-- What is wrong with the shape of a plan. -/
inductive ShapeFlaw where
  | empty
  | evenLength
  | notAnActivity
  | notALeg
deriving DecidableEq

/-- What is wrong with the shape of a plan, in words. -/
def ShapeFlaw.reason : ShapeFlaw → String
  | .empty => "plan is empty"
  | .evenLength => "plan must begin and end with an activity"
  | .notAnActivity => "expected an activity"
  | .notALeg => "expected a leg"

/-- What can go wrong with a plan. -/
inductive PlanError where
  | malformed (person : String) (flaw : ShapeFlaw)
  | unknownLink (person : String) (link : LinkId)
  | originMismatch (person : String) (leg : Nat) (origin activity : LinkId)
  | destinationMismatch (person : String) (leg : Nat) (destination activity : LinkId)
  | notALeg (position : Nat)
  | splice (e : SpliceError)
deriving DecidableEq

/-- What is told of a plan that is refused. -/
def PlanError.message : PlanError → String
  | .malformed person flaw => "plan of `" ++ person ++ "` is malformed: " ++ flaw.reason
  | .unknownLink person link =>
    "plan of `" ++ person ++ "` references link " ++ link.text ++ " which is not in the network"
  | .originMismatch person leg origin activity =>
    "plan of `" ++ person ++ "`: route of leg " ++ toString leg ++ " starts on " ++ origin.text ++
      " but the preceding activity is on " ++ activity.text
  | .destinationMismatch person leg destination activity =>
    "plan of `" ++ person ++ "`: route of leg " ++ toString leg ++ " ends on " ++
      destination.text ++ " but the following activity is on " ++ activity.text
  | .notALeg position => "plan element " ++ toString position ++ " is not a leg"
  | .splice e => e.message

namespace Plan

/-- How many elements the plan has. -/
def length (p : Plan) : Nat := p.elements.length

/-- The element at a position. -/
def element? (p : Plan) (i : Nat) : Option PlanElement := p.elements[i]?

/-- The activity at a position, if there is one. -/
def activity? (p : Plan) (i : Nat) : Option Activity := (p.element? i).bind PlanElement.activity?

/-- The leg at a position, if there is one. -/
def leg? (p : Plan) (i : Nat) : Option Leg := (p.element? i).bind PlanElement.leg?

/-- The route of the leg at a position, if there is one. -/
def route? (p : Plan) (i : Nat) : Option Route := (p.leg? i).bind Leg.route

/-- The legs of the plan, in order. -/
def legs (p : Plan) : List Leg := p.elements.filterMap PlanElement.leg?

/-- Equality as the parts compare. -/
def same (p q : Plan) : Bool :=
  p.length = q.length && (p.elements.zip q.elements).all fun pair => pair.1.same pair.2

/-- The plan with another route for the leg at position `i`. -/
def withRoute (p : Plan) (i : Nat) (route : Route) : Except PlanError Plan :=
  match p.leg? i with
  | some leg => .ok ⟨p.elements.set i (.leg { leg with route := some route })⟩
  | none => .error (.notALeg i)

/-- A route is put into a plan at a leg, and nothing else of the plan changes. -/
theorem withRoute_eq_ok_iff {p q : Plan} {i : Nat} {route : Route} :
    p.withRoute i route = .ok q ↔
      ∃ leg, p.leg? i = some leg ∧
        q = ⟨p.elements.set i (.leg { leg with route := some route })⟩ := by
  unfold withRoute
  split
  · rename_i leg h
    rw [h]
    constructor
    · intro he
      cases he
      exact ⟨leg, rfl, rfl⟩
    · rintro ⟨leg', hleg, rfl⟩
      cases hleg
      rfl
  · rename_i h
    simp [h]

/-- The leg has the new route, and its mode as before. -/
theorem leg_withRoute_self {p q : Plan} {i : Nat} {route : Route}
    (h : p.withRoute i route = .ok q) :
    ∃ leg, p.leg? i = some leg ∧ q.leg? i = some { leg with route := some route } := by
  obtain ⟨leg, hleg, rfl⟩ := withRoute_eq_ok_iff.1 h
  refine ⟨leg, hleg, ?_⟩
  have hlt : i < p.elements.length := by
    refine Decidable.byContradiction fun hge => ?_
    have : p.elements[i]? = none := List.getElem?_eq_none (by omega)
    simp [leg?, element?, this] at hleg
  simp [leg?, element?, hlt, PlanElement.leg?]

/-- The other elements stay as they are. -/
theorem element_withRoute_of_ne {p q : Plan} {i j : Nat} {route : Route}
    (h : p.withRoute i route = .ok q) (hne : i ≠ j) : q.element? j = p.element? j := by
  obtain ⟨leg, -, rfl⟩ := withRoute_eq_ok_iff.1 h
  simp [element?, hne]

end Plan

end TrafficQueue
