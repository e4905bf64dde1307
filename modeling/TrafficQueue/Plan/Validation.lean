import TrafficQueue.Network.Basic
import TrafficQueue.Plan.Basic

/-!
# Plans that fit a network

A plan fits if it alternates activities and legs, names known links only, and every route leads from
the activity before its leg to the one after it.  A leg may lack a route: that shows when the person
tries to depart.

Main result: `Plan.validate_eq_ok_iff`, a plan is accepted exactly when none of its elements has a
fault.
-/

namespace TrafficQueue

namespace Route

/-- The links of the route in the order in which they are checked. -/
def named (r : Route) : List LinkId := r.origin :: r.destination :: r.via

end Route

namespace Plan

/-- The first link of the route that is not in the network. -/
def unknownLink? (net : Network) (r : Route) : Option LinkId :=
  r.named.find? fun l => !net.hasLink l

/-- The problem of a route at position `i` of the plan. -/
def routeFault? (p : Plan) (person : String) (net : Network) (i : Nat) (r : Route) :
    Option PlanError :=
  match unknownLink? net r with
  | some l => some (.unknownLink person l)
  | none =>
    let before := (p.activity? (i - 1)).filter fun a => a.link ≠ r.origin
    let after := (p.activity? (i + 1)).filter fun a => a.link ≠ r.destination
    match before, after with
    | some a, _ => some (.originMismatch person i r.origin a.link)
    | none, some a => some (.destinationMismatch person i r.destination a.link)
    | none, none => none

/-- The problem of the element at position `i`: activities stand at even positions, legs at odd
ones. -/
def elementFault? (p : Plan) (person : String) (net : Network) (i : Nat) :
    PlanElement → Option PlanError
  | .activity a =>
    if i % 2 = 0 then
      if net.hasLink a.link then none else some (.unknownLink person a.link)
    else some (.malformed person .notALeg)
  | .leg l =>
    if i % 2 = 0 then some (.malformed person .notAnActivity)
    else l.route.bind (p.routeFault? person net i)

/-- The first problem of the plan. -/
def fault? (p : Plan) (person : String) (net : Network) : Option PlanError :=
  if p.elements = [] then some (.malformed person .empty)
  else if p.length % 2 = 0 then some (.malformed person .evenLength)
  else p.elements.zipIdx.findSome? fun entry => p.elementFault? person net entry.2 entry.1

/-- Accepts the plan or gives its first problem. -/
def validate (p : Plan) (person : String) (net : Network) : Except PlanError Unit :=
  match p.fault? person net with
  | some e => .error e
  | none => .ok ()

/-- A plan passes if it has a middle and no fault at any of its elements. -/
theorem validate_eq_ok_iff {p : Plan} {person : String} {net : Network} :
    p.validate person net = .ok () ↔
      p.length % 2 = 1 ∧
        ∀ i e, p.element? i = some e → p.elementFault? person net i e = none := by
  have hfault : p.validate person net = .ok () ↔ p.fault? person net = none := by
    unfold validate
    cases p.fault? person net <;> simp
  rw [hfault]
  unfold fault?
  by_cases hnil : p.elements = []
  · simp [hnil, length]
  by_cases heven : p.length % 2 = 0
  · simp [hnil, heven]
  simp only [hnil, heven, if_false, List.findSome?_eq_none_iff]
  constructor
  · intro h
    exact ⟨by omega, fun i e he => h (e, i) (List.mk_mem_zipIdx_iff_getElem?.2 he)⟩
  · rintro ⟨-, h⟩ ⟨e, i⟩ hmem
    exact h i e (List.mk_mem_zipIdx_iff_getElem?.1 hmem)

end Plan

end TrafficQueue
