import TrafficQueue.Agent.Basic

/-!
# Choosing the next link

At the end of a link an agent takes the next link of its route, and after the listed links its
destination.  The choice is kept until the agent moves or its plan changes.

Main results: `Agent.chooseNext_kept`, a kept choice is given again, and `Agent.chooseNext_fresh`, a
choice that was not kept follows the route.
-/

namespace TrafficQueue.Agent

/-- Where to go from the end of the agent's link on a route with the links `via` to `destination`;
nothing for links outside of the network. -/
def continuation (a : Agent) (net : Network) (via : List LinkId) (destination : LinkId) :
    Option NextLink :=
  match via[a.routeIndex]? with
  | some next =>
    (net.connects a.link next).map fun reached =>
      if reached then .link next else .stuck .inconsistentDestination
  | none =>
    if a.link = destination then some .arrive
    else
      (net.connects a.link destination).map fun reached =>
        if reached then .link destination else .stuck .routeOverrun

/-- Keeps what was chosen. -/
def keepChoice (a : Agent) (via : List LinkId) : NextLink → Agent
  | .link next => { a with memo := ⟨some next, some via⟩ }
  | _ => { a with memo := { a.memo with via := some via } }

/-- The link to enter after the current one; there is no answer for a position or a route outside of
the network. -/
def chooseNext (a : Agent) (net : Network) : Option (NextLink × Agent) :=
  match a.memo.next with
  | some next => some (.link next, a)
  | none =>
    match a.route? with
    | none => some (.stuck .missingRoute, a)
    | some route =>
      let via := a.memo.via.getD route.via
      (a.continuation net via route.destination).map fun next => (next, a.keepChoice via next)

/-- A next link that has been found before is found again, and nothing changes. -/
theorem chooseNext_kept {a : Agent} {l : LinkId} (h : a.memo.next = some l) (net : Network) :
    a.chooseNext net = some (.link l, a) := by
  simp only [chooseNext, h]

/-- Without anything kept the next link is looked up on the route. -/
theorem chooseNext_fresh {a : Agent} {route : Route} (hmemo : a.memo = {})
    (hroute : a.route? = some route) (net : Network) :
    (a.chooseNext net).map Prod.fst = a.continuation net route.via route.destination := by
  simp only [chooseNext, hmemo, hroute, Option.getD_none, Option.map_map]
  exact Option.map_id'

end TrafficQueue.Agent
