import Mathlib.Data.List.Chain
import TrafficQueue.Plan.LeastTime
import TrafficQueue.Proofs.Network.LeastTime
import TrafficQueue.Proofs.Plan.Fitting
import TrafficQueue.Proofs.Plan.Splicing

/-!
# Routes that can be driven

A route can be driven if from each of its links a vehicle can turn into the next one.
Least-time routes can, and so can a route that was spliced from two that can.  A plan
can be driven if each of its legs has a route that can.

Main results:

- Definitions `Route.Connected` and `Plan.Drivable`.
- Theorem `Network.connected_route?`: least-time routes can be driven.
- Theorems `Network.nodup_full` and `Network.duration_path`: a least-time route to another
  link uses no link twice, and the links between its ends take the time of the path.
- Theorem `Route.Connected.splice`: so can what is spliced from such routes.
- Theorem `Plan.Drivable.withRoute`: a plan with such a route in the place of another
  can still be driven.
-/

namespace TrafficQueue

variable {net : Network} {a b : LinkId} {origin destination : Link} {ls : List LinkId}
  {r old offer : Route} {p q : Plan} {i : Nat}

/-! ## Routes -/

/-- From each link of the route a vehicle can turn into the next one. -/
def Route.Connected (net : Network) (r : Route) : Prop :=
  r.full.IsChain fun a b => net.connects a b = some true

/-- Links are connected if one begins where the other ends. -/
theorem Network.connects_eq_some_true (ha : net.link? a = some origin)
    (hb : net.link? b = some destination) :
    net.connects a b = some true ↔ origin.target = destination.source := by
  simp [connects, ha, hb]

/-- A vehicle can turn from link to link of a chain that leads from the end of one link to the
start of another. -/
theorem Network.Chain.isChain (h : net.Chain origin.target ls destination.source)
    (ha : net.link? a = some origin) (hb : net.link? b = some destination) :
    (a :: (ls ++ [b])).IsChain fun a b => net.connects a b = some true := by
  induction ls generalizing a origin with
  | nil =>
      rw [List.nil_append, List.isChain_pair, connects_eq_some_true ha hb]
      exact h.eq_of_nil
  | cons l ls ih =>
      rcases h.of_cons with ⟨link, hlink, hsource, hrest⟩
      rw [List.cons_append, List.isChain_cons_cons, connects_eq_some_true ha hlink]
      exact ⟨hsource.symm, ih hrest hlink⟩

/-- There is nothing between a link and itself. -/
theorem Network.links_of_path_self {path : LinkPath} (h : net.path a a = .ok path) :
    path.links = [] := by
  cases ha : net.link? a with
  | none => simp [Network.path, ha] at h
  | some origin =>
      simp only [Network.path, ha, true_or, if_true, Except.ok.injEq] at h
      rw [← h]

/-- A route between different links goes from the one over the links between to the other. -/
theorem Route.full_of_ne (hne : a ≠ b) (via : List LinkId) :
    Route.full ⟨a, via, b⟩ = a :: (via ++ [b]) :=
  Route.full_eq_of_not_sameLink (by simp [Route.isSameLink, hne])

/-- Least-time routes can be driven. -/
theorem Network.connected_route? (hwired : net.Wired) (h : net.route? a b = some r) :
    r.Connected net := by
  rcases route?_eq_some_iff.1 h with ⟨path, hpath, rfl⟩
  by_cases hne : a = b
  · subst hne
    simp [Route.Connected, Route.full, Route.isSameLink, links_of_path_self hpath]
  · rcases exists_isLeast hwired hpath hne with ⟨origin, destination, ha, hb, hleast⟩
    rw [Route.Connected, Route.full_of_ne hne]
    exact hleast.chain.isChain ha hb

/-- A least-time route to another link uses no link twice. -/
theorem Network.nodup_full {path : LinkPath} (hwired : net.Wired) (h : net.path a b = .ok path)
    (hne : a ≠ b) : (Route.full ⟨a, path.links, b⟩).Nodup := by
  rcases exists_isLeast hwired h hne with ⟨origin, destination, ha, hb, hleast⟩
  have hfirst : a ∉ path.links := fun hagain => Chain.target_ne hleast.nodup hagain ha rfl
  have hlast : b ∉ path.links := fun hbefore => hleast.chain.source_ne hleast.nodup hbefore hb rfl
  rw [Route.full_of_ne hne, List.nodup_cons, List.mem_append, List.mem_singleton, List.nodup_append]
  refine ⟨not_or.2 ⟨hfirst, hne⟩, hleast.chain.nodup_links hleast.nodup, ?_, ?_⟩
  · exact List.pairwise_singleton _ b
  · intro l hl m hm heq
    rw [List.mem_singleton.1 hm] at heq
    exact hlast (heq ▸ hl)

/-- On the way to another link the path takes the time between the two links. -/
theorem Network.duration_path {path : LinkPath} (hwired : net.Wired)
    (h : net.path a b = .ok path) (hne : a ≠ b) : net.duration path.links = path.secs := by
  rcases exists_isLeast hwired h hne with ⟨origin, destination, -, -, hleast⟩
  exact hleast.duration

/-- From a link on a route that can be driven a vehicle can turn into the next one. -/
theorem Route.Connected.connects (h : r.Connected net) (ha : r.full[i]? = some a)
    (hb : r.full[i + 1]? = some b) : net.connects a b = some true := by
  rcases List.getElem?_eq_some_iff.1 ha with ⟨hi, rfl⟩
  rcases List.getElem?_eq_some_iff.1 hb with ⟨hi', rfl⟩
  exact List.isChain_iff_getElem.1 h i hi'

/-- A route that goes on with another one from the link at a position can be driven if both can. -/
theorem Route.Connected.splice (hold : old.Connected net) (hoffer : offer.Connected net)
    (hpivot : old.full[i]? = some offer.origin)
    (hfull : r.full = old.full.take (i + 1) ++ offer.full.tail) : r.Connected net := by
  have hlast : (old.full.take (i + 1)).getLast? = some offer.origin := by
    rw [List.take_add_one, hpivot]
    exact List.getLast?_concat
  have hhead : offer.full = offer.origin :: offer.full.tail := by
    rcases List.head?_eq_some_iff.1 offer.head?_full with ⟨rest, hrest⟩
    rw [hrest, List.tail_cons]
  rw [Connected, hhead, List.isChain_cons] at hoffer
  rw [Connected, hfull, List.isChain_append]
  refine ⟨List.IsChain.take hold _, hoffer.2, ?_⟩
  intro x hx y hy
  rw [hlast, Option.mem_some_iff] at hx
  subst hx
  exact hoffer.1 y hy

/-! ## Plans -/

namespace Plan

/-- Every leg has a route that can be driven. -/
def Drivable (net : Network) (p : Plan) : Prop :=
  ∀ i leg, p.leg? i = some leg → ∃ r, leg.route = some r ∧ r.Connected net

/-- The route of every leg is the least-time route between the activities around it. -/
def IsLeastTime (net : Network) (p : Plan) : Prop :=
  ∀ i leg, p.leg? (i + 1) = some leg → ∃ a b r, p.linkAt i = some a ∧
    p.linkAt (i + 2) = some b ∧ net.route? a b = some r ∧ leg.route = some r

/-- A plan with routes of least time can be driven. -/
theorem IsLeastTime.drivable (h : p.IsLeastTime net) (hwired : net.Wired) (hfits : p.Fits net) :
    p.Drivable net := by
  intro i leg hleg
  have hodd := (hfits.odd_of_leg hleg).1
  have hi : i = i - 1 + 1 := by omega
  rw [hi] at hleg
  rcases h (i - 1) leg hleg with ⟨a, b, r, -, -, hroute, hr⟩
  exact ⟨r, hr, Network.connected_route? hwired hroute⟩

/-- The routes of a plan that can be driven are connected. -/
theorem Drivable.route (h : p.Drivable net) (hr : p.route? i = some r) : r.Connected net := by
  rcases route?_eq_some_iff.1 hr with ⟨leg, hleg, hroute⟩
  rcases h i leg hleg with ⟨r', hr', hconnected⟩
  cases hr'.symm.trans hroute
  exact hconnected

/-- A plan can still be driven with another route that can. -/
theorem Drivable.withRoute (h : p.Drivable net) (hq : p.withRoute i r = .ok q)
    (hr : r.Connected net) : q.Drivable net := by
  intro j leg hleg
  by_cases hij : i = j
  · subst hij
    rcases leg_withRoute_self hq with ⟨old, -, hnew⟩
    cases hnew.symm.trans hleg
    exact ⟨r, rfl, hr⟩
  · rw [leg?_withRoute_of_ne hq hij] at hleg
    exact h j leg hleg

end Plan

end TrafficQueue
