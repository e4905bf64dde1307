import Mathlib.Tactic.Common
import TrafficQueue.Population

/-!
# Plans that fit, element by element

A validated plan alternates activities and legs, stays on known links, and every
route connects the links of the activities around its leg.  These facts survive
the replacement of a route by one between the same links.

Main results:

- Theorem `Plan.fits_of_validate`: an accepted plan fits its network.
- Theorem `Plan.Fits.withRoute`: so does the plan with another route for a leg.
-/

namespace TrafficQueue

namespace Plan

variable {net : Network} {p q : Plan} {i : Nat}

/-- The link of the activity at a position. -/
def linkAt (p : Plan) (i : Nat) : Option LinkId :=
  (p.activity? i).map Activity.link

/-- What validation promises about a plan. -/
structure Fits (net : Network) (p : Plan) : Prop where
  odd : p.length % 2 = 1
  activity : ∀ i, i < p.length → i % 2 = 0 →
    ∃ act, p.activity? i = some act ∧ net.hasLink act.link = true
  leg : ∀ i, i < p.length → i % 2 = 1 → ∃ l, p.leg? i = some l
  route : ∀ i r, p.route? i = some r →
    (∀ l ∈ r.named, net.hasLink l = true) ∧
      p.linkAt (i - 1) = some r.origin ∧ p.linkAt (i + 1) = some r.destination

/-! ## Elements -/

/-- Every position of the plan has an element. -/
theorem element?_of_lt (p : Plan) (h : i < p.length) : ∃ e, p.element? i = some e :=
  ⟨p.elements[i], List.getElem?_eq_getElem h⟩

/-- There are no elements beyond the plan. -/
theorem lt_of_element? {e : PlanElement} (h : p.element? i = some e) : i < p.length :=
  (List.getElem?_eq_some_iff.1 h).1

/-- An activity is an element of the plan. -/
theorem activity?_eq_some_iff {act : Activity} :
    p.activity? i = some act ↔ p.element? i = some (.activity act) := by
  unfold activity?
  cases p.element? i with
  | none => simp
  | some e => cases e <;> simp [PlanElement.activity?]

/-- A leg is an element of the plan. -/
theorem leg?_eq_some_iff {l : Leg} :
    p.leg? i = some l ↔ p.element? i = some (.leg l) := by
  unfold leg?
  cases p.element? i with
  | none => simp
  | some e => cases e <;> simp [PlanElement.leg?]

/-- A route belongs to a leg of the plan. -/
theorem route?_eq_some_iff {r : Route} :
    p.route? i = some r ↔ ∃ l, p.leg? i = some l ∧ l.route = some r := by
  unfold route?
  cases p.leg? i <;> simp

/-- The link of a position is the one of its activity. -/
theorem linkAt_eq_some_iff {l : LinkId} :
    p.linkAt i = some l ↔ ∃ act, p.activity? i = some act ∧ act.link = l := by
  unfold linkAt
  cases p.activity? i <;> simp

/-! ## From validation -/

/-- A route without a fault connects the activities around its leg. -/
theorem routeFault?_eq_none {person : String} {r : Route} {before after : Activity}
    (h : p.routeFault? person net i r = none)
    (hbefore : p.activity? (i - 1) = some before)
    (hafter : p.activity? (i + 1) = some after) :
    (∀ l ∈ r.named, net.hasLink l = true) ∧
      before.link = r.origin ∧ after.link = r.destination := by
  unfold routeFault? at h
  cases hunknown : unknownLink? net r with
  | some l => simp [hunknown] at h
  | none =>
      have hknown : ∀ l ∈ r.named, net.hasLink l = true := by
        intro l hl
        simpa using List.find?_eq_none.1 hunknown l hl
      simp only [hunknown, hbefore, hafter] at h
      refine ⟨hknown, ?_⟩
      by_cases ho : before.link = r.origin
      · by_cases hd : after.link = r.destination
        · exact ⟨ho, hd⟩
        · simp [Option.filter, ho, hd] at h
      · simp [Option.filter, ho] at h

/-- A plan that was validated fits the network. -/
theorem fits_of_validate {person : String} (h : p.validate person net = .ok ()) :
    p.Fits net := by
  rcases validate_eq_ok_iff.1 h with ⟨hodd, hfault⟩
  have hactivity : ∀ i, i < p.length → i % 2 = 0 →
      ∃ act, p.activity? i = some act ∧ net.hasLink act.link = true := by
    intro i hi heven
    rcases p.element?_of_lt hi with ⟨e, he⟩
    have hnone := hfault i e he
    cases e with
    | leg l => simp [elementFault?, heven] at hnone
    | activity act =>
        refine ⟨act, activity?_eq_some_iff.2 he, ?_⟩
        by_contra hlink
        simp [elementFault?, heven, hlink] at hnone
  have hleg : ∀ i, i < p.length → i % 2 = 1 → ∃ l, p.leg? i = some l := by
    intro i hi hodd
    rcases p.element?_of_lt hi with ⟨e, he⟩
    have hnone := hfault i e he
    cases e with
    | activity act => simp [elementFault?, hodd] at hnone
    | leg l => exact ⟨l, leg?_eq_some_iff.2 he⟩
  refine ⟨hodd, hactivity, hleg, ?_⟩
  intro i r hr
  rcases route?_eq_some_iff.1 hr with ⟨l, hl, hlr⟩
  have he := leg?_eq_some_iff.1 hl
  have hi := lt_of_element? he
  have hnone := hfault i _ he
  have hone : i % 2 = 1 := by
    by_contra heven
    have heven : i % 2 = 0 := by omega
    simp [elementFault?, heven] at hnone
  simp only [elementFault?, hone, Nat.one_ne_zero, if_false, hlr, Option.bind_some] at hnone
  -- the last element is an activity, so a leg has a successor
  rcases hactivity (i - 1) (by omega) (by omega) with ⟨before, hbefore, -⟩
  rcases hactivity (i + 1) (by omega) (by omega) with ⟨after, hafter, -⟩
  rcases routeFault?_eq_none hnone hbefore hafter with ⟨hknown, ho, hd⟩
  exact ⟨hknown, linkAt_eq_some_iff.2 ⟨before, hbefore, ho⟩,
    linkAt_eq_some_iff.2 ⟨after, hafter, hd⟩⟩

/-! ## Positions of a fitting plan -/

namespace Fits

/-- Activities stand at even positions. -/
theorem even_of_activity (h : p.Fits net) {act : Activity} (ha : p.activity? i = some act) :
    i % 2 = 0 ∧ i < p.length := by
  have he := activity?_eq_some_iff.1 ha
  have hi := lt_of_element? he
  refine ⟨?_, hi⟩
  by_contra hodd
  rcases h.leg i hi (by omega) with ⟨l, hl⟩
  rw [leg?_eq_some_iff, he] at hl
  cases hl

/-- Legs stand at odd positions, and something follows them. -/
theorem odd_of_leg (h : p.Fits net) {l : Leg} (hl : p.leg? i = some l) :
    i % 2 = 1 ∧ i + 1 < p.length := by
  have he := leg?_eq_some_iff.1 hl
  have hi := lt_of_element? he
  have hodd := h.odd
  have hone : i % 2 = 1 := by
    by_contra heven
    rcases h.activity i hi (by omega) with ⟨act, hact, -⟩
    rw [activity?_eq_some_iff, he] at hact
    cases hact
  omega

/-- Activities are at links of the network. -/
theorem hasLink_linkAt (h : p.Fits net) {l : LinkId} (hl : p.linkAt i = some l) :
    net.hasLink l = true := by
  rcases linkAt_eq_some_iff.1 hl with ⟨act, hact, rfl⟩
  rcases h.even_of_activity hact with ⟨heven, hlt⟩
  rcases h.activity i hlt heven with ⟨act', hact', hlink⟩
  cases hact.symm.trans hact'
  exact hlink

/-- An activity is followed by a leg unless it is the last element. -/
theorem leg_after_activity (h : p.Fits net) {act : Activity} (ha : p.activity? i = some act)
    (hlt : i + 1 < p.length) : ∃ l, p.leg? (i + 1) = some l := by
  rcases h.even_of_activity ha with ⟨heven, -⟩
  exact h.leg (i + 1) hlt (by omega)

end Fits

/-! ## Another route -/

/-- A new route leaves the activities as they are. -/
theorem activity?_withRoute {r : Route} (h : p.withRoute i r = .ok q) (j : Nat) :
    q.activity? j = p.activity? j := by
  by_cases hij : i = j
  · subst hij
    rcases leg_withRoute_self h with ⟨l, hp, hq⟩
    unfold activity?
    rw [leg?_eq_some_iff.1 hp, leg?_eq_some_iff.1 hq]
    rfl
  · unfold activity?
    rw [element_withRoute_of_ne h hij]

theorem linkAt_withRoute {r : Route} (h : p.withRoute i r = .ok q) (j : Nat) :
    q.linkAt j = p.linkAt j := by
  rw [linkAt, linkAt, activity?_withRoute h]

theorem length_withRoute {r : Route} (h : p.withRoute i r = .ok q) : q.length = p.length := by
  rcases withRoute_eq_ok_iff.1 h with ⟨l, -, rfl⟩
  simp [length]

/-- A new route leaves the other legs as they are. -/
theorem leg?_withRoute_of_ne {r : Route} {j : Nat} (h : p.withRoute i r = .ok q) (hij : i ≠ j) :
    q.leg? j = p.leg? j := by
  unfold leg?
  rw [element_withRoute_of_ne h hij]

/-- The leg has the new route. -/
theorem route?_withRoute_self {r : Route} (h : p.withRoute i r = .ok q) :
    q.route? i = some r := by
  rcases leg_withRoute_self h with ⟨l, -, hq⟩
  exact route?_eq_some_iff.2 ⟨_, hq, rfl⟩

/-- A plan still fits after a route is replaced by one between the same links. -/
theorem Fits.withRoute {old r : Route} (hp : p.Fits net) (hold : p.route? i = some old)
    (h : p.withRoute i r = .ok q) (hlinks : ∀ l ∈ r.named, net.hasLink l = true)
    (ho : r.origin = old.origin) (hd : r.destination = old.destination) : q.Fits net := by
  refine ⟨?_, ?_, ?_, ?_⟩
  · rw [length_withRoute h]
    exact hp.odd
  · intro j hj heven
    rw [activity?_withRoute h]
    exact hp.activity j (by rwa [length_withRoute h] at hj) heven
  · intro j hj hodd
    by_cases hij : i = j
    · subst hij
      rcases leg_withRoute_self h with ⟨l, -, hq⟩
      exact ⟨_, hq⟩
    · rw [leg?_withRoute_of_ne h hij]
      exact hp.leg j (by rwa [length_withRoute h] at hj) hodd
  · intro j s hs
    rw [linkAt_withRoute h, linkAt_withRoute h]
    by_cases hij : i = j
    · subst hij
      rw [route?_withRoute_self h] at hs
      cases hs
      rw [ho, hd]
      exact ⟨hlinks, (hp.route i old hold).2⟩
    · have hsame : q.route? j = p.route? j := by
        rw [route?, route?, leg?_withRoute_of_ne h hij]
      exact hp.route j s (hsame ▸ hs)

end Plan

end TrafficQueue
