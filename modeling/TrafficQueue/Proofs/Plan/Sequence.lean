import TrafficQueue.Proofs.Plan.Fitting

/-!
# Plans as sequences

What is asked of a plan is said here along the sequence of its elements, without numbering them:
an activity, then again and again a leg and an activity, on known links, with every route leading
from the activity in front of its leg to the one behind it.  Validation goes through the elements
once and looks up the neighbours of a leg by their numbers before it has seen the later one.

Main results:

- Definition `Plan.Alternates`: the sequences of activities and legs.
- Definition `Plan.Lawful`: what is asked of a plan.
- Theorem `Plan.fits_iff_lawful`: by numbers and along the sequence the same is asked.
- Theorem `Population.accepts_lawful_plans`: validation accepts exactly such plans, and a population
  exactly if all its plans are such; else it gives the error of the first person whose plan is not.
-/

namespace TrafficQueue

namespace Plan

variable {net : Network} {p : Plan} {person : String} {i : Nat} {es : List PlanElement}

/-- An activity, and then any number of times a leg and an activity. -/
inductive Alternates : List PlanElement → Prop where
  | last (a : Activity) : Alternates [.activity a]
  | travel (a : Activity) (l : Leg) {rest : List PlanElement} (h : Alternates rest) :
      Alternates (.activity a :: .leg l :: rest)

/-- What is asked of a plan on a network. -/
structure Lawful (net : Network) (p : Plan) : Prop where
  alternates : Alternates p.elements
  activities : ∀ a, .activity a ∈ p.elements → net.hasLink a.link = true
  routes : ∀ l r, .leg l ∈ p.elements → l.route = some r →
    net.hasLink r.origin = true ∧ net.hasLink r.destination = true ∧
      ∀ k ∈ r.via, net.hasLink k = true
  /-- Every route leads from the activity before its leg to the one after it. -/
  leads : ∀ front a l b back r, p.elements = front ++ .activity a :: .leg l :: .activity b :: back →
    l.route = some r → r.origin = a.link ∧ r.destination = b.link

/-! ## Numbered elements of a sequence -/

/-- A sequence alternates if activities stand at even and legs at odd positions, and it ends with
an activity. -/
theorem alternates_of_positions {es : List PlanElement} (hodd : es.length % 2 = 1)
    (heven : ∀ i < es.length, i % 2 = 0 → ∃ a, es[i]? = some (.activity a))
    (hleg : ∀ i < es.length, i % 2 = 1 → ∃ l, es[i]? = some (.leg l)) : Alternates es := by
  match es with
  | [] => cases hodd
  | [e] =>
      rcases heven 0 (by simp) rfl with ⟨a, ha⟩
      cases ha
      exact .last a
  | e :: f :: rest =>
      rcases heven 0 (by simp) rfl with ⟨a, ha⟩
      rcases hleg 1 (by simp) rfl with ⟨l, hl⟩
      cases ha
      cases hl
      refine .travel a l (alternates_of_positions ?_ ?_ ?_)
      · simp only [List.length_cons] at hodd
        omega
      · intro i hi hmod
        have h := heven (i + 2) (by simpa using hi) (by omega)
        rwa [List.getElem?_cons_succ, List.getElem?_cons_succ] at h
      · intro i hi hmod
        have h := hleg (i + 2) (by simpa using hi) (by omega)
        rwa [List.getElem?_cons_succ, List.getElem?_cons_succ] at h

/-- A sequence that alternates begins and ends with an activity, so its length is odd. -/
theorem Alternates.length_odd (h : Alternates es) : es.length % 2 = 1 := by
  induction h with
  | last a => rfl
  | travel a l _ ih =>
      simp only [List.length_cons]
      omega

/-- In an alternating sequence the activities stand at the even positions and the legs at the odd
ones. -/
theorem Alternates.position (h : Alternates es) {e : PlanElement} (he : es[i]? = some e) :
    if i % 2 = 0 then ∃ a, e = .activity a else ∃ l, e = .leg l := by
  induction h generalizing i with
  | last a =>
      match i with
      | 0 =>
          cases he
          exact ⟨a, rfl⟩
      | i + 1 => cases he
  | travel a l _ ih =>
      match i with
      | 0 =>
          cases he
          exact ⟨a, rfl⟩
      | 1 =>
          cases he
          exact ⟨l, rfl⟩
      | i + 2 =>
          have h := ih (i := i) he
          rwa [← Nat.add_mod_right i 2] at h

/-- Three neighbours cut a sequence in two. -/
theorem exists_append_of_neighbours {x y z : PlanElement} (hx : es[i]? = some x)
    (hy : es[i + 1]? = some y) (hz : es[i + 2]? = some z) :
    ∃ front back, es = front ++ x :: y :: z :: back := by
  rcases List.getElem?_eq_some_iff.1 hx with ⟨hxlt, rfl⟩
  rcases List.getElem?_eq_some_iff.1 hy with ⟨hylt, rfl⟩
  rcases List.getElem?_eq_some_iff.1 hz with ⟨hzlt, rfl⟩
  refine ⟨es.take i, es.drop (i + 3), ?_⟩
  rw [← List.drop_eq_getElem_cons, ← List.drop_eq_getElem_cons, ← List.drop_eq_getElem_cons,
    List.take_append_drop]

/-! ## What fits is lawful -/

/-- A plan that fits the network is lawful. -/
theorem Fits.lawful (h : p.Fits net) : p.Lawful net := by
  refine ⟨alternates_of_positions h.odd ?_ ?_, ?_, ?_, ?_⟩
  · intro i hi heven
    rcases h.activity i hi heven with ⟨a, ha, -⟩
    exact ⟨a, activity?_eq_some_iff.1 ha⟩
  · intro i hi hodd
    rcases h.leg i hi hodd with ⟨l, hl⟩
    exact ⟨l, leg?_eq_some_iff.1 hl⟩
  · intro a hmem
    rcases List.mem_iff_getElem?.1 hmem with ⟨i, hi⟩
    exact h.hasLink_linkAt (linkAt_eq_some_iff.2 ⟨a, activity?_eq_some_iff.2 hi, rfl⟩)
  · intro l r hmem hr
    rcases List.mem_iff_getElem?.1 hmem with ⟨i, hi⟩
    have hroute : p.route? i = some r := route?_eq_some_iff.2 ⟨l, leg?_eq_some_iff.2 hi, hr⟩
    have hnamed := (h.route i r hroute).1
    rwa [Route.named, List.forall_mem_cons, List.forall_mem_cons] at hnamed
  · intro front a l b back r heq hr
    have hbefore : p.activity? front.length = some a := by
      rw [activity?_eq_some_iff, element?, heq]
      simp
    have hleg : p.leg? (front.length + 1) = some l := by
      rw [leg?_eq_some_iff, element?, heq]
      simp
    have hafter : p.activity? (front.length + 2) = some b := by
      rw [activity?_eq_some_iff, element?, heq]
      simp
    rcases h.route _ r (route?_eq_some_iff.2 ⟨l, hleg, hr⟩) with ⟨-, horigin, hdestination⟩
    rw [Nat.add_sub_cancel, linkAt, hbefore] at horigin
    rw [linkAt, hafter] at hdestination
    exact ⟨(Option.some_inj.1 horigin).symm, (Option.some_inj.1 hdestination).symm⟩

/-! ## What is lawful fits -/

/-- A lawful plan fits the network. -/
theorem Lawful.fits (h : p.Lawful net) : p.Fits net := by
  have hodd : p.length % 2 = 1 := h.alternates.length_odd
  have hactivity : ∀ i, i < p.length → i % 2 = 0 → ∃ a, p.element? i = some (.activity a) := by
    intro i hi heven
    rcases p.element?_of_lt hi with ⟨e, he⟩
    have hposition := h.alternates.position he
    rw [if_pos heven] at hposition
    rcases hposition with ⟨a, rfl⟩
    exact ⟨a, he⟩
  refine ⟨hodd, ?_, ?_, ?_⟩
  · intro i hi heven
    rcases hactivity i hi heven with ⟨a, ha⟩
    exact ⟨a, activity?_eq_some_iff.2 ha, h.activities a (List.mem_of_getElem? ha)⟩
  · intro i hi hone
    rcases p.element?_of_lt hi with ⟨e, he⟩
    have hposition := h.alternates.position he
    rw [if_neg (by omega)] at hposition
    rcases hposition with ⟨l, rfl⟩
    exact ⟨l, leg?_eq_some_iff.2 he⟩
  · intro i r hr
    rcases route?_eq_some_iff.1 hr with ⟨l, hl, hlr⟩
    have he := leg?_eq_some_iff.1 hl
    have hi := lt_of_element? he
    have hone : i % 2 = 1 := by
      by_contra heven
      have hposition := h.alternates.position he
      rw [if_pos (by omega)] at hposition
      rcases hposition with ⟨a, ha⟩
      cases ha
    rcases h.routes l r (List.mem_of_getElem? he) hlr with ⟨horigin, hdestination, hvia⟩
    rcases hactivity (i - 1) (by omega) (by omega) with ⟨a, ha⟩
    rcases hactivity (i + 1) (by omega) (by omega) with ⟨b, hb⟩
    have hback : i - 1 + 1 = i := by omega
    rcases exists_append_of_neighbours ha (by rwa [hback]) (by rwa [← hback] at hb) with
      ⟨front, back, heq⟩
    rcases h.leads front a l b back r heq hlr with ⟨hstart, hend⟩
    refine ⟨?_, linkAt_eq_some_iff.2 ⟨a, activity?_eq_some_iff.2 ha, hstart.symm⟩,
      linkAt_eq_some_iff.2 ⟨b, activity?_eq_some_iff.2 hb, hend.symm⟩⟩
    exact List.forall_mem_cons.2 ⟨horigin, List.forall_mem_cons.2 ⟨hdestination, hvia⟩⟩

/-- The plans that fit the network are the lawful ones. -/
theorem fits_iff_lawful : p.Fits net ↔ p.Lawful net :=
  ⟨Fits.lawful, Lawful.fits⟩

/-! ## Validation -/

/-- A route on known links that connects the activities around its leg has no fault. -/
theorem routeFault?_of_leads {r : Route} (hknown : ∀ l ∈ r.named, net.hasLink l = true)
    (hbefore : p.linkAt (i - 1) = some r.origin) (hafter : p.linkAt (i + 1) = some r.destination) :
    p.routeFault? person net i r = none := by
  rcases linkAt_eq_some_iff.1 hbefore with ⟨before, hbefore, horigin⟩
  rcases linkAt_eq_some_iff.1 hafter with ⟨after, hafter, hdestination⟩
  have hunknown : unknownLink? net r = none :=
    List.find?_eq_none.2 fun l hl => by simp [hknown l hl]
  simp [routeFault?, hunknown, hbefore, hafter, horigin, hdestination, Option.filter]

/-- A plan that fits the network is validated. -/
theorem Fits.validate (h : p.Fits net) : p.validate person net = .ok () := by
  refine validate_eq_ok_iff.2 ⟨h.odd, fun i e he => ?_⟩
  cases e with
  | activity a =>
      have ha := activity?_eq_some_iff.2 he
      have heven := (h.even_of_activity ha).1
      have hlink := h.hasLink_linkAt (linkAt_eq_some_iff.2 ⟨a, ha, rfl⟩)
      rw [elementFault?, if_pos heven, if_pos hlink]
  | leg l =>
      have hl := leg?_eq_some_iff.2 he
      have hodd := (h.odd_of_leg hl).1
      rw [elementFault?, if_neg (by omega), Option.bind_eq_none_iff]
      intro r hr
      rcases h.route i r (route?_eq_some_iff.2 ⟨l, hl, hr⟩) with ⟨hknown, hbefore, hafter⟩
      exact routeFault?_of_leads hknown hbefore hafter

/-- The lawful plans are those that are validated. -/
theorem validates_iff_lawful : p.validate person net = .ok () ↔ p.Lawful net :=
  ⟨fun h => fits_iff_lawful.1 (fits_of_validate h), fun h => (fits_iff_lawful.2 h).validate⟩

/-- A plan without a fault is validated. -/
theorem fault?_eq_none_iff : p.fault? person net = none ↔ p.validate person net = .ok () := by
  unfold validate
  cases p.fault? person net <;> simp

/-- The fault of a plan is the error of its validation. -/
theorem fault?_eq_some_iff {e : PlanError} :
    p.fault? person net = some e ↔ p.validate person net = .error e := by
  unfold validate
  cases p.fault? person net <;> simp

end Plan

/-- The first person whose plan is not accepted gives its error to the population. -/
theorem Population.validate_eq_error_iff {people : Population} {net : Network} {e : PlanError} :
    people.validate net = .error e ↔
      ∃ front person back, people.persons.toList = front ++ person :: back ∧
        (∀ other ∈ front, other.plan.validate other.name net = .ok ()) ∧
          person.plan.validate person.name net = .error e := by
  have hfault : people.validate net = .error e ↔ people.fault? net = some e := by
    unfold validate
    cases people.fault? net <;> simp
  rw [hfault, fault?, List.findSome?_eq_some_iff]
  simp only [Plan.fault?_eq_none_iff, Plan.fault?_eq_some_iff]
  simp only [and_comm]

/-- Validation accepts exactly the lawful plans, whosever they are, and a population exactly if all
its plans are lawful.  Else the error is that of the first person whose plan is not. -/
theorem Population.accepts_lawful_plans (net : Network) :
    (∀ (p : Plan) (person : String), p.validate person net = .ok () ↔ p.Lawful net) ∧
      ∀ people : Population,
        (people.validate net = .ok () ↔ ∀ person ∈ people.persons, person.plan.Lawful net) ∧
        ∀ e, people.validate net = .error e ↔
          ∃ front person back, people.persons.toList = front ++ person :: back ∧
            (∀ other ∈ front, other.plan.Lawful net) ∧
              person.plan.validate person.name net = .error e := by
  refine ⟨fun p person => Plan.validates_iff_lawful, fun people => ⟨?_, fun e => ?_⟩⟩
  · simp only [validate_eq_ok_iff, Plan.validates_iff_lawful]
  · simp only [validate_eq_error_iff, Plan.validates_iff_lawful]

end TrafficQueue
