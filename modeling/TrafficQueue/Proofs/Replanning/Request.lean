import TrafficQueue.Event.Bus
import TrafficQueue.Proofs.Agent.Position
import TrafficQueue.Proofs.Network.Adjacency
import TrafficQueue.Proofs.Program

/-!
# Requests for another route

A request looks at an agent and either replaces the rest of its route or leaves everything
as it is.  Here it is carried out in place: plan, agent, count and bus change one after the
other, and what has changed before a failure stays changed.  Nothing ever has.

Main results:

- Definition `Request.serve`: a request that changes things in place.
- Theorem `Request.serve_eq`: it does what `Replanner.replan` answers.
- Structure `Replanner.Grants`: who gets another route, and which.
- Theorem `Request.all_or_nothing`: exactly those get it, completely, and for all others nothing
  changes.
-/

namespace TrafficQueue

/-! ## Who gets another route -/

/-- The agent has the route `old` and may change it, it needs to, and `offer` is made to it and
leads from its place on the old route to its destination. -/
structure Replanner.Grants (rep : Replanner) (a : Agent) (net : Network) (now : Time)
    (old offer : Route) : Prop where
  withinDay : a.strategy = .withinDay
  enRoute : a.state = .enRoute
  route : a.route? = some old
  elsewhere : old.destination ≠ a.link
  elapsed : a.lastReplan.offset rep.rule.interval ≤ now
  need : rep.rule.threshold ≤ ReplanRule.need (rep.contentment a now)
  offered : rep.provider a.link old.destination ⟨now, a.id⟩ = some offer
  origin : offer.origin = a.link
  destination : offer.destination = old.destination
  known : ∀ l ∈ offer.full, net.hasLink l = true
  place : old.full[a.routeIndex]? = some a.link

namespace Replanner

variable {net : Network} {a : Agent} {now : Time} {rep : Replanner} {old offer : Route}
  {done : Replanned}

/-- Who gets another route may change it, needs to, and has an offer that is committed. -/
theorem replan_eq_some_iff :
    rep.replan a net now = .ok (some done) ↔
      rep.isEligible a now = true ∧
        rep.rule.isMet (ReplanRule.need (rep.contentment a now)) = true ∧
        ∃ offer, rep.offer? a net now = some offer ∧ rep.commit a offer now = .ok done := by
  unfold replan
  rw [← and_assoc, ← Bool.and_eq_true]
  split
  · rename_i hmay
    cases rep.offer? a net now with
    | none => simp [hmay]
    | some offer => cases hcommit : rep.commit a offer now <;> simp [hmay, hcommit, Except.map]
  · rename_i hmay
    simp [hmay]

/-- Whoever is granted another route gets it: the old one up to the agent's link, and then the
offer. -/
theorem Grants.replan_eq (h : rep.Grants a net now old offer) :
    ∃ mode route, a.leg? = some ⟨mode, some old⟩ ∧
      route.full = old.full.take (a.routeIndex + 1) ++ offer.full.tail ∧
      rep.replan a net now = .ok (some (rep.replaced a now mode route)) := by
  have hdest : a.destination? = some old.destination := by
    rw [Agent.destination?, h.route, Option.map_some]
  rcases Route.exists_splice h.place h.origin (h.destination ▸ h.elsewhere) with
    ⟨route, hsplice, hfull, -⟩
  rcases Option.bind_eq_some_iff.1 h.route with ⟨⟨mode, _⟩, hleg, rfl⟩
  refine ⟨mode, route, hleg, hfull, replan_eq_some_iff.2 ⟨?_, decide_eq_true h.need, offer, ?_, ?_⟩⟩
  · exact isEligible_iff.2 ⟨h.withinDay, h.enRoute, ⟨_, hdest, h.elsewhere⟩, h.elapsed⟩
  · exact offer?_eq_some_iff.2
      ⟨_, hdest, h.offered, isFitting_iff.2 ⟨h.origin, h.destination, h.known⟩⟩
  · exact commit_eq_ok_iff.2 ⟨mode, old, route, hleg, hsplice, rfl⟩

/-- Whoever gets another route has been granted it. -/
theorem exists_grants (h : rep.replan a net now = .ok (some done)) :
    ∃ old offer, rep.Grants a net now old offer := by
  rcases replan_eq_some_iff.1 h with ⟨heligible, hneed, offer, hoffer, hcommit⟩
  rcases isEligible_iff.1 heligible with ⟨hwithin, hroad, ⟨d, hd, helsewhere⟩, helapsed⟩
  rcases commit_eq_ok_iff.1 hcommit with ⟨mode, old, route, hleg, hsplice, -⟩
  have hroute : a.route? = some old := by
    rw [Agent.route?, hleg]
    rfl
  have hdest : old.destination = d := by
    simpa [Agent.destination?, hroute] using hd
  subst hdest
  rcases offer?_eq_some_iff.1 hoffer with ⟨d, hd', hprovider, hfit⟩
  cases hd.symm.trans hd'
  rcases isFitting_iff.1 hfit with ⟨horigin, hdestination, hknown⟩
  have hplace := (Route.splice_eq_ok_iff.1 hsplice).1
  rw [horigin] at hplace
  exact ⟨old, offer, hwithin, hroad, hroute, helsewhere, helapsed, of_decide_eq_true hneed,
    hprovider, horigin, hdestination, hknown, hplace⟩

end Replanner

/-! ## Requests in place -/

/-- All that a request can change. -/
structure Request (σ : Type) where
  replanner : Replanner
  agent : Agent
  bus : EventBus σ

namespace Request

open Program

variable {σ : Type}

/-- Takes over an offer: after all that can fail, the agent, the count and the bus change. -/
def takeOver (offer : Route) (now : Time) : ExceptT ReplanError (StateM (Request σ)) Unit := do
  let a := (← get).agent
  let some old := a.route? | throw (.noCurrentRoute a.id)
  let route ← ofExcept ((old.splice a.routeIndex offer).mapError fun e => .plan a.id (.splice e))
  let plan ← ofExcept ((a.plan.withRoute a.element route).mapError fun e => .plan a.id e)
  modify fun x => { x with agent := x.agent.adopt plan }
  modify fun x => { x with agent := x.agent.markReplanned now }
  modify fun x => { x with replanner.replans := x.replanner.replans + 1 }
  modify fun x => { x with bus := x.bus.emit (x.agent.event now (.replan route.full)) }

/-- Asks for another route; the answer says whether the agent got one. -/
def ask (net : Network) (now : Time) : ExceptT ReplanError (StateM (Request σ)) Bool := do
  let ⟨rep, a, _⟩ ← get
  if rep.isEligible a now && rep.rule.isMet (ReplanRule.need (rep.contentment a now)) then
    match rep.offer? a net now with
    | some offer =>
      takeOver offer now
      return true
    | none => return false
  else return false

/-- The answer to a request, and what is there afterwards. -/
def serve (x : Request σ) (net : Network) (now : Time) : Except ReplanError Bool × Request σ :=
  (ask net now).run x

/-- An offer is taken over completely, or nothing changes. -/
theorem run_takeOver (x : Request σ) (offer : Route) (now : Time) :
    (takeOver offer now).run x =
      match x.replanner.commit x.agent offer now with
      | .error e => (.error e, x)
      | .ok done => (.ok (), ⟨done.replanner, done.agent, x.bus.emit done.event⟩) := by
  simp only [takeOver, Replanner.commit, run_bind, run_get]
  cases hroute : x.agent.route? with
  | none => rfl
  | some old =>
      simp only [run_bind, run_ofExcept]
      cases (old.splice x.agent.routeIndex offer).mapError
          fun e => ReplanError.plan x.agent.id (.splice e) with
      | error e => rfl
      | ok route =>
          simp only [run_modify, bind, Except.bind]
          cases (x.agent.plan.withRoute x.agent.element route).mapError
              fun e => ReplanError.plan x.agent.id e with
          | error e => rfl
          | ok plan => rfl

/-- A request in place does what the replanner answers. -/
theorem serve_eq (x : Request σ) (net : Network) (now : Time) :
    x.serve net now =
      match x.replanner.replan x.agent net now with
      | .error e => (.error e, x)
      | .ok none => (.ok false, x)
      | .ok (some done) => (.ok true, ⟨done.replanner, done.agent, x.bus.emit done.event⟩) := by
  simp only [serve, ask, Replanner.replan, run_bind, run_get]
  split
  · cases hoffer : x.replanner.offer? x.agent net now with
    | none => rfl
    | some offer =>
        simp only [run_bind, run_takeOver]
        cases x.replanner.commit x.agent offer now <;> rfl
  · rfl

/-- An agent gets another route exactly if it may change its route and needs to, and if there is an
offer from its place on the old route to its destination.  Then its plan has the new route for the
current leg, with the links travelled so far and after them those of the offer, its memo is empty,
and the change is dated, counted and told of.  In all other cases nothing changes. -/
theorem all_or_nothing (x : Request σ) (net : Network) (now : Time) :
    ((x.serve net now).1 = .ok true ↔ ∃ old offer, x.replanner.Grants x.agent net now old offer) ∧
    (∀ old offer, x.replanner.Grants x.agent net now old offer →
      ∃ mode route, x.agent.leg? = some ⟨mode, some old⟩ ∧
        route.full = old.full.take (x.agent.routeIndex + 1) ++ offer.full.tail ∧
        (x.serve net now).2 =
          { replanner := { x.replanner with replans := x.replanner.replans + 1 }
            agent :=
              { x.agent with
                plan := ⟨x.agent.plan.elements.set x.agent.element (.leg ⟨mode, some route⟩)⟩
                memo := {}
                lastReplan := now }
            bus := x.bus.emit ⟨now, x.agent.id, x.agent.link, .replan route.full⟩ }) ∧
    ((x.serve net now).1 ≠ .ok true → (x.serve net now).2 = x) := by
  rw [serve_eq]
  refine ⟨⟨?_, ?_⟩, ?_, ?_⟩
  · intro htrue
    rcases hreplan : x.replanner.replan x.agent net now with e | _ | done
    · simp [hreplan] at htrue
    · simp [hreplan] at htrue
    · exact Replanner.exists_grants hreplan
  · rintro ⟨old, offer, h⟩
    rcases h.replan_eq with ⟨mode, route, -, -, hreplan⟩
    rw [hreplan]
  · intro old offer h
    rcases h.replan_eq with ⟨mode, route, hleg, hfull, hreplan⟩
    refine ⟨mode, route, hleg, hfull, ?_⟩
    rw [hreplan]
    rfl
  · intro hfalse
    rcases hreplan : x.replanner.replan x.agent net now with e | _ | done
    · rfl
    · rfl
    · exact absurd (by rw [hreplan]) hfalse

end Request

/-! ## One more round -/

namespace Commuter

/-- Everybody is offered one more round, and wants it. -/
def rounds : Replanner :=
  { rule := {}
    provider := fun current destination _ => some ⟨current, [⟨0⟩, ⟨1⟩], destination⟩
    contentment := fun _ _ => -1 }

/-- A driver on the second of three links. -/
def halfway : Agent :=
  { id := ⟨0⟩
    person := "driver"
    plan :=
      ⟨[.activity { kind := "home", link := ⟨0⟩ }, .leg ⟨.car, some ⟨⟨0⟩, [⟨1⟩], ⟨0⟩⟩⟩,
        .activity { kind := "work", link := ⟨0⟩ }]⟩
    strategy := .withinDay
    state := .enRoute
    element := 1
    link := ⟨1⟩
    routeIndex := 1 }

/-- The provider offers a driver on the second link one more round, which fits. -/
theorem grants_rounds :
    rounds.Grants halfway net .zero ⟨⟨0⟩, [⟨1⟩], ⟨0⟩⟩ ⟨⟨1⟩, [⟨0⟩, ⟨1⟩], ⟨0⟩⟩ where
  withinDay := rfl
  enRoute := rfl
  route := rfl
  elsewhere := by decide
  elapsed := by decide
  need := by decide +kernel
  offered := rfl
  origin := rfl
  destination := rfl
  known := by decide
  place := rfl

/-- The driver on its second link, nobody else, and an empty bus. -/
def request : Request Unit := ⟨rounds, halfway, {}⟩

end Commuter

/-- The driver goes around once more. -/
theorem Request.all_or_nothing_rounds :
    Commuter.rounds.Grants Commuter.halfway Commuter.net .zero ⟨⟨0⟩, [⟨1⟩], ⟨0⟩⟩
        ⟨⟨1⟩, [⟨0⟩, ⟨1⟩], ⟨0⟩⟩ ∧
      (Commuter.request.serve Commuter.net .zero).1 = .ok true ∧
      (Commuter.request.serve Commuter.net .zero).2.bus.pending.toList =
        [⟨.zero, ⟨0⟩, ⟨1⟩, .replan [⟨0⟩, ⟨1⟩, ⟨0⟩, ⟨1⟩, ⟨0⟩]⟩] := by
  have h := all_or_nothing Commuter.request Commuter.net .zero
  rcases h.2.1 _ _ Commuter.grants_rounds with ⟨mode, route, -, hfull, hafter⟩
  refine ⟨Commuter.grants_rounds, h.1.2 ⟨_, _, Commuter.grants_rounds⟩, ?_⟩
  rw [hafter, hfull]
  rfl

end TrafficQueue
