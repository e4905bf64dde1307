import TrafficQueue.Proofs.Agent.Outcomes

/-!
# Deeds of an agent

A deed is what one operation of a simulation does to one agent, together with the
events that tell of it.  There are eight kinds: an agent is stranded, stays on its
link or departs when its activity ends; it keeps its choice, crosses a node,
arrives or fails at the end of its link; and its route is replaced.  What every
deed keeps holds along the whole life of an agent.

Main results:

- Definition `Deed`: the eight kinds.
- Theorem `Deed.coherent`: every deed keeps an agent coherent.
- Theorem `Deed.mem_events`: a deed tells of its own agent, at its own time.
- Theorem `Deed.plan_cases`: a deed leaves the plan alone, but for a route that is
  replaced.
-/

namespace TrafficQueue

/-! ## Kinds of events -/

namespace EventKind

/-- An agent departs. -/
def isDeparture : EventKind → Bool
  | .departure _ => true
  | _ => false

/-- A vehicle comes onto a link. -/
def isLinkEnter : EventKind → Bool
  | .linkEnter _ => true
  | _ => false

/-- An agent arrives. -/
def isArrival : EventKind → Bool
  | .arrival _ => true
  | _ => false

/-- A route is replaced. -/
def isReplan : EventKind → Bool
  | .replan _ => true
  | _ => false

/-- An agent is stuck. -/
def isStuck : EventKind → Bool
  | .stuck _ => true
  | _ => false

end EventKind

/-- With one more event at the end, an event is that one or one of those before. -/
theorem concat_eq_cases {es before since : List Event} {x e : Event}
    (h : es ++ [x] = before ++ e :: since) :
    (before = es ∧ e = x ∧ since = []) ∨
      ∃ since', since = since' ++ [x] ∧ es = before ++ e :: since' := by
  rcases List.eq_nil_or_concat since with rfl | ⟨since', y, rfl⟩
  · rcases List.append_inj' h rfl with ⟨rfl, heq⟩
    cases heq
    exact .inl ⟨rfl, rfl, rfl⟩
  · rw [List.concat_eq_append, ← List.cons_append, ← List.append_assoc] at h
    rcases List.append_inj' h rfl with ⟨rfl, heq⟩
    cases heq
    exact .inr ⟨since', List.concat_eq_append, rfl⟩

variable {net : Network} {now : Time}

/-! ## When a deed is possible -/

/-- The activity ends and there is no route for the leg after it. -/
structure Strands (a : Agent) (act : Activity) : Prop where
  state : a.state = .atActivity
  activity : a.plan.activity? a.element = some act
  planned : a.element + 1 < a.plan.length
  route : a.plan.route? (a.element + 1) = none

/-- The activity ends and the leg after it stays on its link. -/
structure Stays (a : Agent) (act next : Activity) (mode : Mode) (r : Route) : Prop where
  state : a.state = .atActivity
  activity : a.plan.activity? a.element = some act
  leg : a.plan.leg? (a.element + 1) = some ⟨mode, some r⟩
  same : r.isSameLink = true
  following : a.plan.activity? (a.element + 2) = some next
  link : next.link = a.link

/-- The activity ends and the leg after it leaves its link. -/
structure Departs (net : Network) (a : Agent) (act : Activity) (mode : Mode) (r : Route) :
    Prop where
  state : a.state = .atActivity
  activity : a.plan.activity? a.element = some act
  leg : a.plan.leg? (a.element + 1) = some ⟨mode, some r⟩
  onRoute : (a.departed r).OnRoute net r

/-- An agent on its way chooses, and keeps what it chose. -/
structure Keeps (net : Network) (a kept : Agent) (r : Route) : Prop where
  state : a.state = .enRoute
  eq : kept = { a with memo := kept.memo }
  onRoute : kept.OnRoute net r

/-- The route goes on to a link. -/
structure Crosses (net : Network) (a : Agent) (r : Route) (l : LinkId) : Prop where
  state : a.state = .enRoute
  onRoute : a.OnRoute net r
  choice : a.continuation net r.via r.destination = some (.link l)

/-- The route ends on the agent's link. -/
structure Arrives (net : Network) (a : Agent) (r : Route) (mode : Mode) (next : Activity) :
    Prop where
  state : a.state = .enRoute
  onRoute : a.OnRoute net r
  choice : a.continuation net r.via r.destination = some .arrive
  leg : a.leg? = some ⟨mode, some r⟩
  following : a.plan.activity? (a.element + 1) = some next
  link : next.link = a.link

/-- The route cannot be continued from the agent's link. -/
structure Fails (net : Network) (a : Agent) (r : Route) (reason : StuckReason) : Prop where
  state : a.state = .enRoute
  onRoute : a.OnRoute net r
  choice : a.continuation net r.via r.destination = some (.stuck reason)

/-- The rest of the route is replaced, and what was travelled stays. -/
structure Replans (net : Network) (rep : Replanner) (now : Time) (a : Agent) (old r : Route)
    (plan : Plan) : Prop where
  eligible : rep.isEligible a now = true
  travels : a.OnRoute net old
  adopts : a.plan.withRoute a.element r = .ok plan
  fits : plan.Fits net
  onRoute : Agent.OnRoute net { a with plan, memo := {}, lastReplan := now } r
  travelled : r.full.take (a.routeIndex + 1) = old.full.take (a.routeIndex + 1)
  /-- The route goes on with an offer of the replanner. -/
  offered : ∃ offer, rep.offer? a net now = some offer ∧
    r.full = old.full.take (a.routeIndex + 1) ++ offer.full.tail

/-- Routes are replaced on the way. -/
theorem Replans.state {rep : Replanner} {a : Agent} {old r : Route} {plan : Plan}
    (h : Replans net rep now a old r plan) : a.state = .enRoute :=
  (Replanner.isEligible_iff.1 h.eligible).2.1

/-! ## Deeds -/

/-- What one operation at a time does to an agent, and the events that tell of it.  Routes are
replaced by the replanner, if there is one. -/
inductive Deed (net : Network) (replanner : Option Replanner) (now : Time) :
    Agent → List Event → Agent → Prop where
  | strand {a act} (h : Strands a act) :
      Deed net replanner now a
        [a.event now (.activityEnd act.kind), a.event now (.stuck .missingRoute)]
        a.stranded
  | stay {a act next mode r} (h : Stays a act next mode r) :
      Deed net replanner now a
        [a.event now (.activityEnd act.kind), a.event now (.departure mode),
          a.event now (.arrival mode), a.event now (.activityStart next.kind)]
        (a.stayed.startActivity next now).agent
  | depart {a act mode r} (h : Departs net a act mode r) :
      Deed net replanner now a
        [a.event now (.activityEnd act.kind), a.event now (.departure mode)]
        (a.departed r)
  | keep {a kept r} (h : Keeps net a kept r) : Deed net replanner now a [] kept
  | cross {a r l} (h : Crosses net a r l) :
      Deed net replanner now a
        [a.event now (.linkLeave a.vehicle.id), (a.crossed l).event now (.linkEnter a.vehicle.id)]
        (a.crossed l)
  | arrive {a r mode next} (h : Arrives net a r mode next) :
      Deed net replanner now a
        [a.event now (.arrival mode), a.event now (.activityStart next.kind)]
        (a.landed.startActivity next now).agent
  | fail {a r reason} (h : Fails net a r reason) :
      Deed net replanner now a [a.event now (.stuck reason)] (a.evicted reason)
  | replan {a rep old r plan} (hrep : replanner = some rep)
      (h : Replans net rep now a old r plan) :
      Deed net replanner now a [a.event now (.replan r.full)]
        { a with plan, memo := {}, lastReplan := now }

namespace Deed

variable {replanner : Option Replanner} {a b : Agent} {events : List Event}

/-- Whatever an agent does, it stays the same agent. -/
theorem id_eq (h : Deed net replanner now a events b) : b.id = a.id := by
  cases h with
  | strand h => rfl
  | stay h => exact Agent.id_startActivity _ _ _
  | depart h => rfl
  | keep h =>
      rw [h.eq]
  | cross h => rfl
  | arrive h => exact Agent.id_startActivity _ _ _
  | fail h => rfl
  | replan hrep h => rfl

/-- A deed tells of its own agent, at its own time. -/
theorem mem_events (h : Deed net replanner now a events b) :
    ∀ e ∈ events, e.agent = a.id ∧ e.time = now := by
  intro e he
  cases h <;> simp only [List.mem_cons, List.not_mem_nil, or_false] at he
  case strand => rcases he with rfl | rfl <;> exact ⟨rfl, rfl⟩
  case stay => rcases he with rfl | rfl | rfl | rfl <;> exact ⟨rfl, rfl⟩
  case depart => rcases he with rfl | rfl <;> exact ⟨rfl, rfl⟩
  case cross => rcases he with rfl | rfl <;> exact ⟨rfl, rfl⟩
  case arrive => rcases he with rfl | rfl <;> exact ⟨rfl, rfl⟩
  case fail =>
    subst he
    exact ⟨rfl, rfl⟩
  case replan =>
    subst he
    exact ⟨rfl, rfl⟩

/-- The plan stays as it is, but for the route that is replaced. -/
theorem plan_cases (h : Deed net replanner now a events b) :
    b.plan = a.plan ∨
      ∃ rep old r, replanner = some rep ∧ Replans net rep now a old r b.plan := by
  cases h with
  | strand h => exact .inl rfl
  | stay h => exact .inl (a.stayed.plan_startActivity _ _)
  | depart h => exact .inl rfl
  | keep h =>
      left
      rw [h.eq]
  | cross h => exact .inl rfl
  | arrive h => exact .inl (a.landed.plan_startActivity _ _)
  | fail h => exact .inl rfl
  | replan hrep h => exact .inr ⟨_, _, _, hrep, h⟩

/-- Without a replanner the plan stays as it is. -/
theorem plan_eq (h : Deed net none now a events b) : b.plan = a.plan := by
  rcases h.plan_cases with hplan | ⟨rep, old, r, hrep, -⟩
  · exact hplan
  · cases hrep

/-- Every deed keeps an agent coherent. -/
theorem coherent (h : Deed net replanner now a events b) (ha : a.Coherent net) :
    b.Coherent net := by
  cases h with
  | strand h => exact Agent.coherent_of_removed ha.plan rfl
  | stay h =>
      exact Agent.coherent_startActivity (a := a.stayed) ha.plan h.following h.link now
  | depart h => exact Agent.Coherent.of_onRoute ha.plan rfl h.onRoute
  | keep h =>
      have hplan : b.plan = a.plan := by rw [h.eq]
      have hstate : b.state = .enRoute := by rw [h.eq, h.state]
      exact Agent.Coherent.of_onRoute (hplan ▸ ha.plan) hstate h.onRoute
  | cross h => exact Agent.Coherent.of_onRoute ha.plan h.state (h.onRoute.crossed h.choice)
  | arrive h =>
      exact Agent.coherent_startActivity (a := a.landed) ha.plan h.following h.link now
  | fail h => exact Agent.coherent_of_removed ha.plan rfl
  | replan hrep h => exact Agent.Coherent.of_onRoute h.fits h.state h.onRoute

end Deed

end TrafficQueue
