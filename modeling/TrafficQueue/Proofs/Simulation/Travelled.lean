import TrafficQueue.Proofs.Simulation.Course

/-!
# The links travelled on a leg

The events of an agent tell on which links it has been since it departed: on the
link of the departure, and then on every link that it entered.  The route of the
leg begins with exactly these links, up to the position of the agent, however
often the rest of the route has been replaced.

Main results:

- Definition `LegSoFar`: the links since the last departure that events tell of.
- Theorem `Deed.legSoFar`: every deed keeps the beginning of the route in step with
  the events.
- Theorem `Simulation.travelled_links`: the beginning of the route of every agent on
  its way, after any number of steps.
-/

namespace TrafficQueue

/-- The links since the last departure that the events tell of: the link of the departure, and
those that were entered after it. -/
def LegSoFar (events : List Event) (links : List LinkId) : Prop :=
  ∃ before departure since, events = before ++ departure :: since ∧
    departure.kind.isDeparture = true ∧ (∀ e ∈ since, e.kind.isDeparture = false) ∧
    links = departure.link :: (since.filter fun e => e.kind.isLinkEnter).map Event.link

/-- Without a departure in between, the links that are entered are added. -/
theorem LegSoFar.append {events more : List Event} {links : List LinkId}
    (h : LegSoFar events links) (hmore : ∀ e ∈ more, e.kind.isDeparture = false) :
    LegSoFar (events ++ more)
      (links ++ (more.filter fun e => e.kind.isLinkEnter).map Event.link) := by
  rcases h with ⟨before, departure, since, rfl, hdeparture, hsince, rfl⟩
  refine ⟨before, departure, since ++ more, ?_, hdeparture, ?_, ?_⟩
  · simp
  · intro e he
    rcases List.mem_append.1 he with he | he
    · exact hsince e he
    · exact hmore e he
  · simp

/-- The beginning of the route of an agent on its way is what the events tell of. -/
def Agent.Travelled (a : Agent) (events : List Event) : Prop :=
  a.state = .enRoute → ∀ r, a.route? = some r →
    LegSoFar events (r.full.take (a.routeIndex + 1))

/-- Who is not on the way has no leg under way. -/
theorem Agent.travelled_of_ne {a : Agent} (h : a.state ≠ .enRoute) (events : List Event) :
    a.Travelled events :=
  fun hstate => (h hstate).elim

/-- At an activity no leg is under way. -/
theorem Agent.travelled_startActivity (a : Agent) (act : Activity) (now : Time)
    (events : List Event) : (a.startActivity act now).agent.Travelled events :=
  travelled_of_ne (a.state_startActivity act now) events

/-- Every deed keeps the beginning of the route in step with the events. -/
theorem Deed.legSoFar {net : Network} {replanner : Option Replanner} {now : Time} {a b : Agent}
    {events log : List Event} (h : Deed net replanner now a events b) (ha : a.Travelled log) :
    b.Travelled (log ++ events) := by
  cases h with
  | strand h => exact Agent.travelled_of_ne (by simp [Agent.stranded]) _
  | stay h => exact Agent.travelled_startActivity _ _ _ _
  | @depart act mode r h =>
      intro _ route hroute
      have hr : route = r := Option.some.inj (hroute.symm.trans h.onRoute.route)
      subst hr
      have hhead : route.full[0]? = some a.link := h.onRoute.position
      refine ⟨log ++ [a.event now (.activityEnd act.kind)], a.event now (.departure mode), [],
        by simp, rfl, List.forall_mem_nil _, ?_⟩
      change route.full.take 1 = [a.link]
      rw [List.take_add_one, hhead]
      rfl
  | keep h =>
      have hstate := h.state
      rw [h.eq, List.append_nil]
      exact fun _ => ha hstate
  | @cross r l h =>
      intro _ route hroute
      have hr : route = r := Option.some.inj (hroute.symm.trans h.onRoute.route)
      subst hr
      have hnext : route.full[a.routeIndex + 1]? = some l :=
        (h.onRoute.continuation_spec h.choice).1
      have hbefore := ha h.state route h.onRoute.route
      have hnone : ∀ e ∈ [a.event now (.linkLeave a.vehicle.id),
          (a.crossed l).event now (.linkEnter a.vehicle.id)],
          e.kind.isDeparture = false := by
        intro e he
        simp only [List.mem_cons, List.not_mem_nil, or_false] at he
        rcases he with rfl | rfl <;> rfl
      change LegSoFar _ (route.full.take (a.routeIndex + 1 + 1))
      rw [List.take_add_one, hnext]
      exact hbefore.append hnone
  | arrive h => exact Agent.travelled_startActivity _ _ _ _
  | fail h => exact Agent.travelled_of_ne (by simp [Agent.evicted]) _
  | @replan rep old r plan hrep h =>
      intro _ route hroute
      have hr : route = r := Option.some.inj (hroute.symm.trans h.onRoute.route)
      subst hr
      have hbefore := ha h.state old h.travels.route
      have hnone : ∀ e ∈ [a.event now (.replan route.full)], e.kind.isDeparture = false := by
        intro e he
        simp only [List.mem_singleton] at he
        subst he
        rfl
      change LegSoFar _ (route.full.take (a.routeIndex + 1))
      rw [h.travelled]
      simpa [Agent.event, EventKind.isLinkEnter] using hbefore.append hnone

namespace Simulation

variable {s : Simulation}

/-- At every moment the beginning of every route is in step with the events. -/
theorem Passes.travelled {n : Nat} {m : Moment} (hs : s.first.Sound s.network)
    (hinitial : s.traffic.Initial) (h : s.Passes n m) :
    ∀ id a, m.traffic.agent? id = some a → a.Travelled (m.eventsOf id) := by
  refine h.invariant
    (P := fun _ m => ∀ id a, m.traffic.agent? id = some a → a.Travelled (m.eventsOf id)) hs ?_ ?_ ?_
  · intro id a ha
    exact Agent.travelled_of_ne (by simp [(hinitial.waiting id.index a ha).1]) _
  · intro n m m' _ hm hmove id b hb
    rcases hmove.of_agent hb with ⟨a, events, ha, hevents, ⟨rfl, rfl⟩ | hdeed⟩
    · rw [hevents, List.append_nil]
      exact hm id _ ha
    · rw [hevents]
      exact hdeed.legSoFar (hm id a ha)
  · intro n past t hm id a ha
    rw [Moment.eventsOf, log_next]
    exact hm id a ha

/-- After any number of steps, the route of every agent on its way begins with the links that its
events tell of since the last departure.  The last of them is its link, and the route leads from
the link of the activity before the leg to that of the activity after it. -/
theorem travelled_links {c : Config} {net : Network} {people : Population}
    {replanner : Option Replanner} {strategy : Option (AgentId → Person → Strategy)}
    (h : build c net people replanner strategy = .ok s) (n : Nat) :
    ∃ r, s.recorded n = .ok r ∧ s.history n = .ok r.simulation ∧
      ∀ a ∈ r.simulation.traffic.agents, a.state = .enRoute →
        ∃ route, a.route? = some route ∧
          LegSoFar (r.listeners.ofAgent a.id) (route.full.take (a.routeIndex + 1)) ∧
          route.full[a.routeIndex]? = some a.link ∧
          ∃ i, a.element = i + 1 ∧ a.plan.linkAt i = some route.origin ∧
            a.plan.linkAt (i + 2) = some route.destination := by
  have hs := sound_first h
  rcases exists_recorded hs n with ⟨r, hrecorded, hr⟩
  have hm := hr.sound hs
  refine ⟨r, hrecorded, hr.history, ?_⟩
  intro a ha hstate
  have hself := hm.agent_of_mem ha
  have hcoherent := hm.coherent a.id.index a hself
  rcases hcoherent.place.enRoute hstate with ⟨route, honRoute⟩
  have htravelled := hr.passes.travelled hs (initial_traffic h) a.id a hself hstate route
    honRoute.route
  have hevents : Moment.eventsOf ⟨r.listeners.events.toList, [],
      r.simulation.traffic.clearEvents⟩ a.id = r.listeners.ofAgent a.id := by
    rw [Moment.eventsOf, log_clearEvents]
    simp [EventLog.ofAgent]
  rw [hevents] at htravelled
  rcases honRoute.activity_after hcoherent.plan with ⟨⟨mode, hleg⟩, -⟩
  have hodd := (hcoherent.plan.odd_of_leg hleg).1
  have helement : a.element = a.element - 1 + 1 := by omega
  rcases hcoherent.plan.route _ route honRoute.route with ⟨-, horigin, hdestination⟩
  refine ⟨route, honRoute.route, htravelled, honRoute.position, a.element - 1, helement,
    horigin, ?_⟩
  rwa [helement] at hdestination

/-- The commuter's route begins with where the commuter has been, at a quarter of a minute past
eight. -/
theorem travelled_links_commuter :
    build {} Commuter.net Commuter.people (some Commuter.replanner) none =
        .ok Commuter.simulation ∧
      ∃ r, Commuter.simulation.recorded 28815 = .ok r ∧
        Commuter.simulation.history 28815 = .ok r.simulation ∧
        ∀ a ∈ r.simulation.traffic.agents, a.state = .enRoute →
          ∃ route, a.route? = some route ∧
            LegSoFar (r.listeners.ofAgent a.id) (route.full.take (a.routeIndex + 1)) ∧
            route.full[a.routeIndex]? = some a.link ∧
            ∃ i, a.element = i + 1 ∧ a.plan.linkAt i = some route.origin ∧
              a.plan.linkAt (i + 2) = some route.destination :=
  ⟨Commuter.build_simulation, travelled_links Commuter.build_simulation 28815⟩

end Simulation

end TrafficQueue
