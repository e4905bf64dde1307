import TrafficQueue.Proofs.Plan.Drivable
import TrafficQueue.Proofs.Simulation.Balance

/-!
# Runs on which nobody is lost

An agent is lost when it has no route for a leg, or when it cannot turn into the next
link of its route.  Neither happens if everybody starts with least-time routes and is
offered nothing else: what replaces a route is spliced from routes that can be driven,
so it can be driven too.

Main results:

- Definition `Moment.Smooth`: all plans can be driven and nobody has been stuck.
- Theorem `Moment.Smooth.move`: every move keeps it so.
- Theorem `Simulation.nobody_lost`: nobody is ever lost on least-time routes.
-/

namespace TrafficQueue

section LeastTime

variable {net : Network} {a b : Agent} {r : Route} {now : Time}

/-! ## Agents on routes that can be driven -/

/-- A route that can be driven goes on from the agent's link, or ends there. -/
theorem Agent.OnRoute.continuation_ne_stuck (h : a.OnRoute net r) (hr : r.Connected net)
    (reason : StuckReason) :
    a.continuation net r.via r.destination ≠ some (.stuck reason) := by
  intro hstuck
  have hturn : ∀ next, (r.via ++ [r.destination])[a.routeIndex]? = some next →
      net.connects a.link next = some true := fun next hnext =>
    hr.connects h.position (h.full_succ.trans hnext)
  unfold continuation at hstuck
  cases hvia : r.via[a.routeIndex]? with
  | some listed =>
      have hlt := (List.getElem?_eq_some_iff.1 hvia).1
      have hconnects := hturn listed (by rw [List.getElem?_append_left hlt, hvia])
      simp [hvia, hconnects] at hstuck
  | none =>
      have hge := List.getElem?_eq_none_iff.1 hvia
      by_cases hdest : a.link = r.destination
      · simp [hvia, hdest] at hstuck
      · have hlast : a.routeIndex = r.via.length := h.routeIndex_of_ne hge hdest
        have hconnects := hturn r.destination (by rw [hlast, List.getElem?_concat_length])
        simp [hvia, hdest, hconnects] at hstuck

/-- Who has a route for every leg is not stranded. -/
theorem Plan.Drivable.not_strands {act : Activity} (hdrivable : a.plan.Drivable net)
    (hfits : a.plan.Fits net) : ¬ Strands a act := by
  intro h
  rcases hfits.leg_after_activity h.activity h.planned with ⟨leg, hleg⟩
  rcases hdrivable _ leg hleg with ⟨route, hroute, -⟩
  have hnone := h.route
  rw [Plan.route?, hleg, Option.bind_some, hroute] at hnone
  cases hnone

/-- Who has a route that can be driven does not fail on it. -/
theorem Plan.Drivable.not_fails {reason : StuckReason} (hdrivable : a.plan.Drivable net) :
    ¬ Fails net a r reason := fun h =>
  h.onRoute.continuation_ne_stuck (hdrivable.route h.onRoute.route) reason h.choice

/-- A plan can still be driven after its route went on with a least-time route. -/
theorem Replans.drivable {rep : Replanner} {old : Route} {plan : Plan}
    (h : Replans net rep now a old r plan) (hwired : net.Wired)
    (hprovider : rep.provider = .leastTime net) (hdrivable : a.plan.Drivable net) :
    plan.Drivable net := by
  rcases h.offered with ⟨offer, hoffer, hfull⟩
  rcases Replanner.offer?_eq_some_iff.1 hoffer with ⟨destination, -, hroute, hfitting⟩
  rw [hprovider] at hroute
  have horigin := (Replanner.isFitting_iff.1 hfitting).1
  have hpivot : old.full[a.routeIndex]? = some offer.origin := by
    rw [horigin]
    exact h.travels.position
  have hold := hdrivable.route h.travels.route
  have hoffered : offer.Connected net := Network.connected_route? hwired hroute
  exact hdrivable.withRoute h.adopts (hold.splice hoffered hpivot hfull)

/-- On least-time routes every deed leaves a plan that can be driven, and nobody is stuck. -/
theorem Deed.drivable {replanner : Option Replanner} {events : List Event}
    (h : Deed net replanner now a events b) (hwired : net.Wired) (hfits : a.plan.Fits net)
    (hprovider : ∀ rep, replanner = some rep → rep.provider = .leastTime net)
    (ha : a.plan.Drivable net) :
    b.plan.Drivable net ∧ ∀ e ∈ events, e.kind.isStuck = false := by
  constructor
  · rcases h.plan_cases with hplan | ⟨rep, old, r, hrep, hreplans⟩
    · rwa [hplan]
    · exact hreplans.drivable hwired (hprovider rep hrep) ha
  · cases h with
    | strand h => exact (ha.not_strands hfits h).elim
    | fail h => exact (ha.not_fails h).elim
    | stay h => simp [Agent.event, EventKind.isStuck]
    | depart h => simp [Agent.event, EventKind.isStuck]
    | keep h => exact List.forall_mem_nil _
    | cross h => simp [Agent.event, EventKind.isStuck]
    | arrive h => simp [Agent.event, EventKind.isStuck]
    | replan hrep h => simp [Agent.event, EventKind.isStuck]

/-! ## Moments without losses -/

/-- Everybody has a plan that can be driven, offers are least-time routes, and nobody has been
stuck. -/
structure Moment.Smooth (net : Network) (m : Moment) : Prop where
  drivable : ∀ id a, m.traffic.agent? id = some a → a.plan.Drivable net
  provider : ∀ offers, m.traffic.replanner.map Replanner.provider = some offers →
    offers = .leastTime net
  unstuck : ∀ e ∈ m.log, e.kind.isStuck = false

/-- Every move keeps a moment without losses. -/
theorem Moment.Smooth.move {m m' : Moment} (h : m.Smooth net) (hm : m.Sound net)
    (hwired : net.Wired) (hmove : Move net now m m') : m'.Smooth net := by
  have hprovider : ∀ rep, m.traffic.replanner = some rep → rep.provider = .leastTime net :=
    fun rep hrep => h.provider _ (by rw [hrep, Option.map_some])
  refine ⟨?_, ?_, ?_⟩
  · intro id b hb
    rcases hmove.of_agent hb with ⟨a, events, ha, -, ⟨rfl, -⟩ | hdeed⟩
    · exact h.drivable id b ha
    · have hfits := (hm.coherent id.index a ha).plan
      exact (hdeed.drivable hwired hfits hprovider (h.drivable id a ha)).1
  · rw [hmove.provider_eq]
    exact h.provider
  · rcases hmove.agents_log.2 with ⟨-, hlog⟩ | ⟨a, events, b, ha, hdeed, -, hlog⟩
    · rw [hlog]
      exact h.unstuck
    · have hfits := (hm.coherent a.id.index a ha).plan
      rw [hlog, List.forall_mem_append]
      exact ⟨h.unstuck, (hdeed.drivable hwired hfits hprovider (h.drivable a.id a ha)).2⟩

namespace Simulation

variable {s : Simulation}

/-- At every moment of a simulation that starts without losses there are none. -/
theorem Passes.smooth {n : Nat} {m : Moment} (hs : s.first.Sound s.network)
    (hwired : s.network.Wired) (hfirst : s.first.Smooth s.network) (h : s.Passes n m) :
    m.Smooth s.network := by
  refine h.invariant (P := fun _ m => m.Smooth s.network) hs hfirst
    (fun n m m' hm hsmooth hmove => hsmooth.move hm hwired hmove) ?_
  intro n past t hsmooth
  refine ⟨hsmooth.drivable, hsmooth.provider, ?_⟩
  rw [log_next]
  exact hsmooth.unstuck

/-- A simulation starts without losses if everybody has least-time routes and is offered nothing
else. -/
theorem smooth_first {c : Config} {net : Network} {people : Population}
    {replanner : Option Replanner} {strategy : Option (AgentId → Person → Strategy)}
    (hwired : net.Wired) (h : build c net people replanner strategy = .ok s)
    (hpeople : ∀ person ∈ people.persons, person.plan.IsLeastTime net)
    (hreplanner : ∀ rep, replanner = some rep → rep.provider = .leastTime net) :
    s.first.Smooth s.network := by
  have hs := sound_first h
  rcases build_eq_ok_iff.1 h with ⟨-, -, rfl⟩
  refine ⟨?_, ?_, List.forall_mem_nil _⟩
  · intro id a ha
    rcases exists_person h ha with ⟨person, hperson, hplan⟩
    have hleast := hpeople person (Array.mem_of_getElem? hperson)
    rw [← hplan] at hleast
    exact hleast.drivable hwired (hs.coherent id.index a ha).plan
  · intro offers hoffers
    have hkept := (agents_initialTraffic c net
      (people.agents (strategy.getD (defaultStrategy replanner))) replanner).2
    change ((initialTraffic _ _ _ _).replanner).map _ = _ at hoffers
    rw [hkept] at hoffers
    rcases Option.map_eq_some_iff.1 hoffers with ⟨rep, hrep, rfl⟩
    exact hreplanner rep hrep

/-- On least-time routes nobody is ever lost: after any number of steps nobody is counted as lost,
and no event tells of it. -/
theorem nobody_lost {builder : NetworkBuilder} {c : Config} {net : Network} {people : Population}
    {replanner : Option Replanner} {strategy : Option (AgentId → Person → Strategy)}
    (hnet : builder.build = .ok net) (h : build c net people replanner strategy = .ok s)
    (hpeople : ∀ person ∈ people.persons, person.plan.IsLeastTime net)
    (hreplanner : ∀ rep, replanner = some rep → rep.provider = .leastTime net) (n : Nat) :
    ∃ r, s.recorded n = .ok r ∧ s.history n = .ok r.simulation ∧
      r.simulation.traffic.stats.lost = 0 ∧
      ∀ e ∈ r.listeners.events, ∀ reason, e.kind ≠ .stuck reason := by
  have hs := sound_first h
  have hwired := NetworkBuilder.wired hnet
  rcases exists_recorded hs n with ⟨r, hrecorded, hr⟩
  have hsmooth := hr.passes.smooth hs (network_of_build h ▸ hwired)
    (smooth_first hwired h hpeople hreplanner)
  have hunstuck := hsmooth.unstuck
  have hhappened := (hr.passes.counted hs (initial_traffic h)).happened
  rw [log_clearEvents] at hunstuck hhappened
  have hlost := congrArg Happened.lost hhappened
  refine ⟨r, hrecorded, hr.history, ?_, ?_⟩
  · refine hlost.trans (List.countP_eq_zero.2 fun e he => ?_)
    simp [hunstuck e he]
  · intro e he reason hstuck
    have hnone := hunstuck e (Array.mem_toList_iff.2 he)
    rw [hstuck] at hnone
    cases hnone

end Simulation

end LeastTime

/-! ## A day on the way around -/

namespace Detour

/-- There over the hill, back by the direct turn, and a stay. -/
def day : Plan :=
  ⟨[.activity { kind := "home", link := ⟨0⟩, endTime := some (.ofClock 8 0 0) },
    .leg ⟨.car, some ⟨⟨0⟩, [⟨2⟩, ⟨3⟩], ⟨4⟩⟩⟩,
    .activity { kind := "work", link := ⟨4⟩, duration := some 3600 },
    .leg ⟨.car, some ⟨⟨4⟩, [], ⟨0⟩⟩⟩,
    .activity { kind := "home", link := ⟨0⟩, duration := some 3600 },
    .leg ⟨.car, some ⟨⟨0⟩, [], ⟨0⟩⟩⟩,
    .activity { kind := "garden", link := ⟨0⟩ }]⟩

/-- One person with this day. -/
def people : Population := ⟨#[⟨"worker", day⟩]⟩

/-- Offers least-time routes to everybody, at any time. -/
def replanner : Replanner :=
  { rule := {}
    provider := .leastTime net
    contentment := fun _ _ => -1 }

/-- The simulation of this person. -/
def simulation : Simulation :=
  ⟨{}, net, Config.clock {}, Simulation.initialTraffic {} net
    (people.agents (Simulation.defaultStrategy (some replanner))) (some replanner)⟩

theorem validate_people : people.validate net = .ok () := by
  decide +kernel

theorem build_simulation :
    Simulation.build {} net people (some replanner) none = .ok simulation :=
  Simulation.build_eq_ok_iff.2 ⟨rfl, validate_people, rfl⟩

/-- Both drives of the day take the least time. -/
theorem isLeastTime_day : day.IsLeastTime net := by
  have hthere : net.route? ⟨0⟩ ⟨4⟩ = some ⟨⟨0⟩, [⟨2⟩, ⟨3⟩], ⟨4⟩⟩ := by
    decide +kernel
  have hback : net.route? ⟨4⟩ ⟨0⟩ = some ⟨⟨4⟩, [], ⟨0⟩⟩ := by
    decide +kernel
  have hstay : net.route? ⟨0⟩ ⟨0⟩ = some ⟨⟨0⟩, [], ⟨0⟩⟩ := by
    decide +kernel
  intro i leg hleg
  match i with
  | 0 =>
      cases hleg
      exact ⟨_, _, _, rfl, rfl, hthere, rfl⟩
  | 2 =>
      cases hleg
      exact ⟨_, _, _, rfl, rfl, hback, rfl⟩
  | 4 =>
      cases hleg
      exact ⟨_, _, _, rfl, rfl, hstay, rfl⟩
  | 1 => cases hleg
  | 3 => cases hleg
  | 5 => cases hleg
  | i + 6 => cases hleg

end Detour

namespace Simulation

/-- The worker gets home in the end, and nobody is lost. -/
theorem nobody_lost_detour :
    Detour.roads.build = .ok Detour.net ∧
      build {} Detour.net Detour.people (some Detour.replanner) none = .ok Detour.simulation ∧
      ∃ r, Detour.simulation.recorded 40000 = .ok r ∧
        Detour.simulation.history 40000 = .ok r.simulation ∧
        r.simulation.traffic.stats.lost = 0 ∧
        ∀ e ∈ r.listeners.events, ∀ reason, e.kind ≠ .stuck reason := by
  have hpeople : ∀ person ∈ Detour.people.persons, person.plan.IsLeastTime Detour.net := by
    simp [Detour.people, Detour.isLeastTime_day]
  have hreplanner : ∀ rep, some Detour.replanner = some rep →
      rep.provider = .leastTime Detour.net := by
    rintro rep ⟨⟩
    rfl
  exact ⟨Detour.build_roads, Detour.build_simulation,
    nobody_lost Detour.build_roads Detour.build_simulation hpeople hreplanner 40000⟩

end Simulation

end TrafficQueue
