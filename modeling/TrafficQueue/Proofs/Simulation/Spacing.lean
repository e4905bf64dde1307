import TrafficQueue.Proofs.Simulation.Ending
import TrafficQueue.Proofs.Simulation.Replanning

/-!
# The time between two route changes

An agent keeps the time of its last route change, and the replanner serves it again when
the interval of its rule has passed since then.  Nothing but a route change dates the
agent, so the route changes in its log lie at least the interval apart, whatever legs they
belong to.  An agent that has not changed its route yet carries midnight as the time of
its last change: its first change also waits until the interval has passed since midnight.

Main results:

- Definition `Spaced`: dated route changes that lie an interval apart.
- Theorem `Deed.spaced`: every deed keeps them so.
- Theorem `Simulation.route_changes_spaced`: the route changes of a simulation, and whose
  route can change in a step.
- Theorem `Simulation.first_change_waits`: of those whom another route suits, who gets it.
-/

namespace TrafficQueue

/-! ## Dated route changes -/

/-- When the route changed last. -/
def lastRouteChange (events : List Event) : Option Time :=
  (routeChanges events).getLast?.map Event.time

/-- The route changes lie at least the interval apart, and the last one was at the given time, or
there was none and it is midnight. -/
structure Spaced (interval : Nat) (events : List Event) (last : Time) : Prop where
  dated : last = (lastRouteChange events).getD .zero
  apart : (routeChanges events).Pairwise fun e f => e.time.offset interval ≤ f.time

namespace Spaced

variable {interval : Nat} {events more : List Event} {last now : Time}

theorem nil (interval : Nat) : Spaced interval [] .zero :=
  ⟨rfl, List.Pairwise.nil⟩

/-- Events without a change of route keep the spacing. -/
theorem append_nil (h : Spaced interval events last) (hmore : routeChanges more = []) :
    Spaced interval (events ++ more) last := by
  have hsame : routeChanges (events ++ more) = routeChanges events := by
    rw [routeChanges_append, hmore, List.append_nil]
  constructor
  · rw [lastRouteChange, hsame]
    exact h.dated
  · rw [hsame]
    exact h.apart

/-- No route change is later than the last one. -/
theorem le_last (h : Spaced interval events last) {e : Event} (he : e ∈ routeChanges events) :
    e.time ≤ last := by
  rcases List.eq_nil_or_concat (routeChanges events) with hnone | ⟨before, x, hlast⟩
  · rw [hnone] at he
    cases he
  · have hx : last = x.time := by
      rw [h.dated, lastRouteChange, hlast]
      simp
    have hapart := h.apart
    rw [hlast, List.concat_eq_append] at he hapart
    rcases List.mem_append.1 he with hbefore | hself
    · have hle := (List.pairwise_append.1 hapart).2.2 e hbefore x (List.mem_singleton.2 rfl)
      rw [hx]
      exact Time.le_trans (Time.le_offset _ _) hle
    · rw [List.mem_singleton.1 hself, hx]
      exact Nat.le_refl _

/-- Another route change when the interval has passed since the last one. -/
theorem change (h : Spaced interval events last) (helapsed : last.offset interval ≤ now)
    {e : Event} (htime : e.time = now) (hkind : e.kind.isReplan = true) :
    Spaced interval (events ++ [e]) now := by
  have hchange : routeChanges (events ++ [e]) = routeChanges events ++ [e] := by
    rw [routeChanges_append]
    simp [routeChanges, hkind]
  constructor
  · rw [lastRouteChange, hchange]
    simp [htime]
  · rw [hchange, List.pairwise_append]
    refine ⟨h.apart, List.pairwise_singleton _ _, ?_⟩
    intro x hx y hy
    rw [List.mem_singleton.1 hy, htime]
    exact Time.le_trans (Time.offset_mono (h.le_last hx) interval) helapsed

end Spaced

/-! ## Deeds -/

/-- The start of an activity is no change of route. -/
theorem Agent.lastReplan_startActivity (a : Agent) (act : Activity) (now : Time) :
    (a.startActivity act now).agent.lastReplan = a.lastReplan := by
  rcases a.startActivity_cases act now with ⟨-, h⟩ | ⟨-, h⟩ <;> rw [h]

section Deeds

variable {net : Network} {now : Time} {replanner : Option Replanner} {a b : Agent}
  {events before : List Event}

/-- Nothing dates an agent but a route change, and nothing else tells of one. -/
theorem Deed.lastReplan_cases (h : Deed net replanner now a events b) :
    (b.lastReplan = a.lastReplan ∧ routeChanges events = []) ∨
      ∃ rep links, replanner = some rep ∧ rep.isEligible a now = true ∧ b.lastReplan = now ∧
        events = [a.event now (.replan links)] := by
  cases h with
  | strand | depart | cross | fail => exact .inl ⟨rfl, rfl⟩
  | stay => exact .inl ⟨a.stayed.lastReplan_startActivity _ _, rfl⟩
  | arrive => exact .inl ⟨a.landed.lastReplan_startActivity _ _, rfl⟩
  | keep h =>
      refine .inl ⟨?_, rfl⟩
      rw [h.eq]
  | replan hrep h => exact .inr ⟨_, _, hrep, h.eligible, rfl, rfl⟩

/-- Every deed keeps the route changes of an agent apart and dated. -/
theorem Deed.spaced {interval : Nat} (h : Deed net replanner now a events b)
    (hinterval : ∀ rep, replanner = some rep → rep.rule.interval = interval)
    (hbefore : Spaced interval before a.lastReplan) :
    Spaced interval (before ++ events) b.lastReplan := by
  rcases h.lastReplan_cases with ⟨hlast, hnone⟩ | ⟨rep, links, hrep, heligible, hlast, rfl⟩
  · rw [hlast]
    exact hbefore.append_nil hnone
  · have helapsed := (Replanner.isEligible_iff.1 heligible).2.2.2
    rw [hinterval rep hrep] at helapsed
    rw [hlast]
    exact hbefore.change helapsed rfl rfl

end Deeds

/-! ## Whom another route suits -/

/-- Another route suits an agent: it may change its route and is on the way to another link, it
needs to, and the offer leads from its link to its destination over links of the network. -/
structure Replanner.Suits (rep : Replanner) (net : Network) (now : Time) (a : Agent)
    (offer : Route) : Prop where
  withinDay : a.strategy = .withinDay
  enRoute : a.state = .enRoute
  destination : a.destination? = some offer.destination
  elsewhere : offer.destination ≠ a.link
  need : rep.rule.threshold ≤ ReplanRule.need (rep.contentment a now)
  offered : rep.provider a.link offer.destination ⟨now, a.id⟩ = some offer
  origin : offer.origin = a.link
  known : ∀ l ∈ offer.full, net.hasLink l = true

/-- Of the agents whom another route suits those get it whose last change is dated long enough
ago. -/
theorem Replanner.Suits.replan_iff {rep : Replanner} {net : Network} {now : Time} {a : Agent}
    {offer : Route} (h : rep.Suits net now a offer) (ha : a.Coherent net) :
    (∃ done, rep.replan a net now = .ok (some done)) ↔
      a.lastReplan.offset rep.rule.interval ≤ now := by
  constructor
  · rintro ⟨done, hdone⟩
    rcases exists_grants hdone with ⟨old, offer', hgrants⟩
    exact hgrants.elapsed
  · intro helapsed
    rcases ha.place.enRoute h.enRoute with ⟨old, hold⟩
    have hdestination : offer.destination = old.destination := by
      simpa [Agent.destination?, hold.route] using h.destination.symm
    have hgrants : rep.Grants a net now old offer :=
      { withinDay := h.withinDay
        enRoute := h.enRoute
        route := hold.route
        elsewhere := hdestination ▸ h.elsewhere
        elapsed := helapsed
        need := h.need
        offered := hdestination ▸ h.offered
        origin := h.origin
        destination := hdestination
        known := h.known
        place := hold.position }
    rcases hgrants.replan_eq with ⟨mode, route, -, -, hreplan⟩
    exact ⟨_, hreplan⟩

/-! ## In every simulation -/

namespace Commuter

/-- Everybody is offered one more round, every fifteen seconds at most. -/
def patient : Replanner := { rounds with rule := { interval := 15 } }

/-- An early commuter with this replanner. -/
def circling : Simulation :=
  ⟨{}, net, Config.clock {}, Simulation.initialTraffic {} net
    (single.agents (Simulation.defaultStrategy (some patient))) (some patient)⟩

theorem build_circling : Simulation.build {} net single (some patient) none = .ok circling :=
  Simulation.build_eq_ok_iff.2 ⟨rfl, rfl, rfl⟩

end Commuter

namespace Simulation

variable {c : Config} {net : Network} {people : Population} {rep : Replanner}
  {strategy : Option (AgentId → Person → Strategy)} {s : Simulation} {n : Nat} {m : Moment}

/-- At first nobody has changed its route. -/
theorem lastReplan_of_build {replanner : Option Replanner}
    (h : build c net people replanner strategy = .ok s) {id : AgentId} {a : Agent}
    (ha : s.traffic.agent? id = some a) : a.lastReplan = .zero := by
  rcases build_eq_ok_iff.1 h with ⟨-, -, rfl⟩
  rw [Traffic.agent?, (agents_initialTraffic _ _ _ _).1, Array.getElem?_map,
    Population.agents_getElem?, Option.map_map] at ha
  rcases Option.map_eq_some_iff.1 ha with ⟨person, -, rfl⟩
  simp only [Function.comp_apply, Agent.schedule]
  split <;> rfl

/-- At every moment the route changes of an agent lie the interval apart, and the agent keeps the
time of the last one. -/
theorem Passes.spaced (h : build c net people (some rep) strategy = .ok s) (hpass : s.Passes n m)
    {id : AgentId} {a : Agent} (ha : m.traffic.agent? id = some a) :
    Spaced rep.rule.interval (m.eventsOf id) a.lastReplan := by
  have hs := sound_first h
  have hall : m.traffic.replanner.map (·.rule.interval) = some rep.rule.interval ∧
      ∀ id a, m.traffic.agent? id = some a →
        Spaced rep.rule.interval (m.eventsOf id) a.lastReplan := by
    refine hpass.invariant
      (P := fun _ m => m.traffic.replanner.map (·.rule.interval) = some rep.rule.interval ∧
        ∀ id a, m.traffic.agent? id = some a →
          Spaced rep.rule.interval (m.eventsOf id) a.lastReplan) hs ?_ ?_ ?_
    · refine ⟨congrArg (Option.map (·.rule.interval)) (replanner_of_build h), ?_⟩
      intro id a ha
      rw [lastReplan_of_build h ha]
      exact .nil _
    · rintro n m m' - ⟨hinterval, hspaced⟩ hmove
      refine ⟨(hmove.replanner_map_eq (·.rule.interval) fun _ _ => rfl).trans hinterval, ?_⟩
      intro id b hb
      rcases hmove.of_agent hb with ⟨a, events, ha, hevents, ⟨rfl, rfl⟩ | hdeed⟩
      · rw [hevents, List.append_nil]
        exact hspaced id b ha
      · rw [hevents]
        refine hdeed.spaced (fun rep' hrep' => ?_) (hspaced id a ha)
        rw [hrep'] at hinterval
        exact Option.some.inj hinterval
    · rintro n past t ⟨hinterval, hspaced⟩
      refine ⟨hinterval, fun id a ha => ?_⟩
      rw [Moment.eventsOf, log_next]
      exact hspaced id a ha
  exact hall.2 id a ha

/-- As long as no route changes in a step, the route changes of an agent are those recorded. -/
theorem routeChanges_eventsOf (r : Run EventLog) {t : Traffic}
    (h : routeChanges t.emitted.toList = []) (id : AgentId) :
    routeChanges (Moment.eventsOf ⟨r.listeners.events.toList, [], t⟩ id) =
      routeChanges (r.listeners.ofAgent id) := by
  rw [Moment.eventsOf, Moment.log, List.filter_append, routeChanges_append,
    routeChanges_filter t.emitted.toList, h]
  exact List.append_nil _

/-- Whatever is offered to whom, any two route changes of an agent lie at least the interval of the
rule apart, on one leg or on several.  In a step the route of an agent changes once at most, and
only if the agent may change it and the links have left it on its way and not on its
destination. -/
theorem route_changes_spaced (h : build c net people (some rep) strategy = .ok s) (n : Nat) :
    ∃ r served t, s.recorded n = .ok r ∧ s.history n = .ok r.simulation ∧
      r.simulation.traffic.afterNodes net r.simulation.now = .ok served ∧
      r.simulation.step = .ok t ∧
      (∀ id a, served.agent? id = some a →
        (routeChanges (r.listeners.ofAgent id)).Pairwise
            (fun e f => e.time.offset rep.rule.interval ≤ f.time) ∧
          (routeChanges (t.events.filter fun e => e.agent = id)).length ≤ 1) ∧
      ∀ e ∈ routeChanges t.events, ∃ a d, served.agent? e.agent = some a ∧
        a.strategy = .withinDay ∧ a.state = .enRoute ∧ e.link = a.link ∧
        a.destination? = some d ∧ d ≠ a.link := by
  have hs := sound_first h
  rcases exists_recorded hs n with ⟨r, hr, hrecords⟩
  rcases exists_phases hs (replanner_of_build h) hrecords with
    ⟨served, t, hserved, hstep, hpass, hbefore, htold⟩
  rw [network_of_build h] at hserved htold
  refine ⟨r, served, t, hr, hrecords.history, hserved, hstep, fun id a ha => ⟨?_, ?_⟩,
    fun e he => ?_⟩
  · rw [← routeChanges_eventsOf r hbefore]
    exact (hpass.spaced h ha).apart
  · rw [htold, ha]
    exact rep.length_told_le _ _ a
  · have hown : e ∈ routeChanges (t.events.filter fun f => f.agent = e.agent) := by
      rw [routeChanges_filter]
      exact List.mem_filter.2 ⟨he, decide_eq_true rfl⟩
    rw [htold] at hown
    cases ha : served.agent? e.agent with
    | none =>
        rw [ha] at hown
        cases hown
    | some a =>
        rw [ha] at hown
        rcases rep.told_cases net r.simulation.now a with
          ⟨hnone, -⟩ | ⟨_, old, _, links, -, hgrants, hlinks⟩
        · rw [Option.elim_some, hnone] at hown
          cases hown
        · rw [Option.elim_some, hlinks, List.mem_singleton] at hown
          refine ⟨a, old.destination, rfl, hgrants.withinDay, hgrants.enRoute, ?_, ?_,
            hgrants.elsewhere⟩
          · rw [hown]
            rfl
          · rw [Agent.destination?, hgrants.route, Option.map_some]

/-- The one commuter drives around for another time, and once more. -/
theorem route_changes_spaced_circling :
    build {} Commuter.net Commuter.single (some Commuter.patient) none = .ok Commuter.circling ∧
      ∃ r, Commuter.circling.recorded 31 = .ok r ∧
        (routeChanges (r.listeners.ofAgent ⟨0⟩)).Pairwise
          (fun e f => e.time.offset 15 ≤ f.time) ∧
        (routeChanges (r.listeners.ofAgent ⟨0⟩)).map Event.time = [.ofSecs 15, .ofSecs 30] := by
  rcases route_changes_spaced Commuter.build_circling 31 with
    ⟨r, served, t, hr, hhistory, hserved, -, hagents, -⟩
  have htimes : (Commuter.circling.recorded 31).toOption.map (fun r =>
      (routeChanges (r.listeners.ofAgent ⟨0⟩)).map Event.time) =
        some [.ofSecs 15, .ofSecs 30] := by
    decide +kernel
  have hagent : ((Commuter.circling.history 31).toOption.bind fun t =>
      (t.traffic.afterNodes Commuter.net t.now).toOption.map fun u =>
        (u.agent? ⟨0⟩).isSome) = some true := by
    decide +kernel
  simp only [hr, Except.toOption, Option.map_some, Option.some.injEq] at htimes
  simp only [hhistory, hserved, Except.toOption, Option.bind_some, Option.map_some,
    Option.some.injEq, Option.isSome_iff_exists] at hagent
  rcases hagent with ⟨a, ha⟩
  exact ⟨Commuter.build_circling, r, hr, (hagents ⟨0⟩ a ha).1, htimes⟩

/-- An agent whom another route suits gets it in this step exactly if the interval of the rule has
passed since its last route change, or since midnight if it has not changed its route yet. -/
theorem first_change_waits (h : build c net people (some rep) strategy = .ok s) (n : Nat) :
    ∃ r served t, s.recorded n = .ok r ∧ s.history n = .ok r.simulation ∧
      r.simulation.traffic.afterNodes net r.simulation.now = .ok served ∧
      r.simulation.step = .ok t ∧
      ∀ id a offer, served.agent? id = some a → rep.Suits net r.simulation.now a offer →
        (routeChanges (t.events.filter fun e => e.agent = id) ≠ [] ↔
          ((lastRouteChange (r.listeners.ofAgent id)).getD .zero).offset rep.rule.interval ≤
            r.simulation.now) := by
  have hs := sound_first h
  rcases exists_recorded hs n with ⟨r, hr, hrecords⟩
  rcases exists_phases hs (replanner_of_build h) hrecords with
    ⟨served, t, hserved, hstep, hpass, hbefore, htold⟩
  have hsound := hpass.sound hs
  rw [network_of_build h] at hserved htold hsound
  refine ⟨r, served, t, hr, hrecords.history, hserved, hstep, fun id a offer ha hsuits => ?_⟩
  have hdated := (hpass.spaced h ha).dated
  rw [lastRouteChange, routeChanges_eventsOf r hbefore, ← lastRouteChange] at hdated
  rw [htold, ha, Option.elim_some, Replanner.told_ne_nil_iff,
    hsuits.replan_iff (hsound.coherent _ a ha), hdated]

end Simulation

namespace Commuter

/-- One more round suits the commuter on the second road. -/
theorem suits_patient {now : Time} {a : Agent} (hstrategy : a.strategy = .withinDay)
    (hstate : a.state = .enRoute) (hlink : a.link = ⟨1⟩) (hdest : a.destination? = some ⟨0⟩) :
    patient.Suits net now a ⟨⟨1⟩, [⟨0⟩, ⟨1⟩], ⟨0⟩⟩ where
  withinDay := hstrategy
  enRoute := hstate
  destination := hdest
  elsewhere := by
    rw [hlink]
    decide
  need := by
    change (0.5 : Float) ≤ ReplanRule.need (-1)
    decide +kernel
  offered := by
    rw [hlink]
    rfl
  origin := hlink.symm
  known := by decide

/-- How the links leave the commuter after so many steps. -/
def underWay (n : Nat) : Option (Strategy × AgentState × LinkId × Option LinkId) :=
  (circling.history n).toOption.bind fun t =>
    (t.traffic.afterNodes net t.now).toOption.bind fun u =>
      (u.agent? ⟨0⟩).map fun a => (a.strategy, a.state, a.link, a.destination?)

/-- On the second link and with home ahead, the commuter suits the replanner. -/
theorem exists_suits {n : Nat} {t : Simulation} {served : Traffic}
    (h : underWay n = some (.withinDay, .enRoute, ⟨1⟩, some ⟨0⟩)) (ht : circling.history n = .ok t)
    (hserved : t.traffic.afterNodes net t.now = .ok served) :
    ∃ a, served.agent? ⟨0⟩ = some a ∧
      patient.Suits net t.now a ⟨⟨1⟩, [⟨0⟩, ⟨1⟩], ⟨0⟩⟩ := by
  simp only [underWay, ht, hserved, Except.toOption, Option.bind_some, Option.map_eq_some_iff,
    Prod.mk.injEq] at h
  rcases h with ⟨a, ha, hstrategy, hstate, hlink, hdest⟩
  exact ⟨a, ha, suits_patient hstrategy hstate hlink hdest⟩

end Commuter

namespace Simulation

/-- A quarter of a minute after midnight the commuter gets one more round. -/
theorem first_change_waits_circling :
    build {} Commuter.net Commuter.single (some Commuter.patient) none = .ok Commuter.circling ∧
      ∃ r served t a offer, Commuter.circling.recorded 15 = .ok r ∧
        r.simulation.traffic.afterNodes Commuter.net r.simulation.now = .ok served ∧
        r.simulation.step = .ok t ∧ served.agent? ⟨0⟩ = some a ∧
        Commuter.patient.Suits Commuter.net r.simulation.now a offer ∧
        routeChanges (t.events.filter fun e => e.agent = ⟨0⟩) ≠ [] := by
  rcases first_change_waits Commuter.build_circling 15 with
    ⟨r, served, t, hr, hhistory, hserved, hstep, hchange⟩
  have hway : Commuter.underWay 15 = some (.withinDay, .enRoute, ⟨1⟩, some ⟨0⟩) := by
    decide +kernel
  have hnever : (Commuter.circling.recorded 15).toOption.map (fun r =>
      (lastRouteChange (r.listeners.ofAgent ⟨0⟩), r.simulation.now)) =
        some (none, .ofSecs 15) := by
    decide +kernel
  simp only [hr, Except.toOption, Option.map_some, Option.some.injEq, Prod.mk.injEq] at hnever
  rcases Commuter.exists_suits hway hhistory hserved with ⟨a, ha, hsuits⟩
  refine ⟨Commuter.build_circling, r, served, t, a, _, hr, hserved, hstep, ha, hsuits, ?_⟩
  rw [hchange ⟨0⟩ a _ ha hsuits, hnever.1, hnever.2]
  decide

/-- Ten seconds after midnight one more round suits the commuter, who has never changed its route,
but it does not get it. -/
theorem first_change_held_back :
    build {} Commuter.net Commuter.single (some Commuter.patient) none = .ok Commuter.circling ∧
      ∃ t served a offer u, Commuter.circling.history 10 = .ok t ∧
        t.traffic.afterNodes Commuter.net t.now = .ok served ∧
        served.agent? ⟨0⟩ = some a ∧ Commuter.patient.Suits Commuter.net t.now a offer ∧
        Commuter.circling.history 11 = .ok u ∧
        routeChanges (Commuter.circling.stream 11) = [] := by
  have hs := sound_first Commuter.build_circling
  rcases exists_recorded hs 10 with ⟨r, -, hrecords⟩
  rcases exists_phases hs (replanner_of_build Commuter.build_circling) hrecords with
    ⟨served, u, hserved, hstep, -, -, -⟩
  have hway : Commuter.underWay 10 = some (.withinDay, .enRoute, ⟨1⟩, some ⟨0⟩) := by
    decide +kernel
  have hnever : routeChanges (Commuter.circling.stream 11) = [] := by
    decide +kernel
  rcases Commuter.exists_suits hway hrecords.history hserved with ⟨a, ha, hsuits⟩
  refine ⟨Commuter.build_circling, _, served, a, _, u, hrecords.history, hserved, ha, hsuits, ?_,
    hnever⟩
  rw [history, hrecords.history]
  exact hstep

end Simulation

end TrafficQueue
