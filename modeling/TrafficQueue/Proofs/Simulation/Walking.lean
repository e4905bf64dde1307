import TrafficQueue.Proofs.Agent.Walk
import TrafficQueue.Proofs.Simulation.Narrative

/-!
# Legs as plain walks

Without replanning every leg of a run follows the plain walk along its route, whatever
other agents do meanwhile: they can hold an agent up, but lead it nowhere else.

Main results:

- Theorem `Simulation.Passes.walked`: at every moment the legs so far follow the walks.
- Theorem `Simulation.legs_follow_walks`: every leg after any number of steps, and those who
  got stuck on one.
-/

namespace TrafficQueue

namespace Simulation

variable {s : Simulation} {c : Config} {net : Network} {people : Population}
  {strategy : Option (AgentId → Person → Strategy)} {n : Nat} {m : Moment}

/-- What is so of every agent when no route is ever replaced: it keeps the plan of its person, its
events tell a story of it, and its legs follow the walks along the routes. -/
structure WalksPlainly (net : Network) (people : Population) (m : Moment) (id : AgentId)
    (a : Agent) : Prop where
  keeps : ∃ person, people.person? id = some person ∧ a.plan = person.plan
  tells : a.Tells net a.plan (m.eventsOf id)
  walked : Walked net a.plan (m.eventsOf id) (a.OnWalk net)
  out : a.OutIfStuck (m.eventsOf id)

/-- A move takes every agent further on its walk. -/
theorem WalksPlainly.move {now : Time} {m' : Moment} {id : AgentId} {b : Agent}
    (hm : m.Sound net) (hreplanner : m.traffic.replanner = none) (hmove : Move net now m m')
    (hbefore : ∀ id a, m.traffic.agent? id = some a → WalksPlainly net people m id a)
    (hb : m'.traffic.agent? id = some b) : WalksPlainly net people m' id b := by
  rcases hmove.of_agent hb with ⟨a, events, ha, hevents, ⟨rfl, rfl⟩ | hdeed⟩
  · rw [List.append_nil] at hevents
    rcases hbefore id _ ha with ⟨hkeeps, htells, hwalked, hout⟩
    rw [← hevents] at htells hwalked hout
    exact ⟨hkeeps, htells, hwalked, hout⟩
  · rw [hreplanner] at hdeed
    rcases hbefore id a ha with ⟨hkeeps, htells, hwalked, hout⟩
    have hplan := hdeed.plan_eq
    have hcount : a.state = .atActivity →
        a.element = 2 * (m.eventsOf id).countP fun e => e.kind.isDeparture :=
      fun hstate => (htells.atActivity hstate).1.countP_departure.symm
    refine ⟨hplan ▸ hkeeps, ?_, ?_, ?_⟩
    · rw [hevents, hplan]
      exact hdeed.tells (hm.coherent id.index a ha) a.plan.agrees_refl htells
    · rw [hevents, hplan]
      exact hdeed.walked hcount hwalked
    · rw [hevents]
      exact hdeed.outIfStuck hout

/-- At every moment the legs so far follow the walks along their routes. -/
theorem Passes.walked (h : build c net people none strategy = .ok s) (hpass : s.Passes n m) :
    ∀ id a, m.traffic.agent? id = some a → WalksPlainly s.network people m id a := by
  refine (hpass.invariant
    (P := fun _ m => m.traffic.replanner = none ∧
      ∀ id a, m.traffic.agent? id = some a → WalksPlainly s.network people m id a)
    (sound_first h) ?_ ?_ ?_).2
  · refine ⟨replanner_of_build h, fun id a ha => ?_⟩
    rcases exists_person h ha with ⟨person, hperson, hplan⟩
    rcases tells_first h ha with ⟨person', hperson', -, htells⟩
    cases hperson.symm.trans hperson'
    exact ⟨⟨person, hperson, hplan⟩, hplan ▸ htells, .nil _ _ _, List.forall_mem_nil _⟩
  · rintro n m m' hm ⟨hreplanner, hbefore⟩ hmove
    exact ⟨hmove.replanner_none hreplanner, fun id b hb => .move hm hreplanner hmove hbefore hb⟩
  · rintro n past t ⟨hreplanner, hbefore⟩
    refine ⟨hreplanner, fun id a ha => ?_⟩
    rcases hbefore id a ha with ⟨hkeeps, htells, hwalked, hout⟩
    rw [Moment.eventsOf, ← log_next] at htells hwalked hout
    exact ⟨hkeeps, htells, hwalked, hout⟩

/-- Without replanning, after any number of steps, every departure of every agent begins a leg of
its plan: the first departure begins the leg at position one, the next that at position three, and
so on.  If the route does not stay on its link, the agent departs from where the route begins, and
what happens on the leg follows the plain walk along the route.  Who gets stuck is taken out on the
link where it is. -/
theorem legs_follow_walks (h : build c net people none strategy = .ok s) (n : Nat) :
    ∃ r, s.recorded n = .ok r ∧ s.history n = .ok r.simulation ∧
      ∀ a ∈ r.simulation.traffic.agents, ∃ person, people.person? a.id = some person ∧
        (∀ before d since, r.listeners.ofAgent a.id = before ++ d :: since →
          d.kind.isDeparture = true →
          ∃ route,
            person.plan.route? (2 * before.countP (fun e => e.kind.isDeparture) + 1) =
              some route ∧
            (route.isSameLink = false →
              d.link = route.origin ∧ Follows net route (onLeg since))) ∧
        a.OutIfStuck (r.listeners.ofAgent a.id) := by
  have hs := sound_first h
  rcases exists_recorded hs n with ⟨r, hrecorded, hr⟩
  refine ⟨r, hrecorded, hr.history, ?_⟩
  intro a ha
  have hself := (hr.sound hs).agent_of_mem ha
  rcases hr.passes.walked h a.id a hself with ⟨⟨person, hperson, hplan⟩, -, hwalked, hout⟩
  rw [eventsOf_recorded, network_of_build h, hplan] at hwalked
  rw [eventsOf_recorded] at hout
  exact ⟨person, hperson, hwalked.legs, hout⟩

/-- Two commuters drive around for work, one behind the other. -/
theorem legs_follow_walks_jam :
    build {} Commuter.net Commuter.pair none none = .ok Commuter.jam ∧
      ∃ r, Commuter.jam.recorded 50 = .ok r ∧ Commuter.jam.history 50 = .ok r.simulation ∧
        ∀ a ∈ r.simulation.traffic.agents,
          ∃ person, Commuter.pair.person? a.id = some person ∧
            (∀ before d since, r.listeners.ofAgent a.id = before ++ d :: since →
              d.kind.isDeparture = true →
              ∃ route,
                person.plan.route? (2 * before.countP (fun e => e.kind.isDeparture) + 1) =
                  some route ∧
                (route.isSameLink = false →
                  d.link = route.origin ∧ Follows Commuter.net route (onLeg since))) ∧
            a.OutIfStuck (r.listeners.ofAgent a.id) :=
  ⟨Commuter.build_jam, legs_follow_walks Commuter.build_jam 50⟩

/-- The walk around leads over the other road and back, and one that is listed twice in a row cannot
be entered from itself. -/
example :
    Commuter.net.walk ⟨⟨0⟩, [⟨1⟩], ⟨0⟩⟩ = ⟨[⟨1⟩, ⟨0⟩], none⟩ ∧
      Commuter.net.walk ⟨⟨0⟩, [⟨1⟩, ⟨1⟩], ⟨0⟩⟩ = ⟨[⟨1⟩], some .inconsistentDestination⟩ := by
  decide

end Simulation

end TrafficQueue
