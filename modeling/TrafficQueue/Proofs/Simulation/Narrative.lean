import TrafficQueue.Proofs.Agent.Story
import TrafficQueue.Proofs.Simulation.Course

/-!
# What the events of a run tell

The events of every agent, however many steps a run has made, are a story of the plan
of its person, and the story ends on the link on which the agent is.

Main results:

- Theorem `Simulation.Passes.tells`: at every moment the events tell the stories of the
  agents.
- Theorem `Simulation.stories_told`: the stories after any number of steps, and where they
  stop.
-/

namespace TrafficQueue

namespace Simulation

variable {s : Simulation} {c : Config} {net : Network} {people : Population}
  {replanner : Option Replanner} {strategy : Option (AgentId → Person → Strategy)}

/-- Before the first step there is nothing to tell. -/
theorem tells_first (h : build c net people replanner strategy = .ok s) {id : AgentId} {a : Agent}
    (ha : s.first.traffic.agent? id = some a) :
    ∃ person, people.person? id = some person ∧ person.plan.Agrees a.plan ∧
      a.Tells s.network person.plan (s.first.eventsOf id) := by
  rcases exists_person h ha with ⟨person, hperson, hplan⟩
  rcases (initial_traffic h).waiting id.index a ha with ⟨hstate, helement⟩
  have hlink := ((sound_first h).coherent id.index a ha).place.atActivity hstate
  refine ⟨person, hperson, hplan ▸ a.plan.agrees_refl, ?_⟩
  unfold Agent.Tells
  rw [hstate, ← hplan]
  refine ⟨?_, hlink⟩
  rw [helement]
  exact .none

/-- At every moment the events tell the stories of the agents. -/
theorem Passes.tells (h : build c net people replanner strategy = .ok s) {n : Nat} {m : Moment}
    (hpass : s.Passes n m) :
    ∀ id a, m.traffic.agent? id = some a →
      ∃ person, people.person? id = some person ∧ person.plan.Agrees a.plan ∧
        a.Tells s.network person.plan (m.eventsOf id) := by
  refine hpass.invariant
    (P := fun _ m => ∀ id a, m.traffic.agent? id = some a →
      ∃ person, people.person? id = some person ∧ person.plan.Agrees a.plan ∧
        a.Tells s.network person.plan (m.eventsOf id)) (sound_first h) ?_ ?_ ?_
  · exact fun id a ha => tells_first h ha
  · intro n m m' hm htells hmove id b hb
    rcases hmove.of_agent hb with ⟨a, events, ha, hevents, ⟨rfl, rfl⟩ | hdeed⟩
    · rw [hevents, List.append_nil]
      exact htells id _ ha
    · rcases htells id a ha with ⟨person, hperson, hagrees, ha'⟩
      have hcoherent := hm.coherent id.index a ha
      rw [hevents]
      exact ⟨person, hperson, hdeed.agrees hagrees, hdeed.tells hcoherent hagrees ha'⟩
  · intro n past t htells id a ha
    rw [Moment.eventsOf, log_next]
    exact htells id a ha

/-- After any number of steps, the events of every agent are a story of the plan of its person,
which ends on the link on which the agent is.  Nothing follows when the agent got stuck, and
nothing follows the start of the last activity: the activities that start stand at the positions
two, four and so on of the plan. -/
theorem stories_told (h : build c net people replanner strategy = .ok s) (n : Nat) :
    ∃ r, s.recorded n = .ok r ∧ s.history n = .ok r.simulation ∧
      ∀ a ∈ r.simulation.traffic.agents, ∃ person, people.person? a.id = some person ∧
        Story net person.plan a.id (r.listeners.ofAgent a.id) a.link ∧
        ∀ before e after, r.listeners.ofAgent a.id = before ++ e :: after →
          (e.kind.isStuck = true ∨ e.kind.isActivityStart = true ∧
            2 * (before.countP (fun f => f.kind.isActivityStart) + 1) + 1 =
              person.plan.length) →
          after = [] := by
  have hs := sound_first h
  rcases exists_recorded hs n with ⟨r, hrecorded, hr⟩
  refine ⟨r, hrecorded, hr.history, ?_⟩
  intro a ha
  have hself := (hr.sound hs).agent_of_mem ha
  rcases hr.passes.tells h a.id a hself with ⟨person, hperson, -, htells⟩
  rw [eventsOf_recorded, network_of_build h] at htells
  have hstory := htells.story
  refine ⟨person, hperson, hstory, ?_⟩
  rintro before e after hsplit (hstuck | ⟨hstart, hlast⟩)
  · exact hstory.eq_nil_of_stuck hsplit hstuck
  · exact hstory.eq_nil_of_last hsplit hstart hlast

/-- The commuter's story, also when the way home is missing. -/
theorem stories_told_commuter :
    build {} Commuter.net Commuter.people (some Commuter.replanner) none =
        .ok Commuter.simulation ∧
      ∃ r, Commuter.simulation.recorded 40000 = .ok r ∧
        Commuter.simulation.history 40000 = .ok r.simulation ∧
        ∀ a ∈ r.simulation.traffic.agents,
          ∃ person, Commuter.people.person? a.id = some person ∧
            Story Commuter.net person.plan a.id (r.listeners.ofAgent a.id) a.link ∧
            ∀ before e after, r.listeners.ofAgent a.id = before ++ e :: after →
              (e.kind.isStuck = true ∨ e.kind.isActivityStart = true ∧
                2 * (before.countP (fun f => f.kind.isActivityStart) + 1) + 1 =
                  person.plan.length) →
              after = [] :=
  ⟨Commuter.build_simulation, stories_told Commuter.build_simulation 40000⟩

end Simulation

end TrafficQueue
