import TrafficQueue.Proofs.Agent.Visit
import TrafficQueue.Proofs.Simulation.Reached

/-!
# Nobody is faster than in free flow

Whoever comes onto a link spends the free-flow time of the link there, however long it
waits beside the queue and whatever route it is given meanwhile.  So nobody crosses two
nodes in one step, also if the nodes are served one after the other, as long as there is
time left.

Main results:

- Theorem `Move.conveyed`: who goes off a link is due there, and who comes onto one is not
  due before the free-flow time has passed.
- Theorem `Simulation.Passes.dwells`: at every moment the events tell of visits that take
  the free-flow time.
- Theorem `Simulation.free_flow_spent`: the visits of every agent after any number of steps,
  and the nodes that it crosses in the next one.
-/

namespace TrafficQueue

/-! ## Moves -/

section Moves

variable {net : Network} {now t : Time} {m m' : Moment} {a b : Agent} {events : List Event}
  {v : Vehicle} {l : LinkId}

/-- The vehicle of an agent is on its link while it is on its way, and nowhere else. -/
theorem Moment.Sound.occurrences_vehicle (hm : m.Sound net) (h : m.traffic.agent? a.id = some a)
    (l : LinkId) :
    m.traffic.queues.occurrences a.vehicle l =
      if a.state = .enRoute ∧ a.link = l then 1 else 0 := by
  have hagent : m.traffic.agents[a.vehicle.driver.index]? = some a := h
  have hplaced := hm.placed (a.vehicle, l)
  simpa [hagent, Agent.isOn] using hplaced

/-- A move makes nobody due too early. -/
theorem Move.notBefore (h : Move net now m m') (ht : t ≤ now)
    (hm : m.traffic.queues.NotBefore v l t) : m'.traffic.queues.NotBefore v l t := by
  cases h with
  | drain => exact hm
  | strand hagent h => exact hm
  | stay hagent h => simpa using hm
  | depart hagent h hdepart => exact hm.depart ht hdepart
  | update => exact hm.update ht
  | keep hagent hdue h => exact hm
  | cross hagent h hleave henter => exact (hm.release hleave).enqueue ht henter
  | arrive hagent h hleave => simpa using hm.release hleave
  | fail hagent hdue h hleave => exact hm.evict hleave
  | replan hagent hreplanner h => exact hm

/-- Who goes off a link is due there, and who comes onto one is not due before the free-flow time
has passed. -/
structure Conveyed (now : Time) (m m' : Moment) (a : Agent) (events : List Event) (b : Agent) :
    Prop where
  goes : a.state = .enRoute → (∃ x ∈ events, x.kind.goesOff = true) →
    m.traffic.queues.Due a.vehicle a.link now
  comes : b.state = .enRoute → (∃ x ∈ events, x.kind.comesOn = true) →
    m'.traffic.queues.NotBefore b.vehicle b.link now

/-- An agent that is not on its way before or after comes and goes without its vehicle. -/
theorem conveyed_of_ne (ha : a.state ≠ .enRoute) (hb : b.state ≠ .enRoute) :
    Conveyed now m m' a events b :=
  ⟨fun h => (ha h).elim, fun h => (hb h).elim⟩

/-- An agent that tells of no coming and going is not conveyed at all. -/
theorem conveyed_of_quiet
    (h : ∀ x ∈ events, x.kind.goesOff = false ∧ x.kind.comesOn = false) :
    Conveyed now m m' a events b := by
  constructor
  · rintro - ⟨x, hx, hgoes⟩
    rw [(h x hx).1] at hgoes
    cases hgoes
  · rintro - ⟨x, hx, hcomes⟩
    rw [(h x hx).2] at hcomes
    cases hcomes

/-- What a move means for one agent and its vehicle. -/
theorem Move.conveyed (h : Move net now m m') (hm : m.Sound net) {id : AgentId}
    (hb : m'.traffic.agent? id = some b) :
    ∃ a events, m.traffic.agent? id = some a ∧ m'.eventsOf id = m.eventsOf id ++ events ∧
      ((b = a ∧ events = []) ∨
        Deed net m.traffic.replanner now a events b ∧ Conveyed now m m' a events b) := by
  refine Moment.of_change
    (Q := fun a events b => Deed net m.traffic.replanner now a events b ∧
      Conveyed now m m' a events b) ?_ (fun _ _ _ hdeed e he => (hdeed.1.mem_events e he).1) hb
  clear hb
  cases h with
  | drain => exact .inl ⟨rfl, rfl⟩
  | update => exact .inl ⟨rfl, rfl⟩
  | strand hagent h =>
      refine .inr ⟨_, _, _, hagent, ⟨.strand h, ?_⟩, rfl, by simp [Moment.log]⟩
      exact conveyed_of_ne (by simp [h.state]) (by simp [Agent.stranded])
  | stay hagent h =>
      refine .inr ⟨_, _, _, hagent, ⟨.stay h, ?_⟩, by simp [Agent.id_startActivity],
        by simp [Moment.log]⟩
      exact conveyed_of_ne (by simp [h.state]) (Agent.state_startActivity _ _ _)
  | depart hagent h hdepart =>
      refine .inr ⟨_, _, _, hagent, ⟨.depart h, ?_, ?_⟩, rfl, by simp [Moment.log]⟩
      · intro hstate
        rw [h.state] at hstate
        cases hstate
      · intro _ _
        have habsent := hm.occurrences_vehicle hagent
        simp only [h.state, reduceCtorEq, false_and, if_false] at habsent
        exact (QueueNetwork.notBefore_of_absent (habsent _) now).depart (Nat.le_refl _) hdepart
  | keep hagent hdue h =>
      refine .inr ⟨_, _, _, hagent, ⟨.keep h, ?_⟩, ?_, by simp [Moment.log]⟩
      · exact conveyed_of_quiet (List.forall_mem_nil _)
      · rw [Traffic.agents_did, (Deed.keep h : Deed net none now _ _ _).id_eq]
  | @cross _ _ a r l left _ _ hagent h hleave henter =>
      refine .inr ⟨_, _, _, hagent, ⟨.cross h, ?_, ?_⟩, rfl, by simp [Moment.log]⟩
      · intro _ _
        exact QueueNetwork.due_of_release hleave
      · intro _ _
        have hpresent := hm.occurrences_vehicle hagent l
        have hleft := QueueNetwork.occurrences_release hleave a.vehicle l
        simp only [h.state, true_and] at hpresent hleft
        have habsent : left.occurrences a.vehicle l = 0 := by omega
        exact (QueueNetwork.notBefore_of_absent habsent now).enqueue (Nat.le_refl _) henter
  | arrive hagent h hleave =>
      refine .inr ⟨_, _, _, hagent, ⟨.arrive h, ?_, ?_⟩, by simp [Agent.id_startActivity],
        by simp [Moment.log]⟩
      · intro _ _
        exact QueueNetwork.due_of_release hleave
      · intro hstate
        exact (Agent.state_startActivity _ _ _ hstate).elim
  | fail hagent hdue h hleave =>
      refine .inr ⟨_, _, _, hagent, ⟨.fail h, ?_, ?_⟩, rfl, by simp [Moment.log]⟩
      · intro _ _
        rcases Traffic.isDue_iff.1 hdue with ⟨e, hhead, hexit⟩
        exact QueueNetwork.due_of_evict hleave hhead hexit
      · intro hstate
        cases hstate
  | replan hagent hreplanner h =>
      refine .inr ⟨_, _, _, hagent, ⟨.replan hreplanner h, ?_⟩, rfl, by simp [Moment.log]⟩
      exact conveyed_of_quiet (List.forall_mem_singleton.2 ⟨rfl, rfl⟩)

end Moves

/-! ## Visits at every moment -/

namespace Simulation

variable {s : Simulation} {c : Config} {net : Network} {people : Population}
  {replanner : Option Replanner} {strategy : Option (AgentId → Person → Strategy)} {n : Nat}
  {m : Moment}

/-- Before the first step nobody has visited a link. -/
theorem dwells_first (h : build c net people replanner strategy = .ok s) {id : AgentId} {a : Agent}
    (ha : s.first.traffic.agent? id = some a) :
    ∃ person, people.person? id = some person ∧
      a.Dwells net person.plan s.first.traffic.queues s.clock.now (s.first.eventsOf id) := by
  rcases exists_person h ha with ⟨person, hperson, hplan⟩
  rcases (initial_traffic h).waiting id.index a ha with ⟨hstate, helement⟩
  refine ⟨person, hperson, fun i _ => by rw [hplan], fun _ => helement, ?_, .nil⟩
  simp [hstate]

/-- At every moment the events tell of visits that take the free-flow time. -/
theorem Passes.dwells (h : build c net people replanner strategy = .ok s) (hpass : s.Passes n m) :
    ∀ id a, m.traffic.agent? id = some a →
      ∃ person, people.person? id = some person ∧
        a.Dwells net person.plan m.traffic.queues (s.clock.advanceBy n).now (m.eventsOf id) := by
  have hnet := network_of_build h
  refine (hpass.invariant
    (P := fun n m => (QueueNetwork.ofNetwork net c).Reached m.traffic.queues ∧
      ∀ id a, m.traffic.agent? id = some a →
        ∃ person, people.person? id = some person ∧
          a.Dwells net person.plan m.traffic.queues (s.clock.advanceBy n).now (m.eventsOf id))
    (sound_first h) ?_ ?_ ?_).2
  · exact ⟨Passes.first.reached h, fun id a ha => dwells_first h ha⟩
  · rintro n m m' hm ⟨hreached, hdwells⟩ hmove
    refine ⟨hmove.reached hreached, fun id b hb => ?_⟩
    rw [hnet] at hm hmove
    rcases hmove.conveyed hm hb with ⟨a, events, ha, hevents, hchange⟩
    rcases hdwells id a ha with ⟨person, hperson, ha'⟩
    have hkeep : ∀ t ≤ (s.clock.advanceBy n).now, m.traffic.queues.NotBefore a.vehicle a.link t →
        m'.traffic.queues.NotBefore a.vehicle a.link t := fun t ht => hmove.notBefore ht
    refine ⟨person, hperson, ?_⟩
    rw [hevents]
    rcases hchange with ⟨rfl, rfl⟩ | ⟨hdeed, hconveyed⟩
    · rw [List.append_nil]
      exact ha'.keep hkeep
    · exact hdeed.dwells (hm.freeFlow hreached) hkeep hconveyed.goes hconveyed.comes ha'
  · rintro n past t ⟨hreached, hdwells⟩
    refine ⟨hreached, fun id a ha => ?_⟩
    rcases hdwells id a ha with ⟨person, hperson, ha'⟩
    refine ⟨person, hperson, ?_⟩
    rw [Moment.eventsOf, log_next, Clock.advanceBy_succ]
    exact ha'.later (Clock.now_le_advance _)

end Simulation

/-! ## One node in a step -/

/-- The nodes that an agent has crossed in the step so far. -/
def Moment.crossings (m : Moment) (id : AgentId) : Nat :=
  (m.traffic.emitted.toList.filter fun e => e.agent = id).countP fun e => e.kind.isLinkLeave

/-- The agent has crossed one node in the step at most, and after that it is not due before the
free-flow time has passed. -/
structure Moment.CrossesOnce (now : Time) (m : Moment) (a : Agent) (id : AgentId) : Prop where
  once : m.crossings id ≤ 1
  after : 0 < m.crossings id → a.state = .enRoute →
    m.traffic.queues.NotBefore a.vehicle a.link now

section Crossings

variable {net : Network} {replanner : Option Replanner} {now : Time} {m m' : Moment}
  {a b : Agent} {events : List Event} {id : AgentId}

/-- A deed crosses one node or none; without a crossing, an agent on its way has come onto its link
or was there before. -/
theorem Deed.crossing_cases (h : Deed net replanner now a events b) :
    (events.countP (fun e => e.kind.isLinkLeave) = 0 ∧
        (b.state = .enRoute → (∃ x ∈ events, x.kind.comesOn = true) ∨
          a.state = .enRoute ∧ b.link = a.link ∧ b.id = a.id)) ∨
      (events.countP (fun e => e.kind.isLinkLeave) = 1 ∧ a.state = .enRoute ∧
        (∃ x ∈ events, x.kind.goesOff = true) ∧ ∃ x ∈ events, x.kind.comesOn = true) := by
  cases h with
  | strand h => exact .inl ⟨rfl, fun hstate => by cases hstate⟩
  | stay h => exact .inl ⟨rfl, fun hstate => (Agent.state_startActivity _ _ _ hstate).elim⟩
  | depart h =>
      exact .inl ⟨rfl, fun _ => .inl ⟨_, List.mem_cons_of_mem _ List.mem_cons_self, rfl⟩⟩
  | keep h =>
      refine .inl ⟨rfl, fun _ => .inr ⟨h.state, ?_⟩⟩
      rw [h.eq]
      exact ⟨rfl, rfl⟩
  | cross h =>
      exact .inr ⟨rfl, h.state, ⟨_, List.mem_cons_self, rfl⟩,
        ⟨_, List.mem_cons_of_mem _ List.mem_cons_self, rfl⟩⟩
  | arrive h => exact .inl ⟨rfl, fun hstate => (Agent.state_startActivity _ _ _ hstate).elim⟩
  | fail h => exact .inl ⟨rfl, fun hstate => by cases hstate⟩
  | replan hrep h => exact .inl ⟨rfl, fun _ => .inr ⟨h.state, rfl, rfl⟩⟩

/-- The crossings of an agent are those that its events tell of. -/
theorem Move.crossings_eq (h : Move net now m m')
    (hevents : m'.eventsOf id = m.eventsOf id ++ events) :
    m'.crossings id = m.crossings id + events.countP fun e => e.kind.isLinkLeave := by
  rw [Moment.eventsOf, Moment.eventsOf, Moment.log, Moment.log, h.agents_log.1,
    List.filter_append, List.filter_append, List.append_assoc] at hevents
  rw [Moment.crossings, List.append_cancel_left hevents, List.countP_append]
  rfl

/-- Who has crossed a node is not due again in the same step, while there is time left. -/
theorem Moment.CrossesOnce.not_due {c : Config} (h : m.CrossesOnce now a id) (hm : m.Sound net)
    (hreached : (QueueNetwork.ofNetwork net c).Reached m.traffic.queues) (hnow : now < .never)
    (hstate : a.state = .enRoute) (hdue : m.traffic.queues.Due a.vehicle a.link now) :
    m.crossings id = 0 := by
  by_contra hcrossed
  have hafter := h.after (Nat.pos_of_ne_zero hcrossed) hstate
  rcases hafter.offset_le hdue with ⟨q, hq, hle⟩
  rcases hm.freeFlow hreached a.link q hq with ⟨link, -, hfree⟩
  have hlt : now < now.offset q.freeFlow := Time.lt_offset hnow (hfree ▸ link.one_le_freeFlow)
  exact Nat.not_lt_of_le hle hlt

/-- A move leaves everybody with one crossing at most, while there is time left. -/
theorem Move.crossesOnce {c : Config} (h : Move net now m m') (hm : m.Sound net)
    (hreached : (QueueNetwork.ofNetwork net c).Reached m.traffic.queues) (hnow : now < .never)
    (hbefore : ∀ id a, m.traffic.agent? id = some a → m.CrossesOnce now a id)
    (hb : m'.traffic.agent? id = some b) : m'.CrossesOnce now b id := by
  rcases h.conveyed hm hb with ⟨a, events, ha, hevents, hchange⟩
  have hcount := h.crossings_eq hevents
  have hold := hbefore id a ha
  rcases hchange with ⟨rfl, rfl⟩ | ⟨hdeed, hconveyed⟩
  · rw [List.countP_nil, Nat.add_zero] at hcount
    refine ⟨hcount ▸ hold.once, fun hpos hstate => ?_⟩
    exact h.notBefore (Nat.le_refl _) (hold.after (hcount ▸ hpos) hstate)
  · rcases hdeed.crossing_cases with ⟨hnone, hplace⟩ | ⟨hone, hstate, hgoes, hcomes⟩
    · rw [hnone, Nat.add_zero] at hcount
      refine ⟨hcount ▸ hold.once, fun hpos hstate => ?_⟩
      rcases hplace hstate with hcomes | ⟨hstate', hlink, hid⟩
      · exact hconveyed.comes hstate hcomes
      · have hvehicle : b.vehicle = a.vehicle := by rw [Agent.vehicle, hid]; rfl
        rw [hvehicle, hlink]
        exact h.notBefore (Nat.le_refl _) (hold.after (hcount ▸ hpos) hstate')
    · have hzero := hold.not_due hm hreached hnow hstate (hconveyed.goes hstate hgoes)
      rw [hzero, hone] at hcount
      exact ⟨Nat.le_of_eq hcount, fun _ hstate' => hconveyed.comes hstate' hcomes⟩

end Crossings

namespace Simulation

variable {s : Simulation} {c : Config} {net : Network} {people : Population}
  {replanner : Option Replanner} {strategy : Option (AgentId → Person → Strategy)} {n : Nat}
  {m : Moment}

/-- Before the last moment of time nobody crosses two nodes in one step. -/
theorem Passes.crossesOnce (h : build c net people replanner strategy = .ok s)
    (hpass : s.Passes n m) (hnow : (s.clock.advanceBy n).now < .never) :
    ∀ id a, m.traffic.agent? id = some a →
      m.CrossesOnce (s.clock.advanceBy n).now a id := by
  have hnet := network_of_build h
  refine (hpass.invariant
    (P := fun n m => (QueueNetwork.ofNetwork net c).Reached m.traffic.queues ∧
      ((s.clock.advanceBy n).now < .never → ∀ id a, m.traffic.agent? id = some a →
        m.CrossesOnce (s.clock.advanceBy n).now a id)) (sound_first h) ?_ ?_ ?_).2 hnow
  · refine ⟨Passes.first.reached h, fun _ id a _ => ⟨Nat.zero_le _, fun hpos => ?_⟩⟩
    exact (Nat.lt_irrefl 0 hpos).elim
  · rintro n m m' hm ⟨hreached, hcrosses⟩ hmove
    refine ⟨hmove.reached hreached, fun hnow id b hb => ?_⟩
    rw [hnet] at hm hmove
    exact hmove.crossesOnce hm hreached hnow (hcrosses hnow) hb
  · rintro n past t ⟨hreached, -⟩
    refine ⟨hreached, fun _ id a _ => ⟨Nat.zero_le _, fun hpos => ?_⟩⟩
    exact (Nat.lt_irrefl 0 hpos).elim

/-! ## After any number of steps -/

/-- After any number of steps, let an agent come onto a link on a leg that does not stay on one
link.  With the next event by which it goes off that link it does not go off another, and the
free-flow time of the link has passed.  And in the next step, while there is time left, no agent
crosses more than one node. -/
theorem free_flow_spent (h : build c net people replanner strategy = .ok s) (n : Nat) :
    ∃ r, s.recorded n = .ok r ∧ s.history n = .ok r.simulation ∧
      (∀ a ∈ r.simulation.traffic.agents, ∃ person, people.person? a.id = some person ∧
        ∀ before e since f after,
          r.listeners.ofAgent a.id = before ++ e :: (since ++ f :: after) →
          ComesOn person.plan before e → f.kind.goesOff = true →
          (∀ g ∈ since, g.link = e.link → g.kind.goesOff = false) → TakesFreeFlow net e f) ∧
      ∃ t, r.simulation.step = .ok t ∧
        (r.simulation.now < .never → ∀ a ∈ t.traffic.agents,
          (t.events.filter fun e => e.agent = a.id).countP (fun e => e.kind.isLinkLeave) ≤ 1) := by
  have hs := sound_first h
  rcases exists_recorded hs n with ⟨r, hrecorded, hr⟩
  refine ⟨r, hrecorded, hr.history, ?_, ?_⟩
  · intro a ha
    have hself := (hr.sound hs).agent_of_mem ha
    rcases hr.passes.dwells h a.id a hself with ⟨person, hperson, hdwells⟩
    rw [eventsOf_recorded] at hdwells
    refine ⟨person, hperson, ?_⟩
    intro before e since f after hevents hcomes hoff hsince
    exact hdwells.visits.ended_of_link hevents hcomes hoff hsince
  · rcases exists_done hs hr.history hr.passes with ⟨t, u, hstep, -, htraffic, hdone⟩
    refine ⟨t, hstep, fun hnow a ha => ?_⟩
    rw [Simulation.now, (clock_history hr.history).1] at hnow
    have hself := (hdone.sound hs).agent_of_mem (a := a) (by rwa [htraffic] at ha)
    have hcrosses := hdone.crossesOnce h hnow a.id a hself
    rw [events, htraffic]
    exact hcrosses.once

/-- Two commuters take the time to drive to work. -/
theorem free_flow_spent_jam :
    build {} Commuter.net Commuter.pair none none = .ok Commuter.jam ∧
      ∃ r, Commuter.jam.recorded 12 = .ok r ∧ Commuter.jam.history 12 = .ok r.simulation ∧
        (∀ a ∈ r.simulation.traffic.agents,
          ∃ person, Commuter.pair.person? a.id = some person ∧
            ∀ before e since f after,
              r.listeners.ofAgent a.id = before ++ e :: (since ++ f :: after) →
              ComesOn person.plan before e → f.kind.goesOff = true →
              (∀ g ∈ since, g.link = e.link → g.kind.goesOff = false) →
              TakesFreeFlow Commuter.net e f) ∧
        ∃ t, r.simulation.step = .ok t ∧
          (r.simulation.now < .never → ∀ a ∈ t.traffic.agents,
            (t.events.filter fun e => e.agent = a.id).countP (fun e => e.kind.isLinkLeave) ≤ 1) :=
  ⟨Commuter.build_jam, free_flow_spent Commuter.build_jam 12⟩

/-- The first of them leaves the road where it departed ten seconds later. -/
example :
    ((Commuter.jam.recorded 12).toOption.map fun r =>
      (r.listeners.ofAgent ⟨0⟩).map fun e => (e.time.secs, e.link.index, e.kind.name)) =
      some [(0, 0, "actend"), (0, 0, "departure"), (10, 0, "left link"),
        (10, 1, "entered link")] := by
  decide +kernel

end Simulation

end TrafficQueue
