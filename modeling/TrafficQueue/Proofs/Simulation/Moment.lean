import Mathlib.Logic.Relation
import TrafficQueue.Proofs.Agent.Deed
import TrafficQueue.Simulation.Basic

/-!
# Moments and moves

A moment is the traffic at some point of a simulation, together with what it has
left behind (the events of the steps before) and what is ahead (the agents that
are due in the step and have not left yet).  A move leads from one moment to the
next.  Most moves are a deed of one agent with what it does to the queues, to the
schedule and to the counts; two concern nobody in particular.

Main results:

- Definition `Move`: the moves.
- Definitions `Call` and `Onward`: the moves by which somebody is called, and the others.
- Theorem `Move.agents_log`: a move is a deed of one agent or changes no agent, and the
  events are those of the deed.
- Theorem `Move.of_agent`: the same for a given agent and its own events.
- Theorem `Move.replanner_map_eq`: of the replanner nothing changes but its count, so the offers of
  routes come from one provider (`Move.provider_eq`).
-/

namespace TrafficQueue

/-- The traffic at some point of a simulation. -/
structure Moment where
  /-- The events of the steps before. -/
  past : List Event
  /-- Who is due in this step and has not left yet, and since when. -/
  due : List (Time × AgentId)
  traffic : Traffic

namespace Moment

/-- All events so far. -/
def log (m : Moment) : List Event := m.past ++ m.traffic.emitted.toList

/-- All events of an agent so far. -/
def eventsOf (m : Moment) (id : AgentId) : List Event := m.log.filter fun e => e.agent = id

/-- Who is scheduled to leave, now or later. -/
def scheduled (m : Moment) : List (Time × AgentId) := m.due ++ m.traffic.endQueue.entries

end Moment

namespace Traffic

/-- The traffic after an agent has changed and events have told of it. -/
def did (t : Traffic) (a : Agent) (events : List Event) : Traffic :=
  { t with agents := t.agents.setIfInBounds a.id.index a, emitted := t.emitted ++ events }

@[simp]
theorem agents_did (t : Traffic) (a : Agent) (events : List Event) :
    (t.did a events).agents = t.agents.setIfInBounds a.id.index a :=
  rfl

@[simp]
theorem emitted_did (t : Traffic) (a : Agent) (events : List Event) :
    (t.did a events).emitted.toList = t.emitted.toList ++ events := by
  simp [did]

@[simp]
theorem queues_did (t : Traffic) (a : Agent) (events : List Event) :
    (t.did a events).queues = t.queues :=
  rfl

@[simp]
theorem endQueue_did (t : Traffic) (a : Agent) (events : List Event) :
    (t.did a events).endQueue = t.endQueue :=
  rfl

variable (id : AgentId) (transition : Transition) (t : Traffic)

@[simp]
theorem agents_settle : (settle id transition t).agents = t.agents := by
  cases transition <;> rfl

@[simp]
theorem emitted_settle : (settle id transition t).emitted = t.emitted := by
  cases transition <;> rfl

@[simp]
theorem replanner_settle : (settle id transition t).replanner = t.replanner := by
  cases transition <;> rfl

@[simp]
theorem queues_settle : (settle id transition t).queues = t.queues := by
  cases transition <;> rfl

end Traffic

/-! ## Moves -/

section Move

variable (net : Network) (now : Time)

open Traffic in
/-- What can happen from one moment to the next. -/
inductive Move : Moment → Moment → Prop where
  /-- Those who are due are called. -/
  | drain {past t} :
      Move ⟨past, [], t⟩
        ⟨past, t.endQueue.entries.takeWhile fun e => e.1 ≤ now,
          { t with endQueue := (t.endQueue.drain now).2 }⟩
  /-- Who is called and has no route is lost. -/
  | strand {past time due t a act} (hagent : t.agent? a.id = some a) (h : Strands a act) :
      Move ⟨past, (time, a.id) :: due, t⟩
        ⟨past, due,
          { t.did a.stranded
              [a.event now (.activityEnd act.kind), a.event now (.stuck .missingRoute)] with
            stats := t.stats.settle (.stuck .missingRoute) }⟩
  /-- Who is called and stays on its link begins the next activity. -/
  | stay {past time due t a act next mode r} (hagent : t.agent? a.id = some a)
      (h : Stays a act next mode r) :
      Move ⟨past, (time, a.id) :: due, t⟩
        ⟨past, due,
          settle a.id (a.stayed.startActivity next now).answer
            { t.did (a.stayed.startActivity next now).agent
                [a.event now (.activityEnd act.kind), a.event now (.departure mode),
                  a.event now (.arrival mode), a.event now (.activityStart next.kind)] with
              stats :=
                { t.stats with
                  departures := t.stats.departures + 1
                  arrivals := t.stats.arrivals + 1 } }⟩
  /-- Who is called and leaves its link departs. -/
  | depart {past time due t a act mode r d queues} (hagent : t.agent? a.id = some a)
      (h : Departs net a act mode r)
      (hdepart : t.queues.depart a.vehicle a.link now = .ok (d, queues)) :
      Move ⟨past, (time, a.id) :: due, t⟩
        ⟨past, due,
          { t.did (a.departed r)
              [a.event now (.activityEnd act.kind), a.event now (.departure mode)] with
            queues
            stats := { t.stats with departures := t.stats.departures + 1 } }⟩
  /-- A step begins on every link. -/
  | update {past t} : Move ⟨past, [], t⟩ ⟨past, [], t.updateLinks now⟩
  /-- The driver of a due head chooses. -/
  | keep {past t a kept r} (hagent : t.agent? a.id = some a) (hdue : t.isDue now a.link = true)
      (h : Keeps net a kept r) :
      Move ⟨past, [], t⟩ ⟨past, [], t.did kept []⟩
  /-- The head of a link goes on to the next link. -/
  | cross {past t a r l left exit queues} (hagent : t.agent? a.id = some a)
      (h : Crosses net a r l)
      (hleave : t.queues.release a.link now (.link l) = .ok (some a.vehicle, left))
      (henter : left.enqueue a.vehicle l now = .ok (exit, queues)) :
      Move ⟨past, [], t⟩
        ⟨past, [],
          { t.did (a.crossed l)
              [a.event now (.linkLeave a.vehicle.id),
                (a.crossed l).event now (.linkEnter a.vehicle.id)] with
            queues }⟩
  /-- The head of a link begins the next activity. -/
  | arrive {past t a r mode next queues} (hagent : t.agent? a.id = some a)
      (h : Arrives net a r mode next)
      (hleave : t.queues.release a.link now .exit = .ok (some a.vehicle, queues)) :
      Move ⟨past, [], t⟩
        ⟨past, [],
          settle a.id (a.landed.startActivity next now).answer
            { t.did (a.landed.startActivity next now).agent
                [a.event now (.arrival mode), a.event now (.activityStart next.kind)] with
              queues
              stats := { t.stats with arrivals := t.stats.arrivals + 1 } }⟩
  /-- The head of a link is lost. -/
  | fail {past t a r reason queues} (hagent : t.agent? a.id = some a)
      (hdue : t.isDue now a.link = true) (h : Fails net a r reason)
      (hleave : t.queues.evict a.link = .ok (some a.vehicle, queues)) :
      Move ⟨past, [], t⟩
        ⟨past, [],
          { t.did (a.evicted reason) [a.event now (.stuck reason)] with
            queues
            stats := t.stats.settle (.stuck reason) }⟩
  /-- An agent gets another route. -/
  | replan {past t a rep old r plan} (hagent : t.agent? a.id = some a)
      (hreplanner : t.replanner = some rep) (h : Replans net rep now a old r plan) :
      Move ⟨past, [], t⟩
        ⟨past, [],
          { t.did { a with plan, memo := {}, lastReplan := now }
              [a.event now (.replan r.full)] with
            replanner := some { rep with replans := rep.replans + 1 }
            stats := { t.stats with replans := t.stats.replans + 1 } }⟩

/-- Any number of moves. -/
abbrev Moves : Moment → Moment → Prop := Relation.ReflTransGen (Move net now)

/-- The first of those who are due is called. -/
structure Call (m m' : Moment) : Prop where
  move : Move net now m m'
  called : ∃ e, m.due = e :: m'.due

/-- A move while nobody is called. -/
structure Onward (m m' : Moment) : Prop where
  move : Move net now m m'
  before : m.due = []
  after : m'.due = []

/-- Any number of calls. -/
abbrev Calls : Moment → Moment → Prop := Relation.ReflTransGen (Call net now)

/-- Any number of moves while nobody is called. -/
abbrev Onwards : Moment → Moment → Prop := Relation.ReflTransGen (Onward net now)

end Move

/-- What leads onwards are moves. -/
theorem Onward.moves {net : Network} {now : Time} {m m' : Moment} (h : Onwards net now m m') :
    Moves net now m m' := by
  induction h with
  | refl => exact .refl
  | tail _ h ih => exact ih.tail h.move

namespace Moment

variable {m m' : Moment} {a b : Agent} {events : List Event} {id : AgentId}

/-- The events of the agent who acted come after those before. -/
theorem eventsOf_own (hlog : m'.log = m.log ++ events) (hevents : ∀ e ∈ events, e.agent = id) :
    m'.eventsOf id = m.eventsOf id ++ events := by
  have hown : events.filter (fun e => e.agent = id) = events := by
    rw [List.filter_eq_self]
    intro e he
    simpa using hevents e he
  rw [eventsOf, hlog, List.filter_append, hown]
  rfl

/-- The events of the others are as before. -/
theorem eventsOf_other (hlog : m'.log = m.log ++ events) (hevents : ∀ e ∈ events, e.agent ≠ id) :
    m'.eventsOf id = m.eventsOf id := by
  have hother : events.filter (fun e => e.agent = id) = [] := by
    rw [List.filter_eq_nil_iff]
    intro e he
    simpa using hevents e he
  rw [eventsOf, hlog, List.filter_append, hother, List.append_nil]
  rfl

/-- The agent who acted has changed. -/
theorem agent_own (hagent : m.traffic.agent? a.id = some a)
    (hagents : m'.traffic.agents = m.traffic.agents.setIfInBounds a.id.index b) :
    m'.traffic.agent? a.id = some b := by
  have hlt := (Array.getElem?_eq_some_iff.1 hagent).1
  rw [Traffic.agent?, hagents, Array.getElem?_setIfInBounds_self_of_lt hlt]

/-- The other agents are as before. -/
theorem agent_other (hagents : m'.traffic.agents = m.traffic.agents.setIfInBounds a.id.index b)
    (hid : a.id ≠ id) : m'.traffic.agent? id = m.traffic.agent? id := by
  have hindex : a.id.index ≠ id.index := fun heq => hid (Ident.ext heq)
  rw [Traffic.agent?, hagents, Array.getElem?_setIfInBounds_ne hindex]
  rfl

/-- If one agent changes in some way and tells of it, or nobody does, a given agent has changed in
that way and told of it, or nothing has changed for it. -/
theorem of_change {Q : Agent → List Event → Agent → Prop}
    (h : (m'.traffic.agents = m.traffic.agents ∧ m'.log = m.log) ∨
      ∃ a events b, m.traffic.agent? a.id = some a ∧ Q a events b ∧
        m'.traffic.agents = m.traffic.agents.setIfInBounds a.id.index b ∧
        m'.log = m.log ++ events)
    (hevents : ∀ a events b, Q a events b → ∀ e ∈ events, e.agent = a.id)
    (hb : m'.traffic.agent? id = some b) :
    ∃ a events, m.traffic.agent? id = some a ∧ m'.eventsOf id = m.eventsOf id ++ events ∧
      ((b = a ∧ events = []) ∨ Q a events b) := by
  rcases h with ⟨hagents, hlog⟩ | ⟨a, events, c, hagent, hchange, hagents, hlog⟩
  · refine ⟨b, [], ?_, ?_, .inl ⟨rfl, rfl⟩⟩
    · rwa [Traffic.agent?, ← hagents]
    · rw [eventsOf, hlog, List.append_nil]
      rfl
  · have htold := hevents a events c hchange
    by_cases hid : a.id = id
    · subst hid
      cases hb.symm.trans (agent_own hagent hagents)
      exact ⟨a, events, hagent, eventsOf_own hlog htold, .inr hchange⟩
    · refine ⟨b, [], ?_, ?_, .inl ⟨rfl, rfl⟩⟩
      · rwa [agent_other hagents hid] at hb
      · rw [List.append_nil]
        exact eventsOf_other hlog fun e he => htold e he ▸ hid

end Moment

namespace Move

variable {net : Network} {now : Time} {m m' : Moment}

/-- A move is a deed of one agent, or it changes no agent and tells of nothing. -/
theorem agents_log (h : Move net now m m') :
    m'.past = m.past ∧
      ((m'.traffic.agents = m.traffic.agents ∧ m'.log = m.log) ∨
        ∃ a events b, m.traffic.agent? a.id = some a ∧ Deed net m.traffic.replanner now a events b ∧
          m'.traffic.agents = m.traffic.agents.setIfInBounds a.id.index b ∧
          m'.log = m.log ++ events) := by
  cases h with
  | drain => exact ⟨rfl, .inl ⟨rfl, rfl⟩⟩
  | update => exact ⟨rfl, .inl ⟨rfl, rfl⟩⟩
  | strand hagent h =>
      exact ⟨rfl, .inr ⟨_, _, _, hagent, .strand h, rfl, by simp [Moment.log]⟩⟩
  | stay hagent h =>
      refine ⟨rfl, .inr ⟨_, _, _, hagent, .stay h, ?_, by simp [Moment.log]⟩⟩
      simp [Agent.id_startActivity]
  | depart hagent h =>
      exact ⟨rfl, .inr ⟨_, _, _, hagent, .depart h, rfl, by simp [Moment.log]⟩⟩
  | keep hagent hdue h =>
      refine ⟨rfl, .inr ⟨_, _, _, hagent, .keep h, ?_, by simp [Moment.log]⟩⟩
      rw [Traffic.agents_did, (Deed.keep h : Deed net none now _ _ _).id_eq]
  | cross hagent h =>
      exact ⟨rfl, .inr ⟨_, _, _, hagent, .cross h, rfl, by simp [Moment.log]⟩⟩
  | arrive hagent h =>
      refine ⟨rfl, .inr ⟨_, _, _, hagent, .arrive h, ?_, by simp [Moment.log]⟩⟩
      simp [Agent.id_startActivity]
  | fail hagent hdue h =>
      exact ⟨rfl, .inr ⟨_, _, _, hagent, .fail h, rfl, by simp [Moment.log]⟩⟩
  | replan hagent hreplanner h =>
      exact ⟨rfl, .inr ⟨_, _, _, hagent, .replan hreplanner h, rfl, by simp [Moment.log]⟩⟩

/-- Of the replanner nothing changes but its count. -/
theorem replanner_map_eq {β : Type} (f : Replanner → β)
    (hf : ∀ rep count, f { rep with replans := count } = f rep) (h : Move net now m m') :
    m'.traffic.replanner.map f = m.traffic.replanner.map f := by
  cases h with
  | drain => rfl
  | update => rfl
  | strand hagent h => rfl
  | stay hagent h => simp [Traffic.did]
  | depart hagent h hdepart => rfl
  | keep hagent hdue h => rfl
  | cross hagent h hleave henter => rfl
  | arrive hagent h hleave => simp [Traffic.did]
  | fail hagent hdue h hleave => rfl
  | replan hagent hreplanner h => simp [hreplanner, hf]

/-- The replanner always offers the same routes. -/
theorem provider_eq (h : Move net now m m') :
    m'.traffic.replanner.map Replanner.provider = m.traffic.replanner.map Replanner.provider :=
  h.replanner_map_eq Replanner.provider fun _ _ => rfl

/-- Nobody begins to replan. -/
theorem replanner_none (h : Move net now m m') (hm : m.traffic.replanner = none) :
    m'.traffic.replanner = none := by
  have hprovider := h.provider_eq
  rw [hm] at hprovider
  exact Option.map_eq_none_iff.1 hprovider

/-- What a move means for one agent: it has done a deed, or nothing has changed for it. -/
theorem of_agent (h : Move net now m m') {id : AgentId} {b : Agent}
    (hb : m'.traffic.agent? id = some b) :
    ∃ a events, m.traffic.agent? id = some a ∧
      m'.eventsOf id = m.eventsOf id ++ events ∧
      ((b = a ∧ events = []) ∨ Deed net m.traffic.replanner now a events b) :=
  Moment.of_change h.agents_log.2 (fun _ _ _ hdeed e he => (hdeed.mem_events e he).1) hb

end Move

end TrafficQueue
