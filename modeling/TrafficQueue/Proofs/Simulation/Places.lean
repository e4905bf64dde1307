import Mathlib.Data.List.Nodup
import TrafficQueue.Proofs.Simulation.Course

/-!
# Every agent is in one place

After every step an agent is at an activity, on its way or removed.  On its way it
is one vehicle in one queue or waiting list, that of its link; at an activity that
it will leave it is one entry of the schedule, at its departure time; removed it is
neither.  Nothing else is on the roads.

Main results:

- Definitions `Agent.InOnePlace` and `Traffic.InPlace`: what it means to be in one place.
- Theorem `Moment.Sound.count_vehicles`: how often a vehicle is on the roads.
- Theorem `Simulation.one_place`: every agent is in one place after every step.
-/

namespace TrafficQueue

/-- The agent is in exactly one place of the traffic. -/
structure Agent.InOnePlace (t : Traffic) (a : Agent) : Prop where
  state : a.state = .atActivity ∨ a.state = .enRoute ∨ ∃ how, a.state = .removed how
  /-- The vehicle is on the roads exactly if its driver is on its way. -/
  onRoad : a.state = .enRoute ↔ a.vehicle ∈ t.queues.vehicles
  /-- It is there once, on the link of its driver. -/
  once : a.state = .enRoute →
    t.queues.vehicles.count a.vehicle = 1 ∧ t.queues.occurrences a.vehicle a.link = 1
  /-- The agent is scheduled exactly if it is at an activity that it will leave. -/
  waits : a.id ∈ t.endQueue.entries.map Prod.snd ↔
    a.state = .atActivity ∧ (∃ leg, a.plan.leg? (a.element + 1) = some leg) ∧
      a.departure ≠ .never
  /-- It is scheduled once, at its departure time. -/
  scheduled : a.id ∈ t.endQueue.entries.map Prod.snd →
    t.endQueue.entries.filter (fun e => e.2 = a.id) = [(a.departure, a.id)]
  gone : ∀ how, a.state = .removed how →
    a.vehicle ∉ t.queues.vehicles ∧ a.id ∉ t.endQueue.entries.map Prod.snd

/-- Every agent has its number and is in one place, and nothing else is on the roads. -/
structure Traffic.InPlace (count : Nat) (t : Traffic) : Prop where
  size : t.agents.size = count
  numbered : ∀ (i : Nat) a, t.agents[i]? = some a → a.id = ⟨i⟩
  agents : ∀ a ∈ t.agents, a.InOnePlace t
  vehicles : ∀ v ∈ t.queues.vehicles, ∃ a ∈ t.agents, a.state = .enRoute ∧ a.vehicle = v

/-- Of the numbers below a bound at most one is a given number. -/
theorem sum_range_ite (n k : Nat) :
    ((List.range n).map fun i => if i = k then 1 else 0).sum = if k < n then 1 else 0 := by
  induction n with
  | zero => rfl
  | succ n ih =>
      rw [List.range_succ, List.map_append, List.sum_append, ih]
      simp only [List.map_cons, List.map_nil, List.sum_singleton]
      by_cases hlt : k < n
      · have hne : ¬ n = k := by omega
        have hlt' : k < n + 1 := by omega
        simp [hlt, hne, hlt']
      · by_cases heq : n = k
        · have hlt' : k < n + 1 := by omega
          simp [heq]
        · have hlt' : ¬ k < n + 1 := by omega
          simp [hlt, heq, hlt']

namespace Moment.Sound

variable {net : Network} {m : Moment} {id : AgentId} {a : Agent}

/-- An agent on its way is on a link that has a queue. -/
theorem link_lt (hm : m.Sound net) (h : m.traffic.agent? id = some a)
    (hstate : a.state = .enRoute) :
    a.link.index < m.traffic.queues.links.size := by
  have ha := hm.coherent _ a h
  rcases ha.place.enRoute hstate with ⟨r, honRoute⟩
  have hknown := honRoute.hasLink ha.plan honRoute.link_mem
  rw [hm.known]
  simpa [Network.hasLink] using hknown

/-- A vehicle is on the roads once if its driver is on its way with it, and not at all otherwise. -/
theorem count_vehicles (hm : m.Sound net) (v : Vehicle) :
    m.traffic.queues.vehicles.count v =
      if (m.traffic.agent? v.driver).any (fun a => a.state = .enRoute ∧ a.vehicle = v) then 1
      else 0 := by
  have hplaced : ∀ i, m.traffic.queues.occurrences v ⟨i⟩ =
      if (m.traffic.agent? v.driver).any (Agent.isOn · (v, ⟨i⟩)) then 1 else 0 :=
    fun i => hm.placed (v, ⟨i⟩)
  rw [QueueNetwork.count_vehicles]
  simp only [hplaced]
  cases hagent : m.traffic.agent? v.driver with
  | none => simp [List.map_const']
  | some a =>
      simp only [Option.any_some, decide_eq_true_eq]
      by_cases h : a.state = .enRoute ∧ a.vehicle = v
      · have hlt := hm.link_lt hagent h.1
        have hon : ∀ i, a.isOn (v, ⟨i⟩) = true ↔ i = a.link.index := by
          intro i
          rw [Agent.isOn_iff h.1]
          constructor
          · rintro ⟨-, hlink⟩
            rw [hlink]
          · rintro rfl
            exact ⟨h.2, rfl⟩
        simp only [hon, h, and_self, if_true]
        rw [sum_range_ite, if_pos hlt]
      · have hoff : ∀ i, a.isOn (v, ⟨i⟩) = false := by
          intro i
          simp only [Agent.isOn, decide_eq_false_iff_not]
          exact fun hon => h ⟨hon.1, hon.2.1⟩
        simp [hoff, h, List.map_const']

/-- The vehicle of an agent is on the network just when the agent is on its way. -/
theorem mem_vehicles_iff (hm : m.Sound net) (h : m.traffic.agent? a.id = some a) :
    a.vehicle ∈ m.traffic.queues.vehicles ↔ a.state = .enRoute := by
  have hdriver : m.traffic.agent? a.vehicle.driver = some a := h
  rw [← List.count_pos_iff, hm.count_vehicles, hdriver]
  by_cases hstate : a.state = .enRoute <;> simp [hstate]

/-- The entries of an agent: one if it awaits its departure, and none otherwise. -/
theorem filter_scheduled (hm : m.Sound net) (h : m.traffic.agent? a.id = some a) :
    m.scheduled.filter (fun e => e.2 = a.id) =
      if a.awaits (a.departure, a.id) then [(a.departure, a.id)] else [] := by
  have hcount : ∀ e ∈ m.scheduled, e.2 = a.id → a.awaits e = true := by
    rintro ⟨time, id⟩ he rfl
    have hpos : 0 < m.scheduled.count (time, a.id) := List.count_pos_iff.2 he
    rcases Claimed.exists_of_pos hm.listed hpos with ⟨b, hb, hawaits⟩
    cases hb.symm.trans h
    exact hawaits
  have hself : ∀ {e}, a.awaits e = true → e = (a.departure, a.id) := by
    intro e he
    simp only [Agent.awaits, decide_eq_true_eq] at he
    exact he.2.2.2.symm
  by_cases hawaits : a.awaits (a.departure, a.id) = true
  · have hone : m.scheduled.count (a.departure, a.id) = 1 := by
      have hk := hm.listed (a.departure, a.id)
      have hagent : m.traffic.agents[a.id.index]? = some a := h
      simpa [hagent, hawaits] using hk
    have hsame : m.scheduled.filter (fun e => e.2 = a.id) =
        m.scheduled.filter fun e => e == (a.departure, a.id) := by
      apply List.filter_congr
      intro e he
      by_cases hid : e.2 = a.id
      · have heq := hself (hcount e he hid)
        simp [heq]
      · have hne : e ≠ (a.departure, a.id) := by
          rintro rfl
          exact hid rfl
        simp [hid, hne]
    rw [hsame, List.filter_beq, hone, if_pos hawaits]
    rfl
  · rw [if_neg hawaits, List.filter_eq_nil_iff]
    intro e he hid
    have hclaim := hcount e he (by simpa using hid)
    rw [hself hclaim] at hclaim
    exact hawaits hclaim

/-- Whatever is on the roads is the vehicle of an agent on its way. -/
theorem exists_of_mem_vehicles (hm : m.Sound net) {v : Vehicle}
    (hv : v ∈ m.traffic.queues.vehicles) :
    ∃ a, m.traffic.agent? v.driver = some a ∧ a.state = .enRoute ∧ a.vehicle = v := by
  rw [← List.count_pos_iff, hm.count_vehicles] at hv
  cases hagent : m.traffic.agent? v.driver with
  | none => simp [hagent] at hv
  | some a =>
      refine ⟨a, rfl, ?_⟩
      by_contra hnot
      simp [hagent, hnot] at hv

/-- As many vehicles are on the roads as agents are on their way. -/
theorem length_vehicles (hm : m.Sound net) :
    m.traffic.queues.vehicles.length = m.traffic.agents.countP Agent.isEnRoute := by
  have honce : m.traffic.queues.vehicles.Nodup := by
    rw [List.nodup_iff_count_le_one]
    intro v
    rw [hm.count_vehicles]
    split <;> omega
  have hdrivers : ((m.traffic.agents.toList.filter Agent.isEnRoute).map Agent.vehicle).Nodup := by
    refine List.pairwise_map.2 ((hm.pairwise_id.filter _).imp ?_)
    intro a b hne heq
    exact hne (congrArg Vehicle.driver heq)
  have hsame : ∀ v, v ∈ m.traffic.queues.vehicles ↔
      v ∈ (m.traffic.agents.toList.filter Agent.isEnRoute).map Agent.vehicle := by
    intro v
    simp only [List.mem_map, List.mem_filter, Array.mem_toList_iff, Agent.isEnRoute,
      decide_eq_true_eq]
    constructor
    · intro hv
      rcases hm.exists_of_mem_vehicles hv with ⟨a, hagent, hstate, hvehicle⟩
      exact ⟨a, ⟨Array.mem_of_getElem? hagent, hstate⟩, hvehicle⟩
    · rintro ⟨a, ⟨ha, hstate⟩, rfl⟩
      exact (hm.mem_vehicles_iff (hm.agent_of_mem ha)).2 hstate
  have hperm := (List.perm_ext_iff_of_nodup honce hdrivers).2 hsame
  rw [hperm.length_eq, List.length_map, ← List.countP_eq_length_filter, Array.countP_toList]

/-- Every agent of a sound moment between two steps is in one place. -/
theorem inOnePlace {past : List Event} {t : Traffic} (hm : Moment.Sound net ⟨past, [], t⟩)
    (h : t.agent? a.id = some a) : a.InOnePlace t := by
  have ha := hm.coherent _ a h
  have hroad := hm.mem_vehicles_iff h
  have hentries : t.endQueue.entries.filter (fun e => e.2 = a.id) =
      if a.awaits (a.departure, a.id) then [(a.departure, a.id)] else [] := hm.filter_scheduled h
  have hawaits : a.awaits (a.departure, a.id) = true ↔
      a.state = .atActivity ∧ a.element + 1 < a.plan.length ∧ a.departure ≠ .never := by
    simp [Agent.awaits]
  have hleg : a.state = .atActivity →
      ((∃ leg, a.plan.leg? (a.element + 1) = some leg) ↔ a.element + 1 < a.plan.length) := by
    intro hstate
    constructor
    · rintro ⟨leg, hleg⟩
      exact Plan.lt_of_element? (Plan.leg?_eq_some_iff.1 hleg)
    · intro hlt
      rcases Plan.linkAt_eq_some_iff.1 (ha.place.atActivity hstate) with ⟨act, hact, -⟩
      exact ha.plan.leg_after_activity hact hlt
  have hlisted : a.id ∈ t.endQueue.entries.map Prod.snd ↔
      a.awaits (a.departure, a.id) = true := by
    constructor
    · intro hmem
      rcases List.mem_map.1 hmem with ⟨e, he, hid⟩
      by_contra hnot
      rw [if_neg hnot, List.filter_eq_nil_iff] at hentries
      exact hentries e he (by simpa using hid)
    · intro hyes
      rw [if_pos hyes] at hentries
      have hmem : (a.departure, a.id) ∈ t.endQueue.entries.filter fun e => e.2 = a.id := by
        rw [hentries]
        exact List.mem_singleton_self _
      exact List.mem_map.2 ⟨_, (List.mem_filter.1 hmem).1, rfl⟩
  refine ⟨ha.place.state_cases, hroad.symm, ?_, ?_, ?_, ?_⟩
  · intro hstate
    constructor
    · have hdriver : t.agent? a.vehicle.driver = some a := h
      have hcount := hm.count_vehicles a.vehicle
      simpa [hdriver, hstate] using hcount
    · have hagent : t.agents[a.vehicle.driver.index]? = some a := h
      have hcount := hm.placed (a.vehicle, a.link)
      simpa [hagent, Agent.isOn, hstate] using hcount
  · rw [hlisted, hawaits]
    constructor
    · rintro ⟨hstate, hlt, hnever⟩
      exact ⟨hstate, (hleg hstate).2 hlt, hnever⟩
    · rintro ⟨hstate, hlt, hnever⟩
      exact ⟨hstate, (hleg hstate).1 hlt, hnever⟩
  · intro hmem
    rw [hentries, if_pos (hlisted.1 hmem)]
  · intro how hstate
    constructor
    · intro hmem
      rw [hroad.1 hmem] at hstate
      cases hstate
    · intro hmem
      rw [(hawaits.1 (hlisted.1 hmem)).1] at hstate
      cases hstate

end Moment.Sound

namespace Simulation

variable {s : Simulation}

/-- Agents neither come nor go. -/
theorem Passes.size_agents {n : Nat} {m : Moment} (hs : s.first.Sound s.network)
    (h : s.Passes n m) : m.traffic.agents.size = s.traffic.agents.size := by
  refine h.invariant (P := fun _ m => m.traffic.agents.size = s.traffic.agents.size) hs rfl ?_ ?_
  · intro n m m' _ hsize hmove
    rcases hmove.agents_log.2 with ⟨hagents, -⟩ | ⟨a, events, b, -, -, hagents, -⟩
    · rw [hagents, hsize]
    · rw [hagents, Array.size_setIfInBounds, hsize]
  · intro n past t hsize
    exact hsize

/-- At the start there are all agents. -/
theorem size_initialTraffic (c : Config) (net : Network) (agents : Array Agent)
    (replanner : Option Replanner) :
    (initialTraffic c net agents replanner).agents.size = agents.size := by
  have hfold : ∀ (xs : List Agent) (t : Traffic),
      (xs.foldl (enter c.startTime) t).agents.size = t.agents.size + xs.length := by
    intro xs
    induction xs with
    | nil => exact fun _ => rfl
    | cons a xs ih =>
        intro t
        rw [List.foldl_cons, ih, size_enter, List.length_cons]
        omega
  rw [initialTraffic, ← Array.foldl_toList, hfold]
  simp

/-- After every step every agent is in one place, whatever the network is and whoever replans. -/
theorem one_place {c : Config} {net : Network} {people : Population}
    {replanner : Option Replanner} {strategy : Option (AgentId → Person → Strategy)}
    (h : build c net people replanner strategy = .ok s) (n : Nat) :
    ∃ t, s.history n = .ok t ∧ t.traffic.InPlace people.size := by
  have hs := sound_first h
  rcases exists_recorded hs n with ⟨r, -, hr⟩
  have hm := hr.sound hs
  refine ⟨r.simulation, hr.history, ?_, hm.numbered, ?_, ?_⟩
  · have hsize := hr.passes.size_agents hs
    rcases build_eq_ok_iff.1 h with ⟨-, -, rfl⟩
    rw [size_initialTraffic, Population.size_agents] at hsize
    exact hsize
  · intro a ha
    exact hm.inOnePlace (hm.agent_of_mem ha)
  · intro v hv
    rcases hm.exists_of_mem_vehicles hv with ⟨a, hagent, ha⟩
    exact ⟨a, Array.mem_of_getElem? hagent, ha⟩

/-- The commuter is somewhere after any number of steps. -/
theorem one_place_commuter :
    build {} Commuter.net Commuter.people (some Commuter.replanner) none =
        .ok Commuter.simulation ∧
      ∃ t, Commuter.simulation.history 30000 = .ok t ∧ t.traffic.InPlace 1 :=
  ⟨Commuter.build_simulation, one_place Commuter.build_simulation 30000⟩

end Simulation

end TrafficQueue
