import TrafficQueue.Proofs.Network.Adjacency
import TrafficQueue.Proofs.Simulation.Sound

/-!
# The start of a simulation

An accepted population becomes agents at the first activity of their plans.  They
enter one after the other, and whoever has somewhere to go is scheduled.

Main results:

- Theorem `Simulation.build_eq_ok_iff`: what is built, and when.
- Theorem `Simulation.initialTraffic_induction`: what holds without agents and is kept
  when an agent enters holds of the traffic before the first step.
- Theorem `Simulation.sound_initialTraffic`: the first moment is sound.
- Theorem `Simulation.exists_person`: every agent has the plan of its person.
-/

namespace TrafficQueue

/-- An agent that has not entered yet: it is at the first activity of a fitting plan. -/
structure Agent.Fresh (net : Network) (i : Nat) (a : Agent) : Prop where
  id : a.id = ⟨i⟩
  plan : a.plan.Fits net
  state : a.state = .atActivity
  element : a.element = 0
  link : a.plan.linkAt 0 = some a.link

/-- Everybody is at the first activity of the plan, and nothing is counted but who is
scheduled. -/
structure Traffic.Initial (t : Traffic) : Prop where
  waiting : ∀ (i : Nat) a, t.agents[i]? = some a → a.state = .atActivity ∧ a.element = 0
  stats : t.stats = { living := t.endQueue.length }
  empty : t.queues.vehicles = []

theorem Population.size_agents (p : Population) (strategy : AgentId → Person → Strategy) :
    (p.agents strategy).size = p.size := by
  simp [agents, numbered, size]

/-- The agents of a valid population are fresh. -/
theorem Population.fresh_agents {p : Population} {net : Network}
    {strategy : AgentId → Person → Strategy} (h : p.validate net = .ok ()) {i : Nat} {a : Agent}
    (ha : (p.agents strategy)[i]? = some a) : a.Fresh net i := by
  rw [agents_getElem?] at ha
  rcases Option.map_eq_some_iff.1 ha with ⟨person, hperson, rfl⟩
  have hvalid := Population.validate_eq_ok_iff.1 h person (Array.mem_of_getElem? hperson)
  have hfits := Plan.fits_of_validate hvalid
  have hodd := hfits.odd
  rcases hfits.activity 0 (by omega) rfl with ⟨act, hact, -⟩
  refine ⟨rfl, hfits, rfl, rfl, ?_⟩
  simp [Agent.ofPerson, Plan.linkAt, hact]

namespace Simulation

variable {net : Network} {c : Config} {a : Agent} {t : Traffic} {start : Time}
  {replanner : Option Replanner}

/-- What is built, and when. -/
theorem build_eq_ok_iff {people : Population}
    {strategy : Option (AgentId → Person → Strategy)} {s : Simulation} :
    build c net people replanner strategy = .ok s ↔
      c.validate = .ok () ∧ people.validate net = .ok () ∧
        s = ⟨c, net, c.clock, initialTraffic c net
          (people.agents (strategy.getD (defaultStrategy replanner))) replanner⟩ := by
  unfold build
  cases hc : c.validate with
  | error e => simp [Except.mapError, bind, Except.bind]
  | ok _ =>
      cases hp : people.validate net with
      | error e => simp [Except.mapError, bind, Except.bind]
      | ok _ =>
          simp only [Except.mapError, bind, Except.bind, pure, Except.pure, Except.ok.injEq,
            true_and]
          exact eq_comm

/-! ## Entering -/

/-- The agent with its first departure time. -/
def ready (start : Time) (act : Activity) (a : Agent) : Agent :=
  { a with departure := act.departure start }

/-- An agent enters; it is scheduled if it has a leg and a time to begin it. -/
theorem enter_cases {act : Activity} (hact : a.plan.activity? 0 = some act) (start : Time)
    (t : Traffic) :
    (1 < a.plan.length ∧ act.departure start ≠ .never ∧
        enter start t a =
          { t with
            agents := t.agents.push (ready start act a)
            endQueue := (t.endQueue.push (act.departure start) a.id).2
            stats := { t.stats with living := t.stats.living + 1 } }) ∨
      (¬ (1 < a.plan.length ∧ act.departure start ≠ .never) ∧
        enter start t a = { t with agents := t.agents.push (ready start act a) }) := by
  unfold enter Agent.schedule
  rw [hact]
  by_cases h : 1 < a.plan.length ∧ act.departure start ≠ .never
  · refine .inl ⟨h.1, h.2, ?_⟩
    simp only [h, and_self, ne_eq, not_false_eq_true, if_true]
    rfl
  · refine .inr ⟨h, ?_⟩
    simp only [h, if_false]
    rfl

/-- One more agent has entered. -/
theorem size_enter (start : Time) (t : Traffic) (a : Agent) :
    (enter start t a).agents.size = t.agents.size + 1 := by
  unfold enter
  split <;> simp

/-- Who enters has found out when its first activity ends. -/
theorem agents_enter (start : Time) (t : Traffic) (a : Agent) :
    (enter start t a).agents = t.agents.push (a.schedule start).2 := by
  unfold enter
  rcases a.schedule start with ⟨transition, b⟩
  cases transition <;> rfl

theorem replanner_enter (start : Time) (t : Traffic) (a : Agent) :
    (enter start t a).replanner = t.replanner := by
  unfold enter
  split <;> rfl

/-- All agents enter, in their order, and the replanner is the given one. -/
theorem agents_initialTraffic (c : Config) (net : Network) (agents : Array Agent)
    (replanner : Option Replanner) :
    (initialTraffic c net agents replanner).agents =
        agents.map (fun a => (a.schedule c.startTime).2) ∧
      (initialTraffic c net agents replanner).replanner = replanner := by
  have hfold : ∀ (xs : List Agent) (t : Traffic),
      (xs.foldl (enter c.startTime) t).agents.toList =
          t.agents.toList ++ xs.map (fun a => (a.schedule c.startTime).2) ∧
        (xs.foldl (enter c.startTime) t).replanner = t.replanner := by
    intro xs
    induction xs with
    | nil =>
        intro t
        simp
    | cons a xs ih =>
        intro t
        rw [List.foldl_cons, (ih _).1, (ih _).2, agents_enter, replanner_enter]
        simp
  unfold initialTraffic
  rw [← Array.foldl_toList]
  have hlist := hfold agents.toList { agents := #[], queues := .ofNetwork net c, replanner }
  exact ⟨Array.toList_inj.1 (by simpa using hlist.1), hlist.2⟩

/-- What holds without agents and is kept when an agent enters holds of the traffic before the
first step. -/
theorem initialTraffic_induction {agents : Array Agent} {P : Traffic → Prop}
    (hagents : ∀ (i : Nat) a, agents[i]? = some a → a.Fresh net i)
    (hempty : P { agents := #[], queues := .ofNetwork net c, replanner })
    (henter : ∀ t a, P t → a.Fresh net t.agents.size → P (enter c.startTime t a)) :
    P (initialTraffic c net agents replanner) := by
  have hfold : ∀ (xs : List Agent) (t : Traffic), P t →
      (∀ (i : Nat) a, xs[i]? = some a → a.Fresh net (t.agents.size + i)) →
      P (xs.foldl (enter c.startTime) t) := by
    intro xs
    induction xs with
    | nil =>
        intro t ht _
        exact ht
    | cons a xs ih =>
        intro t ht hxs
        apply ih _ (henter t a ht (hxs 0 a rfl))
        intro i b hb
        have hfresh := hxs (i + 1) b hb
        rwa [size_enter, Nat.add_assoc, Nat.add_comm 1 i]
  unfold initialTraffic
  rw [← Array.foldl_toList]
  apply hfold agents.toList _ hempty
  intro i a ha
  simpa using hagents i a (by simpa using ha)

/-! ## The first moment -/

/-- Nobody is present in empty queues. -/
theorem present_ofNetwork {net : Network} {c : Config} {q : LinkQueue Float}
    (h : q ∈ (QueueNetwork.ofNetwork net c).links) : q.present = [] := by
  simp only [QueueNetwork.ofNetwork, QueueNetwork.withBuckets, List.mem_toArray,
    List.mem_map] at h
  rcases h with ⟨entry, -, rfl⟩
  rfl

/-- At first no vehicle occurs on any link. -/
theorem occurrences_ofNetwork (net : Network) (c : Config) (v : Vehicle) (l : LinkId) :
    (QueueNetwork.ofNetwork net c).occurrences v l = 0 := by
  unfold QueueNetwork.occurrences
  cases hq : (QueueNetwork.ofNetwork net c).link? l with
  | none => rfl
  | some q => simp [present_ofNetwork (Array.mem_of_getElem? hq)]

theorem vehicles_ofNetwork (net : Network) (c : Config) :
    (QueueNetwork.ofNetwork net c).vehicles = [] :=
  List.flatMap_eq_nil_iff.2 fun _ hq => present_ofNetwork (Array.mem_toList_iff.1 hq)

/-- Without agents the traffic is sound. -/
theorem sound_empty (net : Network) (c : Config) (replanner : Option Replanner) :
    Moment.Sound net ⟨[], [], { agents := #[], queues := .ofNetwork net c, replanner }⟩ := by
  refine ⟨?_, ?_, ?_, QueueNetwork.stored_withBuckets _ _ _, ?_, ?_⟩
  · intro i a ha
    cases ha
  · intro i a ha
    cases ha
  · simp [QueueNetwork.ofNetwork, QueueNetwork.withBuckets, Network.linkCount]
  · intro k
    exact occurrences_ofNetwork net c k.1 k.2
  · intro e
    rfl

/-- Entering adds an agent and its entry, and nothing else. -/
theorem sound_enter (hm : Moment.Sound net ⟨[], [], t⟩) (ha : a.Fresh net t.agents.size)
    (start : Time) : Moment.Sound net ⟨[], [], enter start t a⟩ := by
  rcases Plan.linkAt_eq_some_iff.1 ha.link with ⟨act, hact, -⟩
  have hagents : (enter start t a).agents = t.agents.push (ready start act a) ∧
      (enter start t a).queues = t.queues := by
    rcases enter_cases hact start t with ⟨-, -, h⟩ | ⟨-, h⟩ <;> rw [h] <;> exact ⟨rfl, rfl⟩
  have hstate : (ready start act a).state = .atActivity := ha.state
  have hcoherent : (ready start act a).Coherent net := by
    refine ⟨ha.plan, ?_⟩
    have hplace : a.plan.linkAt a.element = some a.link := by
      rw [ha.element]
      exact ha.link
    unfold Agent.InPlace
    rw [hstate]
    exact hplace
  refine ⟨?_, ?_, ?_, ?_, ?_, ?_⟩
  · intro i b hb
    rw [hagents.1, Array.getElem?_push] at hb
    split at hb
    · rename_i hi
      cases hb
      exact hi ▸ ha.id
    · exact hm.numbered i b hb
  · intro i b hb
    rw [hagents.1, Array.getElem?_push] at hb
    split at hb
    · cases hb
      exact hcoherent
    · exact hm.coherent i b hb
  · rw [hagents.2]
    exact hm.known
  · rw [hagents.2]
    exact hm.stored
  · unfold Moment.Placed
    rw [hagents.1, hagents.2]
    refine Claimed.push hm.placed (fun a k => Agent.driver_of_isOn) ha.id fun k => ?_
    simp [Agent.isOn_of_ne, hstate]
  · unfold Moment.Listed
    rw [hagents.1]
    refine Claimed.push hm.listed (fun a e => Agent.id_of_awaits) ha.id fun e => ?_
    have hawaits : (ready start act a).awaits e = true ↔
        (1 < a.plan.length ∧ act.departure start ≠ .never) ∧ (act.departure start, a.id) = e := by
      simp [Agent.awaits, ready, ha.state, ha.element, and_assoc]
    simp only [hawaits]
    rcases enter_cases hact start t with ⟨hlt, hnever, h⟩ | ⟨hnot, h⟩
    · rw [h]
      have hperm := EndQueue.perm_push (q := t.endQueue) (a := a.id) hnever
      simp [Moment.scheduled, hperm.count_eq, List.count_cons, hlt, hnever]
    · rw [h]
      simp only [hnot, false_and, if_false]
      rfl

/-- With fresh agents the traffic is sound at the start. -/
theorem sound_initialTraffic {agents : Array Agent}
    (hagents : ∀ (i : Nat) a, agents[i]? = some a → a.Fresh net i) :
    Moment.Sound net ⟨[], [], initialTraffic c net agents replanner⟩ :=
  initialTraffic_induction (P := fun t => Moment.Sound net ⟨[], [], t⟩) hagents
    (sound_empty net c replanner) fun _ _ hm ha => sound_enter hm ha c.startTime

/-! ## Nothing has happened yet -/

/-- A fresh agent enters without having left its first activity. -/
theorem initial_enter (ht : t.Initial) (ha : a.Fresh net t.agents.size) (start : Time) :
    (enter start t a).Initial := by
  rcases Plan.linkAt_eq_some_iff.1 ha.link with ⟨act, hact, -⟩
  have hwaiting : ∀ (i : Nat) b, (t.agents.push (ready start act a))[i]? = some b →
      b.state = .atActivity ∧ b.element = 0 := by
    intro i b hb
    rw [Array.getElem?_push] at hb
    split at hb
    · cases hb
      exact ⟨ha.state, ha.element⟩
    · exact ht.waiting i b hb
  rcases enter_cases hact start t with ⟨hlt, hnever, h⟩ | ⟨-, h⟩
  · rw [h]
    refine ⟨hwaiting, ?_, ht.empty⟩
    simp only [EndQueue.length_push hnever, ht.stats]
  · rw [h]
    exact ⟨hwaiting, ht.stats, ht.empty⟩

/-- Before the first step nothing has happened. -/
theorem initial_traffic {people : Population}
    {strategy : Option (AgentId → Person → Strategy)} {s : Simulation}
    (h : build c net people replanner strategy = .ok s) : s.traffic.Initial := by
  rcases build_eq_ok_iff.1 h with ⟨-, hpeople, rfl⟩
  refine initialTraffic_induction (P := Traffic.Initial)
    (fun i a ha => Population.fresh_agents hpeople ha) ⟨?_, rfl, ?_⟩
    fun t a ht ha => initial_enter ht ha c.startTime
  · intro i a ha
    cases ha
  · exact vehicles_ofNetwork net c

/-- The simulation has the network it was built with. -/
theorem network_of_build {people : Population} {strategy : Option (AgentId → Person → Strategy)}
    {s : Simulation} (h : build c net people replanner strategy = .ok s) : s.network = net := by
  rcases build_eq_ok_iff.1 h with ⟨-, -, rfl⟩
  rfl

theorem config_of_build {people : Population} {strategy : Option (AgentId → Person → Strategy)}
    {s : Simulation} (h : build c net people replanner strategy = .ok s) : s.config = c := by
  rcases build_eq_ok_iff.1 h with ⟨-, -, rfl⟩
  rfl

theorem clock_of_build {people : Population} {strategy : Option (AgentId → Person → Strategy)}
    {s : Simulation} (h : build c net people replanner strategy = .ok s) : s.clock = c.clock := by
  rcases build_eq_ok_iff.1 h with ⟨-, -, rfl⟩
  rfl

/-- The simulation has the replanner it was built with. -/
theorem replanner_of_build {people : Population}
    {strategy : Option (AgentId → Person → Strategy)} {s : Simulation}
    (h : build c net people replanner strategy = .ok s) : s.traffic.replanner = replanner := by
  rcases build_eq_ok_iff.1 h with ⟨-, -, rfl⟩
  exact (agents_initialTraffic _ _ _ _).2

/-- Every agent of a simulation that was built has the plan of its person. -/
theorem exists_person {people : Population} {strategy : Option (AgentId → Person → Strategy)}
    {s : Simulation} (h : build c net people replanner strategy = .ok s) {id : AgentId}
    (ha : s.traffic.agent? id = some a) :
    ∃ person, people.person? id = some person ∧ a.plan = person.plan := by
  rcases build_eq_ok_iff.1 h with ⟨-, -, rfl⟩
  rw [Traffic.agent?, (agents_initialTraffic _ _ _ _).1, Array.getElem?_map,
    Population.agents_getElem?, Option.map_map] at ha
  rcases Option.map_eq_some_iff.1 ha with ⟨person, hperson, rfl⟩
  refine ⟨person, hperson, ?_⟩
  simp only [Function.comp_apply, Agent.schedule]
  split <;> rfl

end Simulation

/-! ## A small simulation

A commuter who drives around for work on two roads, there and back, and has no way home.
-/

namespace Commuter

/-- To work on the other road and home again, the second time without a route. -/
def day : Plan :=
  ⟨[.activity { kind := "home", link := ⟨0⟩, endTime := some (.ofClock 8 0 0) },
    .leg ⟨.car, some ⟨⟨0⟩, [⟨1⟩], ⟨0⟩⟩⟩,
    .activity { kind := "work", link := ⟨0⟩, duration := some 3600 },
    .leg ⟨.car, none⟩,
    .activity { kind := "home", link := ⟨0⟩ }]⟩

/-- One person with this plan. -/
def people : Population := ⟨#[⟨"commuter", day⟩]⟩

/-- Offers the direct route to everybody. -/
def replanner : Replanner :=
  { rule := {}
    provider := fun current destination _ => some ⟨current, [], destination⟩
    contentment := fun _ _ => -1 }

/-- The simulation of this person, with the replanner. -/
def simulation : Simulation :=
  ⟨{}, net, Config.clock {}, Simulation.initialTraffic {} net
    (people.agents (Simulation.defaultStrategy (some replanner))) (some replanner)⟩

theorem build_simulation :
    Simulation.build {} net people (some replanner) none = .ok simulation :=
  Simulation.build_eq_ok_iff.2 ⟨rfl, rfl, rfl⟩

/-! ## A jam

Two early commuters, who leave at midnight.  The first one drives around for work; when it is about
to come back, the second one has come onto the road, and each is in the way of the other.
-/

/-- From midnight on once around to work. -/
def early : Plan :=
  ⟨[.activity { kind := "home", link := ⟨0⟩, endTime := some .zero },
    .leg ⟨.car, some ⟨⟨0⟩, [⟨1⟩], ⟨0⟩⟩⟩,
    .activity { kind := "work", link := ⟨0⟩ }]⟩

/-- Two persons with this plan. -/
def pair : Population := ⟨#[⟨"first", early⟩, ⟨"second", early⟩]⟩

/-- The simulation of both. -/
def jam : Simulation :=
  ⟨{}, net, Config.clock {}, Simulation.initialTraffic {} net
    (pair.agents (Simulation.defaultStrategy none)) none⟩

theorem build_jam : Simulation.build {} net pair none none = .ok jam :=
  Simulation.build_eq_ok_iff.2 ⟨rfl, rfl, rfl⟩

end Commuter

end TrafficQueue
