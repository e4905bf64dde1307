import TrafficQueue.Proofs.Network.LeastTime
import TrafficQueue.Proofs.Simulation.Parted
import TrafficQueue.Proofs.Simulation.Places
import TrafficQueue.Proofs.Simulation.Reached
import TrafficQueue.Proofs.Simulation.Stream

/-!
# Populations that share no link

Two populations whose plans have no link in common do not notice each other.  If one
simulation has the persons of the first population only and another one has those of
both, the agents of the first population have the same course in both: they start
alike, every step keeps them alike, and so they tell of the same events.

Main results:

- Definition `Population.Apart`: the plans of two populations have no link in common.
- Theorem `Simulation.alike_history`: traffics that start alike stay alike.
- Theorem `Simulation.apart_populations`: a population has the same course alone and
  beside another one that shares no link with it.
-/

namespace TrafficQueue

namespace Population

/-- The plan of one of the persons uses the link. -/
def Uses (p : Population) (l : LinkId) : Prop := ∃ person ∈ p.persons, person.plan.Uses l

/-- No link is used by both populations. -/
def Apart (p q : Population) : Prop := ∀ l, p.Uses l → ¬ q.Uses l

/-- The persons of one population followed by those of another one. -/
instance : Append Population := ⟨fun p q => ⟨p.persons ++ q.persons⟩⟩

variable {p q : Population}

theorem persons_append (p q : Population) : (p ++ q).persons = p.persons ++ q.persons := rfl

/-- The first agents are those of the first population. -/
theorem agents_append (p q : Population) (strategy : AgentId → Person → Strategy) :
    ∃ others, (p ++ q).agents strategy = p.agents strategy ++ others := by
  unfold agents numbered
  rw [persons_append, Array.toList_append, List.zipIdx_append, List.map_append, List.map_append,
    ← List.append_toArray]
  exact ⟨_, rfl⟩

end Population

namespace Simulation

variable {mine : AgentId → Bool} {roads : LinkId → Prop} {s s₁ s₂ : Simulation} {c : Config}
  {net : Network} {people p q : Population}
  {strategy : Option (AgentId → Person → Strategy)} {n : Nat} {m : Moment} {t : Traffic}
  {a : Agent}

/-! ## Alike from the start -/

/-- Another agent enters. -/
theorem alike_enter (hother : mine a.id = false) (hid : a.id = ⟨t.agents.size⟩) (start : Time) :
    t.Alike mine roads (enter start t a) := by
  have hagents : ∀ id, mine id = true → ∀ b : Agent, t.agents[id.index]? =
      (t.agents.push b)[id.index]? := by
    intro id hmine b
    have hne : id.index ≠ t.agents.size := by
      intro heq
      rw [hid, ← heq, hmine] at hother
      cases hother
    rw [Array.getElem?_push, if_neg hne]
  have hschedule : ∀ time, t.endQueue.entries.filter (fun e => mine e.2) =
      (t.endQueue.push time a.id).2.entries.filter fun e => mine e.2 := by
    exact fun time => (EndQueue.filter_push_of_not hother t.endQueue).symm
  unfold enter
  have hsame : (a.schedule start).2.id = a.id := by
    unfold Agent.schedule
    split <;> rfl
  generalize a.schedule start = ready at hsame
  rcases ready with ⟨transition, b⟩
  simp only at hsame
  cases transition with
  | scheduled time =>
      refine ⟨fun id hmine => hagents id hmine b, QueueNetwork.Agree.refl _, ?_, rfl⟩
      simp only [hsame]
      exact hschedule time
  | resting | enRoute | completed | stuck =>
      exact ⟨fun id hmine => hagents id hmine b, QueueNetwork.Agree.refl _, rfl, rfl⟩

/-- The traffic of the first agents is alike without the others. -/
theorem alike_initialTraffic {agents others : Array Agent}
    (hid : ∀ (i : Nat) a, (agents ++ others)[i]? = some a → a.id = ⟨i⟩)
    (hothers : ∀ a ∈ others, mine a.id = false) (c : Config) (net : Network) :
    (initialTraffic c net (agents ++ others) none).Alike mine roads
      (initialTraffic c net agents none) := by
  have hfold : ∀ (xs : List Agent) (t : Traffic),
      (∀ (i : Nat) a, xs[i]? = some a → a.id = ⟨t.agents.size + i⟩) →
      (∀ a ∈ xs, mine a.id = false) → t.Alike mine roads (xs.foldl (enter c.startTime) t) := by
    intro xs
    induction xs with
    | nil => exact fun t _ _ => .refl t
    | cons a xs ih =>
        intro t hnumbered hxs
        rcases List.forall_mem_cons.1 hxs with ⟨ha, hrest⟩
        refine (alike_enter ha (hnumbered 0 a rfl) c.startTime).trans (ih _ ?_ hrest)
        intro i b hb
        rw [size_enter, Nat.add_assoc, Nat.add_comm 1 i]
        exact hnumbered (i + 1) b hb
  have hjoined : initialTraffic c net (agents ++ others) none =
      others.toList.foldl (enter c.startTime) (initialTraffic c net agents none) := by
    rw [initialTraffic, Array.foldl_append, ← Array.foldl_toList]
    rfl
  rw [hjoined]
  refine (hfold _ _ ?_ fun a ha => hothers a (Array.mem_toList_iff.1 ha)).symm
  intro i a ha
  rw [size_initialTraffic]
  apply hid
  rw [Array.getElem?_append_right (Nat.le_add_right _ _), Nat.add_sub_cancel_left]
  simpa using ha

/-- If some persons and no others use some links, the agents are apart from the start. -/
theorem parted_first (h : build c net people none strategy = .ok s)
    (hown : ∀ id person, people.person? id = some person → ∀ l, person.plan.Uses l →
      (roads l ↔ mine id = true)) :
    s.first.Parted mine roads s.network := by
  have hs := sound_first h
  refine ⟨hs, replanner_of_build h, ?_⟩
  intro a ha l hl
  rcases exists_person h (hs.agent_of_mem ha) with ⟨person, hperson, hplan⟩
  exact hown a.id person hperson l (hplan ▸ hl)

/-! ## Alike after every step -/

/-- The agents are apart at all moments. -/
theorem Passes.parted (hs : s.first.Parted mine roads s.network) (h : s.Passes n m) :
    m.Parted mine roads s.network := by
  induction h with
  | first => exact hs
  | operation _ hop ih => exact ih.operation hop
  | next _ ih => exact ⟨sound_next ih.sound, ih.settled, ih.own⟩

/-- Every event tells of an agent. -/
theorem Passes.agent_of_mem_log (hs : s.first.Sound s.network) (h : s.Passes n m) :
    ∀ e ∈ m.log, e.agent.index < s.traffic.agents.size := by
  have hbelow : ∀ e ∈ m.log, e.agent.index < m.traffic.agents.size := by
    refine h.invariant (P := fun _ m => ∀ e ∈ m.log, e.agent.index < m.traffic.agents.size) hs
      ?_ ?_ ?_
    · exact List.forall_mem_nil _
    · intro n m m' _ hm hmove
      rcases hmove.agents_log.2 with ⟨hagents, hlog⟩ | ⟨a, events, b, ha, hdeed, hagents, hlog⟩
      · rw [hagents, hlog]
        exact hm
      · rw [hagents, hlog, Array.size_setIfInBounds, List.forall_mem_append]
        refine ⟨hm, fun e he => ?_⟩
        rw [(hdeed.mem_events e he).1]
        exact (Array.getElem?_eq_some_iff.1 ha).1
    · intro n past t hm
      rw [log_next]
      exact hm
  rwa [h.size_agents hs] at hbelow

/-- Traffics that start alike stay alike and tell alike of the agents, if all agents of the second
one are among these. -/
theorem alike_history (h₂ : s₂.first.Parted mine roads s₂.network)
    (h₁ : s₁.first.Parted mine roads s₁.network) (hnet : s₂.network = s₁.network)
    (hclock : s₂.clock = s₁.clock) (halike : s₂.traffic.Alike mine roads s₁.traffic)
    (hall : ∀ id, id.index < s₁.traffic.agents.size → mine id = true) (n : Nat) :
    ∃ t₂ t₁, s₂.history n = .ok t₂ ∧ s₁.history n = .ok t₁ ∧
      t₂.traffic.Alike mine roads t₁.traffic ∧
      (s₂.stream n).filter (fun e => mine e.agent) =
        (s₁.stream n).filter fun e => mine e.agent := by
  induction n with
  | zero => exact ⟨s₂, s₁, rfl, rfl, halike, rfl⟩
  | succ n ih =>
      rcases ih with ⟨t₂, t₁, ht₂, ht₁, htraffic, hstream⟩
      rcases exists_recorded h₂.sound n with ⟨r₂, -, hr₂⟩
      rcases exists_recorded h₁.sound n with ⟨r₁, -, hr₁⟩
      cases ht₂.symm.trans hr₂.history
      cases ht₁.symm.trans hr₁.history
      have hm₂ := hr₂.passes.parted h₂
      have hm₁ := hr₁.passes.parted h₁
      rw [hnet] at hm₂
      have hmine : ∀ a ∈ r₁.simulation.traffic.agents, mine a.id = true := by
        intro a ha
        apply hall
        rw [← hr₁.passes.size_agents h₁.sound]
        exact (Array.getElem?_eq_some_iff.1 (hm₁.sound.agent_of_mem ha)).1
      rcases hm₂.step hm₁ htraffic.clearEvents hmine (s₁.clock.advanceBy n).now with
        ⟨u₂, u₁, hu₂, hu₁, hdone⟩
      have hnext₂ := history_succ_of_step ht₂ (hnet ▸ hclock ▸ hu₂)
      have hnext₁ := history_succ_of_step ht₁ hu₁
      refine ⟨_, _, hnext₂, hnext₁, hdone, ?_⟩
      rw [stream_succ hnext₂, stream_succ hnext₁, List.filter_append, List.filter_append, hstream]
      exact congrArg _ hdone.emitted

/-! ## Two populations -/

/-- The agents of the first persons. -/
def isAmong (p : Population) (id : AgentId) : Bool := id.index < p.size

/-- Alone the persons use their links and nobody else does. -/
theorem parted_alone (h : build c net p none strategy = .ok s) :
    s.first.Parted (isAmong p) p.Uses s.network := by
  refine parted_first h fun id person hperson l hl => ?_
  have hmem : person ∈ p.persons := Array.mem_of_getElem? hperson
  have hlt : id.index < p.size := (Array.getElem?_eq_some_iff.1 hperson).1
  exact iff_of_true ⟨person, hmem, hl⟩ (decide_eq_true hlt)

/-- So it is beside other persons who do not use them. -/
theorem parted_beside (h : build c net (p ++ q) none strategy = .ok s) (hapart : p.Apart q) :
    s.first.Parted (isAmong p) p.Uses s.network := by
  refine parted_first h fun id person hperson l hl => ?_
  rw [Population.person?, Population.persons_append] at hperson
  by_cases hlt : id.index < p.size
  · rw [Array.getElem?_append_left hlt] at hperson
    exact iff_of_true ⟨person, Array.mem_of_getElem? hperson, hl⟩ (decide_eq_true hlt)
  · rw [Array.getElem?_append_right (Nat.le_of_not_lt hlt)] at hperson
    have hother : q.Uses l := ⟨person, Array.mem_of_getElem? hperson, hl⟩
    exact iff_of_false (fun hp => hapart l hp hother) (by simpa [isAmong] using hlt)

/-- The first persons start alike with and without the others. -/
theorem alike_beside (h₁ : build c net p none strategy = .ok s₁)
    (h₂ : build c net (p ++ q) none strategy = .ok s₂) :
    s₂.traffic.Alike (isAmong p) roads s₁.traffic := by
  rcases build_eq_ok_iff.1 h₁ with ⟨-, -, rfl⟩
  rcases build_eq_ok_iff.1 h₂ with ⟨-, hpeople, rfl⟩
  have hid : ∀ (i : Nat) a,
      ((p ++ q).agents (strategy.getD (defaultStrategy none)))[i]? = some a → a.id = ⟨i⟩ :=
    fun i a ha => (Population.fresh_agents hpeople ha).id
  rcases p.agents_append q (strategy.getD (defaultStrategy none)) with ⟨others, hothers⟩
  simp only [hothers] at hid ⊢
  apply alike_initialTraffic hid
  intro a ha
  rcases Array.mem_iff_getElem?.1 ha with ⟨i, hi⟩
  have hindex : a.id = ⟨p.size + i⟩ := by
    apply hid
    rw [Array.getElem?_append_right (by simp [Population.size_agents]), Population.size_agents,
      Nat.add_sub_cancel_left]
    exact hi
  simp [isAmong, hindex]

/-- A population tells of the same events alone and beside another one that shares no link with it,
and after every number of steps its agents and the queues of its links are the same. -/
theorem apart_populations (h₁ : build c net p none strategy = .ok s₁)
    (h₂ : build c net (p ++ q) none strategy = .ok s₂) (hapart : p.Apart q) (n : Nat) :
    ∃ r₁ r₂, s₁.recorded n = .ok r₁ ∧ s₂.recorded n = .ok r₂ ∧
      r₂.listeners.events.toList.filter (fun e => e.agent.index < p.size) =
        r₁.listeners.events.toList ∧
      (∀ id, id.index < p.size →
        r₂.simulation.traffic.agent? id = r₁.simulation.traffic.agent? id) ∧
      ∀ l, p.Uses l →
        r₂.simulation.traffic.queues.link? l = r₁.simulation.traffic.queues.link? l := by
  have hm₁ := parted_alone h₁
  have hm₂ := parted_beside h₂ hapart
  have hsize : s₁.traffic.agents.size = p.size := by
    rcases build_eq_ok_iff.1 h₁ with ⟨-, -, rfl⟩
    rw [size_initialTraffic, Population.size_agents]
  have hclock : s₂.clock = s₁.clock := by
    rcases build_eq_ok_iff.1 h₁ with ⟨-, -, rfl⟩
    rcases build_eq_ok_iff.1 h₂ with ⟨-, -, rfl⟩
    rfl
  rcases alike_history hm₂ hm₁ ((network_of_build h₂).trans (network_of_build h₁).symm) hclock
    (alike_beside h₁ h₂) (fun id hlt => decide_eq_true (hsize ▸ hlt)) n with
    ⟨t₂, t₁, ht₂, ht₁, halike, hstream⟩
  rcases exists_recorded hm₁.sound n with ⟨r₁, hrun₁, hr₁⟩
  rcases exists_recorded hm₂.sound n with ⟨r₂, hrun₂, hr₂⟩
  cases ht₁.symm.trans hr₁.history
  cases ht₂.symm.trans hr₂.history
  have hown : (s₁.stream n).filter (fun e => isAmong p e.agent) = s₁.stream n := by
    rw [List.filter_eq_self]
    intro e he
    have hlog := hr₁.passes.agent_of_mem_log hm₁.sound
    rw [log_clearEvents, hr₁.stream, hsize] at hlog
    exact decide_eq_true (hlog e he)
  refine ⟨r₁, r₂, hrun₁, hrun₂, ?_, ?_, halike.links⟩
  · rw [hr₁.stream, hr₂.stream, ← hown, ← hstream]
    rfl
  · exact fun id hlt => halike.agents id (decide_eq_true hlt)

end Simulation

/-! ## Neighbours -/

namespace Detour

/-- A day with one drive from one link to another one. -/
def trip (start : LinkId) (via : List LinkId) (finish : LinkId) : Plan :=
  ⟨[.activity { kind := "home", link := start, endTime := some .zero },
    .leg ⟨.car, some ⟨start, via, finish⟩⟩,
    .activity { kind := "work", link := finish }]⟩

/-- A person who takes the direct road. -/
def straight : Population := ⟨#[⟨"straight", trip ⟨0⟩ [] ⟨1⟩⟩]⟩

/-- A person who drives over the hill, between other ends. -/
def hilly : Population := ⟨#[⟨"hilly", trip ⟨2⟩ [⟨3⟩] ⟨4⟩⟩]⟩

/-- The simulation of people on these roads. -/
def morning (people : Population) : Simulation :=
  ⟨{}, net, Config.clock {}, Simulation.initialTraffic {} net
    (people.agents (Simulation.defaultStrategy none)) none⟩

theorem build_straight : Simulation.build {} net straight none none = .ok (morning straight) :=
  Simulation.build_eq_ok_iff.2 ⟨rfl, by decide +kernel, rfl⟩

theorem build_both :
    Simulation.build {} net (straight ++ hilly) none none = .ok (morning (straight ++ hilly)) :=
  Simulation.build_eq_ok_iff.2 ⟨rfl, by decide +kernel, rfl⟩

/-- The two have no link in common. -/
theorem straight_apart_hilly : straight.Apart hilly := by
  rintro l ⟨a, ha, hl⟩ ⟨b, hb, hl'⟩
  simp only [straight, hilly, List.mem_toArray, List.mem_singleton] at ha hb
  subst ha hb
  have hown : l = ⟨0⟩ ∨ l = ⟨1⟩ := by
    simpa [Plan.Uses, trip, PlanElement.links, Route.named] using hl
  rcases hown with rfl | rfl <;> exact absurd hl' (by decide)

end Detour

/-- Who takes the direct road does not notice who drives over the hill. -/
theorem Simulation.apart_populations_straight :
    build {} Detour.net Detour.straight none none = .ok (Detour.morning Detour.straight) ∧
      build {} Detour.net (Detour.straight ++ Detour.hilly) none none =
        .ok (Detour.morning (Detour.straight ++ Detour.hilly)) ∧
      Detour.straight.Apart Detour.hilly ∧
      ∃ r₁ r₂, (Detour.morning Detour.straight).recorded 200 = .ok r₁ ∧
        (Detour.morning (Detour.straight ++ Detour.hilly)).recorded 200 = .ok r₂ ∧
        r₂.listeners.events.toList.filter (fun e => e.agent.index < Detour.straight.size) =
          r₁.listeners.events.toList ∧
        (∀ id, id.index < Detour.straight.size →
          r₂.simulation.traffic.agent? id = r₁.simulation.traffic.agent? id) ∧
        ∀ l, Detour.straight.Uses l →
          r₂.simulation.traffic.queues.link? l = r₁.simulation.traffic.queues.link? l :=
  ⟨Detour.build_straight, Detour.build_both, Detour.straight_apart_hilly,
    apart_populations Detour.build_straight Detour.build_both Detour.straight_apart_hilly 200⟩

end TrafficQueue
