import TrafficQueue.Proofs.Agent.Strategies
import TrafficQueue.Proofs.Simulation.Idle
import TrafficQueue.Proofs.Simulation.Stream

/-!
# Replanners that decline

Only replanning looks at the replanner and at the strategies of the agents.  So a
replanner that declines whenever it is asked leaves no trace: every step goes as it
would go without the replanner, whatever the strategies are.

Main results:

- Definition `Replanner.Declines`: why nothing comes of asking a replanner.
- Theorem `Traffic.afterNodes_withHook`: until replanning, a step goes the same way with
  other strategies and another replanner.
- Theorem `Simulation.invisible_replanner`: a simulation with a replanner that declines
  goes as the one without a replanner.
-/

namespace TrafficQueue

/-! ## Why a replanner declines -/

namespace Replanner

variable {rep : Replanner} {a : Agent} {net : Network} {now : Time}

/-- The need is too small, or there is no offer that starts on the agent's link, ends on its
destination and names known links only. -/
def Declines (rep : Replanner) (a : Agent) (net : Network) (now : Time) : Prop :=
  rep.rule.isMet (ReplanRule.need (rep.contentment a now)) = false ∨
    ∀ destination offer, a.destination? = some destination →
      rep.provider a.link destination ⟨now, a.id⟩ = some offer →
      offer.origin ≠ a.link ∨ offer.destination ≠ destination ∨
        ∃ l ∈ offer.full, net.hasLink l = false

/-- A replanner that declines whom it may serve gives no other route. -/
theorem replan_of_declines (h : rep.isEligible a now = true → rep.Declines a net now) :
    rep.replan a net now = .ok none := by
  unfold replan
  split
  · rename_i hmay
    rw [Bool.and_eq_true] at hmay
    have hoffer : rep.offer? a net now = none := by
      rcases h hmay.1 with hneed | hunfit
      · rw [hneed] at hmay
        exact absurd hmay.2 Bool.false_ne_true
      · rw [Option.eq_none_iff_forall_ne_some]
        intro offer hoffer
        rcases offer?_eq_some_iff.1 hoffer with ⟨d, hd, hprovider, hfit⟩
        rcases isFitting_iff.1 hfit with ⟨horigin, hdestination, hknown⟩
        rcases hunfit d offer hd hprovider with ho | hd | ⟨l, hl, hunknown⟩
        · exact ho horigin
        · exact hd hdestination
        · rw [hknown l hl] at hunknown
          cases hunknown
    rw [hoffer]
  · rfl

end Replanner

/-! ## Steps with another replanner -/

/-- Folds over related states are related if their steps are. -/
theorem foldlM_map {ε σ τ β : Type} {f : σ → β → Except ε σ} {f' : τ → β → Except ε τ}
    {g : σ → τ} (h : ∀ s x, f' (g s) x = (f s x).map g) (xs : List β) (s : σ) :
    xs.foldlM f' (g s) = (xs.foldlM f s).map g := by
  induction xs generalizing s with
  | nil => rfl
  | cons x xs ih =>
      rw [List.foldlM_cons, List.foldlM_cons, h]
      cases f s x with
      | error e => rfl
      | ok next => exact ih next

namespace Traffic

variable (strategy : Option Strategy) (replanner : Option Replanner) (t : Traffic)
  (net : Network) (now : Time)

/-- The traffic with another replanner, and with another strategy for all agents if one is given. -/
def withHook (t : Traffic) : Traffic :=
  { t with agents := t.agents.map (Agent.withStrategy strategy), replanner }

/-- Traffic has its own replanner. -/
theorem withHook_self : t.withHook none t.replanner = t := by
  have hagents : t.agents.map (Agent.withStrategy none) = t.agents := Array.map_id' _
  rw [withHook, hagents]

theorem agent?_withHook (id : AgentId) :
    (t.withHook strategy replanner).agent? id =
      (t.agent? id).map (Agent.withStrategy strategy) := by
  simp [agent?, withHook]

/-- A settled agent is settled with the other hook as well. -/
theorem settle_withHook (id : AgentId) (transition : Transition) :
    settle id transition (t.withHook strategy replanner) =
      (settle id transition t).withHook strategy replanner := by
  cases transition <;> rfl

/-! ### Phases -/

theorem endActivity_withHook (id : AgentId) :
    (t.withHook strategy replanner).endActivity now id =
      (t.endActivity now id).map (withHook strategy replanner) := by
  rcases t with ⟨agents, queues, endQueue, before, stats, emitted⟩
  simp only [withHook, endActivity, Array.getElem?_map]
  cases agents[id.index]? with
  | none => rfl
  | some a =>
      simp only [Option.map_some, Agent.endActivity_withStrategy]
      rcases a.endActivity now queues with ⟨⟨b, events, answer⟩, after⟩
      cases answer with
      | error e => rfl
      | ok transition =>
          simp only [Effect.withStrategy, ← Array.map_setIfInBounds, Except.map]
          exact congrArg Except.ok (settle_withHook strategy replanner
            ⟨agents.setIfInBounds id.index b, after, endQueue, before, stats.depart transition,
              emitted ++ events⟩ id transition)

/-- The activities of all who are due are left in the same way with the other hook. -/
theorem endActivities_withHook :
    (t.withHook strategy replanner).endActivities now =
      (t.endActivities now).map (withHook strategy replanner) :=
  foldlM_map (fun t id => endActivity_withHook strategy replanner t now id) _
    { t with endQueue := (t.endQueue.drain now).2 }

/-- What came of a turn, with another replanner. -/
def turnWithHook (served : Bool × Traffic) : Bool × Traffic :=
  (served.1, served.2.withHook strategy replanner)

theorem moveHead_withHook (l next : LinkId) (a : Agent) :
    (t.withHook strategy replanner).moveHead now l next (a.withStrategy strategy) =
      (t.moveHead now l next a).map (turnWithHook strategy replanner) := by
  rcases t with ⟨agents, queues, endQueue, before, stats, emitted⟩
  simp only [withHook, moveHead]
  rcases queues.release l now (.link next) with e | ⟨_ | v, left⟩
  · rfl
  · simp [turnWithHook, withHook, Except.map]
  · simp only [Agent.crossNode_withStrategy]
    rcases a.crossNode next now left with ⟨⟨b, events, answer⟩, after⟩
    cases answer with
    | error e => rfl
    | ok _ => simp [turnWithHook, withHook, Except.map, Effect.withStrategy]

theorem arriveHead_withHook (l : LinkId) (a : Agent) :
    (t.withHook strategy replanner).arriveHead now l (a.withStrategy strategy) =
      (t.arriveHead now l a).map (turnWithHook strategy replanner) := by
  rcases t with ⟨agents, queues, endQueue, before, stats, emitted⟩
  simp only [withHook, arriveHead]
  rcases queues.release l now .exit with e | ⟨_ | v, left⟩
  · rfl
  · simp [turnWithHook, withHook, Except.map]
  · simp only [Agent.arrive_withStrategy]
    rcases a.arrive now with ⟨b, events, answer⟩
    cases answer with
    | error e => rfl
    | ok transition =>
        simp only [Effect.withStrategy, Agent.id_withStrategy, ← Array.map_setIfInBounds,
          Except.map, turnWithHook]
        exact congrArg (fun u => Except.ok (true, u)) (settle_withHook strategy replanner
          ⟨agents.setIfInBounds b.id.index b, left, endQueue, before, stats.arrive transition,
            emitted ++ events⟩ b.id transition)

theorem removeHead_withHook (l : LinkId) (a : Agent) (reason : StuckReason) :
    (t.withHook strategy replanner).removeHead now l (a.withStrategy strategy) reason =
      (t.removeHead now l a reason).map (turnWithHook strategy replanner) := by
  rcases t with ⟨agents, queues, endQueue, before, stats, emitted⟩
  simp only [withHook, removeHead]
  rcases queues.evict l with e | ⟨v, left⟩
  · rfl
  · simp only [Agent.remove_withStrategy, Effect.withStrategy, Agent.id_withStrategy,
      ← Array.map_setIfInBounds, Except.map, turnWithHook]
    rfl

/-- The head of a link is served in the same way with the other hook. -/
theorem serveHead_withHook (l : LinkId) :
    (t.withHook strategy replanner).serveHead net now l =
      (t.serveHead net now l).map (turnWithHook strategy replanner) := by
  have hqueues : (t.withHook strategy replanner).queues = t.queues := rfl
  unfold serveHead
  rw [hqueues]
  cases t.queues.head? l with
  | none => rfl
  | some head =>
      by_cases hdue : head.earliestExit ≤ now
      · simp only [hdue, if_true, agent?_withHook]
        cases t.agent? head.vehicle.driver with
        | none => rfl
        | some a =>
            simp only [Option.map_some, Agent.chooseNext_withStrategy]
            rcases a.chooseNext net with _ | ⟨next | _ | reason, kept⟩
            · rfl
            · exact moveHead_withHook strategy replanner t now l next kept
            · exact arriveHead_withHook strategy replanner t now l kept
            · exact removeHead_withHook strategy replanner t now l kept reason
      · simp only [hdue, if_false]
        rfl

theorem serveHeads_withHook (l : LinkId) (turns : Nat) :
    (t.withHook strategy replanner).serveHeads net now l turns =
      (t.serveHeads net now l turns).map (withHook strategy replanner) := by
  induction turns generalizing t with
  | zero => rfl
  | succ turns ih =>
      rw [serveHeads, serveHeads, serveHead_withHook]
      rcases t.serveHead net now l with e | ⟨_ | _, served⟩
      · rfl
      · rfl
      · exact ih served

theorem turns_withHook (l : LinkId) :
    (t.withHook strategy replanner).turns now l = t.turns now l := by
  have hturns : (t.withHook strategy replanner).turnsOf = t.turnsOf := by
    funext v
    rw [turnsOf, agent?_withHook, turnsOf]
    cases t.agent? v.driver <;> rfl
  unfold turns
  rw [hturns]
  rfl

theorem serveLink_withHook (l : LinkId) :
    serveLink net now (t.withHook strategy replanner) l =
      (serveLink net now t l).map (withHook strategy replanner) := by
  have hdue : (t.withHook strategy replanner).isDue now l = t.isDue now l := rfl
  unfold serveLink
  rw [hdue, turns_withHook, serveHeads_withHook]
  split <;> rfl

/-- Nodes are crossed in the same way with the other hook. -/
theorem crossNodes_withHook :
    (t.withHook strategy replanner).crossNodes net now =
      (t.crossNodes net now).map (withHook strategy replanner) := by
  rw [crossNodes_eq, crossNodes_eq]
  exact foldlM_map (fun t l => serveLink_withHook strategy replanner t net now l) _ t

/-- Until replanning, a step goes the same way with other strategies and another replanner. -/
theorem afterNodes_withHook :
    (t.withHook strategy replanner).afterNodes net now =
      (t.afterNodes net now).map (withHook strategy replanner) := by
  have hcleared : (t.withHook strategy replanner).clearEvents =
      t.clearEvents.withHook strategy replanner := rfl
  unfold afterNodes
  rw [hcleared, endActivities_withHook]
  cases t.clearEvents.endActivities now with
  | error e => rfl
  | ok ended => exact crossNodes_withHook strategy replanner (ended.updateLinks now) net now

variable {t net now} {strategy replanner}

/-- Until replanning, the replanner stays as it is. -/
theorem replanner_afterNodes {u : Traffic} (h : t.afterNodes net now = .ok u) :
    u.replanner = t.replanner := by
  have hself := afterNodes_withHook none t.replanner t net now
  rw [withHook_self, h] at hself
  have hu : u = u.withHook none t.replanner := Except.ok.inj hself
  have hsame : u.replanner = (u.withHook none t.replanner).replanner :=
    congrArg Traffic.replanner hu
  exact hsame

/-! ### Steps -/

/-- A step in which nobody gets another route goes the same way without a replanner. -/
theorem step_withHook_of_kept
    (h : ∀ u, t.afterNodes net now = .ok u → u.replanAgents net now = .ok u) :
    (t.withHook strategy none).step net now =
      (t.step net now).map (withHook strategy none) := by
  rw [step_eq, step_eq, afterNodes_withHook]
  cases hafter : t.afterNodes net now with
  | error e => rfl
  | ok u =>
      simp only [Except.map, Except.bind, h u hafter]
      rfl

/-- If the replanner declines whom it may serve, nobody gets another route. -/
theorem replanAgents_of_declines {u : Traffic} (hafter : t.afterNodes net now = .ok u)
    (h : ∀ rep, t.replanner = some rep → ∀ a ∈ u.agents, rep.isEligible a now = true →
      rep.Declines a net now) : u.replanAgents net now = .ok u := by
  apply replanAgents_of_kept
  intro rep hrep a ha
  rw [replanner_afterNodes hafter] at hrep
  exact Replanner.replan_of_declines (h rep hrep a ha)

end Traffic

/-! ## Simulations without their replanner -/

namespace Simulation

variable {s : Simulation} {c : Config} {net : Network} {people : Population} {n : Nat}
  {t : Simulation}

/-- Whenever the replanner may serve an agent, it declines. -/
def AlwaysDeclined (s : Simulation) : Prop :=
  ∀ rep, s.traffic.replanner = some rep → ∀ n t u, s.history n = .ok t →
    t.traffic.afterNodes t.network t.now = .ok u → ∀ a ∈ u.agents,
      rep.isEligible a t.now = true → rep.Declines a t.network t.now

/-- The simulation without its replanner and without the strategies of the agents. -/
def plain (s : Simulation) : Simulation :=
  { s with traffic := s.traffic.withHook (some .followRoute) none }

/-- A step in which nobody gets another route goes the same way without a replanner. -/
theorem step_plain_of_kept
    (h : ∀ u, t.traffic.afterNodes t.network t.now = .ok u →
      u.replanAgents t.network t.now = .ok u) : t.plain.step = t.step.map plain := by
  rcases t with ⟨config, network, clock, traffic⟩
  have hstep : (traffic.withHook (some .followRoute) none).step network clock.now = _ :=
    Traffic.step_withHook_of_kept h
  simp only [plain, step, hstep]
  cases traffic.step network clock.now <;> rfl

/-- The replanner stays as it is in a step in which nobody gets another route. -/
theorem replanner_step_of_kept {u : Simulation} (hu : t.step = .ok u)
    (h : ∀ u, t.traffic.afterNodes t.network t.now = .ok u →
      u.replanAgents t.network t.now = .ok u) : u.traffic.replanner = t.traffic.replanner := by
  rcases t with ⟨config, network, clock, traffic⟩
  simp only [step, Traffic.step_eq] at hu
  cases hafter : traffic.afterNodes network clock.now with
  | error e =>
      rw [hafter] at hu
      cases hu
  | ok served =>
      have hkept : served.replanAgents network clock.now = .ok served := h served hafter
      simp only [hafter, Except.bind, hkept, Except.map] at hu
      cases hu
      have hsame : served.replanner = traffic.replanner := Traffic.replanner_afterNodes hafter
      exact hsame

namespace AlwaysDeclined

/-- The replanner stays as it is. -/
theorem replanner_history (h : s.AlwaysDeclined) (ht : s.history n = .ok t) :
    t.traffic.replanner = s.traffic.replanner := by
  induction n generalizing t with
  | zero =>
      cases ht
      rfl
  | succ n ih =>
      rw [history] at ht
      cases hn : s.history n with
      | error e =>
          rw [hn] at ht
          cases ht
      | ok before =>
          rw [hn] at ht
          rw [replanner_step_of_kept ht, ih hn]
          intro u hu
          apply Traffic.replanAgents_of_declines hu
          intro rep hrep
          exact h rep (ih hn ▸ hrep) n before u hn hu

/-- Nobody gets another route. -/
theorem replanAgents_history (h : s.AlwaysDeclined) (ht : s.history n = .ok t) (u : Traffic)
    (hu : t.traffic.afterNodes t.network t.now = .ok u) :
    u.replanAgents t.network t.now = .ok u := by
  apply Traffic.replanAgents_of_declines hu
  intro rep hrep
  exact h rep (h.replanner_history ht ▸ hrep) n t u ht hu

/-- The simulation goes as it would go without its replanner. -/
theorem history_plain (h : s.AlwaysDeclined) (n : Nat) :
    s.plain.history n = (s.history n).map plain := by
  induction n with
  | zero => rfl
  | succ n ih =>
      rw [history, history, ih]
      cases hn : s.history n with
      | error e => rfl
      | ok t => exact step_plain_of_kept (h.replanAgents_history hn)

/-- The events are the same without the replanner. -/
theorem stream_plain (h : s.AlwaysDeclined) (n : Nat) : s.plain.stream n = s.stream n := by
  induction n with
  | zero => rfl
  | succ n ih =>
      rw [stream, stream, ih, h.history_plain]
      cases s.history (n + 1) <;> rfl

end AlwaysDeclined

/-! ## The start -/

theorem enter_withHook (strategy : Option Strategy) (replanner : Option Replanner) (start : Time)
    (t : Traffic) (a : Agent) :
    enter start (t.withHook strategy replanner) (a.withStrategy strategy) =
      (enter start t a).withHook strategy replanner := by
  unfold enter
  rw [Agent.schedule_withStrategy]
  rcases a.schedule start with ⟨transition, b⟩
  cases transition <;> simp [Traffic.withHook]

/-- The traffic begins in the same way with the other hook. -/
theorem initialTraffic_withHook (strategy : Option Strategy) (c : Config) (net : Network)
    (agents : Array Agent) (before after : Option Replanner) :
    (initialTraffic c net agents before).withHook strategy after =
      initialTraffic c net (agents.map (Agent.withStrategy strategy)) after := by
  have hfold : ∀ (xs : List Agent) (t : Traffic),
      (xs.foldl (enter c.startTime) t).withHook strategy after =
        (xs.map (Agent.withStrategy strategy)).foldl (enter c.startTime)
          (t.withHook strategy after) := by
    intro xs
    induction xs with
    | nil => exact fun _ => rfl
    | cons a xs ih =>
        intro t
        rw [List.foldl_cons, ih, List.map_cons, List.foldl_cons, enter_withHook]
  unfold initialTraffic
  rw [← Array.foldl_toList, hfold, ← Array.foldl_toList, Array.toList_map]
  simp [Traffic.withHook]

/-- Without replanner and strategies nothing is left but the configuration, the network and the
population. -/
theorem plain_of_build {replanner : Option Replanner}
    {strategy : Option (AgentId → Person → Strategy)}
    (h : build c net people replanner strategy = .ok s) :
    s.plain = ⟨c, net, c.clock,
      initialTraffic c net (people.agents fun _ _ => .followRoute) none⟩ := by
  have hagents : ∀ choose : AgentId → Person → Strategy,
      (people.agents choose).map (Agent.withStrategy (some .followRoute)) =
        people.agents fun _ _ => .followRoute := by
    intro choose
    unfold Population.agents
    rw [List.map_toArray, List.map_map]
    rfl
  rcases build_eq_ok_iff.1 h with ⟨-, -, rfl⟩
  rw [plain, initialTraffic_withHook, hagents]

/-- With a replanner that declines whenever it may serve an agent, a simulation tells of the same
events as the one without a replanner, and after every number of steps it is the same, but for the
replanner, which stays as it was, and for the strategies. -/
theorem invisible_replanner {rep : Replanner}
    {strategy₁ strategy₂ : Option (AgentId → Person → Strategy)} {s₁ s₂ : Simulation}
    (h₁ : build c net people (some rep) strategy₁ = .ok s₁)
    (h₂ : build c net people none strategy₂ = .ok s₂) (hdeclined : s₁.AlwaysDeclined) (n : Nat) :
    ∃ r₁ r₂, s₁.recorded n = .ok r₁ ∧ s₂.recorded n = .ok r₂ ∧
      r₁.listeners.events = r₂.listeners.events ∧
      r₁.simulation.plain = r₂.simulation.plain ∧
      r₁.simulation.traffic.replanner = some rep := by
  have hinitial : s₁.traffic.replanner = some rep ∧ s₂.traffic.replanner = none :=
    ⟨replanner_of_build h₁, replanner_of_build h₂⟩
  have hdeclined₂ : s₂.AlwaysDeclined := by
    intro rep' hrep'
    rw [hinitial.2] at hrep'
    cases hrep'
  have hplain : s₁.plain = s₂.plain := (plain_of_build h₁).trans (plain_of_build h₂).symm
  rcases exists_recorded (sound_first h₁) n with ⟨r₁, hr₁, hrecords₁⟩
  rcases exists_recorded (sound_first h₂) n with ⟨r₂, hr₂, hrecords₂⟩
  refine ⟨r₁, r₂, hr₁, hr₂, ?_, ?_, ?_⟩
  · apply Array.toList_inj.1
    rw [hrecords₁.stream, hrecords₂.stream, ← hdeclined.stream_plain, hplain,
      hdeclined₂.stream_plain]
  · have hhistory := hdeclined.history_plain n
    rw [hplain, hdeclined₂.history_plain, hrecords₁.history, hrecords₂.history] at hhistory
    exact (Except.ok.inj hhistory).symm
  · rw [hdeclined.replanner_history hrecords₁.history]
    exact hinitial.1

end Simulation

/-! ## Offers that lead nowhere -/

namespace Commuter

/-- Offers everybody a route over a link that does not exist. -/
def misled : Replanner :=
  { replanner with provider := fun current destination _ => some ⟨current, [⟨99⟩], destination⟩ }

/-- Two early commuters who are offered a route that does not exist. -/
def astray : Simulation :=
  ⟨{}, net, Config.clock {}, Simulation.initialTraffic {} net
    (pair.agents (Simulation.defaultStrategy (some misled))) (some misled)⟩

theorem build_astray : Simulation.build {} net pair (some misled) none = .ok astray :=
  Simulation.build_eq_ok_iff.2 ⟨rfl, rfl, rfl⟩

/-- No offer can be taken. -/
theorem alwaysDeclined_astray : astray.AlwaysDeclined := by
  intro rep hrep n t u ht _ a _ _
  have hnet : t.network = net := (Simulation.clock_history ht).2.2
  have hinitial : astray.traffic.replanner = some misled :=
    (Simulation.agents_initialTraffic _ _ _ _).2
  rw [hinitial] at hrep
  cases hrep
  rw [hnet]
  refine .inr fun destination offer _ hoffer => .inr (.inr ⟨⟨99⟩, ?_, by decide⟩)
  cases hoffer
  rw [Route.mem_full_iff]
  simp [Route.named]

end Commuter

/-- Two commuters who are offered a road that does not exist are as well off without the offers. -/
theorem Simulation.invisible_replanner_astray :
    build {} Commuter.net Commuter.pair (some Commuter.misled) none = .ok Commuter.astray ∧
      build {} Commuter.net Commuter.pair none none = .ok Commuter.jam ∧
      Commuter.astray.AlwaysDeclined ∧
      ∃ r₁ r₂, Commuter.astray.recorded 30 = .ok r₁ ∧ Commuter.jam.recorded 30 = .ok r₂ ∧
        r₁.listeners.events = r₂.listeners.events ∧
        r₁.simulation.plain = r₂.simulation.plain ∧
        r₁.simulation.traffic.replanner = some Commuter.misled :=
  ⟨Commuter.build_astray, Commuter.build_jam, Commuter.alwaysDeclined_astray,
    invisible_replanner Commuter.build_astray Commuter.build_jam Commuter.alwaysDeclined_astray 30⟩

end TrafficQueue
