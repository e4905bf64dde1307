import TrafficQueue.Proofs.Agent.Later
import TrafficQueue.Proofs.Simulation.Declining
import TrafficQueue.Proofs.Simulation.Ending

/-!
# Simulations moved to a later time

Nothing in a simulation depends on the time of day: if the time window and all end
times are moved by as much, the same happens as much later.  The end of time is the one
time that is not moved, so the clock has to stay within the range of times, and whoever
leaves the first activity must not come to leave it at the end of time.

Main results:

- Definition `Traffic.later`: the traffic with all times moved.
- Theorem `Traffic.step_later`: a step at a later time.
- Theorem `Simulation.history_later`: the simulation after any number of steps.
- Theorem `Simulation.recorded_later`: the events and the counts of a moved simulation.
-/

namespace TrafficQueue

variable (d : Nat)

/-! ## Steps -/

namespace Traffic

/-- The traffic with all times moved. -/
def later (t : Traffic) : Traffic :=
  { t with
    agents := t.agents.map (Agent.later d)
    queues := t.queues.later d
    endQueue := t.endQueue.later d
    emitted := t.emitted.map (Event.later d) }

variable (t : Traffic) (net : Network) (now : Time)

/-- The agents are moved. -/
theorem agent?_later (id : AgentId) :
    (t.later d).agent? id = (t.agent? id).map (Agent.later d) :=
  Array.getElem?_map

/-- A settled agent is settled at the later time. -/
theorem settle_later (id : AgentId) (transition : Transition) :
    settle id (transition.later d) (t.later d) = (settle id transition t).later d := by
  cases transition with
  | scheduled time =>
      have hpush : (settle id (.scheduled time) t).later d =
          { t.later d with endQueue := ((t.endQueue.later d).push (time.offset d) id).2 } := by
        rw [← EndQueue.later_push]
        rfl
      rw [hpush, Transition.later]
      split
      · rename_i hnever
        rw [hnever]
        rfl
      · rfl
  | resting | enRoute | completed | stuck => rfl

theorem depart_later (stats : Statistics) (transition : Transition) :
    stats.depart (transition.later d) = stats.depart transition := by
  cases transition with
  | scheduled time =>
      rw [Transition.later]
      split <;> rfl
  | resting | enRoute | completed | stuck => rfl

theorem arrive_later (stats : Statistics) (transition : Transition) :
    stats.arrive (transition.later d) = stats.arrive transition := by
  cases transition with
  | scheduled time =>
      rw [Transition.later]
      split <;> rfl
  | resting | enRoute | completed | stuck => rfl

/-- What has been told and what is told now are moved together. -/
theorem emitted_later (emitted : Array Event) (events : List Event) :
    (emitted ++ events).map (Event.later d) =
      emitted.map (Event.later d) ++ events.map (Event.later d) :=
  Array.toList_inj.1 (by simp)

/-- An activity is left at the later time as before. -/
theorem endActivity_later (id : AgentId) :
    (t.later d).endActivity (now.offset d) id = (t.endActivity now id).map (later d) := by
  rcases t with ⟨agents, queues, endQueue, replanner, stats, emitted⟩
  simp only [later, endActivity, Array.getElem?_map]
  cases agents[id.index]? with
  | none => rfl
  | some a =>
      simp only [Option.map_some, Agent.endActivity_later]
      rcases a.endActivity now queues with ⟨⟨b, events, answer⟩, after⟩
      cases answer with
      | error e => rfl
      | ok transition =>
          simp only [Effect.later, Except.map, ← Array.map_setIfInBounds, depart_later]
          have hsettle := settle_later d ⟨agents.setIfInBounds id.index b, after, endQueue,
            replanner, stats.depart transition, emitted ++ events⟩ id transition
          rw [← hsettle]
          simp [later, emitted_later]

variable {now}

theorem endActivities_later (h : now.offset d ≠ .never) :
    (t.later d).endActivities (now.offset d) = (t.endActivities now).map (later d) := by
  have hdrain : (t.later d).endQueue.drain (now.offset d) = _ :=
    EndQueue.drain_later h t.endQueue
  unfold endActivities
  rw [hdrain]
  exact foldlM_map (fun t id => endActivity_later d t now id) _
    { t with endQueue := (t.endQueue.drain now).2 }

/-- What came of a turn, with all times moved. -/
def turnLater (served : Bool × Traffic) : Bool × Traffic := (served.1, served.2.later d)

/-- A vehicle is moved on at the later time as before. -/
theorem moveHead_later (h : now.offset d ≠ .never) (l next : LinkId) (a : Agent) :
    (t.later d).moveHead (now.offset d) l next (a.later d) =
      (t.moveHead now l next a).map (turnLater d) := by
  rcases t with ⟨agents, queues, endQueue, replanner, stats, emitted⟩
  simp only [later, moveHead, QueueNetwork.release_later _ _ h]
  rcases queues.release l now (.link next) with e | ⟨_ | v, left⟩
  · rfl
  · simp [turnLater, later, Except.map]
  · simp only [Except.map, Agent.crossNode_later]
    rcases a.crossNode next now left with ⟨⟨b, events, answer⟩, after⟩
    cases answer with
    | error e => rfl
    | ok _ => simp [turnLater, later, Effect.later, emitted_later]

theorem arriveHead_later (h : now.offset d ≠ .never) (l : LinkId) (a : Agent) :
    (t.later d).arriveHead (now.offset d) l (a.later d) =
      (t.arriveHead now l a).map (turnLater d) := by
  rcases t with ⟨agents, queues, endQueue, replanner, stats, emitted⟩
  simp only [later, arriveHead, QueueNetwork.release_later _ _ h]
  rcases queues.release l now .exit with e | ⟨_ | v, left⟩
  · rfl
  · simp [turnLater, later, Except.map]
  · simp only [Except.map, Agent.arrive_later]
    rcases a.arrive now with ⟨b, events, answer⟩
    cases answer with
    | error e => rfl
    | ok transition =>
        have hsettle := settle_later d ⟨agents.setIfInBounds b.id.index b, left, endQueue,
          replanner, stats.arrive transition, emitted ++ events⟩ b.id transition
        simp only [Effect.later, Except.map, turnLater, arrive_later, ← hsettle]
        simp [later, emitted_later]

theorem removeHead_later (l : LinkId) (a : Agent) (reason : StuckReason) :
    (t.later d).removeHead (now.offset d) l (a.later d) reason =
      (t.removeHead now l a reason).map (turnLater d) := by
  rcases t with ⟨agents, queues, endQueue, replanner, stats, emitted⟩
  simp only [later, removeHead, QueueNetwork.evict_later]
  rcases queues.evict l with e | ⟨v, left⟩
  · rfl
  · simp only [Except.map, Agent.remove_later, turnLater]
    have hsettle := settle_later d ⟨agents.setIfInBounds a.id.index (a.remove reason now).agent,
      left, endQueue, replanner, stats, emitted ++ (a.remove reason now).events⟩ a.id
      (a.remove reason now).answer
    rw [← hsettle]
    simp [later, Effect.later]

/-- The head of a link is served at the later time as before. -/
theorem serveHead_later (h : now.offset d ≠ .never) (l : LinkId) :
    (t.later d).serveHead net (now.offset d) l = (t.serveHead net now l).map (turnLater d) := by
  have hhead : (t.later d).queues.head? l = _ := QueueNetwork.head?_later d t.queues l
  unfold serveHead
  rw [hhead]
  cases t.queues.head? l with
  | none => rfl
  | some head =>
      have hdue : (head.later d).earliestExit ≤ now.offset d ↔ head.earliestExit ≤ now :=
        Time.offset_le_offset_iff h
      have hvehicle : (head.later d).vehicle = head.vehicle := rfl
      simp only [Option.map_some, hdue, hvehicle, agent?_later]
      split
      · cases t.agent? head.vehicle.driver with
        | none => rfl
        | some a =>
            simp only [Option.map_some, Agent.chooseNext_later]
            rcases a.chooseNext net with _ | ⟨next | _ | reason, kept⟩
            · rfl
            · exact moveHead_later d t h l next kept
            · exact arriveHead_later d t h l kept
            · exact removeHead_later d t l kept reason
      · rfl

theorem serveHeads_later (h : now.offset d ≠ .never) (l : LinkId) (turns : Nat) :
    (t.later d).serveHeads net (now.offset d) l turns =
      (t.serveHeads net now l turns).map (later d) := by
  induction turns generalizing t with
  | zero => rfl
  | succ turns ih =>
      rw [serveHeads, serveHeads, serveHead_later d t net h]
      rcases t.serveHead net now l with e | ⟨_ | _, served⟩
      · rfl
      · rfl
      · exact ih served

/-- Before the end of time a link has as many turns as vehicles. -/
theorem turns_later (h : now.offset d ≠ .never) (l : LinkId) :
    (t.later d).turns (now.offset d) l = t.turns now l := by
  have hlink : (t.later d).queues.link? l = _ := QueueNetwork.link?_later d t.queues l
  have hvehicles : ∀ q : LinkQueue Float, (q.later d).vehicles = q.vehicles := by
    intro q
    simp only [LinkQueue.vehicles, LinkQueue.later, List.map_map]
    rfl
  unfold turns
  rw [if_neg h, if_neg (Time.ne_never_of_offset h), hlink]
  cases t.queues.link? l with
  | none => rfl
  | some q => simp only [Option.map_some, Option.getD_some, hvehicles]

theorem serveLink_later (h : now.offset d ≠ .never) (l : LinkId) :
    serveLink net (now.offset d) (t.later d) l = (serveLink net now t l).map (later d) := by
  have hdue : (t.later d).isDue (now.offset d) l = t.isDue now l := by
    have hhead : (t.later d).queues.head? l = _ := QueueNetwork.head?_later d t.queues l
    unfold isDue
    rw [hhead]
    cases t.queues.head? l with
    | none => rfl
    | some head => exact decide_eq_decide.2 (Time.offset_le_offset_iff h)
  unfold serveLink
  rw [hdue, turns_later d t h, serveHeads_later d t net h]
  split <;> rfl

theorem crossNodes_later (h : now.offset d ≠ .never) :
    (t.later d).crossNodes net (now.offset d) = (t.crossNodes net now).map (later d) := by
  rw [crossNodes_eq, crossNodes_eq]
  exact foldlM_map (fun t l => serveLink_later d t net h l) _ t

/-- The first half of a step is the same at the later time. -/
theorem afterNodes_later (h : now.offset d ≠ .never) :
    (t.later d).afterNodes net (now.offset d) = (t.afterNodes net now).map (later d) := by
  have hcleared : (t.later d).clearEvents = t.clearEvents.later d := by
    simp [clearEvents, later]
  have hupdated : ∀ u : Traffic, (u.later d).updateLinks (now.offset d) =
      (u.updateLinks now).later d := by
    intro u
    simp only [updateLinks, later, QueueNetwork.update_later]
  unfold afterNodes
  rw [hcleared, endActivities_later d t.clearEvents h]
  cases t.clearEvents.endActivities now with
  | error e => rfl
  | ok ended =>
      have hcrossed := crossNodes_later d (ended.updateLinks now) net h
      rw [← hupdated] at hcrossed
      exact hcrossed

/-- A step is counted in the same way at a later time. -/
theorem countStep_later : (t.later d).countStep = t.countStep.later d := by
  simp only [countStep, later, Array.size_map, QueueNetwork.traffic_later]

variable {t}

/-- Without a replanner a step at a later time is the step, moved. -/
theorem step_later (hnone : t.replanner = none) (h : now.offset d ≠ .never) :
    (t.later d).step net (now.offset d) = (t.step net now).map (later d) := by
  rw [step_eq, step_eq, afterNodes_later d t net h]
  cases hafter : t.afterNodes net now with
  | error e => rfl
  | ok u =>
      have hkept : ∀ v : Traffic, v.replanner = none → ∀ time,
          v.replanAgents net time = .ok v := by
        intro v hv time
        rw [replanAgents, hv]
        rfl
      have hu : u.replanner = none := (replanner_afterNodes hafter).trans hnone
      simp only [Except.map, Except.bind, hkept u hu, hkept (u.later d) hu, countStep_later]

end Traffic

/-! ## Simulations -/

namespace Simulation

/-- The simulation with all times moved. -/
def later (s : Simulation) : Simulation :=
  { config := s.config.later d
    network := s.network
    clock := { s.clock with start := s.clock.start.offset d, now := s.clock.now.offset d }
    traffic := s.traffic.later d }

variable {d} {s t : Simulation} {n : Nat}

/-- A step of the moved simulation is the moved step, as long as its time is a time of day. -/
theorem step_later (hnone : t.traffic.replanner = none) (h : t.now.offset d ≠ .never) :
    (t.later d).step = t.step.map (later d) := by
  rcases t with ⟨config, network, clock, traffic⟩
  have hstep : (traffic.later d).step network (clock.now.offset d) = _ :=
    Traffic.step_later d network hnone h
  simp only [later, step, hstep]
  cases traffic.step network clock.now with
  | error e => rfl
  | ok after =>
      simp only [Except.map, later, Clock.advance, Time.offset_comm clock.now d]

/-- Without a replanner there is nothing to be declined. -/
theorem alwaysDeclined_of_none (h : s.traffic.replanner = none) : s.AlwaysDeclined := by
  intro rep hrep
  rw [h] at hrep
  cases hrep

/-- As long as the clock is before the end of time, the moved simulation goes the same way. -/
theorem history_later (hnone : s.traffic.replanner = none)
    (h : ∀ k < n, (s.clock.advanceBy k).now.offset d ≠ .never) :
    (s.later d).history n = (s.history n).map (later d) := by
  induction n with
  | zero => rfl
  | succ n ih =>
      rw [history, history, ih fun k hk => h k (Nat.lt_succ_of_lt hk)]
      cases hn : s.history n with
      | error e => rfl
      | ok t =>
          have hnow : t.now = (s.clock.advanceBy n).now := by
            rw [now, (clock_history hn).1]
          have hkept : t.traffic.replanner = none :=
            ((alwaysDeclined_of_none hnone).replanner_history hn).trans hnone
          exact step_later hkept (hnow ▸ h n (Nat.lt_succ_self n))

/-- The events of the moved simulation are the moved events, as long as the times are times of
day. -/
theorem stream_later (hnone : s.traffic.replanner = none)
    (h : ∀ k < n, (s.clock.advanceBy k).now.offset d ≠ .never) :
    (s.later d).stream n = (s.stream n).map (Event.later d) := by
  induction n with
  | zero => rfl
  | succ n ih =>
      rw [stream, stream, ih fun k hk => h k (Nat.lt_succ_of_lt hk), history_later hnone h,
        List.map_append]
      cases s.history (n + 1) with
      | error e => rfl
      | ok t => simp [Except.map, Except.toOption, later, events, Traffic.later]

/-! ## The start -/

variable {c : Config} {net : Network} {people : Population} {start : Time}

/-- Whoever has somewhere to go and a time to leave the first activity has one when everything is
moved. -/
def StillLeaves (d : Nat) (start : Time) (plan : Plan) : Prop :=
  ∀ act, plan.activity? 0 = some act → 1 < plan.length → act.departure start ≠ .never →
    (act.departure start).offset d ≠ .never

/-- An agent that still leaves enters at the later time as before. -/
theorem enter_later {a : Agent} (h : StillLeaves d start a.plan) (t : Traffic) :
    enter (start.offset d) (t.later d) (a.later d) = (enter start t a).later d := by
  have hkept : ∀ time, (a.schedule start).1 = .scheduled time → time.offset d ≠ .never := by
    intro time htime
    unfold Agent.schedule at htime
    cases hact : a.plan.activity? 0 with
    | none =>
        rw [hact] at htime
        cases htime
    | some act =>
        simp only [hact] at htime
        split at htime
        · rename_i hleaves
          cases htime
          exact h act hact hleaves.1 hleaves.2
        · cases htime
  unfold enter
  rw [Agent.schedule_later]
  rcases hschedule : a.schedule start with ⟨transition, b⟩
  rw [hschedule] at hkept
  cases transition with
  | scheduled time =>
      rw [Transition.later, if_neg (hkept time rfl)]
      simp [Traffic.later, EndQueue.later_push]
  | resting | enRoute | completed | stuck => simp [Traffic.later, Transition.later]

/-- Empty queues have no times. -/
theorem ofNetwork_later (d : Nat) (net : Network) (c : Config) :
    (QueueNetwork.ofNetwork net c).later d = .ofNetwork net (c.later d) := by
  simp only [QueueNetwork.ofNetwork, QueueNetwork.withBuckets, QueueNetwork.later,
    List.map_toArray, List.map_map]
  rfl

/-- If all still leave, the traffic begins at the later time as before. -/
theorem initialTraffic_later {agents : Array Agent}
    (h : ∀ a ∈ agents, StillLeaves d c.startTime a.plan) :
    initialTraffic (c.later d) net (agents.map (Agent.later d)) none =
      (initialTraffic c net agents none).later d := by
  have hfold : ∀ (xs : List Agent) (t : Traffic),
      (∀ a ∈ xs, StillLeaves d c.startTime a.plan) →
      (xs.map (Agent.later d)).foldl (enter (c.startTime.offset d)) (t.later d) =
        (xs.foldl (enter c.startTime) t).later d := by
    intro xs
    induction xs with
    | nil => exact fun _ _ => rfl
    | cons a xs ih =>
        intro t hxs
        rcases List.forall_mem_cons.1 hxs with ⟨ha, hrest⟩
        rw [List.map_cons, List.foldl_cons, enter_later ha, ih _ hrest, List.foldl_cons]
  have hempty : Traffic.later d { agents := #[], queues := .ofNetwork net c } =
      { agents := #[], queues := .ofNetwork net (c.later d) } := by
    simp [Traffic.later, ofNetwork_later]
  unfold initialTraffic
  rw [← Array.foldl_toList, Array.toList_map, ← Array.foldl_toList,
    ← hfold _ _ fun a ha => h a (Array.mem_toList_iff.1 ha), hempty]
  rfl

/-- The agents of the moved population are the moved agents. -/
theorem agents_later (d : Nat) (people : Population) :
    (people.later d).agents (fun _ _ => .followRoute) =
      (people.agents fun _ _ => .followRoute).map (Agent.later d) := by
  have hperson : ∀ (id : AgentId) (person : Person),
      Agent.ofPerson (fun _ _ => .followRoute) id (person.later d) =
        (Agent.ofPerson (fun _ _ => .followRoute) id person).later d := by
    intro id person
    have hact : (person.later d).plan.activity? 0 = _ := Plan.activity?_later d person.plan 0
    unfold Agent.ofPerson
    rw [hact, Option.map_map]
    simp only [Agent.later, Time.never_offset]
    rfl
  apply Array.ext_getElem?
  intro i
  rw [Array.getElem?_map, Population.agents_getElem?, Population.agents_getElem?,
    Population.later, Array.getElem?_map, Option.map_map, Option.map_map]
  cases people.persons[i]? with
  | none => rfl
  | some person => exact congrArg some (hperson ⟨i⟩ person)

variable {strategy₁ strategy₂ : Option (AgentId → Person → Strategy)}

/-- Without strategies the moved simulation is the simulation, moved. -/
theorem plain_later {s' : Simulation} (h : build c net people none strategy₁ = .ok s)
    (h' : build (c.later d) net (people.later d) none strategy₂ = .ok s')
    (hleaves : ∀ person ∈ people.persons, StillLeaves d c.startTime person.plan) :
    s'.plain = s.plain.later d := by
  have hagents : ∀ a ∈ people.agents fun _ _ => .followRoute, StillLeaves d c.startTime a.plan := by
    intro a ha
    rcases Array.getElem?_of_mem ha with ⟨i, hi⟩
    rw [Population.agents_getElem?] at hi
    rcases Option.map_eq_some_iff.1 hi with ⟨person, hperson, rfl⟩
    exact hleaves person (Array.mem_of_getElem? hperson)
  rw [plain_of_build h, plain_of_build h', agents_later, initialTraffic_later hagents]
  rfl

/-- If the simulation is built, so is the moved one. -/
theorem exists_build_later (h : build c net people none strategy₁ = .ok s)
    (strategy₂ : Option (AgentId → Person → Strategy)) (d : Nat) :
    ∃ s', build (c.later d) net (people.later d) none strategy₂ = .ok s' := by
  rcases build_eq_ok_iff.1 h with ⟨hc, hpeople, -⟩
  exact ⟨_, build_eq_ok_iff.2
    ⟨Config.validate_later hc, Population.validate_later hpeople, rfl⟩⟩

/-- If nobody comes to leave the first activity at the end of time, and the clock stays within the
range of times for so many steps, then the simulation of the moved population in the moved time
window is built, and in these steps it tells of the same events, each as much later, and counts the
same. -/
theorem recorded_later (h : build c net people none strategy₁ = .ok s) (d n : Nat)
    (hclock : c.startTime.secs + d + n * c.stepSecs.toNat ≤ Time.never.secs)
    (hleaves : ∀ person ∈ people.persons, StillLeaves d c.startTime person.plan) :
    ∃ s', build (c.later d) net (people.later d) none strategy₂ = .ok s' ∧
      ∃ r r', s.recorded n = .ok r ∧ s'.recorded n = .ok r' ∧
        r'.listeners.events = r.listeners.events.map (Event.later d) ∧
        (∀ e ∈ r.listeners.events, (e.later d).time.secs = e.time.secs + d) ∧
        r'.simulation.stats = r.simulation.stats := by
  rcases exists_build_later h strategy₂ d with ⟨s', h'⟩
  rcases exists_recorded (sound_first h) n with ⟨r, hr, hrecords⟩
  rcases exists_recorded (sound_first h') n with ⟨r', hr', hrecords'⟩
  have hplain := plain_later h h' hleaves
  have hdeclined := alwaysDeclined_of_none (replanner_of_build h)
  have hdeclined' := alwaysDeclined_of_none (replanner_of_build h')
  have hnow : ∀ k < n, (s.clock.advanceBy k).now.secs + d < Time.never.secs := by
    intro k hk
    rcases build_eq_ok_iff.1 h with ⟨hc, -, hs⟩
    have hadvance : (s.clock.advanceBy k).now.secs =
        min (c.startTime.secs + k * c.stepSecs.toNat) 0xffffffffffffffff := by
      rw [hs]
      exact (c.clock.secs_now_advanceBy k).1
    have hstep := Config.one_le_stepSecs hc
    have hnext : (k + 1) * c.stepSecs.toNat ≤ n * c.stepSecs.toNat := Nat.mul_le_mul_right _ hk
    rw [Nat.succ_mul] at hnext
    rw [hadvance, Time.secs_never]
    rw [Time.secs_never] at hclock
    omega
  have hkept : ∀ k < n, (s.plain.clock.advanceBy k).now.offset d ≠ .never :=
    fun k hk => Time.offset_ne_never_iff.2 (hnow k hk)
  have hstream : s'.stream n = (s.stream n).map (Event.later d) := by
    rw [← hdeclined'.stream_plain, hplain, stream_later rfl hkept, hdeclined.stream_plain]
  have hhistory : r'.simulation.plain = r.simulation.plain.later d := by
    have hmoved := history_later (s := s.plain) rfl hkept
    rw [← hplain, hdeclined'.history_plain, hdeclined.history_plain, hrecords'.history,
      hrecords.history] at hmoved
    exact Except.ok.inj hmoved
  refine ⟨s', h', r, r', hr, hr', ?_, ?_, ?_⟩
  · apply Array.toList_inj.1
    rw [hrecords'.stream, hstream, Array.toList_map, hrecords.stream]
  · intro e he
    rw [← Array.mem_toList_iff, hrecords.stream] at he
    rcases time_of_mem_stream (sound_first h) he with ⟨k, hk, htime⟩
    have hlt := hnow k hk
    rw [← htime, Time.secs_never] at hlt
    change min (e.time.secs + d) 0xffffffffffffffff = _
    omega
  · have hstats : r'.simulation.plain.stats = (r.simulation.plain.later d).stats :=
      congrArg stats hhistory
    exact hstats

end Simulation

/-! ## Later in the day, and at the end of time -/

/-- An hour later the two commuters are in each other's way as they are at midnight. -/
theorem Simulation.recorded_later_jam :
    build {} Commuter.net Commuter.pair none none = .ok Commuter.jam ∧
      (∀ person ∈ Commuter.pair.persons, StillLeaves 3600 .zero person.plan) ∧
      ∃ s', build (Config.later 3600 {}) Commuter.net (Commuter.pair.later 3600) none none =
          .ok s' ∧
        ∃ r r', Commuter.jam.recorded 30 = .ok r ∧ s'.recorded 30 = .ok r' ∧
          r'.listeners.events = r.listeners.events.map (Event.later 3600) ∧
          (∀ e ∈ r.listeners.events, (e.later 3600).time.secs = e.time.secs + 3600) ∧
          r'.simulation.stats = r.simulation.stats := by
  have hleaves : ∀ person ∈ Commuter.pair.persons, StillLeaves 3600 .zero person.plan := by
    intro person hperson act hact _ _
    have hplan : person.plan = Commuter.early := by
      simp only [Commuter.pair, List.mem_toArray, List.mem_cons, List.not_mem_nil, or_false]
        at hperson
      rcases hperson with rfl | rfl <;> rfl
    rw [hplan] at hact
    cases hact
    decide
  exact ⟨Commuter.build_jam, hleaves, recorded_later Commuter.build_jam 3600 30 (by decide) hleaves⟩

namespace Commuter

/-- Stays at home until five seconds before the end of time. -/
def homebody : Population :=
  ⟨#[⟨"homebody",
    ⟨[.activity { kind := "home", link := ⟨0⟩, duration := some (Time.never.secs - 5) },
      .leg ⟨.car, some ⟨⟨0⟩, [], ⟨1⟩⟩⟩,
      .activity { kind := "work", link := ⟨1⟩ }]⟩⟩]⟩

/-- The homebody's simulation, or that of the moved homebody in the moved time window. -/
def secluded (c : Config) (people : Population) : Simulation :=
  ⟨c, net, c.clock,
    Simulation.initialTraffic c net (people.agents (Simulation.defaultStrategy none)) none⟩

end Commuter

/-- Five seconds later the stay at home ends at the very end of time, which no sum of times goes
beyond; but whoever would leave then never leaves and does not count as living. -/
theorem Simulation.not_recorded_later_homebody :
    ∃ s s' r r', build {} Commuter.net Commuter.homebody none none = .ok s ∧
      build (Config.later 5 {}) Commuter.net (Commuter.homebody.later 5) none none = .ok s' ∧
      (∀ person ∈ Commuter.homebody.persons, ∀ i act, person.plan.activity? i = some act →
        act.endTime = none ∧ ∀ secs ∈ act.duration, (0 + 5) + secs ≤ Time.never.secs) ∧
      (0 + 5) + 1 ≤ Time.never.secs ∧ ({} : Config).endTime.secs + 5 ≤ Time.never.secs ∧
      s.recorded 1 = .ok r ∧ s'.recorded 1 = .ok r' ∧
      r.simulation.stats.living = 1 ∧ r'.simulation.stats.living = 0 := by
  have h : build {} Commuter.net Commuter.homebody none none =
      .ok (Commuter.secluded {} Commuter.homebody) :=
    build_eq_ok_iff.2 ⟨rfl, rfl, rfl⟩
  have h' : build (Config.later 5 {}) Commuter.net (Commuter.homebody.later 5) none none =
      .ok (Commuter.secluded (Config.later 5 {}) (Commuter.homebody.later 5)) := by
    rcases build_eq_ok_iff.1 h with ⟨hc, hpeople, -⟩
    exact build_eq_ok_iff.2 ⟨Config.validate_later hc, Population.validate_later hpeople, rfl⟩
  rcases exists_recorded (sound_first h) 1 with ⟨r, hr, -⟩
  rcases exists_recorded (sound_first h') 1 with ⟨r', hr', -⟩
  have hliving : ((Commuter.secluded {} Commuter.homebody).recorded 1).toOption.map
      (fun r => r.simulation.stats.living) = some 1 := by
    decide +kernel
  have hliving' : ((Commuter.secluded (Config.later 5 {}) (Commuter.homebody.later 5)).recorded
      1).toOption.map (fun r => r.simulation.stats.living) = some 0 := by
    decide +kernel
  rw [hr] at hliving
  rw [hr'] at hliving'
  refine ⟨_, _, r, r', h, h', ?_, by decide, by decide, hr, hr', Option.some.inj hliving,
    Option.some.inj hliving'⟩
  intro person hperson i act hact
  simp only [Commuter.homebody, List.mem_toArray, List.mem_singleton] at hperson
  subst hperson
  match i, hact with
  | 0, rfl => exact ⟨rfl, by decide⟩
  | 2, rfl => exact ⟨rfl, fun _ hsecs => by cases hsecs⟩

end TrafficQueue
