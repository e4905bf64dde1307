import TrafficQueue.Event.Record
import TrafficQueue.Proofs.Event.Dispatch
import TrafficQueue.Proofs.Simulation.Progress
import TrafficQueue.Proofs.Simulation.Start
import TrafficQueue.Simulation.Run

/-!
# The course of a simulation

A simulation passes moments: it starts at its first moment, operations lead on
within a step, and the end of a step leads to the next one.  The traffic after any
number of steps is at such a moment, so what all moments have in common holds
after every step.  A recorded run keeps every event that has been dispatched.

Main results:

- Theorem `Run.advance_eq`: to dispatch the events of a step in two parts comes to the
  same as to dispatch them together at its end.
- Definition `Simulation.Passes`: the moments of a simulation.
- Theorem `Simulation.Passes.invariant`: what holds first and is kept by moves and by
  the end of a step holds at all moments.
- Definition `Simulation.stream`: the events of any number of steps.
- Theorem `Simulation.exists_recorded`: a recorded run of any length, and the moment at
  which it ends.
-/

namespace TrafficQueue

/-! ## Listeners -/

/-- An observer with nothing to do does nothing. -/
theorem Run.observeStep_default {σ : Type} (c : Config) (before : Clock) (stats : Statistics)
    (x : σ) : Run.observeStep {} c before stats x = x := by
  unfold observeStep
  split <;> rfl

section Dispatching

variable {net : Network} {now : Time} {t u : Traffic}

/-- What an agent that gets another route tells comes after what was told before. -/
theorem Traffic.prefix_replanAgent {a : Agent} (h : t.replanAgent net now a = .ok u) :
    t.emitted.toList <+: u.emitted.toList := by
  rcases t with ⟨agents, queues, endQueue, replanner, stats, emitted⟩
  cases replanner with
  | none =>
      cases h
      exact List.prefix_rfl
  | some rep =>
      rcases hreplan : rep.replan a net now with e | _ | done
      · simp only [replanAgent, hreplan] at h
        cases h
      · simp only [replanAgent, hreplan] at h
        cases h
        exact List.prefix_rfl
      · simp only [replanAgent, hreplan] at h
        cases h
        simp

/-- What replanning tells comes after what was told before. -/
theorem Traffic.prefix_replanAgents (h : t.replanAgents net now = .ok u) :
    t.emitted.toList <+: u.emitted.toList := by
  have hfold : ∀ (agents : List Agent) (t : Traffic),
      agents.foldlM (replanAgent net now) t = .ok u → t.emitted.toList <+: u.emitted.toList := by
    intro agents
    induction agents with
    | nil =>
        intro t h
        cases h
        exact List.prefix_rfl
    | cons a agents ih =>
        intro t h
        rw [List.foldlM_cons] at h
        cases ha : t.replanAgent net now a with
        | error e =>
            rw [ha] at h
            cases h
        | ok next =>
            rw [ha] at h
            exact (prefix_replanAgent ha).trans (ih next h)
  unfold replanAgents at h
  split at h
  · cases h
    exact List.prefix_rfl
  · rw [← Array.foldlM_toList] at h
    exact hfold _ t h

/-- The second part of a step adds to the events of the first part. -/
theorem Simulation.prefix_changeRoutes {served s : Simulation} (h : served.changeRoutes = .ok s) :
    served.events <+: s.events := by
  rcases served with ⟨config, network, clock, traffic⟩
  cases hdone : traffic.replanAgents network clock.now with
  | error e =>
      simp only [changeRoutes, hdone] at h
      cases h
  | ok done =>
      simp only [changeRoutes, hdone] at h
      cases h
      have hprefix := Traffic.prefix_replanAgents hdone
      exact hprefix

end Dispatching

/-- The run when its simulation has made a step, whose events are dispatched together. -/
def Run.followed {σ : Type} (r : Run σ) (t : Simulation) : Run σ :=
  let before := r.simulation.clock
  let told := (r.bus.emitAll t.events).flush (r.observer.onStepStart before.now r.listeners)
  { r with
    simulation := t
    bus := told.1
    listeners := observeStep r.observer t.config before t.stats told.2 }

/-- The two dispatches of a step come to the same as one at its end. -/
theorem Run.advance_eq {σ : Type} (r : Run σ) : r.advance = r.simulation.step.map r.followed := by
  rcases r with ⟨simulation, bus, observer, listeners, finished⟩
  simp only [advance, Simulation.step_eq_bind]
  cases simulation.serveLinks with
  | error e => rfl
  | ok served =>
      simp only [Except.bind]
      cases hroutes : served.changeRoutes with
      | error e => rfl
      | ok t =>
          rcases Simulation.prefix_changeRoutes hroutes with ⟨others, hothers⟩
          simp only [Except.map, followed, ← hothers, List.drop_left, EventBus.flush_emitAll_append]

/-- The run after a step of its simulation. -/
def Run.stepped {σ : Type} (r : Run σ) (t : Simulation) : Run σ :=
  { r with
    simulation := t
    bus := { r.bus with dispatched := r.bus.dispatched + t.events.length }
    listeners := observeStep r.observer t.config r.simulation.clock t.stats
      (t.events.foldl (EventBus.deliver r.bus.handlers)
        (r.observer.onStepStart r.simulation.clock.now r.listeners)) }

/-- A run with nothing left to dispatch makes the steps of its simulation. -/
theorem Run.advance_eq_stepped {σ : Type} {r : Run σ} {t : Simulation}
    (hstep : r.simulation.step = .ok t) (hpending : r.bus.pending = #[]) :
    r.advance = .ok (r.stepped t) := by
  rw [advance_eq, hstep, Except.map, followed, EventBus.flush_emitAll _ _ hpending]
  rfl

/-- The last of so many steps is a step after the others. -/
theorem Run.advanceBy_succ {σ : Type} (n : Nat) (r : Run σ) :
    r.advanceBy (n + 1) = (r.advanceBy n).bind Run.advance := by
  induction n generalizing r with
  | zero =>
      change r.advanceBy 1 = r.advance
      rw [advanceBy]
      cases r.advance <;> rfl
  | succ n ih =>
      rw [advanceBy]
      cases hr : r.advance with
      | error e => simp [advanceBy, hr, Except.bind]
      | ok r' =>
          change advanceBy (n + 1) r' = _
          rw [ih, advanceBy, hr]

/-! ## Moments -/

namespace Simulation

/-- The moment before the first step. -/
def first (s : Simulation) : Moment := ⟨[], [], s.traffic.clearEvents⟩

/-- The moments that a simulation passes after so many whole steps. -/
inductive Passes (s : Simulation) : Nat → Moment → Prop where
  | first : Passes s 0 s.first
  | operation {n m m'} (h : Passes s n m)
      (hop : Operation s.network (s.clock.advanceBy n).now m m') : Passes s n m'
  | next {n past t} (h : Passes s n ⟨past, [], t⟩) :
      Passes s (n + 1) ⟨past ++ t.emitted.toList, [], t.countStep.clearEvents⟩

/-- The end of a step adds nothing to the events. -/
theorem log_next (past : List Event) (t : Traffic) :
    Moment.log ⟨past ++ t.emitted.toList, [], t.countStep.clearEvents⟩ =
      Moment.log ⟨past, [], t⟩ := by
  simp [Moment.log, Traffic.clearEvents]

/-- After whole steps all events are those of the steps before. -/
theorem log_clearEvents (past : List Event) (t : Traffic) :
    Moment.log ⟨past, [], t.clearEvents⟩ = past := by
  simp [Moment.log, Traffic.clearEvents]

variable {s : Simulation}

/-- Nothing happens between two steps. -/
theorem sound_next {net : Network} {past past' : List Event} {t : Traffic}
    (hm : Moment.Sound net ⟨past, [], t⟩) :
    Moment.Sound net ⟨past', [], t.countStep.clearEvents⟩ :=
  ⟨hm.numbered, hm.coherent, hm.known, hm.stored, hm.placed, hm.listed⟩

/-- The first moment of a simulation that was built is sound. -/
theorem sound_first {c : Config} {net : Network} {people : Population}
    {replanner : Option Replanner} {strategy : Option (AgentId → Person → Strategy)}
    (h : build c net people replanner strategy = .ok s) : s.first.Sound s.network := by
  rcases build_eq_ok_iff.1 h with ⟨-, hpeople, rfl⟩
  have hm : Moment.Sound net ⟨[], [], initialTraffic c net
      (people.agents (strategy.getD (defaultStrategy replanner))) replanner⟩ :=
    sound_initialTraffic fun i a ha => Population.fresh_agents hpeople ha
  exact ⟨hm.numbered, hm.coherent, hm.known, hm.stored, hm.placed, hm.listed⟩

namespace Passes

variable {n : Nat} {m : Moment}

/-- Operations lead to a moment of the same run. -/
theorem operations {m' : Moment} (h : s.Passes n m)
    (hops : Operations s.network (s.clock.advanceBy n).now m m') : s.Passes n m' := by
  induction hops with
  | refl => exact h
  | tail _ hop ih => exact ih.operation hop

/-- All moments of a run are sound. -/
theorem sound (hs : s.first.Sound s.network) (h : s.Passes n m) : m.Sound s.network := by
  induction h with
  | first => exact hs
  | operation _ hop ih => exact ih.moves (ih.operation hop)
  | next _ ih => exact sound_next ih

/-- What holds first and is kept by moves and by the end of a step holds at all moments. -/
theorem invariant {P : Nat → Moment → Prop} (hs : s.first.Sound s.network) (hfirst : P 0 s.first)
    (hmove : ∀ n m m', m.Sound s.network → P n m →
      Move s.network (s.clock.advanceBy n).now m m' → P n m')
    (hnext : ∀ n past t, P n ⟨past, [], t⟩ →
      P (n + 1) ⟨past ++ t.emitted.toList, [], t.countStep.clearEvents⟩)
    (h : s.Passes n m) : P n m := by
  induction h with
  | first => exact hfirst
  | @operation n m m' h hop ih =>
      have hm := h.sound hs
      have hmoves := hm.operation hop
      clear hop
      induction hmoves with
      | refl => exact ih
      | tail hbefore hlast ih' => exact hmove _ _ _ (hm.moves hbefore) ih' hlast
  | next _ ih => exact hnext _ _ _ ih

end Passes

/-! ## After whole steps -/

/-- A step of the traffic is a step of the simulation. -/
theorem history_succ_of_step {n : Nat} {u : Traffic} {t : Simulation} (ht : s.history n = .ok t)
    (hu : t.traffic.step s.network (s.clock.advanceBy n).now = .ok u) :
    s.history (n + 1) = .ok ⟨t.config, t.network, t.clock.advance, u⟩ := by
  rcases clock_history ht with ⟨hclock, -, hnet⟩
  rw [history, ht, Except.bind]
  rcases t with ⟨config, network, clock, traffic⟩
  simp only at hclock hnet hu
  subst hclock hnet
  simp only [step, hu]

/-- A step from a moment of the simulation comes to a moment at which only counting is left. -/
theorem exists_done {n : Nat} {past : List Event} {t : Simulation}
    (hs : s.first.Sound s.network) (ht : s.history n = .ok t)
    (hpass : s.Passes n ⟨past, [], t.traffic.clearEvents⟩) :
    ∃ t' u, t.step = .ok t' ∧ s.history (n + 1) = .ok t' ∧ t'.traffic = u.countStep ∧
      s.Passes n ⟨past, [], u⟩ := by
  rcases clock_history ht with ⟨hclock, -, hnet⟩
  rcases t with ⟨config, network, clock, traffic⟩
  simp only at hclock hnet
  subst hclock hnet
  rcases (hpass.sound hs).step (s.clock.advanceBy n).now with ⟨u, hu, hops⟩
  have hstep : Simulation.step ⟨config, s.network, s.clock.advanceBy n, traffic⟩ =
      .ok ⟨config, s.network, (s.clock.advanceBy n).advance, u.countStep⟩ := by
    simp only [step, hu]
  refine ⟨_, u, hstep, ?_, rfl, hpass.operations hops⟩
  rw [history, ht]
  exact hstep

/-- A step from a moment of the simulation leads to a moment of the next step. -/
theorem exists_step {n : Nat} {past : List Event} {t : Simulation}
    (hs : s.first.Sound s.network) (ht : s.history n = .ok t)
    (hpass : s.Passes n ⟨past, [], t.traffic.clearEvents⟩) :
    ∃ t', t.step = .ok t' ∧ s.history (n + 1) = .ok t' ∧
      s.Passes (n + 1) ⟨past ++ t'.events, [], t'.traffic.clearEvents⟩ := by
  rcases exists_done hs ht hpass with ⟨t', u, hstep, hhistory, htraffic, hdone⟩
  refine ⟨t', hstep, hhistory, ?_⟩
  rw [events, htraffic]
  exact hdone.next

/-- The events of so many steps. -/
def stream (s : Simulation) : Nat → List Event
  | 0 => []
  | n + 1 => s.stream n ++ ((s.history (n + 1)).toOption.map events).getD []

/-- The events of a step come after those of the steps before. -/
theorem stream_succ {n : Nat} {t : Simulation} (h : s.history (n + 1) = .ok t) :
    s.stream (n + 1) = s.stream n ++ t.events := by
  rw [stream, h]
  rfl

/-- A run of so many steps with one listener, which keeps all events. -/
def recorded (s : Simulation) (n : Nat) : Except SimulationError (Run EventLog) :=
  (Run.start s [EventLog.handler id] {} {}).advanceBy n

/-- What a recorded run has in common with the simulation after as many steps. -/
structure Records (s : Simulation) (n : Nat) (r : Run EventLog) : Prop where
  history : s.history n = .ok r.simulation
  passes : s.Passes n ⟨r.listeners.events.toList, [], r.simulation.traffic.clearEvents⟩
  handlers : r.bus.handlers = [EventLog.handler id]
  pending : r.bus.pending = #[]
  observer : r.observer = {}
  dispatched : r.bus.dispatched = r.listeners.events.size
  stream : r.listeners.events.toList = s.stream n

/-- The log receives all events, in order. -/
theorem foldl_record (log : EventLog) (events : List Event) :
    (events.foldl (EventBus.deliver [EventLog.handler id]) log).events.toList =
      log.events.toList ++ events := by
  induction events generalizing log with
  | nil => simp
  | cons e events ih =>
      rw [List.foldl_cons, ih]
      simp [EventBus.deliver, EventLog.handler, EventLog.record]

/-- A run that has not begun has recorded nothing. -/
theorem records_start (s : Simulation) :
    s.Records 0 (Run.start s [EventLog.handler id] {} {}) :=
  ⟨rfl, .first, rfl, rfl, rfl, rfl, rfl⟩

/-- A run that records goes on recording. -/
theorem Records.advance {n : Nat} {r : Run EventLog} (hs : s.first.Sound s.network)
    (h : s.Records n r) : ∃ r', r.advance = .ok r' ∧ s.Records (n + 1) r' := by
  rcases exists_step hs h.history h.passes with ⟨t, hstep, hhistory, hpasses⟩
  have hlog : (r.stepped t).listeners.events.toList =
      r.listeners.events.toList ++ t.events := by
    simp only [Run.stepped, h.observer, h.handlers, Run.observeStep_default]
    exact foldl_record r.listeners t.events
  refine ⟨r.stepped t, Run.advance_eq_stepped hstep h.pending, hhistory, ?_, h.handlers, h.pending,
    h.observer, ?_, ?_⟩
  · rw [hlog]
    exact hpasses
  · rw [← Array.length_toList, hlog, List.length_append, Array.length_toList, ← h.dispatched]
    rfl
  · rw [hlog, stream_succ hhistory]
    exact congrArg (· ++ t.events) h.stream

/-- After whole steps the traffic is sound. -/
theorem Records.sound {n : Nat} {r : Run EventLog} (hs : s.first.Sound s.network)
    (h : s.Records n r) : Moment.Sound s.network ⟨[], [], r.simulation.traffic⟩ := by
  have hm := h.passes.sound hs
  exact ⟨hm.numbered, hm.coherent, hm.known, hm.stored, hm.placed, hm.listed⟩

/-- The events of an agent are those that the listener kept of it. -/
theorem eventsOf_recorded (r : Run EventLog) (id : AgentId) :
    Moment.eventsOf ⟨r.listeners.events.toList, [], r.simulation.traffic.clearEvents⟩ id =
      r.listeners.ofAgent id := by
  rw [Moment.eventsOf, log_clearEvents]
  simp [EventLog.ofAgent]

/-- A recorded run of any length, and the moment at which it ends. -/
theorem exists_recorded (hs : s.first.Sound s.network) (n : Nat) :
    ∃ r, s.recorded n = .ok r ∧ s.Records n r := by
  induction n with
  | zero => exact ⟨_, rfl, s.records_start⟩
  | succ n ih =>
      rcases ih with ⟨r, hr, hrecords⟩
      rcases hrecords.advance hs with ⟨r', hr', hrecords'⟩
      refine ⟨r', ?_, hrecords'⟩
      rw [recorded, Run.advanceBy_succ, ← recorded, hr]
      exact hr'

end Simulation

end TrafficQueue
