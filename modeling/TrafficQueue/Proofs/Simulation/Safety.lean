import TrafficQueue.Proofs.Network.Adjacency
import TrafficQueue.Proofs.Simulation.Course

/-!
# Runs without errors

Whatever is asked of a run, in whatever order, it answers without an error: the
invariant of the moments excludes each of them.  The conditions that the
simulation takes for granted hold at every moment: nothing leaves an empty storage
or enters a full one, every link has its queue, and events are emitted in the order
of time.

Main results:

- Theorem `Simulation.Passes.ordered`: the events so far are in the order of time.
- Theorem `Run.exists_performAll`: every sequence of calls has an answer.
- Theorem `Simulation.safe_runs`: both together for a simulation that was built.
-/

namespace TrafficQueue

/-! ## The order of events -/

/-- The events so far are in the order of time, and none is in the future. -/
theorem Simulation.Passes.ordered {s : Simulation} {n : Nat} {m : Moment}
    (hs : s.first.Sound s.network) (h : s.Passes n m) :
    m.log.Pairwise (fun e f => e.time ≤ f.time) ∧
      ∀ e ∈ m.log, e.time ≤ (s.clock.advanceBy n).now := by
  refine h.invariant (P := fun n m => m.log.Pairwise (fun e f => e.time ≤ f.time) ∧
    ∀ e ∈ m.log, e.time ≤ (s.clock.advanceBy n).now) hs ?_ ?_ ?_
  · exact ⟨List.Pairwise.nil, List.forall_mem_nil _⟩
  · rintro n m m' - ⟨hsorted, hbound⟩ hmove
    rcases hmove.agents_log.2 with ⟨-, hlog⟩ | ⟨a, events, b, -, hdeed, -, hlog⟩
    · rw [hlog]
      exact ⟨hsorted, hbound⟩
    · have hnow : ∀ e ∈ events, e.time = (s.clock.advanceBy n).now :=
        fun e he => (hdeed.mem_events e he).2
      rw [hlog, List.pairwise_append]
      refine ⟨⟨hsorted, ?_, ?_⟩, ?_⟩
      · apply List.pairwise_of_forall_mem_list
        intro e he f hf
        rw [hnow e he, hnow f hf]
        exact Nat.le_refl _
      · intro e he f hf
        rw [hnow f hf]
        exact hbound e he
      · intro e he
        rcases List.mem_append.1 he with he | he
        · exact hbound e he
        · rw [hnow e he]
          exact Nat.le_refl _
  · rintro n past t ⟨hsorted, hbound⟩
    rw [log_next]
    refine ⟨hsorted, fun e he => Time.le_trans (hbound e he) ?_⟩
    rw [Clock.advanceBy_succ]
    exact Clock.now_le_advance _

/-- What the simulation takes for granted at a moment. -/
structure Moment.Asserts (net : Network) (m : Moment) : Prop where
  /-- Every link has its queue. -/
  known : m.traffic.queues.links.size = net.linkCount
  /-- Storage is there when it is released, and room when it is occupied. -/
  storage : ∀ l q, m.traffic.queues.link? l = some q → q.Safe
  /-- No event is emitted after a later one. -/
  order : m.log.Pairwise fun e f => e.time ≤ f.time

/-- All moments of a run keep to what is asserted. -/
theorem Simulation.Passes.asserts {s : Simulation} {n : Nat} {m : Moment}
    (hs : s.first.Sound s.network) (h : s.Passes n m) : m.Asserts s.network :=
  ⟨(h.sound hs).known, fun l q hq => ((h.sound hs).stored l q hq).safe, (h.ordered hs).1⟩

/-! ## Calls -/

/-- What can be asked of a run. -/
inductive RunCall where
  /-- Steps to the end of the run and finishes it. -/
  | complete
  /-- So many steps. -/
  | steps (n : Nat)
  | finish

namespace Run

variable {σ : Type}

/-- The run after a call, for which an observer is given. -/
def perform (r : Run σ) (call : RunCall × Observer σ) : Except SimulationError (Run σ) :=
  match call.1 with
  | .complete => complete { r with observer := call.2 }
  | .steps n => advanceBy n { r with observer := call.2 }
  | .finish => .ok (finish { r with observer := call.2 })

/-- The run after calls, one after the other. -/
def performAll (r : Run σ) (calls : List (RunCall × Observer σ)) :
    Except SimulationError (Run σ) :=
  calls.foldlM perform r

/-- The run has come to a moment of a simulation, after whole steps. -/
def At (s : Simulation) (r : Run σ) : Prop :=
  ∃ n past, s.history n = .ok r.simulation ∧
    s.Passes n ⟨past, [], r.simulation.traffic.clearEvents⟩

variable {s : Simulation} {r : Run σ}

/-- A run can be advanced by a step. -/
theorem At.exists_advance (hs : s.first.Sound s.network) (h : r.At s) :
    ∃ r', r.advance = .ok r' ∧ r'.At s := by
  rcases h with ⟨n, past, hhistory, hpasses⟩
  rcases Simulation.exists_step hs hhistory hpasses with ⟨t, hstep, hhistory', hpasses'⟩
  have hadvance := r.simulation_advance
  rw [hstep] at hadvance
  cases hr : r.advance with
  | error e =>
      rw [hr] at hadvance
      cases hadvance
  | ok r' =>
      rw [hr] at hadvance
      cases hadvance
      exact ⟨r', rfl, n + 1, _, hhistory', hpasses'⟩

theorem At.exists_advanceBy (hs : s.first.Sound s.network) (n : Nat) (h : r.At s) :
    ∃ r', r.advanceBy n = .ok r' ∧ r'.At s := by
  induction n generalizing r with
  | zero => exact ⟨r, rfl, h⟩
  | succ n ih =>
      rcases h.exists_advance hs with ⟨next, hnext, hat⟩
      rw [advanceBy, hnext]
      exact ih hat

theorem At.exists_advanceWhile (hs : s.first.Sound s.network) (n : Nat) (h : r.At s) :
    ∃ r', r.advanceWhile n = .ok r' ∧ r'.At s := by
  induction n generalizing r with
  | zero => exact ⟨r, rfl, h⟩
  | succ n ih =>
      rw [advanceWhile]
      split
      · rcases h.exists_advance hs with ⟨next, hnext, hat⟩
        rw [hnext]
        exact ih hat
      · exact ⟨r, rfl, h⟩

/-- The end of a run does not change its moment. -/
theorem At.finish (h : r.At s) : r.finish.At s := by
  unfold At
  rw [simulation_finish]
  exact h

/-- Every call of a run succeeds. -/
theorem At.exists_perform (hs : s.first.Sound s.network) (call : RunCall × Observer σ)
    (h : r.At s) : ∃ r', r.perform call = .ok r' ∧ r'.At s := by
  have hobserved : Run.At s { r with observer := call.2 } := h
  unfold perform
  cases call.1 with
  | complete =>
      rcases hobserved.exists_advanceWhile hs
        (r.simulation.config.endTime.since r.simulation.now) with ⟨r', hr', hat⟩
      refine ⟨r'.finish, ?_, hat.finish⟩
      simp only [complete, hr']
      rfl
  | steps n => exact hobserved.exists_advanceBy hs n
  | finish => exact ⟨_, rfl, hobserved.finish⟩

/-- Every sequence of calls has an answer. -/
theorem At.exists_performAll (hs : s.first.Sound s.network)
    (calls : List (RunCall × Observer σ)) (h : r.At s) :
    ∃ r', r.performAll calls = .ok r' ∧ r'.At s := by
  refine exists_foldlM (P := fun _ r => r.At s) ?_ calls r h
  intro call calls r hr
  exact hr.exists_perform hs call

end Run

/-- A simulation on a built network answers every sequence of calls without an error, whoever
listens, and what it takes for granted holds at every moment. -/
theorem Simulation.safe_runs {b : NetworkBuilder} {c : Config} {net : Network}
    {people : Population} {replanner : Option Replanner}
    {strategy : Option (AgentId → Person → Strategy)} {s : Simulation}
    (hnet : b.build = .ok net) (h : build c net people replanner strategy = .ok s) :
    (∀ (σ : Type) (handlers : List (Handler σ)) (observer : Observer σ) (x : σ)
        (calls : List (RunCall × Observer σ)),
        ∃ r, (Run.start s handlers observer x).performAll calls = .ok r ∧ r.At s) ∧
      (∀ n m, s.Passes n m → m.Asserts net) ∧
      ∀ n : NodeId, net.hasNode n = true →
        ∃ links, net.entering n = some links ∧ ∀ l ∈ links, net.hasLink l = true := by
  have hs := sound_first h
  have hnetwork : s.network = net := by
    rcases build_eq_ok_iff.1 h with ⟨-, -, rfl⟩
    rfl
  refine ⟨?_, ?_, ?_⟩
  · intro σ handlers observer x calls
    exact Run.At.exists_performAll hs calls ⟨0, [], rfl, .first⟩
  · intro n m hpasses
    rw [← hnetwork]
    exact hpasses.asserts hs
  · intro n hn
    have hparts := NetworkBuilder.eq_ofParts hnet
    subst hparts
    have hlt : n.index < b.nodes.size := by
      simpa [Network.hasNode, Network.nodeCount, Network.ofParts] using hn
    have hentering : (Network.ofParts b.nodes (b.links.map LinkSpec.settle)).entering n = some _ :=
      Network.entering_ofParts hlt
    exact ⟨_, hentering, fun l hl => Network.hasLink_of_entering hentering hl⟩

/-- The roads of the commuter are safe. -/
theorem Simulation.safe_runs_commuter :
    Commuter.roads.build = .ok Commuter.net ∧
      build {} Commuter.net Commuter.people (some Commuter.replanner) none =
        .ok Commuter.simulation ∧
      (∃ r, (Run.start Commuter.simulation [] {} ()).performAll
        [(.steps 100, {}), (.finish, {}), (.complete, {})] = .ok r ∧ r.At Commuter.simulation) ∧
      Commuter.simulation.first.Asserts Commuter.net := by
  have hsafe := safe_runs Commuter.build_roads Commuter.build_simulation
  exact ⟨Commuter.build_roads, Commuter.build_simulation, hsafe.1 Unit [] {} () _,
    hsafe.2.1 0 _ .first⟩

end TrafficQueue
