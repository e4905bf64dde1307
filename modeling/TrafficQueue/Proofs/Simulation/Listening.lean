import TrafficQueue.Proofs.Simulation.Ending
import TrafficQueue.Proofs.Simulation.Safety

/-!
# What a run tells its handlers

After every step all handlers of a run have been told of all events of the simulation so
far, each once and in order, whatever else is asked of the run.  That the run is over they
are told once, after the first call that finishes it; what they are told after that are the
events of later steps.

Main results:

- Definition `Run.noting`: the run with handlers that note what they are told.
- Definition `Simulation.notices`: what a handler has been told after a number of steps.
- Theorem `Run.Listens.perform`: what a call leaves of a run and its diary.
- Theorem `Simulation.events_delivered`: the events that the handlers of buses and of runs
  have received.
-/

namespace TrafficQueue

variable {σ : Type}

/-! ## Runs with a diary -/

/-- The observer of a run with a diary, which it leaves alone. -/
def Observer.noting (o : Observer σ) : Observer (σ × Diary) where
  onStepStart now x := (o.onStepStart now x.1, x.2)
  onStepEnd now stats x := (o.onStepEnd now stats x.1, x.2)
  onSnapshot now stats x := (o.onSnapshot now stats x.1, x.2)
  onEnd now stats x := (o.onEnd now stats x.1, x.2)

namespace RunCall

/-- Calls that finish the run. -/
def finishes : RunCall → Bool
  | steps _ => false
  | complete => true
  | finish => true

/-- When a run is finished after a call, at so many steps, that may have been finished before. -/
def ended (before : Option Nat) (steps : Nat) (c : RunCall) : Option Nat :=
  if c.finishes then before.or (some steps) else before

end RunCall

namespace Run

/-- The run with handlers that note what they are told. -/
def noting (r : Run σ) (d : Diary) : Run (σ × Diary) :=
  ⟨r.simulation, r.bus.noting, r.observer.noting, (r.listeners, d), r.isFinished⟩

theorem performAll_cons (r : Run σ) (call : RunCall × Observer σ)
    (calls : List (RunCall × Observer σ)) :
    r.performAll (call :: calls) = (r.perform call).bind fun next => next.performAll calls :=
  rfl

theorem performAll_append (r : Run σ) (calls more : List (RunCall × Observer σ)) :
    r.performAll (calls ++ more) = (r.performAll calls).bind fun next => next.performAll more :=
  List.foldlM_append

/-- Calls with observers that leave the diary alone. -/
def noteCalls (calls : List (RunCall × Observer σ)) : List (RunCall × Observer (σ × Diary)) :=
  calls.map fun call => (call.1, call.2.noting)

/-- A step is observed as without a diary. -/
theorem observeStep_noting (o : Observer σ) (c : Config) (before : Clock) (stats : Statistics)
    (x : σ) (d : Diary) :
    observeStep o.noting c before stats (x, d) = (observeStep o c before stats x, d) := by
  unfold observeStep
  split <;> rfl

/-- In a step the handlers note the events of the step. -/
theorem stepped_noting (r : Run σ) (t : Simulation) (d : Diary) :
    (r.noting d).stepped t =
      (r.stepped t).noting (d.tell r.bus.handlers.length (t.events.map .event)) := by
  have hdelivered := EventBus.foldl_deliver_noting
    (r.observer.onStepStart r.simulation.clock.now r.listeners) d r.bus.handlers t.events
  have hobserved := observeStep_noting r.observer t.config r.simulation.clock t.stats
    (t.events.foldl (EventBus.deliver r.bus.handlers)
      (r.observer.onStepStart r.simulation.clock.now r.listeners))
    (d.tell r.bus.handlers.length (t.events.map .event))
  rw [← hdelivered] at hobserved
  simp only [stepped, noting, ← hobserved]
  rfl

end Run

/-! ## What a run has told -/

namespace Simulation

/-- What a handler has been told when so many steps have been made.  If the run was finished, that
was after the given number of them. -/
def notices (s : Simulation) (n : Nat) : Option Nat → List Notice
  | none => (s.stream n).map .event
  | some m =>
    (s.stream m).map .event ++ .finish :: ((s.stream n).drop (s.stream m).length).map .event

variable {s t : Simulation} {n m : Nat} {ended : Option Nat}

/-- The end is told after the events of the steps before. -/
theorem notices_self (s : Simulation) (n : Nat) :
    s.notices n (some n) = s.notices n none ++ [.finish] := by
  simp [notices]

/-- The events of one more step are told last. -/
theorem notices_succ (ht : s.history (n + 1) = .ok t) (hended : ∀ m ∈ ended, m ≤ n) :
    s.notices (n + 1) ended = s.notices n ended ++ t.events.map .event := by
  cases ended with
  | none => simp [notices, stream_succ ht]
  | some m =>
      have hlength := (s.stream_prefix (hended m rfl)).length_le
      simp [notices, stream_succ ht, List.drop_append_of_le_length hlength]

/-- The events that are told are those of the steps. -/
theorem events_notices (hended : ∀ m ∈ ended, m ≤ n) :
    Notice.events (s.notices n ended) = s.stream n := by
  cases ended with
  | none => exact Notice.events_map _
  | some m =>
      have hbegins := List.prefix_iff_eq_take.1 (s.stream_prefix (hended m rfl))
      have hrest : Notice.events (.finish :: ((s.stream n).drop (s.stream m).length).map .event) =
          (s.stream n).drop (s.stream m).length := Notice.events_map _
      rw [notices, Notice.events_append, Notice.events_map, hrest]
      nth_rewrite 1 [hbegins]
      exact List.take_append_drop _ _

/-- The end of the run is told once. -/
theorem count_finish_notices (s : Simulation) (n : Nat) (ended : Option Nat) :
    (s.notices n ended).count .finish = if ended.isSome then 1 else 0 := by
  have hnone : ∀ es : List Event, (es.map Notice.event).count .finish = 0 := by
    intro es
    simp [List.count_eq_zero]
  cases ended with
  | none => exact hnone _
  | some m =>
      rw [notices, List.count_append, List.count_cons_self, hnone, hnone]
      rfl

end Simulation

namespace Run

/-- A run has made so many steps and told its handlers what it should. -/
structure Listens (s : Simulation) (handlers : List (Handler σ)) (n : Nat) (ended : Option Nat)
    (r : Run σ) (d : Diary) : Prop where
  history : s.history n = .ok r.simulation
  passes : s.Passes n ⟨s.stream n, [], r.simulation.traffic.clearEvents⟩
  pending : r.bus.pending = #[]
  registered : r.bus.handlers = handlers
  dispatched : r.bus.dispatched = (s.stream n).length
  isFinished : r.isFinished = ended.isSome
  ended_le : ∀ m ∈ ended, m ≤ n
  told : ∀ k < handlers.length, d k = s.notices n ended

variable {s : Simulation} {handlers : List (Handler σ)} {n : Nat} {ended : Option Nat}
  {r : Run σ} {d : Diary}

/-- Nothing has been told at the start of a run. -/
theorem listens_start (s : Simulation) (handlers : List (Handler σ)) (observer : Observer σ)
    (x : σ) : (start s handlers observer x).Listens s handlers 0 none fun _ => [] :=
  ⟨rfl, .first, rfl, rfl, rfl, rfl, by simp, fun _ _ => rfl⟩

/-- After a step the handlers have been told of its events too. -/
theorem Listens.advance (hs : s.first.Sound s.network) (h : r.Listens s handlers n ended d) :
    ∃ r' d', r.advance = .ok r' ∧ (r.noting d).advance = .ok (r'.noting d') ∧
      r'.Listens s handlers (n + 1) ended d' := by
  rcases Simulation.exists_step hs h.history h.passes with ⟨t, hstep, hhistory, hpasses⟩
  refine ⟨r.stepped t, d.tell r.bus.handlers.length (t.events.map .event),
    advance_eq_stepped hstep h.pending, ?_, hhistory, ?_, h.pending, h.registered, ?_, h.isFinished,
    fun m hm => Nat.le_succ_of_le (h.ended_le m hm), ?_⟩
  · rw [← stepped_noting]
    exact advance_eq_stepped hstep h.pending
  · rw [Simulation.stream_succ hhistory]
    exact hpasses
  · rw [Simulation.stream_succ hhistory, List.length_append, ← h.dispatched]
    rfl
  · intro k hk
    rw [h.registered, Diary.tell_of_lt hk, h.told k hk, Simulation.notices_succ hhistory h.ended_le]

/-- The handlers are told that the run is over, if they have not been told before. -/
theorem Listens.finish (h : r.Listens s handlers n ended d) :
    ∃ d', (r.noting d).finish = r.finish.noting d' ∧
      r.finish.Listens s handlers n (ended.or (some n)) d' := by
  have hfinished := h.isFinished
  cases ended with
  | some m =>
      have hsame : r.finish = r := by rw [Run.finish, hfinished]; rfl
      refine ⟨d, ?_, ?_⟩
      · rw [hsame, Run.finish]
        exact if_pos hfinished
      · rw [hsame]
        exact h
  | none =>
      have hnew : r.finish =
          { r with
            bus := (r.bus.finish r.listeners).1
            listeners := r.observer.onEnd r.simulation.now r.simulation.stats
              (r.bus.finish r.listeners).2
            isFinished := true } := by
        rw [Run.finish, hfinished]
        rfl
      have hnoted := r.bus.finish_noting r.listeners d
      rw [h.pending] at hnoted
      refine ⟨d.tell handlers.length [.finish], ?_, ?_⟩
      · rw [hnew, Run.finish, if_neg (by simp [noting, hfinished])]
        simp only [noting, hnoted, h.registered]
        rfl
      · rw [hnew]
        refine ⟨h.history, h.passes, rfl, h.registered, ?_, rfl, by simp, fun k hk => ?_⟩
        · simp [EventBus.finish, h.pending, h.dispatched]
        · rw [Diary.tell_of_lt hk, h.told k hk]
          exact (s.notices_self n).symm

/-- After so many more steps the handlers have been told what they should. -/
theorem Listens.advanceBy (hs : s.first.Sound s.network) (steps : Nat)
    (h : r.Listens s handlers n ended d) :
    ∃ r' d', r.advanceBy steps = .ok r' ∧ (r.noting d).advanceBy steps = .ok (r'.noting d') ∧
      r'.Listens s handlers (n + steps) ended d' := by
  induction steps generalizing n r d with
  | zero => exact ⟨r, d, rfl, rfl, h⟩
  | succ steps ih =>
      rcases h.advance hs with ⟨next, d', hnext, hnoted, hlistens⟩
      rcases ih hlistens with ⟨r', d'', hr', hnoted', hlistens'⟩
      refine ⟨r', d'', ?_, ?_, ?_⟩
      · rw [Run.advanceBy, hnext]
        exact hr'
      · rw [Run.advanceBy, hnoted]
        exact hnoted'
      · rw [Nat.add_right_comm] at hlistens'
        exact hlistens'

/-- While the run goes on, the handlers are told what they should. -/
theorem Listens.advanceWhile (hs : s.first.Sound s.network) (most : Nat)
    (h : r.Listens s handlers n ended d) :
    ∃ m r' d', r.advanceWhile most = .ok r' ∧ (r.noting d).advanceWhile most = .ok (r'.noting d') ∧
      r'.Listens s handlers (n + m) ended d' := by
  induction most generalizing n r d with
  | zero => exact ⟨0, r, d, rfl, rfl, h⟩
  | succ most ih =>
      simp only [Run.advanceWhile]
      by_cases hgoes : r.simulation.goesOn = true
      · rcases h.advance hs with ⟨next, d', hnext, hnoted, hlistens⟩
        rcases ih hlistens with ⟨m, r', d'', hr', hnoted', hlistens'⟩
        refine ⟨m + 1, r', d'', ?_, ?_, ?_⟩
        · rw [if_pos hgoes, hnext]
          exact hr'
        · rw [if_pos (show (r.noting d).simulation.goesOn = true from hgoes), hnoted]
          exact hnoted'
        · rw [Nat.add_right_comm] at hlistens'
          exact hlistens'
      · refine ⟨0, r, d, if_neg hgoes, ?_, h⟩
        exact if_neg (show ¬ (r.noting d).simulation.goesOn = true from hgoes)

/-- The observer of a run can be another one. -/
theorem Listens.observe (h : r.Listens s handlers n ended d) (observer : Observer σ) :
    Listens s handlers n ended { r with observer } d :=
  ⟨h.history, h.passes, h.pending, h.registered, h.dispatched, h.isFinished, h.ended_le, h.told⟩

/-- A call that finishes the run makes its steps first.  After a call to the end the run does not go
on any more. -/
theorem Listens.perform_of_finishes (hs : s.first.Sound s.network) {call : RunCall × Observer σ}
    (hfinishes : call.1.finishes = true) (h : r.Listens s handlers n ended d) :
    ∃ (m : Nat) (r₁ : Run σ) (d' : Diary), r₁.Listens s handlers (n + m) ended d' ∧
      r₁.observer = call.2 ∧
      r.perform call = .ok r₁.finish ∧
      (r.noting d).perform (call.1, call.2.noting) = .ok (r₁.noting d').finish ∧
      (call.1 = .complete → 1 ≤ r.simulation.clock.stepSecs.toNat →
        r₁.simulation.goesOn = false) := by
  rcases call with ⟨c, observer⟩
  have hobserved := h.observe observer
  cases c with
  | complete =>
      rcases hobserved.advanceWhile hs
        (r.simulation.config.endTime.since r.simulation.now) with ⟨m, r₁, d', hr₁, hnoted, hlistens⟩
      refine ⟨m, r₁, d', hlistens, observer_advanceWhile hr₁, ?_, ?_, fun _ hstep => ?_⟩
      · exact congrArg (Except.map Run.finish) hr₁
      · exact congrArg (Except.map Run.finish) hnoted
      · exact goesOn_advanceWhile (r := { r with observer }) hstep (Nat.le_refl _) hr₁
  | steps m => cases hfinishes
  | finish => exact ⟨0, _, d, hobserved, rfl, rfl, rfl, fun hcomplete => by cases hcomplete⟩

/-- A call makes steps, or finishes the run, or both, and tells the handlers of it. -/
theorem Listens.perform (hs : s.first.Sound s.network) (call : RunCall × Observer σ)
    (h : r.Listens s handlers n ended d) :
    ∃ m r' d', r.perform call = .ok r' ∧
      (r.noting d).perform (call.1, call.2.noting) = .ok (r'.noting d') ∧
      r'.Listens s handlers (n + m) (call.1.ended ended (n + m)) d' := by
  cases hfinishes : call.1.finishes with
  | true =>
      rcases h.perform_of_finishes hs hfinishes with ⟨m, r₁, d', hlistens, -, hcall, hnoted, -⟩
      rcases hlistens.finish with ⟨d'', hfinish, hlistens'⟩
      refine ⟨m, r₁.finish, d'', hcall, hfinish ▸ hnoted, ?_⟩
      rw [RunCall.ended, if_pos hfinishes]
      exact hlistens'
  | false =>
      rcases call with ⟨_ | m | _, observer⟩
      · cases hfinishes
      · rcases (h.observe observer).advanceBy hs m with ⟨r', d', hr', hnoted, hlistens⟩
        exact ⟨m, r', d', hr', hnoted, hlistens⟩
      · cases hfinishes

/-- Any calls make steps, and the first of them that finishes the run tells the handlers so. -/
theorem Listens.performAll (hs : s.first.Sound s.network) (calls : List (RunCall × Observer σ))
    (h : r.Listens s handlers n ended d) :
    ∃ n' ended' r' d', r.performAll calls = .ok r' ∧
      (r.noting d).performAll (noteCalls calls) = .ok (r'.noting d') ∧
      r'.Listens s handlers n' ended' d' ∧ (∀ m ∈ ended, ended' = some m) ∧
      ended'.isSome = (ended.isSome || calls.any fun call => call.1.finishes) := by
  induction calls generalizing n ended r d with
  | nil => exact ⟨n, ended, r, d, rfl, rfl, h, fun m hm => hm, (Bool.or_false _).symm⟩
  | cons call calls ih =>
      rcases h.perform hs call with ⟨m, next, d', hnext, hnoted, hlistens⟩
      rcases ih hlistens with ⟨n', ended', r', d'', hr', hnoted', hlistens', hkept, hended⟩
      refine ⟨n', ended', r', d'', ?_, ?_, hlistens', ?_, ?_⟩
      · rw [performAll_cons, hnext]
        exact hr'
      · rw [noteCalls, List.map_cons, performAll_cons, hnoted]
        exact hnoted'
      · intro k hk
        apply hkept
        rw [RunCall.ended, hk]
        split <;> rfl
      · rw [hended, List.any_cons, RunCall.ended, ← Bool.or_assoc]
        congr 1
        cases hfinishes : call.1.finishes <;> cases ended <;> rfl

end Run

/-! ## Events delivered -/

namespace Simulation

variable {s : Simulation} {c : Config} {net : Network} {people : Population}
  {replanner : Option Replanner} {strategy : Option (AgentId → Person → Strategy)}

/-- Whatever a bus is asked for, its handlers have received the events that have been dispatched
since they were registered.  And whatever is asked of a run, nothing is kept after its steps: all
handlers have received the events of the steps, each with the time of its step and so in the order
of time. -/
theorem events_delivered (h : build c net people replanner strategy = .ok s) :
    (∀ (σ : Type) (calls : List (BusCall σ)) (x : σ), EventBus.Delivered calls x) ∧
      (∀ n, (s.stream n).Pairwise (fun e f => e.time ≤ f.time) ∧
        ∃ t u, s.history n = .ok t ∧ t.step = .ok u ∧ s.stream (n + 1) = s.stream n ++ u.events ∧
          ∀ e ∈ u.events, e.time = t.now) ∧
      ∀ (σ : Type) (handlers : List (Handler σ)) (observer : Observer σ) (x : σ)
        (calls : List (RunCall × Observer σ)),
        ∃ n r d, (Run.start s handlers observer x).performAll calls = .ok r ∧
          ((Run.start s handlers observer x).noting fun _ => []).performAll
            (Run.noteCalls calls) = .ok (r.noting d) ∧
          s.history n = .ok r.simulation ∧ r.bus.pending = #[] ∧
          r.bus.dispatched = (s.stream n).length ∧
          ∀ k < handlers.length, Notice.events (d k) = s.stream n := by
  have hs := sound_first h
  refine ⟨fun σ calls x => EventBus.delivered calls x, ?_, ?_⟩
  · intro n
    rcases exists_recorded hs n with ⟨r, -, hr⟩
    have hordered := (hr.passes.ordered hs).1
    rw [log_clearEvents, hr.stream] at hordered
    rcases exists_step hs hr.history hr.passes with ⟨u, hstep, hhistory, -⟩
    refine ⟨hordered, r.simulation, u, hr.history, hstep, stream_succ hhistory, fun e he => ?_⟩
    rw [time_of_mem_events hs hhistory he, now, (clock_history hr.history).1]
  · intro σ handlers observer x calls
    rcases (Run.listens_start s handlers observer x).performAll hs calls with
      ⟨n, ended, r, d, hr, hnoted, hlistens, -, -⟩
    refine ⟨n, r, d, hr, hnoted, hlistens.history, hlistens.pending, hlistens.dispatched, ?_⟩
    intro k hk
    rw [hlistens.told k hk, events_notices hlistens.ended_le]

/-- Two handlers that keep what the commuter tells of, also when the run goes on after its end. -/
theorem events_delivered_commuter :
    build {} Commuter.net Commuter.people (some Commuter.replanner) none =
        .ok Commuter.simulation ∧
      (∀ calls : List (BusCall EventLog), EventBus.Delivered calls {}) ∧
      (Commuter.simulation.stream 28815).Pairwise (fun e f => e.time ≤ f.time) ∧
      ∃ n r d,
        (Run.start Commuter.simulation [EventLog.handler id, EventLog.handler id] {}
          {}).performAll [(.complete, {}), (.finish, {}), (.steps 3, {})] = .ok r ∧
        ((Run.start Commuter.simulation [EventLog.handler id, EventLog.handler id] {}
          {}).noting fun _ => []).performAll
            (Run.noteCalls [(.complete, {}), (.finish, {}), (.steps 3, {})]) = .ok (r.noting d) ∧
        Commuter.simulation.history n = .ok r.simulation ∧ r.bus.pending = #[] ∧
        r.bus.dispatched = (Commuter.simulation.stream n).length ∧
        ∀ k < 2, Notice.events (d k) = Commuter.simulation.stream n := by
  have hdelivered := events_delivered Commuter.build_simulation
  exact ⟨Commuter.build_simulation, fun calls => hdelivered.1 EventLog calls {},
    (hdelivered.2.1 28815).1, hdelivered.2.2 EventLog [EventLog.handler id, EventLog.handler id] {}
      {} [(.complete, {}), (.finish, {}), (.steps 3, {})]⟩

end Simulation

end TrafficQueue
