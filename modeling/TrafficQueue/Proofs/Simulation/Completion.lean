import Mathlib.Order.Bounds.Basic
import TrafficQueue.Proofs.Simulation.Finishing
import TrafficQueue.Proofs.Simulation.Service

/-!
# A run comes to its end

A run steps until its end time has come or nobody is left, and that takes finitely many steps.  In
none of them a link has turns without end: before the last moment of time a vehicle that comes back
onto a link is not due again.  To see what the observers of a run are called for, they keep a log of
it, besides what they do anyway.

Main results:

- Definition `Run.logging`: the run with observers that log what they are called for.
- Definition `Traffic.StepsOn`: a step with all turns of the links, however many they are.
- Theorem `Run.Listens.advanceWhile_logging`: what a run to the end adds to the log.
- Theorem `Simulation.runs_to_end`: how many steps a run makes, and what its observers are called
  for.
-/

namespace TrafficQueue

/-! ## Logs -/

/-- What an observer is called for. -/
inductive Callback where
  | stepStart (time : Time)
  | stepEnd (time : Time) (stats : Statistics)
  | snapshot (time : Time) (stats : Statistics)
  | runEnd (time : Time) (stats : Statistics)
deriving DecidableEq

section Logging

variable {σ : Type}

/-- The observer that logs what it is called for. -/
def Observer.logging (o : Observer σ) : Observer (σ × List Callback) where
  onStepStart now x := (o.onStepStart now x.1, x.2 ++ [.stepStart now])
  onStepEnd now stats x := (o.onStepEnd now stats x.1, x.2 ++ [.stepEnd now stats])
  onSnapshot now stats x := (o.onSnapshot now stats x.1, x.2 ++ [.snapshot now stats])
  onEnd now stats x := (o.onEnd now stats x.1, x.2 ++ [.runEnd now stats])

namespace Handler

/-- The handler of a run with a log, which it leaves alone. -/
def logging (h : Handler σ) : Handler (σ × List Callback) where
  onEvent e x := (h.onEvent e x.1, x.2)
  onFinish x := (h.onFinish x.1, x.2)

/-- Handlers do not see the log beside what they listen with. -/
theorem foldl_hear_logging (hs : List (Handler σ)) (n : Notice) (x : σ) (log : List Callback) :
    (hs.map logging).foldl (fun y h => h.hear n y) (x, log) =
      (hs.foldl (fun y h => h.hear n y) x, log) := by
  induction hs generalizing x with
  | nil => rfl
  | cons h hs ih =>
    have hfirst : h.logging.hear n (x, log) = (h.hear n x, log) := by cases n <;> rfl
    rw [List.map_cons, List.foldl_cons, hfirst]
    exact ih _

end Handler

namespace EventBus

/-- The bus of a run with a log. -/
def logging (b : EventBus σ) : EventBus (σ × List Callback) :=
  { handlers := b.handlers.map Handler.logging
    pending := b.pending
    isSealed := b.isSealed
    dispatched := b.dispatched }

theorem foldl_deliver_logging (hs : List (Handler σ)) (es : List Event) (x : σ)
    (log : List Callback) :
    es.foldl (deliver (hs.map Handler.logging)) (x, log) = (es.foldl (deliver hs) x, log) := by
  induction es generalizing x with
  | nil => rfl
  | cons e es ih =>
    have hfirst : deliver (hs.map Handler.logging) (x, log) e = (deliver hs x e, log) :=
      Handler.foldl_hear_logging hs (.event e) x log
    rw [List.foldl_cons, hfirst, ih]
    rfl

theorem finish_logging (b : EventBus σ) (x : σ) (log : List Callback) :
    b.logging.finish (x, log) = ((b.finish x).1.logging, (b.finish x).2, log) := by
  have hflush : b.logging.flush (x, log) = ((b.flush x).1.logging, (b.flush x).2, log) := by
    refine Prod.ext rfl ?_
    rw [flush_state, flush_state]
    exact foldl_deliver_logging b.handlers b.pending.toList x log
  unfold finish
  rw [hflush]
  exact Prod.ext rfl (Handler.foldl_hear_logging b.handlers .finish _ log)

end EventBus

namespace Run

/-- The run with observers that log what they are called for. -/
def logging (r : Run σ) (log : List Callback) : Run (σ × List Callback) :=
  ⟨r.simulation, r.bus.logging, r.observer.logging, (r.listeners, log), r.isFinished⟩

/-- Calls with observers that log what they are called for. -/
def logCalls (calls : List (RunCall × Observer σ)) :
    List (RunCall × Observer (σ × List Callback)) :=
  calls.map fun call => (call.1, call.2.logging)

theorem observerAfter_logCalls (o : Observer σ) (calls : List (RunCall × Observer σ)) :
    observerAfter o.logging (logCalls calls) = (observerAfter o calls).logging := by
  induction calls generalizing o with
  | nil => rfl
  | cons call calls ih => exact ih call.2

/-- What an observer is called for in a step. -/
def stepCallbacks (c : Config) (before : Clock) (stats : Statistics) : List Callback :=
  .stepStart before.now :: .stepEnd before.now stats ::
    if snapshotDue c before then [.snapshot before.now stats] else []

/-- In a step the observer is called at its start and at its end, and then for a snapshot if one is
due. -/
theorem stepped_logging (r : Run σ) (t : Simulation) (log : List Callback) :
    (r.logging log).stepped t =
      (r.stepped t).logging (log ++ stepCallbacks t.config r.simulation.clock t.stats) := by
  have hdelivered := EventBus.foldl_deliver_logging r.bus.handlers t.events
    (r.observer.onStepStart r.simulation.clock.now r.listeners)
    (log ++ [.stepStart r.simulation.clock.now])
  have hobserved : ∀ x log, observeStep r.observer.logging t.config r.simulation.clock t.stats
      (x, log ++ [.stepStart r.simulation.clock.now]) =
        (observeStep r.observer t.config r.simulation.clock t.stats x,
          log ++ stepCallbacks t.config r.simulation.clock t.stats) := by
    intro x log
    unfold observeStep stepCallbacks
    split <;> simp [Observer.logging]
  rw [stepped, logging]
  simp only [EventBus.logging]
  change Run.mk t _ _ (observeStep r.observer.logging t.config r.simulation.clock t.stats
    (t.events.foldl (EventBus.deliver (r.bus.handlers.map Handler.logging))
      (r.observer.onStepStart r.simulation.clock.now r.listeners,
        log ++ [.stepStart r.simulation.clock.now]))) _ = _
  rw [hdelivered, hobserved]
  rfl

/-- The end of a run is logged, unless the run is over. -/
theorem finish_logging {r : Run σ} (hr : r.isFinished = false) (log : List Callback) :
    (r.logging log).finish =
      r.finish.logging (log ++ [.runEnd r.simulation.now r.simulation.stats]) := by
  have hopen : ¬ (r.logging log).isFinished = true := by simp [logging, hr]
  have hbus := r.bus.finish_logging r.listeners log
  rw [finish, if_neg hopen, finish, if_neg (by simp [hr])]
  simp only [logging, hbus]
  rfl

end Run

end Logging

/-! ## Times -/

/-- When a step begins, in a run that is never cut short. -/
def Config.timeAt (c : Config) (i : Nat) : Time := c.startTime.offset (i * c.stepSecs.toNat)

/-- After so many steps the clock shows their time and their number. -/
theorem Config.clock_advanceBy (c : Config) (i : Nat) :
    (c.clock.advanceBy i).now = c.timeAt i ∧ (c.clock.advanceBy i).steps = i := by
  constructor
  · refine Time.ext ?_
    rw [(c.clock.secs_now_advanceBy i).1, timeAt, Time.secs_offset]
    rfl
  · induction i with
    | zero => rfl
    | succ i ih => rw [Clock.advanceBy_succ, Clock.steps_advance, ih]

namespace Simulation

/-- What is counted after so many steps. -/
def statsAfter (s : Simulation) (n : Nat) : Statistics :=
  ((s.history n).toOption.map stats).getD {}

/-- What an observer is called for in the step of a number. -/
def callbacks (s : Simulation) (i : Nat) : List Callback :=
  .stepStart (s.config.timeAt i) :: .stepEnd (s.config.timeAt i) (s.statsAfter (i + 1)) ::
    if s.config.outputInterval.toNat ∣ i then
      [.snapshot (s.config.timeAt i) (s.statsAfter (i + 1))]
    else []

/-- What an observer is called for in so many steps. -/
def log (s : Simulation) (n : Nat) : List Callback := (List.range n).flatMap s.callbacks

/-- The log of a step comes after those of the steps before. -/
theorem log_succ (s : Simulation) (n : Nat) : s.log (n + 1) = s.log n ++ s.callbacks n := by
  rw [log, List.range_succ, List.flatMap_append, List.flatMap_singleton]
  rfl

/-- The statistics after a step are those of its simulation. -/
theorem statsAfter_eq {s t : Simulation} {n : Nat} (h : s.history n = .ok t) :
    s.statsAfter n = t.stats := by
  rw [statsAfter, h]
  rfl

variable {s : Simulation} {c : Config} {net : Network} {people : Population}
  {replanner : Option Replanner} {strategy : Option (AgentId → Person → Strategy)} {n : Nat}

/-- What a step of a simulation that was built calls its observers for. -/
theorem stepCallbacks_eq (h : build c net people replanner strategy = .ok s) {t : Simulation}
    (ht : s.history (n + 1) = .ok t) :
    Run.stepCallbacks s.config (s.clock.advanceBy n) t.stats = s.callbacks n := by
  have hinterval : 0 < c.outputInterval.toNat := by
    have hpositive := Config.validate_eq_ok_iff.1 (build_eq_ok_iff.1 h).1 .outputIntervalZero
    simp only [Config.breaks, decide_eq_false_iff_not, ← UInt64.toNat_inj] at hpositive
    exact Nat.pos_of_ne_zero hpositive
  rcases c.clock_advanceBy n with ⟨hnow, hsteps⟩
  have hdue : Run.snapshotDue c (c.clock.advanceBy n) = true ↔ c.outputInterval.toNat ∣ n := by
    simp [Run.snapshotDue, hinterval, hsteps, Nat.dvd_iff_mod_eq_zero]
  rw [Run.stepCallbacks, callbacks, statsAfter_eq ht, config_of_build h, clock_of_build h, hnow]
  simp only [hdue]

end Simulation

/-! ## Runs to their end -/

namespace Run

variable {σ : Type} {s : Simulation} {c : Config} {net : Network} {people : Population}
  {replanner : Option Replanner} {strategy : Option (AgentId → Person → Strategy)}
  {handlers : List (Handler σ)} {n : Nat} {r : Run σ} {d : Diary}

/-- A step adds to the log what its observer is called for. -/
theorem Listens.advance_logging (h : Simulation.build c net people replanner strategy = .ok s)
    (hr : r.Listens s handlers n none d) :
    ∃ r' d', r.advance = .ok r' ∧
      (r.logging (s.log n)).advance = .ok (r'.logging (s.log (n + 1))) ∧
      r'.Listens s handlers (n + 1) none d' := by
  rcases hr.advance (Simulation.sound_first h) with ⟨r', d', hr', -, hlistens⟩
  refine ⟨r', d', hr', ?_, hlistens⟩
  have hstep := (step_of_advance hr').1
  have hsame : r' = r.stepped r'.simulation :=
    Except.ok.inj (hr'.symm.trans (advance_eq_stepped hstep hr.pending))
  rcases Simulation.clock_history hr.history with ⟨hclock, hconfig, -⟩
  have hconfig' := (Simulation.clock_step hstep).2.1
  have hcallbacks := Simulation.stepCallbacks_eq h hlistens.history
  have hlogged := advance_eq_stepped (r := r.logging (s.log n)) hstep hr.pending
  rw [hlogged, stepped_logging, hclock, hconfig', hconfig, hcallbacks, ← Simulation.log_succ,
    ← hsame]

/-- As long as a run goes on, every step adds to the log what its observer is called for. -/
theorem Listens.advanceWhile_logging
    (h : Simulation.build c net people replanner strategy = .ok s) (most : Nat)
    (hr : r.Listens s handlers n none d) :
    ∃ m r' d', r.advanceWhile most = .ok r' ∧
      (r.logging (s.log n)).advanceWhile most = .ok (r'.logging (s.log (n + m))) ∧
      r'.Listens s handlers (n + m) none d' ∧
      ∀ k, n ≤ k → k < n + m → ∃ t, s.history k = .ok t ∧ t.goesOn = true := by
  induction most generalizing n r d with
  | zero => exact ⟨0, r, d, rfl, rfl, hr, fun k hle hlt => absurd hle (Nat.not_le_of_lt hlt)⟩
  | succ most ih =>
    simp only [Run.advanceWhile]
    by_cases hgoes : r.simulation.goesOn = true
    · rcases hr.advance_logging h with ⟨next, d', hnext, hlogged, hlistens⟩
      rcases ih hlistens with ⟨m, r', d'', hr', hlogged', hlistens', hgoing⟩
      rw [Nat.add_right_comm] at hlogged' hlistens' hgoing
      refine ⟨m + 1, r', d'', ?_, ?_, hlistens', fun k hle hlt => ?_⟩
      · rw [if_pos hgoes, hnext]
        exact hr'
      · rw [if_pos (show (r.logging (s.log n)).simulation.goesOn = true from hgoes), hlogged]
        exact hlogged'
      · rcases Nat.eq_or_lt_of_le hle with rfl | hle
        · exact ⟨_, hr.history, hgoes⟩
        · exact hgoing k hle hlt
    · refine ⟨0, r, d, if_neg hgoes, ?_, hr, fun k hle hlt => absurd hle (Nat.not_le_of_lt hlt)⟩
      exact if_neg (show ¬ (r.logging (s.log n)).simulation.goesOn = true from hgoes)

/-- A run to the end makes steps as long as it goes on, and then its observer is called once
more. -/
theorem exists_complete_logging (h : Simulation.build c net people replanner strategy = .ok s)
    (handlers : List (Handler σ)) (observer : Observer σ) (x : σ) :
    ∃ K r, (start s handlers observer x).complete = .ok r ∧
      ((start s handlers observer x).logging []).complete =
        .ok (r.logging (s.log K ++ [.runEnd (c.timeAt K) (s.statsAfter K)])) ∧
      s.history K = .ok r.simulation ∧ r.isFinished = true ∧ r.simulation.goesOn = false ∧
      ∀ k < K, ∃ t, s.history k = .ok t ∧ t.goesOn = true := by
  rcases (listens_start s handlers observer x).advanceWhile_logging h
    (s.config.endTime.since s.now) with ⟨K, r, d, hr, hlogged, hlistens, hgoing⟩
  rw [Nat.zero_add] at hlogged hlistens hgoing
  rcases hlistens.finish with ⟨d', -, hfinished⟩
  have hover : r.simulation.goesOn = false :=
    goesOn_advanceWhile (r := start s handlers observer x) (Simulation.one_le_stepSecs h)
      (Nat.le_refl _) hr
  refine ⟨K, r.finish, congrArg (Except.map Run.finish) hr, ?_, ?_, hfinished.isFinished, ?_,
    fun k hk => hgoing k (Nat.zero_le k) hk⟩
  · have hlogs := finish_logging hlistens.isFinished (s.log K)
    rw [Simulation.statsAfter_eq hlistens.history, ← (c.clock_advanceBy K).1,
      ← Simulation.clock_of_build h, ← (Simulation.clock_history hlistens.history).1]
    exact (congrArg (Except.map Run.finish) hlogged).trans (congrArg Except.ok hlogs)
  · rw [simulation_finish]
    exact hlistens.history
  · rw [simulation_finish]
    exact hover

/-- When the run is over, further calls to the end or to finish it are not logged. -/
theorem performAll_logging {calls : List (RunCall × Observer σ)} (hr : r.isFinished = true)
    (hover : r.simulation.goesOn = false) (hcalls : ∀ call ∈ calls, call.1.finishes = true)
    (log : List Callback) :
    r.performAll calls = .ok { r with observer := observerAfter r.observer calls } ∧
      (r.logging log).performAll (logCalls calls) =
        .ok (Run.logging { r with observer := observerAfter r.observer calls } log) := by
  have hidle : ∀ c : RunCall, c.finishes = true →
      c = .finish ∨ c = .complete ∧ r.simulation.goesOn = false := by
    intro c hc
    cases c with
    | complete => exact .inr ⟨rfl, hover⟩
    | steps n => cases hc
    | finish => exact .inl rfl
  refine ⟨performAll_of_finished hr fun call hcall => hidle _ (hcalls call hcall), ?_⟩
  have hlogged : ∀ call ∈ logCalls calls, call.1 = .finish ∨
      call.1 = .complete ∧ (r.logging log).simulation.goesOn = false := fun call hcall => by
    rcases List.mem_map.1 hcall with ⟨call', hcall', rfl⟩
    exact hidle _ (hcalls call' hcall')
  rw [performAll_of_finished (r := r.logging log) hr hlogged]
  change Except.ok (Run.mk _ _ (observerAfter r.observer.logging (logCalls calls)) _ _) = _
  rw [observerAfter_logCalls]
  rfl

end Run

/-! ## Steps with all turns -/

/-- A step in which the links have all their turns, however many they are. -/
def Traffic.StepsOn (net : Network) (now : Time) (t t' : Traffic) : Prop :=
  ∃ ended served done, t.clearEvents.endActivities now = .ok ended ∧
    LinksServed net now net.serviceOrder (ended.updateLinks now) served ∧
    served.replanAgents net now = .ok done ∧ t' = done.countStep

namespace Simulation

variable {s : Simulation} {c : Config} {net : Network} {people : Population}
  {replanner : Option Replanner} {strategy : Option (AgentId → Person → Strategy)} {n : Nat}

/-- Before the last moment of time the turns of every step come to an end. -/
theorem exists_stepsOn (h : build c net people replanner strategy = .ok s)
    (hnow : (s.clock.advanceBy n).now < .never) :
    ∃ t u, s.history n = .ok t ∧ s.history (n + 1) = .ok u ∧
      t.traffic.StepsOn net (s.clock.advanceBy n).now u.traffic := by
  have hs := sound_first h
  have hnetwork := network_of_build h
  rcases exists_recorded hs n with ⟨r, -, hr⟩
  rcases (hr.passes.sound hs).endActivities (s.clock.advanceBy n).now with ⟨ended, hended, hops, -⟩
  have hupdated : s.InStep n (ended.updateLinks (s.clock.advanceBy n).now) :=
    ⟨_, (hr.passes.operations hops).operation .updateLinks⟩
  rcases hupdated.serveLinks h hnow s.network.serviceOrder with
    ⟨served, hserved, hturns, past, hpass⟩
  rw [← Traffic.crossNodes_eq] at hserved
  rcases (hpass.sound hs).replanAgents (s.clock.advanceBy n).now with ⟨done, hdone, -⟩
  refine ⟨r.simulation, _, hr.history,
    history_succ_of_step hr.history (Traffic.step_of_phases hended hserved hdone), ?_⟩
  rw [hnetwork] at hturns hdone
  exact ⟨ended, served, done, hended, hturns, hdone, rfl⟩

/-- A run does not go on when its end time has come or the simulation is finished. -/
theorem goesOn_eq_false_iff (h : build c net people replanner strategy = .ok s) {t : Simulation}
    (ht : s.history n = .ok t) :
    t.goesOn = false ↔ c.endTime ≤ c.timeAt n ∨ t.isFinished = true := by
  rcases clock_history ht with ⟨hclock, hconfig, -⟩
  have hnow : t.now = c.timeAt n := by
    rw [now, hclock, clock_of_build h, (c.clock_advanceBy n).1]
  rw [goesOn, hnow, hconfig, config_of_build h, Bool.and_eq_false_iff, decide_eq_false_iff_not,
    Bool.not_eq_false', Time.le_def, Time.lt_def, Nat.not_lt]

/-- A run stops after the first number of steps after which it does not go on. -/
theorem isLeast_of_goesOn (h : build c net people replanner strategy = .ok s) {K : Nat}
    {t : Simulation} (ht : s.history K = .ok t) (hover : t.goesOn = false)
    (hgoing : ∀ k < K, ∃ t, s.history k = .ok t ∧ t.goesOn = true) :
    IsLeast {k | c.endTime ≤ c.timeAt k ∨ ∃ t, s.history k = .ok t ∧ t.isFinished = true} K := by
  constructor
  · exact ((goesOn_eq_false_iff h ht).1 hover).imp_right fun hfinished => ⟨t, ht, hfinished⟩
  · intro k hk
    refine Nat.le_of_not_lt fun hlt => ?_
    rcases hgoing k hlt with ⟨u, hu, hgoes⟩
    have hstops : u.goesOn = false := by
      refine (goesOn_eq_false_iff h hu).2 (hk.imp_right ?_)
      rintro ⟨u', hu', hfinished⟩
      cases hu.symm.trans hu'
      exact hfinished
    rw [hgoes] at hstops
    cases hstops

/-- A run of a simulation that was built comes to its end, after the first number of steps after
which the end time has come or the simulation is finished.  In none of these steps the turns of a
link are cut off.  The observer is called at the start and at the end of each of them with its time,
and right after that for a snapshot if the number of the step is a multiple of the output interval.
When the run is over it is called with the time of the clock, once, whatever calls to the end or to
finish the run follow. -/
theorem runs_to_end (h : build c net people replanner strategy = .ok s) :
    ∃ K, IsLeast {k | c.endTime ≤ c.timeAt k ∨
        ∃ t, s.history k = .ok t ∧ t.isFinished = true} K ∧
      (∀ k < K, ∃ t u, s.history k = .ok t ∧ s.history (k + 1) = .ok u ∧
        t.traffic.StepsOn net (c.timeAt k) u.traffic) ∧
      ∀ (σ : Type) (handlers : List (Handler σ)) (first observer : Observer σ) (x : σ)
        (rest : List (RunCall × Observer σ)), (∀ call ∈ rest, call.1.finishes = true) →
        ∃ r, (Run.start s handlers first x).performAll ((.complete, observer) :: rest) = .ok r ∧
          ((Run.start s handlers first x).logging []).performAll
              (Run.logCalls ((.complete, observer) :: rest)) =
            .ok (r.logging (s.log K ++ [.runEnd (c.timeAt K) (s.statsAfter K)])) ∧
          s.history K = .ok r.simulation := by
  have hclock := clock_of_build h
  rcases Run.exists_complete_logging h [] {} () with ⟨K, r₀, -, -, hK, -, hover₀, hgoing⟩
  have hleast := isLeast_of_goesOn h hK hover₀ hgoing
  refine ⟨K, hleast, ?_, ?_⟩
  · intro k hk
    have hbefore : c.timeAt k < c.endTime := by
      refine Nat.lt_of_not_le fun hle => ?_
      exact Nat.not_le_of_lt hk (hleast.2 (.inl hle))
    have hnow : (s.clock.advanceBy k).now < .never := by
      rw [hclock, (c.clock_advanceBy k).1]
      exact Nat.lt_of_lt_of_le hbefore (Time.le_never _)
    have hsteps := exists_stepsOn h hnow
    rwa [hclock, (c.clock_advanceBy k).1] at hsteps
  · intro σ handlers first observer x rest hrest
    rcases Run.exists_complete_logging h handlers observer x with
      ⟨K', r, hr, hlogged, hhistory, hfinished, hover, hgoing'⟩
    have hsame : K' = K := (isLeast_of_goesOn h hhistory hover hgoing').unique hleast
    subst hsame
    rcases Run.performAll_logging hfinished hover hrest
      (s.log K' ++ [.runEnd (c.timeAt K') (s.statsAfter K')]) with ⟨hmore, hmoreLogged⟩
    refine ⟨{ r with observer := Run.observerAfter r.observer rest }, ?_, ?_, hhistory⟩
    · rw [Run.performAll_cons]
      change ((Run.start s handlers observer x).complete.bind _) = _
      rw [hr]
      exact hmore
    · rw [Run.logCalls, List.map_cons, Run.performAll_cons, ← Run.logCalls]
      change (((Run.start s handlers observer x).logging []).complete.bind _) = _
      rw [hlogged]
      exact hmoreLogged

/-- The run of the early commuter whose end time comes on the way makes five steps. -/
theorem runs_to_end_cutOff :
    build { endTime := .ofSecs 5 } Commuter.net Commuter.single none none = .ok Commuter.cutOff ∧
      ∃ r, (Run.start Commuter.cutOff [EventLog.handler id] {} {}).performAll
          [(.complete, {}), (.complete, {}), (.finish, {})] = .ok r ∧
        ((Run.start Commuter.cutOff [EventLog.handler id] {} {}).logging []).performAll
            (Run.logCalls [(.complete, {}), (.complete, {}), (.finish, {})]) =
          .ok (r.logging (Commuter.cutOff.log 5 ++
            [.runEnd (.ofSecs 5) (Commuter.cutOff.statsAfter 5)])) ∧
        Commuter.cutOff.history 5 = .ok r.simulation := by
  rcases runs_to_end Commuter.build_cutOff with ⟨K, hleast, -, hruns⟩
  have hle : K ≤ 5 := hleast.2 (.inl (by decide))
  have hgoing : ∀ k < 5, (Commuter.cutOff.history k).toOption.map isFinished = some false := by
    decide +kernel
  have hge : 5 ≤ K := by
    rcases hleast.1 with hend | ⟨t, ht, hfinished⟩
    · have hsecs : 5 ≤ (Config.timeAt { endTime := .ofSecs 5 } K).secs := hend
      simp only [Config.timeAt, Time.secs_offset] at hsecs
      change 5 ≤ min (0 + K * 1) 0xffffffffffffffff at hsecs
      omega
    · refine Nat.le_of_not_lt fun hlt => ?_
      have hfresh := hgoing K hlt
      simp [ht, Except.toOption, hfinished] at hfresh
  cases Nat.le_antisymm hle hge
  refine ⟨Commuter.build_cutOff, ?_⟩
  exact hruns EventLog [EventLog.handler id] {} {} {} [(.complete, {}), (.finish, {})]
    (List.forall_mem_cons.2 ⟨rfl, List.forall_mem_singleton.2 rfl⟩)

end Simulation

end TrafficQueue
