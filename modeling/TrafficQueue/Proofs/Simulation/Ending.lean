import TrafficQueue.Proofs.Simulation.Balance
import TrafficQueue.Proofs.Simulation.Idle
import TrafficQueue.Proofs.Simulation.Stream

/-!
# The end of a run

A run stops when its time is over or when nobody is left who will do anything.  What
is cut off is nothing that the run would have told: without anybody living the
schedule and the roads are empty, and further steps change neither an agent nor a
link.  So a whole run tells of what happens before its end, and of all of it.

Main results:

- Theorem `Simulation.isFinished_iff`: a simulation is finished when nobody is living.
- Theorem `Simulation.stays_finished`: further steps of a finished simulation tell of
  nothing and change nothing.
- Theorem `Run.goesOn_advanceWhile`: a run that steps to its end does not go on any more.
- Theorem `Simulation.exists_completed`: the end of a whole run.
- Theorem `Simulation.cut_short`: a whole run tells of what happens before its end.
-/

namespace TrafficQueue

/-! ## The clock -/

namespace Clock

/-- Time does not go back. -/
theorem now_mono (c : Clock) {n m : Nat} (h : n ≤ m) :
    (c.advanceBy n).now ≤ (c.advanceBy m).now := by
  induction m, h using Nat.le_induction with
  | base => exact Nat.le_refl _
  | succ m _ ih => exact Time.le_trans ih (now_le_advance _)

/-- Before a later time a step of a second at least brings the clock nearer to it. -/
theorem since_advance_lt {c : Clock} {time : Time} (hstep : 1 ≤ c.stepSecs.toNat)
    (h : c.now < time) : time.since c.advance.now < time.since c.now := by
  have hnever := time.secs_lt
  simp only [Time.lt_def] at h
  simp only [Time.since, now_advance, Time.secs_offset]
  omega

end Clock

/-- A step of a valid configuration takes at least a second. -/
theorem Config.one_le_stepSecs {c : Config} (h : c.validate = .ok ()) : 1 ≤ c.stepSecs.toNat := by
  have hstep := Config.validate_eq_ok_iff.1 h .stepNotPositive
  simp only [Config.breaks, decide_eq_false_iff_not, ← UInt32.toNat_inj] at hstep
  exact Nat.one_le_iff_ne_zero.2 hstep

/-- The steps of a simulation that was built take a second at least. -/
theorem Simulation.one_le_stepSecs {c : Config} {net : Network} {people : Population}
    {replanner : Option Replanner} {strategy : Option (AgentId → Person → Strategy)}
    {s : Simulation} (h : build c net people replanner strategy = .ok s) :
    1 ≤ s.clock.stepSecs.toNat := by
  rw [clock_of_build h]
  exact Config.one_le_stepSecs (build_eq_ok_iff.1 h).1

namespace Commuter

/-- An early commuter who has the roads for itself. -/
def single : Population := ⟨#[⟨"first", early⟩]⟩

/-- The simulation of this commuter. -/
def drive : Simulation :=
  ⟨{}, net, Config.clock {}, Simulation.initialTraffic {} net
    (single.agents (Simulation.defaultStrategy none)) none⟩

theorem build_drive : Simulation.build {} net single none none = .ok drive :=
  Simulation.build_eq_ok_iff.2 ⟨rfl, rfl, rfl⟩

end Commuter

namespace Simulation

variable {s : Simulation} {c : Config} {net : Network} {people : Population}
  {replanner : Option Replanner} {strategy : Option (AgentId → Person → Strategy)} {n m : Nat}
  {t : Simulation}

/-! ## Finished simulations -/

/-- Without anybody living the schedule and the roads are empty. -/
theorem quiet_of_living (h : build c net people replanner strategy = .ok s)
    (ht : s.history n = .ok t) (hliving : t.stats.living = 0) : t.traffic.Quiet := by
  have hs := sound_first h
  rcases exists_recorded hs n with ⟨r, -, hr⟩
  cases ht.symm.trans hr.history
  have hm := hr.sound hs
  have hbalanced := (hr.passes.balanced hs (initial_traffic h)).living
  have hzero : r.simulation.traffic.endQueue.length = 0 ∧
      r.simulation.traffic.agents.countP Agent.isEnRoute = 0 := by
    have hsum : 0 = (0 + r.simulation.traffic.endQueue.length) +
        r.simulation.traffic.agents.countP Agent.isEnRoute +
        r.simulation.traffic.agents.countP Agent.isResting := hliving.symm.trans hbalanced
    omega
  refine ⟨EndQueue.isEmpty_iff.1 (decide_eq_true hzero.1), ?_, ?_⟩
  · intro l q hq
    have hnobody : r.simulation.traffic.queues.vehicles = [] := by
      apply List.length_eq_zero_iff.1
      rw [hm.length_vehicles]
      exact hzero.2
    have hpresent : q.present = [] :=
      List.flatMap_eq_nil_iff.1 hnobody q (Array.mem_toList_iff.2 (Array.mem_of_getElem? hq))
    rcases List.append_eq_nil_iff.1 hpresent with ⟨hvehicles, hwaiting⟩
    exact ⟨List.map_eq_nil_iff.1 hvehicles, hwaiting⟩
  · intro a ha
    simpa using Array.countP_eq_zero.1 hzero.2 a ha

/-- A simulation is finished when nobody is living. -/
theorem isFinished_iff (h : build c net people replanner strategy = .ok s)
    (ht : s.history n = .ok t) : t.isFinished = true ↔ t.stats.living = 0 := by
  constructor
  · intro hfinished
    simp only [isFinished, Bool.and_eq_true, decide_eq_true_eq] at hfinished
    exact hfinished.1
  · intro hliving
    have hquiet := quiet_of_living h ht hliving
    have hcount : t.traffic.stats.living = 0 := hliving
    simp [isFinished, stats, EndQueue.isEmpty_iff.2 hquiet.schedule, hcount]

/-- The same agents do the same, and the same vehicles stand on and beside the links. -/
structure Unchanged (t u : Simulation) : Prop where
  agents : u.traffic.agents = t.traffic.agents
  queue : ∀ l, (u.traffic.queues.link? l).map LinkQueue.queue =
    (t.traffic.queues.link? l).map LinkQueue.queue
  waiting : ∀ l, (u.traffic.queues.link? l).map LinkQueue.waiting =
    (t.traffic.queues.link? l).map LinkQueue.waiting

theorem Unchanged.trans {u v : Simulation} (h : t.Unchanged u) (h' : u.Unchanged v) :
    t.Unchanged v :=
  ⟨h'.agents.trans h.agents, fun l => (h'.queue l).trans (h.queue l),
    fun l => (h'.waiting l).trans (h.waiting l)⟩

/-- A step of a finished simulation tells of nothing and changes nothing. -/
theorem step_of_finished (h : build c net people replanner strategy = .ok s)
    (ht : s.history n = .ok t) (hfinished : t.isFinished = true) :
    ∃ u, s.history (n + 1) = .ok u ∧ u.isFinished = true ∧ u.events = [] ∧ t.Unchanged u := by
  have hquiet := quiet_of_living h ht ((isFinished_iff h ht).1 hfinished)
  rcases t with ⟨config, network, clock, traffic⟩
  have hstep : step ⟨config, network, clock, traffic⟩ = .ok ⟨config, network, clock.advance,
      (traffic.clearEvents.updateLinks clock.now).countStep⟩ := by
    simp only [step, hquiet.step network clock.now]
  refine ⟨⟨config, network, clock.advance,
    (traffic.clearEvents.updateLinks clock.now).countStep⟩, ?_, hfinished, rfl, rfl, ?_, ?_⟩
  · rw [history, ht]
    exact hstep
  · intro l
    change ((traffic.queues.update clock.now).link? l).map LinkQueue.queue = _
    rw [hquiet.link?_update, Option.map_map]
    rfl
  · intro l
    change ((traffic.queues.update clock.now).link? l).map LinkQueue.waiting = _
    rw [hquiet.link?_update, Option.map_map]
    rfl

/-- Further steps of a finished simulation tell of nothing and change nothing. -/
theorem stays_finished (h : build c net people replanner strategy = .ok s)
    (ht : s.history n = .ok t) (hfinished : t.isFinished = true) (hle : n ≤ m) :
    ∃ u, s.history m = .ok u ∧ u.isFinished = true ∧ s.stream m = s.stream n ∧
      t.Unchanged u := by
  induction m, hle using Nat.le_induction with
  | base => exact ⟨t, ht, hfinished, rfl, rfl, fun _ => rfl, fun _ => rfl⟩
  | succ m _ ih =>
      rcases ih with ⟨u, hu, hfinished', hstream, hunchanged⟩
      rcases step_of_finished h hu hfinished' with ⟨v, hv, hfinished'', hnothing, hstep⟩
      refine ⟨v, hv, hfinished'', ?_, hunchanged.trans hstep⟩
      rw [stream_succ hv, hnothing, List.append_nil, hstream]

end Simulation

/-! ## Whole runs -/

namespace Run

variable {σ : Type} {r r' : Run σ} {most : Nat}

/-- A step makes a step of the simulation, and nothing else of the run is exchanged. -/
theorem step_of_advance (h : r.advance = .ok r') :
    r.simulation.step = .ok r'.simulation ∧ r'.observer = r.observer ∧
      r'.isFinished = r.isFinished := by
  rw [advance_eq] at h
  cases hstep : r.simulation.step with
  | error e =>
      rw [hstep] at h
      cases h
  | ok t =>
      rw [hstep] at h
      cases h
      exact ⟨rfl, rfl, rfl⟩

/-- A run keeps its observer. -/
theorem observer_advanceWhile (h : r.advanceWhile most = .ok r') : r'.observer = r.observer := by
  induction most generalizing r with
  | zero =>
      cases h
      rfl
  | succ most ih =>
      rw [advanceWhile] at h
      split at h
      · cases hnext : r.advance with
        | error e =>
            rw [hnext] at h
            cases h
        | ok next =>
            rw [hnext] at h
            exact (ih h).trans (step_of_advance hnext).2.1
      · cases h
        rfl

/-- A run that steps as long as it goes on, and may take as many steps as there are seconds left,
does not go on any more. -/
theorem goesOn_advanceWhile (hstep : 1 ≤ r.simulation.clock.stepSecs.toNat)
    (hmost : r.simulation.config.endTime.since r.simulation.now ≤ most)
    (h : r.advanceWhile most = .ok r') : r'.simulation.goesOn = false := by
  induction most generalizing r with
  | zero =>
      have hsame : r = r' := Except.ok.inj h
      subst hsame
      have hover : ¬ r.simulation.now < r.simulation.config.endTime := by
        simp only [Time.since, Time.lt_def] at hmost ⊢
        omega
      simp [Simulation.goesOn, hover]
  | succ most ih =>
      rw [advanceWhile] at h
      split at h
      · rename_i hgoes
        cases hnext : r.advance with
        | error e =>
            rw [hnext] at h
            cases h
        | ok next =>
            rw [hnext] at h
            rcases Simulation.clock_step (step_of_advance hnext).1 with ⟨hclock, hconfig, -⟩
            have hnow : r.simulation.clock.now < r.simulation.config.endTime := by
              simp only [Simulation.goesOn, Bool.and_eq_true, decide_eq_true_eq] at hgoes
              exact hgoes.1
            have hlt := Clock.since_advance_lt hstep hnow
            refine ih ?_ ?_ h
            · rw [hclock]
              exact hstep
            · rw [hconfig, Simulation.now, hclock]
              rw [Simulation.now] at hmost
              omega
      · rename_i hover
        have hsame : r = r' := Except.ok.inj h
        subst hsame
        exact Bool.eq_false_iff.2 hover

end Run

namespace Simulation

variable {s : Simulation} {c : Config} {net : Network} {people : Population}
  {replanner : Option Replanner} {strategy : Option (AgentId → Person → Strategy)} {n m : Nat}

/-- A whole run with one listener, which keeps all events. -/
def recordedToEnd (s : Simulation) : Except SimulationError (Run EventLog) :=
  (Run.start s [EventLog.handler id] {} {}).complete

/-- A run that records steps before its end time only. -/
theorem Records.exists_advanceWhile (hs : s.first.Sound s.network) (most : Nat) {r : Run EventLog}
    (h : s.Records n r) :
    ∃ m r', r.advanceWhile most = .ok r' ∧ s.Records m r' ∧
      ∀ k, n ≤ k → k < m → (s.clock.advanceBy k).now < s.config.endTime := by
  induction most generalizing n r with
  | zero => exact ⟨n, r, rfl, h, fun k hle hlt => absurd hle (Nat.not_le_of_lt hlt)⟩
  | succ most ih =>
      rcases clock_history h.history with ⟨hclock, hconfig, -⟩
      rw [Run.advanceWhile]
      by_cases hgoes : r.simulation.goesOn = true
      · have hnow : (s.clock.advanceBy n).now < s.config.endTime := by
          simp only [goesOn, now, Bool.and_eq_true, decide_eq_true_eq, hconfig, hclock] at hgoes
          exact hgoes.1
        rcases h.advance hs with ⟨next, hnext, hr⟩
        rcases ih hr with ⟨m, r', hr', hrecords, hbefore⟩
        refine ⟨m, r', ?_, hrecords, ?_⟩
        · rw [if_pos hgoes, hnext]
          exact hr'
        · intro k hle hlt
          rcases Nat.eq_or_lt_of_le hle with rfl | hle
          · exact hnow
          · exact hbefore k hle hlt
      · exact ⟨n, r, if_neg hgoes, h, fun k hle hlt => absurd hle (Nat.not_le_of_lt hlt)⟩

/-- The end of a run adds nothing to what was recorded. -/
theorem Records.listeners_finish {r : Run EventLog} (h : s.Records n r) :
    r.finish.listeners = r.listeners := by
  unfold Run.finish
  split
  · rfl
  · simp only [h.observer, EventBus.finish, EventBus.flush, h.pending, h.handlers]
    rfl

/-- A whole run ends after steps before its end time; the steps after them come later or tell of
nothing. -/
theorem exists_completed (h : build c net people replanner strategy = .ok s) :
    ∃ m r, s.recordedToEnd = .ok r ∧ r.listeners.events.toList = s.stream m ∧
      (∀ k, k < m → (s.clock.advanceBy k).now < c.endTime) ∧
      ∀ k t, m ≤ k → s.history (k + 1) = .ok t → ∀ e ∈ t.events, ¬ e.time < c.endTime := by
  have hs := sound_first h
  have hconfig := config_of_build h
  rcases s.records_start.exists_advanceWhile hs (s.config.endTime.since s.now) with
    ⟨m, r, hr, hrecords, hbefore⟩
  have hover := Run.goesOn_advanceWhile (r := Run.start s _ _ _) (one_le_stepSecs h)
    (Nat.le_refl _) hr
  rw [hconfig] at hbefore
  have hcomplete : s.recordedToEnd = .ok r.finish := by
    unfold recordedToEnd Run.complete
    exact congrArg (Except.map Run.finish) hr
  refine ⟨m, r.finish, hcomplete, ?_, fun k => hbefore k (Nat.zero_le k), ?_⟩
  · rw [hrecords.listeners_finish]
    exact hrecords.stream
  · intro k t hk ht e he
    rcases clock_history hrecords.history with ⟨hclock, hconfig', -⟩
    simp only [goesOn, Bool.and_eq_false_iff, decide_eq_false_iff_not, Bool.not_eq_false',
      hconfig', hconfig] at hover
    rcases hover with hlate | hfinished
    · rw [time_of_mem_events hs ht he]
      rw [now, hclock] at hlate
      intro hlt
      exact hlate (Nat.lt_of_le_of_lt (s.clock.now_mono hk) hlt)
    · rcases stays_finished h hrecords.history hfinished hk with ⟨u, hu, hfinished', -, -⟩
      rcases step_of_finished h hu hfinished' with ⟨v, hv, -, hnothing, -⟩
      cases ht.symm.trans hv
      rw [hnothing] at he
      cases he

/-- A whole run tells of the first events of the simulation, those that come before its end. -/
theorem exists_stream_completed (h : build c net people replanner strategy = .ok s) :
    ∃ m r, s.recordedToEnd = .ok r ∧ r.listeners.events.toList = s.stream m ∧
      ∀ n, (s.stream n).filter (fun e => e.time < c.endTime) = s.stream (min n m) := by
  rcases exists_completed h with ⟨m, r, hr, hlog, hbefore, hafter⟩
  exact ⟨m, r, hr, hlog, filter_stream (sound_first h) hbefore hafter⟩

/-! ## Another end -/

/-- Apart from the configuration itself, no step depends on it. -/
theorem history_withConfig (s : Simulation) (config : Config) (n : Nat) :
    history { s with config } n = (s.history n).map fun t => { t with config } := by
  induction n with
  | zero => rfl
  | succ n ih =>
      rw [history, history, ih]
      cases s.history n with
      | error e => rfl
      | ok t =>
          simp only [Except.map, Except.bind, step]
          cases t.traffic.step t.network t.clock.now <;> rfl

/-- The events of so many steps do not depend on when the run is to end. -/
theorem stream_withConfig (s : Simulation) (config : Config) (n : Nat) :
    stream { s with config } n = s.stream n := by
  induction n with
  | zero => rfl
  | succ n ih =>
      rw [stream, stream, ih, history_withConfig]
      cases s.history (n + 1) <;> rfl

/-- An earlier end tells of the first of the events. -/
theorem completed_prefix {time : Time} {s' : Simulation} {r : Run EventLog}
    (h : build c net people replanner strategy = .ok s)
    (h' : build { c with endTime := time } net people replanner strategy = .ok s')
    (htime : time ≤ c.endTime) (hr : s.recordedToEnd = .ok r) :
    ∃ r', s'.recordedToEnd = .ok r' ∧ r'.listeners.events.toList <+: r.listeners.events.toList := by
  have hsame : ∀ n, s'.stream n = s.stream n := by
    have hconfig : s' = { s with config := { c with endTime := time } } := by
      rcases build_eq_ok_iff.1 h with ⟨-, -, rfl⟩
      rcases build_eq_ok_iff.1 h' with ⟨-, -, rfl⟩
      rfl
    rw [hconfig]
    exact s.stream_withConfig _
  rcases exists_stream_completed h with ⟨m, r₁, hr₁, hlog, hstream⟩
  cases hr.symm.trans hr₁
  rcases exists_stream_completed h' with ⟨m', r', hr', hlog', hstream'⟩
  simp only [hsame] at hlog' hstream'
  refine ⟨r', hr', ?_⟩
  rw [hlog, hlog']
  have hearly : ∀ e ∈ s.stream m', e.time < time := by
    have hfilter := hstream' m'
    rw [Nat.min_self] at hfilter
    intro e he
    simpa using List.filter_eq_self.1 hfilter e he
  have hkept : (s.stream m').filter (fun e => e.time < c.endTime) = s.stream m' := by
    rw [List.filter_eq_self]
    intro e he
    exact decide_eq_true (Nat.lt_of_lt_of_le (hearly e he) htime)
  rw [← hkept, hstream]
  exact s.stream_prefix (Nat.min_le_right m' m)

/-- A whole run tells of all that happens before its end time, however long the simulation goes on,
and of nothing else; an earlier end tells of the first of it.  When nobody is living the simulation
is finished, and from then on nothing is told and nothing changes. -/
theorem cut_short (h : build c net people replanner strategy = .ok s) :
    (∀ n, ∃ u, s.recorded n = .ok u ∧ u.listeners.events.toList = s.stream n) ∧
      (∃ r, s.recordedToEnd = .ok r ∧
        (∀ n, (s.stream n).filter (fun e => e.time < c.endTime) <+: r.listeners.events.toList) ∧
        (∃ m, ∀ n, m ≤ n →
          (s.stream n).filter (fun e => e.time < c.endTime) = r.listeners.events.toList) ∧
        ∀ time s', time ≤ c.endTime →
          build { c with endTime := time } net people replanner strategy = .ok s' →
          ∃ r', s'.recordedToEnd = .ok r' ∧
            r'.listeners.events.toList <+: r.listeners.events.toList) ∧
      ∀ n, ∃ t, s.history n = .ok t ∧ (t.isFinished = true ↔ t.stats.living = 0) ∧
        (t.isFinished = true → ∀ m, n ≤ m →
          ∃ u, s.history m = .ok u ∧ u.isFinished = true ∧ s.stream m = s.stream n ∧
            t.Unchanged u) := by
  have hs := sound_first h
  refine ⟨?_, ?_, ?_⟩
  · intro n
    rcases exists_recorded hs n with ⟨u, hu, hrecords⟩
    exact ⟨u, hu, hrecords.stream⟩
  · rcases exists_stream_completed h with ⟨m, r, hr, hlog, hstream⟩
    refine ⟨r, hr, ?_, ⟨m, ?_⟩, fun time s' htime h' => completed_prefix h h' htime hr⟩
    · intro n
      rw [hlog, hstream]
      exact s.stream_prefix (Nat.min_le_right n m)
    · intro n hle
      rw [hlog, hstream, Nat.min_eq_right hle]
  · intro n
    rcases exists_recorded hs n with ⟨r, -, hr⟩
    exact ⟨r.simulation, hr.history, isFinished_iff h hr.history,
      fun hfinished m hle => stays_finished h hr.history hfinished hle⟩

/-- A single commuter is at work after forty seconds, and a run that ends after fifteen seconds
tells of the beginning of the way. -/
theorem cut_short_single :
    build {} Commuter.net Commuter.single none none = .ok Commuter.drive ∧
      build { endTime := .ofSecs 15 } Commuter.net Commuter.single none none =
        .ok { Commuter.drive with config := { endTime := .ofSecs 15 } } ∧
      Time.ofSecs 15 ≤ Config.endTime {} ∧
      (∃ r r', Commuter.drive.recordedToEnd = .ok r ∧
        recordedToEnd { Commuter.drive with config := { endTime := .ofSecs 15 } } = .ok r' ∧
        r'.listeners.events.toList <+: r.listeners.events.toList) ∧
      ∃ t, Commuter.drive.history 40 = .ok t ∧ t.isFinished = true ∧
        ∀ m, 40 ≤ m → ∃ u, Commuter.drive.history m = .ok u ∧ u.isFinished = true ∧
          Commuter.drive.stream m = Commuter.drive.stream 40 ∧ t.Unchanged u := by
  have hearly : build { endTime := .ofSecs 15 } Commuter.net Commuter.single none none =
      .ok { Commuter.drive with config := { endTime := .ofSecs 15 } } :=
    build_eq_ok_iff.2 ⟨rfl, rfl, rfl⟩
  have htime : Time.ofSecs 15 ≤ Config.endTime {} := by decide
  rcases cut_short Commuter.build_drive with ⟨-, ⟨r, hr, -, -, hshorter⟩, hfinish⟩
  rcases hshorter _ _ htime hearly with ⟨r', hr', hprefix⟩
  rcases hfinish 40 with ⟨t, ht, -, hstays⟩
  have hfinished : (Commuter.drive.history 40).toOption.map isFinished = some true := by
    decide +kernel
  rw [ht] at hfinished
  have hfinished' : t.isFinished = true := Option.some.inj hfinished
  exact ⟨Commuter.build_drive, hearly, htime, ⟨r, r', hr, hr', hprefix⟩, t, ht, hfinished',
    hstays hfinished'⟩

end Simulation

end TrafficQueue
