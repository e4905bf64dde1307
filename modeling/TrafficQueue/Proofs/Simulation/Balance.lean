import TrafficQueue.Proofs.Simulation.Places

/-!
# The counts balance

Nobody is counted twice and nobody is forgotten.  Who was scheduled at the start is
living, has completed the day or is lost; who is living is scheduled, on the road
or at rest; and who departed has arrived, is on the road or was lost there.  The
counts of what happened are the numbers of the events that tell of it.

Main results:

- Definitions `Moment.Counted` and `Moment.Balanced`: the invariants of the counts.
- Theorem `Moment.Counted.move`: the counts change as the events do.
- Theorem `Moment.Balanced.move`: the counts change as the places of the agents do.
- Theorem `Simulation.balanced_counts`: the counts after any number of steps.
-/

namespace TrafficQueue

/-! ## Counting agents -/

/-- What counts after an entry has changed is what counted before, but for this entry. -/
theorem countP_setIfInBounds {α : Type} {xs : Array α} {i : Nat} {x : α} (h : xs[i]? = some x)
    (y : α) (p : α → Bool) :
    (xs.setIfInBounds i y).countP p + (if p x = true then 1 else 0) =
      xs.countP p + if p y = true then 1 else 0 := by
  rcases Array.getElem?_eq_some_iff.1 h with ⟨hlt, rfl⟩
  have hle : (if p xs[i] = true then 1 else 0) ≤ xs.countP p := Array.boole_getElem_le_countP hlt
  rw [Array.setIfInBounds_def, dif_pos hlt, Array.countP_set hlt]
  omega

namespace Agent

variable {a b : Agent}

/-- Whether the agent has completed its plan. -/
def isComplete (a : Agent) : Bool := a.state = .removed .completed

/-- Whether the agent is at an activity other than its first and never leaves it. -/
def isResting (a : Agent) : Bool := a.state = .atActivity ∧ 0 < a.element ∧ a.departure = .never

/-- At an activity an agent is not on its way. -/
theorem isEnRoute_startActivity (a : Agent) (act : Activity) (now : Time) :
    (a.startActivity act now).agent.isEnRoute = false := by
  rcases a.startActivity_cases act now with ⟨-, h⟩ | ⟨-, h⟩ <;> rw [h] <;> rfl

end Agent

namespace Traffic

variable {t : Traffic} {a b : Agent}

/-- How many agents are on their way, at rest and complete after one that was scheduled has
changed. -/
theorem recount_waiting {e : Time × AgentId} (hagent : t.agent? a.id = some a)
    (h : a.awaits e = true) (b : Agent) :
    (t.agents.setIfInBounds a.id.index b).countP Agent.isEnRoute =
        t.agents.countP Agent.isEnRoute + (if b.isEnRoute = true then 1 else 0) ∧
      (t.agents.setIfInBounds a.id.index b).countP Agent.isResting =
        t.agents.countP Agent.isResting + (if b.isResting = true then 1 else 0) ∧
      (t.agents.setIfInBounds a.id.index b).countP Agent.isComplete =
        t.agents.countP Agent.isComplete + if b.isComplete = true then 1 else 0 := by
  simp only [Agent.awaits, decide_eq_true_eq] at h
  have hroad : a.isEnRoute = false := by simp [Agent.isEnRoute, h.1]
  have hrest : a.isResting = false := by simp [Agent.isResting, h.2.2.1]
  have hcomplete : a.isComplete = false := by simp [Agent.isComplete, h.1]
  refine ⟨?_, ?_, ?_⟩
  · simpa [hroad] using countP_setIfInBounds hagent b Agent.isEnRoute
  · simpa [hrest] using countP_setIfInBounds hagent b Agent.isResting
  · simpa [hcomplete] using countP_setIfInBounds hagent b Agent.isComplete

/-- How many agents are on their way, at rest and complete after one that was on its way has
changed. -/
theorem recount_travelling (hagent : t.agent? a.id = some a) (h : a.state = .enRoute)
    (b : Agent) :
    (t.agents.setIfInBounds a.id.index b).countP Agent.isEnRoute + 1 =
        t.agents.countP Agent.isEnRoute + (if b.isEnRoute = true then 1 else 0) ∧
      (t.agents.setIfInBounds a.id.index b).countP Agent.isResting =
        t.agents.countP Agent.isResting + (if b.isResting = true then 1 else 0) ∧
      (t.agents.setIfInBounds a.id.index b).countP Agent.isComplete =
        t.agents.countP Agent.isComplete + if b.isComplete = true then 1 else 0 := by
  have hroad : a.isEnRoute = true := by simp [Agent.isEnRoute, h]
  have hrest : a.isResting = false := by simp [Agent.isResting, h]
  have hcomplete : a.isComplete = false := by simp [Agent.isComplete, h]
  refine ⟨?_, ?_, ?_⟩
  · simpa [hroad] using countP_setIfInBounds hagent b Agent.isEnRoute
  · simpa [hrest] using countP_setIfInBounds hagent b Agent.isResting
  · simpa [hcomplete] using countP_setIfInBounds hagent b Agent.isComplete

end Traffic

/-! ## Balanced counts -/

/-- The three reasons for which an agent can be lost. -/
theorem Losses.total_eq (l : Losses) :
    l.total = l.because .missingRoute + l.because .inconsistentDestination +
      l.because .routeOverrun := by
  simp [total, StuckReason.all, Nat.add_assoc]

/-- The counts agree with so many who were scheduled at the start, and so many who are waiting, on
their way, at rest and complete now. -/
structure Statistics.Balanced (s : Statistics) (total waiting travelling resting complete : Nat) :
    Prop where
  agents : s.living + s.completed + s.lost = total
  reasons : s.lost = s.lostBecause.total
  completed : s.completed = complete
  travels : s.departures = s.arrivals + travelling +
    s.lostBecause.because .inconsistentDestination + s.lostBecause.because .routeOverrun
  living : s.living = waiting + travelling + resting

namespace Statistics.Balanced

variable {s : Statistics} {total waiting travelling resting complete : Nat} {reason : StuckReason}

/-- Whoever waits and leaves the simulation is lost before the leg. -/
theorem strand (h : s.Balanced total (waiting + 1) travelling resting complete) :
    (s.settle (.stuck .missingRoute)).Balanced total waiting travelling resting complete := by
  rcases h with ⟨hagents, hreasons, hcompleted, htravels, hliving⟩
  refine ⟨?_, ?_, hcompleted, htravels, ?_⟩
  · simp only [settle]
    omega
  · simp only [settle, Losses.total_add]
    omega
  · simp only [settle]
    omega

/-- An agent that waited departs. -/
theorem depart (h : s.Balanced total (waiting + 1) travelling resting complete) :
    Balanced { s with departures := s.departures + 1 } total waiting (travelling + 1) resting
      complete := by
  rcases h with ⟨hagents, hreasons, hcompleted, htravels, hliving⟩
  refine ⟨hagents, hreasons, hcompleted, ?_, ?_⟩
  · simp only
    omega
  · simp only
    omega

/-- An agent departs and arrives without being on the road. -/
theorem stay (h : s.Balanced total waiting travelling resting complete) :
    Balanced { s with departures := s.departures + 1, arrivals := s.arrivals + 1 } total waiting
      travelling resting complete := by
  rcases h with ⟨hagents, hreasons, hcompleted, htravels, hliving⟩
  refine ⟨hagents, hreasons, hcompleted, ?_, hliving⟩
  simp only
  omega

/-- Whoever arrives waits for the next activity. -/
theorem arrive (h : s.Balanced total waiting (travelling + 1) resting complete) :
    Balanced { s with arrivals := s.arrivals + 1 } total (waiting + 1) travelling resting
      complete := by
  rcases h with ⟨hagents, hreasons, hcompleted, htravels, hliving⟩
  refine ⟨hagents, hreasons, hcompleted, ?_, ?_⟩
  · simp only
    omega
  · simp only
    omega

/-- Whoever is lost on the way is lost for one of the two reasons that occur there. -/
theorem fail (h : s.Balanced total waiting (travelling + 1) resting complete)
    (hreason : reason ≠ .missingRoute) :
    (s.settle (.stuck reason)).Balanced total waiting travelling resting complete := by
  rcases h with ⟨hagents, hreasons, hcompleted, htravels, hliving⟩
  refine ⟨?_, ?_, hcompleted, ?_, ?_⟩
  · simp only [settle]
    omega
  · simp only [settle, Losses.total_add]
    omega
  · cases reason with
    | missingRoute => exact (hreason rfl).elim
    | inconsistentDestination =>
        simp only [settle, Losses.add, Losses.because] at *
        omega
    | routeOverrun =>
        simp only [settle, Losses.add, Losses.because] at *
        omega
  · simp only [settle]
    omega

/-- An agent that waited is done. -/
theorem finish (h : s.Balanced total (waiting + 1) travelling resting complete) :
    (s.settle .completed).Balanced total waiting travelling resting (complete + 1) := by
  rcases h with ⟨hagents, hreasons, hcompleted, htravels, hliving⟩
  refine ⟨?_, hreasons, ?_, htravels, ?_⟩
  · simp only [settle]
    omega
  · simp only [settle]
    omega
  · simp only [settle]
    omega

/-- An agent that waited rests. -/
theorem rest (h : s.Balanced total (waiting + 1) travelling resting complete) :
    s.Balanced total waiting travelling (resting + 1) complete := by
  rcases h with ⟨hagents, hreasons, hcompleted, htravels, hliving⟩
  refine ⟨hagents, hreasons, hcompleted, htravels, ?_⟩
  omega

end Statistics.Balanced

/-! ## What happened -/

/-- How often the counted things have happened. -/
structure Happened where
  departures : Nat
  arrivals : Nat
  lost : Nat
  replans : Nat

namespace Happened

/-- What events tell of. -/
def ofEvents (events : List Event) : Happened where
  departures := events.countP fun e => e.kind.isDeparture
  arrivals := events.countP fun e => e.kind.isArrival
  lost := events.countP fun e => e.kind.isStuck
  replans := events.countP fun e => e.kind.isReplan

/-- Both together. -/
def add (x y : Happened) : Happened where
  departures := x.departures + y.departures
  arrivals := x.arrivals + y.arrivals
  lost := x.lost + y.lost
  replans := x.replans + y.replans

/-- What has happened in more events adds up. -/
theorem ofEvents_append (es fs : List Event) :
    ofEvents (es ++ fs) = (ofEvents es).add (ofEvents fs) := by
  simp [ofEvents, add]

end Happened

/-- What the counts say has happened. -/
def Statistics.happened (s : Statistics) : Happened where
  departures := s.departures
  arrivals := s.arrivals
  lost := s.lost
  replans := s.replans

/-! ## What the start of an activity counts -/

namespace Traffic

variable {a b : Agent} {act : Activity} {now : Time} {id : AgentId} {t u : Traffic}

/-- An agent that starts an activity is complete, rests or is scheduled; the counts and the schedule
say so. -/
theorem settle_startActivity (h : 0 < a.element) (hb : (a.startActivity act now).agent = b)
    (hu : settle id (a.startActivity act now).answer t = u) :
    (b.isComplete = true ∧ b.isResting = false ∧ u.endQueue = t.endQueue ∧
        u.stats =
          { t.stats with living := t.stats.living - 1, completed := t.stats.completed + 1 }) ∨
      (b.isComplete = false ∧ b.isResting = true ∧ u.endQueue = t.endQueue ∧
        u.stats = t.stats) ∨
      (b.isComplete = false ∧ b.isResting = false ∧
        u.endQueue.length = t.endQueue.length + 1 ∧ u.stats = t.stats) := by
  subst hb hu
  rcases a.startActivity_cases act now with ⟨-, hstart⟩ | ⟨-, hstart⟩
  · rw [hstart]
    exact .inl ⟨rfl, rfl, rfl, rfl⟩
  · rw [hstart]
    by_cases hnever : act.departure now = .never
    · simp only [hnever, if_true]
      exact .inr (.inl ⟨rfl, by simpa [Agent.isResting] using h, rfl, rfl⟩)
    · simp only [hnever, if_false]
      exact .inr (.inr ⟨rfl, by simp [Agent.isResting, hnever], EndQueue.length_push hnever, rfl⟩)

/-- The start of an activity is not counted among what happened. -/
theorem happened_startActivity (h : 0 < a.element)
    (hu : settle id (a.startActivity act now).answer t = u) :
    u.stats.happened = t.stats.happened ∧ u.stats.events = t.stats.events := by
  rcases settle_startActivity h rfl hu with
    ⟨-, -, -, hstats⟩ | ⟨-, -, -, hstats⟩ | ⟨-, -, -, hstats⟩
  · rw [hstats]
    exact ⟨rfl, rfl⟩
  · rw [hstats]
    exact ⟨rfl, rfl⟩
  · rw [hstats]
    exact ⟨rfl, rfl⟩

/-- Whoever waits for the next activity and starts it is counted where it comes to be. -/
theorem balanced_startActivity {total due travelling resting complete : Nat}
    (hbalanced : t.stats.Balanced total (due + t.endQueue.length + 1) travelling resting complete)
    (h : 0 < a.element) (hb : (a.startActivity act now).agent = b)
    (hu : settle id (a.startActivity act now).answer t = u) :
    u.stats.Balanced total (due + u.endQueue.length) travelling
      (resting + if b.isResting = true then 1 else 0)
      (complete + if b.isComplete = true then 1 else 0) := by
  rcases settle_startActivity h hb hu with
    ⟨hcomplete, hrest, hqueue, hstats⟩ | ⟨hcomplete, hrest, hqueue, hstats⟩ |
      ⟨hcomplete, hrest, hqueue, hstats⟩
  · rw [hstats, hqueue, hcomplete, hrest]
    exact hbalanced.finish
  · rw [hstats, hqueue, hcomplete, hrest]
    exact hbalanced.rest
  · rw [hstats, hqueue, hcomplete, hrest]
    exact hbalanced

end Traffic

/-! ## Counts and events -/

namespace Moment

/-- The counts of what happened are those of the events that tell of it. -/
structure Counted (m : Moment) : Prop where
  happened : m.traffic.stats.happened = .ofEvents m.log
  /-- The events of a step are counted at its end. -/
  events : m.traffic.stats.events = m.past.length

/-- Counts that change as events are emitted are right again. -/
theorem Counted.of_emitted {m m' : Moment} (hm : m.Counted) {events : List Event}
    (hpast : m'.past = m.past) (hemitted : m'.traffic.emitted = m.traffic.emitted ++ events)
    (hhappened : m'.traffic.stats.happened = m.traffic.stats.happened.add (.ofEvents events))
    (hevents : m'.traffic.stats.events = m.traffic.stats.events) : m'.Counted := by
  have hlog : m'.log = m.log ++ events := by
    simp [log, hpast, hemitted]
  constructor
  · rw [hhappened, hm.happened, hlog, Happened.ofEvents_append]
  · rw [hevents, hpast, hm.events]

end Moment

/-- The counts change as the events do. -/
theorem Moment.Counted.move {net : Network} {now : Time} {m m' : Moment} (hm : m.Counted)
    (h : Move net now m m') : m'.Counted := by
  cases h with
  | drain => exact ⟨hm.happened, hm.events⟩
  | strand hagent h => exact hm.of_emitted rfl rfl rfl rfl
  | @stay _ _ _ _ a _ _ _ _ hagent h =>
      have helement : 0 < a.stayed.element := Nat.succ_pos _
      rcases Traffic.happened_startActivity helement rfl with ⟨hhappened, hevents⟩
      exact hm.of_emitted rfl (Traffic.emitted_settle _ _ _) hhappened hevents
  | depart hagent h hdepart => exact hm.of_emitted rfl rfl rfl rfl
  | update => exact ⟨hm.happened, hm.events⟩
  | keep hagent hdue h => exact hm.of_emitted rfl rfl rfl rfl
  | cross hagent h hleave henter => exact hm.of_emitted rfl rfl rfl rfl
  | @arrive _ _ a _ _ _ _ hagent h hleave =>
      have helement : 0 < a.landed.element := Nat.succ_pos _
      rcases Traffic.happened_startActivity helement rfl with ⟨hhappened, hevents⟩
      exact hm.of_emitted rfl (Traffic.emitted_settle _ _ _) hhappened hevents
  | fail hagent hdue h hleave => exact hm.of_emitted rfl rfl rfl rfl
  | replan hagent hreplanner h => exact hm.of_emitted rfl rfl rfl rfl

/-! ## Counts and places -/

namespace Moment

/-- Everybody who was scheduled is counted, and in one place. -/
def Balanced (total : Nat) (m : Moment) : Prop :=
  m.traffic.stats.Balanced total (m.due.length + m.traffic.endQueue.length)
    (m.traffic.agents.countP Agent.isEnRoute) (m.traffic.agents.countP Agent.isResting)
    (m.traffic.agents.countP Agent.isComplete)

end Moment

/-- The agent that is called is one of those who wait. -/
theorem Moment.Balanced.called {total : Nat} {past : List Event} {e : Time × AgentId}
    {due : List (Time × AgentId)} {t : Traffic}
    (hm : Moment.Balanced total ⟨past, e :: due, t⟩) :
    t.stats.Balanced total (due.length + t.endQueue.length + 1)
      (t.agents.countP Agent.isEnRoute) (t.agents.countP Agent.isResting)
      (t.agents.countP Agent.isComplete) := by
  rw [Nat.add_right_comm]
  exact hm

/-- An agent that was on its way and still is does not change the counts. -/
theorem Moment.Balanced.of_enRoute {total : Nat} {past : List Event} {t : Traffic} {a b : Agent}
    (hm : Moment.Balanced total ⟨past, [], t⟩) (hagent : t.agent? a.id = some a)
    (ha : a.state = .enRoute) (hb : b.state = .enRoute) (hid : b.id = a.id)
    (events : List Event) : Moment.Balanced total ⟨past, [], t.did b events⟩ := by
  have hroad : b.isEnRoute = true := by simp [Agent.isEnRoute, hb]
  have hrest : b.isResting = false := by simp [Agent.isResting, hb]
  have hcomplete : b.isComplete = false := by simp [Agent.isComplete, hb]
  rcases Traffic.recount_travelling hagent ha b with ⟨htravelling, hresting, hcompleted⟩
  simp only [hroad, hrest, hcomplete, if_true, Bool.false_eq_true, if_false, Nat.add_zero,
    Nat.add_right_cancel_iff] at htravelling hresting hcompleted
  unfold Moment.Balanced
  simp only [Traffic.agents_did, hid, htravelling, hresting, hcompleted]
  exact hm

/-- An agent that was on its way and no longer is leaves one less there. -/
theorem Moment.Balanced.off_road {total : Nat} {past : List Event} {t : Traffic} {a b : Agent}
    (hm : Moment.Balanced total ⟨past, [], t⟩) (hagent : t.agent? a.id = some a)
    (ha : a.state = .enRoute) (hb : b.isEnRoute = false) :
    t.stats.Balanced total (0 + t.endQueue.length)
        ((t.agents.setIfInBounds a.id.index b).countP Agent.isEnRoute + 1)
        (t.agents.countP Agent.isResting) (t.agents.countP Agent.isComplete) ∧
      (t.agents.setIfInBounds a.id.index b).countP Agent.isResting =
        t.agents.countP Agent.isResting + (if b.isResting = true then 1 else 0) ∧
      (t.agents.setIfInBounds a.id.index b).countP Agent.isComplete =
        t.agents.countP Agent.isComplete + if b.isComplete = true then 1 else 0 := by
  rcases Traffic.recount_travelling hagent ha b with ⟨hroad, hrest, hcomplete⟩
  simp only [hb, Bool.false_eq_true, if_false, Nat.add_zero] at hroad
  rw [hroad]
  exact ⟨hm, hrest, hcomplete⟩

/-- The counts change as the places of the agents do. -/
theorem Moment.Balanced.move {net : Network} {now : Time} {total : Nat} {m m' : Moment}
    (hm : m.Balanced total) (hlisted : m.Listed) (h : Move net now m m') : m'.Balanced total := by
  cases h with
  | @drain past t =>
      change t.stats.Balanced total (_ + (t.endQueue.drain now).2.length) _ _ _
      rw [EndQueue.length_drain, ← Nat.zero_add t.endQueue.length]
      exact hm
  | @strand _ _ _ _ a _ hagent h =>
      rcases Traffic.recount_waiting hagent ((hlisted.called hagent _).2 rfl) a.stranded with
        ⟨hroad, hrest, hcomplete⟩
      unfold Moment.Balanced
      simp only [Traffic.agents_did, Agent.id_stranded, hroad, hrest, hcomplete]
      exact hm.called.strand
  | @stay _ _ _ t a _ next _ _ hagent h =>
      have helement : 0 < a.stayed.element := Nat.succ_pos _
      have hroad' := a.stayed.isEnRoute_startActivity next now
      rcases Traffic.recount_waiting hagent ((hlisted.called hagent _).2 rfl)
        (a.stayed.startActivity next now).agent with ⟨hroad, hrest, hcomplete⟩
      unfold Moment.Balanced
      simp only [Traffic.agents_settle, Traffic.agents_did, Agent.id_startActivity,
        Agent.id_stayed, hroad, hroad', hrest, hcomplete]
      exact Traffic.balanced_startActivity hm.called.stay helement rfl rfl
  | @depart _ _ _ _ a _ _ r _ _ hagent h hdepart =>
      rcases Traffic.recount_waiting hagent ((hlisted.called hagent _).2 rfl) (a.departed r) with
        ⟨hroad, hrest, hcomplete⟩
      unfold Moment.Balanced
      simp only [Traffic.agents_did, Agent.id_departed, hroad, hrest, hcomplete]
      exact hm.called.depart
  | update => exact hm
  | @keep _ _ a kept _ hagent hdue h =>
      have hkept : kept.state = .enRoute ∧ kept.id = a.id := by
        rw [h.eq]
        exact ⟨h.state, rfl⟩
      exact hm.of_enRoute hagent h.state hkept.1 hkept.2 []
  | @cross _ _ a _ l _ _ _ hagent h hleave henter =>
      exact hm.of_enRoute hagent h.state (b := a.crossed l) h.state rfl []
  | @arrive _ t a _ _ next _ hagent h hleave =>
      have helement : 0 < a.landed.element := Nat.succ_pos _
      have hroad := a.landed.isEnRoute_startActivity next now
      rcases hm.off_road hagent h.state hroad with ⟨hbalanced, hrest, hcomplete⟩
      unfold Moment.Balanced
      simp only [Traffic.agents_settle, Traffic.agents_did, Agent.id_startActivity,
        Agent.id_landed, hrest, hcomplete]
      exact Traffic.balanced_startActivity hbalanced.arrive helement rfl rfl
  | @fail _ t a r reason _ hagent hdue h hleave =>
      have hreason : reason ≠ .missingRoute := h.onRoute.continuation_spec h.choice
      have hroad : (a.evicted reason).isEnRoute = false := rfl
      rcases hm.off_road hagent h.state hroad with ⟨hbalanced, hrest, hcomplete⟩
      unfold Moment.Balanced
      simp only [Traffic.agents_did, Agent.id_evicted, hrest, hcomplete]
      exact hbalanced.fail hreason
  | @replan _ _ a _ _ _ plan hagent hreplanner h =>
      have hsame := hm.of_enRoute hagent h.state
        (b := { a with plan, memo := {}, lastReplan := now }) h.state rfl []
      exact ⟨hsame.agents, hsame.reasons, hsame.completed, hsame.travels, hsame.living⟩

/-! ## After whole steps -/

/-- At the end of a step the vehicles on the roads are counted. -/
theorem Traffic.inTraffic_step {t t' : Traffic} {net : Network} {now : Time}
    (h : t.step net now = .ok t') : t'.stats.inTraffic = t'.queues.traffic := by
  rw [Traffic.step_eq] at h
  cases hserved : t.afterNodes net now with
  | error e =>
      rw [hserved] at h
      cases h
  | ok served =>
      rw [hserved, Except.bind] at h
      cases hdone : served.replanAgents net now with
      | error e =>
          rw [hdone] at h
          cases h
      | ok done =>
          rw [hdone] at h
          cases h
          rfl

/-- The number in traffic is the number of vehicles after every step. -/
theorem Simulation.inTraffic_step {s t : Simulation} (h : s.step = .ok t) :
    t.traffic.stats.inTraffic = t.traffic.queues.traffic := by
  rcases s with ⟨config, network, clock, traffic⟩
  rw [step] at h
  cases hstep : traffic.step network clock.now with
  | error e =>
      rw [hstep] at h
      cases h
  | ok u =>
      rw [hstep] at h
      cases h
      exact Traffic.inTraffic_step hstep

/-- The counts of a simulation in which so many agents were scheduled at the start and these events
were dispatched. -/
structure Traffic.Balances (scheduled : Nat) (events : List Event) (t : Traffic) : Prop where
  agents : t.stats.living + t.stats.completed + t.stats.lost = scheduled
  reasons : t.stats.lost = t.stats.lostBecause.because .missingRoute +
    t.stats.lostBecause.because .inconsistentDestination +
    t.stats.lostBecause.because .routeOverrun
  departures : t.stats.departures = events.countP fun e => e.kind.isDeparture
  arrivals : t.stats.arrivals = events.countP fun e => e.kind.isArrival
  lost : t.stats.lost = events.countP fun e => e.kind.isStuck
  replans : t.stats.replans = events.countP fun e => e.kind.isReplan
  events : t.stats.events = events.length
  completed : t.stats.completed = t.agents.countP fun a => a.state = .removed .completed
  inTraffic : t.stats.inTraffic = t.agents.countP fun a => a.state = .enRoute
  /-- Who departed has arrived, is on the way or was lost there. -/
  travels : t.stats.departures = t.stats.arrivals + t.stats.inTraffic +
    t.stats.lostBecause.because .inconsistentDestination +
    t.stats.lostBecause.because .routeOverrun
  /-- Who is living is scheduled, on the way or at rest after a leg. -/
  living : t.stats.living = t.endQueue.length + t.stats.inTraffic +
    t.agents.countP fun a => a.state = .atActivity ∧ 0 < a.element ∧ a.departure = .never

namespace Simulation

variable {s : Simulation}

/-- All moments of a run count what has been told. -/
theorem Passes.counted {n : Nat} {m : Moment} (hs : s.first.Sound s.network)
    (hinitial : s.traffic.Initial) (h : s.Passes n m) : m.Counted := by
  refine h.invariant (P := fun _ m => m.Counted) hs ?_ (fun n m m' _ hm => hm.move) ?_
  · have hstats : s.first.traffic.stats = { living := s.traffic.endQueue.length } :=
      hinitial.stats
    constructor
    · rw [hstats]
      rfl
    · rw [hstats]
      rfl
  · intro n past t hm
    constructor
    · rw [log_next]
      exact hm.happened
    · rw [List.length_append, Array.length_toList]
      exact congrArg (· + t.emitted.size) hm.events

/-- All moments of a run are balanced. -/
theorem Passes.balanced {n : Nat} {m : Moment} (hs : s.first.Sound s.network)
    (hinitial : s.traffic.Initial) (h : s.Passes n m) :
    m.Balanced s.traffic.endQueue.length := by
  refine h.invariant (P := fun _ m => m.Balanced s.traffic.endQueue.length) hs ?_
    (fun n m m' hsound hm => hm.move hsound.listed) ?_
  · have hwaiting : ∀ a ∈ s.first.traffic.agents, a.state = .atActivity ∧ a.element = 0 := by
      intro a ha
      rcases Array.mem_iff_getElem?.1 ha with ⟨i, hi⟩
      exact hinitial.waiting i a hi
    have hroad : s.first.traffic.agents.countP Agent.isEnRoute = 0 := by
      apply Array.countP_eq_zero.2
      intro a ha
      simp [Agent.isEnRoute, (hwaiting a ha).1]
    have hrest : s.first.traffic.agents.countP Agent.isResting = 0 := by
      apply Array.countP_eq_zero.2
      intro a ha
      simp [Agent.isResting, (hwaiting a ha).2]
    have hcomplete : s.first.traffic.agents.countP Agent.isComplete = 0 := by
      apply Array.countP_eq_zero.2
      intro a ha
      simp [Agent.isComplete, (hwaiting a ha).1]
    have hstats : s.first.traffic.stats = { living := s.traffic.endQueue.length } :=
      hinitial.stats
    unfold Moment.Balanced
    rw [hroad, hrest, hcomplete, hstats]
    exact ⟨rfl, rfl, rfl, rfl, (Nat.zero_add _).symm⟩
  · intro n past t hm
    exact ⟨hm.agents, hm.reasons, hm.completed, hm.travels, hm.living⟩

/-- After whole steps the vehicles on the roads are counted. -/
theorem inTraffic_history {t : Simulation} {n : Nat} (hinitial : s.traffic.Initial)
    (h : s.history n = .ok t) : t.traffic.stats.inTraffic = t.traffic.queues.traffic := by
  cases n with
  | zero =>
      cases h
      rw [QueueNetwork.traffic_eq_length, hinitial.empty, hinitial.stats]
      rfl
  | succ n =>
      rw [history] at h
      cases hbefore : s.history n with
      | error e =>
          rw [hbefore] at h
          cases h
      | ok u =>
          rw [hbefore] at h
          exact inTraffic_step h

/-- After any number of steps the counts agree with the agents, the schedule and the events that
have been dispatched. -/
theorem balanced_counts {c : Config} {net : Network} {people : Population}
    {replanner : Option Replanner} {strategy : Option (AgentId → Person → Strategy)}
    (h : build c net people replanner strategy = .ok s) (n : Nat) :
    ∃ r, s.recorded n = .ok r ∧ s.history n = .ok r.simulation ∧
      r.bus.dispatched = r.listeners.events.size ∧
      r.simulation.traffic.Balances s.traffic.endQueue.length r.listeners.events.toList := by
  have hs := sound_first h
  have hinitial := initial_traffic h
  rcases exists_recorded hs n with ⟨r, hrecorded, hr⟩
  have hcounted := hr.passes.counted hs hinitial
  have hbalanced := hr.passes.balanced hs hinitial
  have hhappened := hcounted.happened
  rw [log_clearEvents] at hhappened
  have htraffic : r.simulation.traffic.stats.inTraffic =
      r.simulation.traffic.agents.countP Agent.isEnRoute := by
    rw [inTraffic_history hinitial hr.history, QueueNetwork.traffic_eq_length]
    exact (hr.sound hs).length_vehicles
  refine ⟨r, hrecorded, hr.history, hr.dispatched, hbalanced.agents,
    hbalanced.reasons.trans (Losses.total_eq _), congrArg Happened.departures hhappened,
    congrArg Happened.arrivals hhappened, congrArg Happened.lost hhappened,
    congrArg Happened.replans hhappened, hcounted.events, hbalanced.completed, htraffic, ?_, ?_⟩
  · rw [htraffic]
    exact hbalanced.travels
  · rw [htraffic]
    have hliving := hbalanced.living
    rw [List.length_nil, Nat.zero_add] at hliving
    exact hliving

/-- The commuter is counted, also after a day on which the way home is missing. -/
theorem balanced_counts_commuter :
    build {} Commuter.net Commuter.people (some Commuter.replanner) none =
        .ok Commuter.simulation ∧
      ∃ r, Commuter.simulation.recorded 40000 = .ok r ∧
        Commuter.simulation.history 40000 = .ok r.simulation ∧
        r.bus.dispatched = r.listeners.events.size ∧
        r.simulation.traffic.Balances Commuter.simulation.traffic.endQueue.length
          r.listeners.events.toList :=
  ⟨Commuter.build_simulation, balanced_counts Commuter.build_simulation 40000⟩

end Simulation

end TrafficQueue
