import Mathlib.Order.Bounds.Basic
import TrafficQueue.Proofs.Simulation.Ending
import TrafficQueue.Proofs.Simulation.Narrative
import TrafficQueue.Proofs.Simulation.Places
import TrafficQueue.Proofs.Simulation.Scheduling
import TrafficQueue.Proofs.Simulation.Stream

/-!
# Activities end in time

Whoever stays at an activity leaves it in the first step that is not before the time of leaving.  As
those who are due are called at the beginning of a step, an activity that starts in a step does not
end in the same one, even if it takes no time.

Main results:

- Theorem `Simulation.Passes.attends`: at every moment the agents know when to leave.
- Definition `Stay`: an activity that has started goes on, or it has ended in its step.
- Theorem `Stay.step`: a step keeps to that.
- Theorem `Simulation.left_in_time`: when activities end, and in which order those of one step do.
-/

namespace TrafficQueue

/-! ## What an agent attends to -/

/-- An agent with the events that tell of it knows where it is in its plan and when to leave. -/
structure Agent.Attends (net : Network) (start : Time) (p : Plan) (a : Agent) (es : List Event) :
    Prop where
  agrees : p.Agrees a.plan
  tells : a.Tells net p es
  leaves : a.Leaves start p es
  settled : a.Settled p es

section Attending

variable {net : Network} {replanner : Option Replanner} {start now : Time} {p : Plan} {a b : Agent}
  {es events : List Event} {act : Activity} {t : Time}

/-- A deed of the agent keeps the account of when its activities start and end. -/
theorem Deed.attends (h : Deed net replanner now a events b) (hcoherent : a.Coherent net)
    (ha : a.Attends net start p es) : b.Attends net start p (es ++ events) :=
  ⟨h.agrees ha.agrees, h.tells hcoherent ha.agrees ha.tells, h.leaves ha.agrees,
    h.settled ha.agrees ha.tells ha.settled⟩

namespace Agent.Attends

/-- At an activity, as many activities have started as come before it in the plan. -/
theorem element_eq (h : a.Attends net start p es) (hstate : a.state = .atActivity) :
    2 * startsOf es = a.element :=
  (h.tells.atActivity hstate).1.startsOf_eq

/-- Who is at an activity leaves it at the time that follows from its start. -/
theorem departure_eq (h : a.Attends net start p es) (hstate : a.state = .atActivity)
    (hact : p.activity? (2 * startsOf es) = some act)
    (htime : startTime start es (startsOf es) = some t) : a.departure = act.departure t := by
  rw [h.element_eq hstate] at hact
  rcases h.leaves hstate act hact with ⟨t', htime', hdeparture⟩
  cases htime.symm.trans htime'
  exact hdeparture

/-- Who is at an activity that a leg follows is called when it is time to leave. -/
theorem isCalled_iff (h : a.Attends net start p es) (hstate : a.state = .atActivity)
    (hact : p.activity? (2 * startsOf es) = some act) {mode : Mode}
    (hmode : p.modeAt (2 * startsOf es + 1) = some mode)
    (htime : startTime start es (startsOf es) = some t) (now : Time) :
    a.IsCalled now ↔ act.departure t ≠ .never ∧ act.departure t ≤ now := by
  rw [h.element_eq hstate, ← h.agrees.mode] at hmode
  have hlt := Plan.lt_of_modeAt hmode
  simp [IsCalled, awaits, hstate, hlt, h.departure_eq hstate hact htime]

end Agent.Attends

end Attending

/-! ## Stays -/

/-- The clock has reached the time of leaving in a step, and an activity that has started meanwhile
does not end in the step of its start. -/
def Clock.Reaches (clock : Clock) (i : Nat) (start leave : Time) (k : Nat) : Prop :=
  leave ≤ (clock.advanceBy k).now ∧ (0 < i → start < (clock.advanceBy k).now)

/-- After so many steps the activity of a number, which started at some time, is the last that was
told of, and no step was the one in which it ends. -/
structure Ongoing (clock : Clock) (i : Nat) (act : Activity) (start : Time) (n : Nat)
    (es : List Event) : Prop where
  count : startsOf es = i
  last : ∀ e, es.getLast? = some e → e.kind.isActivityStart = true
  ends : endsOf i es = []
  waits : act.departure start ≠ .never →
    ∀ k < n, ¬ clock.Reaches i start (act.departure start) k

/-- After so many steps an activity that has started goes on, or it has ended in the first step that
was late enough. -/
inductive Stay (clock : Clock) (id : AgentId) (i : Nat) (act : Activity) (start : Time) (n : Nat)
    (es : List Event) : Prop where
  | ongoing (h : Ongoing clock i act start n es) : Stay clock id i act start n es
  | ended {k} (hk : k < n) (hsome : act.departure start ≠ .never)
      (hleast : IsLeast {k | clock.Reaches i start (act.departure start) k} k)
      (hends : endsOf i es = [⟨(clock.advanceBy k).now, id, act.link, .activityEnd act.kind⟩]) :
      Stay clock id i act start n es

namespace Stay

variable {clock : Clock} {net : Network} {id : AgentId} {i n k : Nat} {act : Activity}
  {first start : Time} {p : Plan} {a b : Agent} {es events : List Event}

/-- An activity that nobody leaves does not end. -/
theorem endsOf_of_never (h : Stay clock id i act start n es)
    (hnever : act.departure start = .never) : endsOf i es = [] := by
  cases h with
  | ongoing h => exact h.ends
  | ended hk hsome hleast hends => exact absurd hnever hsome

/-- Any other activity ends in the first step that is late enough, once that is over. -/
theorem endsOf_of_least (h : Stay clock id i act start n es) (hsome : act.departure start ≠ .never)
    (hk : IsLeast {k | clock.Reaches i start (act.departure start) k} k) :
    endsOf i es =
      if k < n then [⟨(clock.advanceBy k).now, id, act.link, .activityEnd act.kind⟩] else [] := by
  cases h with
  | ongoing h => rw [if_neg fun hlt => h.waits hsome k hlt hk.1, h.ends]
  | ended hlt hsome hleast hends =>
    cases hleast.unique hk
    rw [if_pos hlt, hends]

/-- An activity that starts in a step is not over after it. -/
theorem of_start (hlt : startsOf es < i) (hlast : StartsLast events)
    (htimes : ∀ e ∈ events, e.time = (clock.advanceBy n).now)
    (htime : startTime first (es ++ events) i = some start) :
    Stay clock id i act start (n + 1) (es ++ events) := by
  have hle := le_startsOf htime
  rw [startsOf_append] at hle
  rcases hlast with hnone | ⟨before, e, rfl, hstart, hnone⟩
  · omega
  · rw [startsOf_concat hstart, hnone] at hle
    rw [← List.append_assoc] at htime ⊢
    have hcount : startsOf (es ++ before) = startsOf es := by rw [startsOf_append, hnone]; rfl
    have hi : startsOf (es ++ before) + 1 = i := by omega
    subst hi
    rw [startTime_concat hstart, htimes e (by simp)] at htime
    cases htime
    refine .ongoing ⟨startsOf_concat hstart _, fun f hf => ?_, ?_, fun _ k hk hreaches => ?_⟩
    · rw [List.getLast?_concat] at hf
      cases hf
      exact hstart
    · rw [← startsOf_concat hstart]
      exact endsOf_concat hstart _
    · exact Nat.not_lt_of_le (clock.now_mono (Nat.le_of_lt_succ hk)) (hreaches.2 (Nat.succ_pos _))

section Step

variable {mode : Mode} (hattends : a.Attends net first p es)
  (hspends : a.Spends net (clock.advanceBy n).now (a.IsCalled (clock.advanceBy n).now) events b)

include hattends hspends

/-- A step does not end an activity again. -/
theorem endsOf_append_of_ends (hends : endsOf i es ≠ []) (hle : i ≤ startsOf es) :
    endsOf i (es ++ events) = endsOf i es := by
  rcases Nat.lt_or_eq_of_le hle with hlt | rfl
  · exact endsOf_append_of_lt hlt events
  · have hnot : ¬ a.IsCalled (clock.advanceBy n).now := by
      intro hcalled
      have hstate := (hspends.leaves hcalled).1
      exact hends (hattends.tells.atActivity hstate).1.endsOf_eq_nil
    rw [endsOf_append_self rfl, endsOf_eq_nil (hspends.no_end hnot), List.append_nil]

/-- Who is called tells of the end of the activity that goes on. -/
theorem endsOf_of_called (hcalled : a.IsCalled (clock.advanceBy n).now)
    (hact : p.activity? (2 * startsOf es) = some act) :
    endsOf (startsOf es) (es ++ events) =
      endsOf (startsOf es) es ++
        [⟨(clock.advanceBy n).now, a.id, act.link, .activityEnd act.kind⟩] := by
  have hstate := (hspends.leaves hcalled).1
  rcases hspends.ends hcalled with ⟨act', rest, hact', rfl, hrest⟩
  rcases hattends.tells.activity hattends.agrees hstate hact' with ⟨-, hown, hlink⟩
  rw [hattends.element_eq hstate] at hact
  cases hact.symm.trans hown
  rw [endsOf_append_self rfl, endsOf, if_neg (by simp [Agent.event, EventKind.isActivityStart]),
    if_pos ⟨rfl, rfl⟩, endsOf_eq_nil hrest, hlink]
  rfl

variable (hstep : 1 ≤ clock.stepSecs.toNat) (hact : p.activity? (2 * i) = some act)
  (hmode : p.modeAt (2 * i + 1) = some mode)
  (hbefore : ∀ e ∈ es, ∃ k < n, e.time = (clock.advanceBy k).now)

include hstep hact hmode hbefore

/-- An activity that goes on ends in a step that is late enough, and goes on in any other. -/
theorem step_of_ongoing (h : Ongoing clock i act start n es)
    (htime : startTime first es i = some start) :
    Stay clock a.id i act start (n + 1) (es ++ events) := by
  rcases h with ⟨rfl, hlast, hends, hwaits⟩
  have hstate := hattends.settled hlast ⟨mode, hmode⟩
  have hiff := hattends.isCalled_iff hstate hact hmode htime (clock.advanceBy n).now
  by_cases hcalled : a.IsCalled (clock.advanceBy n).now
  · rcases hiff.1 hcalled with ⟨hsome, hle⟩
    -- the activity started in an earlier step, and before the end of time the clock goes on
    have hlater : 0 < startsOf es → start < (clock.advanceBy n).now := by
      intro hpos
      have hnever : start < .never :=
        Nat.lt_of_le_of_lt (act.le_departure start) (Time.lt_never hsome)
      rw [← Nat.succ_pred_eq_of_pos hpos] at htime
      rcases exists_of_startTime htime with ⟨e, he, rfl⟩
      rcases hbefore e he with ⟨k, hk, hk'⟩
      rw [hk'] at hnever ⊢
      have hnext : (clock.advanceBy k).now < (clock.advanceBy (k + 1)).now := by
        rw [Clock.advanceBy_succ, Clock.now_advance]
        exact Time.lt_offset hnever ((clock.secs_now_advanceBy k).2 ▸ hstep)
      exact Nat.lt_of_lt_of_le hnext (clock.now_mono hk)
    refine .ended (Nat.lt_succ_self n) hsome ⟨⟨hle, hlater⟩, fun k hk => ?_⟩ ?_
    · exact Nat.le_of_not_lt fun hlt => hwaits hsome k hlt hk
    · rw [endsOf_of_called hattends hspends hcalled hact, hends, List.nil_append]
  · rcases (hspends.stays hcalled).eq_of_ne (by simp [hstate]) with ⟨rfl, rfl⟩
    rw [List.append_nil]
    refine .ongoing ⟨rfl, hlast, hends, fun hsome k hk hreaches => ?_⟩
    rcases Nat.lt_or_eq_of_le (Nat.le_of_lt_succ hk) with hlt | rfl
    · exact hwaits hsome k hlt hreaches
    · exact hcalled (hiff.2 ⟨hsome, hreaches.1⟩)

/-- What a step does to an activity that has started before or starts in it. -/
theorem step (htimes : ∀ e ∈ events, e.time = (clock.advanceBy n).now)
    (h : startTime first es i = some start → Stay clock a.id i act start n es)
    (htime : startTime first (es ++ events) i = some start) :
    Stay clock a.id i act start (n + 1) (es ++ events) := by
  by_cases hstarted : i ≤ startsOf es
  · rw [startTime_append hstarted] at htime
    cases h htime with
    | ongoing h => exact step_of_ongoing hattends hspends hstep hact hmode hbefore h htime
    | ended hk hsome hleast hends =>
      refine .ended (Nat.lt_succ_of_lt hk) hsome hleast ?_
      rw [endsOf_append_of_ends hattends hspends (by simp [hends]) hstarted, hends]
  · exact of_start (Nat.lt_of_not_le hstarted) hspends.startsLast htimes htime

end Step

end Stay

/-! ## After every step -/

/-- The time at which an agent leaves the last activity that has started, as the events tell. -/
def departureOf (people : Population) (start : Time) (log : List Event) (id : AgentId) :
    Option Time :=
  let es := log.filter fun e => e.agent = id
  (people.person? id).bind fun person => (person.plan.activity? (2 * startsOf es)).bind fun act =>
    (startTime start es (startsOf es)).map act.departure

/-- An agent leaves at an earlier time, or at the same time and was scheduled first. -/
def LeavesBefore (people : Population) (start : Time) (log : List Event) (a b : AgentId) : Prop :=
  ∃ d d', departureOf people start log a = some d ∧ departureOf people start log b = some d' ∧
    (d < d' ∨ d = d' ∧ ScheduledBefore log a b)

namespace Simulation

variable {s : Simulation} {c : Config} {net : Network} {people : Population}
  {replanner : Option Replanner} {strategy : Option (AgentId → Person → Strategy)} {n : Nat}
  {m : Moment}

/-- At the start everybody is at the first activity. -/
theorem attends_first (h : build c net people replanner strategy = .ok s) {id : AgentId} {a : Agent}
    (ha : s.first.traffic.agent? id = some a) :
    ∃ person, people.person? id = some person ∧
      a.Attends s.network c.startTime person.plan (s.first.eventsOf id) := by
  rcases tells_first h ha with ⟨person, hperson, hagrees, htells⟩
  rcases (initial_traffic h).waiting id.index a ha with ⟨hstate, helement⟩
  refine ⟨person, hperson, hagrees, htells, ?_, fun _ _ => hstate⟩
  intro _ act hact
  refine ⟨c.startTime, rfl, ?_⟩
  rw [helement, ← hagrees.activity] at hact
  rcases build_eq_ok_iff.1 h with ⟨-, -, rfl⟩
  rw [first, Traffic.agent?, Traffic.clearEvents, (agents_initialTraffic _ _ _ _).1,
    Array.getElem?_map] at ha
  rcases Option.map_eq_some_iff.1 ha with ⟨b, -, rfl⟩
  unfold Agent.schedule at hact ⊢
  cases hfirst : b.plan.activity? 0 with
  | none =>
    rw [hfirst] at hact
    cases hfirst.symm.trans hact
  | some first =>
    rw [hfirst] at hact
    cases hfirst.symm.trans hact
    rfl

/-- At every moment the agents know where they are in their plans and when to leave. -/
theorem Passes.attends (h : build c net people replanner strategy = .ok s) (hpass : s.Passes n m) :
    ∀ id a, m.traffic.agent? id = some a → ∃ person, people.person? id = some person ∧
      a.Attends s.network c.startTime person.plan (m.eventsOf id) := by
  refine hpass.invariant
    (P := fun _ m => ∀ id a, m.traffic.agent? id = some a →
      ∃ person, people.person? id = some person ∧
        a.Attends s.network c.startTime person.plan (m.eventsOf id)) (sound_first h) ?_ ?_ ?_
  · exact fun id a ha => attends_first h ha
  · intro n m m' hm hattends hmove id b hb
    rcases hmove.of_agent hb with ⟨a, events, ha, hevents, ⟨rfl, rfl⟩ | hdeed⟩
    · rw [hevents, List.append_nil]
      exact hattends id _ ha
    · rcases hattends id a ha with ⟨person, hperson, ha'⟩
      rw [hevents]
      exact ⟨person, hperson, hdeed.attends (hm.coherent id.index a ha) ha'⟩
  · intro n past t hattends id a ha
    rw [Moment.eventsOf, log_next]
    exact hattends id a ha

/-- Nobody goes missing. -/
theorem Passes.exists_agent (h : build c net people replanner strategy = .ok s)
    (hpass : s.Passes n m) {id : AgentId} {person : Person}
    (hperson : people.person? id = some person) : ∃ a, m.traffic.agent? id = some a := by
  have hsize := hpass.size_agents (sound_first h)
  rcases build_eq_ok_iff.1 h with ⟨-, -, rfl⟩
  rw [size_initialTraffic, Population.size_agents] at hsize
  have hlt : id.index < people.size := (Array.getElem?_eq_some_iff.1 hperson).1
  exact ⟨_, Array.getElem?_eq_getElem (hsize ▸ hlt)⟩

/-- The events of an agent in so many steps. -/
def storyOf (s : Simulation) (n : Nat) (id : AgentId) : List Event :=
  (s.stream n).filter fun e => e.agent = id

/-- The story of an agent goes on with its events of the step. -/
theorem storyOf_succ {t : Simulation} (ht : s.history (n + 1) = .ok t) (id : AgentId) :
    s.storyOf (n + 1) id = s.storyOf n id ++ t.events.filter fun e => e.agent = id := by
  rw [storyOf, stream_succ ht, List.filter_append]
  rfl

/-- In a step those leave their activities who are called, in the order in which they stand in the
queue, and all others go on. -/
theorem exists_spends (hs : s.first.Sound s.network) (n : Nat) :
    ∃ t t', s.history n = .ok t ∧ s.history (n + 1) = .ok t' ∧
      s.Passes n ⟨s.stream n, [], t.traffic.clearEvents⟩ ∧
      (∀ id b, t'.traffic.agent? id = some b → ∃ a, t.traffic.agent? id = some a ∧
        a.Spends s.network (s.clock.advanceBy n).now (a.IsCalled (s.clock.advanceBy n).now)
          (t'.events.filter fun e => e.agent = id) b) ∧
      t'.events.filter (fun e => e.kind.isActivityEnd) =
        (t.traffic.endQueue.entries.takeWhile fun e => e.1 ≤ (s.clock.advanceBy n).now).filterMap
          fun e => t.traffic.endOf (s.clock.advanceBy n).now e.2 := by
  rcases exists_recorded hs n with ⟨r, -, hr⟩
  rcases (hr.passes.sound hs).step_spends (s.clock.advanceBy n).now with ⟨u, hu, -, hspends, hends⟩
  refine ⟨r.simulation, _, hr.history, history_succ_of_step hr.history hu, hr.stream ▸ hr.passes,
    fun id b hb => ?_, hends⟩
  rcases hspends id b hb with ⟨a, events, ha, hevents, hspends⟩
  rw [Moment.eventsOf, Moment.eventsOf, log_clearEvents, Moment.log, List.filter_append] at hevents
  exact ⟨a, ha, List.append_cancel_left hevents ▸ hspends⟩

/-- After every step each activity that has started goes on, or it has ended in its step. -/
theorem stays (h : build c net people replanner strategy = .ok s) (n : Nat) {id : AgentId}
    {person : Person} (hperson : people.person? id = some person) {i : Nat} {act : Activity}
    {mode : Mode} (hact : person.plan.activity? (2 * i) = some act)
    (hmode : person.plan.modeAt (2 * i + 1) = some mode) {start : Time}
    (htime : startTime c.startTime (s.storyOf n id) i = some start) :
    Stay s.clock id i act start n (s.storyOf n id) := by
  have hs := sound_first h
  induction n with
  | zero =>
    have hi : i = 0 := Nat.le_zero.1 (le_startsOf htime)
    subst hi
    have hlast : ∀ e, ([] : List Event).getLast? = some e → e.kind.isActivityStart = true := by simp
    exact .ongoing ⟨rfl, hlast, rfl, fun _ k hk => absurd hk (Nat.not_lt_zero k)⟩
  | succ n ih =>
    rcases exists_spends hs n with ⟨t, t', -, ht', hpass, hspends, -⟩
    rcases exists_recorded hs (n + 1) with ⟨r, -, hr⟩
    cases hr.history.symm.trans ht'
    rcases hr.passes.exists_agent h hperson with ⟨b, hb⟩
    rcases hspends id b hb with ⟨a, ha, hspends⟩
    rcases hpass.attends h id a ha with ⟨person', hperson', hattends⟩
    cases hperson.symm.trans hperson'
    rw [Moment.eventsOf, log_clearEvents] at hattends
    have hid : a.id = id := (hpass.sound hs).id_eq ha
    subst hid
    rw [storyOf_succ ht'] at htime ⊢
    refine Stay.step hattends hspends (one_le_stepSecs h) hact hmode ?_ ?_ ih htime
    · exact fun e he => time_of_mem_stream hs (List.mem_filter.1 he).1
    · exact fun e he => time_of_mem_events hs ht' (List.mem_filter.1 he).1

/-- Whoever is scheduled leaves at the time that follows from the events. -/
theorem departureOf_eq {t : Traffic} (h : build c net people replanner strategy = .ok s)
    {log : List Event} (hpass : s.Passes n ⟨log, [], t.clearEvents⟩) {e : Time × AgentId}
    (he : e ∈ t.endQueue.entries) : departureOf people c.startTime log e.2 = some e.1 := by
  have hm := hpass.sound (sound_first h)
  rcases Claimed.exists_of_pos hm.listed (List.count_pos_iff.2 he) with ⟨a, ha, hawaits⟩
  rcases hpass.attends h e.2 a ha with ⟨person, hperson, hattends⟩
  rw [Moment.eventsOf, log_clearEvents] at hattends
  have hdeparture := Agent.departure_of_awaits hawaits
  simp only [Agent.awaits, decide_eq_true_eq] at hawaits
  have hstate := hawaits.1
  rcases Plan.linkAt_eq_some_iff.1 (hattends.tells.atActivity hstate).2 with ⟨act, hact, -⟩
  rcases hattends.leaves hstate act hact with ⟨start, hstart, hleave⟩
  simp only [departureOf, hperson, Option.bind_some, hattends.element_eq hstate, hact, hstart,
    Option.map_some, ← hleave, hdeparture]

/-- Those who leave in a step leave in the order of their times, and for equal times in the order in
which they were scheduled. -/
theorem pairwise_ends (h : build c net people replanner strategy = .ok s) {t : Simulation}
    (ht : s.history (n + 1) = .ok t) :
    (t.events.filter fun e => e.kind.isActivityEnd).Pairwise fun e f =>
      LeavesBefore people c.startTime (s.stream n) e.agent f.agent := by
  have hs := sound_first h
  rcases exists_spends hs n with ⟨t₀, t', -, ht', hpass, -, hends⟩
  cases ht.symm.trans ht'
  have hown : ∀ (id : AgentId) e, t₀.traffic.endOf (s.clock.advanceBy n).now id = some e →
      e.agent = id := by
    intro id e he
    rcases Option.bind_eq_some_iff.1 he with ⟨a, ha, he⟩
    rcases Option.map_eq_some_iff.1 he with ⟨act, -, rfl⟩
    exact (hpass.sound hs).id_eq ha
  have horder := hpass.inOrder h
  rw [Moment.InOrder, log_clearEvents] at horder
  rw [hends, List.pairwise_filterMap]
  refine (horder.sublist (List.takeWhile_sublist _)).imp_of_mem fun {e f} he hf hturn => ?_
  intro e' he' f' hf'
  rw [hown _ _ he', hown _ _ hf']
  exact ⟨e.1, f.1, departureOf_eq h hpass (List.takeWhile_subset _ he),
    departureOf_eq h hpass (List.takeWhile_subset _ hf), hturn⟩

/-- In any number of steps, an activity that a leg follows ends once at most.  It never ends if
nobody leaves it, and else in the first step that is not before the time of leaving and, if it is
not the first activity, later than its start; so it has ended if that step was made.  In every step
the activities end in the order of their times, and those of one time in the order in which they
were scheduled. -/
theorem left_in_time (h : build c net people replanner strategy = .ok s) (n : Nat) :
    ∃ r t, s.recorded n = .ok r ∧ r.listeners.events.toList = s.stream n ∧
      s.history (n + 1) = .ok t ∧
      (∀ id person i act leg start, people.person? id = some person →
        person.plan.activity? (2 * i) = some act → person.plan.leg? (2 * i + 1) = some leg →
        startTime c.startTime (r.listeners.ofAgent id) i = some start →
        (act.departure start = .never → endsOf i (r.listeners.ofAgent id) = []) ∧
        ∀ k, act.departure start ≠ .never →
          IsLeast {k | act.departure start ≤ (s.clock.advanceBy k).now ∧
            (0 < i → start < (s.clock.advanceBy k).now)} k →
          endsOf i (r.listeners.ofAgent id) =
            if k < n then [⟨(s.clock.advanceBy k).now, id, act.link, .activityEnd act.kind⟩]
            else []) ∧
      (t.events.filter fun e => e.kind.isActivityEnd).Pairwise fun e f =>
        LeavesBefore people c.startTime (s.stream n) e.agent f.agent := by
  have hs := sound_first h
  rcases exists_recorded hs n with ⟨r, hrecorded, hr⟩
  rcases exists_recorded hs (n + 1) with ⟨next, -, hnext⟩
  refine ⟨r, next.simulation, hrecorded, hr.stream, hnext.history, ?_,
    pairwise_ends h hnext.history⟩
  intro id person i act leg start hperson hact hleg htime
  have hstory : r.listeners.ofAgent id = s.storyOf n id := by
    rw [← eventsOf_recorded, Moment.eventsOf, log_clearEvents, hr.stream]
    rfl
  rw [hstory] at htime ⊢
  have hmode : person.plan.modeAt (2 * i + 1) = some leg.mode := by
    rw [Plan.modeAt, hleg, Option.map_some]
  have hstay := stays h n hperson hact hmode htime
  exact ⟨hstay.endsOf_of_never, fun k => hstay.endsOf_of_least⟩

/-- Two early commuters leave home in the first step, in their order. -/
theorem left_in_time_jam :
    build {} Commuter.net Commuter.pair none none = .ok Commuter.jam ∧
      (∃ r, Commuter.jam.recorded 1 = .ok r ∧
        endsOf 0 (r.listeners.ofAgent ⟨0⟩) = [⟨.zero, ⟨0⟩, ⟨0⟩, .activityEnd "home"⟩] ∧
        endsOf 0 (r.listeners.ofAgent ⟨1⟩) = [⟨.zero, ⟨1⟩, ⟨0⟩, .activityEnd "home"⟩]) ∧
      ∃ t, Commuter.jam.history 1 = .ok t ∧
        (t.events.filter fun e => e.kind.isActivityEnd).Pairwise fun e f =>
          LeavesBefore Commuter.pair .zero [] e.agent f.agent := by
  rcases left_in_time Commuter.build_jam 1 with ⟨r, -, hr, -, -, hends, -⟩
  rcases left_in_time Commuter.build_jam 0 with ⟨-, t, -, -, ht, -, horder⟩
  have hleast : IsLeast {k | Time.zero ≤ (Commuter.jam.clock.advanceBy k).now ∧
      (0 < 0 → Time.zero < (Commuter.jam.clock.advanceBy k).now)} 0 :=
    ⟨⟨by decide, fun h => absurd h (Nat.lt_irrefl 0)⟩, fun k _ => Nat.zero_le k⟩
  refine ⟨Commuter.build_jam, ⟨r, hr, ?_, ?_⟩, t, ht, horder⟩
  · exact (hends ⟨0⟩ _ 0 _ _ .zero rfl rfl rfl rfl).2 0 (by decide) hleast
  · exact (hends ⟨1⟩ _ 0 _ _ .zero rfl rfl rfl rfl).2 0 (by decide) hleast

end Simulation

end TrafficQueue
