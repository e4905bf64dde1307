import TrafficQueue.Proofs.Simulation.Calling
import TrafficQueue.Proofs.Simulation.Course

/-!
# The order in which agents are scheduled

An agent is scheduled when its activity starts: at the beginning in the order of the numbers, and
from then on with the event that tells of the start.  Whoever waits to leave stands in the queue in
the order of the times, and among those of one time in the order in which they were scheduled.

Main results:

- Definition `ScheduledBefore`: who was scheduled first, as the events tell.
- Theorem `Move.schedules`: what a move does to those who wait.
- Theorem `Simulation.Passes.inOrder`: at every moment those who wait stand in their order.
-/

namespace TrafficQueue

/-- What an agent waits for was scheduled before what another agent waits for: the activity of the
other one has started after all activities of the agent, or no activity of either has started since
the beginning. -/
def ScheduledBefore (log : List Event) (a b : AgentId) : Prop :=
  (∃ before e after, log = before ++ e :: after ∧ e.agent = b ∧ e.kind.isActivityStart = true ∧
    ∀ f ∈ e :: after, f.agent = a → f.kind.isActivityStart = false) ∨
  ((∀ f ∈ log, f.agent = a ∨ f.agent = b → f.kind.isActivityStart = false) ∧ a.index < b.index)

/-- An entry is earlier, or it is at the same time and comes first. -/
def InTurn (first : AgentId → AgentId → Prop) (e f : Time × AgentId) : Prop :=
  e.1 < f.1 ∨ e.1 = f.1 ∧ first e.2 f.2

section Order

variable {log events : List Event} {a b : AgentId} {first later : AgentId → AgentId → Prop}
  {e f : Time × AgentId}

/-- What others do changes nothing about who was scheduled first. -/
theorem ScheduledBefore.append (h : ScheduledBefore log a b)
    (hothers : ∀ f ∈ events, f.agent ≠ a ∧ f.agent ≠ b) : ScheduledBefore (log ++ events) a b := by
  rcases h with ⟨before, e, after, rfl, hb, hstart, hnone⟩ | ⟨hnone, hlt⟩
  · refine .inl ⟨before, e, after ++ events, by simp, hb, hstart, fun f hf hfa => ?_⟩
    rw [← List.cons_append] at hf
    rcases List.mem_append.1 hf with hf | hf
    · exact hnone f hf hfa
    · exact absurd hfa (hothers f hf).1
  · refine .inr ⟨fun f hf hagent => ?_, hlt⟩
    rcases List.mem_append.1 hf with hf | hf
    · exact hnone f hf hagent
    · exact absurd hagent (not_or.2 (hothers f hf))

/-- Whoever starts an activity now is scheduled behind all others. -/
theorem scheduledBefore_concat {e : Event} (hb : e.agent = b)
    (hstart : e.kind.isActivityStart = true) (hne : a ≠ b) (log : List Event) :
    ScheduledBefore (log ++ [e]) a b := by
  refine .inl ⟨log, e, [], rfl, hb, hstart, List.forall_mem_singleton.2 fun ha => ?_⟩
  exact absurd (ha.symm.trans hb) hne

/-- A weaker order is kept as well. -/
theorem InTurn.mono (h : InTurn first e f) (hmono : first e.2 f.2 → later e.2 f.2) :
    InTurn later e f :=
  h.imp_right fun ⟨htime, hfirst⟩ => ⟨htime, hmono hfirst⟩

end Order

/-! ## Moves -/

section Moves

variable {net : Network} {now : Time} {m m' : Moment}

/-- Who has been called, or is on its way, does not wait. -/
theorem Moment.Sound.not_waiting_of_called (hm : m.Sound net) {time : Time} {id : AgentId}
    {due : List (Time × AgentId)} (hdue : m.due = (time, id) :: due) :
    ∀ e ∈ m.traffic.endQueue.entries, e.2 ≠ id := by
  have hscheduled := hm.listed.pairwise_scheduled
  rw [Moment.scheduled, hdue] at hscheduled
  intro e he
  exact ((List.pairwise_cons.1 hscheduled).1 e (List.mem_append_right _ he)).symm

/-- Who is on the way is not scheduled. -/
theorem Moment.Sound.not_waiting_of_enRoute (hm : m.Sound net) {a : Agent}
    (hagent : m.traffic.agent? a.id = some a) (hstate : a.state = .enRoute) :
    ∀ e ∈ m.traffic.endQueue.entries, e.2 ≠ a.id := by
  intro e he hid
  have hawaits := (hm.listed.mem_scheduled_iff (hid ▸ hagent)).1 (List.mem_append_right _ he)
  rw [Agent.awaits_of_ne (by simp [hstate])] at hawaits
  cases hawaits

/-- What becomes of those who wait when an agent acts, who does not wait. -/
structure Schedules (net : Network) (now : Time) (m m' : Moment) (a : Agent) (events : List Event) :
    Prop where
  deed : ∃ b, Deed net m.traffic.replanner now a events b
  others : ∀ e ∈ m.traffic.endQueue.entries, e.2 ≠ a.id
  log : m'.log = m.log ++ events
  queue : m'.traffic.endQueue = m.traffic.endQueue ∨
    ∃ time before e, time ≠ .never ∧ m'.traffic.endQueue = (m.traffic.endQueue.push time a.id).2 ∧
      events = before ++ [e] ∧ e.kind.isActivityStart = true

/-- The events are those of the agent who acts. -/
theorem Schedules.own {a : Agent} {events : List Event} (h : Schedules net now m m' a events) :
    ∀ e ∈ events, e.agent = a.id := by
  rcases h.deed with ⟨b, hdeed⟩
  exact fun e he => (hdeed.mem_events e he).1

/-- Whoever is settled is scheduled or not. -/
theorem Traffic.endQueue_settle (id : AgentId) (transition : Transition) (t : Traffic) :
    (settle id transition t).endQueue = t.endQueue ∨
      ∃ time ≠ .never, (settle id transition t).endQueue = (t.endQueue.push time id).2 := by
  cases transition with
  | scheduled time =>
    by_cases hnever : time = .never
    · refine .inl ?_
      change (t.endQueue.push time id).2 = t.endQueue
      rw [hnever, EndQueue.push_never]
    · exact .inr ⟨time, hnever, rfl⟩
  | resting => exact .inl rfl
  | enRoute => exact .inl rfl
  | completed => exact .inl rfl
  | stuck => exact .inl rfl

/-- A move takes those who wait out of the queue or leaves them there, and schedules one agent at
most, which starts an activity at the end of what it does. -/
theorem Move.schedules (h : Move net now m m') (hm : m.Sound net) :
    (m'.log = m.log ∧ m'.traffic.endQueue.entries.Sublist m.traffic.endQueue.entries) ∨
      ∃ a events, Schedules net now m m' a events := by
  cases h with
  | @drain past t =>
    refine .inl ⟨rfl, ?_⟩
    rw [(EndQueue.entries_drain t.endQueue now).2]
    exact List.dropWhile_sublist _
  | update => exact .inl ⟨rfl, List.Sublist.refl _⟩
  | strand hagent h =>
    exact .inr ⟨_, _, ⟨_, .strand h⟩, hm.not_waiting_of_called rfl, by simp [Moment.log], .inl rfl⟩
  | @stay past time due t a act next mode r hagent h =>
    refine .inr ⟨_, _, ⟨_, .stay h⟩, hm.not_waiting_of_called rfl, by simp [Moment.log], ?_⟩
    rcases Traffic.endQueue_settle a.id (a.stayed.startActivity next now).answer _ with
      heq | ⟨time, hnever, heq⟩
    · exact .inl heq
    · exact .inr ⟨time, [_, _, _], _, hnever, heq, rfl, rfl⟩
  | depart hagent h =>
    exact .inr ⟨_, _, ⟨_, .depart h⟩, hm.not_waiting_of_called rfl, by simp [Moment.log], .inl rfl⟩
  | keep hagent hdue h =>
    exact .inr ⟨_, _, ⟨_, .keep h⟩, hm.not_waiting_of_enRoute hagent h.state, by simp [Moment.log],
      .inl rfl⟩
  | cross hagent h =>
    exact .inr ⟨_, _, ⟨_, .cross h⟩, hm.not_waiting_of_enRoute hagent h.state, by simp [Moment.log],
      .inl rfl⟩
  | @arrive past t a r mode next queues hagent h =>
    refine .inr ⟨_, _, ⟨_, .arrive h⟩, hm.not_waiting_of_enRoute hagent h.state,
      by simp [Moment.log], ?_⟩
    rcases Traffic.endQueue_settle a.id (a.landed.startActivity next now).answer _ with
      heq | ⟨time, hnever, heq⟩
    · exact .inl heq
    · exact .inr ⟨time, [_], _, hnever, heq, rfl, rfl⟩
  | fail hagent hdue h =>
    exact .inr ⟨_, _, ⟨_, .fail h⟩, hm.not_waiting_of_enRoute hagent h.state, by simp [Moment.log],
      .inl rfl⟩
  | replan hagent hreplanner h =>
    exact .inr ⟨_, _, ⟨_, .replan hreplanner h⟩, hm.not_waiting_of_enRoute hagent h.state,
      by simp [Moment.log], .inl rfl⟩

/-- Those who wait stand in their order. -/
def Moment.InOrder (m : Moment) : Prop :=
  m.traffic.endQueue.entries.Pairwise (InTurn (ScheduledBefore m.log))

/-- Every move leaves those who wait in their order. -/
theorem Move.inOrder (h : Move net now m m') (hm : m.Sound net) (horder : m.InOrder) :
    m'.InOrder := by
  unfold Moment.InOrder
  rcases h.schedules hm with ⟨hlog, hsub⟩ | ⟨a, events, h⟩
  · rw [hlog]
    exact horder.sublist hsub
  · have hold : m.traffic.endQueue.entries.Pairwise (InTurn (ScheduledBefore m'.log)) := by
      refine horder.imp_of_mem fun {e f} he hf hturn => hturn.mono fun hfirst => ?_
      rw [h.log]
      exact hfirst.append fun x hx =>
        ⟨fun heq => h.others e he (heq.symm.trans (h.own x hx)),
          fun heq => h.others f hf (heq.symm.trans (h.own x hx))⟩
    rcases h.queue with heq | ⟨time, before, e, hnever, heq, hevents, hstart⟩
    · rw [heq]
      exact hold
    · rw [heq, EndQueue.entries_push hnever]
      refine EndQueue.pairwise_insert hold m.traffic.endQueue.sorted_entries ?_ ?_
      · intro f hf hle
        rcases Nat.eq_or_lt_of_le hle with heq | hlt
        · have hagent := h.own e (by simp [hevents])
          refine .inr ⟨Time.ext heq, ?_⟩
          rw [h.log, hevents, ← List.append_assoc]
          exact scheduledBefore_concat hagent hstart (h.others f hf) _
        · exact .inl hlt
      · exact fun f _ hlater => .inl (Nat.lt_of_not_le hlater)

end Moves

/-! ## At every moment -/

namespace Simulation

variable {s : Simulation} {c : Config} {net : Network} {people : Population}
  {replanner : Option Replanner} {strategy : Option (AgentId → Person → Strategy)} {n : Nat}
  {m : Moment}

/-- Whoever enters is scheduled behind those with smaller numbers. -/
theorem inOrder_enter {t : Traffic} {a : Agent} (hm : Moment.Sound net ⟨[], [], t⟩)
    (hempty : t.emitted = #[]) (ha : a.Fresh net t.agents.size)
    (horder : Moment.InOrder ⟨[], [], t⟩) (start : Time) :
    (enter start t a).emitted = #[] ∧ Moment.InOrder ⟨[], [], enter start t a⟩ := by
  rcases Plan.linkAt_eq_some_iff.1 ha.link with ⟨act, hact, -⟩
  rcases enter_cases hact start t with ⟨-, hnever, h⟩ | ⟨-, h⟩
  · rw [h]
    refine ⟨hempty, ?_⟩
    unfold Moment.InOrder
    simp only [EndQueue.entries_push hnever]
    refine EndQueue.pairwise_insert horder t.endQueue.sorted_entries ?_ ?_
    · intro e he hle
      rcases Nat.eq_or_lt_of_le hle with heq | hlt
      · refine .inr ⟨Time.ext heq, .inr ⟨?_, ?_⟩⟩
        · simp [Moment.log, hempty]
        · rcases Claimed.exists_of_pos hm.listed (List.count_pos_iff.2 he) with ⟨b, hb, -⟩
          have hid : a.id.index = t.agents.size := by rw [ha.id]
          exact hid ▸ (Array.getElem?_eq_some_iff.1 hb).1
      · exact .inl hlt
    · exact fun e _ hlater => .inl (Nat.lt_of_not_le hlater)
  · rw [h]
    exact ⟨hempty, horder⟩

/-- At the start nothing has been told, and the schedule is in order. -/
theorem inOrder_initialTraffic {agents : Array Agent}
    (hagents : ∀ (i : Nat) a, agents[i]? = some a → a.Fresh net i) :
    (initialTraffic c net agents replanner).emitted = #[] ∧
      Moment.InOrder ⟨[], [], initialTraffic c net agents replanner⟩ :=
  (initialTraffic_induction
    (P := fun t => Moment.Sound net ⟨[], [], t⟩ ∧ t.emitted = #[] ∧ Moment.InOrder ⟨[], [], t⟩)
    hagents ⟨sound_empty _ _ _, rfl, List.Pairwise.nil⟩
    fun _ _ ⟨hm, hempty, horder⟩ ha =>
      ⟨sound_enter hm ha _, inOrder_enter hm hempty ha horder _⟩).2

/-- At the beginning agents wait in the order of their numbers. -/
theorem inOrder_first (h : build c net people replanner strategy = .ok s) : s.first.InOrder := by
  rcases build_eq_ok_iff.1 h with ⟨-, hpeople, rfl⟩
  rcases inOrder_initialTraffic (c := c) fun i a ha => Population.fresh_agents hpeople ha with
    ⟨hempty, horder⟩
  unfold Moment.InOrder Moment.log at horder ⊢
  rw [hempty] at horder
  exact horder

/-- At every moment those who wait stand in the order of the times, and for equal times in the order
in which they were scheduled. -/
theorem Passes.inOrder (h : build c net people replanner strategy = .ok s) (hpass : s.Passes n m) :
    m.InOrder := by
  refine hpass.invariant (P := fun _ m => m.InOrder) (sound_first h) (inOrder_first h) ?_ ?_
  · exact fun _ _ _ hm horder hmove => hmove.inOrder hm horder
  · intro n past t horder
    unfold Moment.InOrder
    rw [log_next]
    exact horder

end Simulation

end TrafficQueue
