import TrafficQueue.Proofs.Agent.Stay
import TrafficQueue.Proofs.Simulation.Progress

/-!
# Who is called in a step

At the beginning of a step everybody who is due is called, one after the other and nobody twice, and
tells of the end of the activity.  After that nobody is called any more, and only those who are on
their way do anything.

Main results:

- Theorem `Moment.Listed.pairwise_scheduled`: nobody is scheduled twice.
- Theorem `Moment.Sound.step_spends`: what every agent does in a step, and in which order the
  activities end.
-/

namespace TrafficQueue

/-- Nobody is scheduled twice. -/
theorem Moment.Listed.pairwise_scheduled {m : Moment} (h : m.Listed) :
    m.scheduled.Pairwise fun e f => e.2 ≠ f.2 := by
  have hnodup : m.scheduled.Nodup := by
    rw [List.nodup_iff_count]
    intro e
    have hclaimed : m.scheduled.count e = _ := h e
    rw [hclaimed]
    split
    · exact Nat.le_refl 1
    · exact Nat.zero_le 1
  refine hnodup.imp_of_mem fun he hf hne hid => hne ?_
  rcases Claimed.exists_of_pos h (List.count_pos_iff.2 he) with ⟨a, ha, hawaits⟩
  rcases Claimed.exists_of_pos h (List.count_pos_iff.2 hf) with ⟨b, hb, hawaits'⟩
  rw [hid] at ha
  cases ha.symm.trans hb
  simp only [Agent.awaits, decide_eq_true_eq] at hawaits hawaits'
  exact hawaits.2.2.2.symm.trans hawaits'.2.2.2

/-- Who is scheduled is an agent that awaits its time. -/
theorem Moment.Listed.mem_scheduled_iff {m : Moment} {a : Agent} {e : Time × AgentId}
    (h : m.Listed) (hagent : m.traffic.agent? e.2 = some a) :
    e ∈ m.scheduled ↔ a.awaits e = true := by
  have hclaimed : m.scheduled.count e = _ := h e
  have hagent' : m.traffic.agents[e.2.index]? = some a := hagent
  rw [← List.count_pos_iff, hclaimed, hagent', Option.any_some]
  split
  · rename_i hawaits
    exact ⟨fun _ => hawaits, fun _ => Nat.one_pos⟩
  · rename_i hawaits
    exact ⟨fun hpos => absurd hpos (Nat.lt_irrefl 0), fun h => absurd h hawaits⟩

/-! ## What a call does -/

section Call

variable {net : Network} {now : Time} {m m' : Moment}

/-- Who is called leaves its activity. -/
theorem Call.changes (h : Call net now m m') :
    ∃ time a events b, m.due = (time, a.id) :: m'.due ∧ m.traffic.agent? a.id = some a ∧
      a.state = .atActivity ∧ Deed net m.traffic.replanner now a events b ∧
      m'.traffic.agents = m.traffic.agents.setIfInBounds a.id.index b ∧
      m'.log = m.log ++ events := by
  rcases h with ⟨hmove, e, hdue⟩
  cases hmove with
  | strand hagent h =>
    exact ⟨_, _, _, _, rfl, hagent, h.state, .strand h, rfl, by simp [Moment.log]⟩
  | stay hagent h =>
    refine ⟨_, _, _, _, rfl, hagent, h.state, .stay h, ?_, by simp [Moment.log]⟩
    simp [Agent.id_startActivity]
  | depart hagent h =>
    exact ⟨_, _, _, _, rfl, hagent, h.state, .depart h, rfl, by simp [Moment.log]⟩
  | drain => cases hdue
  | update => cases hdue
  | keep => cases hdue
  | cross => cases hdue
  | arrive => cases hdue
  | fail => cases hdue
  | replan => cases hdue

/-- While nobody is called, only agents on their way do anything. -/
theorem Onward.changes (h : Onward net now m m') :
    (m'.traffic.agents = m.traffic.agents ∧ m'.log = m.log) ∨
      ∃ a events b, m.traffic.agent? a.id = some a ∧
        (a.state = .enRoute ∧ Deed net m.traffic.replanner now a events b) ∧
        m'.traffic.agents = m.traffic.agents.setIfInBounds a.id.index b ∧
        m'.log = m.log ++ events := by
  rcases h with ⟨hmove, hbefore, hafter⟩
  cases hmove with
  | strand => cases hbefore
  | stay => cases hbefore
  | depart => cases hbefore
  | drain => exact .inl ⟨rfl, rfl⟩
  | update => exact .inl ⟨rfl, rfl⟩
  | keep hagent hdue h =>
    refine .inr ⟨_, _, _, hagent, ⟨h.state, .keep h⟩, ?_, by simp [Moment.log]⟩
    rw [Traffic.agents_did, (Deed.keep h : Deed net none now _ _ _).id_eq]
  | cross hagent h =>
    exact .inr ⟨_, _, _, hagent, ⟨h.state, .cross h⟩, rfl, by simp [Moment.log]⟩
  | arrive hagent h =>
    refine .inr ⟨_, _, _, hagent, ⟨h.state, .arrive h⟩, ?_, by simp [Moment.log]⟩
    simp [Agent.id_startActivity]
  | fail hagent hdue h =>
    exact .inr ⟨_, _, _, hagent, ⟨h.state, .fail h⟩, rfl, by simp [Moment.log]⟩
  | replan hagent hreplanner h =>
    exact .inr ⟨_, _, _, hagent, ⟨h.state, .replan hreplanner h⟩, rfl, by simp [Moment.log]⟩

/-- Who is called has left its activity after the call, and the others have done nothing. -/
theorem Call.of_agent (h : Call net now m m') {id : AgentId} {b : Agent}
    (hb : m'.traffic.agent? id = some b) :
    ∃ e a events, m.due = e :: m'.due ∧ m.traffic.agent? id = some a ∧
      m'.eventsOf id = m.eventsOf id ++ events ∧
      (e.2 = id → a.state = .atActivity ∧ Deed net m.traffic.replanner now a events b) ∧
      (e.2 ≠ id → b = a ∧ events = []) := by
  rcases h.changes with ⟨time, a, events, c, hdue, hagent, hstate, hdeed, hagents, hlog⟩
  have htold : ∀ e ∈ events, e.agent = a.id := fun e he => (hdeed.mem_events e he).1
  by_cases hid : a.id = id
  · subst hid
    cases hb.symm.trans (Moment.agent_own hagent hagents)
    exact ⟨_, a, events, hdue, hagent, Moment.eventsOf_own hlog htold,
      fun _ => ⟨hstate, hdeed⟩, fun hne => absurd rfl hne⟩
  · rw [Moment.agent_other hagents hid] at hb
    refine ⟨_, b, [], hdue, hb, ?_, fun heq => absurd heq hid, fun _ => ⟨rfl, rfl⟩⟩
    rw [List.append_nil]
    exact Moment.eventsOf_other hlog fun e he => htold e he ▸ hid

/-- Who is called leaves its activity, and the others do nothing. -/
theorem Calls.of_agent (hm : m.Sound net) (h : Calls net now m m') (hdone : m'.due = [])
    {id : AgentId} {b : Agent} (hb : m'.traffic.agent? id = some b) :
    ∃ a events, m.traffic.agent? id = some a ∧ m'.eventsOf id = m.eventsOf id ++ events ∧
      ((∃ e ∈ m.due, e.2 = id) →
        a.state = .atActivity ∧ ∃ replanner, Deed net replanner now a events b) ∧
      ((∀ e ∈ m.due, e.2 ≠ id) → b = a ∧ events = []) := by
  induction h using Relation.ReflTransGen.head_induction_on with
  | refl =>
    refine ⟨b, [], hb, (List.append_nil _).symm, ?_, fun _ => ⟨rfl, rfl⟩⟩
    rintro ⟨e, he, -⟩
    rw [hdone] at he
    cases he
  | @head m m₁ hcall hrest ih =>
    have hm₁ := hm.move hcall.move
    rcases ih hm₁ with ⟨a₁, events₁, ha₁, hevents₁, hcalled₁, hother₁⟩
    rcases hcall.of_agent ha₁ with ⟨e, a, events, hdue, ha, hevents, hcalled, hother⟩
    have honce : ∀ f ∈ m₁.due, e.2 ≠ f.2 := by
      intro f hf
      have hscheduled := hm.listed.pairwise_scheduled
      rw [Moment.scheduled, hdue] at hscheduled
      exact (List.pairwise_cons.1 hscheduled).1 f (List.mem_append_left _ hf)
    refine ⟨a, events ++ events₁, ha, by rw [hevents₁, hevents, List.append_assoc], ?_, ?_⟩
    · rintro ⟨f, hf, hid⟩
      rw [hdue] at hf
      by_cases heq : e.2 = id
      · rcases hother₁ fun f hf => heq ▸ (honce f hf).symm with ⟨rfl, rfl⟩
        rw [List.append_nil]
        exact ⟨(hcalled heq).1, _, (hcalled heq).2⟩
      · rcases hother heq with ⟨rfl, rfl⟩
        rcases List.mem_cons.1 hf with rfl | hf
        · exact absurd hid heq
        · exact hcalled₁ ⟨f, hf, hid⟩
    · intro hnot
      rw [hdue, List.forall_mem_cons] at hnot
      rcases hother hnot.1 with ⟨rfl, rfl⟩
      exact hother₁ hnot.2

/-- While nobody is called, every agent goes on as long as it is on its way. -/
theorem Onwards.of_agent (h : Onwards net now m m') {id : AgentId} {b : Agent}
    (hb : m'.traffic.agent? id = some b) :
    ∃ a events, m.traffic.agent? id = some a ∧ m'.eventsOf id = m.eventsOf id ++ events ∧
      a.GoesOn net now events b := by
  induction h generalizing b with
  | refl => exact ⟨b, [], hb, (List.append_nil _).symm, .refl⟩
  | @tail m₁ m₂ _ hlast ih =>
    have hevents : ∀ a events b,
        (a.state = .enRoute ∧ Deed net m₁.traffic.replanner now a events b) →
          ∀ e ∈ events, e.agent = a.id := fun _ _ _ h e he => (h.2.mem_events e he).1
    rcases Moment.of_change hlast.changes hevents hb with
      ⟨a₁, events₁, ha₁, htold, ⟨rfl, rfl⟩ | ⟨hstate, hdeed⟩⟩
    · rcases ih ha₁ with ⟨a, events, ha, htold', hgoes⟩
      exact ⟨a, events, ha, by rw [htold, htold', List.append_nil], hgoes⟩
    · rcases ih ha₁ with ⟨a, events, ha, htold', hgoes⟩
      exact ⟨a, events ++ events₁, ha, by rw [htold, htold', List.append_assoc],
        hgoes.deed hstate hdeed⟩

/-! ## The order of the ends -/

/-- The event that tells of the end of the activity at which an agent is. -/
def Traffic.endOf (t : Traffic) (now : Time) (id : AgentId) : Option Event :=
  (t.agent? id).bind fun a =>
    (a.plan.activity? a.element).map fun act => a.event now (.activityEnd act.kind)

/-- The activities of those who are called end in their order. -/
theorem Calls.ends (hm : m.Sound net) (h : Calls net now m m') (hdone : m'.due = []) :
    m'.log.filter (fun e => e.kind.isActivityEnd) =
      m.log.filter (fun e => e.kind.isActivityEnd) ++
        m.due.filterMap fun e => m.traffic.endOf now e.2 := by
  induction h using Relation.ReflTransGen.head_induction_on with
  | refl => rw [hdone, List.filterMap_nil, List.append_nil]
  | @head m m₁ hcall hrest ih =>
    rcases hcall.changes with ⟨time, a, events, b, hdue, hagent, hstate, hdeed, hagents, hlog⟩
    rcases hdeed.ends hstate with ⟨act, rest, hact, rfl, hnone⟩
    have hscheduled := hm.listed.pairwise_scheduled
    rw [Moment.scheduled, hdue] at hscheduled
    have hothers : m₁.due.filterMap (fun e => m₁.traffic.endOf now e.2) =
        m₁.due.filterMap fun e => m.traffic.endOf now e.2 := by
      refine List.filterMap_congr fun e he => ?_
      have hid : a.id ≠ e.2 :=
        (List.pairwise_cons.1 hscheduled).1 e (List.mem_append_left _ he)
      rw [Traffic.endOf, Moment.agent_other hagents hid, Traffic.endOf]
    have hfirst : m.traffic.endOf now a.id = some (a.event now (.activityEnd act.kind)) := by
      rw [Traffic.endOf, hagent, Option.bind_some, hact, Option.map_some]
    have hends : ((time, a.id) :: m₁.due).filterMap (fun e => m.traffic.endOf now e.2) =
        a.event now (.activityEnd act.kind) ::
          m₁.due.filterMap fun e => m.traffic.endOf now e.2 := by
      simp only [List.filterMap_cons, hfirst]
    have hrest' : rest.filter (fun e => e.kind.isActivityEnd) = [] :=
      List.filter_eq_nil_iff.2 fun e he => by simp [hnone e he]
    rw [ih (hm.move hcall.move), hlog, hothers, hdue, List.filter_append, List.append_assoc,
      List.filter_cons_of_pos rfl, hrest', hends]
    rfl

/-- While nobody is called no activity ends. -/
theorem Onwards.ends (h : Onwards net now m m') :
    m'.log.filter (fun e => e.kind.isActivityEnd) =
      m.log.filter fun e => e.kind.isActivityEnd := by
  induction h with
  | refl => rfl
  | tail _ hlast ih =>
    rcases hlast.changes with ⟨-, hlog⟩ | ⟨a, events, b, -, ⟨hstate, hdeed⟩, -, hlog⟩
    · rw [hlog, ih]
    · have hnone : events.filter (fun e => e.kind.isActivityEnd) = [] :=
        List.filter_eq_nil_iff.2 fun e he => by simp [hdeed.no_end hstate e he]
      rw [hlog, List.filter_append, hnone, List.append_nil, ih]

end Call

/-! ## What is done in a step -/

/-- The agent leaves its activity now, or should have left it before. -/
def Agent.IsCalled (now : Time) (a : Agent) : Prop :=
  a.awaits (a.departure, a.id) = true ∧ a.departure ≤ now

theorem Agent.departure_of_awaits {a : Agent} {e : Time × AgentId} (h : a.awaits e = true) :
    a.departure = e.1 := by
  simp only [awaits, decide_eq_true_eq] at h
  rw [← h.2.2.2]

namespace Moment.Sound

variable {net : Network} {now : Time} {past : List Event} {t : Traffic}

/-- Those who are due at the start of a step are those who should leave. -/
theorem mem_due_iff (hm : Moment.Sound net ⟨past, [], t⟩) {id : AgentId} {a : Agent}
    (hagent : t.agent? id = some a) (now : Time) :
    (∃ e ∈ t.endQueue.entries.takeWhile fun e => e.1 ≤ now, e.2 = id) ↔ a.IsCalled now := by
  have hown : a.id = id := hm.numbered id.index a hagent
  rw [(EndQueue.split_due Prod.fst t.endQueue.sorted_entries now).1]
  constructor
  · rintro ⟨e, he, hid⟩
    rcases List.mem_filter.1 he with ⟨hmem, hle⟩
    have hawaits := (hm.listed.mem_scheduled_iff (hid ▸ hagent)).1 hmem
    have hdeparture := Agent.departure_of_awaits hawaits
    have hentry : (a.departure, a.id) = e := Prod.ext hdeparture (hown.trans hid.symm)
    exact ⟨hentry ▸ hawaits, hdeparture ▸ of_decide_eq_true hle⟩
  · rintro ⟨hawaits, hle⟩
    rw [← hown] at hagent ⊢
    have hmem : (a.departure, a.id) ∈ t.endQueue.entries :=
      (hm.listed.mem_scheduled_iff hagent).2 hawaits
    exact ⟨_, List.mem_filter.2 ⟨hmem, decide_eq_true hle⟩, rfl⟩

/-- In a step those leave their activities who are called, in the order in which they stand in the
queue, and all others go on. -/
theorem step_spends (hm : Moment.Sound net ⟨past, [], t.clearEvents⟩) (now : Time) :
    ∃ t', t.step net now = .ok t'.countStep ∧
      Operations net now ⟨past, [], t.clearEvents⟩ ⟨past, [], t'⟩ ∧
      (∀ id b, t'.agent? id = some b → ∃ a events, t.agent? id = some a ∧
        Moment.eventsOf ⟨past, [], t'⟩ id =
          Moment.eventsOf ⟨past, [], t.clearEvents⟩ id ++ events ∧
        a.Spends net now (a.IsCalled now) events b) ∧
      t'.emitted.toList.filter (fun e => e.kind.isActivityEnd) =
        (t.endQueue.entries.takeWhile fun e => e.1 ≤ now).filterMap fun e => t.endOf now e.2 := by
  rcases hm.step_phases now with ⟨ended, t', ht', hops, hcalls, honwards⟩
  have hdrained : Moment.Sound net ⟨past, t.endQueue.entries.takeWhile fun e => e.1 ≤ now,
      { t.clearEvents with endQueue := (t.endQueue.drain now).2 }⟩ := hm.move .drain
  refine ⟨t', ht', hops, ?_, ?_⟩
  · intro id b hb
    rcases honwards.of_agent hb with ⟨mid, rest, hmid, hrest, hgoes⟩
    rcases hcalls.of_agent hdrained rfl hmid with ⟨a, first, ha, hfirst, hleaves, hstays⟩
    have hdue := hm.mem_due_iff ha now
    refine ⟨a, first ++ rest, ha, ?_, ?_, ?_⟩
    · rw [hrest, hfirst, List.append_assoc]
      rfl
    · intro hcalled
      rcases hleaves (hdue.2 hcalled) with ⟨hstate, replanner, hdeed⟩
      exact ⟨hstate, replanner, first, mid, rest, rfl, hdeed, hgoes⟩
    · intro hcalled
      rcases hstays fun e he heq => hcalled (hdue.1 ⟨e, he, heq⟩) with ⟨rfl, rfl⟩
      exact hgoes
  · have hends : (Moment.log ⟨past, [], ended⟩).filter (fun e => e.kind.isActivityEnd) =
        past.filter (fun e => e.kind.isActivityEnd) ++
          (t.endQueue.entries.takeWhile fun e => e.1 ≤ now).filterMap fun e => t.endOf now e.2 := by
      rw [hcalls.ends hdrained rfl]
      simp only [Moment.log, Traffic.clearEvents, List.append_nil]
      rfl
    have hafter := honwards.ends
    rw [hends, Moment.log, List.filter_append] at hafter
    exact List.append_cancel_left hafter

end Moment.Sound

end TrafficQueue
