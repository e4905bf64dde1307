import TrafficQueue.Proofs.Agent.Walk

/-!
# Stays at activities

An agent stays at the first activity of its plan from the start, and at a later one from the event
that tells of its start to the event that tells of its end.  The activities are numbered in the
order of the plan: the activity of number `i` stands at the position `2 * i`, and `i` starts of
activities have been told of when the agent is there.

Main results:

- Definitions `startTime` and `endsOf`: when an activity starts, and the events that tell of its
  end.
- Theorem `Deed.leaves`: who is at an activity leaves it at the time that follows from its start.
- Theorem `Deed.settled`: who starts an activity that is not the last one is there.
- Definition `Agent.Spends`: what an agent does in a step, whether it is called or not.
-/

namespace TrafficQueue

/-! ## Starts and ends of activities -/

/-- How many activities have started, the first one not counted. -/
def startsOf (es : List Event) : Nat := es.countP fun e => e.kind.isActivityStart

/-- When the activity of a number has started; the first one starts when the day does. -/
def startTime (start : Time) (es : List Event) : Nat → Option Time
  | 0 => some start
  | i + 1 => (es.filter fun e => e.kind.isActivityStart)[i]?.map Event.time

/-- The events that tell of the end of the activity of a number: those after so many starts and
before the next one. -/
def endsOf : Nat → List Event → List Event
  | _, [] => []
  | i, e :: es =>
    if e.kind.isActivityStart then if i = 0 then [] else endsOf (i - 1) es
    else if i = 0 ∧ e.kind.isActivityEnd then e :: endsOf i es
    else endsOf i es

section Told

variable {start t : Time} {es fs : List Event} {e : Event} {i : Nat}

/-- Starts are counted part by part. -/
theorem startsOf_append (es fs : List Event) :
    startsOf (es ++ fs) = startsOf es + startsOf fs :=
  List.countP_append

/-- One more activity has started. -/
theorem startsOf_concat (h : e.kind.isActivityStart = true) (es : List Event) :
    startsOf (es ++ [e]) = startsOf es + 1 := by
  rw [startsOf_append, startsOf, startsOf, List.countP_singleton, if_pos h]

/-- Without a start none is counted. -/
theorem startsOf_eq_zero (h : ∀ e ∈ es, e.kind.isActivityStart = false) : startsOf es = 0 :=
  List.countP_eq_zero.2 fun e he => by simp [h e he]

/-- The starts are the events that are starts. -/
theorem length_filter_start (es : List Event) :
    (es.filter fun e => e.kind.isActivityStart).length = startsOf es :=
  List.countP_eq_length_filter.symm

/-- More events do not change when an activity has started. -/
theorem startTime_append (h : i ≤ startsOf es) (fs : List Event) :
    startTime start (es ++ fs) i = startTime start es i := by
  cases i with
  | zero => rfl
  | succ i =>
    rw [startTime, startTime, List.filter_append, List.getElem?_append_left]
    rw [length_filter_start]
    exact h

/-- The last of the starts is the one that was told of last. -/
theorem startTime_concat (h : e.kind.isActivityStart = true) :
    startTime start (es ++ [e]) (startsOf es + 1) = some e.time := by
  rw [startTime, List.filter_append, ← length_filter_start,
    List.getElem?_append_right (Nat.le_refl _), Nat.sub_self]
  simp [h]

/-- Only activities that have started have a time at which they did. -/
theorem le_startsOf (h : startTime start es i = some t) : i ≤ startsOf es := by
  cases i with
  | zero => exact Nat.zero_le _
  | succ i =>
    rcases Option.map_eq_some_iff.1 h with ⟨e, he, -⟩
    have hlt := (List.getElem?_eq_some_iff.1 he).1
    rwa [length_filter_start] at hlt

/-- The time at which an activity has started is that of an event. -/
theorem exists_of_startTime (h : startTime start es (i + 1) = some t) :
    ∃ e ∈ es, e.time = t := by
  rcases Option.map_eq_some_iff.1 h with ⟨e, he, htime⟩
  exact ⟨e, (List.mem_filter.1 (List.mem_of_getElem? he)).1, htime⟩

/-- More events tell of the end of an activity if it is the last one that has started. -/
theorem endsOf_append (i : Nat) (es fs : List Event) :
    endsOf i (es ++ fs) =
      endsOf i es ++ if startsOf es ≤ i then endsOf (i - startsOf es) fs else [] := by
  induction es generalizing i with
  | nil => simp [endsOf, startsOf]
  | cons e es ih =>
    have hcount : startsOf (e :: es) =
        startsOf es + if e.kind.isActivityStart = true then 1 else 0 := List.countP_cons
    rw [List.cons_append, endsOf, endsOf, hcount]
    by_cases hstart : e.kind.isActivityStart = true
    · rw [if_pos hstart, if_pos hstart, if_pos hstart]
      cases i with
      | zero => simp
      | succ i => simp [ih, Nat.add_sub_add_right]
    · rw [if_neg hstart, if_neg hstart, if_neg hstart, ih, Nat.add_zero]
      split
      · rw [List.cons_append]
      · rfl

/-- Once another activity has started, no more ends are those of the one before. -/
theorem endsOf_append_of_lt (h : i < startsOf es) (fs : List Event) :
    endsOf i (es ++ fs) = endsOf i es := by
  rw [endsOf_append, if_neg (Nat.not_le_of_lt h), List.append_nil]

/-- What ends after the last start is the last activity. -/
theorem endsOf_append_self (h : startsOf es = i) (fs : List Event) :
    endsOf i (es ++ fs) = endsOf i es ++ endsOf 0 fs := by
  rw [endsOf_append, h, if_pos (Nat.le_refl i), Nat.sub_self]

/-- Events that tell of no end add none. -/
theorem endsOf_eq_nil (h : ∀ e ∈ es, e.kind.isActivityEnd = false) (i : Nat) :
    endsOf i es = [] := by
  induction es generalizing i with
  | nil => rfl
  | cons e es ih =>
    rw [List.forall_mem_cons] at h
    rw [endsOf]
    split
    · split
      · rfl
      · exact ih h.2 _
    · rw [if_neg (by simp [h.1])]
      exact ih h.2 i

/-- Nothing has been told of an activity that has not started. -/
theorem endsOf_of_lt (h : startsOf es < i) : endsOf i es = [] := by
  induction es generalizing i with
  | nil => rfl
  | cons e es ih =>
    have hcount : startsOf (e :: es) =
        startsOf es + if e.kind.isActivityStart = true then 1 else 0 := List.countP_cons
    rw [endsOf]
    split
    · rename_i hstart
      rw [hcount, if_pos hstart] at h
      rw [if_neg (by omega), ih (by omega)]
    · rw [if_neg (by omega), ih (by omega)]

/-- An activity that has just started is not over. -/
theorem endsOf_concat (h : e.kind.isActivityStart = true) (es : List Event) :
    endsOf (startsOf (es ++ [e])) (es ++ [e]) = [] := by
  rw [startsOf_concat h, endsOf_append, endsOf_of_lt (Nat.lt_succ_self _), if_pos (Nat.le_succ _),
    Nat.add_sub_cancel_left]
  simp [endsOf, h]

end Told

/-! ## Stories of stays -/

section Trips

variable {net : Network} {p : Plan} {id : AgentId} {i : Nat} {es : List Event}

/-- Every second element of the plan is an activity, which has started. -/
theorem Trips.startsOf_eq (h : Trips net p id i es) : 2 * startsOf es = i := h.countP_start

/-- After whole trips the last activity that has started is not over. -/
theorem Trips.endsOf_eq_nil (h : Trips net p id i es) : endsOf (startsOf es) es = [] := by
  rcases Nat.eq_zero_or_pos i with rfl | hi
  · cases h
    rfl
  · rcases (h.last hi).2 with ⟨e, he, hstart⟩
    rcases List.getLast?_eq_some_iff.1 he with ⟨before, rfl⟩
    exact endsOf_concat hstart before

end Trips

/-! ## Leaving an activity in time -/

section Leaving

variable {net : Network} {replanner : Option Replanner} {start now : Time} {p : Plan}
  {a b : Agent} {es events : List Event}

/-- Who is at an activity leaves it at the time that follows from its start. -/
def Agent.Leaves (start : Time) (p : Plan) (a : Agent) (es : List Event) : Prop :=
  a.state = .atActivity → ∀ act, p.activity? a.element = some act →
    ∃ t, startTime start es (startsOf es) = some t ∧ a.departure = act.departure t

/-- Who is not at an activity has no end of it to wait for. -/
theorem Agent.leaves_of_ne (h : a.state ≠ .atActivity) : a.Leaves start p es :=
  fun hstate => absurd hstate h

/-- Who starts an activity leaves it at the time that follows from now. -/
theorem Agent.leaves_startActivity {act : Activity} {e : Event}
    (hact : p.activity? a.element = some act) (he : e.kind.isActivityStart = true)
    (htime : e.time = now) (hlast : es.getLast? = some e) :
    (a.startActivity act now).agent.Leaves start p es := by
  rcases List.getLast?_eq_some_iff.1 hlast with ⟨before, rfl⟩
  rcases a.startActivity_cases act now with ⟨-, h⟩ | ⟨-, h⟩
  · rw [h]
    exact Agent.leaves_of_ne (by simp)
  · rw [h]
    intro _ act' hact'
    cases hact.symm.trans hact'
    exact ⟨now, by rw [startsOf_concat he, startTime_concat he, htime], rfl⟩

/-- Every deed keeps to the time of leaving. -/
theorem Deed.leaves (h : Deed net replanner now a events b) (hagrees : p.Agrees a.plan) :
    b.Leaves start p (es ++ events) := by
  cases h with
  | strand h => exact Agent.leaves_of_ne (by simp [Agent.stranded])
  | @stay act next mode r h =>
    have hnext : p.activity? a.stayed.element = some next := by
      rw [← hagrees.activity]
      exact h.following
    exact Agent.leaves_startActivity (e := a.event now (.activityStart next.kind)) hnext rfl rfl
      (by simp)
  | depart h => exact Agent.leaves_of_ne (by simp [Agent.departed])
  | keep h =>
    apply Agent.leaves_of_ne
    rw [h.eq]
    simp [h.state]
  | cross h => exact Agent.leaves_of_ne (by simp [Agent.crossed, h.state])
  | @arrive r mode next h =>
    have hnext : p.activity? a.landed.element = some next := by
      rw [← hagrees.activity]
      exact h.following
    exact Agent.leaves_startActivity (e := a.event now (.activityStart next.kind)) hnext rfl rfl
      (by simp)
  | fail h => exact Agent.leaves_of_ne (by simp [Agent.evicted])
  | replan hrep h => exact Agent.leaves_of_ne (by simp [h.state])

/-! ## Being at an activity -/

/-- Who has started an activity that a leg follows, and told of nothing since, is at it. -/
def Agent.Settled (p : Plan) (a : Agent) (es : List Event) : Prop :=
  (∀ e, es.getLast? = some e → e.kind.isActivityStart = true) →
    (∃ mode, p.modeAt (2 * startsOf es + 1) = some mode) → a.state = .atActivity

/-- Who has just done something else than start an activity has none to be settled in. -/
theorem Agent.settled_of_last {e : Event} (hlast : es.getLast? = some e)
    (he : e.kind.isActivityStart = false) : a.Settled p es := by
  intro hstart
  rw [hstart e hlast] at he
  cases he

/-- Who starts an activity is settled in it. -/
theorem Agent.settled_startActivity {act : Activity} (hagrees : p.Agrees a.plan)
    (helement : 2 * startsOf es = a.element) :
    (a.startActivity act now).agent.Settled p es := by
  rintro - ⟨mode, hmode⟩
  rw [helement, ← hagrees.mode] at hmode
  have hlt := Plan.lt_of_modeAt hmode
  rcases a.startActivity_cases act now with ⟨hlast, -⟩ | ⟨-, h⟩
  · omega
  · rw [h]

/-- Every deed leaves whoever has started an activity at it. -/
theorem Deed.settled (h : Deed net replanner now a events b) (hagrees : p.Agrees a.plan)
    (htells : a.Tells net p es) (ha : a.Settled p es) : b.Settled p (es ++ events) := by
  cases h with
  | strand h =>
    exact Agent.settled_of_last (e := a.event now (.stuck .missingRoute)) (by simp) rfl
  | @stay act next mode r h =>
    have hstarts := (htells.atActivity h.state).1.startsOf_eq
    refine Agent.settled_startActivity (a := a.stayed) hagrees ?_
    have hone : startsOf [a.event now (.activityEnd act.kind), a.event now (.departure mode),
        a.event now (.arrival mode), a.event now (.activityStart next.kind)] = 1 := rfl
    rw [startsOf_append, hone, Nat.mul_add, hstarts]
    rfl
  | @depart act mode r h =>
    exact Agent.settled_of_last (e := a.event now (.departure mode)) (by simp) rfl
  | keep h =>
    intro hlast hmode
    rw [List.append_nil] at hlast hmode
    exact absurd (h.state.symm.trans (ha hlast hmode)) (by simp)
  | @cross r l h =>
    exact Agent.settled_of_last (e := (a.crossed l).event now (.linkEnter a.vehicle.id))
      (by simp) rfl
  | @arrive r mode next h =>
    rcases htells.enRoute h.state with ⟨i, trips, way, helement, rfl, htrips, hway⟩
    have hstarts := htrips.startsOf_eq
    refine Agent.settled_startActivity (a := a.landed) hagrees ?_
    have hone : startsOf
        [a.event now (.arrival mode), a.event now (.activityStart next.kind)] = 1 := rfl
    have hnone : startsOf way = 0 := startsOf_eq_zero fun e he => (hway.quiet e he).2
    have hlanded : a.landed.element = a.element + 1 := rfl
    rw [startsOf_append, startsOf_append, hone, hnone, hlanded, helement]
    omega
  | fail h => exact Agent.settled_of_last List.getLast?_concat rfl
  | replan hrep h => exact Agent.settled_of_last List.getLast?_concat rfl

end Leaving

/-! ## What an agent does in a step -/

/-- No activity starts, or one does, at the end. -/
def StartsLast (es : List Event) : Prop :=
  startsOf es = 0 ∨ ∃ before e, es = before ++ [e] ∧ e.kind.isActivityStart = true ∧
    startsOf before = 0

/-- What is told before does not come after the last start. -/
theorem StartsLast.append {es fs : List Event} (hes : startsOf es = 0) (h : StartsLast fs) :
    StartsLast (es ++ fs) := by
  rcases h with h | ⟨before, e, rfl, he, hbefore⟩
  · exact .inl (by rw [startsOf_append, hes, h])
  · refine .inr ⟨es ++ before, e, (List.append_assoc _ _ _).symm, he, ?_⟩
    rw [startsOf_append, hes, hbefore]

/-- What an agent does while nobody is called: one deed after the other as long as it is on its
way. -/
inductive Agent.GoesOn (net : Network) (now : Time) (a : Agent) : List Event → Agent → Prop where
  | refl : GoesOn net now a [] a
  | deed {es b replanner events c} (h : GoesOn net now a es b) (hstate : b.state = .enRoute)
      (hdeed : Deed net replanner now b events c) : GoesOn net now a (es ++ events) c

/-- What an agent does in a step: it leaves its activity if it is called, and goes on when all have
been called. -/
structure Agent.Spends (net : Network) (now : Time) (called : Prop) (a : Agent)
    (events : List Event) (b : Agent) : Prop where
  leaves : called → a.state = .atActivity ∧ ∃ replanner first mid rest,
    events = first ++ rest ∧ Deed net replanner now a first mid ∧ mid.GoesOn net now rest b
  stays : ¬ called → a.GoesOn net now events b

section Step

variable {net : Network} {replanner : Option Replanner} {now : Time} {a b c : Agent}
  {es events : List Event}

/-- Who starts an activity has done enough, and tells of nothing after it. -/
theorem Deed.startsLast (h : Deed net replanner now a events b) :
    StartsLast events ∧ (startsOf events ≠ 0 → b.state ≠ .enRoute) := by
  cases h with
  | strand h => exact ⟨.inl rfl, fun h => absurd rfl h⟩
  | stay h =>
    exact ⟨.inr ⟨[_, _, _], _, rfl, rfl, rfl⟩, fun _ => Agent.state_startActivity _ _ _⟩
  | depart h => exact ⟨.inl rfl, fun h => absurd rfl h⟩
  | keep h => exact ⟨.inl rfl, fun h => absurd rfl h⟩
  | cross h => exact ⟨.inl rfl, fun h => absurd rfl h⟩
  | arrive h => exact ⟨.inr ⟨[_], _, rfl, rfl, rfl⟩, fun _ => Agent.state_startActivity _ _ _⟩
  | fail h => exact ⟨.inl rfl, fun h => absurd rfl h⟩
  | replan hrep h => exact ⟨.inl rfl, fun h => absurd rfl h⟩

/-- Whoever leaves an activity tells of its end first, and of no other end. -/
theorem Deed.ends (h : Deed net replanner now a events b) (hstate : a.state = .atActivity) :
    ∃ act rest, a.plan.activity? a.element = some act ∧
      events = a.event now (.activityEnd act.kind) :: rest ∧
      ∀ e ∈ rest, e.kind.isActivityEnd = false := by
  cases h with
  | strand h => exact ⟨_, _, h.activity, rfl, by simp [EventKind.isActivityEnd, Agent.event]⟩
  | stay h => exact ⟨_, _, h.activity, rfl, by simp [EventKind.isActivityEnd, Agent.event]⟩
  | depart h => exact ⟨_, _, h.activity, rfl, by simp [EventKind.isActivityEnd, Agent.event]⟩
  | keep h => simp [h.state] at hstate
  | cross h => simp [h.state] at hstate
  | arrive h => simp [h.state] at hstate
  | fail h => simp [h.state] at hstate
  | replan hrep h => simp [h.state] at hstate

/-- Nobody on the way leaves an activity. -/
theorem Deed.no_end (h : Deed net replanner now a events b) (hstate : a.state = .enRoute) :
    ∀ e ∈ events, e.kind.isActivityEnd = false := by
  cases h with
  | strand h => simp [h.state] at hstate
  | stay h => simp [h.state] at hstate
  | depart h => simp [h.state] at hstate
  | keep h => exact List.forall_mem_nil _
  | cross h => simp [EventKind.isActivityEnd, Agent.event]
  | arrive h => simp [EventKind.isActivityEnd, Agent.event]
  | fail h => simp [EventKind.isActivityEnd, Agent.event]
  | replan hrep h => simp [EventKind.isActivityEnd, Agent.event]

namespace Agent.GoesOn

/-- Who is not on the road goes nowhere. -/
theorem eq_of_ne (h : a.GoesOn net now es b) (hstate : a.state ≠ .enRoute) : b = a ∧ es = [] := by
  induction h with
  | refl => exact ⟨rfl, rfl⟩
  | deed _ hb _ ih => exact absurd (ih.1 ▸ hb) hstate

/-- On the way no activity ends. -/
theorem no_end (h : a.GoesOn net now es b) : ∀ e ∈ es, e.kind.isActivityEnd = false := by
  induction h with
  | refl => exact List.forall_mem_nil _
  | deed _ hstate hdeed ih => exact List.forall_mem_append.2 ⟨ih, hdeed.no_end hstate⟩

/-- On the way an activity starts last if at all, and then the agent is not on the road any more. -/
theorem startsLast (h : a.GoesOn net now es b) :
    StartsLast es ∧ (startsOf es ≠ 0 → b.state ≠ .enRoute) := by
  induction h with
  | refl => exact ⟨.inl rfl, fun h => absurd rfl h⟩
  | deed _ hstate hdeed ih =>
    have hnone := Decidable.of_not_not fun h => ih.2 h hstate
    refine ⟨hdeed.startsLast.1.append hnone, fun hsome => hdeed.startsLast.2 ?_⟩
    rwa [startsOf_append, hnone, Nat.zero_add] at hsome

end Agent.GoesOn

namespace Agent.Spends

variable {called : Prop}

/-- In a step at most one activity starts, and then the agent tells of nothing more. -/
theorem startsLast (h : a.Spends net now called events b) : StartsLast events := by
  by_cases hcalled : called
  · rcases (h.leaves hcalled).2 with ⟨replanner, first, mid, rest, rfl, hdeed, hgoes⟩
    by_cases hnone : startsOf first = 0
    · exact hgoes.startsLast.1.append hnone
    · rw [(hgoes.eq_of_ne (hdeed.startsLast.2 hnone)).2, List.append_nil]
      exact hdeed.startsLast.1
  · exact (h.stays hcalled).startsLast.1

/-- Who is called tells of the end of its activity first, and of no other end. -/
theorem ends (h : a.Spends net now called events b) (hcalled : called) :
    ∃ act rest, a.plan.activity? a.element = some act ∧
      events = a.event now (.activityEnd act.kind) :: rest ∧
      ∀ e ∈ rest, e.kind.isActivityEnd = false := by
  rcases h.leaves hcalled with ⟨hstate, replanner, first, mid, rest, rfl, hdeed, hgoes⟩
  rcases hdeed.ends hstate with ⟨act, rest', hact, rfl, hnone⟩
  exact ⟨act, rest' ++ rest, hact, rfl, List.forall_mem_append.2 ⟨hnone, hgoes.no_end⟩⟩

/-- Who is not called tells of no end. -/
theorem no_end (h : a.Spends net now called events b) (hcalled : ¬ called) :
    ∀ e ∈ events, e.kind.isActivityEnd = false :=
  (h.stays hcalled).no_end

end Agent.Spends

end Step

end TrafficQueue
