import TrafficQueue.Proofs.Agent.Deed

/-!
# The story of an agent

The events of an agent tell a story: of whole trips from activity to activity of its
plan, and of how far it has come since.  On a trip the activity ends, the agent departs
with the mode of the leg and drives from link to link, and at last it arrives and
starts the next activity.  The story stops at the last activity, or where the agent
gets stuck.

Main results:

- Definitions `Drive`, `Underway`, `Trips` and `Ending`: the parts of a story.
- Definition `Story`: the stories of a plan, each with the link on which it ends.
- Theorems `Story.eq_nil_of_stuck` and `Story.eq_nil_of_last`: where a story stops.
- Theorem `Deed.tells`: every deed goes on with the story of its agent.
-/

namespace TrafficQueue

/-! ## Plans with the same activities and modes -/

namespace Plan

variable {p q q' : Plan} {i : Nat}

/-- The mode of the leg at a position. -/
def modeAt (p : Plan) (i : Nat) : Option Mode := (p.leg? i).map Leg.mode

/-- Replacing a route changes no mode. -/
theorem modeAt_withRoute {r : Route} (h : p.withRoute i r = .ok q) (j : Nat) :
    q.modeAt j = p.modeAt j := by
  by_cases hij : i = j
  · subst hij
    rcases leg_withRoute_self h with ⟨leg, hp, hq⟩
    rw [modeAt, modeAt, hp, hq]
    rfl
  · rw [modeAt, modeAt, leg?_withRoute_of_ne h hij]

/-- Only legs of the plan have modes. -/
theorem lt_of_modeAt {mode : Mode} (h : p.modeAt i = some mode) : i < p.length := by
  rcases Option.map_eq_some_iff.1 h with ⟨leg, hleg, -⟩
  exact lt_of_element? (leg?_eq_some_iff.1 hleg)

/-- The plans have the same activities and modes; they differ in their routes at most. -/
structure Agrees (p q : Plan) : Prop where
  activity : ∀ i, q.activity? i = p.activity? i
  mode : ∀ i, q.modeAt i = p.modeAt i

/-- A plan agrees with itself. -/
theorem agrees_refl (p : Plan) : p.Agrees p :=
  ⟨fun _ => rfl, fun _ => rfl⟩

/-- A plan that differs in its routes still agrees when one more of them is replaced. -/
theorem Agrees.withRoute {r : Route} (h : p.Agrees q) (hq : q.withRoute i r = .ok q') :
    p.Agrees q' := by
  constructor
  · intro j
    rw [activity?_withRoute hq, h.activity]
  · intro j
    rw [modeAt_withRoute hq, h.mode]

/-- Plans that agree have the same modes. -/
theorem Agrees.modeAt_of_leg? {leg : Leg} (h : p.Agrees q) (hleg : q.leg? i = some leg) :
    p.modeAt i = some leg.mode := by
  rw [← h.mode, modeAt, hleg]
  rfl

end Plan

/-- Every deed leaves the activities and the modes of the plan as they are. -/
theorem Deed.agrees {net : Network} {replanner : Option Replanner} {now : Time} {a b : Agent}
    {events : List Event} {p : Plan} (h : Deed net replanner now a events b)
    (ha : p.Agrees a.plan) : p.Agrees b.plan := by
  rcases h.plan_cases with hplan | ⟨rep, old, r, -, hreplans⟩
  · rwa [hplan]
  · exact ha.withRoute hreplans.adopts

/-! ## Stories -/

section Stories

variable (net : Network) (p : Plan) (id : AgentId)

/-- What an agent tells of since it departed from one link, while it is on another one: its route
is replaced, or it leaves its link and enters at the same time one that begins where its link
ends. -/
inductive Drive (l : LinkId) : List Event → LinkId → Prop where
  | start : Drive l [] l
  | replan {es m} (h : Drive l es m) (t : Time) (route : List LinkId) :
      Drive l (es ++ [⟨t, id, m, .replan route⟩]) m
  | cross {es m k} (h : Drive l es m) (t : Time) (hconnects : net.connects m k = some true) :
      Drive l
        (es ++ [⟨t, id, m, .linkLeave id.vehicle⟩, ⟨t, id, k, .linkEnter id.vehicle⟩]) k

/-- The activity at a position has ended and the agent has departed on the leg after it; it is now
on the given link. -/
inductive Underway (i : Nat) : List Event → LinkId → Prop where
  | depart {act mode es m} (hact : p.activity? i = some act)
      (hmode : p.modeAt (i + 1) = some mode) (t : Time) (h : Drive net id act.link es m) :
      Underway i
        (⟨t, id, act.link, .activityEnd act.kind⟩ :: ⟨t, id, act.link, .departure mode⟩ :: es) m

/-- Whole trips lead from the first activity to the one at a position. -/
inductive Trips : Nat → List Event → Prop where
  | none : Trips 0 []
  | arrive {i es way m mode next} (h : Trips i es) (hway : Underway net p id i way m)
      (hmode : p.modeAt (i + 1) = some mode) (hnext : p.activity? (i + 2) = some next)
      (hlink : next.link = m) (t : Time) :
      Trips (i + 2)
        (es ++ way ++ [⟨t, id, m, .arrival mode⟩, ⟨t, id, m, .activityStart next.kind⟩])

/-- What an agent has told of since it started the activity at a position: nothing, or it is
underway, or it got stuck on its way or when the activity ended. -/
inductive Ending (i : Nat) : List Event → LinkId → Prop where
  | rest {l} (hlink : p.linkAt i = some l) : Ending i [] l
  | underway {es m} (h : Underway net p id i es m) : Ending i es m
  | lost {es m} (h : Underway net p id i es m) (t : Time) (reason : StuckReason) :
      Ending i (es ++ [⟨t, id, m, .stuck reason⟩]) m
  | stranded {act mode} (hact : p.activity? i = some act)
      (hmode : p.modeAt (i + 1) = some mode) (t : Time) (reason : StuckReason) :
      Ending i
        [⟨t, id, act.link, .activityEnd act.kind⟩, ⟨t, id, act.link, .stuck reason⟩] act.link

/-- The events tell of whole trips and of an ending, after which the agent is on the given link. -/
def Story (es : List Event) (l : LinkId) : Prop :=
  ∃ i trips ending, es = trips ++ ending ∧ Trips net p id i trips ∧ Ending net p id i ending l

end Stories

/-! ## Where a story stops -/

/-- An activity starts. -/
def EventKind.isActivityStart : EventKind → Bool
  | .activityStart _ => true
  | _ => false

section Stops

variable {net : Network} {p : Plan} {id : AgentId} {i : Nat} {l m : LinkId}
  {es before after : List Event} {e : Event}

/-- Between departure and arrival nobody is stuck and no activity starts. -/
theorem Drive.quiet (h : Drive net id l es m) :
    ∀ e ∈ es, e.kind.isStuck = false ∧ e.kind.isActivityStart = false := by
  induction h with
  | start => exact List.forall_mem_nil _
  | replan _ t route ih =>
      rw [List.forall_mem_append, List.forall_mem_singleton]
      exact ⟨ih, rfl, rfl⟩
  | cross _ t hconnects ih =>
      rw [List.forall_mem_append, List.forall_mem_cons, List.forall_mem_singleton]
      exact ⟨ih, ⟨rfl, rfl⟩, rfl, rfl⟩

/-- On the way nobody is stuck and no activity starts. -/
theorem Underway.quiet (h : Underway net p id i es m) :
    ∀ e ∈ es, e.kind.isStuck = false ∧ e.kind.isActivityStart = false := by
  cases h with
  | depart hact hmode t hdrive =>
      rw [List.forall_mem_cons, List.forall_mem_cons]
      exact ⟨⟨rfl, rfl⟩, ⟨rfl, rfl⟩, hdrive.quiet⟩

/-- Who gets another route is still on the way. -/
theorem Underway.replan (h : Underway net p id i es m) (t : Time) (route : List LinkId) :
    Underway net p id i (es ++ [⟨t, id, m, .replan route⟩]) m := by
  cases h with
  | depart hact hmode t' hdrive => exact .depart hact hmode t' (hdrive.replan t route)

/-- Who crosses a node is still on the way, on a link that the one before leads to. -/
theorem Underway.cross {k : LinkId} (h : Underway net p id i es m) (t : Time)
    (hconnects : net.connects m k = some true) :
    Underway net p id i
      (es ++ [⟨t, id, m, .linkLeave id.vehicle⟩, ⟨t, id, k, .linkEnter id.vehicle⟩]) k := by
  cases h with
  | depart hact hmode t' hdrive => exact .depart hact hmode t' (hdrive.cross t hconnects)

/-- Who is on the way is on a leg, which the plan goes on after. -/
theorem Underway.lt_length (h : Underway net p id i es m) : i + 1 < p.length := by
  cases h with
  | depart hact hmode t hdrive => exact Plan.lt_of_modeAt hmode

/-- On whole trips nobody is stuck. -/
theorem Trips.unstuck (h : Trips net p id i es) : ∀ e ∈ es, e.kind.isStuck = false := by
  induction h with
  | none => exact List.forall_mem_nil _
  | arrive _ hway hmode hnext hlink t ih =>
      rw [List.forall_mem_append, List.forall_mem_append, List.forall_mem_cons,
        List.forall_mem_singleton]
      exact ⟨⟨ih, fun e he => (hway.quiet e he).1⟩, rfl, rfl⟩

/-- Every trip starts one activity. -/
theorem Trips.countP_start (h : Trips net p id i es) :
    2 * es.countP (fun e => e.kind.isActivityStart) = i := by
  induction h with
  | none => rfl
  | @arrive i es way m mode next _ hway hmode hnext hlink t ih =>
      have hquiet : way.countP (fun e => e.kind.isActivityStart) = 0 :=
        List.countP_eq_zero.2 fun e he => by simp [(hway.quiet e he).2]
      have hends : List.countP (fun e : Event => e.kind.isActivityStart)
          [⟨t, id, m, .arrival mode⟩, ⟨t, id, m, .activityStart next.kind⟩] = 1 := rfl
      rw [List.countP_append, List.countP_append, hquiet, hends]
      omega

/-- Nobody departs on the way. -/
theorem Drive.not_departure (h : Drive net id l es m) :
    ∀ e ∈ es, e.kind.isDeparture = false := by
  induction h with
  | start => exact List.forall_mem_nil _
  | replan _ t route ih =>
      rw [List.forall_mem_append, List.forall_mem_singleton]
      exact ⟨ih, rfl⟩
  | cross _ t hconnects ih =>
      rw [List.forall_mem_append, List.forall_mem_cons, List.forall_mem_singleton]
      exact ⟨ih, rfl, rfl⟩

/-- Who is underway has departed once. -/
theorem Underway.countP_departure (h : Underway net p id i es m) :
    es.countP (fun e => e.kind.isDeparture) = 1 := by
  cases h with
  | @depart act mode es m hact hmode t hdrive =>
      have hnone : es.countP (fun e => e.kind.isDeparture) = 0 :=
        List.countP_eq_zero.2 fun e he => by simp [hdrive.not_departure e he]
      rw [List.countP_cons_of_neg (by simp [EventKind.isDeparture]),
        List.countP_cons_of_pos rfl, hnone]

/-- Every trip has one departure. -/
theorem Trips.countP_departure (h : Trips net p id i es) :
    2 * es.countP (fun e => e.kind.isDeparture) = i := by
  induction h with
  | none => rfl
  | @arrive i es way m mode next _ hway hmode hnext hlink t ih =>
      have hends : List.countP (fun e : Event => e.kind.isDeparture)
          [⟨t, id, m, .arrival mode⟩, ⟨t, id, m, .activityStart next.kind⟩] = 0 := rfl
      rw [List.countP_append, List.countP_append, hway.countP_departure, hends]
      omega

/-- Whole trips end with the start of an activity of the plan. -/
theorem Trips.last (h : Trips net p id i es) (hi : 0 < i) :
    i < p.length ∧ ∃ e, es.getLast? = some e ∧ e.kind.isActivityStart = true := by
  cases h with
  | none => omega
  | @arrive _ _ _ m _ next _ hway hmode hnext hlink t =>
      refine ⟨Plan.lt_of_element? (Plan.activity?_eq_some_iff.1 hnext),
        ⟨t, id, m, .activityStart next.kind⟩, ?_, rfl⟩
      rw [List.getLast?_append]
      rfl

/-- No activity starts in an ending. -/
theorem Ending.countP_start (h : Ending net p id i es l) :
    es.countP (fun e => e.kind.isActivityStart) = 0 := by
  apply List.countP_eq_zero.2
  cases h with
  | rest hlink => exact List.forall_mem_nil _
  | underway h =>
      intro e he
      simp [(h.quiet e he).2]
  | lost h t reason =>
      rw [List.forall_mem_append, List.forall_mem_singleton]
      refine ⟨fun e he => ?_, by simp [EventKind.isActivityStart]⟩
      simp [(h.quiet e he).2]
  | stranded hact hmode t reason => simp [EventKind.isActivityStart]

/-- After the last activity there is nothing to tell. -/
theorem Ending.eq_nil (h : Ending net p id i es l) (hlast : p.length ≤ i + 1) : es = [] := by
  cases h with
  | rest hlink => rfl
  | underway h =>
      have hlt := h.lt_length
      omega
  | lost h t reason =>
      have hlt := h.lt_length
      omega
  | stranded hact hmode t reason =>
      have hlt := Plan.lt_of_modeAt hmode
      omega

/-- Who is stuck is so at the end. -/
theorem Ending.unstuck (h : Ending net p id i es l) :
    ∀ e ∈ es.dropLast, e.kind.isStuck = false := by
  cases h with
  | rest hlink => exact List.forall_mem_nil _
  | underway h => exact fun e he => (h.quiet e (List.dropLast_subset _ he)).1
  | lost h t reason =>
      rw [List.dropLast_concat]
      exact fun e he => (h.quiet e he).1
  | stranded hact hmode t reason => simp [EventKind.isStuck]

/-- Nothing follows when the agent got stuck. -/
theorem Story.eq_nil_of_stuck (h : Story net p id es l) (hes : es = before ++ e :: after)
    (he : e.kind.isStuck = true) : after = [] := by
  by_contra hafter
  rcases h with ⟨i, trips, ending, rfl, htrips, hending⟩
  have hmem : e ∈ (trips ++ ending).dropLast := by
    rw [hes, List.dropLast_append_of_ne_nil (List.cons_ne_nil e after),
      List.dropLast_cons_of_ne_nil hafter]
    exact List.mem_append_right _ List.mem_cons_self
  have hunstuck : ∀ f ∈ (trips ++ ending).dropLast, f.kind.isStuck = false := by
    by_cases hending' : ending = []
    · rw [hending', List.append_nil]
      exact fun f hf => htrips.unstuck f (List.dropLast_subset _ hf)
    · rw [List.dropLast_append_of_ne_nil hending', List.forall_mem_append]
      exact ⟨htrips.unstuck, hending.unstuck⟩
  rw [hunstuck e hmem] at he
  cases he

/-- Nothing follows when the last activity has started.  The activities that start stand at the
positions two, four and so on. -/
theorem Story.eq_nil_of_last (h : Story net p id es l) (hes : es = before ++ e :: after)
    (he : e.kind.isActivityStart = true)
    (hlast : 2 * (before.countP (fun f => f.kind.isActivityStart) + 1) + 1 = p.length) :
    after = [] := by
  rcases h with ⟨i, trips, ending, rfl, htrips, hending⟩
  have hcount := congrArg (List.countP fun f : Event => f.kind.isActivityStart) hes
  have htrips' := htrips.countP_start
  simp only [List.countP_append, hending.countP_start, List.countP_cons, he, if_true] at hcount
  rcases htrips.last (by omega) with ⟨hlt, f, hf, hstart⟩
  have hnone : after.countP (fun f => f.kind.isActivityStart) = 0 := by omega
  rw [hending.eq_nil (by omega), List.append_nil] at hes
  rcases List.eq_nil_or_concat after with hafter | ⟨between, g, hafter⟩
  · exact hafter
  · rw [List.concat_eq_append] at hafter
    have hg : g = f := by
      rw [hes, hafter, ← List.cons_append, ← List.append_assoc, List.getLast?_concat] at hf
      exact Option.some.inj hf
    have hquiet := List.countP_eq_zero.1 hnone g (by simp [hafter])
    exact absurd (hg ▸ hstart) hquiet

end Stops

/-! ## Telling a story -/

/-- What the events of an agent tell, by its state: it rests after whole trips, or is underway
after them, or its story has stopped. -/
def Agent.Tells (net : Network) (p : Plan) (a : Agent) (es : List Event) : Prop :=
  match a.state with
  | .atActivity => Trips net p a.id a.element es ∧ p.linkAt a.element = some a.link
  | .enRoute => ∃ i trips way, a.element = i + 1 ∧ es = trips ++ way ∧
      Trips net p a.id i trips ∧ Underway net p a.id i way a.link
  | .removed _ => Story net p a.id es a.link
  | .departing => False
  | .arriving => False

section Telling

variable {net : Network} {replanner : Option Replanner} {now : Time} {p : Plan} {a b : Agent}
  {es events : List Event}

namespace Agent

/-- At an activity all trips so far have been told, and the agent is where they lead. -/
theorem Tells.atActivity (h : a.Tells net p es) (hstate : a.state = .atActivity) :
    Trips net p a.id a.element es ∧ p.linkAt a.element = some a.link := by
  simpa [Tells, hstate] using h

/-- On the road all trips but the last have been told, and of the last one the way so far. -/
theorem Tells.enRoute (h : a.Tells net p es) (hstate : a.state = .enRoute) :
    ∃ i trips way, a.element = i + 1 ∧ es = trips ++ way ∧ Trips net p a.id i trips ∧
      Underway net p a.id i way a.link := by
  simpa [Tells, hstate] using h

/-- What is told of an agent on its way: its trips and the way so far. -/
theorem tells_of_underway {i : Nat} {trips way : List Event} (hstate : a.state = .enRoute)
    (helement : a.element = i + 1) (htrips : Trips net p a.id i trips)
    (hway : Underway net p a.id i way a.link) : a.Tells net p (trips ++ way) := by
  unfold Tells
  rw [hstate]
  exact ⟨i, trips, way, helement, rfl, htrips, hway⟩

/-- What is told of an agent that is out: its trips and how they ended. -/
theorem tells_of_removed {i : Nat} {how : Removal} {trips ending : List Event}
    (hstate : a.state = .removed how) (htrips : Trips net p a.id i trips)
    (hending : Ending net p a.id i ending a.link) : a.Tells net p (trips ++ ending) := by
  unfold Tells
  rw [hstate]
  exact ⟨i, trips, ending, rfl, htrips, hending⟩

/-- Whatever the state, the events are a story that ends on the agent's link. -/
theorem Tells.story (h : a.Tells net p es) : Story net p a.id es a.link := by
  cases hstate : a.state with
  | atActivity =>
      rcases h.atActivity hstate with ⟨htrips, hlink⟩
      exact ⟨_, es, [], (List.append_nil es).symm, htrips, .rest hlink⟩
  | enRoute =>
      rcases h.enRoute hstate with ⟨i, trips, way, -, rfl, htrips, hway⟩
      exact ⟨i, trips, way, rfl, htrips, .underway hway⟩
  | removed how => simpa [Tells, hstate] using h
  | departing => simp [Tells, hstate] at h
  | arriving => simp [Tells, hstate] at h

/-- After whole trips the agent is at an activity, or its day is complete. -/
theorem tells_startActivity (htrips : Trips net p a.id a.element es)
    (hlink : p.linkAt a.element = some a.link) (act : Activity) (now : Time) :
    (a.startActivity act now).agent.Tells net p es := by
  rcases a.startActivity_cases act now with ⟨-, h⟩ | ⟨-, h⟩
  · rw [h, ← List.append_nil es]
    exact tells_of_removed rfl htrips (.rest hlink)
  · rw [h]
    exact ⟨htrips, hlink⟩

end Agent

/-- An agent at an activity has made whole trips up to it, and is on its link. -/
theorem Agent.Tells.activity {act : Activity} (h : a.Tells net p es) (hagrees : p.Agrees a.plan)
    (hstate : a.state = .atActivity) (hact : a.plan.activity? a.element = some act) :
    Trips net p a.id a.element es ∧ p.activity? a.element = some act ∧ act.link = a.link := by
  rcases h.atActivity hstate with ⟨htrips, hlink⟩
  rw [hagrees.activity] at hact
  rw [Plan.linkAt, hact, Option.map_some, Option.some.injEq] at hlink
  exact ⟨htrips, hact, hlink⟩

/-- An agent that has departed is underway on the link of its activity. -/
theorem Underway.of_departure {i : Nat} {act : Activity} {mode : Mode}
    (hact : p.activity? i = some act) (hlink : act.link = a.link)
    (hmode : p.modeAt (i + 1) = some mode) (now : Time) :
    Underway net p a.id i
      [a.event now (.activityEnd act.kind), a.event now (.departure mode)] a.link := by
  have hway : Underway net p a.id i _ _ := .depart hact hmode now .start
  rwa [hlink] at hway

/-- Every deed goes on with the story of its agent. -/
theorem Deed.tells (h : Deed net replanner now a events b) (hcoherent : a.Coherent net)
    (hagrees : p.Agrees a.plan) (ha : a.Tells net p es) : b.Tells net p (es ++ events) := by
  cases h with
  | strand h =>
      rcases ha.activity hagrees h.state h.activity with ⟨htrips, hact, hlink⟩
      rcases hcoherent.plan.leg_after_activity h.activity h.planned with ⟨leg, hleg⟩
      have hending : Ending net p a.id a.element _ _ :=
        .stranded hact (hagrees.modeAt_of_leg? hleg) now .missingRoute
      rw [hlink] at hending
      exact Agent.tells_of_removed rfl htrips hending
  | @stay act next mode r h =>
      rcases ha.activity hagrees h.state h.activity with ⟨htrips, hact, hlink⟩
      have hmode := hagrees.modeAt_of_leg? h.leg
      have hnext : p.activity? (a.element + 2) = some next := by
        rw [← hagrees.activity]
        exact h.following
      have hway : Underway net p a.id a.element _ a.link :=
        .of_departure hact hlink hmode now
      have htrips' := htrips.arrive hway hmode hnext h.link now
      rw [List.append_assoc] at htrips'
      exact Agent.tells_startActivity (a := a.stayed) htrips'
        (Plan.linkAt_eq_some_iff.2 ⟨next, hnext, h.link⟩) next now
  | depart h =>
      rcases ha.activity hagrees h.state h.activity with ⟨htrips, hact, hlink⟩
      have hmode := hagrees.modeAt_of_leg? h.leg
      exact Agent.tells_of_underway rfl rfl htrips (.of_departure hact hlink hmode now)
  | keep h =>
      rw [h.eq, List.append_nil]
      exact ha
  | cross h =>
      rcases ha.enRoute h.state with ⟨i, trips, way, helement, rfl, htrips, hway⟩
      have hconnects := (h.onRoute.continuation_spec h.choice).2
      rw [List.append_assoc]
      exact Agent.tells_of_underway h.state helement htrips (hway.cross now hconnects)
  | @arrive r mode next h =>
      rcases ha.enRoute h.state with ⟨i, trips, way, helement, rfl, htrips, hway⟩
      have hmode : p.modeAt (i + 1) = some mode := by
        rw [← helement]
        exact hagrees.modeAt_of_leg? h.leg
      have hnext : p.activity? (i + 2) = some next := by
        rw [← hagrees.activity, ← h.following, helement]
      have htrips' := htrips.arrive hway hmode hnext h.link now
      have helement' : a.landed.element = i + 2 := congrArg (· + 1) helement
      rw [← helement'] at htrips' hnext
      exact Agent.tells_startActivity htrips'
        (Plan.linkAt_eq_some_iff.2 ⟨next, hnext, h.link⟩) next now
  | @fail r reason h =>
      rcases ha.enRoute h.state with ⟨i, trips, way, -, rfl, htrips, hway⟩
      rw [List.append_assoc]
      exact Agent.tells_of_removed rfl htrips (.lost hway now reason)
  | replan hrep h =>
      rcases ha.enRoute h.state with ⟨i, trips, way, helement, rfl, htrips, hway⟩
      rw [List.append_assoc]
      exact Agent.tells_of_underway h.state helement htrips (hway.replan now _)

end Telling

end TrafficQueue
