import TrafficQueue.Proofs.Agent.Position

/-!
# Outcomes of an agent's operations

Each operation of an agent, from a coherent position, has one of a few outcomes.
This module names the agent after each of them and opens the operations once, so
that later modules work with the outcomes only.

Main results:

- Theorems `Agent.endActivity_stranded`, `endActivity_stayed` and
  `endActivity_departed`: the three ways of ending an activity.
- Theorems `Agent.crossNode_crossed` and `arrive_landed`: the two ways of leaving a
  link along the route.
- Theorem `Agent.startActivity_cases`: the day is complete, or the agent stays.
-/

namespace TrafficQueue

namespace Agent

variable {net : Network} {a kept : Agent} {r : Route} {act next : Activity} {mode : Mode}
  {now : Time} {α : Type} {queues queues' : QueueNetwork α}

/-! ## The agent afterwards -/

/-- The activity has ended and its leg has no route. -/
def stranded (a : Agent) : Agent :=
  { a with element := a.element + 1, state := .removed (.stuck .missingRoute), memo := {} }

/-- The leg has begun on the agent's link. -/
def departed (a : Agent) (r : Route) : Agent :=
  { a with
    element := a.element + 1, state := .enRoute, routeIndex := 0, memo := ⟨none, some r.via⟩ }

/-- The leg has begun and ended on the agent's link, and the next activity has not begun. -/
def stayed (a : Agent) : Agent :=
  { a with element := a.element + 2, state := .arriving, routeIndex := 0, memo := {} }

/-- The next link of the route is entered. -/
def crossed (a : Agent) (l : LinkId) : Agent :=
  { a with link := l, routeIndex := a.routeIndex + 1, memo := { a.memo with next := none } }

/-- The leg has ended and the next activity has not begun. -/
def landed (a : Agent) : Agent :=
  { a with element := a.element + 1, state := .arriving, memo := {} }

/-- The agent is removed from its link. -/
def evicted (a : Agent) (reason : StuckReason) : Agent :=
  { a with state := .removed (.stuck reason), memo := {} }

@[simp]
theorem id_stranded (a : Agent) : a.stranded.id = a.id :=
  rfl

@[simp]
theorem id_departed (a : Agent) (r : Route) : (a.departed r).id = a.id :=
  rfl

@[simp]
theorem id_stayed (a : Agent) : a.stayed.id = a.id :=
  rfl

@[simp]
theorem id_landed (a : Agent) : a.landed.id = a.id :=
  rfl

@[simp]
theorem id_crossed (a : Agent) (l : LinkId) : (a.crossed l).id = a.id :=
  rfl

@[simp]
theorem id_evicted (a : Agent) (reason : StuckReason) : (a.evicted reason).id = a.id :=
  rfl

/-! ## Starting an activity -/

/-- After the last activity the day is complete; otherwise the agent stays until the departure time
of the activity. -/
theorem startActivity_cases (a : Agent) (act : Activity) (now : Time) :
    (a.plan.length ≤ a.element + 1 ∧
        a.startActivity act now =
          { agent := { a with departure := .never, state := .removed .completed }
            events := [a.event now (.activityStart act.kind)]
            answer := .completed }) ∨
      (a.element + 1 < a.plan.length ∧
        a.startActivity act now =
          { agent := { a with departure := act.departure now, state := .atActivity }
            events := [a.event now (.activityStart act.kind)]
            answer :=
              if act.departure now = .never then .resting
              else .scheduled (act.departure now) }) := by
  unfold startActivity
  by_cases hlast : a.plan.length ≤ a.element + 1
  · exact .inl ⟨hlast, by simp [hlast]⟩
  · exact .inr ⟨by omega, by simp [hlast]⟩

/-- Who starts an activity tells of it. -/
theorem events_startActivity (a : Agent) (act : Activity) (now : Time) :
    (a.startActivity act now).events = [a.event now (.activityStart act.kind)] := by
  rcases a.startActivity_cases act now with ⟨-, h⟩ | ⟨-, h⟩ <;> rw [h]

/-- Who starts an activity stays the same agent. -/
theorem id_startActivity (a : Agent) (act : Activity) (now : Time) :
    (a.startActivity act now).agent.id = a.id := by
  rcases a.startActivity_cases act now with ⟨-, h⟩ | ⟨-, h⟩ <;> rw [h]

/-- To start an activity changes no plan. -/
theorem plan_startActivity (a : Agent) (act : Activity) (now : Time) :
    (a.startActivity act now).agent.plan = a.plan := by
  rcases a.startActivity_cases act now with ⟨-, h⟩ | ⟨-, h⟩ <;> rw [h]

/-- To start an activity changes no strategy. -/
theorem strategy_startActivity (a : Agent) (act : Activity) (now : Time) :
    (a.startActivity act now).agent.strategy = a.strategy := by
  rcases a.startActivity_cases act now with ⟨-, h⟩ | ⟨-, h⟩ <;> rw [h]

/-- Who starts an activity is not on the road. -/
theorem state_startActivity (a : Agent) (act : Activity) (now : Time) :
    (a.startActivity act now).agent.state ≠ .enRoute := by
  rcases a.startActivity_cases act now with ⟨-, h⟩ | ⟨-, h⟩ <;> simp [h]

/-- An agent that starts an activity of its plan on its link is coherent. -/
theorem coherent_startActivity (hplan : a.plan.Fits net)
    (hact : a.plan.activity? a.element = some act) (hlink : act.link = a.link) (now : Time) :
    (a.startActivity act now).agent.Coherent net := by
  rcases a.startActivity_cases act now with ⟨-, h⟩ | ⟨-, h⟩
  · rw [h]
    exact coherent_of_removed hplan rfl
  · rw [h]
    exact ⟨hplan, Plan.linkAt_eq_some_iff.2 ⟨act, hact, hlink⟩⟩

/-- The next activity begins where the leg ends. -/
theorem finishLeg_of_destination (hleg : a.leg? = some ⟨mode, some r⟩)
    (hdest : r.destination = a.link) (hnext : a.plan.activity? (a.element + 1) = some next) :
    a.finishLeg now =
      (({ a with element := a.element + 1, memo := {} } : Agent).startActivity next now).after
        [a.event now (.arrival mode)] := by
  simp [finishLeg, hleg, hdest, hnext]

/-! ## Ending an activity -/

/-- The leg after an activity starts on the link of the activity. -/
theorem Coherent.route_after_activity (h : a.Coherent net) (hstate : a.state = .atActivity)
    (hroute : a.plan.route? (a.element + 1) = some r) :
    r.origin = a.link ∧ ∃ act, a.plan.activity? (a.element + 2) = some act ∧
      act.link = r.destination := by
  rcases h.plan.route _ r hroute with ⟨-, ho, hd⟩
  have hlink := h.place.atActivity hstate
  rw [Nat.add_sub_cancel, hlink] at ho
  exact ⟨(Option.some.inj ho).symm, Plan.linkAt_eq_some_iff.1 hd⟩

/-- Who departs from its activity on a route that leads away is at the first link of the route. -/
theorem Coherent.departed (h : a.Coherent net) (hstate : a.state = .atActivity)
    (hroute : a.plan.route? (a.element + 1) = some r) (hleaves : r.isSameLink = false) :
    (a.departed r).OnRoute net r := by
  refine ⟨hroute, hleaves, ?_, ?_, ?_⟩
  · change r.full[0]? = some a.link
    rw [← List.head?_eq_getElem?, Route.head?_full, (h.route_after_activity hstate hroute).1]
  · rintro via ⟨⟩
    rfl
  · rintro l ⟨⟩

/-- Who is on its route is where it belongs. -/
theorem Coherent.of_onRoute (hplan : a.plan.Fits net) (hstate : a.state = .enRoute)
    (h : a.OnRoute net r) : a.Coherent net := by
  refine ⟨hplan, ?_⟩
  unfold InPlace
  rw [hstate]
  exact ⟨r, h⟩

/-- The agent between the end of its activity and its leg. -/
def leaving (a : Agent) : Agent :=
  { a with element := a.element + 1, state := .departing }

/-- An activity ends with its event, and with the start of the leg after it. -/
theorem endActivity_eq (hstate : a.state = .atActivity)
    (hact : a.plan.activity? a.element = some act) (now : Time) (queues : QueueNetwork α) :
    a.endActivity now queues =
      ((a.leaving.startLeg now queues).1.after [a.event now (.activityEnd act.kind)],
        (a.leaving.startLeg now queues).2) := by
  unfold endActivity
  rw [if_pos hstate, hact]
  rfl

/-- Without a route the agent is removed where it is. -/
theorem endActivity_stranded (hstate : a.state = .atActivity)
    (hact : a.plan.activity? a.element = some act)
    (hroute : a.plan.route? (a.element + 1) = none) (now : Time) (queues : QueueNetwork α) :
    a.endActivity now queues =
      (⟨a.stranded, [a.event now (.activityEnd act.kind), a.event now (.stuck .missingRoute)],
        .ok (.stuck .missingRoute)⟩, queues) := by
  have hstart : a.leaving.startLeg now queues =
      ((a.leaving.remove .missingRoute now).map Except.ok, queues) := by
    unfold startLeg
    split
    · rename_i m route hleg
      have hleg' : a.plan.leg? (a.element + 1) = some ⟨m, some route⟩ := hleg
      rw [Plan.route?, hleg'] at hroute
      cases hroute
    · rfl
  rw [endActivity_eq hstate hact, hstart]
  rfl

/-- A leg that stays on its link is over at once. -/
theorem endActivity_stayed (hstate : a.state = .atActivity)
    (hact : a.plan.activity? a.element = some act)
    (hleg : a.plan.leg? (a.element + 1) = some ⟨mode, some r⟩) (hsame : r.isSameLink = true)
    (hdest : r.destination = a.link)
    (hnext : a.plan.activity? (a.element + 2) = some next) (now : Time)
    (queues : QueueNetwork α) :
    a.endActivity now queues =
      (⟨(a.stayed.startActivity next now).agent,
        [a.event now (.activityEnd act.kind), a.event now (.departure mode),
          a.event now (.arrival mode)] ++ (a.stayed.startActivity next now).events,
        .ok (a.stayed.startActivity next now).answer⟩, queues) := by
  let b : Agent :=
    { a.leaving with state := .arriving, routeIndex := 0, memo := ⟨none, some r.via⟩ }
  have hfinish : b.finishLeg now =
      (a.stayed.startActivity next now).after [a.event now (.arrival mode)] :=
    finishLeg_of_destination hleg hdest hnext
  have hstart : a.leaving.startLeg now queues =
      (((b.finishLeg now).map Except.ok).after [a.event now (.departure mode)], queues) := by
    have hleg' : a.leaving.leg? = some ⟨mode, some r⟩ := hleg
    unfold startLeg
    simp only [hleg', hsame, if_true]
    rfl
  rw [endActivity_eq hstate hact, hstart, hfinish]
  rfl

/-- With a route to another link the vehicle departs. -/
theorem endActivity_departed {d : Departure} (hstate : a.state = .atActivity)
    (hact : a.plan.activity? a.element = some act)
    (hleg : a.plan.leg? (a.element + 1) = some ⟨mode, some r⟩) (hleaves : r.isSameLink = false)
    (hdepart : queues.depart a.vehicle a.link now = .ok (d, queues')) :
    a.endActivity now queues =
      (⟨a.departed r, [a.event now (.activityEnd act.kind), a.event now (.departure mode)],
        .ok .enRoute⟩, queues') := by
  have hleg' : a.leaving.leg? = some ⟨mode, some r⟩ := hleg
  have hdepart' : queues.depart
      (Agent.vehicle { a.leaving with routeIndex := 0, memo := ⟨none, some r.via⟩ })
      a.leaving.link now = .ok (d, queues') := hdepart
  have hstart : a.leaving.startLeg now queues =
      (⟨a.departed r, [a.event now (.departure mode)], .ok .enRoute⟩, queues') := by
    unfold startLeg
    simp only [hleg', hleaves, Bool.false_eq_true, if_false, hdepart']
    rfl
  rw [endActivity_eq hstate hact, hstart]
  rfl

/-! ## Leaving a link -/

/-- The next link of the route becomes the position. -/
theorem OnRoute.crossed {l : LinkId} (h : a.OnRoute net r)
    (hnext : a.continuation net r.via r.destination = some (.link l)) :
    (a.crossed l).OnRoute net r := by
  refine ⟨h.route, h.leaves, (h.continuation_spec hnext).1, h.memo_via, ?_⟩
  rintro m ⟨⟩

/-- Who crosses a node leaves one link and comes onto the other. -/
theorem crossNode_crossed {l : LinkId} {exit : Time} (hstate : a.state = .enRoute)
    (hqueue : queues.enqueue a.vehicle l now = .ok (exit, queues')) :
    a.crossNode l now queues =
      (⟨a.crossed l, [a.event now (.linkLeave a.vehicle.id),
          (a.crossed l).event now (.linkEnter a.vehicle.id)], .ok ()⟩, queues') := by
  have hqueue' : queues.enqueue (Agent.vehicle { a with
      state := .arriving, link := l, routeIndex := a.routeIndex + 1,
      memo := { a.memo with next := none } }) l now = .ok (exit, queues') := hqueue
  have hafter : a.crossed l = { a.crossed l with state := .enRoute } := by
    simp [Agent.crossed, hstate]
  unfold crossNode
  rw [if_pos hstate, hafter]
  simp only [hqueue]
  rfl

/-- An agent on its destination ends its leg there. -/
theorem arrive_landed (hstate : a.state = .enRoute) (hleg : a.leg? = some ⟨mode, some r⟩)
    (hdest : r.destination = a.link) (hnext : a.plan.activity? (a.element + 1) = some next)
    (now : Time) :
    a.arrive now =
      ⟨(a.landed.startActivity next now).agent,
        a.event now (.arrival mode) :: (a.landed.startActivity next now).events,
        .ok (a.landed.startActivity next now).answer⟩ := by
  have hfinish : Agent.finishLeg { a with state := .arriving } now =
      (a.landed.startActivity next now).after [a.event now (.arrival mode)] :=
    finishLeg_of_destination hleg hdest hnext
  unfold arrive
  rw [if_pos hstate, hfinish]
  rfl

/-- The end of a leg is the activity after it, on the destination of the route. -/
theorem OnRoute.activity_after (h : a.OnRoute net r) (hplan : a.plan.Fits net) :
    (∃ mode, a.leg? = some ⟨mode, some r⟩) ∧
      ∃ act, a.plan.activity? (a.element + 1) = some act ∧ act.link = r.destination := by
  rcases Plan.route?_eq_some_iff.1 h.route with ⟨⟨mode, route⟩, hleg, hroute⟩
  simp only at hroute
  subst hroute
  exact ⟨⟨mode, hleg⟩, Plan.linkAt_eq_some_iff.1 (hplan.route _ r h.route).2.2⟩

end Agent

end TrafficQueue
