import TrafficQueue.Agent.Choice
import TrafficQueue.Agent.Execution
import TrafficQueue.Proofs.Queue.Later

/-!
# Agents moved to a later time

An agent with a moved plan that acts later by as much does the same things later.  Only
whoever would leave an activity at the end of time stays there for good.

Main results:

- Definitions `Event.later`, `Transition.later` and `Agent.later`.
- Theorem `Agent.schedule_later`: when the first activity ends.
- Theorems `Agent.chooseNext_later`, `Agent.endActivity_later`, `Agent.crossNode_later`
  and `Agent.arrive_later`: the operations of a moved agent.
-/

namespace TrafficQueue

variable (d : Nat)

/-- The event at a later time. -/
def Event.later (e : Event) : Event := { e with time := e.time.offset d }

/-- The transition with its time moved; at the end of time nobody leaves. -/
def Transition.later : Transition → Transition
  | .scheduled t => if t.offset d = .never then .resting else .scheduled (t.offset d)
  | .resting => .resting
  | .enRoute => .enRoute
  | .completed => .completed
  | .stuck reason => .stuck reason

/-- The agent with its plan and its time of departure moved. -/
def Agent.later (a : Agent) : Agent :=
  { a with plan := a.plan.later d, departure := a.departure.offset d }

/-- The effect on a moved agent, with the events moved and the answer changed as given. -/
def Effect.later {β : Type} (f : β → β) (e : Effect β) : Effect β :=
  ⟨e.agent.later d, e.events.map (Event.later d), f e.answer⟩

/-- What an operation tells can be put off together with what was told before. -/
theorem Effect.later_after {β : Type} (f : β → β) (earlier : List Event) (e : Effect β) :
    (e.after earlier).later d f = (e.later d f).after (earlier.map (Event.later d)) := by
  simp [later, after]

/-- What cannot fail can be put off before or after it is said not to fail. -/
theorem Effect.later_ok {β ε : Type} (f : β → β) (e : Effect β) :
    (e.map (Except.ok : β → Except ε β)).later d (Except.map f) = (e.later d f).map Except.ok :=
  rfl

/-- When a departure is scheduled, moved or not. -/
theorem Transition.later_of_departure (t : Time) :
    later d (if t = .never then .resting else .scheduled t) =
      if t.offset d = .never then .resting else .scheduled (t.offset d) := by
  by_cases h : t = .never
  · rw [if_pos h, h, Time.never_offset, if_pos rfl]
    rfl
  · rw [if_neg h]
    rfl

namespace Agent

variable (a : Agent) (now : Time)

@[simp]
theorem id_later : (a.later d).id = a.id :=
  rfl

@[simp]
theorem leg?_later : (a.later d).leg? = a.leg? :=
  Plan.leg?_later d a.plan a.element

@[simp]
theorem route?_later : (a.later d).route? = a.route? := by
  rw [route?, leg?_later, route?]

/-- Who is put off leaves later by as much. -/
theorem schedule_later :
    (a.later d).schedule (now.offset d) =
      ((a.schedule now).1.later d, (a.schedule now).2.later d) := by
  have hfirst : (a.later d).plan.activity? 0 = (a.plan.activity? 0).map (Activity.later d) :=
    Plan.activity?_later d a.plan 0
  have hlength : (a.later d).plan.length = a.plan.length := Plan.length_later d a.plan
  unfold schedule
  rw [hfirst, hlength]
  cases a.plan.activity? 0 with
  | none => rfl
  | some act =>
      have htransition : ∀ departure : Time,
          (if 1 < a.plan.length ∧ departure.offset d ≠ .never then
            Transition.scheduled (departure.offset d) else .resting) =
          Transition.later d (if 1 < a.plan.length ∧ departure ≠ .never then
            .scheduled departure else .resting) := by
        intro departure
        by_cases hlong : 1 < a.plan.length
        · simp only [hlong, true_and, ne_eq, ite_not, Transition.later_of_departure]
        · simp only [hlong, false_and, if_false]
          rfl
      simp only [Option.map_some, Activity.departure_later, htransition]
      rfl

/-! ## Choosing -/

/-- What is kept for the next link does not depend on the time. -/
theorem keepChoice_later (via : List LinkId) (next : NextLink) :
    (a.later d).keepChoice via next = (a.keepChoice via next).later d := by
  cases next <;> rfl

/-- The next link does not depend on the time. -/
theorem chooseNext_later (net : Network) :
    (a.later d).chooseNext net =
      (a.chooseNext net).map fun choice => (choice.1, choice.2.later d) := by
  have hmemo : (a.later d).memo = a.memo := rfl
  unfold chooseNext
  rw [hmemo, route?_later]
  cases a.memo.next with
  | some next => rfl
  | none =>
      cases a.route? with
      | none => rfl
      | some route =>
          simp only [Option.map_map, keepChoice_later]
          rfl

/-! ## Activities and legs -/

/-- Who is removed later is removed in the same way. -/
theorem remove_later (reason : StuckReason) :
    (a.later d).remove reason (now.offset d) = (a.remove reason now).later d (Transition.later d) :=
  rfl

/-- An activity that starts later goes on later by as much. -/
theorem startActivity_later (act : Activity) :
    (a.later d).startActivity (act.later d) (now.offset d) =
      (a.startActivity act now).later d (Transition.later d) := by
  have hlength : (a.later d).plan.length = a.plan.length := Plan.length_later d a.plan
  have helement : (a.later d).element = a.element := rfl
  unfold startActivity
  rw [hlength, helement]
  by_cases hlast : a.plan.length ≤ a.element + 1
  · rw [if_pos hlast, if_pos hlast]
    simp only [Effect.later, later, Time.never_offset]
    rfl
  · rw [if_neg hlast, if_neg hlast]
    simp only [Effect.later, Activity.departure_later, Transition.later_of_departure]
    rfl

/-- A leg that ends later leads on later by as much. -/
theorem finishLeg_later :
    (a.later d).finishLeg (now.offset d) = (a.finishLeg now).later d (Transition.later d) := by
  have hlink : (a.later d).link = a.link := rfl
  have hnext : (a.later d).plan.activity? ((a.later d).element + 1) =
      (a.plan.activity? (a.element + 1)).map (Activity.later d) :=
    Plan.activity?_later d a.plan (a.element + 1)
  unfold finishLeg
  rw [leg?_later, hlink]
  rcases a.leg? with _ | ⟨mode, _ | route⟩
  · rfl
  · rfl
  · by_cases hdest : route.destination = a.link
    · simp only [hdest, if_true, hnext]
      cases a.plan.activity? (a.element + 1) with
      | none => rfl
      | some act =>
          have hstart := startActivity_later d { a with element := a.element + 1, memo := {} }
            now act
          exact congrArg (Effect.after [(a.event now (.arrival mode)).later d]) hstart
    · simp only [hdest, if_false]
      rfl

section Queues

variable {α : Type} (queues : QueueNetwork α)

/-- A leg that starts later goes on later by as much. -/
theorem startLeg_later :
    (a.later d).startLeg (now.offset d) (queues.later d) =
      ((a.startLeg now queues).1.later d (Except.map (Transition.later d)),
        (a.startLeg now queues).2.later d) := by
  have hlink : (a.later d).link = a.link := rfl
  unfold startLeg
  rw [leg?_later, hlink]
  rcases a.leg? with _ | ⟨mode, _ | route⟩
  · rfl
  · rfl
  · cases hsame : route.isSameLink with
    | true =>
        have hfinish := finishLeg_later d
          { a with state := .arriving, routeIndex := 0, memo := ⟨none, some route.via⟩ } now
        simp only [hsame, if_true, Effect.later_after, Effect.later_ok]
        rw [← hfinish]
        rfl
    | false =>
        simp only [hsame, Bool.false_eq_true, if_false, vehicle, id_later,
          QueueNetwork.depart_later]
        cases queues.depart ⟨a.id.vehicle, a.id⟩ a.link now <;> rfl

/-- An activity that ends later ends in the same way. -/
theorem endActivity_later :
    (a.later d).endActivity (now.offset d) (queues.later d) =
      ((a.endActivity now queues).1.later d (Except.map (Transition.later d)),
        (a.endActivity now queues).2.later d) := by
  have hstate : (a.later d).state = a.state := rfl
  have hended : ((a.later d).plan.activity? (a.later d).element).toList.map (fun act =>
      (a.later d).event (now.offset d) (.activityEnd act.kind)) =
        ((a.plan.activity? a.element).toList.map fun act =>
          a.event now (.activityEnd act.kind)).map (Event.later d) := by
    have hact : (a.later d).plan.activity? (a.later d).element = _ :=
      Plan.activity?_later d a.plan a.element
    rw [hact]
    cases a.plan.activity? a.element <;> rfl
  unfold endActivity
  rw [hstate]
  by_cases h : a.state = .atActivity
  · have hstart := startLeg_later d { a with element := a.element + 1, state := .departing }
      now queues
    rw [if_pos h, if_pos h]
    simp only [hended, Effect.later_after]
    exact congrArg (fun done : Effect (Except AgentError Transition) × QueueNetwork α =>
      (done.1.after _, done.2)) hstart
  · rw [if_neg h, if_neg h]
    rfl

/-! ## Moving -/

/-- Who crosses a node later does so in the same way. -/
theorem crossNode_later (next : LinkId) :
    (a.later d).crossNode next (now.offset d) (queues.later d) =
      ((a.crossNode next now queues).1.later d fun answer => answer,
        (a.crossNode next now queues).2.later d) := by
  have hstate : (a.later d).state = a.state := rfl
  have hvehicle : (a.later d).vehicle = a.vehicle := rfl
  unfold crossNode
  rw [hstate, hvehicle, QueueNetwork.enqueue_later]
  by_cases h : a.state = .enRoute
  · simp only [h, if_true]
    cases queues.enqueue a.vehicle next now <;> rfl
  · simp only [h, if_false]
    rfl

end Queues

/-- Who arrives later does so in the same way. -/
theorem arrive_later :
    (a.later d).arrive (now.offset d) =
      (a.arrive now).later d (Except.map (Transition.later d)) := by
  have hstate : (a.later d).state = a.state := rfl
  unfold arrive
  rw [hstate]
  by_cases h : a.state = .enRoute
  · have hfinish := finishLeg_later d { a with state := .arriving } now
    rw [if_pos h, if_pos h, Effect.later_ok, ← hfinish]
    rfl
  · rw [if_neg h, if_neg h]
    rfl

end Agent

end TrafficQueue
