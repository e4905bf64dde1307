import TrafficQueue.Agent.Execution

/-!
# Agents with other strategies

No operation by which an agent carries out its plan looks at the strategy of the
agent: giving it another strategy before the operation is the same as giving it to it
afterwards.

Main results:

- Definition `Agent.withStrategy`: an agent with another strategy.
- Theorems `Agent.chooseNext_withStrategy`, `Agent.endActivity_withStrategy`,
  `Agent.crossNode_withStrategy` and `Agent.arrive_withStrategy`: the operations of such
  an agent.
-/

namespace TrafficQueue

variable (strategy : Option Strategy)

/-- The agent with another strategy, if one is given. -/
def Agent.withStrategy (a : Agent) : Agent := { a with strategy := strategy.getD a.strategy }

/-- The effect on an agent that has another strategy. -/
def Effect.withStrategy {α : Type} (e : Effect α) : Effect α :=
  { e with agent := e.agent.withStrategy strategy }

@[simp]
theorem Effect.withStrategy_after {α : Type} (earlier : List Event) (e : Effect α) :
    (e.after earlier).withStrategy strategy = (e.withStrategy strategy).after earlier :=
  rfl

@[simp]
theorem Effect.withStrategy_map {α β : Type} (f : α → β) (e : Effect α) :
    (e.map f).withStrategy strategy = (e.withStrategy strategy).map f :=
  rfl

namespace Agent

variable (a : Agent) (now : Time)

@[simp]
theorem id_withStrategy : (a.withStrategy strategy).id = a.id :=
  rfl

/-- The strategy makes no difference to when an activity ends. -/
theorem schedule_withStrategy :
    (a.withStrategy strategy).schedule now =
      ((a.schedule now).1, (a.schedule now).2.withStrategy strategy) := by
  have hplan : (a.withStrategy strategy).plan = a.plan := rfl
  unfold schedule
  rw [hplan]
  cases a.plan.activity? 0 <;> rfl

/-! ## Choosing -/

/-- The strategy makes no difference to what is kept for the next link. -/
theorem keepChoice_withStrategy (via : List LinkId) (next : NextLink) :
    (a.withStrategy strategy).keepChoice via next =
      (a.keepChoice via next).withStrategy strategy := by
  cases next <;> rfl

/-- The strategy makes no difference to the next link. -/
theorem chooseNext_withStrategy (net : Network) :
    (a.withStrategy strategy).chooseNext net =
      (a.chooseNext net).map fun choice => (choice.1, choice.2.withStrategy strategy) := by
  have hmemo : (a.withStrategy strategy).memo = a.memo := rfl
  have hroute : (a.withStrategy strategy).route? = a.route? := rfl
  unfold chooseNext
  rw [hmemo, hroute]
  cases a.memo.next with
  | some next => rfl
  | none =>
      cases a.route? with
      | none => rfl
      | some route =>
          simp only [Option.map_map, keepChoice_withStrategy]
          rfl

/-! ## Activities and legs -/

/-- The strategy makes no difference to who is removed. -/
theorem remove_withStrategy (reason : StuckReason) :
    (a.withStrategy strategy).remove reason now =
      (a.remove reason now).withStrategy strategy :=
  rfl

/-- The strategy makes no difference to the start of an activity. -/
theorem startActivity_withStrategy (act : Activity) :
    (a.withStrategy strategy).startActivity act now =
      (a.startActivity act now).withStrategy strategy := by
  have hplan : (a.withStrategy strategy).plan = a.plan := rfl
  have helement : (a.withStrategy strategy).element = a.element := rfl
  unfold startActivity
  rw [hplan, helement]
  by_cases hlast : a.plan.length ≤ a.element + 1
  · rw [if_pos hlast, if_pos hlast]
    rfl
  · rw [if_neg hlast, if_neg hlast]
    rfl

/-- The strategy makes no difference to the end of a leg. -/
theorem finishLeg_withStrategy :
    (a.withStrategy strategy).finishLeg now = (a.finishLeg now).withStrategy strategy := by
  have hleg : (a.withStrategy strategy).leg? = a.leg? := rfl
  have hlink : (a.withStrategy strategy).link = a.link := rfl
  have hnext : (a.withStrategy strategy).plan.activity?
      ((a.withStrategy strategy).element + 1) = a.plan.activity? (a.element + 1) := rfl
  unfold finishLeg
  rw [hleg, hlink]
  rcases a.leg? with _ | ⟨mode, _ | route⟩
  · rfl
  · rfl
  · by_cases hdest : route.destination = a.link
    · simp only [hdest, if_true, hnext]
      cases a.plan.activity? (a.element + 1) with
      | none => rfl
      | some act =>
          have hstart := startActivity_withStrategy strategy
            { a with element := a.element + 1, memo := {} } now act
          exact congrArg (Effect.after [a.event now (.arrival mode)]) hstart
    · simp only [hdest, if_false]
      rfl

section Queues

variable {α : Type} (queues : QueueNetwork α)

/-- The strategy makes no difference to the start of a leg. -/
theorem startLeg_withStrategy :
    (a.withStrategy strategy).startLeg now queues =
      ((a.startLeg now queues).1.withStrategy strategy, (a.startLeg now queues).2) := by
  have hleg : (a.withStrategy strategy).leg? = a.leg? := rfl
  have hlink : (a.withStrategy strategy).link = a.link := rfl
  unfold startLeg
  rw [hleg, hlink]
  rcases a.leg? with _ | ⟨mode, _ | route⟩
  · rfl
  · rfl
  · cases hsame : route.isSameLink with
    | true =>
        have hfinish := finishLeg_withStrategy strategy
          { a with state := .arriving, routeIndex := 0, memo := ⟨none, some route.via⟩ } now
        simp only [hsame, if_true, Effect.withStrategy_after, Effect.withStrategy_map]
        rw [← hfinish]
        rfl
    | false =>
        simp only [hsame, Bool.false_eq_true, if_false, vehicle, id_withStrategy]
        cases queues.depart ⟨a.id.vehicle, a.id⟩ a.link now <;> rfl

/-- The strategy makes no difference to the end of an activity. -/
theorem endActivity_withStrategy :
    (a.withStrategy strategy).endActivity now queues =
      ((a.endActivity now queues).1.withStrategy strategy, (a.endActivity now queues).2) := by
  have hstate : (a.withStrategy strategy).state = a.state := rfl
  unfold endActivity
  rw [hstate]
  by_cases h : a.state = .atActivity
  · have hstart := startLeg_withStrategy strategy
      { a with element := a.element + 1, state := .departing } now queues
    rw [if_pos h, if_pos h]
    exact congrArg (fun done : Effect (Except AgentError Transition) × QueueNetwork α =>
      (done.1.after _, done.2)) hstart
  · rw [if_neg h, if_neg h]
    rfl

/-! ## Moving -/

/-- The strategy makes no difference to who crosses a node. -/
theorem crossNode_withStrategy (next : LinkId) :
    (a.withStrategy strategy).crossNode next now queues =
      ((a.crossNode next now queues).1.withStrategy strategy,
        (a.crossNode next now queues).2) := by
  have hstate : (a.withStrategy strategy).state = a.state := rfl
  have hvehicle : (a.withStrategy strategy).vehicle = a.vehicle := rfl
  unfold crossNode
  rw [hstate, hvehicle]
  by_cases h : a.state = .enRoute
  · simp only [h, if_true]
    cases queues.enqueue a.vehicle next now <;> rfl
  · simp only [h, if_false]
    rfl

end Queues

/-- The strategy makes no difference to who arrives. -/
theorem arrive_withStrategy :
    (a.withStrategy strategy).arrive now = (a.arrive now).withStrategy strategy := by
  have hstate : (a.withStrategy strategy).state = a.state := rfl
  unfold arrive
  rw [hstate]
  by_cases h : a.state = .enRoute
  · have hfinish := finishLeg_withStrategy strategy { a with state := .arriving } now
    rw [if_pos h, if_pos h, Effect.withStrategy_map, ← hfinish]
    rfl
  · rw [if_neg h, if_neg h]
    rfl

end Agent

end TrafficQueue
