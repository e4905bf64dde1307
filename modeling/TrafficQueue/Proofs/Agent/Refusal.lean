import TrafficQueue.Event.Bus
import TrafficQueue.Proofs.Agent.Outcomes
import TrafficQueue.Proofs.Queue.Frame

/-!
# Operations of agents that fail

An operation of an agent changes the agent, puts events on the bus and asks the queues, one
after the other.  Here the operations are programs that do so in place, so what they have
changed before they fail stays changed.  An operation in the wrong state fails before it
changes anything.  The queues are asked last: when they refuse, they stay as they were, but
the agent has already left its activity or its link.

Main results:

- Definition `Scene.perform`: an operation of an agent that changes things in place.
- Theorems `SceneProgram.run_endActivity`, `run_crossNode` and `run_arrive`: it does what
  the operation of the agent answers.
- Definition `Refusal`: how an operation fails, and what it leaves.
- Theorem `Scene.fails_iff`: it fails in these ways and in no other.
- Theorem `Scene.refused_after_moving`: a failure can leave an agent between two links.
-/

namespace TrafficQueue

/-! ## Operations in place -/

/-- All that an operation of an agent can change. -/
structure Scene (α σ : Type) where
  agent : Agent
  queues : QueueNetwork α
  bus : EventBus σ

/-- A program on an agent, the queues and the bus. -/
abbrev SceneProgram (α σ β : Type) := Program (Scene α σ) AgentError β

namespace SceneProgram

variable {α σ β : Type}

/-- Changes the agent. -/
def change (f : Agent → Agent) : SceneProgram α σ Unit :=
  modify fun x => { x with agent := f x.agent }

/-- Tells of something that happens to the agent. -/
def emit (now : Time) (kind : Agent → EventKind) : SceneProgram α σ Unit :=
  modify fun x => { x with bus := x.bus.emit (x.agent.event now (kind x.agent)) }

/-- Asks the queues in place.  If they refuse, so does the program. -/
def ask (p : Agent → QueueProgram α β) : SceneProgram α σ β := .mk fun x =>
  match (p x.agent).run x.queues with
  | (.error e, queues) => (.error (.queue e), { x with queues })
  | (.ok b, queues) => (.ok b, { x with queues })

/-- Carries out what cannot fail. -/
def carryOut (f : Agent → Effect β) : SceneProgram α σ β := do
  let e := f (← get).agent
  modify fun x => { x with agent := e.agent, bus := x.bus.emitAll e.events }
  return e.answer

/-- Goes on if the agent is in the given state, and refuses otherwise. -/
def expect (state : AgentState) (operation : AgentOperation) : SceneProgram α σ Unit := do
  let a := (← get).agent
  unless a.state = state do throw (.wrongState a.id operation a.state)

/-- Starts the leg that the agent has come to. -/
def startLeg (now : Time) : SceneProgram α σ Transition := do
  match (← get).agent.leg? with
  | some ⟨mode, some route⟩ =>
    emit now fun _ => .departure mode
    change fun a => { a with routeIndex := 0, memo := ⟨none, some route.via⟩ }
    if route.isSameLink then
      change fun a => { a with state := .arriving }
      carryOut fun a => a.finishLeg now
    else
      let _ ← ask fun a => .depart a.vehicle a.link now
      change fun a => { a with state := .enRoute }
      return .enRoute
  | _ => carryOut fun a => a.remove .missingRoute now

/-- Ends an activity and starts the leg after it. -/
def endActivity (now : Time) : SceneProgram α σ Transition := do
  expect .atActivity .endActivity
  let a := (← get).agent
  match a.plan.activity? a.element with
  | some activity => emit now fun _ => .activityEnd activity.kind
  | none => pure ()
  change fun a => { a with element := a.element + 1, state := .departing }
  startLeg now

/-- Leaves a link and comes onto the next one. -/
def crossNode (next : LinkId) (now : Time) : SceneProgram α σ Unit := do
  expect .enRoute .crossNode
  change fun a => { a with state := .arriving }
  emit now fun a => .linkLeave a.vehicle.id
  change fun a =>
    { a with link := next, routeIndex := a.routeIndex + 1, memo := { a.memo with next := none } }
  let _ ← ask fun a => .enqueue a.vehicle next now
  change fun a => { a with state := .enRoute }
  emit now fun a => .linkEnter a.vehicle.id

/-- Takes the agent to its destination. -/
def arrive (now : Time) : SceneProgram α σ Transition := do
  expect .enRoute .arrive
  change fun a => { a with state := .arriving }
  carryOut fun a => a.finishLeg now

end SceneProgram

/-! ## What they do -/

/-- The scene after an effect on the agent and the queues. -/
def Scene.after {α σ β : Type} (x : Scene α σ) (done : Effect β × QueueNetwork α) : β × Scene α σ :=
  (done.1.answer, ⟨done.1.agent, done.2, x.bus.emitAll done.1.events⟩)

namespace SceneProgram

open Program

variable {α σ β : Type} (x : Scene α σ) (now : Time)

/-- A change concerns the agent only. -/
theorem run_change (f : Agent → Agent) :
    (change f).run x = (.ok (), { x with agent := f x.agent }) :=
  rfl

/-- What is told concerns the bus only. -/
theorem run_emit (kind : Agent → EventKind) :
    (emit now kind).run x =
      (.ok (), { x with bus := x.bus.emit (x.agent.event now (kind x.agent)) }) :=
  rfl

/-- What cannot fail is told and changes the agent. -/
theorem run_carryOut (f : Agent → Effect β) :
    (carryOut f).run x = x.after ((f x.agent).map Except.ok, x.queues) :=
  rfl

/-- Who is in another state is refused, and nothing has happened. -/
theorem run_expect (state : AgentState) (operation : AgentOperation) :
    (expect state operation).run x =
      if x.agent.state = state then (.ok (), x)
      else (.error (.wrongState x.agent.id operation x.agent.state), x) := by
  simp only [expect, run_bind, run_get]
  split <;> rfl

/-- What the queues refuse is refused, with whatever was done before. -/
theorem run_ask (p : Agent → QueueProgram α β) :
    (ask p).run x =
      match (p x.agent).run x.queues with
      | (.error e, queues) => (.error (.queue e), { x with queues })
      | (.ok b, queues) => (.ok b, { x with queues }) :=
  rfl

/-- The program starts a leg as the agent says. -/
theorem run_startLeg : (startLeg now).run x = x.after (x.agent.startLeg now x.queues) := by
  simp only [startLeg, run_bind, run_get, Agent.startLeg]
  rcases x.agent.leg? with _ | ⟨mode, _ | route⟩
  · rfl
  · rfl
  · simp only [run_bind, run_emit, run_change]
    cases hsame : route.isSameLink with
    | true =>
        simp only [if_true, run_bind, run_change, run_carryOut]
        rfl
    | false =>
        simp only [Bool.false_eq_true, if_false, run_bind, run_ask, QueueProgram.run_depart,
          Agent.vehicle]
        cases x.queues.depart ⟨x.agent.id.vehicle, x.agent.id⟩ x.agent.link now <;> rfl

/-- The program ends an activity as the agent says. -/
theorem run_endActivity :
    (endActivity now).run x = x.after (x.agent.endActivity now x.queues) := by
  simp only [endActivity, run_bind, run_expect, run_get, Agent.endActivity]
  by_cases hstate : x.agent.state = .atActivity
  · simp only [hstate, if_true]
    cases x.agent.plan.activity? x.agent.element with
    | none =>
        simp only [run_bind, run_change, run_startLeg]
        rfl
    | some activity =>
        simp only [run_bind, run_emit, run_change, run_startLeg]
        rfl
  · simp only [hstate, if_false]
    rfl

/-- The program crosses a node as the agent says. -/
theorem run_crossNode (next : LinkId) :
    (crossNode next now).run x = x.after (x.agent.crossNode next now x.queues) := by
  simp only [crossNode, run_bind, run_expect, Agent.crossNode]
  by_cases hstate : x.agent.state = .enRoute
  · simp only [hstate, if_true, run_change, run_emit, run_ask, QueueProgram.run_enqueue,
      Agent.vehicle]
    cases x.queues.enqueue ⟨x.agent.id.vehicle, x.agent.id⟩ next now <;> rfl
  · simp only [hstate, if_false]
    rfl

/-- The program arrives as the agent says. -/
theorem run_arrive : (arrive now).run x = x.after (x.agent.arrive now, x.queues) := by
  simp only [arrive, run_bind, run_expect, Agent.arrive]
  by_cases hstate : x.agent.state = .enRoute
  · simp only [hstate, if_true, run_change, run_carryOut]
    rfl
  · simp only [hstate, if_false]
    rfl

end SceneProgram

/-! ## Calls -/

/-- What can be asked of an agent. -/
inductive SceneCall where
  | endActivity
  | crossNode (next : LinkId)
  | arrive

namespace SceneCall

/-- What the agent is asked to do, for messages. -/
def operation : SceneCall → AgentOperation
  | .endActivity => .endActivity
  | .crossNode _ => .crossNode
  | .arrive => .arrive

/-- The state that the agent has to be in. -/
def state : SceneCall → AgentState
  | .endActivity => .atActivity
  | .crossNode _ => .enRoute
  | .arrive => .enRoute

/-- What is done in place. -/
def program {α σ : Type} (now : Time) : SceneCall → SceneProgram α σ Unit
  | .endActivity => do
    let _ ← SceneProgram.endActivity now
  | .crossNode next => SceneProgram.crossNode next now
  | .arrive => do
    let _ ← SceneProgram.arrive now

end SceneCall

/-- Carries out a call in place: whether it fails, and what is there afterwards. -/
def Scene.perform {α σ : Type} (x : Scene α σ) (now : Time) (c : SceneCall) :
    Except AgentError Unit × Scene α σ :=
  (c.program now).run x

/-- How a call fails, and what it leaves. -/
inductive Refusal {α σ : Type} (x : Scene α σ) (now : Time) :
    SceneCall → AgentError → Scene α σ → Prop where
  /-- The agent is in the wrong state, and nothing has happened yet. -/
  | wrongState {c} (h : x.agent.state ≠ c.state) :
      Refusal x now c (.wrongState x.agent.id c.operation x.agent.state) x
  /-- The agent has left its link, and there is no next one. -/
  | crossUnknown {next} (h : x.agent.state = .enRoute) (hnext : x.queues.link? next = none) :
      Refusal x now (.crossNode next) (.queue (.unknownLink next))
        { x with
          agent := { x.agent.crossed next with state := .arriving }
          bus := x.bus.emit (x.agent.event now (.linkLeave x.agent.vehicle.id)) }
  /-- The agent has left its link, and the next one is full. -/
  | crossFull {next q} (h : x.agent.state = .enRoute) (hnext : x.queues.link? next = some q)
      (hfull : q.hasSpace = false) :
      Refusal x now (.crossNode next) (.queue (.storageExhausted next))
        { x with
          agent := { x.agent.crossed next with state := .arriving }
          bus := x.bus.emit (x.agent.event now (.linkLeave x.agent.vehicle.id)) }
  /-- The agent has left its activity and begun the leg, and its link is not known. -/
  | departUnknown {mode route} (h : x.agent.state = .atActivity)
      (hleg : x.agent.plan.leg? (x.agent.element + 1) = some ⟨mode, some route⟩)
      (hroute : route.isSameLink = false) (hlink : x.queues.link? x.agent.link = none) :
      Refusal x now .endActivity (.queue (.unknownLink x.agent.link))
        { x with
          agent := { x.agent.departed route with state := .departing }
          bus := x.bus.emitAll
            ((x.agent.plan.activity? x.agent.element).toList.map (fun activity =>
                x.agent.event now (.activityEnd activity.kind)) ++
              [x.agent.event now (.departure mode)]) }

/-! ## When they fail -/

section Fails

open Program

variable {α σ : Type} {x y : Scene α σ} {now : Time} {e : AgentError}

namespace Agent

variable {a : Agent} {n : QueueNetwork α} {mode : Mode} {route : Route}

/-- On an unknown link a leg is begun and not continued. -/
theorem startLeg_of_unknown (hleg : a.leg? = some ⟨mode, some route⟩)
    (hroute : route.isSameLink = false) (hlink : n.link? a.link = none) :
    a.startLeg now n =
      (⟨{ a with routeIndex := 0, memo := ⟨none, some route.via⟩ }, [a.event now (.departure mode)],
        .error (.queue (.unknownLink a.link))⟩, n) := by
  have hdepart : n.depart a.vehicle a.link now = .error (.unknownLink a.link) :=
    QueueNetwork.depart_eq_error_iff.2 ⟨hlink, rfl⟩
  simp only [vehicle] at hdepart
  simp only [startLeg, hleg, hroute, Bool.false_eq_true, if_false, vehicle, hdepart]

/-- Nothing else keeps a leg from being begun. -/
theorem startLeg_error (h : (a.startLeg now n).1.answer = .error e) :
    ∃ mode route, a.leg? = some ⟨mode, some route⟩ ∧ route.isSameLink = false ∧
      n.link? a.link = none := by
  unfold startLeg at h
  rcases hleg : a.leg? with _ | ⟨mode, _ | route⟩
  · rw [hleg] at h
    cases h
  · rw [hleg] at h
    cases h
  · rw [hleg] at h
    cases hsame : route.isSameLink with
    | true =>
        simp only [hsame, if_true] at h
        cases h
    | false =>
        simp only [hsame, Bool.false_eq_true, if_false] at h
        split at h
        · rename_i hdepart
          exact ⟨mode, route, rfl, hsame, (QueueNetwork.depart_eq_error_iff.1 hdepart).1⟩
        · cases h

/-- Only who is on a link crosses a node. -/
theorem crossNode_wrongState (h : a.state ≠ .enRoute) (next : LinkId) :
    a.crossNode next now n = (a.refused .crossNode, n) := by
  rw [crossNode, if_neg h]

/-- A vehicle that cannot enter the next link has left its own. -/
theorem crossNode_refused {next : LinkId} {refusal : QueueError} (h : a.state = .enRoute)
    (henter : n.enqueue a.vehicle next now = .error refusal) :
    a.crossNode next now n =
      (⟨{ a.crossed next with state := .arriving }, [a.event now (.linkLeave a.vehicle.id)],
        .error (.queue refusal)⟩, n) := by
  rw [crossNode, if_pos h, henter]
  rfl

end Agent

namespace Scene

/-- Ending an activity in place fails exactly when the operation of the agent does, and leaves what
that answers. -/
theorem perform_endActivity_eq_error_iff :
    x.perform now .endActivity = (.error e, y) ↔
      x.after (x.agent.endActivity now x.queues) = (.error e, y) := by
  rw [← SceneProgram.run_endActivity]
  exact run_drop_eq_error_iff

/-- Crossing a node in place does what the operation of the agent answers. -/
theorem perform_crossNode (next : LinkId) :
    x.perform now (.crossNode next) = x.after (x.agent.crossNode next now x.queues) :=
  SceneProgram.run_crossNode x now next

/-- Arriving in place fails exactly when the operation of the agent does, and leaves what that
answers. -/
theorem perform_arrive_eq_error_iff :
    x.perform now .arrive = (.error e, y) ↔
      x.after (x.agent.arrive now, x.queues) = (.error e, y) := by
  rw [← SceneProgram.run_arrive]
  exact run_drop_eq_error_iff

/-- Ending an activity fails in one of the two ways: in the wrong state, or on a link that is not
known. -/
theorem refusal_of_endActivity (h : x.perform now .endActivity = (.error e, y)) :
    Refusal x now .endActivity e y := by
  rw [perform_endActivity_eq_error_iff] at h
  by_cases hstate : x.agent.state = .atActivity
  · simp only [Agent.endActivity, hstate, if_true] at h
    rcases Agent.startLeg_error (congrArg Prod.fst h) with ⟨mode, route, hleg, hroute, hlink⟩
    rw [Agent.startLeg_of_unknown hleg hroute hlink] at h
    cases h
    exact .departUnknown hstate hleg hroute hlink
  · rw [Agent.endActivity_wrongState hstate] at h
    cases h
    exact .wrongState hstate

/-- Crossing a node fails in one of the three ways: in the wrong state, or because the next link is
not known or full. -/
theorem refusal_of_crossNode {next : LinkId}
    (h : x.perform now (.crossNode next) = (.error e, y)) :
    Refusal x now (.crossNode next) e y := by
  rw [perform_crossNode] at h
  by_cases hstate : x.agent.state = .enRoute
  · rcases henter : x.queues.enqueue x.agent.vehicle next now with refusal | ⟨exit, queues⟩
    · rw [Agent.crossNode_refused hstate henter] at h
      cases h
      rcases QueueNetwork.enqueue_eq_error_iff.1 henter with ⟨hnext, rfl⟩ | ⟨q, hnext, hfull, rfl⟩
      · exact .crossUnknown hstate hnext
      · exact .crossFull hstate hnext hfull
    · rw [Agent.crossNode, if_pos hstate, henter] at h
      cases h
  · rw [Agent.crossNode_wrongState hstate] at h
    cases h
    exact .wrongState hstate

/-- Arriving fails in the wrong state only. -/
theorem refusal_of_arrive (h : x.perform now .arrive = (.error e, y)) :
    Refusal x now .arrive e y := by
  rw [perform_arrive_eq_error_iff] at h
  by_cases hstate : x.agent.state = .enRoute
  · rw [Agent.arrive, if_pos hstate] at h
    cases h
  · rw [Agent.arrive_wrongState hstate] at h
    cases h
    exact .wrongState hstate

/-- What a refusal says happens. -/
theorem perform_of_refusal {c : SceneCall} (h : Refusal x now c e y) :
    x.perform now c = (.error e, y) := by
  cases h with
  | wrongState hstate =>
      cases c with
      | endActivity =>
          rw [perform_endActivity_eq_error_iff, Agent.endActivity_wrongState hstate]
          rfl
      | crossNode next =>
          rw [perform_crossNode, Agent.crossNode_wrongState hstate]
          rfl
      | arrive =>
          rw [perform_arrive_eq_error_iff, Agent.arrive_wrongState hstate]
          rfl
  | crossUnknown hstate hnext =>
      rw [perform_crossNode, Agent.crossNode_refused hstate
        (QueueNetwork.enqueue_eq_error_iff.2 (.inl ⟨hnext, rfl⟩))]
      rfl
  | crossFull hstate hnext hfull =>
      rw [perform_crossNode, Agent.crossNode_refused hstate
        (QueueNetwork.enqueue_eq_error_iff.2 (.inr ⟨_, hnext, hfull, rfl⟩))]
      rfl
  | departUnknown hstate hleg hroute hlink =>
      have hstart : Agent.startLeg
          { x.agent with element := x.agent.element + 1, state := .departing } now x.queues = _ :=
        Agent.startLeg_of_unknown hleg hroute hlink
      rw [perform_endActivity_eq_error_iff, Agent.endActivity, if_pos hstate, hstart]
      rfl

end Scene

/-- The queues stay as they were. -/
theorem Refusal.queues_eq {c : SceneCall} (h : Refusal x now c e y) : y.queues = x.queues := by
  cases h <;> rfl

/-- In the wrong state everything stays as it was. -/
theorem Refusal.eq_of_wrongState {c : SceneCall} {id : AgentId} {operation : AgentOperation}
    {state : AgentState} (h : Refusal x now c (.wrongState id operation state) y) : y = x := by
  cases h
  rfl

/-- A call to an agent fails exactly in the ways of `Refusal`.  A failure leaves the queues as they
were, and in the wrong state everything else as well. -/
theorem Scene.fails_iff (x y : Scene α σ) (now : Time) (c : SceneCall) (e : AgentError) :
    (x.perform now c = (.error e, y) ↔ Refusal x now c e y) ∧
      (x.perform now c = (.error e, y) → y.queues = x.queues ∧
        ∀ id operation state, e = .wrongState id operation state → y = x) := by
  have hiff : x.perform now c = (.error e, y) ↔ Refusal x now c e y := by
    refine ⟨fun h => ?_, perform_of_refusal⟩
    cases c with
    | endActivity => exact refusal_of_endActivity h
    | crossNode next => exact refusal_of_crossNode h
    | arrive => exact refusal_of_arrive h
  refine ⟨hiff, fun h => ⟨(hiff.1 h).queues_eq, ?_⟩⟩
  rintro id operation state rfl
  exact (hiff.1 h).eq_of_wrongState

end Fails

/-! ## Between two links -/

namespace Commuter

/-- A driver on the first of two roads, while another vehicle stands on the second. -/
def blocked : Scene Float Unit :=
  { agent :=
      { id := ⟨0⟩
        person := "driver"
        plan :=
          ⟨[.activity { kind := "home", link := ⟨0⟩ }, .leg ⟨.car, some ⟨⟨0⟩, [⟨1⟩], ⟨0⟩⟩⟩,
            .activity { kind := "work", link := ⟨0⟩ }]⟩
        strategy := .followRoute
        state := .enRoute
        element := 1
        link := ⟨0⟩
        departure := .zero
        memo := { via := some [⟨1⟩] } }
    queues := (QueueHistory.of (.ofNetwork net {}) [.enqueue ⟨⟨9⟩, ⟨9⟩⟩ ⟨1⟩ .zero]).queues
    bus := {} }

end Commuter

/-- A driver that is sent onto a full link is refused, but it has left its own link by then, and has
told of it. -/
theorem Scene.refused_after_moving :
    (Commuter.blocked.perform (.ofSecs 10) (.crossNode ⟨1⟩)).1 =
        .error (.queue (.storageExhausted ⟨1⟩)) ∧
      (Commuter.blocked.perform (.ofSecs 10) (.crossNode ⟨1⟩)).2.agent ≠ Commuter.blocked.agent ∧
      (Commuter.blocked.perform (.ofSecs 10) (.crossNode ⟨1⟩)).2.bus.pending ≠
        Commuter.blocked.bus.pending := by
  have hspace : (Commuter.blocked.queues.link? ⟨1⟩).map LinkQueue.hasSpace = some false := by
    decide +kernel
  rcases Option.map_eq_some_iff.1 hspace with ⟨q, hq, hfull⟩
  rw [perform_of_refusal (.crossFull rfl hq hfull)]
  refine ⟨rfl, ?_, ?_⟩
  · intro h
    exact absurd (congrArg Agent.state h) (by decide)
  · decide

end TrafficQueue
