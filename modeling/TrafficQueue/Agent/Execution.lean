import TrafficQueue.Agent.Choice
import TrafficQueue.Queue.Network

/-!
# Carrying out a plan

The operations by which an agent ends an activity, starts a leg, crosses a node, arrives and is
taken out.  Each answers with the agent after it and the events that it emits.

Main results: `Agent.remove_events` and `Agent.arrive_wrongState`, and for the whole day
`Agent.endActivity_wrongState`.
-/

namespace TrafficQueue

/-- Operations that are tied to a state. -/
inductive AgentOperation where
  | endActivity | crossNode | arrive
deriving DecidableEq

/-- The operation in words, for messages. -/
def AgentOperation.text : AgentOperation → String
  | .endActivity => "end an activity"
  | .crossNode => "cross a node"
  | .arrive => "arrive"

/-- Why an operation of an agent is refused. -/
inductive AgentError where
  | wrongState (agent : AgentId) (operation : AgentOperation) (state : AgentState)
  | queue (e : QueueError)
deriving DecidableEq

/-- What is told of a refusal. -/
def AgentError.message : AgentError → String
  | .wrongState agent operation state =>
    agent.text ++ " cannot " ++ operation.text ++ " while " ++ state.text
  | .queue e => e.message

/-- What an operation of an agent brings about. -/
structure Effect (α : Type) where
  agent : Agent
  /-- The events emitted, in order. -/
  events : List Event := []
  answer : α

namespace Effect

/-- The effect with events before its own. -/
def after {α : Type} (earlier : List Event) (e : Effect α) : Effect α :=
  { e with events := earlier ++ e.events }

/-- The effect with another answer. -/
def map {α β : Type} (f : α → β) (e : Effect α) : Effect β :=
  { agent := e.agent, events := e.events, answer := f e.answer }

end Effect

namespace Agent

/-- The answer of an operation in the wrong state: nothing happens. -/
def refused {β : Type} (a : Agent) (operation : AgentOperation) : Effect (Except AgentError β) :=
  { agent := a, answer := .error (.wrongState a.id operation a.state) }

/-! ## Activities and legs -/

/-- Finds out when the first activity ends. -/
def schedule (a : Agent) (now : Time) : Transition × Agent :=
  match a.plan.activity? 0 with
  | none => (.resting, a)
  | some first =>
    let departure := first.departure now
    let next : Transition :=
      if 1 < a.plan.length ∧ departure ≠ .never then .scheduled departure else .resting
    (next, { a with departure })

/-- Takes the agent out of the simulation; its vehicle has to be off the network. -/
def remove (a : Agent) (reason : StuckReason) (now : Time) : Effect Transition :=
  { agent := { a with state := .removed (.stuck reason), memo := {} }
    events := [a.event now (.stuck reason)]
    answer := .stuck reason }

/-- Starts the activity that the agent has reached; after the last one its day is complete. -/
def startActivity (a : Agent) (activity : Activity) (now : Time) : Effect Transition :=
  let events := [a.event now (.activityStart activity.kind)]
  if a.plan.length ≤ a.element + 1 then
    { agent := { a with departure := .never, state := .removed .completed }
      events
      answer := .completed }
  else
    let departure := activity.departure now
    { agent := { a with departure, state := .atActivity }
      events
      answer := if departure = .never then .resting else .scheduled departure }

/-- Ends the leg on the agent's link and goes on to the activity after it. -/
def finishLeg (a : Agent) (now : Time) : Effect Transition :=
  match a.leg? with
  | some ⟨mode, some route⟩ =>
    if route.destination = a.link then
      let next := { a with element := a.element + 1, memo := {} }
      let effect :=
        match next.plan.activity? next.element with
        | some activity => next.startActivity activity now
        | none => next.remove .inconsistentDestination now
      effect.after [a.event now (.arrival mode)]
    else a.remove .inconsistentDestination now
  | _ => a.remove .inconsistentDestination now

section Queues

variable {α : Type}

/-- Starts the leg at the agent's position in the plan. -/
def startLeg (a : Agent) (now : Time) (queues : QueueNetwork α) :
    Effect (Except AgentError Transition) × QueueNetwork α :=
  match a.leg? with
  | some ⟨mode, some route⟩ =>
    let started := [a.event now (.departure mode)]
    let a := { a with routeIndex := 0, memo := ⟨none, some route.via⟩ }
    if route.isSameLink then
      (({ a with state := .arriving }.finishLeg now).map Except.ok |>.after started, queues)
    else
      match queues.depart a.vehicle a.link now with
      | .error e => (⟨a, started, .error (.queue e)⟩, queues)
      | .ok (_, queues) => (⟨{ a with state := .enRoute }, started, .ok .enRoute⟩, queues)
  | _ => ((a.remove .missingRoute now).map Except.ok, queues)

/-- Leaves the current activity and starts the leg after it. -/
def endActivity (a : Agent) (now : Time) (queues : QueueNetwork α) :
    Effect (Except AgentError Transition) × QueueNetwork α :=
  if a.state = .atActivity then
    let ended := (a.plan.activity? a.element).toList.map fun activity =>
      a.event now (.activityEnd activity.kind)
    let (effect, queues) :=
      { a with element := a.element + 1, state := .departing }.startLeg now queues
    (effect.after ended, queues)
  else (a.refused .endActivity, queues)

/-! ## Moving -/

/-- Moves on to the next link; the agent's vehicle has to be released towards it. -/
def crossNode (a : Agent) (next : LinkId) (now : Time) (queues : QueueNetwork α) :
    Effect (Except AgentError Unit) × QueueNetwork α :=
  if a.state = .enRoute then
    let left := a.event now (.linkLeave a.vehicle.id)
    let moved :=
      { a with
        state := .arriving
        link := next
        routeIndex := a.routeIndex + 1
        memo := { a.memo with next := none } }
    match queues.enqueue a.vehicle next now with
    | .error e => (⟨moved, [left], .error (.queue e)⟩, queues)
    | .ok (_, queues) =>
      let entered := moved.event now (.linkEnter a.vehicle.id)
      (⟨{ moved with state := .enRoute }, [left, entered], .ok ()⟩, queues)
  else (a.refused .crossNode, queues)

end Queues

/-- Arrives at the end of the leg; the agent's vehicle has to be released off the network. -/
def arrive (a : Agent) (now : Time) : Effect (Except AgentError Transition) :=
  if a.state = .enRoute then ({ a with state := .arriving }.finishLeg now).map Except.ok
  else a.refused .arrive

/-! ## Changing the plan -/

/-- Takes over another plan at the same position. -/
def adopt (a : Agent) (plan : Plan) : Agent := { a with plan, memo := {} }

/-- Notes the time of a change of route. -/
def markReplanned (a : Agent) (now : Time) : Agent := { a with lastReplan := now }

/-! ## Small laws -/

@[simp] theorem remove_events (a : Agent) (reason : StuckReason) (now : Time) :
    (a.remove reason now).events = [⟨now, a.id, a.link, .stuck reason⟩] := rfl

@[simp] theorem remove_state (a : Agent) (reason : StuckReason) (now : Time) :
    (a.remove reason now).agent.state = .removed (.stuck reason) := rfl

/-- Only who is on a link arrives. -/
theorem arrive_wrongState {a : Agent} (h : a.state ≠ .enRoute) (now : Time) :
    a.arrive now = { agent := a, answer := .error (.wrongState a.id .arrive a.state) } := by
  simp only [arrive, h, if_false]
  rfl

/-- Only who is at an activity ends it. -/
theorem endActivity_wrongState {α : Type} {a : Agent} (h : a.state ≠ .atActivity) (now : Time)
    (queues : QueueNetwork α) :
    a.endActivity now queues =
      ({ agent := a, answer := .error (.wrongState a.id .endActivity a.state) }, queues) := by
  simp only [endActivity, h, if_false]
  rfl

end Agent

end TrafficQueue
