import TrafficQueue.Event.Basic

/-!
# The event bus

Events are kept until they are dispatched; then every handler gets every event, in the order in
which they were emitted.  Handlers act on a state of their own, of a type `σ` that is up to those
who listen, so they cannot reach into the simulation.

Main results: `EventBus.flush_state`, what the handlers get, and `EventBus.flush_pending`, nothing
is left.
-/

namespace TrafficQueue

/-- A listener: what it does with an event, and what it does when the run is over. -/
structure Handler (σ : Type) where
  onEvent : Event → σ → σ
  onFinish : σ → σ := id

/-- Why a handler is not registered. -/
inductive BusError where
  | sealed
deriving DecidableEq

/-- What is told of a refused registration. -/
def BusError.message : BusError → String
  | .sealed => "event handlers must be registered before the run starts"

/-- Handlers, and the events that wait to be dispatched to them. -/
structure EventBus (σ : Type) where
  handlers : List (Handler σ) := []
  pending : Array Event := #[]
  isSealed : Bool := false
  /-- Events dispatched so far. -/
  dispatched : Nat := 0

namespace EventBus

variable {σ : Type}

/-- At first nobody listens. -/
instance : Inhabited (EventBus σ) := ⟨{}⟩

/-- Registers a handler behind the ones before it; a sealed bus takes no more. -/
def add (b : EventBus σ) (h : Handler σ) : Except BusError (EventBus σ) :=
  if b.isSealed then .error .sealed else .ok { b with handlers := b.handlers ++ [h] }

/-- Closes registration. -/
def close (b : EventBus σ) : EventBus σ := { b with isSealed := true }

/-- Keeps an event for the next dispatch.  Events are emitted in the order of their times; the bus
does not keep the time of the last one, by which a debug build would check that. -/
def emit (b : EventBus σ) (e : Event) : EventBus σ := { b with pending := b.pending.push e }

/-- Keeps events for the next dispatch, in order. -/
def emitAll (b : EventBus σ) (es : List Event) : EventBus σ := es.foldl emit b

/-- Gives an event to handlers one after the other. -/
def deliver (handlers : List (Handler σ)) (x : σ) (e : Event) : σ :=
  handlers.foldl (fun x h => h.onEvent e x) x

/-- Dispatches what is kept: every event goes to every handler. -/
def flush (b : EventBus σ) (x : σ) : EventBus σ × σ :=
  ({ b with pending := #[], dispatched := b.dispatched + b.pending.size },
    b.pending.foldl (deliver b.handlers) x)

/-- Dispatches what is kept and lets every handler finish. -/
def finish (b : EventBus σ) (x : σ) : EventBus σ × σ :=
  let (b, x) := b.flush x
  (b, b.handlers.foldl (fun x h => h.onFinish x) x)

/-- The bus in short. -/
def summary (b : EventBus σ) : String :=
  "EventBus \x7b handlers: " ++ toString b.handlers.length ++ ", pending: " ++
    toString b.pending.size ++ ", sealed: " ++ toString b.isSealed ++ ", dispatched: " ++
    toString b.dispatched ++ " \x7d"

@[simp] theorem pending_emit (b : EventBus σ) (e : Event) :
    (b.emit e).pending.toList = b.pending.toList ++ [e] := by
  simp [emit]

@[simp] theorem handlers_emit (b : EventBus σ) (e : Event) : (b.emit e).handlers = b.handlers := rfl

@[simp] theorem dispatched_emit (b : EventBus σ) (e : Event) :
    (b.emit e).dispatched = b.dispatched := rfl

/-- Events are kept in the order in which they are emitted. -/
theorem pending_emitAll (b : EventBus σ) (es : List Event) :
    (b.emitAll es).pending.toList = b.pending.toList ++ es := by
  induction es generalizing b with
  | nil => simp [emitAll]
  | cons e es ih =>
    show ((b.emit e).emitAll es).pending.toList = _
    rw [ih, pending_emit, List.append_assoc, List.singleton_append]

/-- Nothing is kept after a dispatch. -/
@[simp] theorem flush_pending (b : EventBus σ) (x : σ) : (b.flush x).1.pending = #[] := rfl

/-- A dispatch gives the kept events to the handlers in the order in which they were emitted. -/
theorem flush_state (b : EventBus σ) (x : σ) :
    (b.flush x).2 = b.pending.toList.foldl (deliver b.handlers) x := by
  simp [flush]

@[simp] theorem flush_dispatched (b : EventBus σ) (x : σ) :
    (b.flush x).1.dispatched = b.dispatched + b.pending.toList.length := by
  simp [flush]

end EventBus

end TrafficQueue
