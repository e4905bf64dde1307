import TrafficQueue.Ident
import TrafficQueue.Queue.Flow
import TrafficQueue.Time

/-!
# The queue of a link

Vehicles on a link stand in the order in which they entered, each with the time before which it
cannot leave.  Vehicles that start their trip on a full link wait beside it and take no room until
they are admitted.

Main results: `LinkQueue.queue_push` and `LinkQueue.vehicles_admitWaiting`, vehicles enter at the
back and in the order of waiting.
-/

namespace TrafficQueue

/-- A vehicle and who drives it. -/
structure Vehicle where
  id : VehicleId
  driver : AgentId
deriving DecidableEq

/-- A vehicle on a link, and the time before which it does not leave. -/
structure QueueEntry where
  vehicle : Vehicle
  enqueued : Time
  /-- Fixed on entry. -/
  earliestExit : Time
deriving DecidableEq

/-- The vehicles on a link and those that wait to get onto it. -/
structure LinkQueue (α : Type) where
  id : LinkId
  /-- Seconds from entry to the earliest exit. -/
  freeFlow : Nat
  flow : FlowBucket α
  storage : Storage
  queue : List QueueEntry := []
  waiting : List Vehicle := []

namespace LinkQueue

variable {α : Type}

/-- Whether a vehicle may come onto the link. -/
def hasSpace (q : LinkQueue α) : Bool := q.storage.hasSpace

/-- Who is to leave next. -/
def head? (q : LinkQueue α) : Option QueueEntry := q.queue.head?

/-- The vehicles in the queue, front first. -/
def vehicles (q : LinkQueue α) : List Vehicle := q.queue.map QueueEntry.vehicle

/-- What a vehicle that enters now gets. -/
def entry (q : LinkQueue α) (v : Vehicle) (now : Time) : QueueEntry :=
  ⟨v, now, now.offset q.freeFlow⟩

/-- A vehicle enters at the back. -/
def push (now : Time) (q : LinkQueue α) (v : Vehicle) : LinkQueue α :=
  { q with storage := q.storage.occupy, queue := q.queue ++ [q.entry v now] }

/-- A vehicle waits behind the others that wait. -/
def wait (q : LinkQueue α) (v : Vehicle) : LinkQueue α := { q with waiting := q.waiting ++ [v] }

/-- The vehicles that are admitted next: as many as there is room for. -/
def admissible (q : LinkQueue α) : List Vehicle := q.waiting.take q.storage.room

/-- Admits waiting vehicles while there is room. -/
def admitWaiting (q : LinkQueue α) (now : Time) : LinkQueue α :=
  match q.waiting with
  | [] => q
  | _ :: _ => q.admissible.foldl (push now) { q with waiting := q.waiting.drop q.storage.room }

/-- Takes the head off the queue without spending flow. -/
def evict (q : LinkQueue α) : Option Vehicle × LinkQueue α :=
  match q.queue with
  | [] => (none, q)
  | e :: es => (some e.vehicle, { q with queue := es, storage := q.storage.release })

variable [FlowNumber α]

/-- The start of a step: the bucket is refilled and waiting vehicles are admitted. -/
def update (now : Time) (q : LinkQueue α) : LinkQueue α :=
  { q with flow := q.flow.refill }.admitWaiting now

/-- Whether the head may leave as far as this link is concerned. -/
def headReady (q : LinkQueue α) (now : Time) : Bool :=
  match q.queue with
  | [] => false
  | e :: _ => e.earliestExit ≤ now && q.flow.isOpen

/-- Takes the head off the queue and spends one unit of flow. -/
def release (q : LinkQueue α) : Option Vehicle × LinkQueue α :=
  match q.queue with
  | [] => (none, q)
  | e :: es =>
    (some e.vehicle, { q with queue := es, storage := q.storage.release, flow := q.flow.spend })

omit [FlowNumber α]

@[simp] theorem queue_push (q : LinkQueue α) (v : Vehicle) (now : Time) :
    (push now q v).queue = q.queue ++ [q.entry v now] := rfl

@[simp] theorem waiting_push (q : LinkQueue α) (v : Vehicle) (now : Time) :
    (push now q v).waiting = q.waiting := rfl

@[simp] theorem vehicles_push (q : LinkQueue α) (v : Vehicle) (now : Time) :
    (push now q v).vehicles = q.vehicles ++ [v] := by
  simp [vehicles, entry]

/-- Vehicles that come one after the other stand in that order, and nobody is taken from those who
wait. -/
theorem vehicles_foldl_push (q : LinkQueue α) (vs : List Vehicle) (now : Time) :
    (vs.foldl (push now) q).vehicles = q.vehicles ++ vs ∧
      (vs.foldl (push now) q).waiting = q.waiting := by
  induction vs generalizing q with
  | nil => simp
  | cons v vs ih =>
    obtain ⟨h₁, h₂⟩ := ih (push now q v)
    refine ⟨?_, h₂⟩
    rw [List.foldl_cons, h₁, vehicles_push, List.append_assoc, List.singleton_append]

/-- Admission moves the first waiting vehicles to the back of the queue, in their order. -/
theorem vehicles_admitWaiting (q : LinkQueue α) (now : Time) :
    (q.admitWaiting now).vehicles = q.vehicles ++ q.admissible ∧
      q.admissible ++ (q.admitWaiting now).waiting = q.waiting := by
  unfold admitWaiting
  split
  · rename_i h
    simp [admissible, h]
  · obtain ⟨h₁, h₂⟩ := vehicles_foldl_push
      { q with waiting := q.waiting.drop q.storage.room } q.admissible now
    refine ⟨h₁, ?_⟩
    rw [h₂]
    exact List.take_append_drop _ _

end LinkQueue

end TrafficQueue
